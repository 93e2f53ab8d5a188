import Scll.Backend.State

/-! # Plaintext commands

    The short C-APDUs that go through a secure channel, as the host writes them
    and as a card recovers them.
-/

namespace Scll

/-- A command as its plaintext: what the host asked for, what the card recovers. -/
structure Command where
  ins : UInt8
  p1 : UInt8
  p2 : UInt8
  data : List UInt8
  deriving DecidableEq, Repr

/-- A short C-APDU of ISO case 1, 3 or 4. -/
structure PlainCommand where
  cla : UInt8
  ins : UInt8
  p1 : UInt8
  p2 : UInt8
  data : List UInt8
  le : Option UInt8
  short : data.length ≤ 255
  /-- A header with `Le` alone (case 2) is not one of them. -/
  notCase2 : data = [] → le = none

namespace PlainCommand

/-- The octets after the header. -/
def tail (c : PlainCommand) : List UInt8 :=
  (if c.data = [] then [] else UInt8.ofNat c.data.length :: c.data) ++ c.le.toList

/-- The C-APDU. -/
def encode (c : PlainCommand) : List UInt8 := c.cla :: c.ins :: c.p1 :: c.p2 :: c.tail

/-- What the card is to recover. -/
def command (c : PlainCommand) : Command := ⟨c.ins, c.p1, c.p2, c.data⟩

theorem commandData_tail (c : PlainCommand) : commandData c.tail = .ok (c.data, c.le.toList) := by
  have hshort := c.short
  unfold tail
  by_cases hdata : c.data = []
  · rw [if_pos hdata, c.notCase2 hdata, hdata]
    rfl
  · rw [if_neg hdata]
    have hlc : (UInt8.ofNat c.data.length).toNat = c.data.length := by
      rw [UInt8.toNat_ofNat']
      omega
    rw [List.cons_append, commandData, hlc, if_neg (by simp)]
    simp only [List.take_left, List.drop_left]

/-! ### Commands to run the model with -/

/-- EXTERNAL AUTHENTICATE at a security level. -/
def sampleExternalAuthenticate (level : UInt8) : PlainCommand :=
  ⟨0x84, 0x82, level, 0x00, [1, 2, 3, 4, 5, 6, 7, 8], none, by decide, by decide⟩

/-- GET STATUS, of case 4. -/
def sampleGetStatus : PlainCommand :=
  ⟨0x80, 0xF2, 0x80, 0x02, [0x4F, 0x00], some 0, by decide, by decide⟩

/-- DELETE, a bare header. -/
def sampleDelete : PlainCommand := ⟨0x80, 0xE4, 0x00, 0x00, [], none, by decide, by decide⟩

end PlainCommand

theorem secureCla_and (cla : UInt8) : secureCla cla &&& 0x04 ≠ 0 := by
  have h : ∀ n : Fin 256, secureCla (UInt8.ofFin n) &&& 0x04 ≠ 0 := by decide +kernel
  exact h cla.toFin

end Scll
