import Scll.Framework.SlotTable
import Scll.Crypto

/-! # Backend state

    The key table and the two session tables of the software backend, and the
    opaque handles that index them. A key slot carries the proof that its
    length fits its kind; a session slot holds keys of a length its cipher has.
    The handles are bare slot numbers, copied freely.
-/

namespace Scll

open BlockMode

def MAX_KEY_SLOTS : ℕ := 16
def MAX_SESSION_SLOTS : ℕ := 16

/-! ### Handles -/

/-- An index into the key table. -/
structure KeyHandle where
  index : UInt16
  deriving DecidableEq, Repr

/-- An index into the SCP03 session table. -/
structure Scp03Session where
  index : UInt16
  deriving DecidableEq, Repr

/-- An index into the SCP02 session table. -/
structure Scp02Session where
  index : UInt16
  deriving DecidableEq, Repr

/-! ### Keys -/

/-- Algorithm and length class of a key. -/
inductive KeyKind where
  | aes128
  | aes192
  | aes256
  /-- 3DES double-length (SCP02). -/
  | tripleDesDouble
  deriving DecidableEq, Repr

/-- The plaintext key length in octets. -/
def KeyKind.clearLen : KeyKind → ℕ
  | .aes192 => 24
  | .aes256 => 32
  | .aes128 | .tripleDesDouble => 16

/-- One stored key. -/
structure KeySlot where
  kind : KeyKind
  bytes : List UInt8
  /-- The length class is the key's own. -/
  fits : bytes.length = kind.clearLen

/-! ### Sessions -/

/-- SCP03 size mode: 8- or 16-octet challenges, cryptograms and MACs. -/
inductive ScpMode where
  | s8
  | s16
  deriving DecidableEq, Repr

/-- b4 of the `i` parameter selects the mode. -/
def ScpMode.fromI (iParam : UInt8) : ScpMode := if iParam &&& 0x08 ≠ 0 then .s16 else .s8

/-- Challenge / cryptogram length. -/
def ScpMode.fieldLen : ScpMode → ℕ
  | .s8 => 8
  | .s16 => 16

/-- Length of the MAC appended to commands and responses. -/
def ScpMode.macLen (mode : ScpMode) : ℕ := mode.fieldLen

/-- KDF `L` for challenges and cryptograms. -/
def ScpMode.lBits : ScpMode → UInt16
  | .s8 => 0x0040
  | .s16 => 0x0080

theorem ScpMode.macLen_le (mode : ScpMode) : mode.macLen ≤ 16 := by
  cases mode <;> decide

/-- Derived SCP03 session state for one open channel. -/
structure Scp03SessionSlot where
  sEnc : AesKey
  sMac : AesKey
  sRmac : AesKey
  mode : ScpMode
  /-- MAC chaining value: zero at open, then the full C-MAC of the last command. -/
  chain : Block 16
  /-- Command counter; `0` until the first post-authentication command. -/
  counter : UInt32
  /-- Security level, latched from the EXTERNAL AUTHENTICATE `P1`. -/
  level : UInt8
  /-- `false` until EXTERNAL AUTHENTICATE has been wrapped. -/
  authed : Bool

/-- Derived SCP02 session state for one open channel. -/
structure Scp02SessionSlot where
  sEnc : TdesKey
  sMac : TdesKey
  sRmac : TdesKey
  sDek : TdesKey
  /-- C-MAC chaining value: the C-MAC of the last wrapped command. -/
  icv : Block 8
  /-- `false` before the first command, when the ICV is zero. -/
  icvValid : Bool
  /-- R-MAC chaining value. -/
  ricv : Block 8
  /-- The current command, accumulated for the R-MAC. -/
  rmacBuf : List UInt8
  level : UInt8
  authed : Bool

/-- All mutable backend state. -/
structure BackendState (ρ : Type) where
  keys : SlotTable MAX_KEY_SLOTS KeySlot
  sessions : SlotTable MAX_SESSION_SLOTS Scp03SessionSlot
  scp02Sessions : SlotTable MAX_SESSION_SLOTS Scp02SessionSlot
  rng : ρ

/-- A backend with empty tables. -/
def BackendState.new {ρ : Type} (rng : ρ) : BackendState ρ where
  keys := .empty MAX_KEY_SLOTS KeySlot
  sessions := .empty MAX_SESSION_SLOTS Scp03SessionSlot
  scp02Sessions := .empty MAX_SESSION_SLOTS Scp02SessionSlot
  rng := rng

/-! ### Command octets -/

def EXTERNAL_AUTHENTICATE : UInt8 := 0x82

/-- The C-MAC'd class byte: the secure-messaging bit is set. -/
def secureCla (cla : UInt8) : UInt8 := cla ||| 0x04

/-- The data field after a command header, and what follows it (`Le`). -/
def commandData : List UInt8 → Except BackendError (List UInt8 × List UInt8)
  | [] => .ok ([], [])
  | lc :: rest =>
      if lc.toNat > rest.length then .error (cryptoErr "C-APDU Lc exceeds buffer")
      else .ok (rest.take lc.toNat, rest.drop lc.toNat)

/-- The transmitted `Lc`: the body and the MAC appended to it. -/
def lcPlusMac (bodyLen macLen : ℕ) : Except BackendError UInt8 :=
  if bodyLen + macLen ≤ 255 then .ok (UInt8.ofNat (bodyLen + macLen))
  else .error (cryptoErr "wrapped Lc exceeds short APDU")

/-- `push` into a bounded buffer of the backend. -/
def push (cap : ℕ) (v src : List UInt8) : Except BackendError (List UInt8) :=
  extend cap (cryptoErr "buffer overflow") v src

theorem commandData_eq_ok {rest data le : List UInt8} (h : commandData rest = .ok (data, le)) :
    (rest = [] ∧ data = [] ∧ le = []) ∨
    (rest = UInt8.ofNat data.length :: (data ++ le) ∧ data.length < 256) := by
  cases rest with
  | nil =>
    obtain ⟨rfl, rfl⟩ := Prod.mk.inj (Except.ok.inj h)
    exact .inl ⟨rfl, rfl, rfl⟩
  | cons lc rest =>
    have hlc := lc.toNat_lt
    rw [commandData] at h
    split at h
    · cases h
    · next hle =>
      obtain ⟨rfl, rfl⟩ := Prod.mk.inj (Except.ok.inj h)
      have hlen : (rest.take lc.toNat).length = lc.toNat := List.length_take_of_le (by omega)
      refine .inr ⟨?_, by omega⟩
      rw [hlen, UInt8.ofNat_toNat, List.take_append_drop]

theorem length_commandData {rest data le : List UInt8} (h : commandData rest = .ok (data, le)) :
    data.length ≤ 255 := by
  rcases commandData_eq_ok h with ⟨-, rfl, -⟩ | ⟨-, hlt⟩
  · simp
  · omega

theorem lcPlusMac_eq_ok {bodyLen macLen : ℕ} {lc : UInt8} :
    lcPlusMac bodyLen macLen = .ok lc ↔ bodyLen + macLen ≤ 255 ∧ lc.toNat = bodyLen + macLen := by
  unfold lcPlusMac
  split
  · next h =>
    have hnat : (UInt8.ofNat (bodyLen + macLen)).toNat = bodyLen + macLen := by
      rw [UInt8.toNat_ofNat']
      omega
    constructor
    · intro hok
      exact ⟨h, by rw [← Except.ok.inj hok, hnat]⟩
    · intro ⟨_, hlc⟩
      rw [← hnat] at hlc
      rw [UInt8.toNat_inj.mp hlc]
  · next h =>
    constructor
    · intro hok
      cases hok
    · intro ⟨h', _⟩
      exact absurd h' h

end Scll
