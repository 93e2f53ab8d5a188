import Scll.Backend.Scp02Spec
import Scll.Command

/-! # Wrapping and the cases of a short command

    ISO 7816-4 has four short commands: a header with or without data, with or
    without `Le`. Wrapping is to set the secure bit of the class, put the MAC
    behind the data and leave the rest, `Le` included. The SCP03 wrapper does so
    except for a header with `Le` alone, whose `Le` it reads as `Lc`; the SCP02
    wrapper does so only for the commands without `Le`.
-/

namespace Scll

namespace ShortCases

open BlockMode

/-! ### Short commands -/

/-- A short C-APDU of any case. -/
structure ShortApdu where
  cla : UInt8
  ins : UInt8
  p1 : UInt8
  p2 : UInt8
  data : List UInt8
  le : Option UInt8
  short : data.length ≤ 255

/-- The octets after the header. -/
def ShortApdu.body (c : ShortApdu) : List UInt8 :=
  (if c.data = [] then [] else UInt8.ofNat c.data.length :: c.data) ++ c.le.toList

def ShortApdu.encode (c : ShortApdu) : List UInt8 := c.cla :: c.ins :: c.p1 :: c.p2 :: c.body

/-- A header with `Le` alone. -/
def ShortApdu.IsCase2 (c : ShortApdu) : Prop := c.data = [] ∧ c.le ≠ none

/-- Data and `Le` of the octets after a header. -/
def readBody : List UInt8 → Option (List UInt8 × Option UInt8)
  | [] => some ([], none)
  | [le] => some ([], some le)
  | lc :: rest =>
      -- zero announces an extended length
      if lc = 0 then none
      else if rest.length = lc.toNat then some (rest, none)
      else if rest.length = lc.toNat + 1 then some (rest.take lc.toNat, rest.getLast?)
      else none

/-- A C-APDU by the ISO case rules. -/
def decode : List UInt8 → Option (UInt8 × UInt8 × UInt8 × UInt8 × List UInt8 × Option UInt8)
  | cla :: ins :: p1 :: p2 :: body =>
      (readBody body).map fun (data, le) => (cla, ins, p1, p2, data, le)
  | _ => none

/-- Reading a data field with its length in front and `Le` behind. -/
theorem readBody_frame {lc : UInt8} {field : List UInt8} (le : Option UInt8) (hne : field ≠ [])
    (hlc : lc.toNat = field.length) : readBody (lc :: (field ++ le.toList)) = some (field, le) := by
  have hpos := List.length_pos_iff.mpr hne
  have hzero : lc ≠ 0 := by
    rintro rfl
    simp at hlc
    omega
  obtain ⟨b, bs, hfield⟩ := List.exists_cons_of_ne_nil (l := field ++ le.toList) (by simp [hne])
  unfold readBody
  rw [hfield]
  dsimp only
  rw [if_neg hzero, ← hfield]
  cases le with
  | none => simp [hlc]
  | some le =>
    rw [if_neg (by simp [hlc]), if_pos (by simp [hlc])]
    simp [hlc]

/-- What the wrappers take for data and `Le`: the same, but for case 2. -/
theorem commandData_body {c : ShortApdu} (h : ¬c.IsCase2) :
    commandData c.body = .ok (c.data, c.le.toList) := by
  have hshort := c.short
  unfold ShortApdu.body
  by_cases hdata : c.data = []
  · have hle : c.le = none := by
      by_contra hle
      exact h ⟨hdata, hle⟩
    rw [if_pos hdata, hle, hdata]
    rfl
  · rw [if_neg hdata]
    have hlc : (UInt8.ofNat c.data.length).toNat = c.data.length := by
      rw [UInt8.toNat_ofNat']
      omega
    rw [List.cons_append, commandData, hlc, if_neg (by simp)]
    simp only [List.take_left, List.drop_left]

/-- In case 2 they find nothing, or fail. -/
theorem commandData_case2 {c : ShortApdu} (h : c.IsCase2) {data le : List UInt8}
    (hdata : commandData c.body = .ok (data, le)) : data = [] ∧ le = [] := by
  obtain ⟨hnone, hle⟩ := h
  obtain ⟨b, hb⟩ := Option.ne_none_iff_exists'.mp hle
  unfold ShortApdu.body at hdata
  rw [if_pos hnone, hb] at hdata
  simp only [List.nil_append, Option.toList_some, commandData] at hdata
  split at hdata
  · cases hdata
  · obtain ⟨rfl, rfl⟩ := Prod.mk.inj (Except.ok.inj hdata)
    simp

/-- The wire command reads as the command with the secure bit set, `field` for
    its data and the same `Le`. -/
def Preserved (c : ShortApdu) (field : List UInt8) (r : Except BackendError (List UInt8)) : Prop :=
  ∃ out, r = .ok out ∧ decode out = some (secureCla c.cla, c.ins, c.p1, c.p2, field, c.le)

theorem decode_frame (cla ins p1 p2 lc : UInt8) (field : List UInt8) (le : Option UInt8)
    (hne : field ≠ []) (hlc : lc.toNat = field.length) :
    decode ([cla, ins, p1, p2, lc] ++ field ++ le.toList) =
      some (cla, ins, p1, p2, field, le) := by
  have hbody := readBody_frame le hne hlc
  rw [List.append_assoc]
  simp only [List.cons_append, List.nil_append, decode, hbody]
  rfl

/-- Reading back a command of the framer. -/
theorem decode_tailOctets (cla ins p1 p2 : UInt8) (le : Bool) {data : List UInt8}
    (hne : data ≠ []) (hlen : data.length ≤ 255) :
    decode (cla :: ins :: p1 :: p2 :: Capdu.tailOctets data le) =
      some (cla, ins, p1, p2, data, if le then some 0x00 else none) := by
  have hlc : (UInt8.ofNat data.length).toNat = data.length := by
    rw [UInt8.toNat_ofNat']
    omega
  have htail : Capdu.tailOctets data le = UInt8.ofNat data.length ::
      (data ++ (if le then some 0x00 else none : Option UInt8).toList) := by
    unfold Capdu.tailOctets
    rw [if_neg (by simpa using hne)]
    cases le with
    | false => rfl
    | true => rfl
  rw [htail, decode, readBody_frame _ hne hlc]
  rfl

section scp03

variable (P : Primitives) {ρ : Type}

/-- The transmitted body of a command. -/
def wireBody03 (slot : Scp03SessionSlot) (data : List UInt8) : List UInt8 :=
  if slot.level &&& SL_CENC ≠ 0 ∧ data ≠ [] then commandCipher P slot (slot.counter + 1) data
  else data

/-- The data field of a wrapped command: the body, encrypted or not, and the C-MAC. -/
def field03 (slot : Scp03SessionSlot) (c : ShortApdu) : List UInt8 :=
  let body := wireBody03 P slot c.data
  let lc := UInt8.ofNat (body.length + slot.mode.macLen)
  body ++
    (commandMac P slot [secureCla c.cla, c.ins, c.p1, c.p2, lc] body).val.take slot.mode.macLen

theorem commandBody_authed {slot : Scp03SessionSlot} (hauth : slot.authed = true)
    (hcount : slot.counter.toNat + 1 < 2 ^ 32) {ins p1 : UInt8} {data : List UInt8}
    (hlen : data.length ≤ 255) :
    commandBody P slot ins p1 data =
      .ok (wireBody03 P slot data, slot.counter + 1, slot.level) := by
  unfold commandBody wireBody03
  rw [if_pos hauth, checkedSucc, if_pos hcount, okOr_some, ok_bind]
  split
  · rw [encryptCommand_eq P hlen]
    rfl
  · rfl

/-- A wrap that has room for everything. -/
theorem wrapSlot_authed {slot : Scp03SessionSlot} (hauth : slot.authed = true)
    (hcount : slot.counter.toNat + 1 < 2 ^ 32) {cla ins p1 p2 : UInt8}
    {rest data le : List UInt8} (hdata : commandData rest = .ok (data, le))
    (hlen : data.length ≤ 255) (hle : le.length ≤ 1)
    (hfits : (wireBody03 P slot data).length + slot.mode.macLen ≤ 255) :
    ∃ out, wrapSlot P slot cla ins p1 p2 rest = .ok out :=
  wrapSlot_of_body P hdata (commandBody_authed P hauth hcount hlen) hle hfits

/-- SCP03: what is needed is a command that is not of case 2, and a counter that
    is not used up. -/
theorem preserved03_iff {st : BackendState ρ} {s : Scp03Session} {slot : Scp03SessionSlot}
    (hslot : st.sessions.get s.index.toNat = some slot) (hauth : slot.authed = true)
    (c : ShortApdu) (hfits : (wireBody03 P slot c.data).length + slot.mode.macLen ≤ 255) :
    Preserved c (field03 P slot c) (scp03WrapCommand P s c.encode st).1 ↔
      ¬c.IsCase2 ∧ slot.counter.toNat + 1 < 2 ^ 32 := by
  have hwrapped : ∀ out, (scp03WrapCommand P s c.encode st).1 = .ok out ↔
      ∃ slot', wrapSlot P slot c.cla c.ins c.p1 c.p2 c.body = .ok (out, slot') := by
    intro out
    unfold ShortApdu.encode scp03WrapCommand
    dsimp only
    rw [hslot]
    dsimp only
    cases wrapSlot P slot c.cla c.ins c.p1 c.p2 c.body with
    | error e => simp
    | ok r =>
      obtain ⟨out', slot'⟩ := r
      simp
  have hmacpos : 0 < slot.mode.macLen := by cases slot.mode <;> decide
  constructor
  · rintro ⟨out, hout, hdecode⟩
    obtain ⟨slot', hwrap⟩ := (hwrapped out).mp hout
    obtain ⟨data, le, body, counter, level, lc, hdata, hbody, -, hlc, rfl, -⟩ :=
      wrapSlot_ok P hwrap
    have hlen : data.length ≤ 255 := length_commandData hdata
    constructor
    · -- the wire command of a case 2 command has no `Le`
      intro hcase
      obtain ⟨-, rfl⟩ := commandData_case2 hcase hdata
      have hfield := length_commandMac P slot [secureCla c.cla, c.ins, c.p1, c.p2, lc] body
      have hframe := decode_frame (secureCla c.cla) c.ins c.p1 c.p2 lc (body ++ (commandMac P slot
          [secureCla c.cla, c.ins, c.p1, c.p2, lc] body).val.take slot.mode.macLen) none
        (by rw [← List.length_pos_iff, List.length_append, hfield]; omega)
        (by rw [List.length_append, hfield, hlc])
      rw [← List.append_assoc, Option.toList_none] at hframe
      rw [hframe] at hdecode
      simp only [Option.some.injEq, Prod.mk.injEq] at hdecode
      exact hcase.2 hdecode.2.2.2.2.2.symm
    -- the wrap succeeded, so the counter did not run out
    · rcases commandBody_ok P hlen hbody with ⟨hno, -⟩ | ⟨-, hcounter, -⟩
      · rw [hauth] at hno
        cases hno
      · rw [← hcounter]
        exact counter.toNat_lt
  · rintro ⟨hcase, hcount⟩
    obtain ⟨⟨out, slot'⟩, hwrap⟩ := wrapSlot_authed P hauth hcount (commandData_body hcase)
      c.short (by cases c.le <;> simp) hfits
    refine ⟨out, (hwrapped out).mpr ⟨slot', hwrap⟩, ?_⟩
    obtain ⟨data, le, body, counter, level, lc, hdata, hbody, -, hlc, rfl, -⟩ :=
      wrapSlot_ok P hwrap
    rw [commandData_body hcase] at hdata
    obtain ⟨rfl, rfl⟩ := Prod.mk.inj (Except.ok.inj hdata)
    rw [commandBody_authed P hauth hcount c.short] at hbody
    obtain ⟨rfl, -⟩ := Prod.mk.inj (Except.ok.inj hbody)
    -- the card finds the field by the length octet, which counts the MAC
    have hlc' : lc = UInt8.ofNat ((wireBody03 P slot c.data).length + slot.mode.macLen) := by
      apply UInt8.toNat_inj.mp
      rw [hlc, UInt8.toNat_ofNat']
      omega
    have hlen : lc.toNat = (field03 P slot c).length := by
      rw [hlc, field03, List.length_append, length_commandMac]
    have hne : field03 P slot c ≠ [] := by
      rw [← List.length_pos_iff, ← hlen, hlc]
      omega
    have := decode_frame (secureCla c.cla) c.ins c.p1 c.p2 _ _ c.le hne hlen
    rw [← this, field03, hlc', ← List.append_assoc]

end scp03

section scp02

variable (P : Primitives) {ρ : Type}

/-- The data field of a wrapped command: the body, encrypted or not, and the C-MAC. -/
def field02 (slot : Scp02SessionSlot) (c : ShortApdu) : List UInt8 :=
  Scp02.wireBody P slot c.data ++ (Scp02.commandMac P slot c.cla c.ins c.p1 c.p2 c.data).val

/-- SCP02: what is needed is a command without `Le`. -/
theorem preserved02_iff {st : BackendState ρ} {s : Scp02Session} {slot : Scp02SessionSlot}
    (hslot : st.scp02Sessions.get s.index.toNat = some slot) (hauth : slot.authed = true)
    (c : ShortApdu) (hfits : (Scp02.wireBody P slot c.data).length + 8 ≤ 255) :
    Preserved c (field02 P slot c) (scp02WrapCommand P s c.encode st).1 ↔ c.le = none := by
  have hwrapped : ∀ out, (scp02WrapCommand P s c.encode st).1 = .ok out ↔
      ∃ slot', Scp02.wrapSlot P slot c.cla c.ins c.p1 c.p2 c.body = .ok (out, slot') := by
    intro out
    unfold ShortApdu.encode scp02WrapCommand
    dsimp only
    rw [hslot]
    dsimp only
    cases Scp02.wrapSlot P slot c.cla c.ins c.p1 c.p2 c.body with
    | error e => simp
    | ok r =>
      obtain ⟨out', slot'⟩ := r
      simp
  -- whatever is wrapped has no `Le` on the wire
  have hdecode : ∀ out slot', Scp02.wrapSlot P slot c.cla c.ins c.p1 c.p2 c.body = .ok (out, slot') →
      ∃ data le, commandData c.body = .ok (data, le) ∧
        decode out = some (secureCla c.cla, c.ins, c.p1, c.p2, Scp02.wireBody P slot data ++
          (Scp02.commandMac P slot c.cla c.ins c.p1 c.p2 data).val, none) := by
    intro out slot' hwrap
    obtain ⟨data, le, lc, hdata, -, -, hlc, rfl, -⟩ := Scp02.wrapSlot_ok P hwrap
    have hmac := (Scp02.commandMac P slot c.cla c.ins c.p1 c.p2 data).property
    have hframe := decode_frame (secureCla c.cla) c.ins c.p1 c.p2 lc (Scp02.wireBody P slot data ++
        (Scp02.commandMac P slot c.cla c.ins c.p1 c.p2 data).val) none
      (by rw [← List.length_pos_iff, List.length_append, hmac]; omega)
      (by rw [List.length_append, hmac, hlc])
    rw [← List.append_assoc, Option.toList_none, List.append_nil] at hframe
    exact ⟨data, le, hdata, hframe⟩
  constructor
  · rintro ⟨out, hout, hpreserved⟩
    obtain ⟨slot', hwrap⟩ := (hwrapped out).mp hout
    obtain ⟨data, le, -, hnone⟩ := hdecode out slot' hwrap
    rw [hnone] at hpreserved
    simp only [Option.some.injEq, Prod.mk.injEq] at hpreserved
    exact hpreserved.2.2.2.2.2.symm
  · intro hle
    have hcase : ¬c.IsCase2 := fun hcase => hcase.2 hle
    have hdata := commandData_body hcase
    have hfirst : slot.authed = false → c.ins = EXTERNAL_AUTHENTICATE := by
      rw [hauth]
      intro h
      cases h
    obtain ⟨⟨out, slot'⟩, hwrap⟩ := Scp02.wrapSlot_of_fits P hfirst hdata hfits
    refine ⟨out, (hwrapped out).mpr ⟨slot', hwrap⟩, ?_⟩
    obtain ⟨data, le, hdata', hout⟩ := hdecode out slot' hwrap
    rw [hdata] at hdata'
    obtain ⟨rfl, rfl⟩ := Prod.mk.inj (Except.ok.inj hdata')
    rw [hout, hle]
    rfl

end scp02

/-! ### Both protocols -/

/-- For every authenticated session, level and command that fits: the wrapped
    command has all of the plaintext exactly when the command is not of case 2
    and the counter is not used up (SCP03), or has no `Le` (SCP02). -/
theorem preserved_iff (P : Primitives) (ρ : Type) (st : BackendState ρ) (c : ShortApdu) :
    (∀ (s : Scp03Session) (slot : Scp03SessionSlot),
      st.sessions.get s.index.toNat = some slot → slot.authed = true →
      (wireBody03 P slot c.data).length + slot.mode.macLen ≤ 255 →
      (Preserved c (field03 P slot c) (scp03WrapCommand P s c.encode st).1 ↔
        ¬c.IsCase2 ∧ slot.counter.toNat + 1 < 2 ^ 32)) ∧
    (∀ (s : Scp02Session) (slot : Scp02SessionSlot),
      st.scp02Sessions.get s.index.toNat = some slot → slot.authed = true →
      (Scp02.wireBody P slot c.data).length + 8 ≤ 255 →
      (Preserved c (field02 P slot c) (scp02WrapCommand P s c.encode st).1 ↔ c.le = none)) :=
  ⟨fun _ _ hslot hauth hfits => preserved03_iff P hslot hauth c hfits,
    fun _ _ hslot hauth hfits => preserved02_iff P hslot hauth c hfits⟩

/-! ### END R-MAC SESSION -/

section endRmac

open Primitives (xorCipher)

/-- END R-MAC SESSION: a header and `Le`. -/
def endRmac : ShortApdu := ⟨0x80, 0x78, 0x00, 0x03, [], some 0x00, Nat.zero_le _⟩

example : endRmac.encode = Capdu.endRmacSession true := rfl

def sampleKey03 : AesKey := .sample
def sampleKey02 : TdesKey := .sample

/-- An authenticated session with C-MAC and R-MAC. -/
def sampleSlot03 : Scp03SessionSlot :=
  { Scp03SessionSlot.fresh sampleKey03 sampleKey03 sampleKey03 .s8 with
    level := 0x11
    authed := true }

def sampleSlot02 : Scp02SessionSlot :=
  { Scp02.fresh sampleKey02 sampleKey02 sampleKey02 sampleKey02 with level := 0x11, authed := true }

/-- One session of each protocol, both in slot 0. -/
def sampleState : BackendState Unit :=
  let st := BackendState.new ()
  { st with
    sessions := st.sessions.set 0 (some sampleSlot03)
    scp02Sessions := st.scp02Sessions.set 0 (some sampleSlot02) }

theorem preserved_iff_end_rmac :
    (Preserved endRmac (field03 xorCipher sampleSlot03 endRmac)
        (scp03WrapCommand xorCipher ⟨0⟩ endRmac.encode sampleState).1 ↔
      ¬endRmac.IsCase2 ∧ sampleSlot03.counter.toNat + 1 < 2 ^ 32) ∧
    (Preserved endRmac (field02 xorCipher sampleSlot02 endRmac)
        (scp02WrapCommand xorCipher ⟨0⟩ endRmac.encode sampleState).1 ↔ endRmac.le = none) :=
  ⟨(preserved_iff xorCipher Unit sampleState endRmac).1 ⟨0⟩ sampleSlot03 rfl rfl (by decide),
    (preserved_iff xorCipher Unit sampleState endRmac).2 ⟨0⟩ sampleSlot02 rfl rfl (by decide)⟩

/-- The `Le` of END R-MAC SESSION is not sent. -/
theorem le_not_sent :
    ¬∀ (st : BackendState Unit) (c : ShortApdu),
      (∀ (s : Scp03Session) (slot : Scp03SessionSlot),
        st.sessions.get s.index.toNat = some slot → slot.authed = true →
        (wireBody03 xorCipher slot c.data).length + slot.mode.macLen ≤ 255 →
        Preserved c (field03 xorCipher slot c) (scp03WrapCommand xorCipher s c.encode st).1) ∧
      (∀ (s : Scp02Session) (slot : Scp02SessionSlot),
        st.scp02Sessions.get s.index.toNat = some slot → slot.authed = true →
        (Scp02.wireBody xorCipher slot c.data).length + 8 ≤ 255 →
        Preserved c (field02 xorCipher slot c) (scp02WrapCommand xorCipher s c.encode st).1) := by
  intro hall
  have hpreserved := (hall sampleState endRmac).2 ⟨0⟩ sampleSlot02 rfl rfl (by decide)
  have hslot : sampleState.scp02Sessions.get (Scp02Session.index ⟨0⟩).toNat =
      some sampleSlot02 := rfl
  have hle := (preserved02_iff xorCipher hslot rfl endRmac (by decide)).mp hpreserved
  cases hle

end endRmac

end ShortCases

end Scll
