import Scll.Framework.LengthPrefix
import Scll.ShortCases

/-! # The fields of INSTALL

    The two INSTALL commands carry their arguments as fields behind a one-octet
    length, one after the other, in a buffer that is larger than what `Lc` can
    say. Only the total decides: a command is built exactly when its data field
    is at most 255 octets long, and the card that splits it finds the arguments.
    The privileges may be cut to one octet, but only if the others are zero.
-/

namespace Scll

namespace Install

open LengthPrefix

/-! ### A command of fields -/

/-- Push fields one after the other. -/
def pushFields (data : Capdu) (fields : List (List UInt8)) : Except BuildError Capdu :=
  fields.foldlM Capdu.pushLv data

/-- The buffer never overflows before `Lc` does. -/
theorem pushFields_eq_ok {fields : List (List UInt8)} {data out : Capdu}
    (hdata : data.length ≤ CAPDU_MAX) :
    pushFields data fields = .ok out ↔
      out = data ++ lvFields fields ∧ (∀ f ∈ fields, f.length ≤ 255) ∧
        out.length ≤ CAPDU_MAX := by
  induction fields generalizing data with
  | nil =>
    constructor
    · intro h
      obtain rfl := Except.ok.inj h
      exact ⟨(List.append_nil _).symm, by simp, hdata⟩
    · intro h
      obtain ⟨hout, -, -⟩ := h
      rw [hout, lvFields, List.flatMap_nil, List.append_nil]
      rfl
  | cons f fields ih =>
    rw [pushFields, List.foldlM_cons]
    constructor
    · intro h
      obtain ⟨mid, hmid, h⟩ := bind_eq_ok.mp h
      obtain ⟨rfl, hf, hcap⟩ := Capdu.pushLv_eq_ok.mp hmid
      obtain ⟨rfl, hfields, hout⟩ := (ih hcap).mp h
      refine ⟨?_, ?_, hout⟩
      · rw [lvFields_cons, ← List.append_assoc]
        rfl
      · simpa using ⟨hf, hfields⟩
    · intro h
      obtain ⟨hout, hfields, hcap⟩ := h
      rw [lvFields_cons, ← List.append_assoc] at hout
      -- a front of what fits fits
      have hmid : (data ++ lvField f).length ≤ CAPDU_MAX := by
        rw [hout, List.length_append] at hcap
        omega
      apply bind_eq_ok.mpr
      refine ⟨data ++ lvField f, ?_, ?_⟩
      · exact Capdu.pushLv_eq_ok.mpr ⟨rfl, hfields f (List.mem_cons_self ..), hmid⟩
      · exact (ih hmid).mpr ⟨hout, fun g hg => hfields g (List.mem_cons_of_mem _ hg), hcap⟩

/-- INSTALL with a number of fields. -/
def command (p1 : UInt8) (fields : List (List UInt8)) : Except BuildError Capdu := do
  let data ← pushFields [] fields
  Capdu.build 0x84 Capdu.INS_INSTALL p1 0x00 data true

/-- Only the total length decides. -/
theorem command_eq_ok {p1 : UInt8} {fields : List (List UInt8)} {apdu : Capdu} :
    command p1 fields = .ok apdu ↔
      (lvFields fields).length ≤ 255 ∧
        apdu = 0x84 :: 0xE6 :: p1 :: 0x00 :: Capdu.tailOctets (lvFields fields) true := by
  have hnil : ([] : Capdu).length ≤ CAPDU_MAX := Nat.zero_le _
  constructor
  · intro h
    obtain ⟨data, hdata, h⟩ := bind_eq_ok.mp h
    obtain ⟨rfl, -, -⟩ := (pushFields_eq_ok hnil).mp hdata
    exact Capdu.build_eq_ok.mp h
  · intro ⟨hlen, happ⟩
    apply bind_eq_ok.mpr
    refine ⟨lvFields fields, (pushFields_eq_ok hnil).mpr ⟨rfl, ?_, ?_⟩, ?_⟩
    · intro f hf
      exact le_trans (length_le_lvFields hf) hlen
    · unfold CAPDU_MAX
      omega
    · exact Capdu.build_eq_ok.mpr ⟨hlen, happ⟩

/-- What a card reads in an INSTALL command of a number of fields. -/
def readCommand (n : ℕ) (apdu : List UInt8) :
    Option (UInt8 × UInt8 × UInt8 × UInt8 × List (List UInt8) × Option UInt8) := do
  let (cla, ins, p1, p2, data, le) ← ShortCases.decode apdu
  let fields ← splitFields n data
  some (cla, ins, p1, p2, fields, le)

theorem readCommand_command {p1 : UInt8} {fields : List (List UInt8)} {apdu : Capdu}
    (hne : fields ≠ []) (h : command p1 fields = .ok apdu) :
    readCommand fields.length apdu = some (0x84, 0xE6, p1, 0x00, fields, some 0x00) := by
  obtain ⟨hlen, rfl⟩ := command_eq_ok.mp h
  have hfield : lvFields fields ≠ [] := by
    obtain ⟨f, fs, rfl⟩ := List.exists_cons_of_ne_nil hne
    simp [lvFields, lvField]
  have hdecode := ShortCases.decode_tailOctets 0x84 0xE6 p1 0x00 true hfield hlen
  have hsplit := splitFields_lvFields fun f hf => le_trans (length_le_lvFields hf) hlen
  rw [readCommand, hdecode]
  show (splitFields fields.length (lvFields fields)).bind _ = _
  rw [hsplit]
  rfl

/-! ### The two commands -/

/-- The arguments of INSTALL [for install and make selectable]. -/
@[ext]
structure SelectableArgs where
  elfAid : List UInt8
  moduleAid : List UInt8
  instanceAid : List UInt8
  privileges : Privileges
  privLen : Capdu.PrivLen
  installParams : List UInt8

/-- The arguments of INSTALL [for load]. -/
@[ext]
structure LoadArgs where
  packageAid : List UInt8
  targetSdAid : List UInt8
  lfdbHash : List UInt8

def SelectableArgs.build (a : SelectableArgs) : Except BuildError Capdu :=
  Capdu.installForInstallMakeSelectable a.elfAid a.moduleAid a.instanceAid a.privileges a.privLen
    a.installParams

def LoadArgs.build (a : LoadArgs) : Except BuildError Capdu :=
  Capdu.installForLoad a.packageAid a.targetSdAid a.lfdbHash

/-- How many octets of the privileges are sent. -/
def privilegesSize (p : Privileges) (enc : Capdu.PrivLen) : ℕ :=
  if p.byte1 = 0 ∧ p.byte2 = 0 ∧ enc = .jcop1Byte then 1 else 3

/-- The octets of the data field: six fields with a length octet each. -/
def SelectableArgs.size (a : SelectableArgs) : ℕ :=
  a.elfAid.length + a.moduleAid.length + a.instanceAid.length +
    privilegesSize a.privileges a.privLen + a.installParams.length + 6

/-- The octets of the data field: five fields, two of them empty. -/
def LoadArgs.size (a : LoadArgs) : ℕ :=
  a.packageAid.length + a.targetSdAid.length + a.lfdbHash.length + 5

/-- A privileges field, with the octets left out taken for zero. -/
def zeroExtend (field : List UInt8) : List UInt8 := field ++ List.replicate (3 - field.length) 0

/-- The privileges field that is sent. -/
def privilegesField (p : Privileges) (enc : Capdu.PrivLen) : List UInt8 :=
  p.toList.take (privilegesSize p enc)

theorem pushPrivileges_eq (data : Capdu) (p : Privileges) (enc : Capdu.PrivLen) :
    Capdu.pushPrivileges data p enc = Capdu.pushLv data (privilegesField p enc) := by
  unfold Capdu.pushPrivileges privilegesField privilegesSize
  by_cases hext : p.byte1 ≠ 0 ∨ p.byte2 ≠ 0
  · -- an extended bit forces three octets, whatever the encoding asked for
    have hnot : ¬(p.byte1 = 0 ∧ p.byte2 = 0 ∧ enc = .jcop1Byte) := by
      intro ⟨h1, h2, _⟩
      exact hext.elim (absurd h1) (absurd h2)
    rw [if_neg hnot]
    simp only [hext, if_true]
  · have hzero : p.byte1 = 0 ∧ p.byte2 = 0 := by simpa using hext
    cases enc with
    | canonical => simp [hzero]
    | jcop1Byte => simp [hzero]

theorem toList_injective {p q : Privileges} (h : p.toList = q.toList) : p = q := by
  obtain ⟨a0, a1, a2⟩ := p
  obtain ⟨b0, b1, b2⟩ := q
  obtain ⟨rfl, rfl, rfl⟩ : a0 = b0 ∧ a1 = b1 ∧ a2 = b2 := by
    simpa [Privileges.toList] using h
  rfl

/-- Only zero octets are left out. -/
theorem zeroExtend_privilegesField (p : Privileges) (enc : Capdu.PrivLen) :
    zeroExtend (privilegesField p enc) = p.toList := by
  unfold privilegesField privilegesSize
  split
  · next h =>
    rw [show p.toList = [p.byte0, p.byte1, p.byte2] from rfl, h.1, h.2.1]
    rfl
  · rfl

theorem length_privilegesField (p : Privileges) (enc : Capdu.PrivLen) :
    (privilegesField p enc).length = privilegesSize p enc := by
  unfold privilegesField privilegesSize Privileges.toList
  split
  · rfl
  · rfl

def SelectableArgs.fields (a : SelectableArgs) : List (List UInt8) :=
  [a.elfAid, a.moduleAid, a.instanceAid, privilegesField a.privileges a.privLen, a.installParams,
    []]

def LoadArgs.fields (a : LoadArgs) : List (List UInt8) :=
  [a.packageAid, a.targetSdAid, a.lfdbHash, [], []]

theorem SelectableArgs.build_eq (a : SelectableArgs) : a.build = command 0x0C a.fields := by
  simp only [SelectableArgs.build, Capdu.installForInstallMakeSelectable, pushPrivileges_eq,
    command, pushFields, SelectableArgs.fields, List.foldlM_cons, List.foldlM_nil, bind_assoc,
    pure_bind]

theorem LoadArgs.build_eq (a : LoadArgs) : a.build = command 0x02 a.fields := by
  simp only [LoadArgs.build, Capdu.installForLoad, command, pushFields, LoadArgs.fields,
    List.foldlM_cons, List.foldlM_nil, bind_assoc, pure_bind]

theorem SelectableArgs.length_fields (a : SelectableArgs) :
    (lvFields a.fields).length = a.size := by
  simp [lvFields, lvField, SelectableArgs.fields, SelectableArgs.size, length_privilegesField]
  omega

theorem LoadArgs.length_fields (a : LoadArgs) : (lvFields a.fields).length = a.size := by
  simp [lvFields, lvField, LoadArgs.fields, LoadArgs.size]
  omega

/-- Both builders: a list of fields is built exactly when it fits, and is read back. -/
theorem round_trip_of_fields {r : Except BuildError Capdu} {p1 : UInt8}
    {fields : List (List UInt8)} {size : ℕ} (hr : r = command p1 fields)
    (hsize : (lvFields fields).length = size) (hne : fields ≠ []) :
    (r.isOk ↔ size ≤ 255) ∧ ∀ apdu, r = .ok apdu →
      readCommand fields.length apdu = some (0x84, 0xE6, p1, 0x00, fields, some 0x00) := by
  constructor
  · rw [hr, ← hsize]
    constructor
    · intro hok
      cases hbuild : command p1 fields with
      | error e =>
        rw [hbuild] at hok
        cases hok
      | ok apdu => exact (command_eq_ok.mp hbuild).1
    · intro hfits
      rw [command_eq_ok.mpr ⟨hfits, rfl⟩]
      rfl
  · intro apdu hbuilt
    rw [hr] at hbuilt
    exact readCommand_command hne hbuilt

/-- INSTALL is built exactly when its data field fits, and splitting it gives the
    arguments back: the privileges up to the zero octets left out, an empty token,
    `Le` zero. Two commands are the same only if their arguments are, up to the way
    the privileges are written. -/
theorem install_round_trip :
    (∀ a : SelectableArgs,
      (a.build.isOk ↔ a.size ≤ 255) ∧
      ∀ apdu, a.build = .ok apdu → ∃ privileges,
        readCommand 6 apdu = some (0x84, 0xE6, 0x0C, 0x00,
          [a.elfAid, a.moduleAid, a.instanceAid, privileges, a.installParams, []], some 0x00) ∧
        zeroExtend privileges = a.privileges.toList) ∧
    (∀ a : LoadArgs,
      (a.build.isOk ↔ a.size ≤ 255) ∧
      ∀ apdu, a.build = .ok apdu →
        readCommand 5 apdu = some (0x84, 0xE6, 0x02, 0x00,
          [a.packageAid, a.targetSdAid, a.lfdbHash, [], []], some 0x00)) ∧
    (∀ (a b : SelectableArgs) (apdu : Capdu), a.build = .ok apdu → b.build = .ok apdu →
      a = { b with privLen := a.privLen }) ∧
    (∀ (a b : LoadArgs) (apdu : Capdu), a.build = .ok apdu → b.build = .ok apdu → a = b) ∧
    ∀ (a : SelectableArgs) (b : LoadArgs) (apdu : Capdu),
      ¬(a.build = .ok apdu ∧ b.build = .ok apdu) := by
  have hsel : ∀ a : SelectableArgs, _ := fun a =>
    round_trip_of_fields a.build_eq a.length_fields (by simp [SelectableArgs.fields])
  have hload : ∀ a : LoadArgs, _ := fun a =>
    round_trip_of_fields a.build_eq a.length_fields (by simp [LoadArgs.fields])
  refine ⟨?_, hload, ?_, ?_, ?_⟩
  · intro a
    refine ⟨(hsel a).1, ?_⟩
    intro apdu hbuilt
    exact ⟨_, (hsel a).2 apdu hbuilt, zeroExtend_privilegesField ..⟩
  · intro a b apdu ha hb
    have hread := ((hsel a).2 apdu ha).symm.trans ((hsel b).2 apdu hb)
    have hfields : a.fields = b.fields := by simpa using hread
    obtain ⟨helf, hmodule, hinstance, hpriv, hparams⟩ :
        a.elfAid = b.elfAid ∧ a.moduleAid = b.moduleAid ∧ a.instanceAid = b.instanceAid ∧
          privilegesField a.privileges a.privLen = privilegesField b.privileges b.privLen ∧
          a.installParams = b.installParams := by
      simpa [SelectableArgs.fields] using hfields
    -- the octets left out are zero, so the privileges are the same
    have hprivileges := congrArg zeroExtend hpriv
    rw [zeroExtend_privilegesField, zeroExtend_privilegesField] at hprivileges
    exact SelectableArgs.ext helf hmodule hinstance (toList_injective hprivileges) rfl
      hparams
  · intro a b apdu ha hb
    have hread := ((hload a).2 apdu ha).symm.trans ((hload b).2 apdu hb)
    have hfields : a.fields = b.fields := by simpa using hread
    obtain ⟨hpackage, hsd, hhash⟩ :
        a.packageAid = b.packageAid ∧ a.targetSdAid = b.targetSdAid ∧ a.lfdbHash = b.lfdbHash := by
      simpa [LoadArgs.fields] using hfields
    exact LoadArgs.ext hpackage hsd hhash
  · intro a b apdu ⟨ha, hb⟩
    rw [a.build_eq] at ha
    rw [b.build_eq] at hb
    -- the two commands have different first parameters
    have heq := (command_eq_ok.mp ha).2.symm.trans (command_eq_ok.mp hb).2
    simp at heq

/-- A privileges field cut to one octet. -/
theorem install_round_trip_one_octet :
    (SelectableArgs.build ⟨[0xA0, 0x01], [0xB0], [0xC0], ⟨0x80, 0x00, 0x00⟩, .jcop1Byte,
        [0xC9, 0x00]⟩).isOk ∧
      ∃ privileges, readCommand 6
          [0x84, 0xE6, 0x0C, 0x00, 0x0D, 0x02, 0xA0, 0x01, 0x01, 0xB0, 0x01, 0xC0, 0x01, 0x80,
            0x02, 0xC9, 0x00, 0x00, 0x00] =
          some (0x84, 0xE6, 0x0C, 0x00,
            [[0xA0, 0x01], [0xB0], [0xC0], privileges, [0xC9, 0x00], []], some 0x00) ∧
        zeroExtend privileges = [0x80, 0x00, 0x00] :=
  have h := install_round_trip.1 ⟨[0xA0, 0x01], [0xB0], [0xC0], ⟨0x80, 0x00, 0x00⟩, .jcop1Byte,
    [0xC9, 0x00]⟩
  ⟨h.1.mpr (by decide), h.2 _ rfl⟩

end Install

end Scll
