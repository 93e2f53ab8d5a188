import Scll.Cap.Zip
import Scll.Framework.PrefixCode

/-! # The metadata of a CAP

    Three components tell what a package is and needs: `Header.cap`,
    `Import.cap` and `Applet.cap`. They are records behind a tag and a size, and
    two of them are lists behind a count. Each parser accepts exactly the
    encodings of what it returns, whatever follows them; so it returns what was
    encoded, and nothing for what is too long, cut off or no AID.
-/

namespace Scll

namespace Cap

open Octets PrefixCode

/-! ### Encodings -/

/-- The tag and the size of a component, which the parsers skip. -/
def componentHead (tag : UInt8) (size : UInt16) : List UInt8 := tag :: writeBE 2 size.toNat

/-- `Header.cap` up to the package AID. -/
structure HeaderComponent where
  tag : UInt8
  size : UInt16
  magic : UInt32
  minor : UInt8
  major : UInt8
  flags : UInt8
  packageMinor : UInt8
  packageMajor : UInt8
  aid : List UInt8
  /-- The length is one octet. -/
  short : aid.length < 256

def HeaderComponent.octets (h : HeaderComponent) : List UInt8 :=
  componentHead h.tag h.size ++ (writeBE 4 h.magic.toNat ++
    [h.minor, h.major, h.flags, h.packageMinor, h.packageMajor, UInt8.ofNat h.aid.length] ++ h.aid)

/-- One imported package of `Import.cap`. -/
structure PackageInfo where
  minor : UInt8
  major : UInt8
  aid : List UInt8
  short : aid.length < 256

def PackageInfo.octets (p : PackageInfo) : List UInt8 :=
  p.minor :: p.major :: UInt8.ofNat p.aid.length :: p.aid

/-- One applet of `Applet.cap`. -/
structure AppletInfo where
  aid : List UInt8
  short : aid.length < 256
  installMethodOffset : UInt16

def AppletInfo.octets (a : AppletInfo) : List UInt8 :=
  UInt8.ofNat a.aid.length :: (a.aid ++ writeBE 2 a.installMethodOffset.toNat)

/-- A component that is a list behind its count. -/
def counted {β : Type} (tag : UInt8) (size : UInt16) (enc : β → List UInt8) (items : List β) :
    List UInt8 :=
  componentHead tag size ++ UInt8.ofNat items.length :: items.flatMap enc

theorem toNat_ofNat_length {bytes : List UInt8} (h : bytes.length < 256) :
    (UInt8.ofNat bytes.length).toNat = bytes.length := by
  rw [UInt8.toNat_ofNat']
  omega

/-- Octets behind their length. -/
theorem lengthPrefixed_inj {as bs s t : List UInt8} (ha : as.length < 256) (hb : bs.length < 256)
    (h : UInt8.ofNat as.length :: (as ++ s) = UInt8.ofNat bs.length :: (bs ++ t)) :
    as = bs ∧ s = t := by
  obtain ⟨hlen, hrest⟩ := List.cons.inj h
  refine List.append_inj hrest ?_
  rw [← toNat_ofNat_length ha, hlen, toNat_ofNat_length hb]

theorem isPrefixCode_packageInfo : IsPrefixCode PackageInfo.octets := by
  intro p q s t h
  obtain ⟨minor, major, aid, short⟩ := p
  obtain ⟨minor', major', aid', short'⟩ := q
  simp only [PackageInfo.octets, List.cons_append] at h
  rw [List.cons.injEq, List.cons.injEq] at h
  obtain ⟨rfl, rfl, h⟩ := h
  obtain ⟨rfl, rfl⟩ := lengthPrefixed_inj short short' h
  exact ⟨rfl, rfl⟩

theorem isPrefixCode_appletInfo : IsPrefixCode AppletInfo.octets := by
  intro a b s t h
  obtain ⟨aid, short, offset⟩ := a
  obtain ⟨aid', short', offset'⟩ := b
  simp only [AppletInfo.octets, List.cons_append, List.append_assoc] at h
  obtain ⟨rfl, hrest⟩ := lengthPrefixed_inj short short' h
  obtain ⟨hoffset, rfl⟩ := List.append_inj hrest (by rw [length_writeBE, length_writeBE])
  have hnat := writeBE_inj offset.toNat_lt offset'.toNat_lt hoffset
  obtain rfl := UInt16.toNat_inj.mp hnat
  exact ⟨rfl, rfl⟩

/-! ### Reading at a position -/

theorem required_eq_ok {α : Type} {o : Option α} {a : α} : required o = .ok a ↔ o = some a := by
  cases o with
  | none =>
    constructor
    · intro h
      cases h
    · intro h
      cases h
  | some b =>
    constructor
    · intro h
      rw [Except.ok.inj h]
    · intro h
      rw [Option.some.inj h]
      rfl

/-- A component with a count behind its head has four octets. -/
theorem length_counted {b : List UInt8} {count : UInt8} (h : required b[3]? = .ok count) :
    4 ≤ b.length := by
  obtain ⟨hlt, -⟩ := List.getElem?_eq_some_iff.mp (required_eq_ok.mp h)
  omega

theorem capAid_eq_ok {bytes : List UInt8} {aid : Aid} :
    capAid bytes = .ok aid ↔ aid.bytes = bytes := by
  rw [capAid, required_eq_ok, Aid.ofOctets?_eq_some]

/-- A slice at a position is one of what is left there. -/
theorem slice_drop {b : List UInt8} {p k n : ℕ} (h : p ≤ b.length ∨ 0 < k + n) :
    slice b (p + k) n = slice (b.drop p) k n := by
  unfold slice
  rw [List.length_drop, List.drop_drop]
  by_cases hfits : p + k + n ≤ b.length
  · rw [if_pos hfits, if_pos (by omega)]
  · rw [if_neg hfits, if_neg (by omega)]

/-- A slice at the front, and what is behind it. -/
theorem slice_zero_iff {d bytes : List UInt8} {n : ℕ} :
    slice d 0 n = some bytes ↔ bytes.length = n ∧ d = bytes ++ d.drop n := by
  unfold slice
  rw [Nat.zero_add, List.drop_zero]
  constructor
  · intro h
    split at h
    · next hfits =>
      obtain rfl := Option.some.inj h
      exact ⟨List.length_take_of_le hfits, (List.take_append_drop n d).symm⟩
    · cases h
  · intro ⟨hlen, hd⟩
    rw [hd, ← hlen, if_pos (by simp), List.take_left' rfl]

/-- A length octet at a position and that many octets behind it. -/
theorem lengthPrefixed_iff {d bytes : List UInt8} {k : ℕ} {len : UInt8} :
    d[k]? = some len ∧ slice d (k + 1) len.toNat = some bytes ↔
      bytes.length < 256 ∧ len = UInt8.ofNat bytes.length ∧
        d.drop k = UInt8.ofNat bytes.length :: (bytes ++ d.drop (k + 1 + bytes.length)) := by
  have hslice : ∀ n, k + 1 ≤ d.length → slice d (k + 1) n = slice (d.drop (k + 1)) 0 n := by
    intro n hk
    rw [← slice_drop (.inl hk), Nat.add_zero]
  constructor
  · intro ⟨hlen, hread⟩
    obtain ⟨hlt, hget⟩ := List.getElem?_eq_some_iff.mp hlen
    rw [hslice _ hlt] at hread
    obtain ⟨hbytes, hrest⟩ := slice_zero_iff.mp hread
    have hof : UInt8.ofNat bytes.length = len := by
      rw [hbytes, UInt8.ofNat_toNat]
    have hbound := len.toNat_lt
    rw [List.drop_drop] at hrest
    rw [hof, List.drop_eq_getElem_cons hlt, hget, hbytes, ← hrest]
    exact ⟨by omega, rfl, rfl⟩
  · intro ⟨hbound, hlen, hd⟩
    have hlt : k < d.length := by
      by_contra hover
      rw [List.drop_eq_nil_of_le (by omega)] at hd
      cases hd
    rw [List.drop_eq_getElem_cons hlt] at hd
    obtain ⟨hget, hrest⟩ := List.cons.inj hd
    refine ⟨?_, ?_⟩
    · rw [List.getElem?_eq_getElem hlt, hget, hlen]
    · rw [hslice _ hlt, hlen, toNat_ofNat_length hbound]
      refine slice_zero_iff.mpr ⟨rfl, ?_⟩
      rw [List.drop_drop]
      exact hrest

/-! ### Lists behind a count -/

/-- The parser accepts three octets, a count and that many items, as many as are
    held, and anything behind them. -/
def CountedBy {β γ : Type} (parse : List UInt8 → Except CapError (List γ)) (enc : β → List UInt8)
    (val : β → γ → Prop) (cap : ℕ) : Prop :=
  ∀ {b : List UInt8} {out : List γ}, parse b = .ok out ↔
    ∃ head count items rest, head.length = 3 ∧ items.length = UInt8.toNat count ∧
      b = head ++ count :: (items.flatMap enc ++ rest) ∧ List.Forall₂ val items out ∧
      out.length ≤ cap

/-- An octet at a position, and what is around it. -/
theorem getElem?_iff {b rest : List UInt8} {count : UInt8} {k : ℕ} :
    b[k]? = some count ∧ b.drop (k + 1) = rest ↔
      ∃ head, head.length = k ∧ b = head ++ count :: rest := by
  constructor
  · intro ⟨hcount, hrest⟩
    obtain ⟨hlt, hget⟩ := List.getElem?_eq_some_iff.mp hcount
    refine ⟨b.take k, List.length_take_of_le (by omega), ?_⟩
    rw [← hrest, ← hget, ← List.drop_eq_getElem_cons hlt, List.take_append_drop]
  · rintro ⟨head, rfl, rfl⟩
    constructor
    · rw [List.getElem?_append_right le_rfl, Nat.sub_self]
      rfl
    · simp

theorem readBehindCount_iff {β γ : Type} {one : List UInt8 → Except CapError (γ × List UInt8)}
    {enc : β → List UInt8} {val : β → γ → Prop} (h : Reads one enc val) {cap : ℕ} :
    CountedBy (fun b => do
      let count ← required b[3]?
      readCounted one cap .malformed count.toNat (b.drop 4) []) enc val cap := by
  intro b out
  constructor
  · intro hok
    obtain ⟨count, hcount, hok⟩ := bind_eq_ok.mp hok
    obtain ⟨head, hhead, hb⟩ := getElem?_iff.mp ⟨required_eq_ok.mp hcount, rfl⟩
    obtain ⟨items, xs, rest, hlen, hitems, hvals, rfl, hcap⟩ :=
      (readCounted_iff h (Nat.zero_le _)).mp hok
    rw [hitems] at hb
    exact ⟨head, count, items, rest, hhead, hlen, hb, hvals, hcap⟩
  · intro ⟨head, count, items, rest, hhead, hlen, hb, hvals, hcap⟩
    obtain ⟨hcount, hrest⟩ := getElem?_iff.mpr ⟨head, hhead, hb⟩
    refine bind_eq_ok.mpr ⟨count, required_eq_ok.mpr hcount, ?_⟩
    exact (readCounted_iff h (Nat.zero_le _)).mpr
      ⟨items, out, rest, hlen, hrest, hvals, rfl, hcap⟩

/-! ### The imports -/

/-- The package entry at the front, and what is behind it. -/
def packageEntry (d : List UInt8) : Except CapError (Aid × List UInt8) := do
  let len ← required d[2]?
  let aidBytes ← required (slice d 3 len.toNat)
  let aid ← capAid aidBytes
  .ok (aid, d.drop (3 + len.toNat))

theorem reads_packageEntry :
    Reads packageEntry PackageInfo.octets fun p aid => aid.bytes = p.aid := by
  intro d aid rest
  constructor
  · intro h
    obtain ⟨len, hlen, h⟩ := bind_eq_ok.mp h
    obtain ⟨bytes, hbytes, h⟩ := bind_eq_ok.mp h
    obtain ⟨aid', haid, h⟩ := bind_eq_ok.mp h
    obtain ⟨rfl, rfl⟩ := Prod.mk.inj (Except.ok.inj h)
    obtain ⟨hshort, rfl, hd⟩ := lengthPrefixed_iff.mp
      ⟨required_eq_ok.mp hlen, required_eq_ok.mp hbytes⟩
    match d, hd with
    | minor :: major :: d, hd =>
      refine ⟨⟨minor, major, bytes, hshort⟩, ?_, capAid_eq_ok.mp haid⟩
      rw [toNat_ofNat_length hshort]
      exact congrArg (minor :: major :: ·) hd
  · rintro ⟨p, rfl, haid⟩
    have hprefixed : (p.octets ++ rest).drop 2 = UInt8.ofNat p.aid.length ::
        (p.aid ++ (p.octets ++ rest).drop (2 + 1 + p.aid.length)) := by
      have hrest : (p.octets ++ rest).drop (2 + 1 + p.aid.length) = rest :=
        List.drop_left' (by simp [PackageInfo.octets]; omega)
      rw [hrest]
      rfl
    obtain ⟨hlen, hbytes⟩ := lengthPrefixed_iff.mpr ⟨p.short, rfl, hprefixed⟩
    refine bind_eq_ok.mpr ⟨_, required_eq_ok.mpr hlen, bind_eq_ok.mpr
      ⟨_, required_eq_ok.mpr hbytes, bind_eq_ok.mpr ⟨_, capAid_eq_ok.mpr haid, ?_⟩⟩⟩
    rw [toNat_ofNat_length p.short]
    exact congrArg (fun r => Except.ok (aid, r))
      (List.drop_left' (by simp [PackageInfo.octets]; omega))

theorem parseImportsFrom_eq (b : List UInt8) (n p : ℕ) (imports : List Aid) :
    parseImportsFrom b n p imports =
      readCounted packageEntry MAX_CAP_IMPORTS .malformed n (b.drop p) imports := by
  induction n generalizing p imports with
  | zero => rfl
  | succ n ih =>
    rw [parseImportsFrom, readCounted, packageEntry, List.getElem?_drop]
    simp only [bind_assoc, ok_bind, List.drop_drop]
    refine bind_congr fun len => ?_
    rw [slice_drop (.inr (by omega))]
    refine bind_congr fun bytes => bind_congr fun aid => ?_
    unfold pushOr
    split
    · rw [ok_bind, ih, Nat.add_assoc]
    · rfl

/-- `Import.cap` is a list of packages, as many as are held. -/
theorem parseImports_iff : CountedBy parseImports PackageInfo.octets
    (fun p aid => aid.bytes = p.aid) MAX_CAP_IMPORTS := by
  intro b imports
  rw [← readBehindCount_iff reads_packageEntry, parseImports]
  simp only [parseImportsFrom_eq]

/-! ### The applets -/

/-- The applet entry at the front, and what is behind it. -/
def appletEntry (d : List UInt8) : Except CapError (AppletEntry × List UInt8) := do
  let len ← required d[0]?
  let aidBytes ← required (slice d 1 len.toNat)
  let aid ← capAid aidBytes
  let offset ← required (readU16BE d (1 + len.toNat))
  .ok (⟨aid, offset⟩, d.drop (1 + len.toNat + 2))

/-- An entry of the component and an entry that is parsed. -/
def SameApplet (a : AppletInfo) (e : AppletEntry) : Prop :=
  e.classAid.bytes = a.aid ∧ e.installMethodOffset = a.installMethodOffset.toNat

theorem readU16BE_iff {d : List UInt8} {k n : ℕ} (hk : k ≤ d.length) :
    readU16BE d k = some n ↔
      ∃ offset : UInt16,
        n = offset.toNat ∧ d.drop k = writeBE 2 offset.toNat ++ d.drop (k + 2) := by
  have hslice : slice d k 2 = slice (d.drop k) 0 2 := by
    rw [← slice_drop (.inl hk), Nat.add_zero]
  unfold readU16BE
  rw [hslice, Option.map_eq_some_iff, ← List.drop_drop]
  constructor
  · intro ⟨octets, hread, hn⟩
    obtain ⟨hlen, hd⟩ := slice_zero_iff.mp hread
    have hbound := readBE_lt octets
    rw [hlen, hn] at hbound
    have hoffset : (UInt16.ofNat n).toNat = n := by
      rw [UInt16.toNat_ofNat']
      omega
    refine ⟨UInt16.ofNat n, hoffset.symm, ?_⟩
    rw [hoffset, ← hn, ← hlen, writeBE_readBE, hlen]
    exact hd
  · intro ⟨offset, hn, hd⟩
    refine ⟨writeBE 2 offset.toNat, slice_zero_iff.mpr ⟨length_writeBE .., hd⟩, ?_⟩
    rw [hn, readBE_writeBE 2 offset.toNat offset.toNat_lt]

theorem reads_appletEntry : Reads appletEntry AppletInfo.octets SameApplet := by
  intro d e rest
  constructor
  · intro h
    obtain ⟨len, hlen, h⟩ := bind_eq_ok.mp h
    obtain ⟨bytes, hbytes, h⟩ := bind_eq_ok.mp h
    obtain ⟨aid, haid, h⟩ := bind_eq_ok.mp h
    obtain ⟨offset, hoffset, h⟩ := bind_eq_ok.mp h
    obtain ⟨rfl, rfl⟩ := Prod.mk.inj (Except.ok.inj h)
    obtain ⟨hshort, rfl, hd⟩ := lengthPrefixed_iff.mp
      ⟨required_eq_ok.mp hlen, required_eq_ok.mp hbytes⟩
    rw [List.drop_zero] at hd
    rw [toNat_ofNat_length hshort] at hoffset ⊢
    have hfits : 1 + bytes.length ≤ d.length := by
      have := congrArg List.length hd
      simp only [List.length_cons, List.length_append] at this
      omega
    obtain ⟨installOffset, rfl, hrest⟩ := (readU16BE_iff hfits).mp (required_eq_ok.mp hoffset)
    refine ⟨⟨bytes, hshort, installOffset⟩, ?_, capAid_eq_ok.mp haid, rfl⟩
    rw [Nat.zero_add, hrest] at hd
    rw [AppletInfo.octets, List.cons_append, List.append_assoc]
    exact hd
  · rintro ⟨a, rfl, haid, hoffset⟩
    -- backwards: where the AID ends and the entry ends
    have hlength : a.octets.length = 1 + a.aid.length + 2 := by
      simp [AppletInfo.octets]
      omega
    have hbehind : (a.octets ++ rest).drop (1 + a.aid.length) =
        writeBE 2 a.installMethodOffset.toNat ++ rest := by
      rw [Nat.add_comm]
      simp [AppletInfo.octets]
    have hrest : (a.octets ++ rest).drop (1 + a.aid.length + 2) = rest := List.drop_left' hlength
    have hprefixed : (a.octets ++ rest).drop 0 = UInt8.ofNat a.aid.length ::
        (a.aid ++ (a.octets ++ rest).drop (0 + 1 + a.aid.length)) := by
      rw [Nat.zero_add, hbehind]
      simp [AppletInfo.octets]
    obtain ⟨hlen, hbytes⟩ := lengthPrefixed_iff.mpr ⟨a.short, rfl, hprefixed⟩
    have hread : readU16BE (a.octets ++ rest) (1 + (UInt8.ofNat a.aid.length).toNat) =
        some a.installMethodOffset.toNat := by
      rw [toNat_ofNat_length a.short]
      exact (readU16BE_iff (by rw [List.length_append]; omega)).mpr
        ⟨a.installMethodOffset, rfl, by rw [hrest]; exact hbehind⟩
    refine bind_eq_ok.mpr ⟨_, required_eq_ok.mpr hlen, bind_eq_ok.mpr
      ⟨_, required_eq_ok.mpr hbytes, bind_eq_ok.mpr ⟨_, capAid_eq_ok.mpr haid, bind_eq_ok.mpr
        ⟨_, required_eq_ok.mpr hread, ?_⟩⟩⟩⟩
    rw [toNat_ofNat_length a.short, hrest, ← hoffset]

theorem parseAppletsFrom_eq (b : List UInt8) (n p : ℕ) (applets : List AppletEntry) :
    parseAppletsFrom b n p applets =
      readCounted appletEntry MAX_CAP_APPLETS .malformed n (b.drop p) applets := by
  induction n generalizing p applets with
  | zero => rfl
  | succ n ih =>
    rw [parseAppletsFrom, readCounted, appletEntry, List.getElem?_drop]
    simp only [bind_assoc, ok_bind, List.drop_drop, Nat.add_zero]
    refine bind_congr fun len => ?_
    rw [slice_drop (.inr (by omega))]
    refine bind_congr fun bytes => bind_congr fun aid => ?_
    rw [readU16BE, readU16BE, Nat.add_assoc, slice_drop (.inr (by omega))]
    refine bind_congr fun offset => ?_
    unfold pushOr
    split
    · rw [ok_bind, ih]
      congr 1
    · rfl

/-- `Applet.cap` is a list of applets, as many as are held. -/
theorem parseApplets_iff :
    CountedBy parseApplets AppletInfo.octets SameApplet MAX_CAP_APPLETS := by
  intro b applets
  rw [← readBehindCount_iff reads_appletEntry, parseApplets]
  simp only [parseAppletsFrom_eq]

/-! ### The header -/

/-- As many octets as a number has are a number. -/
theorem exists_u16 (a b : UInt8) : ∃ n : UInt16, writeBE 2 n.toNat = [a, b] := by
  have hbound : readBE [a, b] < 2 ^ 16 := by simpa using readBE_lt [a, b]
  have hn : (UInt16.ofNat (readBE [a, b])).toNat = readBE [a, b] := by
    rw [UInt16.toNat_ofNat', Nat.mod_eq_of_lt hbound]
  exact ⟨UInt16.ofNat (readBE [a, b]), by rw [hn]; exact writeBE_readBE [a, b]⟩

theorem exists_u32 (a b c d : UInt8) :
    ∃ n : UInt32, writeBE 4 n.toNat = [a, b, c, d] ∧ n.toNat = readBE [a, b, c, d] := by
  have hbound : readBE [a, b, c, d] < 2 ^ 32 := by simpa using readBE_lt [a, b, c, d]
  have hn : (UInt32.ofNat (readBE [a, b, c, d])).toNat = readBE [a, b, c, d] := by
    rw [UInt32.toNat_ofNat', Nat.mod_eq_of_lt hbound]
  exact ⟨UInt32.ofNat (readBE [a, b, c, d]), by rw [hn]; exact writeBE_readBE [a, b, c, d], hn⟩

theorem isPrefixCode_header : IsPrefixCode HeaderComponent.octets := by
  intro h k s t heq
  obtain ⟨tag, size, magic, minor, major, flags, pminor, pmajor, aid, short⟩ := h
  obtain ⟨tag', size', magic', minor', major', flags', pminor', pmajor', aid', short'⟩ := k
  simp only [HeaderComponent.octets, componentHead, List.cons_append, List.append_assoc,
    List.nil_append] at heq
  obtain ⟨rfl, hrest⟩ := List.cons.inj heq
  obtain ⟨hsize, hrest⟩ := List.append_inj hrest (by rw [length_writeBE, length_writeBE])
  obtain ⟨hmagic, hrest⟩ := List.append_inj hrest (by rw [length_writeBE, length_writeBE])
  simp only [List.cons.injEq] at hrest
  obtain ⟨rfl, rfl, rfl, rfl, rfl, hlen, hrest⟩ := hrest
  obtain ⟨rfl, rfl⟩ := lengthPrefixed_inj short short' (congrArg₂ List.cons hlen hrest)
  obtain rfl := UInt16.toNat_inj.mp (writeBE_inj size.toNat_lt size'.toNat_lt hsize)
  obtain rfl := UInt32.toNat_inj.mp (writeBE_inj magic.toNat_lt magic'.toNat_lt hmagic)
  exact ⟨rfl, rfl⟩

/-- `Header.cap` is a header with the magic, and anything behind it. -/
theorem parseHeader_iff {b : List UInt8} {aid : Aid} {version : UInt8 × UInt8 × UInt8} :
    parseHeader b = .ok (aid, version) ↔
      ∃ h rest, b = HeaderComponent.octets h ++ rest ∧ h.magic.toNat = HEADER_MAGIC ∧
        aid.bytes = h.aid ∧ version = (h.major, h.minor, 0) := by
  constructor
  · intro hok
    obtain ⟨magic, hmagic, hok⟩ := bind_eq_ok.mp hok
    split at hok
    · cases hok
    · next his =>
      obtain ⟨minor, hminor, hok⟩ := bind_eq_ok.mp hok
      obtain ⟨major, hmajor, hok⟩ := bind_eq_ok.mp hok
      obtain ⟨len, hlen, hok⟩ := bind_eq_ok.mp hok
      obtain ⟨bytes, hbytes, hok⟩ := bind_eq_ok.mp hok
      obtain ⟨aid', haid, hok⟩ := bind_eq_ok.mp hok
      obtain ⟨rfl, rfl⟩ := Prod.mk.inj (Except.ok.inj hok)
      obtain ⟨hshort, rfl, hd⟩ := lengthPrefixed_iff.mp
        ⟨required_eq_ok.mp hlen, required_eq_ok.mp hbytes⟩
      -- the fixed fields are twelve octets before the length of the AID
      match b, hd with
      | tag :: s₁ :: s₀ :: m₃ :: m₂ :: m₁ :: m₀ :: b₇ :: b₈ :: flags :: pminor :: pmajor :: d, hd =>
        obtain rfl : b₇ = minor := Option.some.inj (required_eq_ok.mp hminor)
        obtain rfl : b₈ = major := Option.some.inj (required_eq_ok.mp hmajor)
        obtain ⟨size, hsize⟩ := exists_u16 s₁ s₀
        obtain ⟨m, hm, hmnat⟩ := exists_u32 m₃ m₂ m₁ m₀
        have hread := required_eq_ok.mp hmagic
        rw [readU32BE, slice, if_pos (by simp)] at hread
        obtain rfl : readBE [m₃, m₂, m₁, m₀] = magic := Option.some.inj hread
        generalize List.drop (12 + 1 + bytes.length) _ = rest at hd
        refine ⟨⟨tag, size, m, b₇, b₈, flags, pminor, pmajor, bytes, hshort⟩, rest, ?_,
          hmnat.trans (not_not.mp his), capAid_eq_ok.mp haid, rfl⟩
        simp only [HeaderComponent.octets, componentHead, hsize, hm]
        exact congrArg (fun d => tag :: s₁ :: s₀ :: m₃ :: m₂ :: m₁ :: m₀ :: b₇ :: b₈ :: flags ::
          pminor :: pmajor :: d) hd
  · rintro ⟨h, rest, rfl, hmagic, haid, rfl⟩
    -- backwards: each read finds its field of the layout
    have hlayout : h.octets ++ rest = h.tag :: (writeBE 2 h.size.toNat ++
        (writeBE 4 h.magic.toNat ++ h.minor :: h.major :: h.flags :: h.packageMinor ::
          h.packageMajor :: UInt8.ofNat h.aid.length :: (h.aid ++ rest))) := by
      simp [HeaderComponent.octets, componentHead]
    have hwrite := readBE_writeBE 4 h.magic.toNat h.magic.toNat_lt
    obtain ⟨s₁, s₀, hsize⟩ := List.length_eq_two.mp (length_writeBE 2 h.size.toNat)
    obtain ⟨m₃, m₂, m₁, m₀, hm⟩ : ∃ m₃ m₂ m₁ m₀, writeBE 4 h.magic.toNat = [m₃, m₂, m₁, m₀] :=
      ⟨_, _, _, _, rfl⟩
    rw [hm] at hwrite
    rw [hlayout, hsize, hm]
    have hread : readU32BE (h.tag :: ([s₁, s₀] ++ ([m₃, m₂, m₁, m₀] ++ h.minor :: h.major ::
        h.flags :: h.packageMinor :: h.packageMajor :: UInt8.ofNat h.aid.length ::
          (h.aid ++ rest)))) 3 = some h.magic.toNat := by
      rw [readU32BE, slice, if_pos (by simp), ← hwrite]
      rfl
    refine bind_eq_ok.mpr ⟨_, required_eq_ok.mpr hread, ?_⟩
    rw [if_neg (not_not.mpr hmagic)]
    have hslice : slice (h.tag :: ([s₁, s₀] ++ ([m₃, m₂, m₁, m₀] ++ h.minor :: h.major ::
        h.flags :: h.packageMinor :: h.packageMajor :: UInt8.ofNat h.aid.length ::
          (h.aid ++ rest)))) 13 (UInt8.ofNat h.aid.length).toNat = some h.aid := by
      refine (lengthPrefixed_iff.mpr ⟨h.short, rfl, ?_⟩).2
      rw [Nat.add_comm (12 + 1)]
      simp
    exact bind_eq_ok.mpr ⟨h.minor, rfl, bind_eq_ok.mpr ⟨h.major, rfl, bind_eq_ok.mpr
      ⟨UInt8.ofNat h.aid.length, rfl, bind_eq_ok.mpr ⟨h.aid, required_eq_ok.mpr hslice,
        bind_eq_ok.mpr ⟨aid, capAid_eq_ok.mpr haid, rfl⟩⟩⟩⟩⟩

/-! ### What is read and what is refused -/

/-- `Header.cap`, as it is encoded, is read as its AID and version. -/
structure HeaderLaw : Prop where
  reads : ∀ (h : HeaderComponent) (aid : Aid) (trailing : List UInt8),
    h.magic.toNat = HEADER_MAGIC → h.aid = aid.bytes →
    parseHeader (h.octets ++ trailing) = .ok (aid, h.major, h.minor, 0)
  magic : ∀ (h : HeaderComponent) (trailing : List UInt8), h.magic.toNat ≠ HEADER_MAGIC →
    parseHeader (h.octets ++ trailing) = .error .malformed
  aid : ∀ (h : HeaderComponent) (trailing : List UInt8), ¬AidLength h.aid →
    parseHeader (h.octets ++ trailing) = .error .malformed
  truncated : ∀ (h : HeaderComponent) (part missing : List UInt8), h.octets = part ++ missing →
    missing ≠ [] → parseHeader part = .error .malformed

/-- A list behind a count, as it is encoded, is read as the list. -/
structure ListLaw {β γ : Type} (parse : List UInt8 → Except CapError (List γ))
    (enc : β → List UInt8) (aidOf : β → List UInt8) (val : β → γ → Prop) (cap : ℕ) : Prop where
  reads : ∀ tag size items out trailing, items.length ≤ cap → List.Forall₂ val items out →
    parse (counted tag size enc items ++ trailing) = .ok out
  long : ∀ tag size items trailing, cap < items.length → items.length < 256 →
    parse (counted tag size enc items ++ trailing) = .error .malformed
  aid : ∀ tag size items trailing, items.length < 256 → (∃ i ∈ items, ¬AidLength (aidOf i)) →
    parse (counted tag size enc items ++ trailing) = .error .malformed
  truncated : ∀ tag size items part missing, items.length < 256 →
    counted tag size enc items = part ++ missing → missing ≠ [] →
    parse part = .error .malformed

/-- An outcome that is malformed, or a result. -/
def MalformedOrOk {α : Type} (r : Except CapError α) : Prop := ∀ e, r = .error e → e = .malformed

theorem MalformedOrOk.of_not_ok {α : Type} {r : Except CapError α} (h : MalformedOrOk r)
    (hno : ∀ a, r ≠ .ok a) : r = .error .malformed := by
  cases r with
  | error e => rw [h e rfl]
  | ok a => exact absurd rfl (hno a)

theorem MalformedOrOk.bind {α β : Type} {r : Except CapError α} {f : α → Except CapError β}
    (h : MalformedOrOk r) (hf : ∀ a, MalformedOrOk (f a)) : MalformedOrOk (r >>= f) := by
  intro e he
  cases r with
  | error e' =>
    obtain rfl := Except.error.inj he
    exact h _ rfl
  | ok a => exact hf a e he

theorem malformedOrOk_required {α : Type} (o : Option α) : MalformedOrOk (required o) := by
  intro e he
  cases o with
  | none => exact (Except.error.inj he).symm
  | some a => cases he

/-- Octets at the front of an encoded list that are read are all of the list. -/
theorem items_of_counted {β γ : Type} {parse : List UInt8 → Except CapError (List γ)}
    {enc : β → List UInt8} {val : β → γ → Prop} {cap : ℕ} (h : CountedBy parse enc val cap)
    (henc : IsPrefixCode enc) {tag : UInt8} {size : UInt16} {items : List β} {out : List γ}
    {b missing trailing : List UInt8} (hshort : items.length < 256)
    (hb : b ++ missing = counted tag size enc items ++ trailing) (hok : parse b = .ok out) :
    List.Forall₂ val items out ∧ out.length ≤ cap ∧ ∃ rest, rest ++ missing = trailing := by
  obtain ⟨head, count, items', rest, hhead, hlen, rfl, hvals, hfew⟩ := h.mp hok
  simp only [counted, List.append_assoc, List.cons_append] at hb
  obtain ⟨-, hb⟩ := List.append_inj hb (by rw [hhead]; simp [componentHead])
  obtain ⟨rfl, hitems⟩ := List.cons.inj hb
  have hcount : (UInt8.ofNat items.length).toNat = items.length := by
    rw [UInt8.toNat_ofNat']
    omega
  obtain ⟨rfl, hrest⟩ := flatMap_inj henc (hlen.trans hcount) hitems
  exact ⟨hvals, hfew, rest, hrest⟩

theorem listLaw_of_countedBy {β γ : Type} {parse : List UInt8 → Except CapError (List γ)}
    {enc : β → List UInt8} {aidOf : β → List UInt8} {val : β → γ → Prop} {cap : ℕ}
    (h : CountedBy parse enc val cap) (hcap : cap < 256) (henc : IsPrefixCode enc)
    (hval : ∀ b x, val b x → AidLength (aidOf b)) (herror : ∀ b, MalformedOrOk (parse b)) :
    ListLaw parse enc aidOf val cap where
  reads tag size items out trailing hfew hvals := by
    refine h.mpr ⟨componentHead tag size, UInt8.ofNat items.length, items, trailing, ?_, ?_, ?_,
      hvals, ?_⟩
    · simp [componentHead]
    · rw [UInt8.toNat_ofNat']
      omega
    · simp [counted]
    · rwa [← hvals.length_eq]
  long tag size items trailing hlong hshort := by
    refine (herror _).of_not_ok fun out hok => ?_
    obtain ⟨hvals, hfew, -⟩ := items_of_counted h henc hshort (List.append_nil _) hok
    rw [← hvals.length_eq] at hfew
    omega
  aid tag size items trailing hshort hbad := by
    refine (herror _).of_not_ok fun out hok => ?_
    obtain ⟨hvals, -⟩ := items_of_counted h henc hshort (List.append_nil _) hok
    obtain ⟨i, hi, hno⟩ := hbad
    have hall := (List.forall₂_and_left _ _).mp (hvals.imp fun b x hx => ⟨hval b x hx, hx⟩)
    exact hno (hall.1 i hi)
  truncated tag size items part missing hshort hpart hmissing := by
    refine (herror _).of_not_ok fun out hok => ?_
    obtain ⟨-, -, rest, hrest⟩ := items_of_counted h henc hshort
      ((List.append_nil _).trans hpart).symm hok
    exact hmissing (List.append_eq_nil_iff.mp hrest).2

theorem malformedOrOk_readCounted {γ : Type} {one : List UInt8 → Except CapError (γ × List UInt8)}
    (h : ∀ d, MalformedOrOk (one d)) (cap n : ℕ) (d : List UInt8) (acc : List γ) :
    MalformedOrOk (readCounted one cap .malformed n d acc) := by
  induction n generalizing d acc with
  | zero =>
    intro e he
    cases he
  | succ n ih =>
    rw [readCounted]
    refine (h d).bind fun p => ?_
    dsimp only
    split
    · exact ih _ _
    · intro e he
      exact (Except.error.inj he).symm

theorem malformedOrOk_ok {α : Type} (a : α) : MalformedOrOk (.ok a : Except CapError α) := by
  intro e he
  cases he

theorem malformedOrOk_parseHeader (b : List UInt8) : MalformedOrOk (parseHeader b) := by
  refine (malformedOrOk_required _).bind fun magic => ?_
  split
  · intro e he
    exact (Except.error.inj he).symm
  · refine (malformedOrOk_required _).bind fun minor => (malformedOrOk_required _).bind
      fun major => (malformedOrOk_required _).bind fun len => (malformedOrOk_required _).bind
      fun bytes => (malformedOrOk_required _).bind fun aid => malformedOrOk_ok _

/-- Octets at the front of a header that are read are all of it. -/
theorem header_of_octets {h : HeaderComponent} {b missing trailing : List UInt8} {aid : Aid}
    {version : UInt8 × UInt8 × UInt8} (hb : b ++ missing = h.octets ++ trailing)
    (hok : parseHeader b = .ok (aid, version)) :
    h.magic.toNat = HEADER_MAGIC ∧ aid.bytes = h.aid ∧ ∃ rest, rest ++ missing = trailing := by
  obtain ⟨h', rest, rfl, hmagic, haid, -⟩ := parseHeader_iff.mp hok
  rw [List.append_assoc] at hb
  obtain ⟨rfl, hrest⟩ := isPrefixCode_header hb
  exact ⟨hmagic, haid, rest, hrest⟩

theorem headerLaw : HeaderLaw where
  reads h aid trailing hmagic haid :=
    parseHeader_iff.mpr ⟨h, trailing, rfl, hmagic, haid.symm, rfl⟩
  magic h trailing hmagic := by
    refine (malformedOrOk_parseHeader _).of_not_ok fun out hok => ?_
    exact hmagic (header_of_octets (List.append_nil _) hok).1
  aid h trailing hbad := by
    refine (malformedOrOk_parseHeader _).of_not_ok fun out hok => ?_
    have haid := (header_of_octets (List.append_nil _) hok).2.1
    exact hbad (haid ▸ out.1.valid)
  truncated h part missing hpart hmissing := by
    refine (malformedOrOk_parseHeader _).of_not_ok fun out hok => ?_
    obtain ⟨-, -, rest, hrest⟩ := header_of_octets ((List.append_nil _).trans hpart).symm hok
    exact hmissing (List.append_eq_nil_iff.mp hrest).2

theorem malformedOrOk_parseImports (b : List UInt8) : MalformedOrOk (parseImports b) := by
  refine (malformedOrOk_required _).bind fun count => ?_
  rw [parseImportsFrom_eq]
  refine malformedOrOk_readCounted (fun d => ?_) _ _ _ _
  exact (malformedOrOk_required _).bind fun len => (malformedOrOk_required _).bind
    fun bytes => (malformedOrOk_required _).bind fun aid => malformedOrOk_ok _

theorem malformedOrOk_parseApplets (b : List UInt8) : MalformedOrOk (parseApplets b) := by
  refine (malformedOrOk_required _).bind fun count => ?_
  rw [parseAppletsFrom_eq]
  refine malformedOrOk_readCounted (fun d => ?_) _ _ _ _
  exact (malformedOrOk_required _).bind fun len => (malformedOrOk_required _).bind
    fun bytes => (malformedOrOk_required _).bind fun aid => (malformedOrOk_required _).bind
    fun offset => malformedOrOk_ok _

/-- The metadata of a CAP is read as it is encoded, and what is not so encoded
    is refused. -/
theorem metadata_round_trip : HeaderLaw ∧
    ListLaw parseImports PackageInfo.octets PackageInfo.aid (fun p aid => aid.bytes = p.aid)
      MAX_CAP_IMPORTS ∧
    ListLaw parseApplets AppletInfo.octets AppletInfo.aid SameApplet MAX_CAP_APPLETS := by
  refine ⟨headerLaw, ?_, ?_⟩
  · exact listLaw_of_countedBy parseImports_iff (by decide) isPrefixCode_packageInfo
      (fun p aid h => h ▸ aid.valid) malformedOrOk_parseImports
  · exact listLaw_of_countedBy parseApplets_iff (by decide) isPrefixCode_appletInfo
      (fun a e h => h.1 ▸ e.classAid.valid) malformedOrOk_parseApplets

/-- The header of a package `A000000152`. -/
def samplePackage : HeaderComponent :=
  ⟨0x01, 15, 0xDECAFFED, 0x01, 0x02, 0x00, 0x00, 0x01, [0xA0, 0x00, 0x00, 0x01, 0x52], by decide⟩

/-- `javacard.framework`. -/
def sampleImport : PackageInfo :=
  ⟨0x00, 0x01, [0xA0, 0x00, 0x00, 0x00, 0x62, 0x01, 0x01], by decide⟩

def sampleClass : AppletInfo :=
  ⟨[0xA0, 0x00, 0x00, 0x01, 0x52, 0x01], by decide, 0x0107⟩

/-- A header with octets behind it, a header that is cut short, one import behind
    another, an applet, and an applet whose AID is too short. -/
theorem metadata_round_trip_sample :
    parseHeader (samplePackage.octets ++ [0x00]) =
      .ok (⟨[0xA0, 0x00, 0x00, 0x01, 0x52], by decide⟩, 0x02, 0x01, 0) ∧
    parseHeader (samplePackage.octets.take 17) = .error .malformed ∧
    parseImports (counted 0x04 21 PackageInfo.octets [sampleImport, sampleImport]) =
      .ok (List.replicate 2 ⟨[0xA0, 0x00, 0x00, 0x00, 0x62, 0x01, 0x01], by decide⟩) ∧
    parseApplets (counted 0x03 10 AppletInfo.octets [sampleClass]) =
      .ok [⟨⟨[0xA0, 0x00, 0x00, 0x01, 0x52, 0x01], by decide⟩, 0x0107⟩] ∧
    parseApplets (counted 0x03 6 AppletInfo.octets [⟨[0xA0, 0x00], by decide, 0x0107⟩]) =
      .error .malformed := by
  obtain ⟨hheader, himports, happlets⟩ := metadata_round_trip
  refine ⟨?_, ?_, ?_, ?_, ?_⟩
  · exact hheader.reads samplePackage ⟨[0xA0, 0x00, 0x00, 0x01, 0x52], by decide⟩ [0x00] rfl rfl
  · refine hheader.truncated samplePackage _ (samplePackage.octets.drop 17) ?_ (by decide)
    exact (List.take_append_drop ..).symm
  · have hread := himports.reads 0x04 21 [sampleImport, sampleImport]
      (List.replicate 2 ⟨[0xA0, 0x00, 0x00, 0x00, 0x62, 0x01, 0x01], by decide⟩) [] (by decide)
      (.cons rfl (.cons rfl .nil))
    rwa [List.append_nil] at hread
  · have hread := happlets.reads 0x03 10 [sampleClass]
      [⟨⟨[0xA0, 0x00, 0x00, 0x01, 0x52, 0x01], by decide⟩, 0x0107⟩] [] (by decide)
      (.cons ⟨rfl, rfl⟩ .nil)
    rwa [List.append_nil] at hread
  · have hread := happlets.aid 0x03 6 [⟨[0xA0, 0x00], by decide, 0x0107⟩] [] (by decide)
      ⟨_, List.mem_singleton_self _, by decide⟩
    rwa [List.append_nil] at hread

end Cap

end Scll
