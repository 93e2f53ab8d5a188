import Mathlib.Data.List.DropRight
import Mathlib.Data.List.Nodup
import Scll.Cap.Sample

/-! # Reading back the directory of an archive

    A ZIP archive as any packer writes it: octets in front, the files behind
    their local headers, the central directory, and the end record with its
    comment. As long as no later octets look like an end record, the walk finds
    each component where the packer put the first file of its name.
-/

namespace Scll

namespace Cap

open Octets

/-! ### Archives -/

/-- A file of an archive. -/
structure FileEntry where
  name : List UInt8
  method : ℕ
  /-- The octets as they are stored. -/
  data : List UInt8
  uncompSize : ℕ
  localExtra : List UInt8
  centralExtra : List UInt8
  comment : List UInt8
  versionMade : ℕ
  versionNeeded : ℕ
  flags : ℕ
  time : ℕ
  date : ℕ
  crc : ℕ
  internalAttributes : ℕ
  externalAttributes : ℕ
  method_known : method = METHOD_STORED ∨ method = METHOD_DEFLATE
  name_fits : name.length < 2 ^ 16
  uncompSize_fits : uncompSize < 2 ^ 32
  localExtra_fits : localExtra.length < 2 ^ 16
  centralExtra_fits : centralExtra.length < 2 ^ 16
  comment_fits : comment.length < 2 ^ 16

/-- The local header of a file and its octets. -/
def fileRecord (e : FileEntry) : List UInt8 :=
  [writeLE 4 SIG_LFH, writeLE 2 e.versionNeeded, writeLE 2 e.flags, writeLE 2 e.method,
    writeLE 2 e.time, writeLE 2 e.date, writeLE 4 e.crc, writeLE 4 e.data.length,
    writeLE 4 e.uncompSize, writeLE 2 e.name.length, writeLE 2 e.localExtra.length, e.name,
    e.localExtra, e.data].flatten

/-- A file, and where its local header starts. -/
structure Placed where
  off : ℕ
  entry : FileEntry

/-- The location that the walk is to find. -/
def Placed.loc (p : Placed) : CompLoc where
  method := p.entry.method
  dataOff := p.off + 30 + p.entry.name.length + p.entry.localExtra.length
  compSize := p.entry.data.length
  uncompSize := p.entry.uncompSize

/-- The record of a file in the central directory. -/
def directoryRecord (p : Placed) : List UInt8 :=
  [writeLE 4 SIG_CDH, writeLE 2 p.entry.versionMade, writeLE 2 p.entry.versionNeeded,
    writeLE 2 p.entry.flags, writeLE 2 p.entry.method, writeLE 2 p.entry.time,
    writeLE 2 p.entry.date, writeLE 4 p.entry.crc, writeLE 4 p.entry.data.length,
    writeLE 4 p.entry.uncompSize, writeLE 2 p.entry.name.length,
    writeLE 2 p.entry.centralExtra.length, writeLE 2 p.entry.comment.length, writeLE 2 0,
    writeLE 2 p.entry.internalAttributes, writeLE 4 p.entry.externalAttributes,
    writeLE 4 p.off, p.entry.name, p.entry.centralExtra, p.entry.comment].flatten

/-- Files one after another, from `off` on. -/
def place : ℕ → List FileEntry → List Placed
  | _, [] => []
  | off, e :: entries => ⟨off, e⟩ :: place (off + (fileRecord e).length) entries

/-- An archive, with octets in front of it. -/
structure Archive where
  front : List UInt8
  entries : List FileEntry
  comment : List UInt8
  entries_fit : entries.length < 2 ^ 16
  comment_fits : comment.length < 2 ^ 16

namespace Archive

def placed (a : Archive) : List Placed := place a.front.length a.entries

def files (a : Archive) : List UInt8 := a.entries.flatMap fileRecord

def directory (a : Archive) : List UInt8 := a.placed.flatMap directoryRecord

/-- Everything before the end record. -/
def body (a : Archive) : List UInt8 := a.front ++ (a.files ++ a.directory)

/-- The end record and the comment of the archive. -/
def endRecord (a : Archive) : List UInt8 :=
  [writeLE 4 SIG_EOCD, writeLE 2 0, writeLE 2 0, writeLE 2 a.entries.length,
    writeLE 2 a.entries.length, writeLE 4 a.directory.length,
    writeLE 4 (a.front.length + a.files.length), writeLE 2 a.comment.length, a.comment].flatten

def octets (a : Archive) : List UInt8 := a.body ++ a.endRecord

end Archive

/-! ### Reading fields of a record -/

@[simp] theorem length_writeLE (w n : ℕ) : (writeLE w n).length = w := by
  rw [writeLE, List.length_reverse, length_writeBE]

theorem slice_skip {front back : List UInt8} {pos n : ℕ} (h : front.length ≤ pos) :
    slice (front ++ back) pos n = slice back (pos - front.length) n := by
  unfold slice
  rw [List.length_append, List.drop_append, List.drop_eq_nil_of_le h, List.nil_append]
  congr 1
  exact propext (by omega)

theorem slice_here {piece back : List UInt8} {n : ℕ} (h : piece.length = n) :
    slice (piece ++ back) 0 n = some piece := by
  unfold slice
  rw [if_pos (by rw [List.length_append]; omega), List.drop_zero, List.take_left' h]

theorem readU16_skip {front back : List UInt8} {pos : ℕ} (h : front.length ≤ pos) :
    readU16 (front ++ back) pos = readU16 back (pos - front.length) := by
  rw [readU16, slice_skip h, readU16]

theorem readU32_skip {front back : List UInt8} {pos : ℕ} (h : front.length ≤ pos) :
    readU32 (front ++ back) pos = readU32 back (pos - front.length) := by
  rw [readU32, slice_skip h, readU32]

theorem readU16_here {n : ℕ} (h : n < 2 ^ 16) (back : List UInt8) :
    readU16 (writeLE 2 n ++ back) 0 = some n := by
  rw [readU16, slice_here (length_writeLE 2 n), Option.map_some, writeLE, List.reverse_reverse,
    readBE_writeBE 2 n h]

theorem readU32_here {n : ℕ} (h : n < 2 ^ 32) (back : List UInt8) :
    readU32 (writeLE 4 n ++ back) 0 = some n := by
  rw [readU32, slice_here (length_writeLE 4 n), Option.map_some, writeLE, List.reverse_reverse,
    readBE_writeBE 4 n h]

/-! ### The records of an archive -/

theorem length_fileRecord (e : FileEntry) :
    (fileRecord e).length = 30 + e.name.length + e.localExtra.length + e.data.length := by
  simp only [fileRecord, List.flatten_cons, List.flatten_nil, List.length_append, length_writeLE,
    List.length_nil]
  omega

theorem length_directoryRecord (p : Placed) :
    (directoryRecord p).length =
      46 + p.entry.name.length + p.entry.centralExtra.length + p.entry.comment.length := by
  simp only [directoryRecord, List.flatten_cons, List.flatten_nil, List.length_append,
    length_writeLE, List.length_nil]
  omega

theorem localDataOffset_file (front back : List UInt8) (e : FileEntry) :
    localDataOffset (front ++ (fileRecord e ++ back)) front.length =
      .ok (front.length + 30 + e.name.length + e.localExtra.length) := by
  have hsig : readU32 (front ++ (fileRecord e ++ back)) front.length = some SIG_LFH := by
    simp [readU32_skip, fileRecord, readU32_here, SIG_LFH]
  have hname : readU16 (front ++ (fileRecord e ++ back)) (front.length + 26) =
      some e.name.length := by
    simp [readU16_skip, fileRecord, readU16_here e.name_fits]
  have hextra : readU16 (front ++ (fileRecord e ++ back)) (front.length + 28) =
      some e.localExtra.length := by
    simp [readU16_skip, fileRecord, readU16_here e.localExtra_fits]
  have hwithin : front.length + 30 + e.name.length + e.localExtra.length ≤
      (front ++ (fileRecord e ++ back)).length := by
    rw [List.length_append, List.length_append, length_fileRecord]
    omega
  unfold localDataOffset
  rw [if_neg (not_not.mpr hsig), hname, hextra]
  exact if_pos hwithin

/-- What the walk reads of a record in the central directory. -/
def Placed.central (p : Placed) (pos : ℕ) : CentralEntry where
  method := p.entry.method
  compSize := p.entry.data.length
  uncompSize := p.entry.uncompSize
  name := p.entry.name
  localOff := p.off
  next := pos + (directoryRecord p).length

theorem centralEntry_record (front back : List UInt8) {p : Placed} (hoff : p.off < 2 ^ 32)
    (hdata : p.entry.data.length < 2 ^ 32) :
    centralEntry (front ++ (directoryRecord p ++ back)) front.length =
      .ok (p.central front.length) := by
  have hmethod : p.entry.method < 2 ^ 16 := by
    rcases p.entry.method_known with h | h <;> rw [h] <;> decide
  obtain ⟨zip, hzip⟩ : ∃ zip, zip = front ++ (directoryRecord p ++ back) := ⟨_, rfl⟩
  have h0 : readU32 zip front.length = some SIG_CDH := by
    simp [hzip, readU32_skip, directoryRecord, readU32_here, SIG_CDH]
  have h10 : readU16 zip (front.length + 10) = some p.entry.method := by
    simp [hzip, readU16_skip, directoryRecord, readU16_here hmethod]
  have h20 : readU32 zip (front.length + 20) = some p.entry.data.length := by
    simp [hzip, readU32_skip, directoryRecord, readU32_here hdata]
  have h24 : readU32 zip (front.length + 24) = some p.entry.uncompSize := by
    simp [hzip, readU32_skip, directoryRecord, readU32_here p.entry.uncompSize_fits]
  have h28 : readU16 zip (front.length + 28) = some p.entry.name.length := by
    simp [hzip, readU16_skip, directoryRecord, readU16_here p.entry.name_fits]
  have h30 : readU16 zip (front.length + 30) = some p.entry.centralExtra.length := by
    simp [hzip, readU16_skip, directoryRecord, readU16_here p.entry.centralExtra_fits]
  have h32 : readU16 zip (front.length + 32) = some p.entry.comment.length := by
    simp [hzip, readU16_skip, directoryRecord, readU16_here p.entry.comment_fits]
  have h42 : readU32 zip (front.length + 42) = some p.off := by
    simp [hzip, readU32_skip, directoryRecord, readU32_here hoff]
  have h46 : slice zip (front.length + 46) p.entry.name.length = some p.entry.name := by
    simp [hzip, slice_skip, directoryRecord, slice_here]
  rw [← hzip]
  unfold centralEntry
  rw [if_neg (not_not.mpr h0), h10, h20, h24, h28, h30, h32, h42]
  simp only [required, okOr_some, ok_bind, h46]
  rw [Placed.central, length_directoryRecord]
  simp only [Nat.add_assoc]

/-! ### Basenames -/

/-- A slash or a backslash. -/
def IsSeparator (b : UInt8) : Prop := b = 0x2F ∨ b = 0x5C

instance (b : UInt8) : Decidable (IsSeparator b) := inferInstanceAs (Decidable (_ ∨ _))

/-- What stands behind the last separator of a name, or the name if it has none. -/
def IsBasename (name base : List UInt8) : Prop :=
  (∀ b ∈ base, ¬IsSeparator b) ∧
    (name = base ∨ ∃ directory b, IsSeparator b ∧ name = directory ++ b :: base)

def ordinary (b : UInt8) : Bool := b ≠ 0x2F ∧ b ≠ 0x5C

theorem ordinary_iff (b : UInt8) : ordinary b = true ↔ ¬IsSeparator b := by
  unfold ordinary IsSeparator
  rw [decide_eq_true_iff]
  tauto

/-- The octets behind the last separator are the basename, and nothing else is. -/
theorem isBasename_iff {name base : List UInt8} :
    IsBasename name base ↔ name.rtakeWhile ordinary = base := by
  constructor
  · rintro ⟨hbase, hname⟩
    rcases hname with rfl | ⟨directory, b, hsep, rfl⟩
    · exact List.rtakeWhile_eq_self_iff.mpr fun b hb => (ordinary_iff b).mpr (hbase b hb)
    · have hall : ∀ b ∈ base.reverse, ordinary b = true :=
        fun b hb => (ordinary_iff b).mpr (hbase b (List.mem_reverse.mp hb))
      have hstop : ¬ordinary b = true := fun hb => (ordinary_iff b).mp hb hsep
      rw [List.rtakeWhile, List.reverse_append, List.reverse_cons, List.append_assoc,
        List.takeWhile_append_of_pos hall, List.singleton_append,
        List.takeWhile_cons_of_neg hstop, List.append_nil, List.reverse_reverse]
  · rintro rfl
    refine ⟨fun b hb => (ordinary_iff b).mp (List.mem_rtakeWhile_imp hb), ?_⟩
    have hsplit : name.rdropWhile ordinary ++ name.rtakeWhile ordinary = name :=
      List.rdropWhile_append_rtakeWhile
    by_cases hnil : name.rdropWhile ordinary = []
    · left
      rw [hnil, List.nil_append] at hsplit
      exact hsplit.symm
    · right
      have hlast := List.rdropWhile_last_not ordinary name hnil
      rw [ordinary_iff, not_not] at hlast
      refine ⟨(name.rdropWhile ordinary).dropLast, _, hlast, ?_⟩
      rw [← List.singleton_append, ← List.append_assoc, List.dropLast_append_getLast, hsplit]

instance (name base : List UInt8) : Decidable (IsBasename name base) :=
  decidable_of_iff _ isBasename_iff.symm

/-- A name belongs to the component that its basename is. -/
theorem componentIndex_eq_some {name : List UInt8} {i : ℕ} :
    componentIndex name = some i ↔
      ∃ component, COMPONENT_NAMES[i]? = some component ∧ IsBasename name component := by
  have hindex : componentIndex name =
      COMPONENT_NAMES.findIdx? (· == name.rtakeWhile ordinary) := rfl
  have hnodup : COMPONENT_NAMES.Nodup := by decide
  rw [hindex, List.findIdx?_eq_some_iff_getElem]
  constructor
  · rintro ⟨hi, heq, -⟩
    exact ⟨_, List.getElem?_eq_getElem hi, isBasename_iff.mpr (beq_iff_eq.mp heq).symm⟩
  · rintro ⟨component, hcomponent, hbase⟩
    obtain ⟨hi, rfl⟩ := List.getElem?_eq_some_iff.mp hcomponent
    rw [isBasename_iff] at hbase
    refine ⟨hi, beq_iff_eq.mpr hbase.symm, ?_⟩
    intro j hj heq
    have := (List.Nodup.getElem_inj_iff hnodup).mp ((beq_iff_eq.mp heq).trans hbase)
    omega

/-! ### The end record -/

/-- The scan stops at the last signature, if it gets there. -/
theorem findEocdFrom_eq {zip : List UInt8} {k left i : ℕ} (hk : readU32 zip k = some SIG_EOCD)
    (hlater : ∀ j, k < j → readU32 zip j ≠ some SIG_EOCD) (hki : k ≤ i) (hleft : i ≤ k + left) :
    findEocdFrom zip left i = some k := by
  induction left generalizing i with
  | zero =>
    obtain rfl : i = k := by omega
    exact if_pos hk
  | succ left ih =>
    rw [findEocdFrom]
    by_cases hi : i = k
    · rw [hi, if_pos hk]
    · rw [if_neg (hlater i (by omega))]
      exact ih (by omega) (by omega)

/-- A signature behind the first octet of the end record lies in its tail. -/
theorem infix_of_signature {a : Archive} {j : ℕ} (hj : a.body.length < j)
    (h : readU32 a.octets j = some SIG_EOCD) : writeLE 4 SIG_EOCD <:+: a.endRecord.tail := by
  unfold readU32 at h
  obtain ⟨s, hs, hread⟩ := Option.map_eq_some_iff.mp h
  have hlen := length_slice hs
  obtain ⟨-, hs⟩ := slice_eq_some.mp hs
  have hsig : writeLE 4 SIG_EOCD = s := by
    have hs := writeBE_readBE s.reverse
    rw [List.length_reverse, hlen, hread] at hs
    rw [writeLE, hs, List.reverse_reverse]
  obtain ⟨k, rfl⟩ : ∃ k, j = a.body.length + (1 + k) := ⟨j - a.body.length - 1, by omega⟩
  rw [hsig, ← hs, Archive.octets, ← List.drop_drop, List.drop_left, ← List.drop_drop,
    List.drop_one]
  exact (List.take_prefix ..).isInfix.trans (List.drop_suffix ..).isInfix

theorem length_endRecord (a : Archive) : a.endRecord.length = 22 + a.comment.length := by
  simp only [Archive.endRecord, List.flatten_cons, List.flatten_nil, List.length_append,
    length_writeLE, List.length_nil]
  omega

theorem length_octets (a : Archive) :
    a.octets.length = a.front.length + a.files.length + a.directory.length + 22 +
      a.comment.length := by
  rw [Archive.octets, Archive.body, List.length_append, List.length_append, List.length_append,
    length_endRecord]
  omega

/-- The end record is found, and what it says. -/
theorem findEocd_octets (a : Archive) (hsize : a.octets.length < 2 ^ 32)
    (hsig : ¬writeLE 4 SIG_EOCD <:+: a.endRecord.tail) :
    findEocd a.octets = some a.body.length ∧
      readU16 a.octets (a.body.length + 10) = some a.entries.length ∧
      readU32 a.octets (a.body.length + 16) = some (a.front.length + a.files.length) := by
  have hlen : a.octets.length = a.body.length + (22 + a.comment.length) := by
    rw [Archive.octets, List.length_append, length_endRecord]
  have hcomment := a.comment_fits
  refine ⟨?_, ?_, ?_⟩
  · have hfirst : readU32 a.octets a.body.length = some SIG_EOCD := by
      simp [Archive.octets, readU32_skip, Archive.endRecord, readU32_here, SIG_EOCD]
    unfold findEocd EOCD_MIN
    rw [if_neg (by omega)]
    exact findEocdFrom_eq hfirst (fun j hj h => hsig (infix_of_signature hj h)) (by omega)
      (by omega)
  · simp [Archive.octets, readU16_skip, Archive.endRecord, readU16_here a.entries_fit]
  · have hoff : a.front.length + a.files.length < 2 ^ 32 := by
      rw [length_octets] at hsize
      omega
    simp [Archive.octets, readU32_skip, Archive.endRecord, readU32_here hoff]

/-! ### The walk -/

theorem length_place (off : ℕ) (entries : List FileEntry) :
    (place off entries).length = entries.length := by
  induction entries generalizing off with
  | nil => rfl
  | cons e entries ih => rw [place, List.length_cons, List.length_cons, ih]

/-- A file lies where it is placed. -/
theorem placed_record {off : ℕ} {entries : List FileEntry} {p : Placed}
    (h : p ∈ place off entries) :
    ∃ front back, entries.flatMap fileRecord = front ++ (fileRecord p.entry ++ back) ∧
      p.off = off + front.length := by
  induction entries generalizing off with
  | nil => cases h
  | cons e entries ih =>
    rw [place, List.mem_cons] at h
    rw [List.flatMap_cons]
    rcases h with rfl | h
    · exact ⟨[], entries.flatMap fileRecord, rfl, rfl⟩
    · obtain ⟨front, back, hfiles, hoff⟩ := ih h
      refine ⟨fileRecord e ++ front, back, ?_, ?_⟩
      · rw [hfiles, List.append_assoc]
      · rw [hoff, List.length_append, Nat.add_assoc]

/-- Files placed later lie further on. -/
theorem place_pairwise (off : ℕ) (entries : List FileEntry) :
    (place off entries).Pairwise fun p q => p.loc.dataOff < q.loc.dataOff := by
  induction entries generalizing off with
  | nil => exact .nil
  | cons e entries ih =>
    rw [place, List.pairwise_cons]
    refine ⟨?_, ih _⟩
    intro q hq
    obtain ⟨front, -, -, hoff⟩ := placed_record hq
    have := length_fileRecord e
    dsimp only [Placed.loc]
    omega

theorem placed_inj {off : ℕ} {entries : List FileEntry} {p q : Placed} (hp : p ∈ place off entries)
    (hq : q ∈ place off entries) (h : p.loc.dataOff = q.loc.dataOff) : p = q := by
  have hnodup : ((place off entries).map fun p => p.loc.dataOff).Nodup :=
    (List.pairwise_map.mpr (place_pairwise off entries)).imp Nat.ne_of_lt
  exact List.inj_on_of_nodup_map hnodup hp hq h

/-- Note where a file lies, if it is the first of a component. -/
def note (locs : Locs) (p : Placed) : Locs :=
  match componentIndex p.entry.name with
  | none => locs
  | some idx =>
      match locs[idx]?.join with
      | some _ => locs
      | none => locs.set idx (some p.loc)

theorem locate_eq {zip : List UInt8} {p : Placed} (locs : Locs) (pos : ℕ)
    (h : localDataOffset zip p.off = .ok p.loc.dataOff) :
    locate zip locs (p.central pos) = .ok (note locs p) := by
  unfold locate note
  dsimp only [Placed.central]
  cases componentIndex p.entry.name with
  | none => rfl
  | some idx =>
    dsimp only
    cases locs[idx]?.join with
    | some _ => rfl
    | none =>
      dsimp only
      rw [h, ok_bind]
      rfl

/-- The walk over a directory notes its files in order. -/
theorem walkEntries_directory {zip : List UInt8} {placed : List Placed}
    (hplaced : ∀ p ∈ placed, p.off < 2 ^ 32 ∧ p.entry.data.length < 2 ^ 32 ∧
      localDataOffset zip p.off = .ok p.loc.dataOff) {front back : List UInt8}
    (hzip : zip = front ++ (placed.flatMap directoryRecord ++ back)) (locs : Locs) :
    walkEntries zip placed.length front.length locs = .ok (placed.foldl note locs) := by
  induction placed generalizing front locs with
  | nil => rfl
  | cons p placed ih =>
    obtain ⟨hoff, hdata, hlocal⟩ := hplaced p List.mem_cons_self
    have hrecord : centralEntry zip front.length = .ok (p.central front.length) := by
      rw [hzip, List.flatMap_cons, List.append_assoc]
      exact centralEntry_record front _ hoff hdata
    have hnext : zip =
        (front ++ directoryRecord p) ++ (placed.flatMap directoryRecord ++ back) := by
      rw [hzip, List.flatMap_cons, List.append_assoc, List.append_assoc]
    rw [List.length_cons, walkEntries, hrecord, ok_bind, locate_eq locs _ hlocal, ok_bind,
      Placed.central, ← List.length_append]
    exact ih (fun q hq => hplaced q (List.mem_cons_of_mem p hq)) hnext (note locs p)

theorem length_note (locs : Locs) (p : Placed) : (note locs p).length = locs.length := by
  unfold note
  split
  · rfl
  · split
    · rfl
    · exact List.length_set ..

theorem length_foldl_note (placed : List Placed) (locs : Locs) :
    (placed.foldl note locs).length = locs.length := by
  induction placed generalizing locs with
  | nil => rfl
  | cons p placed ih => rw [List.foldl_cons, ih, length_note]

/-- What one file changes in a slot. -/
theorem getElem?_note {locs : Locs} {i : ℕ} (hi : i < locs.length) (p : Placed) :
    (note locs p)[i]? = some (locs[i]?.join.or
      (if componentIndex p.entry.name = some i then some p.loc else none)) := by
  have hkept : locs[i]? = some locs[i]?.join := by
    rw [List.getElem?_eq_getElem hi]
    rfl
  unfold note
  cases hindex : componentIndex p.entry.name with
  | none =>
    rw [if_neg (by simp), Option.or_none]
    exact hkept
  | some idx =>
    dsimp only
    by_cases hidx : idx = i
    · subst hidx
      rw [if_pos rfl]
      cases hslot : locs[idx]?.join with
      | some loc =>
        rw [hslot] at hkept
        exact hkept
      | none => exact List.getElem?_set_self hi
    · rw [if_neg (by simpa using hidx), Option.or_none]
      cases locs[idx]?.join with
      | some _ => exact hkept
      | none =>
        dsimp only
        rw [List.getElem?_set_ne hidx]
        exact hkept

/-- A slot keeps what it holds, or takes the first file of its component. -/
theorem getElem?_foldl_note {placed : List Placed} {locs : Locs} {i : ℕ} (hi : i < locs.length) :
    (placed.foldl note locs)[i]? = some (locs[i]?.join.or
      ((placed.find? fun p => componentIndex p.entry.name = some i).map Placed.loc)) := by
  induction placed generalizing locs with
  | nil =>
    rw [List.foldl_nil, List.find?_nil, Option.map_none, Option.or_none,
      List.getElem?_eq_getElem hi]
    rfl
  | cons p placed ih =>
    rw [List.foldl_cons, ih (by rw [length_note]; exact hi), getElem?_note hi, Option.join_some,
      Option.or_assoc]
    congr 2
    by_cases hp : componentIndex p.entry.name = some i
    · rw [if_pos hp, List.find?_cons_of_pos (by simpa using hp)]
      rfl
    · rw [if_neg hp, List.find?_cons_of_neg (by simpa using hp)]
      rfl

/-- The walk over an archive notes its files in order. -/
theorem walkZip_octets (a : Archive) (hsize : a.octets.length < 2 ^ 32)
    (hsig : ¬writeLE 4 SIG_EOCD <:+: a.endRecord.tail) :
    walkZip a.octets = .ok (a.placed.foldl note (List.replicate LFDB_COMPONENTS none)) := by
  obtain ⟨hfind, htotal, hoff⟩ := findEocd_octets a hsize hsig
  have hplaced : ∀ p ∈ a.placed, p.off < 2 ^ 32 ∧ p.entry.data.length < 2 ^ 32 ∧
      localDataOffset a.octets p.off = .ok p.loc.dataOff := by
    intro p hp
    obtain ⟨front, back, hfiles, hp⟩ := placed_record hp
    have hoctets : a.octets = (a.front ++ front) ++
        (fileRecord p.entry ++ (back ++ (a.directory ++ a.endRecord))) := by
      rw [Archive.octets, Archive.body, Archive.files, hfiles]
      simp only [List.append_assoc]
    have hlen := congrArg List.length hoctets
    have hrecord := length_fileRecord p.entry
    simp only [List.length_append] at hlen
    refine ⟨by omega, by omega, ?_⟩
    rw [hoctets, hp, ← List.length_append, localDataOffset_file, Placed.loc, hp,
      List.length_append]
  have hdirectory : a.octets = (a.front ++ a.files) ++
      (a.placed.flatMap directoryRecord ++ a.endRecord) := by
    rw [Archive.octets, Archive.body, Archive.directory]
    simp only [List.append_assoc]
  have hcount : a.entries.length = a.placed.length := (length_place ..).symm
  unfold walkZip
  rw [hfind, okOr_some, ok_bind, htotal, required, okOr_some, ok_bind, hoff, required, okOr_some,
    ok_bind, hcount, ← List.length_append]
  exact walkEntries_directory hplaced hdirectory _

/-- For every archive below 4 GiB in which nothing behind the first octet of the
    end record looks like an end record: the slot of each component holds the
    location of the first file with its basename, or nothing; and no file of
    another name has a slot, `Debug.cap` among them. -/
theorem directory_recovered (a : Archive) (hsize : a.octets.length < 2 ^ 32)
    (hsig : ¬writeLE 4 SIG_EOCD <:+: a.endRecord.tail) :
    ∃ locs : Locs, walkZip a.octets = .ok locs ∧ locs.length = LFDB_COMPONENTS ∧
      (∀ (i : ℕ) (component : List UInt8), COMPONENT_NAMES[i]? = some component →
        locs[i]? = some ((a.placed.find? fun p => IsBasename p.entry.name component).map
          Placed.loc)) ∧
      (∀ p ∈ a.placed, (∀ component ∈ COMPONENT_NAMES, ¬IsBasename p.entry.name component) →
        some p.loc ∉ locs) ∧
      ascii "Debug.cap" ∉ COMPONENT_NAMES := by
  have hnames : COMPONENT_NAMES.length = LFDB_COMPONENTS := rfl
  have hslot : ∀ (i : ℕ) (component : List UInt8), COMPONENT_NAMES[i]? = some component →
      (a.placed.foldl note (List.replicate LFDB_COMPONENTS none))[i]? =
        some ((a.placed.find? fun p => IsBasename p.entry.name component).map Placed.loc) := by
    intro i component hcomponent
    obtain ⟨hi, -⟩ := List.getElem?_eq_some_iff.mp hcomponent
    have hsame : ∀ p : Placed, componentIndex p.entry.name = some i ↔
        IsBasename p.entry.name component := by
      intro p
      rw [componentIndex_eq_some, hcomponent]
      simp
    rw [getElem?_foldl_note (by rw [List.length_replicate]; omega), List.getElem?_replicate]
    simp only [hsame]
    split <;> rfl
  have hlength : (a.placed.foldl note (List.replicate LFDB_COMPONENTS none)).length =
      LFDB_COMPONENTS := by
    rw [length_foldl_note, List.length_replicate]
  refine ⟨_, walkZip_octets a hsize hsig, hlength, hslot, ?_, by decide⟩
  intro p hp hother hmem
  -- the slot holds some file of its component, which lies elsewhere
  obtain ⟨i, hi, hget⟩ := List.getElem_of_mem hmem
  have hcomponent := List.getElem?_eq_getElem (l := COMPONENT_NAMES) (i := i) (by omega)
  have hheld := hslot i _ hcomponent
  rw [List.getElem?_eq_getElem hi, hget] at hheld
  obtain ⟨q, hfind, hq⟩ := Option.map_eq_some_iff.mp (Option.some.inj hheld).symm
  have hdecided := List.find?_some hfind
  have hbase := of_decide_eq_true hdecided
  obtain rfl : q = p :=
    placed_inj (List.mem_of_find?_eq_some hfind) hp (congrArg CompLoc.dataOff hq)
  exact hother _ (List.getElem_mem ..) hbase

/-- A file with nothing to it but a name and its octets. -/
def plainFile (name data : List UInt8) (hname : name.length < 2 ^ 16)
    (hdata : data.length < 2 ^ 32) : FileEntry where
  name := name
  method := METHOD_STORED
  data := data
  uncompSize := data.length
  localExtra := []
  centralExtra := [0x55, 0x54]
  comment := []
  versionMade := 20
  versionNeeded := 20
  flags := 0
  time := 0
  date := 0
  crc := 0
  internalAttributes := 0
  externalAttributes := 0
  method_known := .inl rfl
  name_fits := hname
  uncompSize_fits := hdata
  localExtra_fits := by decide
  centralExtra_fits := by decide
  comment_fits := by decide

/-- An archive with a comment behind octets of something else. -/
def sampleArchive : Archive where
  front := [0x23, 0x21]
  entries :=
    [plainFile (ascii "p/Debug.cap") [0x44] (by decide) (by decide),
      plainFile (ascii "p\\Header.cap") headerOctets (by decide) (by decide),
      plainFile (ascii "Header.cap") [] (by decide) (by decide)]
  comment := ascii "PK"
  entries_fit := by decide
  comment_fits := by decide

/-- The first `Header.cap` of the archive has its slot. -/
theorem directory_recovered_sample :
    ∃ locs : Locs, walkZip sampleArchive.octets = .ok locs ∧
      locs[IDX_HEADER]? = some (some ⟨METHOD_STORED, 86, 18, 18⟩) := by
  obtain ⟨locs, hlocs, -, hslot, -⟩ :=
    directory_recovered sampleArchive (by decide +kernel) (by decide +kernel)
  refine ⟨locs, hlocs, ?_⟩
  rw [hslot IDX_HEADER (ascii "Header.cap") rfl]
  decide +kernel

end Cap

end Scll
