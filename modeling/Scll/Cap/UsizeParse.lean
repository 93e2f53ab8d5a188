import Scll.Cap.Usize
import Scll.Cap.Metadata
import Scll.Cap.StreamSpec

/-! # Parsing on a machine

    On a machine of 32 bits or more, the parser does what the parser over the
    natural numbers does, as long as the offsets it reads out of the directory
    leave room for the signature behind them. Otherwise it overflows.
-/

namespace Scll

namespace Cap

namespace Usize

open Octets Checked

variable {w : ℕ}

/-! ### Reading -/

theorem pow_le (hw : 32 ≤ w) : 2 ^ 32 ≤ 2 ^ w := Nat.pow_le_pow_right (by decide) hw

theorem required_eq_lift {α : Type} (o : Option α) : required o = lift (Cap.required o) := by
  cases o <;> rfl

theorem okOr_eq_lift {α : Type} (o : Option α) (e : CapError) :
    okOr o e = lift (Scll.okOr o e) := by
  cases o <;> rfl

theorem get_eq_slice (b : List UInt8) (pos n : ℕ) :
    Checked.get b pos (pos + n) = slice b pos n := by
  unfold Checked.get slice
  rw [Nat.add_sub_cancel_left]
  congr 1
  exact propext (by omega)

theorem field_eq (b : List UInt8) {pos n : ℕ} (h : pos + n < 2 ^ w) :
    field w b pos n = .ok (slice b pos n) := by
  rw [field, add_eq h, ok_bind, get_eq_slice]

theorem readU16_eq (b : List UInt8) {pos : ℕ} (h : pos + 2 < 2 ^ w) :
    readU16 w b pos = .ok (Cap.readU16 b pos) := by
  rw [readU16, field_eq b h]
  rfl

theorem readU32_eq (b : List UInt8) {pos : ℕ} (h : pos + 4 < 2 ^ w) :
    readU32 w b pos = .ok (Cap.readU32 b pos) := by
  rw [readU32, field_eq b h]
  rfl

theorem readU32_overflow (b : List UInt8) {pos : ℕ} (h : ¬pos + 4 < 2 ^ w) :
    readU32 w b pos = .error .overflow := by
  rw [readU32, field, add_overflow h]
  rfl

theorem readU16BE_eq (b : List UInt8) {pos : ℕ} (h : pos + 2 < 2 ^ w) :
    readU16BE w b pos = .ok (Cap.readU16BE b pos) := by
  rw [readU16BE, field_eq b h]
  rfl

theorem readU32BE_eq (b : List UInt8) {pos : ℕ} (h : pos + 4 < 2 ^ w) :
    readU32BE w b pos = .ok (Cap.readU32BE b pos) := by
  rw [readU32BE, field_eq b h]
  rfl

/-- A field lies in the octets, and is no longer than they are. -/
theorem readU16_bound {b : List UInt8} {pos n : ℕ} (h : Cap.readU16 b pos = some n) :
    pos + 2 ≤ b.length ∧ n < 2 ^ 16 := by
  obtain ⟨s, hs, rfl⟩ := Option.map_eq_some_iff.mp h
  have hlen := readBE_lt s.reverse
  rw [List.length_reverse, length_slice hs] at hlen
  exact ⟨(slice_eq_some.mp hs).1, hlen⟩

theorem readU32_bound {b : List UInt8} {pos n : ℕ} (h : Cap.readU32 b pos = some n) :
    pos + 4 ≤ b.length ∧ n < 2 ^ 32 := by
  obtain ⟨s, hs, rfl⟩ := Option.map_eq_some_iff.mp h
  have hlen := readBE_lt s.reverse
  rw [List.length_reverse, length_slice hs] at hlen
  exact ⟨(slice_eq_some.mp hs).1, hlen⟩

section directory

variable {zip : List UInt8}

/-! ### The end record -/

theorem findEocdFrom_eq_ok {limit i : ℕ} (hlimit : limit ≤ i) (hi : i + 4 < 2 ^ w) :
    findEocdFrom w zip limit i = .ok (Cap.findEocdFrom zip (i - limit) i) := by
  induction i with
  | zero =>
    rw [findEocdFrom, readU32_eq zip hi, ok_bind, Nat.zero_sub, Cap.findEocdFrom]
    split <;> rfl
  | succ i ih =>
    rw [findEocdFrom, readU32_eq zip hi, ok_bind]
    by_cases hlast : i + 1 = limit
    · rw [if_pos hlast, hlast, Nat.sub_self, Cap.findEocdFrom]
      split <;> rfl
    · rw [if_neg hlast, ih (by omega) (by omega)]
      have hleft : i + 1 - limit = (i - limit) + 1 := by omega
      rw [hleft, Cap.findEocdFrom, Nat.add_sub_cancel]
      split <;> rfl

theorem findEocd_eq_ok (hw : 32 ≤ w) (hzip : zip.length < 2 ^ 31) :
    findEocd w zip = .ok (Cap.findEocd zip) := by
  have hbig := pow_le hw
  unfold findEocd Cap.findEocd
  by_cases hshort : zip.length < EOCD_MIN
  · rw [if_pos hshort, if_pos hshort]
  · have hback : zip.length - EOCD_MIN - (zip.length - EOCD_MIN - 0xFFFF) =
        min (zip.length - EOCD_MIN) 0xFFFF := by omega
    rw [if_neg hshort, if_neg hshort, sub_eq (Nat.le_of_not_lt hshort), ok_bind,
      findEocdFrom_eq_ok (Nat.sub_le ..) (by omega), hback]

theorem findEocdFrom_le {left i k : ℕ} (h : Cap.findEocdFrom zip left i = some k) : k ≤ i := by
  induction left generalizing i with
  | zero =>
    rw [Cap.findEocdFrom] at h
    split at h
    · exact (Option.some.inj h).ge
    · cases h
  | succ left ih =>
    rw [Cap.findEocdFrom] at h
    split at h
    · exact (Option.some.inj h).ge
    · exact (ih h).trans (Nat.sub_le ..)

/-- The end record lies in the archive. -/
theorem findEocd_bound {eocd : ℕ} (h : Cap.findEocd zip = some eocd) :
    eocd + 22 ≤ zip.length := by
  unfold Cap.findEocd EOCD_MIN at h
  split at h
  · cases h
  · have := findEocdFrom_le h
    omega

theorem readU16_index {i : ℕ} (h : i + 1 < zip.length) :
    Cap.readU16 zip i = some (readBE [zip[i + 1], zip[i]]) := by
  have hpiece : (zip.drop i).take 2 = [zip[i], zip[i + 1]] := by
    rw [List.drop_eq_getElem_cons (by omega), List.drop_eq_getElem_cons h]
    rfl
  rw [Cap.readU16, slice, if_pos (by omega), hpiece]
  rfl

/-! ### Local headers -/

theorem localDataOffset_eq (hw : 32 ≤ w) (hzip : zip.length < 2 ^ 31) {localOff : ℕ}
    (h : localOff + 4 < 2 ^ w) :
    localDataOffset w zip localOff = lift (Cap.localDataOffset zip localOff) := by
  have hbig := pow_le hw
  unfold localDataOffset Cap.localDataOffset
  rw [readU32_eq zip h, ok_bind]
  by_cases hsig : Cap.readU32 zip localOff = some SIG_LFH
  -- the signature lies in the archive, so the fields behind it are within reach
  · have hin := (readU32_bound hsig).1
    rw [if_neg (not_not.mpr hsig), if_neg (not_not.mpr hsig), add_eq (by omega), ok_bind,
      readU16_eq zip (by omega), ok_bind]
    refine bind_eq_lift (required_eq_lift _) fun nameLen hname => ?_
    have hname := (readU16_bound (required_eq_ok.mp hname)).2
    rw [add_eq (by omega), ok_bind, readU16_eq zip (by omega), ok_bind]
    refine bind_eq_lift (required_eq_lift _) fun extraLen hextra => ?_
    have hextra := (readU16_bound (required_eq_ok.mp hextra)).2
    rw [checkedAdd_eq (by omega), Option.bind_some, checkedAdd_eq (by omega), Option.bind_some,
      checkedAdd_eq (by omega), required, okOr, ok_bind]
    dsimp only
    split <;> rfl
  · rw [if_pos hsig, if_pos hsig]
    rfl

theorem localDataOffset_overflow {localOff : ℕ} (h : ¬localOff + 4 < 2 ^ w) :
    localDataOffset w zip localOff = .error .overflow := by
  rw [localDataOffset, readU32_overflow zip h]
  rfl

/-! ### Records of the directory -/

/-- The record as the walk over the natural numbers has it. -/
def Record.entry (r : Record) : CentralEntry where
  method := r.method
  compSize := r.compSize
  uncompSize := r.uncompSize
  name := r.name
  localOff := r.localOff
  next := r.nameEnd + r.extraLen + r.commentLen

theorem map_bind_eq_lift {ε α β γ : Type} {m' : Except (Stop ε) α} {m : Except ε α}
    {f' : α → Except (Stop ε) β} {f : α → Except ε γ} {g : β → γ} (hm : m' = lift m)
    (hf : ∀ a, m = .ok a → (f' a).map g = lift (f a)) : (m' >>= f').map g = lift (m >>= f) := by
  subst hm
  cases m with
  | ok a => exact hf a rfl
  | error e => rfl

theorem centralRecord_eq (hw : 32 ≤ w) (hzip : zip.length < 2 ^ 31) {pos : ℕ}
    (h : pos + 4 < 2 ^ w) :
    (centralRecord w zip pos).map Record.entry = lift (Cap.centralEntry zip pos) := by
  have hbig := pow_le hw
  unfold centralRecord Cap.centralEntry
  rw [readU32_eq zip h, ok_bind]
  by_cases hsig : Cap.readU32 zip pos = some SIG_CDH
  -- the same for every field of the record
  · have hin := (readU32_bound hsig).1
    rw [if_neg (not_not.mpr hsig), if_neg (not_not.mpr hsig), add_eq (by omega), ok_bind,
      readU16_eq zip (by omega), ok_bind]
    refine map_bind_eq_lift (required_eq_lift _) fun method _ => ?_
    rw [add_eq (by omega), ok_bind, readU32_eq zip (by omega), ok_bind]
    refine map_bind_eq_lift (required_eq_lift _) fun compSize _ => ?_
    rw [add_eq (by omega), ok_bind, readU32_eq zip (by omega), ok_bind]
    refine map_bind_eq_lift (required_eq_lift _) fun uncompSize _ => ?_
    rw [add_eq (by omega), ok_bind, readU16_eq zip (by omega), ok_bind]
    refine map_bind_eq_lift (required_eq_lift _) fun nameLen hname => ?_
    have hname := (readU16_bound (required_eq_ok.mp hname)).2
    rw [add_eq (by omega), ok_bind, readU16_eq zip (by omega), ok_bind]
    refine map_bind_eq_lift (required_eq_lift _) fun extraLen _ => ?_
    rw [add_eq (by omega), ok_bind, readU16_eq zip (by omega), ok_bind]
    refine map_bind_eq_lift (required_eq_lift _) fun commentLen _ => ?_
    rw [add_eq (by omega), ok_bind, readU32_eq zip (by omega), ok_bind]
    refine map_bind_eq_lift (required_eq_lift _) fun localOff _ => ?_
    rw [add_eq (by omega), ok_bind, checkedAdd_eq (by omega), required, okOr, ok_bind]
    unfold slice
    by_cases hend : pos + 46 + nameLen > zip.length
    · rw [if_pos hend, if_neg (by omega)]
      rfl
    · rw [if_neg hend, if_pos (by omega), between_eq (by omega) (by omega), ok_bind,
        Nat.add_sub_cancel_left]
      rfl
  · rw [if_pos hsig, if_pos hsig]
    rfl

/-- The record behind one that is read starts within reach. -/
theorem centralEntry_bound {pos : ℕ} {e : CentralEntry} (h : Cap.centralEntry zip pos = .ok e) :
    e.next < zip.length + 2 ^ 17 ∧ e.compSize < 2 ^ 32 ∧ e.uncompSize < 2 ^ 32 ∧
      e.localOff < 2 ^ 32 := by
  unfold Cap.centralEntry at h
  split at h
  · cases h
  · obtain ⟨method, -, h⟩ := bind_eq_ok.mp h
    obtain ⟨compSize, hcomp, h⟩ := bind_eq_ok.mp h
    obtain ⟨uncompSize, huncomp, h⟩ := bind_eq_ok.mp h
    obtain ⟨nameLen, -, h⟩ := bind_eq_ok.mp h
    obtain ⟨extraLen, hextra, h⟩ := bind_eq_ok.mp h
    obtain ⟨commentLen, hcomment, h⟩ := bind_eq_ok.mp h
    obtain ⟨localOff, hlocal, h⟩ := bind_eq_ok.mp h
    obtain ⟨name, hname, h⟩ := bind_eq_ok.mp h
    obtain rfl := Except.ok.inj h
    have hextra := (readU16_bound (required_eq_ok.mp hextra)).2
    have hcomment := (readU16_bound (required_eq_ok.mp hcomment)).2
    have hname := (slice_eq_some.mp (required_eq_ok.mp hname)).1
    refine ⟨?_, (readU32_bound (required_eq_ok.mp hcomp)).2,
      (readU32_bound (required_eq_ok.mp huncomp)).2, (readU32_bound (required_eq_ok.mp hlocal)).2⟩
    dsimp only
    omega

/-- The walk looks at the local header of a file: it is the first of its component. -/
def Notes (locs : Locs) (e : CentralEntry) : Prop :=
  ∃ idx, componentIndex e.name = some idx ∧ locs[idx]?.join = none

theorem locate_eq (hw : 32 ≤ w) (hzip : zip.length < 2 ^ 31) {locs : Locs} {r : Record}
    (h : Notes locs r.entry → r.localOff + 4 < 2 ^ w) :
    locate w zip locs r = lift (Cap.locate zip locs r.entry) := by
  unfold locate Cap.locate
  dsimp only [Record.entry]
  cases hindex : componentIndex r.name with
  | none => rfl
  | some idx =>
    dsimp only
    cases hslot : locs[idx]?.join with
    | some _ => rfl
    | none =>
      dsimp only
      refine bind_eq_lift (localDataOffset_eq hw hzip (h ⟨idx, hindex, hslot⟩)) fun dataOff _ => ?_
      rfl

theorem locate_overflow {locs : Locs} {r : Record} (h : Notes locs r.entry)
    (hover : ¬r.localOff + 4 < 2 ^ w) : locate w zip locs r = .error .overflow := by
  obtain ⟨idx, hindex, hslot⟩ := h
  dsimp only [Record.entry] at hindex
  unfold locate
  rw [hindex]
  dsimp only
  rw [hslot]
  dsimp only
  rw [localDataOffset_overflow hover]
  rfl

/-! ### The walk -/

/-- From record to record: how many are left, the position and the slots. -/
inductive WalkStep (zip : List UInt8) : ℕ × ℕ × Locs → ℕ × ℕ × Locs → Prop where
  | next {left pos : ℕ} {locs locs' : Locs} {e : CentralEntry}
      (entry : Cap.centralEntry zip pos = .ok e) (located : Cap.locate zip locs e = .ok locs') :
      WalkStep zip (left + 1, pos, locs) (left, e.next, locs')

/-- Every local header that the walk looks at starts four octets or more below
    the end of the word. -/
def LocalsFit (w : ℕ) (zip : List UInt8) (start : ℕ × ℕ × Locs) : Prop :=
  ∀ left pos locs e, Relation.ReflTransGen (WalkStep zip) start (left + 1, pos, locs) →
    Cap.centralEntry zip pos = .ok e → Notes locs e → e.localOff + 4 < 2 ^ w

theorem localsFit_none (pos : ℕ) (locs : Locs) : LocalsFit w zip (0, pos, locs) := by
  intro left pos' locs' e hreach
  rcases Relation.ReflTransGen.cases_head hreach with heq | ⟨_, hstep, -⟩
  · cases heq
  · cases hstep

theorem localsFit_error {left pos : ℕ} {locs : Locs} {err : CapError}
    (h : Cap.centralEntry zip pos = .error err) : LocalsFit w zip (left + 1, pos, locs) := by
  intro left' pos' locs' e hreach hentry
  rcases Relation.ReflTransGen.cases_head hreach with heq | ⟨_, hstep, -⟩
  · cases heq
    rw [h] at hentry
    cases hentry
  · cases hstep with
    | next hentry' _ =>
      rw [h] at hentry'
      cases hentry'

/-- The local headers of a walk are that of its first record and those behind. -/
theorem localsFit_cons {left pos : ℕ} {locs : Locs} {e : CentralEntry}
    (h : Cap.centralEntry zip pos = .ok e) :
    LocalsFit w zip (left + 1, pos, locs) ↔
      (Notes locs e → e.localOff + 4 < 2 ^ w) ∧
        ∀ locs', Cap.locate zip locs e = .ok locs' → LocalsFit w zip (left, e.next, locs') := by
  constructor
  · intro hfit
    refine ⟨hfit left pos locs e .refl h, ?_⟩
    intro locs' hlocated left' pos' locs'' e' hreach
    exact hfit left' pos' locs'' e' (.head (.next h hlocated) hreach)
  · rintro ⟨hfirst, hrest⟩ left' pos' locs'' e' hreach hentry
    rcases Relation.ReflTransGen.cases_head hreach with heq | ⟨_, hstep, hreach'⟩
    · cases heq
      rw [h] at hentry
      rw [← Except.ok.inj hentry]
      exact hfirst
    · cases hstep with
      | next hentry' hlocated =>
        rw [h] at hentry'
        obtain rfl := Except.ok.inj hentry'
        exact hrest _ hlocated left' pos' locs'' e' hreach' hentry

/-- The walk over a directory that starts within reach: it goes as over the
    natural numbers if the local headers fit, and overflows if one does not. -/
theorem walkEntries_eq (hw : 32 ≤ w) (hzip : zip.length < 2 ^ 31) {left pos : ℕ} {locs : Locs}
    (hpos : left ≠ 0 → pos + 4 < 2 ^ w) :
    (LocalsFit w zip (left, pos, locs) →
      walkEntries w zip left pos locs = lift (Cap.walkEntries zip left pos locs)) ∧
    (¬LocalsFit w zip (left, pos, locs) → walkEntries w zip left pos locs = .error .overflow) := by
  have hbig := pow_le hw
  induction left generalizing pos locs with
  | zero => exact ⟨fun _ => rfl, fun hnot => absurd (localsFit_none pos locs) hnot⟩
  | succ left ih =>
    have hrecord := centralRecord_eq hw hzip (hpos (Nat.succ_ne_zero left))
    unfold walkEntries Cap.walkEntries
    cases hentry : Cap.centralEntry zip pos with
    | error err =>
      refine ⟨fun _ => ?_, fun hnot => absurd (localsFit_error hentry) hnot⟩
      rw [hentry] at hrecord
      cases hr : centralRecord w zip pos with
      | error stop =>
        rw [hr] at hrecord
        exact congrArg Except.error (Except.error.inj hrecord)
      | ok r =>
        rw [hr] at hrecord
        cases hrecord
    | ok e =>
      rw [hentry] at hrecord
      cases hr : centralRecord w zip pos with
      | error stop =>
        rw [hr] at hrecord
        cases hrecord
      | ok r =>
        rw [hr] at hrecord
        obtain rfl : r.entry = e := Except.ok.inj hrecord
        -- whether this record looks at its local header, and those behind it
        rw [localsFit_cons hentry, ok_bind, ok_bind]
        obtain ⟨hnext, -⟩ := centralEntry_bound hentry
        by_cases hfits : Notes locs r.entry → r.localOff + 4 < 2 ^ w
        · rw [locate_eq hw hzip hfits]
          cases hlocated : Cap.locate zip locs r.entry with
          | error err => exact ⟨fun _ => rfl, fun hnot => absurd ⟨hfits, nofun⟩ hnot⟩
          | ok locs' =>
            have hsum : r.nameEnd + r.extraLen + r.commentLen = r.entry.next := rfl
            obtain ⟨hfit, hunfit⟩ := @ih r.entry.next locs' fun _ => by omega
            rw [lift, ok_bind, ok_bind, checkedAdd_eq (by omega), Option.bind_some,
              checkedAdd_eq (by omega), required, okOr, ok_bind, hsum]
            refine ⟨fun hall => hfit (hall.2 locs' rfl),
              fun hnot => hunfit fun hrest => hnot ⟨hfits, ?_⟩⟩
            rintro locs'' hlocs
            rwa [← Except.ok.inj hlocs]
        · refine ⟨fun hall => absurd hall.1 hfits, fun _ => ?_⟩
          push Not at hfits
          rw [locate_overflow hfits.1 (by omega)]
          rfl

theorem walkEntries_overflow {left pos : ℕ} {locs : Locs} (hleft : left ≠ 0)
    (h : ¬pos + 4 < 2 ^ w) : walkEntries w zip left pos locs = .error .overflow := by
  obtain ⟨left, rfl⟩ := Nat.exists_eq_succ_of_ne_zero hleft
  rw [walkEntries, centralRecord, readU32_overflow zip h]
  rfl

/-- The offsets that the directory is walked with leave room for the signature
    behind them: where it starts, if it has records, and the local headers. -/
def DirectoryFits (w : ℕ) (zip : List UInt8) : Prop :=
  ∀ eocd total cdOff, Cap.findEocd zip = some eocd → Cap.readU16 zip (eocd + 10) = some total →
    Cap.readU32 zip (eocd + 16) = some cdOff →
      (total ≠ 0 → cdOff + 4 < 2 ^ w) ∧
        LocalsFit w zip (total, cdOff, List.replicate LFDB_COMPONENTS none)

theorem walkZip_eq (hw : 32 ≤ w) (hzip : zip.length < 2 ^ 31) :
    (DirectoryFits w zip → walkZip w zip = lift (Cap.walkZip zip)) ∧
    (¬DirectoryFits w zip → walkZip w zip = .error .overflow) := by
  have hbig := pow_le hw
  unfold walkZip Cap.walkZip
  rw [findEocd_eq_ok hw hzip, ok_bind]
  cases hfound : Cap.findEocd zip with
  | none =>
    refine ⟨fun _ => rfl, fun hnot => absurd ?_ hnot⟩
    intro eocd total cdOff heocd
    rw [hfound] at heocd
    cases heocd
  | some eocd =>
    have hin := findEocd_bound hfound
    -- the record found lies within the ZIP, so its count is read in bounds
    have htotal : Cap.readU16 zip (eocd + 10) =
        some (readBE [zip[eocd + 10 + 1], zip[eocd + 10]]) := readU16_index (by omega)
    have hlow := List.getElem?_eq_getElem (l := zip) (i := eocd + 10) (by omega)
    have hhigh := List.getElem?_eq_getElem (l := zip) (i := eocd + 10 + 1) (by omega)
    rw [okOr, ok_bind, add_eq (by omega), ok_bind, index_eq hlow, ok_bind, add_eq (by omega),
      ok_bind, index_eq hhigh, ok_bind, add_eq (by omega), ok_bind, readU32_eq zip (by omega),
      ok_bind, Scll.okOr, ok_bind, htotal]
    cases hoff : Cap.readU32 zip (eocd + 16) with
    | none =>
      refine ⟨fun _ => rfl, fun hnot => absurd ?_ hnot⟩
      intro eocd' total cdOff heocd _ hcdOff
      rw [hfound] at heocd
      obtain rfl := Option.some.inj heocd
      rw [hoff] at hcdOff
      cases hcdOff
    | some cdOff =>
      have hfits : DirectoryFits w zip ↔
          (readBE [zip[eocd + 10 + 1], zip[eocd + 10]] ≠ 0 → cdOff + 4 < 2 ^ w) ∧
          LocalsFit w zip (readBE [zip[eocd + 10 + 1], zip[eocd + 10]], cdOff,
            List.replicate LFDB_COMPONENTS none) := by
        constructor
        · exact fun h => h eocd _ cdOff hfound htotal hoff
        · intro h eocd' total cdOff' heocd htotal' hcdOff
          rw [hfound] at heocd
          obtain rfl := Option.some.inj heocd
          rw [htotal] at htotal'
          rw [hoff] at hcdOff
          obtain rfl := Option.some.inj htotal'
          obtain rfl := Option.some.inj hcdOff
          exact h
      rw [hfits, required, okOr, ok_bind, Cap.required, Scll.okOr, ok_bind, Cap.required, Scll.okOr,
        ok_bind]
      generalize readBE [zip[eocd + 10 + 1], zip[eocd + 10]] = total
      -- the walk starts with a checked sum over the offset that the file gives
      by_cases hstart : total ≠ 0 → cdOff + 4 < 2 ^ w
      · obtain ⟨hfit, hunfit⟩ := walkEntries_eq hw hzip hstart
        exact ⟨fun h => hfit h.2, fun hnot => hunfit fun h => hnot ⟨hstart, h⟩⟩
      · refine ⟨fun h => absurd h.1 hstart, fun _ => ?_⟩
        push Not at hstart
        exact walkEntries_overflow hstart.1 (by omega)

/-- Where a component lies, as the walk finds it: its octets start in the
    archive, and its lengths are fields of 32 bits. -/
structure Located (zip : List UInt8) (loc : CompLoc) : Prop where
  dataOff : loc.dataOff ≤ zip.length
  compSize : loc.compSize < 2 ^ 32
  uncompSize : loc.uncompSize < 2 ^ 32

theorem localDataOffset_le {localOff dataOff : ℕ}
    (h : Cap.localDataOffset zip localOff = .ok dataOff) : dataOff ≤ zip.length := by
  unfold Cap.localDataOffset at h
  split at h
  · cases h
  · obtain ⟨_, -, h⟩ := bind_eq_ok.mp h
    obtain ⟨_, -, h⟩ := bind_eq_ok.mp h
    dsimp only at h
    split at h
    · next hle =>
      rw [← Except.ok.inj h]
      exact hle
    · cases h

theorem locate_located {locs locs' : Locs} {pos : ℕ} {e : CentralEntry}
    (hentry : Cap.centralEntry zip pos = .ok e) (h : Cap.locate zip locs e = .ok locs')
    (hlocs : ∀ loc, some loc ∈ locs → Located zip loc) :
    ∀ loc, some loc ∈ locs' → Located zip loc := by
  unfold Cap.locate at h
  split at h
  · rwa [← Except.ok.inj h]
  · split at h
    · rwa [← Except.ok.inj h]
    · obtain ⟨dataOff, hoff, h⟩ := bind_eq_ok.mp h
      obtain rfl := Except.ok.inj h
      obtain ⟨-, hcomp, huncomp, -⟩ := centralEntry_bound hentry
      intro loc hloc
      rcases List.mem_or_eq_of_mem_set hloc with hloc | heq
      · exact hlocs loc hloc
      · obtain rfl := Option.some.inj heq
        exact ⟨localDataOffset_le hoff, hcomp, huncomp⟩

theorem walkEntries_located {left pos : ℕ} {locs locs' : Locs}
    (h : Cap.walkEntries zip left pos locs = .ok locs')
    (hlocs : ∀ loc, some loc ∈ locs → Located zip loc) :
    ∀ loc, some loc ∈ locs' → Located zip loc := by
  induction left generalizing pos locs with
  | zero => rwa [← Except.ok.inj h]
  | succ left ih =>
    obtain ⟨e, hentry, h⟩ := bind_eq_ok.mp h
    obtain ⟨locs₁, hlocated, h⟩ := bind_eq_ok.mp h
    exact ih h (locate_located hentry hlocated hlocs)

/-- Every component that the walk finds. -/
theorem walkZip_located {locs : Locs} (h : Cap.walkZip zip = .ok locs) :
    ∀ loc, some loc ∈ locs → Located zip loc := by
  obtain ⟨_, -, h⟩ := bind_eq_ok.mp h
  obtain ⟨_, -, h⟩ := bind_eq_ok.mp h
  obtain ⟨_, -, h⟩ := bind_eq_ok.mp h
  refine walkEntries_located h ?_
  intro loc hloc
  cases List.eq_of_mem_replicate hloc

end directory

/-! ### Metadata -/

theorem parseHeader_eq (hw : 32 ≤ w) (b : List UInt8) :
    parseHeader w b = lift (Cap.parseHeader b) := by
  have hbig := pow_le hw
  unfold parseHeader Cap.parseHeader
  rw [readU32BE_eq b (by omega), ok_bind]
  refine bind_eq_lift (required_eq_lift _) fun magic _ => ?_
  split
  · rfl
  · refine bind_eq_lift (required_eq_lift _) fun minor _ => ?_
    refine bind_eq_lift (required_eq_lift _) fun major _ => ?_
    refine bind_eq_lift (required_eq_lift _) fun aidLen _ => ?_
    have := aidLen.toNat_lt
    rw [checkedAdd_eq (by omega), required, okOr, ok_bind, get_eq_slice]
    refine bind_eq_lift (required_eq_lift _) fun aidBytes _ => ?_
    exact bind_eq_lift rfl fun aid _ => rfl

theorem parseImportsFrom_eq (hw : 32 ≤ w) {b : List UInt8} (hb : b.length < 2 ^ 31)
    {left p : ℕ} (hp : p ≤ b.length) (imports : List Aid) :
    parseImportsFrom w b left p imports = lift (Cap.parseImportsFrom b left p imports) := by
  have hbig := pow_le hw
  induction left generalizing p imports with
  | zero => rfl
  | succ left ih =>
    unfold parseImportsFrom Cap.parseImportsFrom
    rw [add_eq (by omega), ok_bind]
    refine bind_eq_lift (required_eq_lift _) fun len _ => ?_
    have := len.toNat_lt
    rw [add_eq (by omega), ok_bind, checkedAdd_eq (by omega), required, okOr, ok_bind, get_eq_slice]
    refine bind_eq_lift (required_eq_lift _) fun aidBytes hbytes => ?_
    have hin := (slice_eq_some.mp (required_eq_ok.mp hbytes)).1
    refine bind_eq_lift rfl fun aid _ => ?_
    exact bind_eq_lift rfl fun imports' _ => ih hin imports'

theorem parseAppletsFrom_eq (hw : 32 ≤ w) {b : List UInt8} (hb : b.length < 2 ^ 31)
    {left p : ℕ} (hp : p ≤ b.length) (applets : List AppletEntry) :
    parseAppletsFrom w b left p applets = lift (Cap.parseAppletsFrom b left p applets) := by
  have hbig := pow_le hw
  induction left generalizing p applets with
  | zero => rfl
  | succ left ih =>
    unfold parseAppletsFrom Cap.parseAppletsFrom
    refine bind_eq_lift (required_eq_lift _) fun len _ => ?_
    have := len.toNat_lt
    rw [add_eq (by omega), ok_bind, checkedAdd_eq (by omega), required, okOr, ok_bind, get_eq_slice]
    refine bind_eq_lift (required_eq_lift _) fun aidBytes hbytes => ?_
    have hin := (slice_eq_some.mp (required_eq_ok.mp hbytes)).1
    refine bind_eq_lift rfl fun aid _ => ?_
    rw [readU16BE_eq b (by omega), ok_bind]
    refine bind_eq_lift (required_eq_lift _) fun offset hoffset => ?_
    obtain ⟨s, hs, -⟩ := Option.map_eq_some_iff.mp (required_eq_ok.mp hoffset)
    have hend := (slice_eq_some.mp hs).1
    refine bind_eq_lift rfl fun applets' _ => ?_
    rw [add_eq (by omega), ok_bind]
    exact ih hend applets'

theorem parseImports_eq (hw : 32 ≤ w) {b : List UInt8} (hb : b.length < 2 ^ 31) :
    parseImports w b = lift (Cap.parseImports b) :=
  bind_eq_lift (required_eq_lift _) fun _ hcount =>
    parseImportsFrom_eq hw hb (length_counted hcount) []

theorem parseApplets_eq (hw : 32 ≤ w) {b : List UInt8} (hb : b.length < 2 ^ 31) :
    parseApplets w b = lift (Cap.parseApplets b) :=
  bind_eq_lift (required_eq_lift _) fun _ hcount =>
    parseAppletsFrom_eq hw hb (length_counted hcount) []

section parsing

variable {δ : Type} {I : Inflater δ} {zip : List UInt8}

theorem length_readComponent {loc : CompLoc} {infl infl' : InflateCtx δ} {bytes : List UInt8}
    (h : Cap.readComponent I zip loc infl = .ok (bytes, infl')) :
    bytes.length ≤ INFLATE_WINDOW := by
  obtain ⟨input, -, h⟩ := bind_eq_ok.mp h
  split at h
  · split at h
    · next hfits =>
      obtain ⟨rfl, -⟩ := Prod.mk.inj (Except.ok.inj h)
      exact hfits
    · cases h
  · split at h
    · have hwritten := I.written_le I.new input infl.window 0 true (Nat.zero_le _)
      rw [infl.size, Nat.zero_add] at hwritten
      dsimp only at h
      split at h
      · obtain ⟨rfl, -⟩ := Prod.mk.inj (Except.ok.inj h)
        exact hwritten
      · cases h
    · cases h

/-- The checked addition refuses what the comparison would. -/
theorem readComponent_eq (hw : 32 ≤ w) (hzip : zip.length < 2 ^ 31) (loc : CompLoc)
    (infl : InflateCtx δ) :
    readComponent w I zip loc infl = lift (Cap.readComponent I zip loc infl) := by
  have hbig := pow_le hw
  unfold readComponent Cap.readComponent slice
  by_cases hfits : loc.dataOff + loc.compSize ≤ zip.length
  · rw [checkedAdd_eq (by omega), required, okOr, ok_bind, if_neg (Nat.not_lt.mpr hfits),
      between_eq (Nat.le_add_right ..) hfits, ok_bind, Nat.add_sub_cancel_left, if_pos hfits,
      Cap.required, Scll.okOr, ok_bind]
    by_cases hstored : loc.method = METHOD_STORED
    · rw [if_pos hstored, if_pos hstored]
      split <;> rfl
    · rw [if_neg hstored, if_neg hstored]
      by_cases hdeflate : loc.method = METHOD_DEFLATE
      · rw [if_pos hdeflate, if_pos hdeflate]
        dsimp only
        cases (I.decompress I.new ((zip.drop loc.dataOff).take loc.compSize) infl.window 0
          true).status <;> rfl
      · rw [if_neg hdeflate, if_neg hdeflate]
        rfl
  · -- both refuse it: by the comparison, or by the checked sum before it
    rw [if_neg hfits]
    by_cases hword : loc.dataOff + loc.compSize < 2 ^ w
    · rw [checkedAdd_eq hword, required, okOr, ok_bind, if_pos (Nat.lt_of_not_le hfits)]
      rfl
    · rw [checkedAdd, if_neg hword]
      rfl

theorem readOptional_eq {α : Type} (hw : 32 ≤ w) (hzip : zip.length < 2 ^ 31)
    (loc : Option CompLoc) (infl : InflateCtx δ) {parse' : List UInt8 → Machine (List α)}
    {parse : List UInt8 → Except CapError (List α)}
    (hparse : ∀ b : List UInt8, b.length < 2 ^ 31 → parse' b = lift (parse b)) :
    readOptional w I zip loc infl parse' = lift (Cap.readOptional I zip loc infl parse) := by
  cases loc with
  | none => rfl
  | some loc =>
    refine bind_eq_lift (readComponent_eq hw hzip loc infl) ?_
    rintro ⟨bytes, infl'⟩ hread
    have hlen : bytes.length < 2 ^ 31 := (length_readComponent hread).trans_lt (by decide)
    exact bind_eq_lift (hparse bytes hlen) fun items _ => rfl

/-- Parsing, once the directory is walked. -/
theorem parse_eq (hw : 32 ≤ w) (hzip : zip.length < 2 ^ 31) (infl : InflateCtx δ)
    (hwalk : walkZip w zip = lift (Cap.walkZip zip)) :
    parse w I zip infl = lift (Cap.parse I zip infl) := by
  refine bind_eq_lift hwalk fun locs _ => ?_
  refine bind_eq_lift (okOr_eq_lift _ _) fun headerLoc _ => ?_
  refine bind_eq_lift (readComponent_eq hw hzip headerLoc infl) ?_
  rintro ⟨header, infl₁⟩ -
  refine bind_eq_lift (parseHeader_eq hw header) ?_
  rintro ⟨packageAid, version⟩ -
  refine bind_eq_lift (readOptional_eq hw hzip _ infl₁ fun b hb => parseImports_eq hw hb) ?_
  rintro ⟨imports, infl₂⟩ -
  refine bind_eq_lift (readOptional_eq hw hzip _ infl₂ fun b hb => parseApplets_eq hw hb) ?_
  rintro ⟨applets, infl₃⟩ -
  rfl

/-- Parsing has no fault exactly if the directory fits; then it comes to what it
    does over the natural numbers. -/
theorem parse_safe_iff (hw : 32 ≤ w) (hzip : zip.length < 2 ^ 31) (infl : InflateCtx δ) :
    (Safe (parse w I zip infl) ↔ DirectoryFits w zip) ∧
      (DirectoryFits w zip → parse w I zip infl = lift (Cap.parse I zip infl)) := by
  obtain ⟨hfits, hover⟩ := walkZip_eq hw hzip
  have heq : DirectoryFits w zip → parse w I zip infl = lift (Cap.parse I zip infl) :=
    fun h => parse_eq hw hzip infl (hfits h)
  refine ⟨⟨?_, fun h => ?_⟩, heq⟩
  · intro hsafe
    by_contra hnot
    apply hsafe.1
    rw [parse, hover hnot]
    rfl
  · rw [heq h]
    exact safe_lift _

/-! ### Lengths -/

theorem contentLen_eq (locs : Locs) :
    contentLen w locs =
      if Cap.contentLen locs < 2 ^ w then .ok (Cap.contentLen locs) else .error .overflow :=
  sum_eq _

theorem lfdb_eq {cap : CapFile} (h : Cap.contentLen cap.locs < 2 ^ w) :
    lfdb w cap = .ok cap.lfdb := by
  rw [lfdb, contentLen_eq, if_pos h]
  rfl

theorem lfdb_ok {cap : CapFile} {s : LoadFileDataBlock} (h : lfdb w cap = .ok s) :
    s = cap.lfdb := by
  by_cases hfits : Cap.contentLen cap.locs < 2 ^ w
  · rw [lfdb_eq hfits] at h
    exact (Except.ok.inj h).symm
  · rw [lfdb, contentLen_eq, if_neg hfits] at h
    cases h

/-- The lengths of a load file have no fault exactly if they fit the word. -/
theorem len_safe_iff (cap : CapFile) :
    (Safe (lfdb w cap) ∧ ∀ s, lfdb w cap = .ok s → Safe (len w s)) ↔ cap.lfdb.len < 2 ^ w := by
  have hlen : cap.lfdb.len = (lfdbHeader (Cap.contentLen cap.locs)).length +
      Cap.contentLen cap.locs := rfl
  rw [hlen]
  by_cases hfits : Cap.contentLen cap.locs < 2 ^ w
  · have hadd : len w cap.lfdb =
        add w (lfdbHeader (Cap.contentLen cap.locs)).length (Cap.contentLen cap.locs) := by
      have hlocs : cap.lfdb.locs = cap.locs := rfl
      rw [len, hlocs, contentLen_eq, if_pos hfits]
      rfl
    rw [lfdb_eq hfits]
    constructor
    · rintro ⟨-, hsafe⟩
      by_contra hnot
      apply (hsafe _ rfl).1
      rw [hadd, add_overflow hnot]
    · intro h
      refine ⟨⟨nofun, nofun⟩, ?_⟩
      intro s hs
      rw [← Except.ok.inj hs, hadd, add_eq h]
      exact ⟨nofun, nofun⟩
  · have hlfdb : lfdb w cap = .error .overflow := by
      rw [lfdb, contentLen_eq, if_neg hfits]
      rfl
    rw [hlfdb]
    constructor
    · rintro ⟨hsafe, -⟩
      exact absurd rfl hsafe.1
    · intro h
      omega

end parsing

end Usize

end Cap

end Scll
