import Scll.Framework.Grouping
import Scll.RegistryLaw

/-! # The keysets of a Key Information Template

    Every `'C0'` entry of a template names keys: one for each of its type and
    length pairs, or a single one when it is in the extended format. The parser
    groups them by key version as it reads. What it returns is the grouping of
    all of them, and it refuses a template exactly when that grouping has more
    keysets, or more keys in one of them, than it has room for.
-/

namespace Scll

namespace Response

open Grouping Tlv

/-! ### The keys of a template -/

/-- The third octet is the marker of the extended format. -/
def isExtended (value : List UInt8) : Bool := value[2]? == some KEY_EXTENDED_MARKER

/-- The keys of one `'C0'`, each with the version it belongs to. An entry of
    less than two octets has none. -/
def entryKeys (value : List UInt8) : List (UInt8 × KeyInfo) :=
  match value with
  | kid :: kvn :: rest =>
      if isExtended value then [(kvn, ⟨kid, .other KEY_EXTENDED_MARKER, 0⟩)]
      else (pairs rest).map fun pair => (kvn, ⟨kid, decodeKeyType pair.1, pair.2⟩)
  | _ => []

/-- The keys of all entries, in the order of the template. -/
def templateKeys (entries : List Tlv) : List (UInt8 × KeyInfo) :=
  (entries.filter fun t => t.tag == TAG_KEY_ENTRY).flatMap fun t => entryKeys t.value

/-- The keysets of keys: one for each version that has a key, in the order of
    the first one, with its keys in order. -/
structure IsGrouping (items : List (UInt8 × KeyInfo)) (keysets : List Keyset) : Prop where
  order : keysets.map Keyset.kvn = keys items
  distinct : (keysets.map Keyset.kvn).Nodup
  members : ∀ set ∈ keysets, set.keys = valuesAt set.kvn items

/-- The keysets the parser has after these keys. -/
def keysetsOf (items : List (UInt8 × KeyInfo)) : List Keyset :=
  (keys items).map fun kvn => ⟨kvn, valuesAt kvn items⟩

theorem isGrouping_keysetsOf (items : List (UInt8 × KeyInfo)) :
    IsGrouping items (keysetsOf items) := by
  have horder : (keysetsOf items).map Keyset.kvn = keys items := by
    simp [keysetsOf, Function.comp_def]
  refine ⟨horder, ?_, fun set hset => ?_⟩
  · rw [horder]
    exact nodup_keys items
  · obtain ⟨kvn, -, rfl⟩ := List.mem_map.mp hset
    rfl

/-- The room of the model. -/
abbrev Held (items : List (UInt8 × KeyInfo)) : Prop := Fits MAX_KEYSETS MAX_KEYS_PER_SET items

/-! ### One key -/

theorem pushKey_new {kvn : UInt8} {key : KeyInfo} {sets : List Keyset} {seen : ℕ}
    (h : ∀ set ∈ sets, set.kvn ≠ kvn) :
    pushKey kvn key sets seen =
      if seen + sets.length < MAX_KEYSETS then .ok (sets ++ [⟨kvn, [key]⟩])
      else .error .tooMany := by
  induction sets generalizing seen with
  | nil => rfl
  | cons set sets ih =>
    rw [List.forall_mem_cons] at h
    simp only [pushKey, if_neg h.1, ih h.2, List.length_cons, Nat.add_right_comm seen 1,
      ← Nat.add_assoc]
    split <;> rfl

theorem pushKey_known {kvn : UInt8} {key : KeyInfo} {as bs : List Keyset} {held : List KeyInfo}
    {seen : ℕ} (h : ∀ set ∈ as, set.kvn ≠ kvn) :
    pushKey kvn key (as ++ ⟨kvn, held⟩ :: bs) seen =
      if held.length < MAX_KEYS_PER_SET then .ok (as ++ ⟨kvn, held ++ [key]⟩ :: bs)
      else .error .tooMany := by
  induction as generalizing seen with
  | nil =>
    simp only [List.nil_append, pushKey, if_true, pushOr]
    split <;> rfl
  | cons set as ih =>
    rw [List.forall_mem_cons] at h
    simp only [List.cons_append, pushKey, if_neg h.1, ih h.2]
    split <;> rfl

/-- Among the keysets so far, the one of a version that has a key. -/
theorem keysetsOf_split {items : List (UInt8 × KeyInfo)} {kvn : UInt8} (h : kvn ∈ keys items) :
    ∃ front back, keys items = front ++ kvn :: back ∧ kvn ∉ front ∧ kvn ∉ back := by
  obtain ⟨front, back, hsplit⟩ := List.append_of_mem h
  have hnodup := nodup_keys items
  rw [hsplit] at hnodup
  obtain ⟨-, hback, hdisjoint⟩ := List.nodup_append.mp hnodup
  exact ⟨front, back, hsplit, fun hmem => hdisjoint _ hmem _ List.mem_cons_self rfl,
    (List.nodup_cons.mp hback).1⟩

/-- The groups of other versions are as before. -/
theorem map_valuesAt_concat {items : List (UInt8 × KeyInfo)} {kvn : UInt8} {key : KeyInfo}
    {kvns : List UInt8} (h : kvn ∉ kvns) :
    (kvns.map fun k => (⟨k, valuesAt k (items ++ [(kvn, key)])⟩ : Keyset)) =
      kvns.map fun k => ⟨k, valuesAt k items⟩ := by
  refine List.map_congr_left fun k hk => ?_
  rw [valuesAt_concat, if_neg]
  rintro rfl
  exact h hk

/-- One key, from the grouping of those before it: it is refused exactly when
    there is no room for it. -/
theorem pushKey_keysetsOf {items : List (UInt8 × KeyInfo)} (h : Held items) (kvn : UInt8)
    (key : KeyInfo) :
    (Held (items ++ [(kvn, key)]) →
      pushKey kvn key (keysetsOf items) 0 = .ok (keysetsOf (items ++ [(kvn, key)]))) ∧
    (¬ Held (items ++ [(kvn, key)]) → pushKey kvn key (keysetsOf items) 0 = .error .tooMany) := by
  by_cases hknown : kvn ∈ keys items
  · -- a version that is known: its group grows by one, the others stay
    obtain ⟨front, back, hsplit, hfront, hback⟩ := keysetsOf_split hknown
    have hbefore : keysetsOf items = (front.map fun k => (⟨k, valuesAt k items⟩ : Keyset)) ++
        ⟨kvn, valuesAt kvn items⟩ :: back.map fun k => ⟨k, valuesAt k items⟩ := by
      rw [keysetsOf, hsplit, List.map_append, List.map_cons]
    have hafter : keysetsOf (items ++ [(kvn, key)]) =
        (front.map fun k => (⟨k, valuesAt k items⟩ : Keyset)) ++
          ⟨kvn, valuesAt kvn items ++ [key]⟩ :: back.map fun k => ⟨k, valuesAt k items⟩ := by
      rw [keysetsOf, keys_concat, if_pos hknown, hsplit, List.map_append, List.map_cons,
        map_valuesAt_concat hfront, map_valuesAt_concat hback, valuesAt_concat, if_pos rfl]
    have hother : ∀ set ∈ front.map (fun k => (⟨k, valuesAt k items⟩ : Keyset)),
        set.kvn ≠ kvn := by
      rintro set hset rfl
      obtain ⟨k, hk, rfl⟩ := List.mem_map.mp hset
      exact hfront hk
    have hroom : Held (items ++ [(kvn, key)]) ↔ (valuesAt kvn items).length < MAX_KEYS_PER_SET :=
      fits_concat_of_mem key h hknown
    rw [hbefore, pushKey_known hother, hroom, hafter]
    exact ⟨fun hroom => if_pos hroom, fun hroom => if_neg hroom⟩
  · -- a new version: one more group, of one key
    have hother : ∀ set ∈ keysetsOf items, set.kvn ≠ kvn := by
      rintro set hset rfl
      obtain ⟨k, hk, rfl⟩ := List.mem_map.mp hset
      exact hknown hk
    have hafter : keysetsOf (items ++ [(kvn, key)]) = keysetsOf items ++ [⟨kvn, [key]⟩] := by
      rw [keysetsOf, keys_concat, if_neg hknown, List.map_append, map_valuesAt_concat hknown,
        List.map_cons, List.map_nil, valuesAt_concat, if_pos rfl, valuesAt_eq_nil hknown]
      rfl
    have hlength : 0 + (keysetsOf items).length = (keys items).length := by
      rw [Nat.zero_add, keysetsOf, List.length_map]
    have hroom : Held (items ++ [(kvn, key)]) ↔ (keys items).length < MAX_KEYSETS :=
      fits_concat_of_not_mem key h hknown (by decide)
    rw [pushKey_new hother, hroom, hafter, hlength]
    exact ⟨fun hroom => if_pos hroom, fun hroom => if_neg hroom⟩

/-! ### All keys -/

/-- The step of the loop over the keys. -/
def pushItem (sets : List Keyset) (item : UInt8 × KeyInfo) : Except TlvError (List Keyset) :=
  pushKey item.1 item.2 sets 0

/-- The loop over keys, from the grouping of those before them. -/
theorem foldlM_pushItem {items more : List (UInt8 × KeyInfo)} (h : Held items) :
    (Held (items ++ more) →
      more.foldlM pushItem (keysetsOf items) = .ok (keysetsOf (items ++ more))) ∧
    (¬ Held (items ++ more) →
      more.foldlM pushItem (keysetsOf items) = .error .tooMany) := by
  induction more generalizing items with
  | nil =>
    rw [List.append_nil]
    exact ⟨fun _ => rfl, fun hfull => absurd h hfull⟩
  | cons item more ih =>
    have hsplit : items ++ item :: more = items ++ [item] ++ more := by
      rw [List.append_assoc]
      rfl
    obtain ⟨hroom, hfull⟩ := pushKey_keysetsOf h item.1 item.2
    rw [hsplit, List.foldlM_cons, pushItem]
    by_cases hheld : Held (items ++ [item])
    · rw [hroom hheld, ok_bind]
      exact ih hheld
    · -- what does not fit does not fit with more keys behind it
      rw [hfull hheld, error_bind]
      exact ⟨fun hall => absurd hall.of_append hheld, fun _ => rfl⟩

/-- One entry: its keys, and the format it is in. -/
theorem keyEntry_eq (info : KeyInformation) (t : Tlv) :
    keyEntry info t = (do
      let keysets ← (entryKeys t.value).foldlM pushItem info.keysets
      .ok ⟨if isExtended t.value then .extended else info.format, keysets⟩) := by
  unfold keyEntry entryKeys
  match t.value with
  | [] => rfl
  | [_] => rfl
  | kid :: kvn :: rest =>
    have hmarker : isExtended (kid :: kvn :: rest) = (rest.head? == some KEY_EXTENDED_MARKER) := by
      rw [isExtended, List.getElem?_cons_succ, List.getElem?_cons_succ, ← List.head?_eq_getElem?]
    dsimp only
    rw [hmarker]
    -- an extended entry is one key, a basic one a key for each pair of octets
    by_cases h : rest.head? = some KEY_EXTENDED_MARKER
    · rw [if_pos h, if_pos (beq_iff_eq.mpr h), if_pos (beq_iff_eq.mpr h), List.foldlM_cons,
        pushItem]
      simp only [List.foldlM_nil, bind_pure]
    · rw [if_neg h, if_neg (by simpa using h), if_neg (by simpa using h), List.foldlM_map]
      rfl

/-- The loop over the entries is the loop over their keys. -/
theorem foldlM_keyEntry (entries : List Tlv) (info : KeyInformation) :
    entries.foldlM keyEntry info = (do
      let keysets ← (entries.flatMap fun t => entryKeys t.value).foldlM pushItem info.keysets
      .ok ⟨if entries.any fun t => isExtended t.value then .extended else info.format,
        keysets⟩) := by
  induction entries generalizing info with
  | nil => rfl
  | cons t entries ih =>
    rw [List.foldlM_cons, keyEntry_eq, List.flatMap_cons, List.foldlM_append, bind_assoc,
      bind_assoc]
    refine congrArg _ (funext fun keysets => ?_)
    rw [ok_bind, ih, List.any_cons]
    by_cases h : isExtended t.value = true
    · simp only [h, if_true, Bool.true_or, ite_self]
    · simp only [h, Bool.false_or]
      rfl

/-! ### The grouping -/

/-- The octets are a template with these entries: a sequence of objects, bare
    or in the first `'E0'`, of no more on a level than are held. -/
def IsTemplate (data : List UInt8) (entries : List Tlv) : Prop :=
  ∃ top, IsSequence data top ∧ top.length ≤ MAX_TLVS ∧
    IsSequence ((find top TAG_KEY_TEMPLATE).getD data) entries ∧ entries.length ≤ MAX_TLVS

theorem parseKeyInformation_eq {data : List UInt8} {entries : List Tlv}
    (h : IsTemplate data entries) :
    parseKeyInformation data =
      (entries.filter fun t => t.tag == TAG_KEY_ENTRY).foldlM keyEntry ⟨.basic, []⟩ := by
  obtain ⟨top, htop, htopFew, hentries, hentriesFew⟩ := h
  unfold parseKeyInformation
  split
  · next hempty =>
    rw [List.isEmpty_iff] at hempty
    subst hempty
    obtain rfl := htop.unique .nil
    obtain rfl := hentries.unique .nil
    rfl
  · rw [parse_iff_isSequence.mpr ⟨htop, htopFew⟩, ok_bind,
      parse_iff_isSequence.mpr ⟨hentries, hentriesFew⟩, ok_bind]

/-- A template is refused exactly when its keys are of more than `MAX_KEYSETS`
    versions or more than `MAX_KEYS_PER_SET` of them are of one. Otherwise its
    keysets are the grouping of its keys, and its format is extended exactly
    when an entry has the marker. -/
theorem key_information_grouped (data : List UInt8) (entries : List Tlv)
    (h : IsTemplate data entries) :
    (parseKeyInformation data = .error .tooMany ↔
      MAX_KEYSETS < (keys (templateKeys entries)).length ∨
        ∃ kvn, MAX_KEYS_PER_SET < (valuesAt kvn (templateKeys entries)).length) ∧
    (∀ e, parseKeyInformation data = .error e → e = .tooMany) ∧
    ∀ info, parseKeyInformation data = .ok info →
      IsGrouping (templateKeys entries) info.keysets ∧
        (info.format = .extended ↔
          ∃ t ∈ entries, t.tag = TAG_KEY_ENTRY ∧ t.value[2]? = some KEY_EXTENDED_MARKER) := by
  -- the source pushes item by item; it fails at the first one without room
  have hfull : ¬ Held (templateKeys entries) ↔
      MAX_KEYSETS < (keys (templateKeys entries)).length ∨
        ∃ kvn, MAX_KEYS_PER_SET < (valuesAt kvn (templateKeys entries)).length := by
    constructor
    · intro hnot
      by_contra hno
      rw [not_or, not_exists] at hno
      exact hnot ⟨Nat.le_of_not_lt hno.1, fun kvn => Nat.le_of_not_lt (hno.2 kvn)⟩
    · rintro (hmany | ⟨kvn, hmany⟩) hheld
      · exact absurd hheld.few (Nat.not_le_of_lt hmany)
      · exact absurd (hheld.small kvn) (Nat.not_le_of_lt hmany)
  have hnil : Held ([] : List (UInt8 × KeyInfo)) := Fits.nil
  obtain ⟨hroom, hover⟩ := @foldlM_pushItem [] (templateKeys entries) hnil
  rw [List.nil_append] at hroom hover
  rw [parseKeyInformation_eq h, foldlM_keyEntry, ← hfull]
  by_cases hheld : Held (templateKeys entries)
  · have hpushed : ((entries.filter fun t => t.tag == TAG_KEY_ENTRY).flatMap
        fun t => entryKeys t.value).foldlM pushItem [] = .ok (keysetsOf (templateKeys entries)) :=
      hroom hheld
    rw [hpushed, ok_bind]
    refine ⟨⟨?_, fun hnot => absurd hheld hnot⟩, ?_, ?_⟩
    · intro he
      cases he
    · intro e he
      cases he
    · intro info hinfo
      obtain rfl := Except.ok.inj hinfo
      refine ⟨isGrouping_keysetsOf _, ?_⟩
      have hany : ((entries.filter fun t => t.tag == TAG_KEY_ENTRY).any
          fun t => isExtended t.value) = true ↔
          ∃ t ∈ entries, t.tag = TAG_KEY_ENTRY ∧ t.value[2]? = some KEY_EXTENDED_MARKER := by
        simp [List.any_eq_true, isExtended]
      rw [← hany]
      dsimp only
      split
      · next hyes => simp [hyes]
      · next hno => simp [hno]
  · have hpushed : ((entries.filter fun t => t.tag == TAG_KEY_ENTRY).flatMap
        fun t => entryKeys t.value).foldlM pushItem [] = .error .tooMany :=
      hover hheld
    rw [hpushed, error_bind]
    refine ⟨⟨fun _ => hheld, fun _ => rfl⟩, ?_, ?_⟩
    · intro e he
      exact (Except.error.inj he).symm
    · intro info hinfo
      cases hinfo

/-- Three entries of two versions, the third of the version of the first. -/
def mixedEntries : List Tlv :=
  [⟨0xC0, [0x01, 0x30, 0x88, 0x10], by decide⟩, ⟨0xC0, [0x01, 0x01, 0x80, 0x10], by decide⟩,
    ⟨0xC0, [0x02, 0x30, 0xB9, 0x00], by decide⟩]

/-- They are grouped by version, and one of them makes the template extended. -/
theorem key_information_grouped_mixed :
    ∃ info, parseKeyInformation
        [0xE0, 0x12, 0xC0, 0x04, 0x01, 0x30, 0x88, 0x10, 0xC0, 0x04, 0x01, 0x01, 0x80, 0x10,
          0xC0, 0x04, 0x02, 0x30, 0xB9, 0x00] = .ok info ∧
      info.keysets.map Keyset.kvn = [0x30, 0x01] ∧ info.format = .extended := by
  have htemplate : IsTemplate
      [0xE0, 0x12, 0xC0, 0x04, 0x01, 0x30, 0x88, 0x10, 0xC0, 0x04, 0x01, 0x01, 0x80, 0x10,
        0xC0, 0x04, 0x02, 0x30, 0xB9, 0x00] mixedEntries := by
    obtain ⟨htop, hfew⟩ := parse_iff_isSequence.mp (show Tlv.parse
      [0xE0, 0x12, 0xC0, 0x04, 0x01, 0x30, 0x88, 0x10, 0xC0, 0x04, 0x01, 0x01, 0x80, 0x10,
        0xC0, 0x04, 0x02, 0x30, 0xB9, 0x00] = .ok
          [⟨0xE0, [0xC0, 0x04, 0x01, 0x30, 0x88, 0x10, 0xC0, 0x04, 0x01, 0x01, 0x80, 0x10,
            0xC0, 0x04, 0x02, 0x30, 0xB9, 0x00], by decide⟩] by decide)
    obtain ⟨hentries, hentriesFew⟩ := parse_iff_isSequence.mp (show Tlv.parse
      [0xC0, 0x04, 0x01, 0x30, 0x88, 0x10, 0xC0, 0x04, 0x01, 0x01, 0x80, 0x10,
        0xC0, 0x04, 0x02, 0x30, 0xB9, 0x00] = .ok mixedEntries by decide)
    exact ⟨_, htop, hfew, hentries, hentriesFew⟩
  obtain ⟨-, -, hok⟩ := key_information_grouped _ mixedEntries htemplate
  obtain ⟨hgrouping, hformat⟩ := hok _ rfl
  refine ⟨_, rfl, ?_, ?_⟩
  · rw [hgrouping.order]
    decide
  · rw [hformat]
    decide

end Response

end Scll
