import Scll.InventoryLoss
import Scll.TlvRoundTrip

/-! # What the registry parser makes of a registry

    A registry is a sequence of BER-TLV objects, and each of its `'E3'` objects
    is a sequence of fields. The parser is to decode the entries it has room
    for, and to refuse broken octets only. The TLV reader under it has a bound
    of its own, on either level: a registry with more objects is refused, broken
    or not.
-/

namespace Scll

namespace Response

open Octets Sequence Tlv Workflow

/-! ### Well-formed octets -/

/-- The octets of a sequence of objects: identifier, definite length and value
    of each. -/
inductive IsSequence : List UInt8 → List Tlv → Prop where
  | nil : IsSequence [] []
  | cons {ident len rest : List UInt8} {item : Tlv} {items : List Tlv}
      (identifier : IsIdentifier ident) (tag : item.tag.toNat = readBE ident)
      (length : IsLength len item.value.length) (tail : IsSequence rest items) :
      IsSequence (ident ++ len ++ item.value ++ rest) (item :: items)

theorem isSequence_iff {octets : List UInt8} {items : List Tlv} :
    IsSequence octets items ↔ Items Tlv.parseObject octets items := by
  constructor
  · intro h
    induction h with
    | nil => exact .nil
    | cons hident htag hlen _ ih =>
      refine .cons ?_ (parseObject_iff.mpr ⟨_, _, hident, htag, hlen, rfl⟩) ih
      simp [hident.ne_nil]
  · intro h
    induction h with
    | nil => exact .nil
    | cons _ hread _ ih =>
      obtain ⟨ident, len, hident, htag, hlen, rfl⟩ := parseObject_iff.mp hread
      exact .cons hident htag hlen ih

/-- Octets parse when they are a sequence of no more objects than are held. -/
theorem parse_iff_isSequence {octets : List UInt8} {items : List Tlv} :
    Tlv.parse octets = .ok items ↔ IsSequence octets items ∧ items.length ≤ MAX_TLVS := by
  rw [isSequence_iff]
  exact readMany_iff

theorem IsSequence.unique {octets : List UInt8} {items items' : List Tlv}
    (h : IsSequence octets items) (h' : IsSequence octets items') : items = items' :=
  (isSequence_iff.mp h).unique (isSequence_iff.mp h')

/-! ### Entries -/

/-- The values that have a tag, in order. -/
def valuesOf (tag : UInt32) (fields : List Tlv) : List (List UInt8) :=
  (fields.filter fun t => t.tag == tag).map Tlv.value

/-- The entry that fields stand for. -/
structure EntryOf (fields : List Tlv) (e : RegistryEntry) : Prop where
  aid : e.aid = (valuesOf TAG_AID fields).head?.getD []
  lifeCycle : e.lifeCycle = ((valuesOf TAG_LIFE_CYCLE fields).head?.bind List.head?).getD 0
  privileges : [e.privileges.byte0, e.privileges.byte1, e.privileges.byte2] =
    ((valuesOf TAG_PRIVILEGES fields).head?.getD [] ++ [0, 0, 0]).take 3
  associatedSdAid : e.associatedSdAid = (valuesOf TAG_ASSOC_SD_AID fields).head?
  elfAid : e.elfAid = (valuesOf TAG_ELF_AID fields).head?
  modules : e.modules = (valuesOf TAG_MODULE_AID fields).take MAX_MODULES_PER_ELF

theorem head?_valuesOf (tag : UInt32) (fields : List Tlv) :
    (valuesOf tag fields).head? = find fields tag := by
  rw [valuesOf, find, List.head?_map, List.head?_filter]

theorem privilegesTo3_octets (value : Option (List UInt8)) :
    [(privilegesTo3 value).byte0, (privilegesTo3 value).byte1, (privilegesTo3 value).byte2] =
      (value.getD [] ++ [0, 0, 0]).take 3 := by
  unfold privilegesTo3
  match value.getD [] with
  | [] => rfl
  | [_] => rfl
  | [_, _] => rfl
  | _ :: _ :: _ :: _ => rfl

theorem entryOf_iff {fields : List Tlv} {e : RegistryEntry} :
    EntryOf fields e ↔ e = decodeEntry fields := by
  constructor
  · intro h
    obtain ⟨aid, lifeCycle, ⟨byte0, byte1, byte2⟩, associatedSdAid, elfAid, modules⟩ := e
    obtain ⟨rfl, rfl, hprivileges, rfl, rfl, rfl⟩ := h
    simp only [head?_valuesOf] at hprivileges ⊢
    rw [← privilegesTo3_octets, List.cons.injEq, List.cons.injEq, List.cons.injEq] at hprivileges
    obtain ⟨rfl, rfl, rfl, -⟩ := hprivileges
    rfl
  · rintro rfl
    constructor
    · rw [head?_valuesOf]
      rfl
    · rw [head?_valuesOf]
      rfl
    · rw [head?_valuesOf]
      exact privilegesTo3_octets _
    · rw [head?_valuesOf]
      rfl
    · rw [head?_valuesOf]
      rfl
    · rfl

/-- The `'E3'` objects of a sequence. -/
def registries (top : List Tlv) : List Tlv := top.filter fun t => t.tag == TAG_GP_REGISTRY

/-- An `'E3'` object and the entry it holds. -/
def Holds (t : Tlv) (e : RegistryEntry) : Prop :=
  ∃ fields, IsSequence t.value fields ∧ EntryOf fields e

theorem exists_holds {e3s : List Tlv} (h : ∀ t ∈ e3s, ∃ fields, IsSequence t.value fields) :
    ∃ es, List.Forall₂ Holds e3s es := by
  induction e3s with
  | nil => exact ⟨[], .nil⟩
  | cons t e3s ih =>
    rw [List.forall_mem_cons] at h
    obtain ⟨fields, hfields⟩ := h.1
    obtain ⟨es, hes⟩ := ih h.2
    exact ⟨decodeEntry fields :: es, .cons ⟨fields, hfields, entryOf_iff.mpr rfl⟩ hes⟩

/-- As many entries as are held, each of a number of fields that is held. -/
theorem decodeEntries_of_holds {room : ℕ} {e3s : List Tlv} {es : List RegistryEntry}
    (hroom : e3s.length ≤ room) (hholds : List.Forall₂ Holds e3s es)
    (hfew : ∀ t ∈ e3s, ∀ fields, IsSequence t.value fields → fields.length ≤ MAX_TLVS) :
    decodeEntries room e3s = .ok es := by
  induction hholds generalizing room with
  | nil => cases room <;> rfl
  | @cons t e e3s es hhold _ ih =>
    rw [List.length_cons] at hroom
    obtain ⟨room, rfl⟩ : ∃ r, room = r + 1 := ⟨room - 1, by omega⟩
    rw [List.forall_mem_cons] at hfew
    obtain ⟨fields, hfields, hentry⟩ := hhold
    have hparse := parse_iff_isSequence.mpr ⟨hfields, hfew.1 fields hfields⟩
    obtain rfl := entryOf_iff.mp hentry
    rw [decodeEntries, hparse, ok_bind, ih (by omega) hfew.2]
    rfl

/-- Entries that were decoded are held. -/
theorem holds_of_decodeEntries {room : ℕ} {e3s : List Tlv} {es : List RegistryEntry}
    (hroom : e3s.length ≤ room) (h : decodeEntries room e3s = .ok es) :
    List.Forall₂ Holds e3s es ∧
      ∀ t ∈ e3s, ∀ fields, IsSequence t.value fields → fields.length ≤ MAX_TLVS := by
  obtain ⟨hparse, rfl⟩ := decodeEntries_ok hroom h
  constructor
  · rw [List.forall₂_map_right_iff, List.forall₂_same]
    intro t ht
    obtain ⟨fields, hfields⟩ := hparse t ht
    obtain ⟨hsequence, -⟩ := parse_iff_isSequence.mp hfields
    exact ⟨fields, hsequence, entryOf_iff.mpr (entryAt_of_parse hfields)⟩
  · intro t ht fields' hfields'
    obtain ⟨fields, hfields⟩ := hparse t ht
    obtain ⟨hsequence, hfew⟩ := parse_iff_isSequence.mp hfields
    rwa [hfields'.unique hsequence]

/-- A registry that is held on both levels is decoded. -/
theorem parseStatusRegistry_of_holds {octets : List UInt8} {top : List Tlv}
    {es : List RegistryEntry} (h : IsSequence octets top) (htop : top.length ≤ MAX_TLVS)
    (hholds : List.Forall₂ Holds (registries top) es)
    (hfew : ∀ t ∈ registries top, ∀ fields, IsSequence t.value fields → fields.length ≤ MAX_TLVS) :
    parseStatusRegistry octets = .ok es := by
  unfold parseStatusRegistry
  split
  · next hempty =>
    obtain rfl := List.isEmpty_iff.mp hempty
    obtain rfl := h.unique .nil
    cases hholds
    rfl
  · rw [parse_iff_isSequence.mpr ⟨h, htop⟩, ok_bind]
    exact decodeEntries_of_holds ((List.length_filter_le ..).trans htop) hholds hfew

/-- The parser decodes a registry exactly when neither level has more objects
    than the TLV reader holds. -/
theorem registry_capacity_iff {octets : List UInt8} {top : List Tlv}
    (h : IsSequence octets top)
    (hnested : ∀ t ∈ registries top, ∃ fields, IsSequence t.value fields) :
    (∃ es, List.Forall₂ Holds (registries top) es ∧
        parseStatusRegistry octets = .ok (es.take MAX_REGISTRY_ENTRIES)) ↔
      top.length ≤ MAX_TLVS ∧ ∀ t ∈ registries top, ∀ fields, IsSequence t.value fields →
        fields.length ≤ MAX_TLVS := by
  constructor
  · intro ⟨es, hholds, hok⟩
    unfold parseStatusRegistry at hok
    split at hok
    · next hempty =>
      obtain rfl := List.isEmpty_iff.mp hempty
      obtain rfl := h.unique .nil
      exact ⟨Nat.zero_le _, fun t ht => absurd ht List.not_mem_nil⟩
    · obtain ⟨top', htop, hok⟩ := bind_eq_ok.mp hok
      obtain ⟨hsequence, hfew⟩ := parse_iff_isSequence.mp htop
      obtain rfl := h.unique hsequence
      exact ⟨hfew, (holds_of_decodeEntries ((List.length_filter_le ..).trans hfew) hok).2⟩
  · intro ⟨htop, hfew⟩
    obtain ⟨es, hholds⟩ := exists_holds hnested
    refine ⟨es, hholds, ?_⟩
    rw [parseStatusRegistry_of_holds h htop hholds hfew, List.take_of_length_le]
    rw [← hholds.length_eq]
    exact (List.length_filter_le ..).trans htop

/-- An application and a Load File. -/
def sampleRegistry : List Tlv :=
  [⟨TAG_GP_REGISTRY, appletEntry.drop 2, by decide⟩,
    ⟨TAG_GP_REGISTRY, loadFileEntry.drop 2, by decide⟩]

theorem registry_capacity_iff_two :
    ∃ es, List.Forall₂ Holds (registries sampleRegistry) es ∧
      parseStatusRegistry (appletEntry ++ loadFileEntry) = .ok (es.take MAX_REGISTRY_ENTRIES) := by
  have htop : Tlv.parse (appletEntry ++ loadFileEntry) = .ok sampleRegistry := by decide +kernel
  have hfields : ∀ t ∈ registries sampleRegistry, (Tlv.parse t.value).isOk = true := by
    decide +kernel
  have hparsed : ∀ t ∈ registries sampleRegistry, ∃ fields,
      IsSequence t.value fields ∧ fields.length ≤ MAX_TLVS := by
    intro t ht
    obtain ⟨fields, hparse⟩ := isOk_iff.mp (hfields t ht)
    exact ⟨fields, parse_iff_isSequence.mp hparse⟩
  obtain ⟨hsequence, hfew⟩ := parse_iff_isSequence.mp htop
  refine (registry_capacity_iff hsequence ?_).mpr ⟨hfew, ?_⟩
  · intro t ht
    obtain ⟨fields, hseq, -⟩ := hparsed t ht
    exact ⟨fields, hseq⟩
  · intro t ht fields hseq
    obtain ⟨fields', hseq', hlen⟩ := hparsed t ht
    rwa [hseq.unique hseq']

/-! ### One object too many -/

/-- An `'E3'` object without fields. -/
def emptyEntry : Tlv := ⟨TAG_GP_REGISTRY, [], by decide⟩

theorem isSequence_emptyEntry {octets : List UInt8} {items : List Tlv}
    (h : IsSequence octets items) : IsSequence (0xE3 :: 0x00 :: octets) (emptyEntry :: items) := by
  have hlength : IsLength [0x00] emptyEntry.value.length := .inl ⟨by decide, rfl, rfl⟩
  exact .cons (by decide : IsIdentifier [0xE3]) rfl hlength h

/-- A registry of entries without fields. -/
theorem isSequence_replicate (n : ℕ) :
    IsSequence (List.replicate n [0xE3, 0x00]).flatten (List.replicate n emptyEntry) := by
  induction n with
  | zero => exact .nil
  | succ n ih => exact isSequence_emptyEntry ih

theorem registries_replicate (n : ℕ) :
    registries (List.replicate n emptyEntry) = List.replicate n emptyEntry :=
  List.filter_eq_self.mpr fun t ht => by
    rw [List.eq_of_mem_replicate ht]
    rfl

theorem nested_replicate (n : ℕ) : ∀ t ∈ registries (List.replicate n emptyEntry),
    ∃ fields, IsSequence t.value fields := by
  intro t ht
  rw [registries_replicate] at ht
  rw [List.eq_of_mem_replicate ht]
  exact ⟨[], .nil⟩

/-- A registry of sixty-five entries is refused, not truncated. -/
theorem registry_refused_beyond_capacity :
    ¬∀ (octets : List UInt8) (top : List Tlv), IsSequence octets top →
      (∀ t ∈ registries top, ∃ fields, IsSequence t.value fields) →
      ∃ es, List.Forall₂ Holds (registries top) es ∧
        parseStatusRegistry octets = .ok (es.take MAX_REGISTRY_ENTRIES) := by
  intro hlaw
  obtain ⟨es, -, hok⟩ := hlaw _ _ (isSequence_replicate 65) (nested_replicate 65)
  have hrefused : (parseStatusRegistry (List.replicate 65 [0xE3, 0x00]).flatten).isOk = false := by
    decide +kernel
  rw [hok] at hrefused
  cases hrefused

end Response

end Scll
