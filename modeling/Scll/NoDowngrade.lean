import Scll.MutualAuth
import Scll.TestSupport
import Scll.Workflow.Discover

/-! # What a card advertises and what is opened

    A card lists its secure channels in the Card Recognition Data, one `'64'`
    entry each. The parser drops what it cannot represent, discovery puts a
    fallback in an empty list, and the open picks from what is left. No step
    of this may lose a supported SCP03: it is picked wherever it stands in the
    list, and an SCP02 only if there is none.
-/

namespace Scll

namespace Advertised

open Response Workflow

/-! ### The entries of the Card Recognition Data -/

/-- The `'64'` entries, in order. -/
def crdEntries (data : List UInt8) : Except TlvError (List Tlv) :=
  if data.isEmpty then .ok []
  else do
    let top ← Tlv.parse data
    match ← crdBody top with
    | none => .ok []
    | some body => do
        let entries ← Tlv.parse body
        .ok (entries.filter fun t => t.tag == TAG_SCP_ENTRY)

/-- The last octets of the OID of a variant: the protocol and its `i`. -/
def scpOctets : ScpVariant → List UInt8
  | .scp02 i => [0x02, i]
  | .scp03 i => [0x03, i]

/-- The OID of an entry ends in the variant. -/
def Names (entry : Tlv) (v : ScpVariant) : Prop :=
  ∃ tlvs oid, Tlv.parse entry.value = .ok tlvs ∧ find tlvs TAG_OID = some oid ∧ scpOctets v <:+ oid

/-- Some entry names the variant. -/
def Offered (entries : List Tlv) (v : ScpVariant) : Prop := ∃ entry ∈ entries, Names entry v

/-- The card offers an SCP03 that this host can run. -/
def OffersScp03 (entries : List Tlv) (i : UInt8) : Prop :=
  Offered entries (.scp03 i) ∧ Scp03.iSupported i = true

/-- The first entry that names an SCP02. -/
def FirstScp02 (entries : List Tlv) (i : UInt8) : Prop :=
  ∃ before entry after, entries = before ++ entry :: after ∧ Names entry (.scp02 i) ∧
    ∀ b ∈ before, ∀ j, ¬Names b (.scp02 j)

/-- What may be picked from these entries. -/
structure Choice (entries : List Tlv) (pick : Option ScpVariant) : Prop where
  /-- An SCP03 is picked whenever there is one to pick. -/
  scp03 : (∃ i, OffersScp03 entries i) → ∃ i, pick = some (.scp03 i)
  /-- It is the highest. -/
  highest : ∀ i, pick = some (.scp03 i) ↔
    OffersScp03 entries i ∧ ∀ j, OffersScp03 entries j → j ≤ i
  /-- Otherwise it is the first SCP02. -/
  scp02 : (∀ i, ¬OffersScp03 entries i) → ∀ i, FirstScp02 entries i → pick = some (.scp02 i)
  /-- An SCP03 out of scope is not replaced by an SCP02 the card does not have. -/
  refused : (∀ i, ¬OffersScp03 entries i) → (∀ i, ¬Offered entries (.scp02 i)) →
    (∃ i, Offered entries (.scp03 i)) → pick = none
  /-- What is picked is on offer, or there is nothing on offer. -/
  assumed : ∀ v, pick = some v →
    Offered entries v ∨ (∀ u, ¬Offered entries u) ∧ v = .scp02 0x55

/-! ### What the parser keeps -/

/-- The variant of an entry, if it is one the model has. -/
def variantOf (entry : Tlv) : Option ScpVariant :=
  (Tlv.parse entry.value).toOption.bind fun tlvs => (find tlvs TAG_OID).bind oidVariant

theorem oidVariant_eq_some {oid : List UInt8} {v : ScpVariant} :
    oidVariant oid = some v ↔ scpOctets v <:+ oid := by
  rw [← List.reverse_prefix]
  unfold oidVariant
  match hrev : oid.reverse with
  | [] => cases v <;> simp [scpOctets]
  | [b] => cases v <;> simp [scpOctets, List.prefix_cons_iff]
  | i :: scpId :: rest =>
    dsimp only
    unfold scpVariant
    cases v with
    | scp02 j =>
      simp only [scpOctets, List.reverse_cons, List.reverse_nil, List.nil_append,
        List.cons_append, List.cons_prefix_cons, List.nil_prefix, and_true]
      split
      · next h => simp [h, eq_comm]
      · next h => simp [h, eq_comm]
    | scp03 j =>
      simp only [scpOctets, List.reverse_cons, List.reverse_nil, List.nil_append,
        List.cons_append, List.cons_prefix_cons, List.nil_prefix, and_true]
      split
      · next h => simp [h]
      · split
        · next h => simp [h, eq_comm]
        · next h => simp [h, eq_comm]

theorem names_iff {entry : Tlv} {v : ScpVariant} : Names entry v ↔ variantOf entry = some v := by
  unfold Names variantOf
  cases Tlv.parse entry.value with
  | error e => simp [Except.toOption]
  | ok tlvs =>
    simp only [Except.toOption, Option.bind_some, Option.bind_eq_some_iff, oidVariant_eq_some]
    constructor
    · intro h
      obtain ⟨_, oid, htlvs, hfind, hends⟩ := h
      obtain rfl := Except.ok.inj htlvs
      exact ⟨oid, hfind, hends⟩
    · intro h
      obtain ⟨oid, hfind, hends⟩ := h
      exact ⟨tlvs, oid, rfl, hfind, hends⟩

theorem scpEntry_eq_ok {scp out : List ScpVariant} {entry : Tlv} :
    scpEntry scp entry = .ok out ↔
      (Tlv.parse entry.value).isOk ∧ out = scp ++ (variantOf entry).toList ∧
        (variantOf entry ≠ none → scp.length < MAX_SCP_VARIANTS) := by
  unfold scpEntry variantOf
  cases Tlv.parse entry.value with
  | error e => simp [Except.isOk, Except.toBool, error_bind]
  | ok tlvs =>
    rw [ok_bind]
    simp only [Except.toOption, Option.bind_some]
    cases (find tlvs TAG_OID).bind oidVariant with
    | none => simp [Except.isOk, Except.toBool, eq_comm]
    | some v =>
      simp only [pushOr]
      split
      · next h => simp [Except.isOk, Except.toBool, h, eq_comm]
      · next h => simp [Except.isOk, Except.toBool, h]

/-- The parser keeps the variants of all entries, and refuses more than it has
    room for. -/
theorem foldlM_scpEntry {entries : List Tlv} {scp out : List ScpVariant}
    (hscp : scp.length ≤ MAX_SCP_VARIANTS) :
    entries.foldlM scpEntry scp = .ok out ↔
      (∀ entry ∈ entries, (Tlv.parse entry.value).isOk) ∧
        out = scp ++ entries.filterMap variantOf ∧ out.length ≤ MAX_SCP_VARIANTS := by
  induction entries generalizing scp with
  | nil =>
    constructor
    · intro h
      obtain rfl := Except.ok.inj h
      exact ⟨by simp, by simp, hscp⟩
    · intro ⟨_, hout, _⟩
      rw [hout, List.filterMap_nil, List.append_nil]
      rfl
  | cons entry entries ih =>
    -- an entry that names a variant takes a place, any other takes none
    have hlen : (scp ++ (variantOf entry).toList).length ≤ MAX_SCP_VARIANTS ↔
        (variantOf entry ≠ none → scp.length < MAX_SCP_VARIANTS) := by
      cases variantOf entry with
      | none => simpa using hscp
      | some v =>
        rw [List.length_append, Option.toList_some, List.length_singleton]
        exact ⟨fun h _ => h, fun h => h (Option.some_ne_none v)⟩
    have hcons : scp ++ (entry :: entries).filterMap variantOf =
        scp ++ (variantOf entry).toList ++ entries.filterMap variantOf := by
      cases hv : variantOf entry with
      | none => simp [hv]
      | some v => simp [hv]
    rw [List.foldlM_cons, List.forall_mem_cons, hcons]
    constructor
    · intro h
      obtain ⟨mid, hmid, h⟩ := bind_eq_ok.mp h
      obtain ⟨hparse, rfl, hroom⟩ := scpEntry_eq_ok.mp hmid
      obtain ⟨hrest, hout, hcap⟩ := (ih (hlen.mpr hroom)).mp h
      exact ⟨⟨hparse, hrest⟩, hout, hcap⟩
    · intro ⟨⟨hparse, hrest⟩, hout, hcap⟩
      have hmid : (scp ++ (variantOf entry).toList).length ≤ MAX_SCP_VARIANTS := by
        rw [hout, List.length_append] at hcap
        omega
      apply bind_eq_ok.mpr
      exact ⟨_, scpEntry_eq_ok.mpr ⟨hparse, rfl, hlen.mp hmid⟩, (ih hmid).mpr ⟨hrest, hout, hcap⟩⟩

theorem parseCardRecognition_eq (data : List UInt8) :
    parseCardRecognition data = crdEntries data >>= fun entries => entries.foldlM scpEntry [] := by
  unfold parseCardRecognition crdEntries
  split
  · rfl
  · cases Tlv.parse data with
    | error e => rfl
    | ok top =>
      simp only [ok_bind]
      cases crdBody top with
      | error e => rfl
      | ok body =>
        simp only [ok_bind]
        cases body with
        | none => rfl
        | some body =>
          dsimp only
          cases Tlv.parse body with
          | error e => rfl
          | ok entries => rfl

/-- The parser accepts the data of a card exactly when it can read every entry and
    has room for the variants; these are the variants that it returns. -/
theorem parseCardRecognition_eq_ok {data : List UInt8} {scp : List ScpVariant} :
    parseCardRecognition data = .ok scp ↔
      ∃ entries, crdEntries data = .ok entries ∧
        (∀ entry ∈ entries, (Tlv.parse entry.value).isOk) ∧
        scp = entries.filterMap variantOf ∧ scp.length ≤ MAX_SCP_VARIANTS := by
  rw [parseCardRecognition_eq]
  constructor
  · intro h
    obtain ⟨entries, hentries, h⟩ := bind_eq_ok.mp h
    exact ⟨entries, hentries, (foldlM_scpEntry (Nat.zero_le _)).mp h⟩
  · intro ⟨entries, hentries, h⟩
    exact bind_eq_ok.mpr ⟨entries, hentries, (foldlM_scpEntry (Nat.zero_le _)).mpr h⟩

theorem offered_iff {entries : List Tlv} {v : ScpVariant} :
    Offered entries v ↔ v ∈ entries.filterMap variantOf := by
  unfold Offered
  simp only [List.mem_filterMap, names_iff]

/-- Entries in another order are accepted as well, with the same variants. -/
theorem parseCardRecognition_perm {data data' : List UInt8} {entries entries' : List Tlv}
    {scp : List ScpVariant} (hparse : parseCardRecognition data = .ok scp)
    (hentries : crdEntries data = .ok entries) (hentries' : crdEntries data' = .ok entries')
    (hperm : entries'.Perm entries) :
    ∃ scp', parseCardRecognition data' = .ok scp' ∧ scp'.Perm scp := by
  obtain ⟨es, hes, hok, rfl, hcap⟩ := parseCardRecognition_eq_ok.mp hparse
  obtain rfl := Except.ok.inj (hes.symm.trans hentries)
  have hvariants := hperm.filterMap variantOf
  refine ⟨_, parseCardRecognition_eq_ok.mpr ⟨entries', hentries', ?_, rfl, ?_⟩, hvariants⟩
  · intro entry hentry
    exact hok entry (hperm.mem_iff.mp hentry)
  · rw [hvariants.length_eq]
    exact hcap

/-! ### What is picked from a list -/

theorem mem_supportedI {advertised : List ScpVariant} {i : UInt8} :
    i ∈ advertised.filterMap supportedI ↔
      .scp03 i ∈ advertised ∧ Scp03.iSupported i = true := by
  rw [List.mem_filterMap]
  constructor
  · intro ⟨v, hv, hi⟩
    cases v with
    | scp02 j => cases hi
    | scp03 j =>
      simp only [supportedI, Option.ite_none_right_eq_some] at hi
      obtain ⟨hsupported, hij⟩ := hi
      obtain rfl := Option.some.inj hij
      exact ⟨hv, hsupported⟩
  · intro ⟨hv, hsupported⟩
    exact ⟨_, hv, by rw [supportedI, if_pos hsupported]⟩

theorem firstScp02_of_split {before after : List ScpVariant} {i : UInt8}
    (h : ∀ j, ScpVariant.scp02 j ∉ before) :
    firstScp02 (before ++ .scp02 i :: after) = some (.scp02 i) := by
  induction before with
  | nil => rfl
  | cons v before ih =>
    cases v with
    | scp02 j => exact absurd (List.mem_cons_self ..) (h j)
    | scp03 j => exact ih fun k hk => h k (List.mem_cons_of_mem _ hk)

theorem mem_of_firstScp02 {advertised : List ScpVariant} {v : ScpVariant}
    (h : firstScp02 advertised = some v) : v ∈ advertised ∧ ∃ i, v = .scp02 i := by
  induction advertised with
  | nil => cases h
  | cons u rest ih =>
    cases u with
    | scp02 i =>
      obtain rfl := Option.some.inj h
      exact ⟨List.mem_cons_self .., i, rfl⟩
    | scp03 i =>
      obtain ⟨hmem, hform⟩ := ih h
      exact ⟨List.mem_cons_of_mem _ hmem, hform⟩

/-- The greatest octet is an upper bound. -/
instance lawfulOrderMaxUInt8 : Std.LawfulOrderMax UInt8 := by
  have hmax : ∀ a b : UInt8, max a b = if a ≤ b then b else a := fun _ _ => rfl
  apply Std.LawfulOrderMax.of_max_le_iff
  · intro a b c
    rw [hmax]
    simp only [UInt8.le_iff_toNat_le]
    split <;> omega
  · intro a b
    rw [hmax]
    split
    · exact .inr rfl
    · exact .inl rfl

/-- The highest supported SCP03 of the list. -/
theorem selectVariant_scp03 {advertised : List ScpVariant} {i : UInt8} :
    selectVariant advertised none = some (.scp03 i) ↔
      (.scp03 i ∈ advertised ∧ Scp03.iSupported i = true) ∧
        ∀ j, .scp03 j ∈ advertised ∧ Scp03.iSupported j = true → j ≤ i := by
  have hmax : selectVariant advertised none = some (.scp03 i) ↔
      (advertised.filterMap supportedI).max? = some i := by
    unfold selectVariant
    dsimp only
    cases (advertised.filterMap supportedI).max? with
    | none =>
      constructor
      · intro h
        obtain ⟨_, j, hj⟩ := mem_of_firstScp02 h
        cases hj
      · intro h
        cases h
    | some k => simp
  simp only [hmax, List.max?_eq_some_iff, mem_supportedI]

/-- With no supported SCP03 it is the first SCP02, if any. -/
theorem selectVariant_scp02 {advertised : List ScpVariant}
    (h : ∀ i, ¬(.scp03 i ∈ advertised ∧ Scp03.iSupported i = true)) :
    selectVariant advertised none = firstScp02 advertised := by
  have hnil : advertised.filterMap supportedI = [] := by
    apply List.eq_nil_iff_forall_not_mem.mpr
    intro i hi
    exact h i (mem_supportedI.mp hi)
  rw [selectVariant, hnil]
  rfl

/-- What is picked is in the list. -/
theorem mem_of_selectVariant {advertised : List ScpVariant} {v : ScpVariant}
    (h : selectVariant advertised none = some v) : v ∈ advertised := by
  cases v with
  | scp03 i => exact (selectVariant_scp03.mp h).1.1
  | scp02 i =>
    unfold selectVariant at h
    dsimp only at h
    split at h
    · cases h
    · exact (mem_of_firstScp02 h).1

/-- The fallback is no SCP03. -/
theorem scp03_mem_orFallback {scp : List ScpVariant} {i : UInt8} :
    .scp03 i ∈ orFallback scp ↔ .scp03 i ∈ scp := by
  cases scp with
  | nil => simp [orFallback, FALLBACK_SCP]
  | cons v scp => rfl

theorem orFallback_of_mem {scp : List ScpVariant} {v : ScpVariant} (h : v ∈ scp) :
    orFallback scp = scp := by
  cases scp with
  | nil => cases h
  | cons u scp => rfl

/-- The pick from what discovery makes of the entries. -/
theorem choice_selectVariant (entries : List Tlv) :
    Choice entries (selectVariant (orFallback (entries.filterMap variantOf)) none) := by
  have hscp03 : ∀ i, OffersScp03 entries i ↔
      .scp03 i ∈ orFallback (entries.filterMap variantOf) ∧ Scp03.iSupported i = true := by
    intro i
    rw [OffersScp03, offered_iff, scp03_mem_orFallback]
  have hhighest : ∀ i, selectVariant (orFallback (entries.filterMap variantOf)) none =
      some (.scp03 i) ↔ OffersScp03 entries i ∧ ∀ j, OffersScp03 entries j → j ≤ i := by
    intro i
    simp only [hscp03]
    exact selectVariant_scp03
  -- with no supported SCP03 only the SCP02 variants count
  have hfirst (hnone : ∀ i, ¬OffersScp03 entries i) :=
    selectVariant_scp02 fun i hi => hnone i ((hscp03 i).mpr hi)
  refine ⟨?_, hhighest, ?_, ?_, ?_⟩
  · -- an SCP03 is offered, so there is a highest one
    intro ⟨i, hi⟩
    have hne : (orFallback (entries.filterMap variantOf)).filterMap supportedI ≠ [] :=
      List.ne_nil_of_mem (mem_supportedI.mpr ((hscp03 i).mp hi))
    obtain ⟨k, hk⟩ := Option.isSome_iff_exists.mp (List.isSome_max?_iff.mpr hne)
    refine ⟨k, ?_⟩
    rw [selectVariant, hk]
  · -- the first entry that names an SCP02 gives the first SCP02 of the variants
    intro hnone i ⟨before, entry, after, hsplit, hnames, hbefore⟩
    have hvariant := names_iff.mp hnames
    have hmem : ScpVariant.scp02 i ∈ entries.filterMap variantOf :=
      offered_iff.mp ⟨entry, by simp [hsplit], hnames⟩
    rw [hfirst hnone, orFallback_of_mem hmem, hsplit, List.filterMap_append,
      List.filterMap_cons_some hvariant]
    apply firstScp02_of_split
    intro j hj
    obtain ⟨b, hb, hnamesb⟩ := List.mem_filterMap.mp hj
    exact hbefore b hb j (names_iff.mpr hnamesb)
  · -- SCP03 out of scope only: the list is not empty, so no fallback either
    intro hnone hno02 ⟨i, hi⟩
    rw [hfirst hnone, orFallback_of_mem (offered_iff.mp hi)]
    cases hv : firstScp02 (entries.filterMap variantOf) with
    | none => rfl
    | some v =>
      obtain ⟨hmem, j, rfl⟩ := mem_of_firstScp02 hv
      exact absurd (offered_iff.mpr hmem) (hno02 j)
  · intro v hv
    by_cases hsome : ∃ u, Offered entries u
    · obtain ⟨u, hu⟩ := hsome
      rw [orFallback_of_mem (offered_iff.mp hu)] at hv
      exact .inl (offered_iff.mpr (mem_of_selectVariant hv))
    · have hempty : ∀ u, ¬Offered entries u := not_exists.mp hsome
      have hnil : entries.filterMap variantOf = [] := by
        apply List.eq_nil_iff_forall_not_mem.mpr
        intro u hu
        exact hempty u (offered_iff.mpr hu)
      rw [hnil] at hv
      -- the fallback list has one variant
      exact .inr ⟨hempty, (Option.some.inj hv).symm⟩

/-! ### Discovery and the open -/

section runs

variable {τ β : Type} [Transport τ]

/-- After a reset and the SELECT of discovery, the card answers GET DATA `'66'`
    with `data`; empty if it has none. -/
def AnswersCrd (aid : Option (List UInt8)) (w : World τ β) (data : List UInt8) : Prop :=
  ∃ atr sel get fci answer field sw crd,
    (Transport.reset w.transport).1 = .ok atr ∧
    Capdu.selectByAid (aid.getD []) = .ok sel ∧ Capdu.getData Workflow.TAG_CRD = .ok get ∧
    transcript [sel, get] (Transport.reset w.transport).2 = [(sel, .ok fci), (get, .ok answer)] ∧
    splitSw answer.octets = .ok (field, sw) ∧ optionalData field sw = .ok crd ∧
    data = crd.getD []

/-- There is one answer. -/
theorem AnswersCrd.unique {aid : Option (List UInt8)} {w : World τ β} {data data' : List UInt8}
    (h : AnswersCrd aid w data) (h' : AnswersCrd aid w data') : data = data' := by
  obtain ⟨_, sel, get, fci, answer, field, sw, crd, -, hsel, hget, hrun, hsplit, hcrd, rfl⟩ := h
  obtain ⟨_, sel', get', fci', answer', field', sw', crd', -, hsel', hget', hrun', hsplit', hcrd',
    rfl⟩ := h'
  obtain rfl := Except.ok.inj (hsel.symm.trans hsel')
  obtain rfl := Except.ok.inj (hget.symm.trans hget')
  obtain ⟨-, rfl⟩ : fci = fci' ∧ answer = answer' := by simpa using hrun.symm.trans hrun'
  obtain ⟨rfl, rfl⟩ := Prod.mk.inj (Except.ok.inj (hsplit.symm.trans hsplit'))
  rw [Except.ok.inj (hcrd.symm.trans hcrd')]

theorem optionalGetData_ok {tag : UInt16} {w w' : World τ β} {found : Option (List UInt8)}
    (h : optionalGetData tag w = (.ok found, w')) :
    ∃ get answer field sw, Capdu.getData tag = .ok get ∧
      (Transport.transmit get w.transport).1 = .ok answer ∧
      splitSw answer.octets = .ok (field, sw) ∧ optionalData field sw = .ok found := by
  obtain ⟨get, w₁, hget, h⟩ := Prog.bind_eq_ok.mp h
  obtain ⟨hbuilt, rfl⟩ := Prog.lift_eq_ok.mp hget
  obtain ⟨⟨field, sw⟩, w₂, htransmit, h⟩ := Prog.bind_eq_ok.mp h
  obtain ⟨answer, hanswer, hsplit⟩ := transmitPlain_ok htransmit
  exact ⟨get, answer, field, sw, ofBuild_eq_ok.mp hbuilt, hanswer, hsplit, (Prog.lift_eq_ok.mp h).1⟩

theorem reset_ok {w w' : World τ β} {atr : AtrAts}
    (h : (reset : Prog (World τ β) ScllError AtrAts) w = (.ok atr, w')) :
    (Transport.reset w.transport).1 = .ok atr ∧ w'.transport = (Transport.reset w.transport).2 := by
  obtain ⟨hok, rfl⟩ := Prod.mk.inj h
  simp only [Prog.mapErr] at hok
  refine ⟨?_, rfl⟩
  cases hr : (Transport.reset w.transport).1 with
  | ok a =>
    rw [hr] at hok
    rw [Except.ok.inj hok]
  | error e =>
    rw [hr] at hok
    cases hok

theorem recognition_eq_ok {crd : Option (List UInt8)} {raw : List UInt8} {scp : List ScpVariant}
    (h : recognition crd = .ok (raw, scp)) : parseCardRecognition (crd.getD []) = .ok scp := by
  cases crd with
  | none =>
    obtain ⟨-, rfl⟩ := Prod.mk.inj (Except.ok.inj h)
    rfl
  | some data =>
    obtain ⟨parsed, hparsed, h⟩ := bind_eq_ok.mp h
    obtain ⟨-, rfl⟩ := Prod.mk.inj (Except.ok.inj h)
    exact mapError_eq_ok.mp hparsed

/-- Discovery reports the variants of the Card Recognition Data it was given. -/
theorem discoverCard_scp {aid : Option (List UInt8)} {info : CardInfo} {w w' : World τ β}
    (h : discoverCard aid w = (.ok info, w')) :
    ∃ data scp, AnswersCrd aid w data ∧ parseCardRecognition data = .ok scp ∧
      info.scpSupported = orFallback scp := by
  unfold discoverCard at h
  obtain ⟨atr, w₁, hreset, h⟩ := Prog.bind_eq_ok.mp h
  obtain ⟨fci, w₂, hselect, h⟩ := Prog.bind_eq_ok.mp h
  obtain ⟨isdAid, w₃, haid, h⟩ := Prog.bind_eq_ok.mp h
  obtain ⟨-, rfl⟩ := Prog.lift_eq_ok.mp haid
  obtain ⟨crd, w₄, hcrd, h⟩ := Prog.bind_eq_ok.mp h
  obtain ⟨⟨raw, scp⟩, w₅, hparsed, h⟩ := Prog.bind_eq_ok.mp h
  obtain ⟨hscp, rfl⟩ := Prog.lift_eq_ok.mp hparsed
  -- what is read after the recognition data leaves the variants alone
  obtain ⟨kit, w₆, -, h⟩ := Prog.bind_eq_ok.mp h
  obtain ⟨keys, w₇, -, h⟩ := Prog.bind_eq_ok.mp h
  obtain ⟨cci, w₈, -, h⟩ := Prog.bind_eq_ok.mp h
  obtain ⟨capabilities, w₉, -, h⟩ := Prog.bind_eq_ok.mp h
  obtain ⟨iin, w₁₀, -, h⟩ := Prog.bind_eq_ok.mp h
  obtain ⟨cin, w₁₁, -, h⟩ := Prog.bind_eq_ok.mp h
  obtain ⟨cplc, w₁₂, -, h⟩ := Prog.bind_eq_ok.mp h
  obtain ⟨hinfo, -⟩ := Prod.mk.inj h
  obtain ⟨hatr, htransport⟩ := reset_ok hreset
  obtain ⟨sel, hsel, hfci⟩ := select_ok hselect
  obtain ⟨rapdu, hrapdu, -⟩ := hfci.answer
  obtain ⟨get, answer, field, sw, hget, hanswer, hsplit, hfound⟩ := optionalGetData_ok hcrd
  refine ⟨crd.getD [], scp, ?_, recognition_eq_ok hscp, ?_⟩
  · refine ⟨atr, sel, get, rapdu, answer, field, sw, crd, hatr, hsel, hget, ?_, hsplit, hfound, rfl⟩
    rw [hfci.sent.transport] at hanswer
    rw [htransport] at hrapdu hanswer
    simp only [after] at hanswer
    simp only [transcript, hrapdu, hanswer]
  · rw [← Except.ok.inj hinfo]

variable [KeyBackend β] [Scp03Backend β] [Scp02Backend β]

/-- The protocol of a variant. -/
def protocolOf : ScpVariant → ScpProtocol
  | .scp02 _ => .scp02
  | .scp03 _ => .scp03

/-- The open follows the pick: without one it refuses and sends nothing, and with
    one the channel it opens is of that protocol. -/
def Follows (pick : Option ScpVariant) (args : OpenScpArgs) (w : World τ β) : Prop :=
  match pick with
  | none => openScp args w = (.error .scpProtocolUnsupported, w)
  | some v => ∀ report w', openScp args w = (.ok report, w') →
      report.effective.scpProtocolEffective = protocolOf v

theorem openScp_follows (args : OpenScpArgs) (w : World τ β) :
    Follows (selectVariant args.advertised args.forceScp) args w := by
  cases hpick : selectVariant args.advertised args.forceScp with
  | none =>
    -- the target is selected before anything is sent
    show openScp args w = _
    unfold openScp
    apply Prog.bind_error
    unfold selectTarget
    rw [hpick]
    rfl
  | some v =>
    intro report w' h
    obtain ⟨target, w₀, ea, opened, w₁, data, htarget, hbegun, -, rfl⟩ := openScp_ok h
    have hv : v = target.variant :=
      Option.some.inj (hpick.symm.trans (selectTarget_ok htarget).1)
    cases hbegun with
    | scp03 variant _ _ _ =>
      rw [hv, variant]
      rfl
    | scp02 variant _ _ _ =>
      rw [hv, variant]
      rfl

/-- Whatever a card advertises, discovery and the open lose no supported SCP03: it
    is picked if an entry names one, the highest, in whatever order the entries
    stand; otherwise the first SCP02 is, or the open is refused if there are only
    SCP03 variants out of scope; and the fallback is for a card that offers nothing. -/
theorem no_downgrade {data : List UInt8} {scp : List ScpVariant}
    (hparse : parseCardRecognition data = .ok scp) :
    ∃ entries, crdEntries data = .ok entries ∧
      Choice entries (selectVariant (orFallback scp) none) ∧
      (∀ data' entries', crdEntries data' = .ok entries' → entries'.Perm entries →
        ∃ scp', parseCardRecognition data' = .ok scp' ∧
          ∀ i, selectVariant (orFallback scp') none = some (.scp03 i) ↔
            selectVariant (orFallback scp) none = some (.scp03 i)) ∧
      (∀ aid info (w w' : World τ β), discoverCard aid w = (.ok info, w') →
        AnswersCrd aid w data → info.scpSupported = orFallback scp) ∧
      ∀ args (w : World τ β), args.advertised = orFallback scp → args.forceScp = none →
        Follows (selectVariant (orFallback scp) none) args w := by
  obtain ⟨entries, hentries, -, hscp, -⟩ := parseCardRecognition_eq_ok.mp hparse
  refine ⟨entries, hentries, ?_, ?_, ?_, ?_⟩
  · rw [hscp]
    exact choice_selectVariant entries
  · intro data' entries' hentries' hperm
    obtain ⟨scp', hparse', hperm'⟩ := parseCardRecognition_perm hparse hentries hentries' hperm
    -- the highest supported SCP03 is one of the set, whatever its order
    refine ⟨scp', hparse', fun i => ?_⟩
    simp only [selectVariant_scp03, scp03_mem_orFallback, hperm'.mem_iff]
  · intro aid info w w' hdiscover hanswers
    -- the transport answers once, so discovery has parsed these data
    obtain ⟨data', scp', hanswers', hparse', hinfo⟩ := discoverCard_scp hdiscover
    obtain rfl := hanswers.unique hanswers'
    rw [hinfo, Except.ok.inj (hparse'.symm.trans hparse)]
  · intro args w hadvertised hforce
    have hfollows := openScp_follows args w
    rwa [hadvertised, hforce] at hfollows

end runs

/-- Recognition data that list SCP02 before two SCP03 variants. -/
def scp02First : List UInt8 :=
  [0x66, 0x14, 0x73, 0x12, 0x64, 0x04, 0x06, 0x02, 0x02, 0x55, 0x64, 0x04, 0x06, 0x02, 0x03, 0x30,
    0x64, 0x04, 0x06, 0x02, 0x03, 0x70]

theorem parse_scp02First :
    parseCardRecognition scp02First = .ok [.scp02 0x55, .scp03 0x30, .scp03 0x70] := by
  decide +kernel

/-- They still lead to the highest SCP03. -/
theorem no_downgrade_scp02_first :
    ∃ entries, crdEntries scp02First = .ok entries ∧ Choice entries (some (.scp03 0x70)) := by
  obtain ⟨entries, hentries, hchoice, -⟩ :=
    @no_downgrade Script (RustCryptoBackend Primitives.xorCipher Unit) _ _ _ _ _ _ parse_scp02First
  exact ⟨entries, hentries, hchoice⟩

end Advertised

end Scll
