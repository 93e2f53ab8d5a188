import Scll.InventoryLaw

/-! # What an inventory leaves out

    An inventory is to show every registry entry the card reported, or to be
    flagged as truncated and carry a warning. The flag says that a capacity is
    exceeded. Three kinds of entries can go missing without it: all of a scope
    that ends in `6A88` after pages of data, the entry of the application scope
    that carries the AID of the ISD, and modules past the capacity of a Load
    File. An inventory without the flag is lossless exactly when whatever is
    dropped so is shown by another entry as well.
-/

namespace Scll

namespace Workflow

open Response Sequence

/-! ### Entries -/

/-- The three registry scopes. -/
inductive RegistryScope where
  | isd
  | applications
  | loadFiles
  deriving DecidableEq

/-- One value for each scope. -/
def byScope {α : Type} (isd applications loadFiles : α) : RegistryScope → α
  | .isd => isd
  | .applications => applications
  | .loadFiles => loadFiles

theorem exists_scope_iff {p : RegistryScope → Prop} :
    (∃ s, p s) ↔ p .isd ∨ p .applications ∨ p .loadFiles := by
  constructor
  · rintro ⟨s, hs⟩
    cases s with
    | isd => exact .inl hs
    | applications => exact .inr (.inl hs)
    | loadFiles => exact .inr (.inr hs)
  · rintro (hs | hs | hs)
    · exact ⟨_, hs⟩
    · exact ⟨_, hs⟩
    · exact ⟨_, hs⟩

def RegistryScope.p1 : RegistryScope → UInt8
  | isd => P1_ISD_SCOPE
  | applications => P1_APP_SD_SCOPE
  | loadFiles => P1_ELF_MODULE_SCOPE

/-- An entry with all of its modules. -/
def entryOf (fields : List Tlv) : RegistryEntry :=
  { decodeEntry fields with
    modules := (fields.filter fun t => t.tag == TAG_MODULE_AID).map Tlv.value }

/-- An `'E3'` entry that the octets contain. -/
def EntryIn (octets : List UInt8) (e : RegistryEntry) : Prop :=
  ∃ t fields, Occurs Tlv.parseObject octets t ∧ t.tag = TAG_GP_REGISTRY ∧
    Items Tlv.parseObject t.value fields ∧ e = entryOf fields

/-- As many modules as the model holds. -/
def RegistryEntry.clip (e : RegistryEntry) : RegistryEntry :=
  { e with modules := e.modules.take MAX_MODULES_PER_ELF }

theorem decodeEntry_eq (fields : List Tlv) :
    decodeEntry fields = RegistryEntry.clip (entryOf fields) := rfl

/-- The entry that an `'E3'` decodes to. -/
def entryAt (t : Tlv) : RegistryEntry := decodeEntry ((Tlv.parse t.value).toOption.getD [])

theorem entryAt_of_parse {t : Tlv} {fields : List Tlv} (h : Tlv.parse t.value = .ok fields) :
    entryAt t = decodeEntry fields := by
  rw [entryAt, h]
  rfl

/-- The entries of a template that is short enough: one for each `'E3'`, in order. -/
theorem decodeEntries_ok {room : ℕ} {e3s : List Tlv} {es : List RegistryEntry}
    (hroom : e3s.length ≤ room) (h : decodeEntries room e3s = .ok es) :
    (∀ t ∈ e3s, ∃ fields, Tlv.parse t.value = .ok fields) ∧ es = e3s.map entryAt := by
  induction e3s generalizing room es with
  | nil =>
    cases room <;> obtain rfl := Except.ok.inj h <;> simp
  | cons t e3s ih =>
    rw [List.length_cons] at hroom
    -- there is room for one more, so the loop does not stop at this entry
    obtain ⟨room, rfl⟩ : ∃ r, room = r + 1 := ⟨room - 1, by omega⟩
    obtain ⟨fields, hfields, h⟩ := bind_eq_ok.mp h
    obtain ⟨rest, hrest, h⟩ := bind_eq_ok.mp h
    obtain rfl := Except.ok.inj h
    obtain ⟨hparse, rfl⟩ := ih (by omega) hrest
    constructor
    · rw [List.forall_mem_cons]
      exact ⟨⟨fields, hfields⟩, hparse⟩
    · rw [List.map_cons, entryAt_of_parse hfields]

theorem mem_decodeEntries {room : ℕ} {e3s : List Tlv} {es : List RegistryEntry}
    (hroom : e3s.length ≤ room) (h : decodeEntries room e3s = .ok es) :
    (∀ t ∈ e3s, ∃ fields, Tlv.parse t.value = .ok fields) ∧
      ∀ e, e ∈ es ↔
        ∃ t ∈ e3s, ∃ fields, Tlv.parse t.value = .ok fields ∧ e = decodeEntry fields := by
  obtain ⟨hparse, rfl⟩ := decodeEntries_ok hroom h
  refine ⟨hparse, fun e => ?_⟩
  rw [List.mem_map]
  constructor
  · intro ⟨t, ht, hentry⟩
    obtain ⟨fields, hfields⟩ := hparse t ht
    exact ⟨t, ht, fields, hfields, by rw [← hentry, entryAt_of_parse hfields]⟩
  · intro ⟨t, ht, fields, hfields, hentry⟩
    exact ⟨t, ht, by rw [hentry, entryAt_of_parse hfields]⟩

/-- What the registry parser yields: the entries in the octets, clipped. -/
theorem mem_parseStatusRegistry {octets : List UInt8} {es : List RegistryEntry}
    (h : parseStatusRegistry octets = .ok es) (e : RegistryEntry) :
    e ∈ es ↔ ∃ e', EntryIn octets e' ∧ e = RegistryEntry.clip e' := by
  unfold parseStatusRegistry at h
  split at h
  -- no octets hold no entry
  · next hempty =>
    obtain rfl := List.isEmpty_iff.mp hempty
    obtain rfl := Except.ok.inj h
    constructor
    · intro he
      cases he
    · rintro ⟨_, ⟨t, _, hoccurs, _⟩, _⟩
      exact absurd ((Items.nil.occurs_iff t).mp hoccurs) List.not_mem_nil
  · obtain ⟨top, htop, h⟩ := bind_eq_ok.mp h
    obtain ⟨hitems, hfew⟩ := readMany_iff.mp htop
    -- no more entries than items were read, so the capacity of the list is not reached
    have hroom : (top.filter fun t => t.tag == TAG_GP_REGISTRY).length ≤ MAX_REGISTRY_ENTRIES :=
      (List.length_filter_le ..).trans hfew
    obtain ⟨hparse, hmem⟩ := mem_decodeEntries hroom h
    have hitem : ∀ t, t ∈ top.filter (fun t => t.tag == TAG_GP_REGISTRY) ↔
        Occurs Tlv.parseObject octets t ∧ t.tag = TAG_GP_REGISTRY := by
      intro t
      rw [hitems.occurs_iff, List.mem_filter, beq_iff_eq]
    rw [hmem]
    constructor
    · rintro ⟨t, ht, fields, hfields, rfl⟩
      obtain ⟨hoccurs, htag⟩ := (hitem t).mp ht
      exact ⟨entryOf fields, ⟨t, fields, hoccurs, htag, (readMany_iff.mp hfields).1, rfl⟩,
        decodeEntry_eq fields⟩
    · rintro ⟨_, ⟨t, fields, hoccurs, htag, hfields, rfl⟩, rfl⟩
      have ht := (hitem t).mpr ⟨hoccurs, htag⟩
      obtain ⟨fields', hfields'⟩ := hparse t ht
      obtain rfl := hfields.unique (readMany_iff.mp hfields').1
      exact ⟨t, ht, fields, hfields', rfl⟩

/-! ### Lines -/

/-- What an inventory shows of an entry. -/
inductive Line where
  | securityDomain (aid : List UInt8) (lifeCycle : UInt8) (privileges : Privileges)
  | application (aid : List UInt8) (lifeCycle : UInt8) (privileges : Privileges)
  | loadFile (aid : List UInt8) (lifeCycle : UInt8) (modules : List Aid)

/-- The line an entry is to have: its life cycle, and its privileges or all its
    valid modules. -/
def lineOf (s : RegistryScope) (e : RegistryEntry) : Line :=
  match s with
  | .isd => .securityDomain e.aid e.lifeCycle e.privileges
  | .applications =>
      if RegistryEntry.isSecurityDomain e then .securityDomain e.aid e.lifeCycle e.privileges
      else .application e.aid e.lifeCycle e.privileges
  | .loadFiles => .loadFile e.aid e.lifeCycle (e.modules.filterMap Aid.ofOctets?)

/-- The inventory shows the line. -/
def Shows (inv : CardInventory) : Line → Prop
  | .securityDomain aid lifeCycle privileges => ∃ d ∈ inv.securityDomains,
      d.aid.bytes = aid ∧ d.lifeCycleState = lifeCycle ∧ d.privileges = privileges
  | .application aid lifeCycle privileges => ∃ a ∈ inv.applets,
      a.aid.bytes = aid ∧ a.lifeCycleState = lifeCycle ∧ a.privileges = privileges
  | .loadFile aid lifeCycle modules => ∃ f ∈ inv.elfs,
      f.aid.bytes = aid ∧ f.lifeCycleState = lifeCycle ∧ f.modules = modules

/-- The line of an inventory item. -/
def Item.line : Item → Line
  | .securityDomain d => .securityDomain d.aid.bytes d.lifeCycleState d.privileges
  | .application a => .application a.aid.bytes a.lifeCycleState a.privileges
  | .elf f => .loadFile f.aid.bytes f.lifeCycleState f.modules

/-- A list that does not exceed its capacity holds everything. -/
theorem take_of_not_exceeds {α : Type} {cap : ℕ} {v : List α} (h : exceeds cap v = false) :
    v.take cap = v := by
  apply List.take_of_length_le
  simpa [exceeds] using h

/-- An inventory that nothing overflowed shows the lines of its items, and no others. -/
theorem shows_addItems {items : List Item} (h : overflows noInventory items = false)
    (line : Line) : Shows (addItems noInventory items) line ↔ ∃ i ∈ items, i.line = line := by
  simp only [overflows, List.nil_append, Bool.or_eq_false_iff] at h
  obtain ⟨⟨h₁, h₂⟩, h₃⟩ := h
  -- each list of the inventory takes the items of its own kind, in order
  cases line with
  | securityDomain aid lifeCycle privileges =>
    simp only [Shows, addItems, List.nil_append, take_of_not_exceeds h₁,
      List.mem_filterMap]
    constructor
    · rintro ⟨d, ⟨i, hi, hd⟩, rfl, rfl, rfl⟩
      cases i <;> cases hd
      exact ⟨_, hi, rfl⟩
    · rintro ⟨i, hi, hline⟩
      cases i with
      | securityDomain d =>
        obtain ⟨rfl, rfl, rfl⟩ := Line.securityDomain.inj hline
        exact ⟨d, ⟨_, hi, rfl⟩, rfl, rfl, rfl⟩
      | _ => cases hline
  | application aid lifeCycle privileges =>
    simp only [Shows, addItems, List.nil_append, take_of_not_exceeds h₂,
      List.mem_filterMap]
    constructor
    · rintro ⟨d, ⟨i, hi, hd⟩, rfl, rfl, rfl⟩
      cases i <;> cases hd
      exact ⟨_, hi, rfl⟩
    · rintro ⟨i, hi, hline⟩
      cases i with
      | application d =>
        obtain ⟨rfl, rfl, rfl⟩ := Line.application.inj hline
        exact ⟨d, ⟨_, hi, rfl⟩, rfl, rfl, rfl⟩
      | _ => cases hline
  | loadFile aid lifeCycle modules =>
    simp only [Shows, addItems, List.nil_append, take_of_not_exceeds h₃,
      List.mem_filterMap]
    constructor
    · rintro ⟨d, ⟨i, hi, hd⟩, rfl, rfl, rfl⟩
      cases i <;> cases hd
      exact ⟨_, hi, rfl⟩
    · rintro ⟨i, hi, hline⟩
      cases i with
      | elf d =>
        obtain ⟨rfl, rfl, rfl⟩ := Line.loadFile.inj hline
        exact ⟨d, ⟨_, hi, rfl⟩, rfl, rfl, rfl⟩
      | _ => cases hline

theorem foldl_collect (modules : List (List UInt8)) (out : List Aid)
    (h : out.length + modules.length ≤ MAX_MODULES_PER_ELF) :
    modules.foldl (fun out m =>
      match Aid.ofOctets? m with
      | some aid => (tryPush MAX_MODULES_PER_ELF out aid).1
      | none => out) out = out ++ modules.filterMap Aid.ofOctets? := by
  induction modules generalizing out with
  | nil => simp
  | cons m modules ih =>
    rw [List.length_cons] at h
    rw [List.foldl_cons, List.filterMap_cons]
    cases Aid.ofOctets? m with
    | none => exact ih out (by omega)
    | some aid =>
      dsimp only
      rw [tryPush_of_lt (by omega),
        ih (out ++ [aid]) (by simp only [List.length_append, List.length_singleton]; omega)]
      simp

/-- The valid AIDs among modules that fit. -/
theorem collectModules_eq {modules : List (List UInt8)}
    (h : modules.length ≤ MAX_MODULES_PER_ELF) :
    collectModules modules = modules.filterMap Aid.ofOctets? := by
  have hfold := foldl_collect modules [] (by simpa using h)
  rwa [List.nil_append] at hfold

/-! ### What is dropped -/

/-- The octets of a scope that are looked at. -/
def keptOctets (as : List Answer) : List UInt8 := if endsEmpty as then [] else octetsOf as

/-- The code drops the entry, or some of it, without a flag. -/
def Dropped (isd : Aid) (as : RegistryScope → List Answer) (s : RegistryScope)
    (e : RegistryEntry) : Prop :=
  -- the whole scope counts as empty
  endsEmpty (as s) ∨
  match s with
  | .isd => False
  -- the entry counts as the ISD shown already
  | .applications => e.aid = isd.bytes
  | .loadFiles => ∃ m ∈ e.modules.drop MAX_MODULES_PER_ELF, AidLength m

/-- The line that an entry looked at is shown as, if it is. -/
def shownLine (isd : Aid) (s : RegistryScope) (e : RegistryEntry) : Option Line :=
  match s with
  | .isd => some (.securityDomain ((Aid.ofOctets? e.aid).getD isd).bytes e.lifeCycle e.privileges)
  | .applications =>
      if e.aid = isd.bytes then none
      else if AidLength e.aid then some (lineOf .applications e) else none
  | .loadFiles =>
      if AidLength e.aid then
        some (.loadFile e.aid e.lifeCycle
          ((e.modules.take MAX_MODULES_PER_ELF).filterMap Aid.ofOctets?))
      else none

/-- Some entry that is looked at is shown as the line. -/
def ShownElsewhere (isd : Aid) (as : RegistryScope → List Answer) (line : Line) : Prop :=
  ∃ s e, EntryIn (keptOctets (as s)) e ∧ shownLine isd s e = some line

/-- The item of an entry, by scope. -/
def itemOf? (isd : Aid) (s : RegistryScope) (e : RegistryEntry) : Option Item :=
  match s with
  | .isd => some (isdItem isd e)
  | .applications => applicationItem? isd e
  | .loadFiles => elfItem? isd e

/-- A valid AID, as an AID. -/
theorem ofOctets?_of_valid {bytes : List UInt8} (h : AidLength bytes) :
    Aid.ofOctets? bytes = some ⟨bytes, h⟩ := Aid.ofOctets?_eq_some.mpr rfl

theorem ofOctets?_of_invalid {bytes : List UInt8} (h : ¬AidLength bytes) :
    Aid.ofOctets? bytes = none := by
  cases haid : Aid.ofOctets? bytes with
  | none => rfl
  | some aid => exact absurd (Aid.ofOctets?_eq_some.mp haid ▸ aid.valid) h

/-- The item of an entry is shown as its line. -/
theorem line_itemOf? (isd : Aid) (s : RegistryScope) (e : RegistryEntry) :
    (itemOf? isd s (RegistryEntry.clip e)).map Item.line = shownLine isd s e := by
  cases s with
  | isd => rfl
  | applications =>
    have hclip : (RegistryEntry.clip e).aid = e.aid := rfl
    unfold itemOf? applicationItem? shownLine
    dsimp only
    -- the source skips the entry with the AID of the ISD before it looks at anything else
    by_cases hisd : e.aid = isd.bytes
    · rw [if_pos (hclip.trans hisd), if_pos hisd]
      rfl
    · rw [if_neg (hclip ▸ hisd), if_neg hisd, hclip]
      by_cases haid : AidLength e.aid
      · rw [ofOctets?_of_valid haid, if_pos haid]
        have hsd : RegistryEntry.isSecurityDomain (RegistryEntry.clip e) =
            RegistryEntry.isSecurityDomain e := rfl
        simp only [Option.map_some, applicationItem, lineOf, hsd]
        split <;> rfl
      · rw [ofOctets?_of_invalid haid, if_neg haid]
        rfl
  | loadFiles =>
    unfold itemOf? elfItem? shownLine
    dsimp only [RegistryEntry.clip]
    by_cases haid : AidLength e.aid
    · rw [ofOctets?_of_valid haid, if_pos haid]
      simp only [Option.map_some, elfItem, Item.line]
      rw [collectModules_eq (List.length_take_le ..)]
    · rw [ofOctets?_of_invalid haid, if_neg haid]
      rfl

/-- An entry that is not dropped is shown as its line. -/
theorem shownLine_of_not_dropped {isd : Aid} {as : RegistryScope → List Answer}
    {s : RegistryScope} {e : RegistryEntry} (haid : AidLength e.aid)
    (h : ¬Dropped isd as s e) : shownLine isd s e = some (lineOf s e) := by
  unfold Dropped at h
  cases s with
  | isd => simp only [shownLine, lineOf, ofOctets?_of_valid haid, Option.getD_some]
  | applications =>
    have hisd : ¬e.aid = isd.bytes := fun heq => h (.inr heq)
    rw [shownLine, if_neg hisd, if_pos haid]
  | loadFiles =>
    have hdrop : (e.modules.drop MAX_MODULES_PER_ELF).filterMap Aid.ofOctets? = [] := by
      rw [List.filterMap_eq_nil_iff]
      intro m hm
      exact ofOctets?_of_invalid fun hvalid => h (.inr ⟨m, hm, hvalid⟩)
    have hsplit : e.modules.filterMap Aid.ofOctets? =
        (e.modules.take MAX_MODULES_PER_ELF).filterMap Aid.ofOctets? := by
      conv_lhs => rw [← List.take_append_drop MAX_MODULES_PER_ELF e.modules]
      rw [List.filterMap_append, hdrop, List.append_nil]
    rw [shownLine, if_pos haid, lineOf, hsplit]

/-- The items of three scopes are the items of their entries. -/
theorem mem_itemsOf {isd : Aid} {es : RegistryScope → List RegistryEntry} {i : Item} :
    i ∈ itemsOf isd (es .isd) (es .applications) (es .loadFiles) ↔
      ∃ s, ∃ e ∈ es s, itemOf? isd s e = some i := by
  unfold itemsOf
  simp only [List.mem_append, List.mem_map, List.mem_filterMap]
  constructor
  · rintro ((⟨e, he, rfl⟩ | ⟨e, he, hi⟩) | ⟨e, he, hi⟩)
    · exact ⟨.isd, e, he, rfl⟩
    · exact ⟨.applications, e, he, hi⟩
    · exact ⟨.loadFiles, e, he, hi⟩
  · rintro ⟨s, e, he, hi⟩
    cases s with
    | isd => exact .inl (.inl ⟨e, he, Option.some.inj hi⟩)
    | applications => exact .inl (.inr ⟨e, he, hi⟩)
    | loadFiles => exact .inr ⟨e, he, hi⟩

/-- The lines of the items are those of the entries looked at. -/
theorem exists_item_iff {isd : Aid} {as : RegistryScope → List Answer}
    {es : RegistryScope → List RegistryEntry}
    (hes : ∀ s, parseStatusRegistry (keptOctets (as s)) = .ok (es s)) (line : Line) :
    (∃ i ∈ itemsOf isd (es .isd) (es .applications) (es .loadFiles), i.line = line) ↔
      ShownElsewhere isd as line := by
  constructor
  · rintro ⟨i, hi, rfl⟩
    obtain ⟨s, e, he, hitem⟩ := mem_itemsOf.mp hi
    obtain ⟨e', he', rfl⟩ := (mem_parseStatusRegistry (hes s) e).mp he
    refine ⟨s, e', he', ?_⟩
    rw [← line_itemOf?, hitem]
    rfl
  · rintro ⟨s, e, he, hline⟩
    rw [← line_itemOf?] at hline
    obtain ⟨i, hi, rfl⟩ := Option.map_eq_some_iff.mp hline
    exact ⟨i, mem_itemsOf.mpr ⟨s, _, (mem_parseStatusRegistry (hes s) _).mpr ⟨e, he, rfl⟩, hi⟩,
      rfl⟩

/-! ### Lossless inventories -/

/-- Every entry with a valid AID is shown. -/
def Lossless (as : RegistryScope → List Answer) (inv : CardInventory) : Prop :=
  ∀ s e, EntryIn (octetsOf (as s)) e → AidLength e.aid → Shows inv (lineOf s e)

/-- A report that is not flagged is lossless, and one that is not lossless is
    flagged and carries a warning. -/
structure LossLaw (as : RegistryScope → List Answer) (report : GetCardInventoryReport) :
    Prop where
  complete : report.effective.truncated = false → Lossless as report.inventory
  warned : ¬Lossless as report.inventory → report.effective.truncated = true ∧
    ⟨.inventoryTruncated, ""⟩ ∈ report.warnings

/-- The answers of some scope are cut short, or the entries looked at are more
    than a list of the inventory holds. -/
def Exceeded (isd : Aid) (as : RegistryScope → List Answer) : Prop :=
  (∃ s, CutShort (as s)) ∨
    ∃ es : RegistryScope → List RegistryEntry,
      (∀ s, parseStatusRegistry (keptOctets (as s)) = .ok (es s)) ∧
      overflows noInventory (itemsOf isd (es .isd) (es .applications) (es .loadFiles)) = true

section

variable {τ β : Type} [Transport τ] [Scp03Backend β] [Scp02Backend β]

/-- The answers that the reads of the three scopes took. -/
def Traced (session : ScpSession) (as : RegistryScope → List Answer) (w w' : World τ β) : Prop :=
  (∃ w₁ w₂, Reads session P1_ISD_SCOPE Capdu.P2_FIRST_TLV (as .isd) w w₁ ∧
    Reads session P1_APP_SD_SCOPE Capdu.P2_FIRST_TLV (as .applications) w₁ w₂ ∧
    Reads session P1_ELF_MODULE_SCOPE Capdu.P2_FIRST_TLV (as .loadFiles) w₂ w') ∧
  ∀ s, Taken MAX_STATUS_PAGES ⟨[], 0, false⟩ (as s)

/-- A report took some answers. -/
theorem exists_traced {session : ScpSession} {isdAid : List UInt8}
    {report : GetCardInventoryReport} {w w' : World τ β}
    (h : getCardInventory session isdAid w = (.ok report, w')) :
    ∃ as, Traced session as w w' := by
  obtain ⟨isd, s₁, s₂, s₃, w₁, w₂, -, h₁, h₂, h₃, -⟩ := reads_of_getCardInventory h
  obtain ⟨as₁, hreads₁, htaken₁, -⟩ := reads_of_readPages h₁
  obtain ⟨as₂, hreads₂, htaken₂, -⟩ := reads_of_readPages h₂
  obtain ⟨as₃, hreads₃, htaken₃, -⟩ := reads_of_readPages h₃
  refine ⟨byScope as₁ as₂ as₃, ⟨w₁, w₂, hreads₁, hreads₂, hreads₃⟩, ?_⟩
  intro s
  cases s with
  | isd => exact htaken₁
  | applications => exact htaken₂
  | loadFiles => exact htaken₃

/-- What a scope reads as is what its answers come to. -/
theorem scan_of_read {session : ScpSession} {p1 : UInt8} {as : List Answer}
    {r : List UInt8 × Bool} {w w₁ w₂ : World τ β}
    (hreads : Reads session p1 Capdu.P2_FIRST_TLV as w w₁)
    (htaken : Taken MAX_STATUS_PAGES ⟨[], 0, false⟩ as)
    (h : readStatusScope session p1 w = (.ok r, w₂)) :
    scan ⟨[], 0, false⟩ as = .ok r ∧ w₂ = w₁ := by
  have hread := readPages_of_reads hreads htaken
  rw [← readStatusScope, h] at hread
  obtain ⟨hscan, hw⟩ := Prod.mk.inj hread
  exact ⟨hscan.symm, hw⟩

/-- The read of a scope, from the answers it took. -/
theorem scanned_of_read {session : ScpSession} {p1 : UInt8} {as : List Answer}
    {r : List UInt8 × Bool} {w w₁ w₂ : World τ β}
    (hreads : Reads session p1 Capdu.P2_FIRST_TLV as w w₁)
    (htaken : Taken MAX_STATUS_PAGES ⟨[], 0, false⟩ as)
    (h : readStatusScope session p1 w = (.ok r, w₂)) :
    (r.2 = true ↔ CutShort as) ∧ (r.2 = false → r.1 = keptOctets as) ∧ w₂ = w₁ := by
  obtain ⟨hscan, hw⟩ := scan_of_read hreads htaken h
  refine ⟨?_, fun hcut => kept_of_scan htaken (hcut ▸ hscan), hw⟩
  have hfits : (octetsOf as).length ≤ MAX_STATUS_SCOPE_BYTES := by
    have hpages : ∀ p ∈ as.map Prod.fst, p.length ≤ RAPDU_MAX := by
      intro p hp
      obtain ⟨a, ha, rfl⟩ := List.mem_map.mp hp
      exact hreads.short a ha
    refine (ScopeRead.length_flatten_le hpages).trans (Nat.mul_le_mul_right _ ?_)
    rw [List.length_map]
    exact htaken.length_le
  exact cut_of_scan (by simpa using hfits) rfl htaken hscan

/-- A report, from the answers it was read from: the entries of every scope that
    is not cut short are those of what is looked at, and the flag says that one
    is cut short or that the lists are full. -/
theorem report_of_traced {session : ScpSession} {isd : Aid} {report : GetCardInventoryReport}
    {as : RegistryScope → List Answer} {w w' : World τ β}
    (hok : getCardInventory session isd.bytes w = (.ok report, w'))
    (htraced : Traced session as w w') :
    ∃ es : RegistryScope → List RegistryEntry, ∃ cut,
      (∀ s, ¬CutShort (as s) → parseStatusRegistry (keptOctets (as s)) = .ok (es s)) ∧
      (cut = true ↔ (∃ s, CutShort (as s)) ∨ overflows noInventory
        (itemsOf isd (es .isd) (es .applications) (es .loadFiles)) = true) ∧
      report = inventoryReport isd
        (addItems noInventory (itemsOf isd (es .isd) (es .applications) (es .loadFiles))) cut := by
  obtain ⟨⟨w₁, w₂, hreads₁, hreads₂, hreads₃⟩, htaken⟩ := htraced
  obtain ⟨isd', s₁, s₂, s₃, v₁, v₂, hisd, hread₁, hread₂, hread₃, hreport⟩ :=
    reads_of_getCardInventory hok
  obtain rfl := Except.ok.inj ((Aid.new_of_valid isd.valid).symm.trans hisd)
  obtain ⟨hcut₁, hkept₁, rfl⟩ := scanned_of_read hreads₁ (htaken .isd) hread₁
  obtain ⟨hcut₂, hkept₂, rfl⟩ := scanned_of_read hreads₂ (htaken .applications) hread₂
  obtain ⟨hcut₃, hkept₃, -⟩ := scanned_of_read hreads₃ (htaken .loadFiles) hread₃
  obtain ⟨es₁, hes₁, hreport⟩ := bind_eq_ok.mp hreport
  obtain ⟨es₂, hes₂, hreport⟩ := bind_eq_ok.mp hreport
  obtain ⟨es₃, hes₃, hreport⟩ := bind_eq_ok.mp hreport
  obtain rfl := Except.ok.inj hreport
  -- a scope that is not cut short is parsed from all that was kept of it
  have hparse : ∀ {c : RegistryScope} {r : List UInt8 × Bool} {es : List RegistryEntry},
      (r.2 = true ↔ CutShort (as c)) → (r.2 = false → r.1 = keptOctets (as c)) →
      ofTlv (parseStatusRegistry r.1) = .ok es → ¬CutShort (as c) →
      parseStatusRegistry (keptOctets (as c)) = .ok es := by
    intro c r es hcut hkept hes hwhole
    rw [← hkept (Bool.eq_false_iff.mpr fun hr => hwhole (hcut.mp hr))]
    exact mapError_eq_ok.mp hes
  refine ⟨byScope es₁ es₂ es₃, _, ?_, ?_, rfl⟩
  · intro s
    cases s with
    | isd => exact hparse hcut₁ hkept₁ hes₁
    | applications => exact hparse hcut₂ hkept₂ hes₂
    | loadFiles => exact hparse hcut₃ hkept₃ hes₃
  · rw [exists_scope_iff, ← hcut₁, ← hcut₂, ← hcut₃]
    simp only [Bool.or_eq_true, or_assoc, byScope]

/-- The flag of a report is raised exactly when a capacity is exceeded. -/
theorem truncated_iff {session : ScpSession} {isd : Aid} {report : GetCardInventoryReport}
    {as : RegistryScope → List Answer} {w w' : World τ β}
    (hok : getCardInventory session isd.bytes w = (.ok report, w'))
    (htraced : Traced session as w w') :
    report.effective.truncated = true ↔ Exceeded isd as := by
  obtain ⟨es, cut, hes, hcut, rfl⟩ := report_of_traced hok htraced
  have hflag : (inventoryReport isd (addItems noInventory
      (itemsOf isd (es .isd) (es .applications) (es .loadFiles))) cut).effective.truncated = cut :=
    rfl
  rw [hflag, hcut]
  by_cases hsome : ∃ s, CutShort (as s)
  · exact iff_of_true (.inl hsome) (.inl hsome)
  · have hes : ∀ s, parseStatusRegistry (keptOctets (as s)) = .ok (es s) :=
      fun s => hes s fun hs => hsome ⟨s, hs⟩
    constructor
    · intro hover
      exact .inr ⟨es, hes, hover.resolve_left hsome⟩
    · intro hexceeded
      obtain ⟨es', hes', hover⟩ := hexceeded.resolve_left hsome
      obtain rfl : es' = es := funext fun s => Except.ok.inj ((hes' s).symm.trans (hes s))
      exact .inr hover

/-- An inventory that is not flagged shows the lines of the entries looked at. -/
theorem shows_iff {session : ScpSession} {isd : Aid} {report : GetCardInventoryReport}
    {as : RegistryScope → List Answer} {w w' : World τ β}
    (hok : getCardInventory session isd.bytes w = (.ok report, w'))
    (hfull : report.effective.truncated = false) (htraced : Traced session as w w')
    (line : Line) : Shows report.inventory line ↔ ShownElsewhere isd as line := by
  obtain ⟨es, cut, hes, hcut, rfl⟩ := report_of_traced hok htraced
  obtain rfl : cut = false := hfull
  have hnone := mt hcut.mpr Bool.false_ne_true
  rw [not_or] at hnone
  have hes : ∀ s, parseStatusRegistry (keptOctets (as s)) = .ok (es s) :=
    fun s => hes s fun hs => hnone.1 ⟨s, hs⟩
  rw [← exists_item_iff hes line]
  exact shows_addItems (Bool.eq_false_iff.mpr hnone.2) line

/-- An inventory that is not flagged is lossless exactly when every entry the
    code drops is shown by another entry as well. -/
theorem lossless_of_unflagged {session : ScpSession} {isd : Aid} {report : GetCardInventoryReport}
    {as : RegistryScope → List Answer} {w w' : World τ β}
    (hok : getCardInventory session isd.bytes w = (.ok report, w'))
    (hfull : report.effective.truncated = false) (htraced : Traced session as w w') :
    Lossless as report.inventory ↔
      ∀ s e, EntryIn (octetsOf (as s)) e → AidLength e.aid → Dropped isd as s e →
        ShownElsewhere isd as (lineOf s e) := by
  have hshows := shows_iff hok hfull htraced
  constructor
  · intro hlossless s e he haid _
    exact (hshows _).mp (hlossless s e he haid)
  · intro hdropped s e he haid
    rw [hshows]
    -- an entry that is not dropped is shown by itself
    by_cases hd : Dropped isd as s e
    · exact hdropped s e he haid hd
    · have hends : endsEmpty (as s) = false :=
        Bool.eq_false_iff.mpr fun hends => hd (.inl hends)
      refine ⟨s, e, ?_, shownLine_of_not_dropped haid hd⟩
      rw [keptOctets, hends]
      exact he

/-- A report carries the warning when it is flagged. -/
theorem warned_of_truncated {session : ScpSession} {isd : Aid} {report : GetCardInventoryReport}
    {as : RegistryScope → List Answer} {w w' : World τ β}
    (hok : getCardInventory session isd.bytes w = (.ok report, w'))
    (htraced : Traced session as w w') (hflag : report.effective.truncated = true) :
    ⟨.inventoryTruncated, ""⟩ ∈ report.warnings := by
  obtain ⟨es, cut, -, -, rfl⟩ := report_of_traced hok htraced
  obtain rfl : cut = true := hflag
  exact List.mem_singleton.mpr rfl

/-- For every report and the answers it was read from: the report is flagged
    exactly when a capacity is exceeded, and it is lossless, or flagged with a
    warning, exactly when a capacity is exceeded or every entry the code drops
    is shown by another entry as well. -/
theorem lossless_iff {session : ScpSession} {isd : Aid} {report : GetCardInventoryReport}
    {w w' : World τ β} (hok : getCardInventory session isd.bytes w = (.ok report, w')) :
    (∃ as, Traced session as w w') ∧
      ∀ as, Traced session as w w' →
        (report.effective.truncated = true ↔ Exceeded isd as) ∧
        (LossLaw as report ↔ Exceeded isd as ∨
          ∀ s e, EntryIn (octetsOf (as s)) e → AidLength e.aid → Dropped isd as s e →
            ShownElsewhere isd as (lineOf s e)) := by
  refine ⟨exists_traced hok, fun as htraced => ?_⟩
  have hflag := truncated_iff hok htraced
  refine ⟨hflag, ?_⟩
  -- a flagged report meets the law by its warning, another one by what it shows
  cases htruncated : report.effective.truncated with
  | true =>
    have hexceeded := hflag.mp htruncated
    have hwarned := warned_of_truncated hok htraced htruncated
    refine iff_of_true ⟨fun hfull => ?_, fun _ => ⟨htruncated, hwarned⟩⟩ (.inl hexceeded)
    rw [htruncated] at hfull
    cases hfull
  | false =>
    have hfits : ¬Exceeded isd as := mt hflag.mpr (Bool.eq_false_iff.mp htruncated)
    rw [or_iff_right hfits, ← lossless_of_unflagged hok htruncated htraced]
    constructor
    · intro hlaw
      exact hlaw.complete htruncated
    · intro hlossless
      exact ⟨fun _ => hlossless, fun hloss => absurd hlossless hloss⟩

end

/-! ### A Load File with too many modules -/

/-- The fields of a Load File entry: its AID, its life cycle and 17 modules. -/
def crowdedFields : List Tlv :=
  ⟨0x4F, [0xA0, 0x00, 0x00, 0x01, 0x80], by decide⟩ :: ⟨0x9F70, [0x01], by decide⟩ ::
    (List.range 17).map fun i =>
      ⟨0x84, [0xA0, 0x00, 0x00, 0x01, UInt8.ofNat i], show 5 < 2 ^ 64 by decide⟩

/-- The entry, as the card sends it. -/
def crowded : List UInt8 :=
  [0xE3, 0x81, 0x82] ++ [0x4F, 0x05, 0xA0, 0x00, 0x00, 0x01, 0x80] ++ [0x9F, 0x70, 0x01, 0x01] ++
    (List.range 17).flatMap fun i => [0x84, 0x05, 0xA0, 0x00, 0x00, 0x01, UInt8.ofNat i]

theorem crowded_entry : EntryIn crowded (entryOf crowdedFields) := by
  have htop : Tlv.parse crowded = .ok [⟨0xE3, crowded.drop 3, by decide +kernel⟩] := by
    decide +kernel
  have hfields : Tlv.parse (crowded.drop 3) = .ok crowdedFields := by decide +kernel
  refine ⟨⟨0xE3, crowded.drop 3, by decide +kernel⟩, crowdedFields, ?_, rfl,
    (readMany_iff.mp hfields).1, rfl⟩
  rw [(readMany_iff.mp htop).1.occurs_iff]
  exact List.mem_singleton.mpr rfl

/-- What reading a card comes to. -/
theorem getCardInventory_scopeCard {s₁ s₂ s₃ : ScopeRead} (h₁ : s₁.Short) (h₂ : s₂.Short)
    (h₃ : s₃.Short) {report : GetCardInventoryReport}
    (hreport : inventoryOf sampleIsd s₁.result s₂.result s₃.result = .ok report) :
    ∃ w', getCardInventory stubSession sampleIsd.bytes (scopeCard s₁ s₂ s₃) = (.ok report, w') ∧
      Traced stubSession (byScope s₁.answers s₂.answers s₃.answers) (scopeCard s₁ s₂ s₃) w' := by
  have hanswers := answersScopes_scopeCard h₁ h₂ h₃
  have hresult := getCardInventory_of_answers sampleIsd hanswers
  rw [hreport] at hresult
  have hok : getCardInventory stubSession sampleIsd.bytes (scopeCard s₁ s₂ s₃) =
      (.ok report, (getCardInventory stubSession sampleIsd.bytes (scopeCard s₁ s₂ s₃)).2) := by
    rw [← hresult]
  obtain ⟨w₁, hreads₁, w₂, hreads₂, w₃, hreads₃, -⟩ := hanswers
  have htaken₁ := (ScopeRead.scan_answers (ScopeRead.length_octets_le hreads₁.short)).1
  have htaken₂ := (ScopeRead.scan_answers (ScopeRead.length_octets_le hreads₂.short)).1
  have htaken₃ := (ScopeRead.scan_answers (ScopeRead.length_octets_le hreads₃.short)).1
  obtain ⟨_, _, _, _, _, _, -, hread₁, hread₂, hread₃, -⟩ := reads_of_getCardInventory hok
  obtain ⟨-, rfl⟩ := scan_of_read hreads₁ htaken₁ hread₁
  obtain ⟨-, rfl⟩ := scan_of_read hreads₂ htaken₂ hread₂
  obtain ⟨-, hw⟩ := scan_of_read hreads₃ htaken₃ hread₃
  refine ⟨_, hok, ⟨_, _, hreads₁, hreads₂, hw ▸ hreads₃⟩, ?_⟩
  intro s
  cases s with
  | isd => exact htaken₁
  | applications => exact htaken₂
  | loadFiles => exact htaken₃

/-- The answers of the card with an ISD, an application and a Load File. -/
def sampleAnswers : RegistryScope → List Answer :=
  byScope (single isdEntry).answers appletScope.answers (single loadFileEntry).answers

/-- Its report is not flagged, and shows one line of each kind. -/
theorem lossless_iff_sample_card : ∃ report w',
    getCardInventory stubSession sampleIsd.bytes
        (scopeCard (single isdEntry) appletScope (single loadFileEntry)) = (.ok report, w') ∧
      report.effective.truncated = false ∧ report.inventory.securityDomains.length = 1 ∧
      report.inventory.applets.length = 1 ∧ report.inventory.elfs.length = 1 ∧
      (LossLaw sampleAnswers report ↔ Exceeded sampleIsd sampleAnswers ∨
        ∀ s e, EntryIn (octetsOf (sampleAnswers s)) e → AidLength e.aid →
          Dropped sampleIsd sampleAnswers s e →
          ShownElsewhere sampleIsd sampleAnswers (lineOf s e)) := by
  have hcheck : (inventoryOf sampleIsd (single isdEntry).result appletScope.result
      (single loadFileEntry).result).map (fun r =>
        (r.effective.truncated, r.inventory.securityDomains.length, r.inventory.applets.length,
          r.inventory.elfs.length)) = .ok (false, 1, 1, 1) := by decide +kernel
  cases hreport : inventoryOf sampleIsd (single isdEntry).result appletScope.result
      (single loadFileEntry).result with
  | error e =>
    rw [hreport] at hcheck
    cases hcheck
  | ok report =>
    rw [hreport] at hcheck
    obtain ⟨hfull, hlists⟩ := Prod.mk.inj (Except.ok.inj hcheck)
    obtain ⟨hdomains, hlists⟩ := Prod.mk.inj hlists
    obtain ⟨happlets, helfs⟩ := Prod.mk.inj hlists
    obtain ⟨w', hok, htraced⟩ :=
      getCardInventory_scopeCard (by decide) (by decide) (by decide) hreport
    exact ⟨report, w', hok, hfull, hdomains, happlets, helfs, ((lossless_iff hok).2 _ htraced).2⟩

/-- Modules past the capacity of a Load File are dropped without a flag. -/
theorem modules_dropped_silently :
    ¬∀ (session : ScpSession) (isd : Aid) (report : GetCardInventoryReport)
      (as : RegistryScope → List Answer) (w w' : World Lister StubBackend),
      getCardInventory session isd.bytes w = (.ok report, w') →
      report.effective.truncated = false → Traced session as w w' →
      Lossless as report.inventory := by
  intro hlossless
  have hshort : (single crowded).Short := by decide +kernel
  have hcheck : (inventoryOf sampleIsd (single []).result (single []).result
      (single crowded).result).map (fun r =>
        (r.effective.truncated, r.inventory.elfs.map fun f => f.modules.length)) =
      .ok (false, [16]) := by decide +kernel
  cases hreport : inventoryOf sampleIsd (single []).result (single []).result
      (single crowded).result with
  | error e =>
    rw [hreport] at hcheck
    cases hcheck
  | ok report =>
    rw [hreport] at hcheck
    obtain ⟨hfull, helfs⟩ := Prod.mk.inj (Except.ok.inj hcheck)
    obtain ⟨w', hok, htraced⟩ :=
      getCardInventory_scopeCard (by decide) (by decide) hshort hreport
    obtain ⟨f, hf, -, -, hmodules⟩ := hlossless _ _ _ _ _ _ hok hfull htraced .loadFiles
      (entryOf crowdedFields) crowded_entry (by decide)
    have hlen : f.modules.length ∈ report.inventory.elfs.map fun f => f.modules.length :=
      List.mem_map.mpr ⟨f, hf, rfl⟩
    rw [helfs, hmodules] at hlen
    exact absurd hlen (by decide +kernel)

end Workflow

end Scll
