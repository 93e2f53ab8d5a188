import Scll.TestSupport
import Scll.Workflow.Inventory

/-! # Broken octets and full lists

    What an inventory makes of octets that are no TLV sequence, and of more than
    it holds. A capacity that is exceeded cuts the inventory short and says so.
    Octets that break off take the same way out: the read falls back to the
    pages before, so the response is cut short where it should be refused.
-/

namespace Scll

namespace Workflow

open Response Sequence

namespace ScopeRead

/-- The card finished the scope, and its octets are no sequence of TLV objects. -/
def Malformed : ScopeRead → Prop
  | s@(finished _) => ¬∃ items, Items Tlv.parseObject s.octets items
  | unfinished .. => False

/-- More pages than are read, or more objects than are held. -/
def Exceeds : ScopeRead → Prop
  | s@(finished _) => ∃ items, Items Tlv.parseObject s.octets items ∧ MAX_TLVS < items.length
  | unfinished .. => True

/-- The registry entries among the octets kept are well formed themselves. -/
def Decodes (s : ScopeRead) : Prop := ∃ es, parseStatusRegistry (checkpoint s.pages) = .ok es

end ScopeRead

theorem parses_iff {octets : List UInt8} :
    Parses octets = true ↔
      ∃ items, Items Tlv.parseObject octets items ∧ items.length ≤ MAX_TLVS := by
  constructor
  · intro h
    obtain ⟨items, hitems⟩ := parse_of_parses h
    exact ⟨items, readMany_iff.mp hitems⟩
  · intro ⟨items, hitems⟩
    have hparse : Tlv.parse octets = .ok items := readMany_iff.mpr hitems
    rw [Parses, hparse]
    rfl

/-- A scope is cut short when it is malformed or exceeds what is held. -/
theorem cut_iff (s : ScopeRead) : s.cut = true ↔ s.Malformed ∨ s.Exceeds := by
  cases s with
  | unfinished pages full => exact ⟨fun _ => .inr trivial, fun _ => rfl⟩
  | finished p =>
    have hcut : (ScopeRead.finished p).cut = true ↔
        ¬Parses (ScopeRead.finished p).octets = true := by
      show (!Parses (p.more ++ [p.last]).flatten) = true ↔
        ¬Parses (p.more ++ [p.last]).flatten = true
      cases Parses (p.more ++ [p.last]).flatten <;> simp
    rw [hcut, parses_iff]
    -- octets that do not parse are no items at all, or more items than the reader takes
    constructor
    · intro hno
      by_cases hitems : ∃ items, Items Tlv.parseObject (ScopeRead.finished p).octets items
      · obtain ⟨items, hitems⟩ := hitems
        right
        refine ⟨items, hitems, ?_⟩
        by_contra hle
        exact hno ⟨items, hitems, by omega⟩
      · exact .inl hitems
    · rintro (hmalformed | ⟨items, hitems, hmany⟩) ⟨items', hitems', hfew⟩
      · exact hmalformed ⟨items', hitems'⟩
      · rw [hitems.unique hitems'] at hmany
        omega

/-! ### The law -/

/-- The outcome refuses malformed octets, and cuts short what exceeds a capacity. -/
structure ErrorLaw (isd : Aid) (s₁ s₂ s₃ : ScopeRead)
    (outcome : Except ScllError GetCardInventoryReport) : Prop where
  malformed : s₁.Malformed ∨ s₂.Malformed ∨ s₃.Malformed →
    ∃ e, outcome = .error (.malformedResponse e)
  /-- Each scope is read as a prefix of its octets, and the lists hold what fits. -/
  capacity : ¬(s₁.Malformed ∨ s₂.Malformed ∨ s₃.Malformed) →
    s₁.Decodes ∧ s₂.Decodes ∧ s₃.Decodes →
    ∃ report data₁ data₂ data₃ es₁ es₂ es₃, outcome = .ok report ∧
      data₁ <+: s₁.octets ∧ data₂ <+: s₂.octets ∧ data₃ <+: s₃.octets ∧
      parseStatusRegistry data₁ = .ok es₁ ∧ parseStatusRegistry data₂ = .ok es₂ ∧
      parseStatusRegistry data₃ = .ok es₃ ∧
      report.inventory = addItems noInventory (itemsOf isd es₁ es₂ es₃) ∧
      (report.effective.truncated = true ↔ s₁.Exceeds ∨ s₂.Exceeds ∨ s₃.Exceeds ∨
        overflows noInventory (itemsOf isd es₁ es₂ es₃))

/-- What a scope is read as. -/
def ScopeRead.result (s : ScopeRead) : List UInt8 × Bool := (checkpoint s.pages, s.cut)

/-- Entries that are broken themselves are refused. -/
theorem inventoryOf_error {isd : Aid} {s₁ s₂ s₃ : ScopeRead}
    (h : ¬(s₁.Decodes ∧ s₂.Decodes ∧ s₃.Decodes)) :
    ∃ e, inventoryOf isd s₁.result s₂.result s₃.result = .error (.malformedResponse e) := by
  have hcases : ∀ s : ScopeRead, (∃ es, parseStatusRegistry s.result.1 = .ok es ∧ s.Decodes) ∨
      ∃ e, parseStatusRegistry s.result.1 = .error e := by
    intro s
    cases hs : parseStatusRegistry s.result.1 with
    | ok es => exact .inl ⟨es, rfl, es, hs⟩
    | error e => exact .inr ⟨e, rfl⟩
  unfold inventoryOf
  rcases hcases s₁ with ⟨es₁, hes₁, hd₁⟩ | ⟨e, he⟩
  · rcases hcases s₂ with ⟨es₂, hes₂, hd₂⟩ | ⟨e, he⟩
    · rcases hcases s₃ with ⟨es₃, hes₃, hd₃⟩ | ⟨e, he⟩
      · exact absurd ⟨hd₁, hd₂, hd₃⟩ h
      · rw [hes₁, hes₂, he]
        exact ⟨e, rfl⟩
    · rw [hes₁, he]
      exact ⟨e, rfl⟩
  · rw [he]
    exact ⟨e, rfl⟩

/-- Entries that are well formed are listed, from the octets that were kept. -/
theorem inventoryOf_ok {isd : Aid} {s₁ s₂ s₃ : ScopeRead}
    {es₁ es₂ es₃ : List RegistryEntry} (h₁ : parseStatusRegistry (checkpoint s₁.pages) = .ok es₁)
    (h₂ : parseStatusRegistry (checkpoint s₂.pages) = .ok es₂)
    (h₃ : parseStatusRegistry (checkpoint s₃.pages) = .ok es₃) :
    inventoryOf isd s₁.result s₂.result s₃.result =
      .ok (inventoryReport isd (addItems noInventory (itemsOf isd es₁ es₂ es₃))
        (s₁.cut || s₂.cut || s₃.cut || overflows noInventory (itemsOf isd es₁ es₂ es₃))) := by
  unfold inventoryOf ScopeRead.result
  rw [h₁, h₂, h₃]
  rfl

section

variable {τ β : Type} [Transport τ] [Scp03Backend β] [Scp02Backend β]

/-- The answers of three scopes, by the `P1` that selects each. -/
def scopesOf (s₁ s₂ s₃ : ScopeRead) : List (UInt8 × List Answer) :=
  [(P1_ISD_SCOPE, s₁.answers), (P1_APP_SD_SCOPE, s₂.answers), (P1_ELF_MODULE_SCOPE, s₃.answers)]

/-- A card that has these three scopes to answer with. -/
def AnswersScopes (session : ScpSession) (s₁ s₂ s₃ : ScopeRead) (w : World τ β) : Prop :=
  Answers session (scopesOf s₁ s₂ s₃) w

theorem getCardInventory_of_answers {session : ScpSession} (isd : Aid) {s₁ s₂ s₃ : ScopeRead}
    {w : World τ β} (h : AnswersScopes session s₁ s₂ s₃ w) :
    (getCardInventory session isd.bytes w).1 =
      inventoryOf isd s₁.result s₂.result s₃.result := by
  unfold AnswersScopes at h
  obtain ⟨w₁, hread₁, -, h⟩ := readStatusScope_of_answers h
  obtain ⟨w₂, hread₂, -, h⟩ := readStatusScope_of_answers h
  obtain ⟨w₃, hread₃, -, -⟩ := readStatusScope_of_answers h
  exact getCardInventory_of_reads (Aid.new_of_valid isd.valid) hread₁ hread₂ hread₃

/-- The law holds exactly when no scope is malformed, or some registry entry
    among the octets kept is broken itself. -/
theorem errorLaw_iff {session : ScpSession} (isd : Aid) {s₁ s₂ s₃ : ScopeRead} {w : World τ β}
    (h : AnswersScopes session s₁ s₂ s₃ w) :
    ErrorLaw isd s₁ s₂ s₃ (getCardInventory session isd.bytes w).1 ↔
      ¬(s₁.Malformed ∨ s₂.Malformed ∨ s₃.Malformed) ∨
        ¬(s₁.Decodes ∧ s₂.Decodes ∧ s₃.Decodes) := by
  rw [getCardInventory_of_answers isd h]
  -- the source refuses only entries that do not decode; a malformed scope is cut short
  by_cases hdecodes : s₁.Decodes ∧ s₂.Decodes ∧ s₃.Decodes
  · obtain ⟨⟨es₁, hes₁⟩, ⟨es₂, hes₂⟩, ⟨es₃, hes₃⟩⟩ := hdecodes
    rw [inventoryOf_ok hes₁ hes₂ hes₃]
    constructor
    · intro hlaw
      left
      intro hmalformed
      obtain ⟨e, he⟩ := hlaw.malformed hmalformed
      cases he
    · intro hno
      have hmalformed := hno.resolve_right
        (not_not.mpr ⟨⟨es₁, hes₁⟩, ⟨es₂, hes₂⟩, ⟨es₃, hes₃⟩⟩)
      refine ⟨fun hm => absurd hm hmalformed, fun _ _ => ⟨_, checkpoint s₁.pages,
        checkpoint s₂.pages, checkpoint s₃.pages, es₁, es₂, es₃, rfl, checkpoint_front _,
        checkpoint_front _, checkpoint_front _, hes₁, hes₂, hes₃, rfl, ?_⟩⟩
      simp only [inventoryReport, Bool.or_eq_true, cut_iff]
      tauto
  · constructor
    · intro _
      exact .inr hdecodes
    · intro _
      refine ⟨fun _ => inventoryOf_error hdecodes, fun _ hd => absurd hd hdecodes⟩

end

/-! ### An entry that breaks off -/

/-- A scope of one page. -/
def single (data : List UInt8) : ScopeRead := .finished ⟨[], data, few_nil⟩

/-- The tag of an entry and nothing after it. -/
def brokenOff : List UInt8 := [0xE3]

def sampleIsd : Aid := ⟨[0xA0, 0x00, 0x00, 0x01, 0x51], by decide⟩

/-- The world of a card that lists these three scopes. -/
def scopeCard (s₁ s₂ s₃ : ScopeRead) : World Lister StubBackend := listing (scopesOf s₁ s₂ s₃)

/-- No page is longer than a response holds. -/
def ScopeRead.Short (s : ScopeRead) : Prop := ∀ a ∈ s.answers, a.1.length ≤ 256

instance (s : ScopeRead) : Decidable s.Short :=
  inferInstanceAs (Decidable (∀ a ∈ s.answers, a.1.length ≤ 256))

theorem answersScopes_scopeCard {s₁ s₂ s₃ : ScopeRead} (h₁ : s₁.Short) (h₂ : s₂.Short)
    (h₃ : s₃.Short) : AnswersScopes stubSession s₁ s₂ s₃ (scopeCard s₁ s₂ s₃) := by
  apply answers_listing
  · exact (by decide : [P1_ISD_SCOPE, P1_APP_SD_SCOPE, P1_ELF_MODULE_SCOPE].Nodup)
  · intro s hs
    simp only [scopesOf, List.mem_cons, List.not_mem_nil, or_false] at hs
    rcases hs with rfl | rfl | rfl
    · exact h₁
    · exact h₂
    · exact h₃

/-- An entry on two pages, which divide it inside its AID. -/
def appletScope : ScopeRead := .finished ⟨[appletEntry.take 6], appletEntry.drop 6, by decide⟩

theorem errorLaw_iff_sample_card :
    ErrorLaw sampleIsd (single isdEntry) appletScope (single loadFileEntry)
        (getCardInventory stubSession sampleIsd.bytes
          (scopeCard (single isdEntry) appletScope (single loadFileEntry))).1 ↔
      ¬((single isdEntry).Malformed ∨ appletScope.Malformed ∨ (single loadFileEntry).Malformed) ∨
        ¬((single isdEntry).Decodes ∧ appletScope.Decodes ∧ (single loadFileEntry).Decodes) :=
  errorLaw_iff sampleIsd (answersScopes_scopeCard (by decide) (by decide) (by decide))

/-- An ISD scope that breaks off is reported as an empty, truncated inventory. -/
theorem broken_scope_reported :
    ¬∀ (isd : Aid) (s₁ s₂ s₃ : ScopeRead) (w : World Lister StubBackend),
      AnswersScopes stubSession s₁ s₂ s₃ w →
      ErrorLaw isd s₁ s₂ s₃ (getCardInventory stubSession isd.bytes w).1 := by
  intro hlaw
  have hanswers : AnswersScopes stubSession (single brokenOff) (single []) (single [])
      (scopeCard (single brokenOff) (single []) (single [])) :=
    answersScopes_scopeCard (by decide) (by decide) (by decide)
  have hmalformed : (single brokenOff).Malformed := by
    have hfails : (Tlv.parseObject brokenOff).isOk = false := by decide +kernel
    rintro ⟨items, hitems⟩
    change Items Tlv.parseObject brokenOff items at hitems
    cases hitems with
    | cons _ hread _ =>
      rw [hread] at hfails
      cases hfails
  obtain ⟨e, he⟩ := (hlaw sampleIsd _ _ _ _ hanswers).malformed (.inl hmalformed)
  rw [getCardInventory_of_answers sampleIsd hanswers] at he
  have hok : (inventoryOf sampleIsd (single brokenOff).result (single []).result
      (single []).result).isOk = true := by decide +kernel
  rw [he] at hok
  cases hok

end Workflow

end Scll
