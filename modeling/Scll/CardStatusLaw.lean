import Scll.InventoryLaw
import Scll.PageSplit

/-! # What a card status makes of a card's data

    The status of a card is the life cycle of its first registry entry, and
    `Unknown(0)` with a warning when there is none to be read. A response that
    cannot be read is not to be an error. Outside an entry it is none: the read
    keeps what parses. Inside the first entry it is one.
-/

namespace Scll

namespace Workflow

open Response Sequence

/-! ### What the card answers -/

/-- The answers to a status read: pages that say there is more, and one that
    ends in `9000`, or in `6A88`. -/
inductive StatusAnswer where
  | data (p : Pages)
  | withdrawn (p : Pages)

namespace StatusAnswer

def answers : StatusAnswer → List Answer
  | data p => (ScopeRead.finished p).answers
  | withdrawn p => p.more.map (·, SW_MORE_DATA) ++ [(p.last, SW_REF_NOT_FOUND)]

/-- The octets that a read keeps. -/
def kept : StatusAnswer → List UInt8
  | data p => checkpoint (p.more ++ [p.last])
  | withdrawn _ => []

/-- The octets kept are not known to be all. -/
def cut : StatusAnswer → Bool
  | data p => (ScopeRead.finished p).cut
  | withdrawn _ => false

theorem parses_kept (a : StatusAnswer) : Parses a.kept = true := by
  cases a with
  | data p => exact parses_checkpoint _
  | withdrawn p => rfl

end StatusAnswer

/-- The octets report a life-cycle octet: the first of the first `'9F70'` inside
    the first `'E3'`, which is well formed. -/
def Reports (octets : List UInt8) (b : UInt8) : Prop :=
  ∃ top registry fields rest, Items Tlv.parseObject octets top ∧
    find top TAG_GP_REGISTRY = some registry ∧ Items Tlv.parseObject registry fields ∧
    find fields TAG_LIFE_CYCLE = some (b :: rest)

/-- A status is what the octets report, or `Unknown(0)` and a warning. -/
structure StatusLaw (octets : List UInt8) (outcome : Except ScllError GetCardStatusReport) :
    Prop where
  reported : ∀ b, Reports octets b → ∃ report, outcome = .ok report ∧
    report.state = decodeLifeCycle b
  unknown : (¬∃ b, Reports octets b) → ∃ report, outcome = .ok report ∧
    report.state = .unknown 0 ∧ ⟨.getStatusParseFailed, ""⟩ ∈ report.warnings

/-- The first `'E3'`, if there is one, is a sequence of objects, and no more of
    them than are held. -/
def FirstEntryParses (octets : List UInt8) : Prop :=
  ∀ top registry, Items Tlv.parseObject octets top → find top TAG_GP_REGISTRY = some registry →
    ∃ fields, Items Tlv.parseObject registry fields ∧ fields.length ≤ MAX_TLVS

/-! ### The status of kept octets -/

section kept

variable {octets : List UInt8} {top : List Tlv} (htop : Tlv.parse octets = .ok top)

include htop

theorem parseStatusE3_absent (h : find top TAG_GP_REGISTRY = none) :
    parseStatusE3 octets = .ok none := by
  unfold parseStatusE3
  split
  · rfl
  · rw [htop, ok_bind, h]

theorem parseStatusE3_present {registry : List UInt8}
    (h : find top TAG_GP_REGISTRY = some registry) :
    parseStatusE3 octets = (Tlv.parse registry).map fun fields =>
      ((find fields TAG_LIFE_CYCLE).bind List.head?).map decodeLifeCycle := by
  unfold parseStatusE3
  split
  · next hempty =>
    obtain rfl := List.isEmpty_iff.mp hempty
    obtain rfl : top = [] := (Except.ok.inj htop).symm
    cases h
  · rw [htop, ok_bind, h]
    dsimp only
    cases Tlv.parse registry <;> rfl

/-- Octets report an octet when their first entry has it in front of its life cycle. -/
theorem reports_iff {registry : List UInt8} {fields : List Tlv}
    (h : find top TAG_GP_REGISTRY = some registry) (hfields : Tlv.parse registry = .ok fields)
    (b : UInt8) :
    Reports octets b ↔ (find fields TAG_LIFE_CYCLE).bind List.head? = some b := by
  have hitems := (readMany_iff.mp htop).1
  have hregistry := (readMany_iff.mp hfields).1
  constructor
  · intro ⟨top', registry', fields', rest, htop', hfind, hfields', hlife⟩
    obtain rfl := hitems.unique htop'
    obtain rfl := Option.some.inj (h.symm.trans hfind)
    obtain rfl := hregistry.unique hfields'
    rw [hlife]
    rfl
  · intro hlife
    obtain ⟨value, hvalue, hhead⟩ := Option.bind_eq_some_iff.mp hlife
    obtain ⟨rest, rfl⟩ := List.head?_eq_some_iff.mp hhead
    exact ⟨top, registry, fields, rest, hitems, h, hregistry, hvalue⟩

/-- The first life-cycle octet of the first entry. -/
theorem parseStatusE3_eq {fields : List Tlv} {registry : List UInt8}
    (h : find top TAG_GP_REGISTRY = some registry) (hfields : Tlv.parse registry = .ok fields) :
    parseStatusE3 octets =
      .ok (((find fields TAG_LIFE_CYCLE).bind List.head?).map decodeLifeCycle) := by
  rw [parseStatusE3_present htop h, hfields]
  rfl

theorem not_reports_of_absent (h : find top TAG_GP_REGISTRY = none) (b : UInt8) :
    ¬Reports octets b := by
  intro ⟨top', registry, fields, rest, htop', hfind, hrest⟩
  obtain rfl := (readMany_iff.mp htop).1.unique htop'
  rw [h] at hfind
  cases hfind

end kept

/-- The report of octets whose life-cycle octet is known. -/
theorem statusLaw_of_first {octets : List UInt8} {isd : Aid} {cut : Bool} {first : Option UInt8}
    (h : parseStatusE3 octets = .ok (first.map decodeLifeCycle))
    (hfirst : ∀ b, Reports octets b ↔ first = some b) :
    StatusLaw octets (cardStatusReport isd.bytes octets cut) := by
  unfold cardStatusReport
  rw [h, Aid.new_of_valid isd.valid]
  constructor
  · intro b hb
    rw [(hfirst b).mp hb]
    exact ⟨_, rfl, rfl⟩
  · intro hno
    have hnone : first = none :=
      Option.eq_none_iff_forall_ne_some.mpr fun b hb => hno ⟨b, (hfirst b).mpr hb⟩
    rw [hnone]
    exact ⟨_, rfl, rfl, List.mem_append_left _ List.mem_cons_self⟩

/-- On octets that parse, the law holds when their first entry parses as well. -/
theorem statusLaw_iff {octets : List UInt8} (hparses : Parses octets = true) (isd : Aid)
    (cut : Bool) :
    StatusLaw octets (cardStatusReport isd.bytes octets cut) ↔ FirstEntryParses octets := by
  obtain ⟨top, htop⟩ := parse_of_parses hparses
  have hitems := (readMany_iff.mp htop).1
  -- without an entry the source reports Unknown with a warning, as the law wants
  cases hfind : find top TAG_GP_REGISTRY with
  | none =>
    constructor
    · intro _ top' registry htop' hregistry
      obtain rfl := hitems.unique htop'
      rw [hfind] at hregistry
      cases hregistry
    · intro _
      have hnone : parseStatusE3 octets = .ok ((none : Option UInt8).map decodeLifeCycle) :=
        parseStatusE3_absent htop hfind
      refine statusLaw_of_first hnone fun b => ⟨fun hb => ?_, fun hb => ?_⟩
      · exact absurd hb (not_reports_of_absent htop hfind b)
      · cases hb
  | some registry =>
    constructor
    · intro hlaw top' registry' htop' hregistry
      obtain rfl := hitems.unique htop'
      obtain rfl := Option.some.inj (hfind.symm.trans hregistry)
      -- either way the law wants a report, so the entry has been parsed
      have hok : ∃ report, cardStatusReport isd.bytes octets cut = .ok report := by
        by_cases hreports : ∃ b, Reports octets b
        · obtain ⟨b, hb⟩ := hreports
          obtain ⟨report, hreport, -⟩ := hlaw.reported b hb
          exact ⟨report, hreport⟩
        · obtain ⟨report, hreport, -⟩ := hlaw.unknown hreports
          exact ⟨report, hreport⟩
      obtain ⟨report, hreport⟩ := hok
      unfold cardStatusReport at hreport
      rw [parseStatusE3_present htop hfind] at hreport
      cases hfields : Tlv.parse registry with
      | error e =>
        rw [hfields] at hreport
        cases hreport
      | ok fields => exact ⟨fields, readMany_iff.mp hfields⟩
    · intro hfirst
      obtain ⟨fields, hfields⟩ := hfirst top registry hitems hfind
      have hfields : Tlv.parse registry = .ok fields := readMany_iff.mpr hfields
      exact statusLaw_of_first (parseStatusE3_eq htop hfind hfields)
        (reports_iff htop hfind hfields)

/-! ### The status of a card -/

section

variable {τ β : Type} [Transport τ] [Scp03Backend β] [Scp02Backend β]

/-- What a read makes of the answers. -/
theorem readStatusScope_of_status {session : ScpSession} {p1 : UInt8} {a : StatusAnswer}
    {scopes : List (UInt8 × List Answer)} {w : World τ β}
    (h : Answers session ((p1, a.answers) :: scopes) w) :
    ∃ w', readStatusScope session p1 w = (.ok (a.kept, a.cut), w') ∧ Answers session scopes w' := by
  cases a with
  | data p =>
    obtain ⟨w', hread, -, hscopes⟩ := readStatusScope_of_answers (s := .finished p) h
    exact ⟨w', hread, hscopes⟩
  | withdrawn p => exact readStatusScope_of_withdrawn p.few h

/-- A status never fails on the data of a card exactly when the first entry of
    what is kept parses. -/
theorem status_law_iff {session : ScpSession} (isd : Aid) (a : StatusAnswer) {w : World τ β}
    (h : Answers session [(P1_ISD_SCOPE, a.answers)] w) :
    (readStatusScope session P1_ISD_SCOPE w).1 = .ok (a.kept, a.cut) ∧
      (StatusLaw a.kept (getCardStatus session isd.bytes w).1 ↔ FirstEntryParses a.kept) := by
  obtain ⟨w', hread, -⟩ := readStatusScope_of_status h
  have hstatus : (getCardStatus session isd.bytes w).1 =
      cardStatusReport isd.bytes a.kept a.cut := by
    rw [getCardStatus, Prog.bind_ok hread]
    rfl
  rw [hread, hstatus]
  exact ⟨rfl, statusLaw_iff a.parses_kept isd a.cut⟩

end

/-! ### An entry that is broken inside -/

def onePageStatus (data : List UInt8) : StatusAnswer := .data ⟨[], data, few_nil⟩

/-- A card that lists one page in its ISD scope. -/
def statusCard (data : List UInt8) : World Lister StubBackend :=
  listing [(P1_ISD_SCOPE, (onePageStatus data).answers)]

theorem answers_statusCard {data : List UInt8} (h : data.length ≤ 256) :
    Answers stubSession [(P1_ISD_SCOPE, (onePageStatus data).answers)] (statusCard data) :=
  answers_listing stubSession (List.nodup_singleton _)
    (by simp [onePageStatus, StatusAnswer.answers, ScopeRead.answers, h])

theorem status_law_iff_isd_entry :
    (readStatusScope stubSession P1_ISD_SCOPE (statusCard isdEntry)).1 =
        .ok ((onePageStatus isdEntry).kept, (onePageStatus isdEntry).cut) ∧
      (StatusLaw (onePageStatus isdEntry).kept
          (getCardStatus stubSession sampleIsd.bytes (statusCard isdEntry)).1 ↔
        FirstEntryParses (onePageStatus isdEntry).kept) :=
  status_law_iff sampleIsd (onePageStatus isdEntry) (answers_statusCard (by decide))

/-- An entry whose value ends inside the length of its first field. -/
def brokenInside : List UInt8 := [0xE3, 0x01, 0x80]

/-- The status of a card with such an entry is an error. -/
theorem broken_entry_fails_status :
    ¬∀ (isd : Aid) (a : StatusAnswer) (w : World Lister StubBackend),
      Answers stubSession [(P1_ISD_SCOPE, a.answers)] w →
      StatusLaw a.kept (getCardStatus stubSession isd.bytes w).1 := by
  intro hlaw
  have hanswers := answers_statusCard (by decide : brokenInside.length ≤ 256)
  have hlaw := hlaw sampleIsd (onePageStatus brokenInside) _ hanswers
  have hfails : (getCardStatus stubSession sampleIsd.bytes (statusCard brokenInside)).1.isOk =
      false := by decide +kernel
  by_cases hreports : ∃ b, Reports (onePageStatus brokenInside).kept b
  · obtain ⟨b, hb⟩ := hreports
    obtain ⟨report, hreport, -⟩ := hlaw.reported b hb
    rw [hreport] at hfails
    cases hfails
  · obtain ⟨report, hreport, -⟩ := hlaw.unknown hreports
    rw [hreport] at hfails
    cases hfails

end Workflow

end Scll
