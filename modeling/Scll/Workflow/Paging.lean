import Scll.Workflow.CardStatus
import Mathlib.Data.List.Infix

/-! # What a paged read comes to

    A read of a GET STATUS scope is a fold over the answers of the card: `scan`
    is what the answers come to, `Taken` says which of them a read takes. A run
    of the read is a list of answers to the commands it sends, the first with
    `P2 = '02'` and the others with `'03'` (`Reads`), and a card that lists
    several scopes answers one such run after another (`Answers`).

    Of pages that end in `9000` or stop at the page cap, the octets kept are the
    longest accumulation that parses, `checkpoint`.
-/

namespace Scll

namespace Workflow

/-- The answer to one GET STATUS: data and status word. -/
abbrev Answer := List UInt8 × UInt16

/-- GET STATUS over a scope. -/
def statusCommand (p1 p2 : UInt8) : Capdu := [0x80, 0xF2, p1, p2, 0x02, 0x4F, 0x00, 0x00]

theorem getStatusP2_eq (p1 p2 : UInt8) :
    ofBuild (Capdu.getStatusP2 p1 p2 []) = .ok (statusCommand p1 p2) := rfl

/-! ### Answers as a fold -/

/-- What a list of answers comes to. -/
def scan : Scope → List Answer → Except ScllError (List UInt8 × Bool)
  | scope, [] => .ok (finishScope scope false)
  | scope, (data, sw) :: as =>
      match page scope data sw with
      | .error e => .error e
      | .ok (.more scope) => scan scope as
      | .ok (.stop scope done) => .ok (finishScope scope done)
      | .ok .empty => .ok ([], false)

/-- The answers are those that a read of at most `pages` pages takes. -/
def Taken : ℕ → Scope → List Answer → Prop
  | 0, _, as => as = []
  | _ + 1, _, [] => False
  | pages + 1, scope, (data, sw) :: as =>
      match page scope data sw with
      | .ok (.more scope) => Taken pages scope as
      | _ => as = []

/-- A read takes no more answers than it may. -/
theorem Taken.length_le {n : ℕ} {scope : Scope} {as : List Answer} (h : Taken n scope as) :
    as.length ≤ n := by
  induction as generalizing n scope with
  | nil => exact Nat.zero_le _
  | cons a as ih =>
    obtain ⟨data, sw⟩ := a
    cases n with
    | zero => cases h
    | succ n =>
      unfold Taken at h
      split at h
      · exact Nat.succ_le_succ (ih h)
      · rw [h]
        exact Nat.succ_le_succ (Nat.zero_le _)

section run

variable {τ β : Type} [Transport τ] [Scp03Backend β] [Scp02Backend β]

/-- The exchanges of a read, as they took place: one GET STATUS with this `P2`,
    then one with `P2 = '03'` for each further answer. -/
inductive Reads (session : ScpSession) (p1 : UInt8) :
    UInt8 → List Answer → World τ β → World τ β → Prop where
  | done (p2 : UInt8) (w : World τ β) : Reads session p1 p2 [] w w
  | next {p2 : UInt8} {a : Answer} {as : List Answer} {w w₁ w' : World τ β}
      (exchanged : transmitInSession session (statusCommand p1 p2) w = (.ok a, w₁))
      (rest : Reads session p1 Capdu.P2_NEXT_TLV as w₁ w') : Reads session p1 p2 (a :: as) w w'

/-- The card gives these answers to the reads of these scopes, one scope after
    another: each is asked for its first occurrence, then for the next ones. -/
def Answers (session : ScpSession) : List (UInt8 × List Answer) → World τ β → Prop
  | [], _ => True
  | (p1, as) :: scopes, w => ∃ w', Reads session p1 Capdu.P2_FIRST_TLV as w w' ∧
      Answers session scopes w'

/-- A read takes its answers to what they come to. -/
theorem readPages_of_reads {session : ScpSession} {p1 p2 : UInt8} {pages : ℕ} {scope : Scope}
    {as : List Answer} {w w' : World τ β} (hreads : Reads session p1 p2 as w w')
    (htaken : Taken pages scope as) :
    readPages session p1 pages p2 scope w = (scan scope as, w') := by
  -- on the pages that may still be asked for; the first answer decides whether the loop goes on
  induction pages generalizing p2 scope as w with
  | zero =>
    obtain rfl : as = [] := htaken
    cases hreads
    rfl
  | succ pages ih =>
    rcases hreads with _ | ⟨hexchanged, hrest⟩
    · exact htaken.elim
    · next a as w₁ =>
      obtain ⟨data, sw⟩ := a
      unfold readPages
      rw [getStatusP2_eq, Prog.bind_ok (Prog.lift_run _ w), Prog.bind_ok hexchanged]
      unfold Taken at htaken
      unfold scan
      cases hpage : page scope data sw with
      | error e =>
        rw [hpage] at htaken
        obtain rfl : as = [] := htaken
        cases hrest
        exact Prog.bind_error (by rw [hpage]; rfl)
      | ok p =>
        rw [hpage] at htaken
        dsimp only
        rw [hpage, Prog.bind_ok (Prog.lift_run _ _)]
        cases p with
        | more scope => exact ih hrest htaken
        | stop scope done =>
          obtain rfl : as = [] := htaken
          cases hrest
          rfl
        | empty =>
          obtain rfl : as = [] := htaken
          cases hrest
          rfl

/-- A read that succeeds took answers, and came to what they come to. -/
theorem reads_of_readPages {session : ScpSession} {p1 p2 : UInt8} {pages : ℕ} {scope : Scope}
    {r : List UInt8 × Bool} {w w' : World τ β}
    (h : readPages session p1 pages p2 scope w = (.ok r, w')) :
    ∃ as, Reads session p1 p2 as w w' ∧ Taken pages scope as ∧ scan scope as = .ok r := by
  -- the same induction, the answers being found on the way
  induction pages generalizing p2 scope w with
  | zero =>
    obtain ⟨hr, rfl⟩ := Prod.mk.inj h
    exact ⟨[], .done p2 w, rfl, hr⟩
  | succ pages ih =>
    unfold readPages at h
    rw [getStatusP2_eq, Prog.bind_ok (Prog.lift_run _ w)] at h
    obtain ⟨⟨data, sw⟩, w₁, hexchanged, h⟩ := Prog.bind_eq_ok.mp h
    dsimp only at h
    obtain ⟨p, w₂, hlift, h⟩ := Prog.bind_eq_ok.mp h
    obtain ⟨hpage, rfl⟩ := Prog.lift_eq_ok.mp hlift
    cases p with
    | more scope' =>
      obtain ⟨as, hreads, htaken, hscan⟩ := ih h
      refine ⟨(data, sw) :: as, .next hexchanged hreads, ?_, ?_⟩
      · simp only [Taken, hpage]
        exact htaken
      · simp only [scan, hpage]
        exact hscan
    | stop scope' done =>
      obtain ⟨hr, rfl⟩ := Prod.mk.inj h
      exact ⟨[(data, sw)], .next hexchanged (.done _ _), by simp only [Taken, hpage],
        by simp only [scan, hpage]; exact hr⟩
    | empty =>
      obtain ⟨hr, rfl⟩ := Prod.mk.inj h
      exact ⟨[(data, sw)], .next hexchanged (.done _ _), by simp only [Taken, hpage],
        by simp only [scan, hpage]; exact hr⟩

/-! ### The commands of a read -/

/-- An exchange that succeeds put its plaintext on the log, and nothing else. -/
theorem transmitInSession_sent {session : ScpSession} {capdu : Capdu} {w w' : World τ β}
    {a : Answer} (h : transmitInSession session capdu w = (.ok a, w')) :
    w'.sent = w.sent ++ [capdu] ∧ a.1.length ≤ RAPDU_MAX := by
  unfold transmitInSession at h
  obtain ⟨wrapped, w₁, hwrap, h⟩ := Prog.bind_eq_ok.mp h
  obtain ⟨rapdu, w₂, hexchange, h⟩ := Prog.bind_eq_ok.mp h
  obtain ⟨unwrapped, w₃, hunwrap, h⟩ := Prog.bind_eq_ok.mp h
  obtain ⟨hsplit, rfl⟩ := Prog.lift_eq_ok.mp h
  obtain ⟨-, rfl⟩ := Prod.mk.inj hwrap
  unfold exchange at hexchange
  obtain ⟨_, w₄, hnote, hexchange⟩ := Prog.bind_eq_ok.mp hexchange
  obtain ⟨-, rfl⟩ := Prod.mk.inj hnote
  obtain ⟨-, rfl⟩ := Prod.mk.inj hexchange
  obtain ⟨-, rfl⟩ := Prod.mk.inj hunwrap
  refine ⟨rfl, ?_⟩
  unfold splitSw at hsplit
  split at hsplit
  · cases hsplit
  · obtain ⟨data, hdata, hsplit⟩ := bind_eq_ok.mp hsplit
    obtain rfl := Except.ok.inj hsplit
    exact (extend_eq_ok.mp hdata).2

/-- The commands of a read of `n` pages: the first occurrence as asked for, then
    the next one each time. -/
def statusCommands (p1 p2 : UInt8) : ℕ → List Capdu
  | 0 => []
  | n + 1 => statusCommand p1 p2 :: List.replicate n (statusCommand p1 Capdu.P2_NEXT_TLV)

theorem Reads.sent {session : ScpSession} {p1 p2 : UInt8} {as : List Answer} {w w' : World τ β}
    (h : Reads session p1 p2 as w w') :
    w'.sent = w.sent ++ statusCommands p1 p2 as.length := by
  induction h with
  | done p2 w => simp [statusCommands]
  | @next p2 a as w w₁ w' hexchanged _ ih =>
    rw [ih, (transmitInSession_sent hexchanged).1, List.append_assoc]
    cases as <;> rfl

theorem Reads.short {session : ScpSession} {p1 p2 : UInt8} {as : List Answer} {w w' : World τ β}
    (h : Reads session p1 p2 as w w') : ∀ a ∈ as, a.1.length ≤ RAPDU_MAX := by
  induction h with
  | done => simp
  | next hexchanged _ ih =>
    rw [List.forall_mem_cons]
    exact ⟨(transmitInSession_sent hexchanged).2, ih⟩

end run

/-! ### Pages -/

/-- The octets are a sequence of TLV objects, and no more of them than are held. -/
def Parses (octets : List UInt8) : Bool := (Tlv.parse octets).isOk

/-- The longest accumulation of whole pages that parses. -/
def checkpoint (pages : List (List UInt8)) : List UInt8 :=
  ((pages.inits.reverse.map List.flatten).find? Parses).getD []

theorem checkpoint_concat (pages : List (List UInt8)) (p : List UInt8) :
    checkpoint (pages ++ [p]) =
      if Parses (pages.flatten ++ p) then pages.flatten ++ p else checkpoint pages := by
  have hinits : (pages ++ [p]).inits = pages.inits ++ [pages ++ [p]] := by
    simp [List.inits_append]
  unfold checkpoint
  rw [hinits, List.reverse_append, List.reverse_singleton, List.singleton_append, List.map_cons,
    List.find?_cons, List.flatten_append, List.flatten_singleton]
  split <;> simp_all

/-- What is kept parses. -/
theorem parses_checkpoint (pages : List (List UInt8)) : Parses (checkpoint pages) = true := by
  induction pages using List.reverseRecOn with
  | nil => rfl
  | append_singleton pages p ih =>
    rw [checkpoint_concat]
    split
    · assumption
    · exact ih

/-- What is kept is a prefix of what was read. -/
theorem checkpoint_front (pages : List (List UInt8)) : checkpoint pages <+: pages.flatten := by
  induction pages using List.reverseRecOn with
  | nil => exact List.prefix_rfl
  | append_singleton pages p ih =>
    rw [checkpoint_concat, List.flatten_append, List.flatten_singleton]
    split
    · exact List.prefix_rfl
    · exact ih.trans (List.prefix_append ..)

/-- All of it is kept when all of it parses. -/
theorem checkpoint_of_parses {pages : List (List UInt8)} (h : Parses pages.flatten = true) :
    checkpoint pages = pages.flatten := by
  rcases List.eq_nil_or_concat pages with rfl | ⟨pages, p, rfl⟩
  · rfl
  · rw [List.concat_eq_append] at h ⊢
    rw [List.flatten_append, List.flatten_singleton] at h ⊢
    rw [checkpoint_concat, if_pos h]

theorem parse_of_parses {octets : List UInt8} (h : Parses octets = true) :
    ∃ items, Tlv.parse octets = .ok items := by
  unfold Parses at h
  cases hp : Tlv.parse octets with
  | ok items => exact ⟨items, rfl⟩
  | error e =>
    rw [hp] at h
    cases h

theorem parse_of_not_parses {octets : List UInt8} (h : ¬Parses octets = true) :
    ∃ e, Tlv.parse octets = .error e := by
  unfold Parses at h
  cases hp : Tlv.parse octets with
  | ok items =>
    rw [hp] at h
    exact absurd rfl h
  | error e => exact ⟨e, rfl⟩

/-- A page of octets, taken in. -/
def Scope.absorb (scope : Scope) (data : List UInt8) : Scope where
  buf := scope.buf ++ data
  goodLen := if Parses (scope.buf ++ data) then (scope.buf ++ data).length else scope.goodLen
  truncated := scope.truncated

/-- A page that says there is more, when there is room for it. -/
theorem page_more {scope : Scope} {data : List UInt8}
    (h : scope.buf.length + data.length ≤ MAX_STATUS_SCOPE_BYTES) :
    page scope data SW_MORE_DATA = .ok (.more (scope.absorb data)) := by
  have hmore : ¬SW_MORE_DATA = SW_OK := by decide
  unfold page
  rw [if_pos (.inr rfl), if_neg (by omega)]
  dsimp only
  rw [if_neg hmore]
  by_cases hparses : Parses (scope.buf ++ data) = true
  · obtain ⟨items, hitems⟩ := parse_of_parses hparses
    rw [hitems]
    simp only [Scope.absorb, hparses, if_true]
  · obtain ⟨e, he⟩ := parse_of_not_parses hparses
    rw [he]
    simp only [Scope.absorb, hparses, beq_false_of_ne hmore, Bool.or_false]
    rfl

/-- The last page, when there is room for it. -/
theorem page_last {scope : Scope} {data : List UInt8}
    (h : scope.buf.length + data.length ≤ MAX_STATUS_SCOPE_BYTES) :
    page scope data SW_OK = .ok (.stop
      ⟨scope.buf ++ data, (scope.absorb data).goodLen,
        scope.truncated || !Parses (scope.buf ++ data)⟩ true) := by
  unfold page
  rw [if_pos (.inl rfl), if_neg (by omega)]
  dsimp only
  rw [if_pos rfl]
  by_cases hparses : Parses (scope.buf ++ data) = true
  · obtain ⟨items, hitems⟩ := parse_of_parses hparses
    rw [hitems]
    simp only [Scope.absorb, hparses, if_true, Bool.not_true, Bool.or_false]
  · obtain ⟨e, he⟩ := parse_of_not_parses hparses
    rw [he]
    simp only [Scope.absorb, hparses]
    rfl

theorem page_empty (scope : Scope) (data : List UInt8) :
    page scope data SW_REF_NOT_FOUND = .ok .empty := by
  unfold page
  rw [if_neg (by decide), if_pos rfl]

/-- What a page can make of a scope that has room for it. -/
theorem page_cases_of_room {scope : Scope} {data : List UInt8} {sw : UInt16} {p : Paging}
    (hroom : scope.buf.length + data.length ≤ MAX_STATUS_SCOPE_BYTES)
    (h : page scope data sw = .ok p) :
    (sw = SW_MORE_DATA ∧ p = .more (scope.absorb data)) ∨
    (sw = SW_OK ∧ p = .stop ⟨scope.buf ++ data, (scope.absorb data).goodLen,
      scope.truncated || !Parses (scope.buf ++ data)⟩ true) ∨
    (sw = SW_REF_NOT_FOUND ∧ p = .empty) := by
  by_cases hok : sw = SW_OK
  · rw [hok, page_last hroom] at h
    exact .inr (.inl ⟨hok, (Except.ok.inj h).symm⟩)
  · by_cases hmore : sw = SW_MORE_DATA
    · rw [hmore, page_more hroom] at h
      exact .inl ⟨hmore, (Except.ok.inj h).symm⟩
    · unfold page at h
      rw [if_neg (by tauto)] at h
      split at h
      · next hempty => exact .inr (.inr ⟨hempty, (Except.ok.inj h).symm⟩)
      · cases h

/-- Everything a page can make of a scope. -/
theorem page_cases {scope : Scope} {data : List UInt8} {sw : UInt16} {p : Paging}
    (h : page scope data sw = .ok p) :
    (sw = SW_MORE_DATA ∧ p = .more (scope.absorb data)) ∨
    p = .stop { scope with truncated := true } false ∨
    (sw = SW_OK ∧ p = .stop ⟨scope.buf ++ data, (scope.absorb data).goodLen,
      scope.truncated || !Parses (scope.buf ++ data)⟩ true) ∨
    (sw = SW_REF_NOT_FOUND ∧ p = .empty) := by
  by_cases hroom : scope.buf.length + data.length ≤ MAX_STATUS_SCOPE_BYTES
  · rcases page_cases_of_room hroom h with hmore | hlast | hempty
    · exact .inl hmore
    · exact .inr (.inr (.inl hlast))
    · exact .inr (.inr (.inr hempty))
  · unfold page at h
    split at h
    · rw [if_pos (by omega)] at h
      exact .inr (.inl (Except.ok.inj h).symm)
    · split at h
      · next hempty => exact .inr (.inr (.inr ⟨hempty, (Except.ok.inj h).symm⟩))
      · cases h

/-- The read ended in `6A88`. -/
def endsEmpty (as : List Answer) : Bool := as.getLast?.map Prod.snd == some SW_REF_NOT_FOUND

/-- All octets of the answers. -/
def octetsOf (as : List Answer) : List UInt8 := (as.map Prod.fst).flatten

/-- What a read that is not cut short keeps: everything, unless it ends in `6A88`. -/
theorem kept_of_scan {n : ℕ} {scope : Scope} {as : List Answer} {data : List UInt8}
    (htaken : Taken n scope as) (h : scan scope as = .ok (data, false)) :
    data = if endsEmpty as then [] else scope.buf ++ octetsOf as := by
  induction as generalizing n scope with
  | nil =>
    obtain ⟨-, hcut⟩ := Prod.mk.inj (Except.ok.inj h)
    simp at hcut
  | cons a as ih =>
    obtain ⟨d, sw⟩ := a
    cases n with
    | zero => cases htaken
    | succ n =>
      unfold Taken at htaken
      unfold scan at h
      cases hpage : page scope d sw with
      | error e =>
        rw [hpage] at h
        cases h
      | ok p =>
        rw [hpage] at h htaken
        -- more to come; cut short; the last page; or `6A88`, which drops what was stored
        rcases page_cases hpage with
          ⟨-, rfl⟩ | rfl | ⟨rfl, rfl⟩ | ⟨rfl, rfl⟩
        · dsimp only at h htaken
          rcases as with _ | ⟨b, as⟩
          · obtain ⟨-, hcut⟩ := Prod.mk.inj (Except.ok.inj h)
            simp at hcut
          · have hlast : endsEmpty ((d, sw) :: b :: as) = endsEmpty (b :: as) := rfl
            rw [ih htaken h, hlast]
            simp [octetsOf, Scope.absorb]
        · obtain ⟨-, hcut⟩ := Prod.mk.inj (Except.ok.inj h)
          simp at hcut
        · obtain rfl : as = [] := htaken
          obtain ⟨hdata, hcut⟩ := Prod.mk.inj (Except.ok.inj h)
          have hparses : Parses (scope.buf ++ d) = true := by
            simp only [Bool.not_true, Bool.or_false, Bool.or_eq_false_iff,
              Bool.not_eq_false'] at hcut
            exact hcut.2
          rw [← hdata]
          simp [endsEmpty, octetsOf, Scope.absorb, hparses, SW_OK, SW_REF_NOT_FOUND]
        · obtain rfl : as = [] := htaken
          obtain ⟨hdata, -⟩ := Prod.mk.inj (Except.ok.inj h)
          rw [← hdata]
          simp [endsEmpty]

/-- The read ended in `9000`. -/
def endsOk (as : List Answer) : Bool := as.getLast?.map Prod.snd == some SW_OK

/-- The octets of a scope are not known to be all of it: the pages end neither in
    `6A88` nor, after octets that parse, in `9000`. -/
def CutShort (as : List Answer) : Prop :=
  ¬endsEmpty as = true ∧ ¬(endsOk as = true ∧ Parses (octetsOf as) = true)

/-- What makes a read report that it was cut short, when the octets fit. -/
theorem cut_of_scan {n : ℕ} {scope : Scope} {as : List Answer} {data : List UInt8} {cut : Bool}
    (hroom : scope.buf.length + (octetsOf as).length ≤ MAX_STATUS_SCOPE_BYTES)
    (huncut : scope.truncated = false) (htaken : Taken n scope as)
    (h : scan scope as = .ok (data, cut)) :
    cut = true ↔ ¬endsEmpty as = true ∧
      ¬(endsOk as = true ∧ Parses (scope.buf ++ octetsOf as) = true) := by
  induction as generalizing n scope with
  | nil =>
    obtain ⟨-, rfl⟩ := Prod.mk.inj (Except.ok.inj h)
    simp [endsEmpty, endsOk]
  | cons a as ih =>
    obtain ⟨d, sw⟩ := a
    cases n with
    | zero => cases htaken
    | succ n =>
      unfold Taken at htaken
      unfold scan at h
      have hoctets : octetsOf ((d, sw) :: as) = d ++ octetsOf as := rfl
      rw [hoctets, List.length_append] at hroom
      cases hpage : page scope d sw with
      | error e =>
        rw [hpage] at h
        cases h
      | ok p =>
        rw [hpage] at h htaken
        rcases page_cases_of_room (by omega) hpage with ⟨rfl, rfl⟩ | ⟨rfl, rfl⟩ | ⟨rfl, rfl⟩
        · dsimp only at h htaken
          have hbuf : (scope.absorb d).buf = scope.buf ++ d := rfl
          have hfits : (scope.absorb d).buf.length + (octetsOf as).length ≤
              MAX_STATUS_SCOPE_BYTES := by
            rw [hbuf, List.length_append]
            omega
          have hrest := ih hfits huncut htaken h
          rw [hbuf, List.append_assoc, ← hoctets] at hrest
          rw [hrest]
          -- a read that is not over yet ends as the rest of it does
          cases as with
          | nil => simp [endsEmpty, endsOk, SW_MORE_DATA, SW_OK, SW_REF_NOT_FOUND]
          | cons b as => exact Iff.rfl
        · obtain rfl : as = [] := htaken
          obtain ⟨-, rfl⟩ := Prod.mk.inj (Except.ok.inj h)
          rw [huncut]
          simp [endsEmpty, endsOk, octetsOf, SW_OK, SW_REF_NOT_FOUND]
        · obtain rfl : as = [] := htaken
          obtain ⟨-, rfl⟩ := Prod.mk.inj (Except.ok.inj h)
          simp [endsEmpty]

/-- The scope after pages that all say there is more. -/
def scopeAfter (pages : List (List UInt8)) : Scope where
  buf := pages.flatten
  goodLen := (checkpoint pages).length
  truncated := false

theorem scopeAfter_concat (pages : List (List UInt8)) (p : List UInt8) :
    scopeAfter (pages ++ [p]) = (scopeAfter pages).absorb p := by
  by_cases h : Parses (pages.flatten ++ p) = true
  · simp [scopeAfter, Scope.absorb, checkpoint_concat, h]
  · simp [scopeAfter, Scope.absorb, checkpoint_concat, h]

/-- What is kept of the pages. -/
theorem take_scopeAfter (pages : List (List UInt8)) :
    (scopeAfter pages).buf.take (scopeAfter pages).goodLen = checkpoint pages :=
  (List.prefix_iff_eq_take.mp (checkpoint_front pages)).symm

/-- Pages that say there is more are taken in one after another. -/
theorem scan_more {pages : List (List UInt8)} {as : List Answer}
    (h : pages.flatten.length ≤ MAX_STATUS_SCOPE_BYTES) :
    scan ⟨[], 0, false⟩ (pages.map (·, SW_MORE_DATA) ++ as) = scan (scopeAfter pages) as := by
  induction pages using List.reverseRecOn generalizing as with
  | nil => rfl
  | append_singleton pages p ih =>
    rw [List.flatten_append, List.flatten_singleton, List.length_append] at h
    rw [List.map_append, List.append_assoc, ih (by omega), scopeAfter_concat]
    simp only [List.map_cons, List.map_nil, List.cons_append, List.nil_append, scan]
    rw [page_more h]

theorem taken_more {n : ℕ} {pages : List (List UInt8)} {as : List Answer}
    (h : pages.flatten.length ≤ MAX_STATUS_SCOPE_BYTES) (htaken : Taken n (scopeAfter pages) as) :
    Taken (pages.length + n) ⟨[], 0, false⟩ (pages.map (·, SW_MORE_DATA) ++ as) := by
  induction pages using List.reverseRecOn generalizing as n with
  | nil =>
    rw [List.length_nil, Nat.zero_add]
    exact htaken
  | append_singleton pages p ih =>
    rw [List.flatten_append, List.flatten_singleton, List.length_append] at h
    rw [List.map_append, List.append_assoc, List.length_append, List.length_singleton,
      Nat.add_assoc, Nat.add_comm 1 n]
    refine ih (by omega) ?_
    simp only [List.map_cons, List.map_nil, List.cons_append, List.nil_append, Taken]
    rw [page_more h]
    rwa [scopeAfter_concat] at htaken

/-- `6A88` takes the pages before it back. -/
theorem scan_withdrawn {more : List (List UInt8)} (data : List UInt8)
    (hfew : more.length < MAX_STATUS_PAGES)
    (h : more.flatten.length ≤ MAX_STATUS_SCOPE_BYTES) :
    Taken MAX_STATUS_PAGES ⟨[], 0, false⟩
        (more.map (·, SW_MORE_DATA) ++ [(data, SW_REF_NOT_FOUND)]) ∧
      scan ⟨[], 0, false⟩ (more.map (·, SW_MORE_DATA) ++ [(data, SW_REF_NOT_FOUND)]) =
        .ok ([], false) := by
  obtain ⟨n, hn⟩ : ∃ n, MAX_STATUS_PAGES = more.length + (n + 1) :=
    ⟨MAX_STATUS_PAGES - more.length - 1, by omega⟩
  constructor
  · rw [hn]
    refine taken_more h ?_
    unfold Taken
    rw [page_empty]
  · rw [scan_more h, scan, page_empty]

/-! ### A scope the card answers with data -/

/-- An answer of one page is within the page cap. -/
theorem few_nil : ([] : List (List UInt8)).length < MAX_STATUS_PAGES := by decide

/-- Pages that end in `9000`, within the page cap. -/
structure Pages where
  /-- The pages that say there is more. -/
  more : List (List UInt8)
  last : List UInt8
  few : more.length < MAX_STATUS_PAGES

/-- What a card has for a scope: pages up to the last, or still more of them
    when the page cap is reached. -/
inductive ScopeRead where
  | finished (p : Pages)
  | unfinished (pages : List (List UInt8)) (full : pages.length = MAX_STATUS_PAGES)

namespace ScopeRead

def pages : ScopeRead → List (List UInt8)
  | finished p => p.more ++ [p.last]
  | unfinished pages _ => pages

/-- All octets of the scope. -/
def octets (s : ScopeRead) : List UInt8 := s.pages.flatten

def answers : ScopeRead → List Answer
  | finished p => p.more.map (·, SW_MORE_DATA) ++ [(p.last, SW_OK)]
  | unfinished pages _ => pages.map (·, SW_MORE_DATA)

/-- The octets kept are not known to be all. -/
def cut : ScopeRead → Bool
  | finished p => !Parses (p.more ++ [p.last]).flatten
  | unfinished .. => true

theorem length_pages_le (s : ScopeRead) : s.pages.length ≤ MAX_STATUS_PAGES := by
  cases s with
  | finished p =>
    have := p.few
    simp only [pages, List.length_append, List.length_singleton]
    omega
  | unfinished pages full => exact full.le

theorem length_answers (s : ScopeRead) : s.answers.length = s.pages.length := by
  cases s <;> simp [answers, pages]

theorem mem_answers {s : ScopeRead} {p : List UInt8} (h : p ∈ s.pages) :
    ∃ sw, (p, sw) ∈ s.answers := by
  cases s with
  | finished q =>
    rcases List.mem_append.mp h with h | h
    · exact ⟨SW_MORE_DATA, List.mem_append_left _ (List.mem_map.mpr ⟨p, h, rfl⟩)⟩
    · rw [List.mem_singleton.mp h]
      exact ⟨SW_OK, List.mem_append_right _ (List.mem_singleton.mpr rfl)⟩
  | unfinished pages full => exact ⟨SW_MORE_DATA, List.mem_map.mpr ⟨p, h, rfl⟩⟩

theorem length_flatten_le {k : ℕ} {pages : List (List UInt8)} (h : ∀ p ∈ pages, p.length ≤ k) :
    pages.flatten.length ≤ pages.length * k := by
  induction pages with
  | nil => simp
  | cons p pages ih =>
    rw [List.forall_mem_cons] at h
    have := ih h.2
    rw [List.flatten_cons, List.length_append, List.length_cons, Nat.succ_mul]
    omega

/-- The octet cap is never reached: the page cap comes first. -/
theorem length_octets_le {s : ScopeRead} (h : ∀ a ∈ s.answers, a.1.length ≤ RAPDU_MAX) :
    s.octets.length ≤ MAX_STATUS_SCOPE_BYTES := by
  have hpages : ∀ p ∈ s.pages, p.length ≤ RAPDU_MAX := by
    intro p hp
    obtain ⟨sw, hsw⟩ := mem_answers hp
    exact h (p, sw) hsw
  exact (length_flatten_le hpages).trans (Nat.mul_le_mul_right _ s.length_pages_le)

/-- What the answers of a scope come to. -/
theorem scan_answers {s : ScopeRead} (h : s.octets.length ≤ MAX_STATUS_SCOPE_BYTES) :
    Taken MAX_STATUS_PAGES ⟨[], 0, false⟩ s.answers ∧
      scan ⟨[], 0, false⟩ s.answers = .ok (checkpoint s.pages, s.cut) := by
  cases s with
  | finished p =>
    simp only [octets, pages, List.flatten_append, List.flatten_singleton,
      List.length_append] at h
    have hmore : p.more.flatten.length ≤ MAX_STATUS_SCOPE_BYTES := by omega
    have hlast : page (scopeAfter p.more) p.last SW_OK = .ok (.stop
        ⟨(scopeAfter p.more).buf ++ p.last, ((scopeAfter p.more).absorb p.last).goodLen,
          (scopeAfter p.more).truncated || !Parses ((scopeAfter p.more).buf ++ p.last)⟩ true) :=
      page_last h
    -- the last page is within the page cap
    obtain ⟨n, hn⟩ : ∃ n, MAX_STATUS_PAGES = p.more.length + (n + 1) :=
      ⟨MAX_STATUS_PAGES - p.more.length - 1, by have := p.few; omega⟩
    constructor
    · rw [hn]
      refine taken_more hmore ?_
      simp only [Taken]
      rw [hlast]
      trivial
    · simp only [answers]
      rw [scan_more hmore, scan, hlast]
      have htake := take_scopeAfter (p.more ++ [p.last])
      rw [scopeAfter_concat] at htake
      simp only [finishScope, pages, cut, Bool.not_true, Bool.or_false, List.flatten_append,
        List.flatten_singleton]
      rw [← htake]
      rfl
  | unfinished pages full =>
    have hscan : scan ⟨[], 0, false⟩ (pages.map (·, SW_MORE_DATA) ++ []) =
        scan (scopeAfter pages) [] := scan_more h
    have htaken : Taken (pages.length + 0) ⟨[], 0, false⟩ (pages.map (·, SW_MORE_DATA) ++ []) :=
      taken_more h rfl
    rw [List.append_nil] at hscan htaken
    constructor
    · rw [← full]
      exact htaken
    · rw [show answers (unfinished pages full) = pages.map (·, SW_MORE_DATA) from rfl, hscan]
      simp only [scan, finishScope, take_scopeAfter]
      rfl

end ScopeRead

section

variable {τ β : Type} [Transport τ] [Scp03Backend β] [Scp02Backend β]

/-- Reading a scope that the card answers with `6A88`, after whatever pages. -/
theorem readStatusScope_of_withdrawn {session : ScpSession} {p1 : UInt8}
    {more : List (List UInt8)} {data : List UInt8} {scopes : List (UInt8 × List Answer)}
    {w : World τ β} (hfew : more.length < MAX_STATUS_PAGES)
    (h : Answers session
      ((p1, more.map (·, SW_MORE_DATA) ++ [(data, SW_REF_NOT_FOUND)]) :: scopes) w) :
    ∃ w', readStatusScope session p1 w = (.ok ([], false), w') ∧ Answers session scopes w' := by
  obtain ⟨w', hreads, hscopes⟩ := h
  have hshort : ∀ p ∈ more, p.length ≤ RAPDU_MAX := by
    intro p hp
    exact hreads.short (p, SW_MORE_DATA)
      (List.mem_append_left _ (List.mem_map.mpr ⟨p, hp, rfl⟩))
  obtain ⟨htaken, hscan⟩ := scan_withdrawn data hfew
    ((ScopeRead.length_flatten_le hshort).trans (Nat.mul_le_mul_right _ hfew.le))
  exact ⟨w', by rw [readStatusScope, readPages_of_reads hreads htaken, hscan], hscopes⟩

/-- Reading a scope that the card answers with data. -/
theorem readStatusScope_of_answers {session : ScpSession} {p1 : UInt8} {s : ScopeRead}
    {scopes : List (UInt8 × List Answer)} {w : World τ β}
    (h : Answers session ((p1, s.answers) :: scopes) w) :
    ∃ w', readStatusScope session p1 w = (.ok (checkpoint s.pages, s.cut), w') ∧
      w'.sent = w.sent ++ statusCommands p1 Capdu.P2_FIRST_TLV s.pages.length ∧
      Answers session scopes w' := by
  obtain ⟨w', hreads, hscopes⟩ := h
  obtain ⟨htaken, hscan⟩ := ScopeRead.scan_answers (ScopeRead.length_octets_le hreads.short)
  refine ⟨w', ?_, ?_, hscopes⟩
  · rw [readStatusScope, readPages_of_reads hreads htaken, hscan]
  · rw [hreads.sent, s.length_answers]

end

end Workflow

end Scll
