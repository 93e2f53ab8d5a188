import Mathlib.Data.List.Induction

/-! # Runs of a machine

    A deterministic machine takes operations one after another. Its run is the
    list of events, one for each operation, with the state on either side.

    A `Lifeline` follows one cell of the state through a run: some events fill
    it, some clear it, and all others leave it. Two facts hold of any run: once
    cleared, a cell stays empty until it is filled again; and what is in it was
    put there by the last event that filled it.
-/

/-- One operation of a run. -/
structure Event (σ Op Out : Type) where
  op : Op
  before : σ
  out : Out
  after : σ

namespace Run

variable {σ Op Out κ : Type} (step : Op → σ → Out × σ)

/-- The events of a run. -/
def run : List Op → σ → List (Event σ Op Out)
  | [], _ => []
  | op :: ops, s => ⟨op, s, (step op s).1, (step op s).2⟩ :: run ops (step op s).2

/-- The state a run ends in. -/
def final (s : σ) : List (Event σ Op Out) → σ
  | [] => s
  | e :: es => final e.after es

/-- An event is a step of the machine. -/
def IsStep (e : Event σ Op Out) : Prop := step e.op e.before = (e.out, e.after)

@[simp] theorem final_nil (s : σ) : final s ([] : List (Event σ Op Out)) = s := rfl

theorem final_append (s : σ) (es fs : List (Event σ Op Out)) :
    final s (es ++ fs) = final (final s es) fs := by
  induction es generalizing s with
  | nil => rfl
  | cons e es ih => exact ih e.after

/-- A run cut in two is two runs, the second from where the first ends. -/
theorem run_eq_append {ops : List Op} {s : σ} {es fs : List (Event σ Op Out)}
    (h : run step ops s = es ++ fs) :
    ∃ ops₁ ops₂, ops = ops₁ ++ ops₂ ∧ es = run step ops₁ s ∧
      fs = run step ops₂ (final s es) := by
  induction es generalizing ops s with
  | nil => exact ⟨[], ops, rfl, rfl, h.symm⟩
  | cons e es ih =>
    cases ops with
    | nil => cases h
    | cons op ops =>
      rw [run, List.cons_append] at h
      obtain ⟨rfl, hrest⟩ := List.cons.inj h
      obtain ⟨ops₁, ops₂, rfl, hes, hfs⟩ := ih hrest
      refine ⟨op :: ops₁, ops₂, rfl, ?_, hfs⟩
      rw [run, ← hes]

/-- A run that begins with an event. -/
theorem run_eq_cons {ops : List Op} {s : σ} {e : Event σ Op Out} {es : List (Event σ Op Out)}
    (h : run step ops s = e :: es) :
    e.before = s ∧ IsStep step e ∧ ∃ ops', es = run step ops' e.after := by
  cases ops with
  | nil => cases h
  | cons op ops =>
    rw [run] at h
    obtain ⟨rfl, rfl⟩ := List.cons.inj h
    exact ⟨rfl, rfl, ops, rfl⟩

/-- Any event of a run starts where the events before it end. -/
theorem before_eq_final {ops : List Op} {s : σ} {e : Event σ Op Out}
    {es fs : List (Event σ Op Out)} (h : run step ops s = es ++ e :: fs) :
    e.before = final s es ∧ IsStep step e := by
  obtain ⟨_, _, _, _, hfs⟩ := run_eq_append step h
  obtain ⟨hbefore, hstep, _⟩ := run_eq_cons step hfs.symm
  exact ⟨hbefore, hstep⟩

/-- A state on the way from a state to an event is the one before that event or
    before an earlier one. -/
theorem after_eq_before {ops : List Op} {s : σ} {e : Event σ Op Out}
    {es fs : List (Event σ Op Out)} (h : run step ops s = es ++ e :: fs) :
    ∀ x ∈ es, ∃ y ∈ es ++ [e], x.after = y.before := by
  intro x hx
  obtain ⟨as, bs, rfl⟩ := List.append_of_mem hx
  have hnext : ∀ (y : Event σ Op Out) gs, run step ops s = as ++ x :: y :: gs →
      x.after = y.before := by
    intro y gs hrun
    have hsplit : run step ops s = (as ++ [x]) ++ y :: gs := by
      rw [hrun, List.append_assoc]
      rfl
    rw [(before_eq_final step hsplit).1, final_append]
    rfl
  cases bs with
  | nil =>
    refine ⟨e, by simp, hnext e fs ?_⟩
    rw [h, List.append_assoc]
    rfl
  | cons y bs =>
    refine ⟨y, by simp, hnext y (bs ++ e :: fs) ?_⟩
    rw [h, List.append_assoc]
    rfl

/-- What every step preserves holds wherever a run ends. -/
theorem final_of_step {I : σ → Prop} {ops : List Op} {s : σ}
    (hstep : ∀ e ∈ run step ops s, IsStep step e → I e.before → I e.after) (h : I s) :
    I (final s (run step ops s)) := by
  induction ops generalizing s with
  | nil => exact h
  | cons op ops ih =>
    simp only [run, List.forall_mem_cons] at hstep
    exact ih hstep.2 (hstep.1 rfl h)

/-- What holds of every item after the items before it, with one item more. -/
theorem forall_concat {α : Type} {Q : List α → α → Prop} {xs : List α} {x : α}
    (hxs : ∀ as a bs, xs = as ++ a :: bs → Q as a) (hx : Q xs x) (as : List α) (a : α)
    (bs : List α) (h : xs ++ [x] = as ++ a :: bs) : Q as a := by
  rcases List.eq_nil_or_concat bs with rfl | ⟨bs, b, rfl⟩
  · obtain ⟨rfl, hlast⟩ := List.append_inj' h rfl
    obtain rfl := (List.cons.inj hlast).1
    exact hx
  · have h' : xs ++ [x] = (as ++ a :: bs) ++ [b] := by
      rw [h, List.append_assoc, List.cons_append, List.concat_eq_append]
    obtain ⟨rfl, -⟩ := List.append_inj' h' rfl
    exact hxs as a bs rfl

/-! ### One cell of the state -/

/-- A cell of the state that some events fill, some clear and all others leave. -/
structure Lifeline (κ : Type) where
  /-- What is in the cell. -/
  cell : σ → Option κ
  /-- The event fills the cell. -/
  fills : Event σ Op Out → Prop
  /-- The event clears the cell. -/
  clears : Event σ Op Out → Prop
  clear_step : ∀ {e}, IsStep step e → clears e → cell e.after = none
  idle_step : ∀ {e}, IsStep step e → ¬fills e → ¬clears e → cell e.after = cell e.before

variable {step}

/-- A cleared cell stays empty until it is filled. -/
theorem Lifeline.empty_of_clears (l : Lifeline step κ) {ops : List Op} {s : σ}
    {e e' : Event σ Op Out} {es mid fs : List (Event σ Op Out)}
    (hrun : run step ops s = es ++ e :: (mid ++ e' :: fs)) (hclears : l.clears e)
    (hmid : ∀ x ∈ mid, ¬l.fills x) : l.cell e'.before = none := by
  obtain ⟨_, _, _, _, hrest⟩ := run_eq_append step hrun
  obtain ⟨-, hstep, ops', hrest⟩ := run_eq_cons step hrest.symm
  obtain ⟨ops₁, _, _, hmid', _⟩ := run_eq_append step hrest.symm
  rw [(before_eq_final step hrest.symm).1, hmid']
  rw [hmid'] at hmid
  refine final_of_step (I := fun s => l.cell s = none) step ?_ (l.clear_step hstep hclears)
  intro x hx hxstep hempty
  by_cases hc : l.clears x
  · exact l.clear_step hxstep hc
  · rw [l.idle_step hxstep (hmid x hx) hc, hempty]

/-- What is in a cell that was empty at the start was put there by the last
    event that filled it. The induction is on the events from the end. -/
theorem Lifeline.exists_fills (l : Lifeline step κ) {s : σ} (hstart : l.cell s = none)
    (es : List (Event σ Op Out)) {ops : List Op} (hrun : es = run step ops s) {k : κ}
    (hk : l.cell (final s es) = some k) :
    ∃ as d bs, es = as ++ d :: bs ∧ l.fills d ∧ l.cell d.after = some k ∧
      ∀ x ∈ bs, ¬l.fills x ∧ ¬l.clears x := by
  induction es using List.reverseRecOn generalizing ops k with
  | nil =>
    rw [final_nil, hstart] at hk
    cases hk
  | append_singleton es e ih =>
    obtain ⟨ops₁, _, -, hes, -⟩ := run_eq_append step hrun.symm
    obtain ⟨hbefore, hstep⟩ := before_eq_final step hrun.symm
    rw [final_append] at hk
    by_cases hfills : l.fills e
    · exact ⟨es, e, [], rfl, hfills, hk, by simp⟩
    · have hclears : ¬l.clears e := by
        intro hc
        have := l.clear_step hstep hc
        rw [show final (final s es) [e] = e.after from rfl, this] at hk
        cases hk
      have hk' : l.cell (final s es) = some k := by
        rw [← hbefore, ← l.idle_step hstep hfills hclears]
        exact hk
      obtain ⟨as, d, bs, rfl, hd, hcell, hbs⟩ := ih hes hk'
      refine ⟨as, d, bs ++ [e], by simp, hd, hcell, ?_⟩
      intro x hx
      rcases List.mem_append.mp hx with hx | hx
      · exact hbs x hx
      · rw [List.mem_singleton.mp hx]
        exact ⟨hfills, hclears⟩

end Run
