import Scll.Framework.Run

/-! # One client among several

    Several clients take turns at one machine. A client is isolated when the
    calls of the others leave what its own calls depend on, and its own calls
    depend on nothing else. What a run then answers to the client is what its
    own calls alone would have been answered, in whatever state of the others
    and however the turns fall.
-/

namespace Run

variable {σ σ' Op Out : Type}

/-- The operations of a run, in order. -/
theorem map_op_run (step : Op → σ → Out × σ) (ops : List Op) (s : σ) :
    (run step ops s).map Event.op = ops := by
  induction ops generalizing s with
  | nil => rfl
  | cons op ops ih =>
    rw [run, List.map_cons, ih]

/-- What a run answered to the client. -/
def answers (own : Op → Bool) (es : List (Event σ Op Out)) : List Out :=
  (es.filter fun e => own e.op).map Event.out

/-- A client that never calls is never answered. -/
theorem answers_eq_nil {own : Op → Bool} {step : Op → σ → Out × σ} {ops : List Op} {s : σ}
    (h : ops.filter own = []) : answers own (run step ops s) = [] := by
  have hnone : ∀ e ∈ run step ops s, ¬own e.op = true := by
    intro e he
    have hop : e.op ∈ ops := by
      rw [← map_op_run step ops s]
      exact List.mem_map_of_mem he
    exact List.filter_eq_nil_iff.mp h e.op hop
  unfold answers
  rw [List.filter_eq_nil_iff.mpr hnone]
  rfl

theorem answers_own {own : Op → Bool} {step : Op → σ → Out × σ} {op : Op} (hown : own op = true)
    (ops : List Op) (s : σ) :
    answers own (run step (op :: ops) s) =
      (step op s).1 :: answers own (run step ops (step op s).2) := by
  unfold answers
  rw [run, List.filter_cons, if_pos hown, List.map_cons]

theorem answers_other {own : Op → Bool} {step : Op → σ → Out × σ} {op : Op} (hown : ¬own op = true)
    (ops : List Op) (s : σ) :
    answers own (run step (op :: ops) s) = answers own (run step ops (step op s).2) := by
  unfold answers
  rw [run, List.filter_cons, if_neg hown]

/-- The calls of others keep what the client's own calls depend on, and its own
    calls keep it until the client is gone. -/
structure Isolated (own : Op → Bool) (step : Op → σ → Out × σ) (solo : Op → σ' → Out × σ')
    (same : σ → σ' → Prop) (gone : σ' → Prop) : Prop where
  others : ∀ {op s s'}, own op = false → same s s' → same (step op s).2 s'
  answer : ∀ {op s s'}, own op = true → same s s' → (step op s).1 = (solo op s').1
  stays : ∀ {op s s'}, own op = true → same s s' → ¬gone (solo op s').2 →
    same (step op s).2 (solo op s').2

/-- The client is gone with its last call at the earliest. -/
def LastsOut (gone : σ → Prop) (es : List (Event σ Op Out)) : Prop :=
  ∀ pre e post, es = pre ++ e :: post → gone e.after → post = []

theorem LastsOut.tail {gone : σ → Prop} {e : Event σ Op Out} {es : List (Event σ Op Out)}
    (h : LastsOut gone (e :: es)) : LastsOut gone es := by
  intro pre x post hes hgone
  exact h (e :: pre) x post (by rw [hes, List.cons_append]) hgone

/-- A client that is still there goes on. -/
theorem LastsOut.cons {gone : σ → Prop} {e : Event σ Op Out} {es : List (Event σ Op Out)}
    (hstays : ¬gone e.after) (h : LastsOut gone es) : LastsOut gone (e :: es) := by
  intro pre x post hes hgone
  cases pre with
  | nil =>
    obtain ⟨rfl, -⟩ := List.cons.inj hes
    exact absurd hgone hstays
  | cons y pre =>
    obtain ⟨-, hes⟩ := List.cons.inj hes
    exact h pre x post hes hgone

theorem LastsOut.last {gone : σ → Prop} (e : Event σ Op Out) : LastsOut gone [e] := by
  intro pre x post hes _
  cases pre with
  | nil => exact (List.cons.inj hes).2.symm
  | cons y pre => cases pre <;> cases (List.cons.inj hes).2

variable {own : Op → Bool} {step : Op → σ → Out × σ} {solo : Op → σ' → Out × σ'}
  {same : σ → σ' → Prop} {gone : σ' → Prop}

/-- An isolated client is answered as if it were alone. -/
theorem Isolated.answers_eq (h : Isolated own step solo same gone) {ops : List Op} {s : σ} {s' : σ'}
    (hsame : same s s') (hlasts : LastsOut gone (run solo (ops.filter own) s')) :
    answers own (run step ops s) = (run solo (ops.filter own) s').map Event.out := by
  induction ops generalizing s s' with
  | nil => rfl
  | cons op ops ih =>
    by_cases hown : own op = true
    · rw [List.filter_cons_of_pos hown] at hlasts ⊢
      rw [answers_own hown, run, List.map_cons, h.answer hown hsame]
      congr 1
      by_cases hgone : gone (solo op s').2
      · -- the client's last call
        have hlast : run solo (ops.filter own) (solo op s').2 = [] :=
          hlasts [] _ _ rfl hgone
        have hcalls : ops.filter own = [] := by
          rw [← map_op_run solo (ops.filter own) (solo op s').2, hlast]
          rfl
        rw [hlast]
        exact answers_eq_nil hcalls
      · exact ih (h.stays hown hsame hgone) hlasts.tail
    · rw [List.filter_cons_of_neg hown] at hlasts ⊢
      rw [answers_other hown]
      exact ih (h.others (Bool.eq_false_iff.mpr hown) hsame) hlasts

end Run
