import Scll.Framework.Prog
import Mathlib.Data.Nat.Notation

/-! # Two programs in parallel

    A relational Hoare logic for `Prog`: two programs over two states come to
    the same outcome, error or value, and related states to related states. The
    rules follow the constructs; `calls` runs one program after another, keeps
    every outcome and goes on after an error.
-/

namespace Prog

variable {σ σ' ε α β : Type}

/-- From `pre`-related states the two programs come to one outcome, in
    `post`-related states. -/
def Simulates (pre post : σ → σ' → Prop) (m : Prog σ ε α) (m' : Prog σ' ε α) : Prop :=
  ∀ s s', pre s s' → (m s).1 = (m' s').1 ∧ post (m s).2 (m' s').2

/-- A value on the right is the value on the left. -/
theorem Simulates.ok {R S : σ → σ' → Prop} {m : Prog σ ε α} {m' : Prog σ' ε α} {s : σ} {s' t' : σ'}
    {a : α} (h : Simulates R S m m') (hs : R s s') (hrun : m' s' = (.ok a, t')) :
    ∃ t, m s = (.ok a, t) ∧ S t t' := by
  obtain ⟨hout, hstate⟩ := h s s' hs
  rw [hrun] at hout hstate
  exact ⟨(m s).2, Prod.ext hout rfl, hstate⟩

section rules

variable {R S T : σ → σ' → Prop}

theorem Simulates.mono {R' S' : σ → σ' → Prop} {m : Prog σ ε α} {m' : Prog σ' ε α}
    (h : Simulates R S m m') (hpre : ∀ s s', R' s s' → R s s')
    (hpost : ∀ s s', S s s' → S' s s') : Simulates R' S' m m' := by
  intro s s' hs
  obtain ⟨hout, hstate⟩ := h s s' (hpre s s' hs)
  exact ⟨hout, hpost _ _ hstate⟩

theorem Simulates.pure (a : α) :
    Simulates R R (Pure.pure a : Prog σ ε α) (Pure.pure a) := by
  intro s s' hs
  exact ⟨rfl, hs⟩

theorem Simulates.lift (x : Except ε α) : Simulates R R (Prog.lift x) (Prog.lift x) := by
  intro s s' hs
  exact ⟨rfl, hs⟩

theorem Simulates.query {f : σ → Except ε α} {f' : σ' → Except ε α}
    (h : ∀ s s', R s s' → f s = f' s') : Simulates R R (Prog.query f) (Prog.query f') := by
  intro s s' hs
  exact ⟨h s s' hs, hs⟩

/-- The first programs lead to `S`, from where the rest goes on; an error stops there. -/
theorem Simulates.seq {m : Prog σ ε α} {m' : Prog σ' ε α} {f : α → Prog σ ε β}
    {f' : α → Prog σ' ε β} (hm : Simulates R S m m') (hf : ∀ a, Simulates S T (f a) (f' a))
    (hstop : ∀ s s', S s s' → T s s') : Simulates R T (m >>= f) (m' >>= f') := by
  intro s s' hs
  obtain ⟨hout, hstate⟩ := hm s s' hs
  cases hrun : m s with
  | mk r s₁ =>
    cases hrun' : m' s' with
    | mk r' s₁' =>
      rw [hrun, hrun'] at hout hstate
      obtain rfl : r = r' := hout
      cases r with
      | ok a =>
        rw [bind_ok hrun, bind_ok hrun']
        exact hf a _ _ hstate
      | error e =>
        rw [bind_error hrun, bind_error hrun']
        exact ⟨rfl, hstop _ _ hstate⟩

/-- The rule for one relation throughout. -/
theorem Simulates.bind {m : Prog σ ε α} {m' : Prog σ' ε α} {f : α → Prog σ ε β}
    {f' : α → Prog σ' ε β} (hm : Simulates R R m m') (hf : ∀ a, Simulates R R (f a) (f' a)) :
    Simulates R R (m >>= f) (m' >>= f') :=
  hm.seq hf fun _ _ h => h

/-- What is computed first is known to what follows. -/
theorem Simulates.lift_bind {x : Except ε α} {f : α → Prog σ ε β} {f' : α → Prog σ' ε β}
    (hf : ∀ a, x = .ok a → Simulates R S (f a) (f' a)) (hstop : ∀ s s', R s s' → S s s') :
    Simulates R S (Prog.lift x >>= f) (Prog.lift x >>= f') := by
  intro s s' hs
  cases x with
  | ok a =>
    rw [bind_ok (lift_run _ s), bind_ok (lift_run _ s')]
    exact hf a rfl s s' hs
  | error e =>
    rw [bind_error (lift_run (.error e : Except ε α) s),
      bind_error (lift_run (.error e : Except ε α) s')]
    exact ⟨rfl, hstop s s' hs⟩

theorem Simulates.ite {c : Prop} [Decidable c] {m n : Prog σ ε α} {m' n' : Prog σ' ε α}
    (hm : Simulates R S m m') (hn : Simulates R S n n') :
    Simulates R S (if c then m else n) (if c then m' else n') := by
  by_cases h : c
  · rw [if_pos h, if_pos h]
    exact hm
  · rw [if_neg h, if_neg h]
    exact hn

theorem Simulates.mapErr {δ : Type} (f : ε → δ) {m : Prog σ ε α} {m' : Prog σ' ε α}
    (h : Simulates R S m m') : Simulates R S (Prog.mapErr f m) (Prog.mapErr f m') := by
  intro s s' hs
  obtain ⟨hout, hstate⟩ := h s s' hs
  refine ⟨?_, hstate⟩
  unfold Prog.mapErr
  rw [hout]

end rules

/-! ### Outcomes that are shown in another form -/

section shows

variable {γ : Type} {R S T : σ → σ' → Prop}

/-- Like `Simulates`, but the value of the second program is what `f` makes of the value
    of the first. -/
def Shows (f : α → γ) (pre post : σ → σ' → Prop) (m : Prog σ ε α) (m' : Prog σ' ε γ) : Prop :=
  ∀ s s', pre s s' → (m s).1.map f = (m' s').1 ∧ post (m s).2 (m' s').2

theorem Shows.mono {R' S' : σ → σ' → Prop} {f : α → γ} {m : Prog σ ε α} {m' : Prog σ' ε γ}
    (h : Shows f R S m m') (hpre : ∀ s s', R' s s' → R s s') (hpost : ∀ s s', S s s' → S' s s') :
    Shows f R' S' m m' := by
  intro s s' hs
  obtain ⟨hout, hstate⟩ := h s s' (hpre s s' hs)
  exact ⟨hout, hpost _ _ hstate⟩

/-- What is the same is shown as it is. -/
theorem Shows.of_simulates {m : Prog σ ε α} {m' : Prog σ' ε α} (h : Simulates R S m m') :
    Shows id R S m m' := by
  intro s s' hs
  obtain ⟨hout, hstate⟩ := h s s' hs
  refine ⟨?_, hstate⟩
  rw [hout, Except.map_id]
  rfl

/-- A value that is known, and shown as it is. -/
theorem Shows.lift {f : α → γ} {x : Except ε α} {a : α} (h : x = .ok a) :
    Shows f R R (Prog.lift x) (Pure.pure (f a) : Prog σ' ε γ) := by
  intro s s' hs
  rw [h]
  exact ⟨rfl, hs⟩

/-- The rest goes on from values that are the same, and from related states. -/
theorem Shows.seq {δ : Type} {f : β → δ} {m : Prog σ ε α} {m' : Prog σ' ε γ} {g : α → γ}
    {k : α → Prog σ ε β} {k' : γ → Prog σ' ε δ} (hm : Shows g R S m m')
    (hk : ∀ a, Shows f S T (k a) (k' (g a))) (hstop : ∀ s s', S s s' → T s s') :
    Shows f R T (m >>= k) (m' >>= k') := by
  intro s s' hs
  obtain ⟨hout, hstate⟩ := hm s s' hs
  cases hrun : m s with
  | mk r s₁ =>
    cases hrun' : m' s' with
    | mk r' s₁' =>
      rw [hrun, hrun'] at hout hstate
      obtain rfl : r.map g = r' := hout
      cases r with
      | ok a =>
        rw [bind_ok hrun, bind_ok hrun']
        exact hk a _ _ hstate
      | error e =>
        rw [bind_error hrun, bind_error hrun']
        exact ⟨rfl, hstop _ _ hstate⟩

/-- What only adds to the value, and always succeeds, is not seen. -/
theorem Shows.then_ok {f : β → γ} {g : α → γ} {m : Prog σ ε α} {m' : Prog σ' ε γ}
    {k : α → Prog σ ε β} (hm : Shows g R S m m') (hk : ∀ a s, ∃ b, k a s = (.ok b, s) ∧ f b = g a) :
    Shows f R S (m >>= k) m' := by
  intro s s' hs
  obtain ⟨hout, hstate⟩ := hm s s' hs
  cases hrun : m s with
  | mk r s₁ =>
    rw [hrun] at hout hstate
    cases r with
    | ok a =>
      obtain ⟨b, hb, hshown⟩ := hk a s₁
      rw [bind_ok hrun, hb]
      refine ⟨?_, hstate⟩
      rw [← hout]
      exact congrArg Except.ok hshown
    | error e =>
      rw [bind_error hrun]
      exact ⟨hout, hstate⟩

end shows

/-! ### Calls, one after another -/

/-- Run the programs in order; an error ends its own call only. -/
def calls : List (Prog σ ε α) → σ → List (Except ε α) × σ
  | [], s => ([], s)
  | m :: ms, s => ((m s).1 :: (calls ms (m s).2).1, (calls ms (m s).2).2)

/-- What each pair of programs keeps, two sequences of calls keep; and they have the
    same outcomes. By induction on the calls. -/
theorem Simulates.calls {ι : Type} {R : σ → σ' → Prop} {step : ι → Prog σ ε α}
    {step' : ι → Prog σ' ε α} (h : ∀ i, Simulates R R (step i) (step' i)) (is : List ι) {s : σ}
    {s' : σ'} (hs : R s s') :
    (Prog.calls (is.map step) s).1 = (Prog.calls (is.map step') s').1 ∧
      R (Prog.calls (is.map step) s).2 (Prog.calls (is.map step') s').2 := by
  induction is generalizing s s' with
  | nil => exact ⟨rfl, hs⟩
  | cons i is ih =>
    obtain ⟨hout, hstate⟩ := h i s s' hs
    obtain ⟨houts, hfinal⟩ := ih hstate
    refine ⟨?_, hfinal⟩
    show (step i s).1 :: _ = (step' i s').1 :: _
    rw [hout, houts]

/-- Calls that use something up: there is enough for each, and some is left. -/
theorem Shows.calls_counted {ι γ : Type} {f : α → γ} {R : ℕ → σ → σ' → Prop} {cost : ℕ}
    {step : ι → Prog σ ε α} {step' : ι → Prog σ' ε γ} {is : List ι}
    (h : ∀ i ∈ is, ∀ n, Shows f (R (n + cost)) (R n) (step i) (step' i)) {n : ℕ} {s : σ} {s' : σ'}
    (hs : R (n + is.length * cost) s s') :
    (Prog.calls (is.map step) s).1.map (Except.map f) = (Prog.calls (is.map step') s').1 ∧
      R n (Prog.calls (is.map step) s).2 (Prog.calls (is.map step') s').2 := by
  induction is generalizing s s' with
  | nil =>
    rw [List.length_nil, Nat.zero_mul] at hs
    exact ⟨rfl, hs⟩
  | cons i is ih =>
    rw [List.forall_mem_cons] at h
    rw [List.length_cons, Nat.succ_mul, ← Nat.add_assoc] at hs
    obtain ⟨hout, hstate⟩ := h.1 _ s s' hs
    obtain ⟨houts, hfinal⟩ := ih h.2 hstate
    refine ⟨?_, hfinal⟩
    show (step i s).1.map f :: _ = (step' i s').1 :: _
    rw [hout, houts]

/-- What a program keeps, it keeps where it succeeds. -/
theorem Keeps.rel_of_ok {F : Frame σ} {m : Prog σ ε α} {s s' : σ} {a : α} (h : Keeps F m)
    (hrun : m s = (.ok a, s')) : F.rel s s' := by
  have hkept := h s
  rwa [hrun] at hkept

end Prog
