import Mathlib.Data.List.Nodup
import Mathlib.Data.Set.Function

/-! # Chains of authentication codes

    Each authenticated term covers the code of the term before it, the first
    one a start value. Where no two different terms of the chain have one code,
    no value of the chain ever comes back: a term can be told from all others
    by the value it covers.

    Chains are lists of terms, the newest first.
-/

namespace MacChain

variable {T V : Type} (mac prev : T → V) (start : V)

/-- The chaining value after some terms. -/
def value : List T → V
  | [] => start
  | t :: _ => mac t

/-- Every term covers the chaining value before it. -/
def Linked : List T → Prop
  | [] => True
  | t :: ts => prev t = value mac start ts ∧ Linked ts

/-- The values the chain went through. -/
def history (ts : List T) : List V := ts.map mac ++ [start]

variable {mac prev start}

@[simp] theorem history_nil : history mac start [] = [start] := rfl

@[simp] theorem history_cons (t : T) (ts : List T) :
    history mac start (t :: ts) = mac t :: history mac start ts := rfl

/-- The chaining value is the newest of the history. -/
theorem history_eq_cons (ts : List T) :
    history mac start ts = value mac start ts :: (history mac start ts).tail := by
  cases ts with
  | nil => rfl
  | cons t ts => rfl

theorem value_mem_history (ts : List T) : value mac start ts ∈ history mac start ts := by
  rw [history_eq_cons]
  exact List.mem_cons_self

/-- What a term covers is older than the chaining value. -/
theorem Linked.prev_mem_tail {ts : List T} (h : Linked mac prev start ts) {t : T} (ht : t ∈ ts) :
    prev t ∈ (history mac start ts).tail := by
  induction ts with
  | nil => cases ht
  | cons s ts ih =>
    obtain ⟨hprev, hrest⟩ := h
    rw [history_cons, List.tail_cons]
    rcases List.mem_cons.mp ht with rfl | ht
    · rw [hprev]
      exact value_mem_history ts
    · exact List.mem_of_mem_tail (ih hrest ht)

/-- No term covers the chaining value it is itself under. -/
theorem Linked.prev_ne_value {ts : List T} (h : Linked mac prev start ts)
    (hnodup : (history mac start ts).Nodup) {t : T} (ht : t ∈ ts) :
    prev t ≠ value mac start ts := by
  intro heq
  have hmem := h.prev_mem_tail ht
  rw [history_eq_cons] at hnodup
  rw [heq] at hmem
  exact (List.nodup_cons.mp hnodup).1 hmem

/-- No value of a collision-free chain comes back. -/
theorem Linked.nodup {ts : List T} (h : Linked mac prev start ts)
    (hinj : Set.InjOn mac {t | t ∈ ts}) (hstart : ∀ t ∈ ts, mac t ≠ start) :
    (history mac start ts).Nodup := by
  induction ts with
  | nil => simp
  | cons t ts ih =>
    obtain ⟨hprev, hrest⟩ := h
    have hnodup := ih hrest (hinj.mono fun _ ht => List.mem_cons_of_mem _ ht)
      (fun s hs => hstart s (List.mem_cons_of_mem _ hs))
    rw [history_cons, List.nodup_cons]
    refine ⟨?_, hnodup⟩
    intro hmem
    rcases List.mem_append.mp hmem with hmem | hmem
    · obtain ⟨s, hs, hmac⟩ := List.mem_map.mp hmem
      have hst : s = t := hinj (List.mem_cons_of_mem _ hs) List.mem_cons_self hmac
      rw [← hst] at hprev
      exact hrest.prev_ne_value hnodup hs hprev
    · exact hstart t List.mem_cons_self (List.mem_singleton.mp hmem)

end MacChain
