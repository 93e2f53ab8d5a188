import Mathlib.Algebra.BigOperators.Group.Finset.Basic
import Mathlib.Algebra.GroupWithZero.Nat
import Mathlib.Data.List.Range

/-! # Streams pulled in chunks

    A reader hands out a stream piece by piece, each at most as long as the
    caller has room for. If each pull hands out as much as there is room for and
    leaves the rest for later, then the pieces are the stream cut up by the
    sizes asked for: every piece is full but the last, and after that there is
    nothing.
-/

namespace Chunks

variable {σ α ε : Type}

/-- `Rest s rest`: what is left of the stream in state `s` is `rest`. Every pull
    hands out as much of it as there is room for. -/
def Delivers (pull : σ → ℕ → Except ε (List α × σ)) (Rest : σ → List α → Prop) : Prop :=
  ∀ s rest n, 0 < n → Rest s rest →
    ∃ s', pull s n = .ok (rest.take n, s') ∧ Rest s' (rest.drop n)

/-- The pulls of a reader, one for each room, and what they hand out. -/
structure Pulls (pull : σ → ℕ → Except ε (List α × σ)) (start : σ) (room : ℕ → ℕ)
    (out : ℕ → List α) (state : ℕ → σ) : Prop where
  first : state 0 = start
  next : ∀ k, pull (state k) (room k) = .ok (out k, state (k + 1))

/-- The pieces are the stream cut up by the rooms. -/
structure Cuts (stream : List α) (room : ℕ → ℕ) (out : ℕ → List α) : Prop where
  /-- A number of pieces make up the stream; all pieces after them are empty. -/
  whole : ∃ n, ((List.range n).map out).flatten = stream ∧ ∀ k, n ≤ k → out k = []
  /-- A piece that another octet follows fills its room. -/
  full : ∀ k j, k < j → out j ≠ [] → (out k).length = room k
  within : ∀ k, (out k).length ≤ room k

/-- What was asked for before the `k`-th pull. -/
def asked (room : ℕ → ℕ) (k : ℕ) : ℕ := ((List.range k).map room).sum

theorem asked_succ (room : ℕ → ℕ) (k : ℕ) : asked room (k + 1) = asked room k + room k := by
  simp [asked, List.range_succ]

theorem le_asked {room : ℕ → ℕ} (h : ∀ k, 0 < room k) (k : ℕ) : k ≤ asked room k := by
  induction k with
  | zero => exact Nat.zero_le _
  | succ k ih =>
    have := h k
    rw [asked_succ]
    omega

theorem asked_mono (room : ℕ → ℕ) {k j : ℕ} (h : k ≤ j) : asked room k ≤ asked room j := by
  induction h with
  | refl => exact le_rfl
  | step _ ih =>
    rw [asked_succ]
    omega

/-- The stream, cut up by the rooms. -/
def cut (stream : List α) (room : ℕ → ℕ) (k : ℕ) : List α :=
  (stream.drop (asked room k)).take (room k)

theorem flatten_cut (stream : List α) (room : ℕ → ℕ) (n : ℕ) :
    ((List.range n).map (cut stream room)).flatten = stream.take (asked room n) := by
  induction n with
  | zero => simp [asked]
  | succ n ih =>
    rw [List.range_succ, List.map_append, List.flatten_append, ih, asked_succ, List.take_add]
    simp [cut]

/-- Cutting a stream up. -/
theorem cuts_cut (stream : List α) {room : ℕ → ℕ} (h : ∀ k, 0 < room k) :
    Cuts stream room (cut stream room) := by
  constructor
  · refine ⟨stream.length, ?_, ?_⟩
    · rw [flatten_cut]
      exact List.take_of_length_le (le_asked h _)
    · intro k hk
      have := le_asked h k
      rw [cut, List.drop_eq_nil_of_le (by omega), List.take_nil]
  · intro k j hkj hne
    -- something is left at `j`, so there was more than enough at `k`
    have hleft : asked room j < stream.length := by
      by_contra hover
      apply hne
      rw [cut, List.drop_eq_nil_of_le (by omega), List.take_nil]
    have hnext := asked_mono room (show k + 1 ≤ j from hkj)
    rw [asked_succ] at hnext
    rw [cut, List.length_take, List.length_drop]
    omega
  · intro k
    rw [cut, List.length_take]
    exact Nat.min_le_left ..

/-- A reader that delivers cuts its stream up by whatever it is asked for. -/
theorem Delivers.cuts {pull : σ → ℕ → Except ε (List α × σ)} {Rest : σ → List α → Prop}
    (h : Delivers pull Rest) {start : σ} {stream : List α} (hstart : Rest start stream)
    {room : ℕ → ℕ} (hroom : ∀ k, 0 < room k) :
    ∃ out state, Pulls pull start room out state ∧ Cuts stream room out := by
  have hstep : ∀ p : {p : σ × List α // Rest p.1 p.2}, ∀ n, 0 < n →
      ∃ q : {p : σ × List α // Rest p.1 p.2},
        pull p.1.1 n = .ok (p.1.2.take n, q.1.1) ∧ q.1.2 = p.1.2.drop n := by
    rintro ⟨⟨s, rest⟩, hrest⟩ n hn
    obtain ⟨s', hpull, hrest'⟩ := h s rest n hn hrest
    exact ⟨⟨⟨s', rest.drop n⟩, hrest'⟩, hpull, rfl⟩
  choose step hpull hdrop using hstep
  let state : ℕ → {p : σ × List α // Rest p.1 p.2} := fun k =>
    k.rec ⟨⟨start, stream⟩, hstart⟩ fun k p => step p (room k) (hroom k)
  have hrest : ∀ k, (state k).1.2 = stream.drop (asked room k) := by
    intro k
    induction k with
    | zero => rfl
    | succ k ih =>
      have hnext : state (k + 1) = step (state k) (room k) (hroom k) := rfl
      rw [hnext, hdrop, ih, List.drop_drop, asked_succ]
  refine ⟨cut stream room, fun k => (state k).1.1, ⟨rfl, fun k => ?_⟩, cuts_cut stream hroom⟩
  have := hpull (state k) (room k) (hroom k)
  rwa [hrest k] at this

/-! ### Draining a reader -/

/-- A reader is pulled until a pull hands out nothing, or fails: after that many
    pulls, and with that outcome. -/
inductive Drains (pull : σ → ℕ → Except ε (List α × σ)) :
    σ → (ℕ → ℕ) → ℕ → Except ε (List α) → Prop where
  | exhausted {s s' : σ} {room : ℕ → ℕ} (last : pull s (room 0) = .ok ([], s')) :
      Drains pull s room 1 (.ok [])
  | failed {s : σ} {room : ℕ → ℕ} {e : ε} (last : pull s (room 0) = .error e) :
      Drains pull s room 1 (.error e)
  | more {s s' : σ} {room : ℕ → ℕ} {out : List α} {n : ℕ} {r : Except ε (List α)}
      (first : pull s (room 0) = .ok (out, s')) (nonempty : out ≠ [])
      (rest : Drains pull s' (fun k => room (k + 1)) n r) :
      Drains pull s room (n + 1) (r.map (out ++ ·))

/-- If every pull that hands something out lowers a measure, the reader is
    drained after so many pulls. -/
theorem drains_of_measure {pull : σ → ℕ → Except ε (List α × σ)} {P : σ → Prop} (owed : σ → ℕ)
    (hpull : ∀ s s' n out, P s → 0 < n → pull s n = .ok (out, s') → out ≠ [] →
      P s' ∧ owed s' < owed s)
    {s : σ} (hs : P s) {room : ℕ → ℕ} (hroom : ∀ k, 0 < room k) :
    ∃ n r, n ≤ owed s + 1 ∧ Drains pull s room n r := by
  induction hm : owed s using Nat.strong_induction_on generalizing s room with
  | h m ih =>
    cases hfirst : pull s (room 0) with
    | error e => exact ⟨1, .error e, by omega, .failed hfirst⟩
    | ok p =>
      obtain ⟨out, s'⟩ := p
      by_cases hout : out = []
      · subst hout
        exact ⟨1, .ok [], by omega, .exhausted hfirst⟩
      · obtain ⟨hs', hless⟩ := hpull s s' (room 0) out hs (hroom 0) hfirst hout
        obtain ⟨n, r, hn, hrest⟩ := ih (owed s') (by omega) hs' (fun k => hroom (k + 1)) rfl
        exact ⟨n + 1, r.map (out ++ ·), by omega, .more hfirst hout hrest⟩

end Chunks
