import Scll.Cap.StreamSpec

/-! # The ring of a DEFLATE component

    The window is the dictionary of the decompressor and the buffer of what it
    wrote and nobody fetched yet. Nothing is asked of the decompressor here but
    that a call stays inside the window: what it writes may be anything, and a
    call may fail at any time. A step therefore says what it leaves behind also
    when it fails, and which octets went into the ring and out of it.
-/

namespace Scll

namespace Cap

open Octets LoadFileDataBlock

variable {δ : Type}

/-! ### Steps that keep their state -/

/-- What is there after some work on a component, successful or not. -/
structure Step (δ : Type) where
  block : LoadFileDataBlock
  infl : InflateCtx δ
  /-- The octets copied to the consumer. -/
  handed : List UInt8
  /-- The octets the decompressor wrote. -/
  written : List UInt8
  error : Option CapError

namespace Step

/-- Nothing happened. -/
def idle (s : LoadFileDataBlock) (infl : InflateCtx δ) : Step δ := ⟨s, infl, [], [], none⟩

/-- Work after other work. -/
def after (p q : Step δ) : Step δ :=
  { q with handed := p.handed ++ q.handed, written := p.written ++ q.written }

/-- What the caller gets. -/
def returned (p : Step δ) : Except CapError (List UInt8 × LoadFileDataBlock × InflateCtx δ) :=
  match p.error with
  | some e => .error e
  | none => .ok (p.handed, p.block, p.infl)

end Step

variable (I : Inflater δ)

/-- `pump`, with the state it leaves on an error: cursor and window have moved
    on before the status is looked at. -/
def pumpStep (s : LoadFileDataBlock) (loc : CompLoc) (infl : InflateCtx δ) : Step δ :=
  let compEnd := loc.dataOff + loc.compSize
  if compEnd > s.zip.length ∨ loc.dataOff + s.cursor.inPos > compEnd then
    { Step.idle s infl with error := some .inflate }
  else
    let input := (s.zip.drop (loc.dataOff + s.cursor.inPos)).take (loc.compSize - s.cursor.inPos)
    let pos := ringPos s.cursor.produced
    let r := I.decompress infl.state input infl.window pos false
    have hfit : pos + r.written.length ≤ INFLATE_WINDOW := pump_le_window I s loc infl
    let cursor :=
      { s.cursor with
        inPos := s.cursor.inPos + r.consumed
        produced := s.cursor.produced + r.written.length
        done := s.cursor.done || (r.status = .done) }
    { block := { s with cursor }
      infl := infl.write pos r.written r.state hfit
      handed := []
      written := r.written
      error := match pumped r with
        | .error e => some e
        | .ok _ => none }

/-- `inflateLoop`, with the state it leaves on an error. -/
def inflateSteps : ℕ → LoadFileDataBlock → CompLoc → InflateCtx δ → ℕ → Step δ
  | 0, s, _, infl, _ => .idle s infl
  | fuel + 1, s, loc, infl, room =>
      if room = 0 then .idle s infl
      else if s.cursor.produced = s.cursor.emitted then
        if s.cursor.done then .idle s infl
        else
          let p := pumpStep I s loc infl
          match p.error with
          | some _ => p
          | none => p.after (inflateSteps fuel p.block loc p.infl room)
      else
        let out := takeRing s infl room
        let s := { s with cursor := { s.cursor with emitted := s.cursor.emitted + out.length } }
        Step.after { Step.idle s infl with handed := out }
          (inflateSteps fuel s loc infl (room - out.length))

/-- `emitDeflate`, with the state it leaves on an error. -/
def emitDeflateStep (s : LoadFileDataBlock) (loc : CompLoc) (infl : InflateCtx δ) (room : ℕ) :
    Step δ :=
  let (s, infl) := start I s infl
  inflateSteps I (inflateFuel loc room) s loc infl room

/-- Calls of `emitDeflate` one after another, also after one that failed. -/
def emits (s : LoadFileDataBlock) (infl : InflateCtx δ) : List (CompLoc × ℕ) → Step δ
  | [] => .idle s infl
  | (loc, room) :: calls =>
      let p := emitDeflateStep I s loc infl room
      p.after (emits p.block p.infl calls)

/-! ### The steps are those of the stream -/

theorem pump_eq_returned (s : LoadFileDataBlock) (loc : CompLoc) (infl : InflateCtx δ) :
    pump I s loc infl =
      match (pumpStep I s loc infl).error with
      | some e => .error e
      | none => .ok ((pumpStep I s loc infl).block, (pumpStep I s loc infl).infl) := by
  unfold pump pumpStep
  dsimp only
  split
  · rfl
  · rcases pumped_cases (I.decompress infl.state ((s.zip.drop (loc.dataOff + s.cursor.inPos)).take
        (loc.compSize - s.cursor.inPos)) infl.window (ringPos s.cursor.produced) false) with
      ⟨hdone, hp⟩ | ⟨-, e, hp⟩ | ⟨hmore, -, hp⟩
    · simp only [hp, hdone, decide_true]
    · simp only [hp]
    · rcases hmore with hmore | hmore
      · simp only [hp, hmore, reduceCtorEq, decide_false]
      · simp only [hp, hmore, reduceCtorEq, decide_false]

theorem handed_pumpStep (s : LoadFileDataBlock) (loc : CompLoc) (infl : InflateCtx δ) :
    (pumpStep I s loc infl).handed = [] := by
  unfold pumpStep
  dsimp only
  split <;> rfl

/-- What follows on a success follows on what was handed out. -/
theorem Step.returned_after {p q : Step δ} :
    (p.after q).returned = HandsOut.prepend p.handed q.returned := by
  unfold Step.returned Step.after HandsOut.prepend
  cases q.error <;> rfl

theorem inflateLoop_eq_returned (fuel : ℕ) (s : LoadFileDataBlock) (loc : CompLoc)
    (infl : InflateCtx δ) (room : ℕ) :
    inflateLoop I fuel s loc infl room = (inflateSteps I fuel s loc infl room).returned := by
  induction fuel generalizing s infl room with
  | zero => rfl
  | succ fuel ih =>
    unfold inflateLoop inflateSteps
    by_cases hroom : room = 0
    · rw [if_pos hroom, if_pos hroom]
      rfl
    rw [if_neg hroom, if_neg hroom]
    by_cases hpending : s.cursor.produced = s.cursor.emitted
    · rw [if_pos hpending, if_pos hpending]
      by_cases hdone : s.cursor.done = true
      · rw [if_pos hdone, if_pos hdone]
        rfl
      -- a call of the decompressor: its error is the step's, and drops what was
      -- handed out
      rw [if_neg hdone, if_neg hdone, pump_eq_returned]
      dsimp only
      cases herror : (pumpStep I s loc infl).error with
      | some e =>
        rw [Step.returned, herror]
      | none =>
        dsimp only
        rw [ih, Step.returned_after, handed_pumpStep]
        cases (inflateSteps I fuel (pumpStep I s loc infl).block loc (pumpStep I s loc infl).infl
          room).returned <;> rfl
    · rw [if_neg hpending, if_neg hpending]
      dsimp only
      rw [ih, Step.returned_after]
      exact HandsOut.prepend_eq (takeRing s infl room) _

/-- A step of a component returns what `emitDeflate` does. -/
theorem emitDeflate_eq_returned (s : LoadFileDataBlock) (loc : CompLoc) (infl : InflateCtx δ)
    (room : ℕ) : emitDeflate I s loc infl room = (emitDeflateStep I s loc infl room).returned :=
  inflateLoop_eq_returned I ..

/-! ### The invariant -/

/-- The ring of a component that `written` went into and `handed` came out of. -/
structure RingLaw (c : CompCursor) (infl : InflateCtx δ) (written handed : List UInt8) :
    Prop where
  produced : c.produced = written.length
  emitted : c.emitted = handed.length
  /-- The octets come out in the order they went in, without a gap or repeat. -/
  order : handed = written.take c.emitted
  /-- What has not come out yet is still there. -/
  pending : c.produced ≤ c.emitted + INFLATE_WINDOW
  /-- As much of what went in last as there is room for. -/
  window : ∀ j, j < c.produced → c.produced ≤ j + INFLATE_WINDOW →
    infl.window[ringPos j]? = written[j]?

/-- The ring after a step, with what went in and came out in it. -/
def RingLaw.After (p : Step δ) (written handed : List UInt8) : Prop :=
  RingLaw p.block.cursor p.infl (written ++ p.written) (handed ++ p.handed)

variable {I}
variable {s : LoadFileDataBlock} {loc : CompLoc} {infl : InflateCtx δ}
  {written handed : List UInt8}

theorem RingLaw.holds {c : CompCursor} (h : RingLaw c infl written handed) :
    Ring.Holds INFLATE_WINDOW infl.window written := by
  intro j hj hrecent
  rw [← h.produced] at hj hrecent
  exact h.window j hj hrecent

theorem RingLaw.emitted_le {c : CompCursor} (h : RingLaw c infl written handed) :
    c.emitted ≤ c.produced := by
  have hlen := congrArg List.length h.order
  rw [List.length_take, ← h.emitted, ← h.produced] at hlen
  omega

theorem RingLaw.idle (h : RingLaw s.cursor infl written handed) :
    RingLaw.After (.idle s infl) written handed := by
  unfold RingLaw.After Step.idle
  rwa [List.append_nil, List.append_nil]

theorem RingLaw.after {p q : Step δ}
    (h : RingLaw.After q (written ++ p.written) (handed ++ p.handed)) :
    RingLaw.After (p.after q) written handed := by
  unfold RingLaw.After Step.after
  rw [← List.append_assoc, ← List.append_assoc]
  exact h

/-- A pump writes behind what is there. With nothing waiting to come out it has
    the whole ring to write to, and stops at the seam. -/
theorem RingLaw.pump (h : RingLaw s.cursor infl written handed)
    (hpending : s.cursor.produced = s.cursor.emitted) :
    RingLaw.After (pumpStep I s loc infl) written handed := by
  unfold pumpStep
  dsimp only
  split
  · exact h.idle
  · have hemitted := h.emitted_le
    have hproduced := h.produced
    have hfit := I.written_le infl.state ((s.zip.drop (loc.dataOff + s.cursor.inPos)).take
      (loc.compSize - s.cursor.inPos)) infl.window (ringPos s.cursor.produced) false
      (by rw [infl.size]; exact (ringPos_lt _).le)
    rw [infl.size] at hfit
    unfold RingLaw.After
    dsimp only
    rw [List.append_nil]
    refine ⟨?_, h.emitted, ?_, ?_, fun j hj hrecent => ?_⟩
    · rw [List.length_append, hproduced]
    · rw [List.take_append_of_le_length (show s.cursor.emitted ≤ written.length by omega)]
      exact h.order
    · dsimp only
      omega
    · -- the octets of the ring that are overwritten lie a whole ring back
      have hwritten := written_write infl (I.decompress infl.state
        ((s.zip.drop (loc.dataOff + s.cursor.inPos)).take (loc.compSize - s.cursor.inPos))
        infl.window (ringPos s.cursor.produced) false).state hfit
      refine h.holds.write ?_ ?_ j ?_ ?_
      · rw [← hproduced]
        exact hfit
      · rw [← hproduced]
        exact hwritten
      · rw [List.length_append, ← hproduced]
        exact hj
      · rw [List.length_append, ← hproduced]
        exact hrecent

/-- Octets that come out are the next ones that went in. -/
theorem RingLaw.takeRing (h : RingLaw s.cursor infl written handed) (room : ℕ) :
    RingLaw { s.cursor with
        emitted := s.cursor.emitted + (LoadFileDataBlock.takeRing s infl room).length }
      infl written (handed ++ LoadFileDataBlock.takeRing s infl room) := by
  have hemitted := h.emitted_le
  have hpending := h.pending
  have hproduced := h.produced
  have hseam := ringPos_lt s.cursor.emitted
  have hlen := length_takeRing s infl room
  generalize hk : (LoadFileDataBlock.takeRing s infl room).length = k at hlen ⊢
  have hread : LoadFileDataBlock.takeRing s infl room = (written.drop s.cursor.emitted).take k := by
    unfold LoadFileDataBlock.takeRing
    dsimp only
    rw [← hlen]
    -- the piece ends before the seam, and nothing of it is overwritten yet
    refine h.holds.read (by omega) (by omega) ?_
    show ringPos s.cursor.emitted + k ≤ INFLATE_WINDOW
    omega
  refine ⟨hproduced, ?_, ?_, ?_, h.window⟩
  · rw [List.length_append, hk, ← h.emitted]
  · rw [hread, List.take_add, ← h.order]
  · dsimp only
    omega

/-- The loop keeps the ring, wherever it stops. -/
theorem RingLaw.inflateSteps (h : RingLaw s.cursor infl written handed) (fuel room : ℕ) :
    RingLaw.After (inflateSteps I fuel s loc infl room) written handed := by
  induction fuel generalizing s infl written handed room with
  | zero => exact h.idle
  | succ fuel ih =>
    unfold Cap.inflateSteps
    split
    · exact h.idle
    split
    · next hpending =>
      split
      · exact h.idle
      · have hpump : RingLaw.After (pumpStep I s loc infl) written handed := h.pump hpending
        dsimp only
        split
        · exact hpump
        · exact RingLaw.after (ih hpump room)
    · -- a piece comes out, and the loop goes on with the rest of the room
      refine RingLaw.after ?_
      dsimp only [Step.idle]
      rw [List.append_nil]
      exact ih (h.takeRing room) _

theorem RingLaw.start (h : RingLaw s.cursor infl written handed) :
    RingLaw (start I s infl).1.cursor (start I s infl).2 written handed := by
  unfold LoadFileDataBlock.start
  split
  · exact h
  · exact { h with }

theorem RingLaw.emitDeflate (h : RingLaw s.cursor infl written handed) (room : ℕ) :
    RingLaw.After (emitDeflateStep I s loc infl room) written handed :=
  (h.start (I := I)).inflateSteps _ room

/-- Calls keep the ring, whatever they are asked for and whether they fail. -/
theorem RingLaw.emits (h : RingLaw s.cursor infl written handed) (calls : List (CompLoc × ℕ)) :
    RingLaw.After (emits I s infl calls) written handed := by
  induction calls generalizing s infl written handed with
  | nil => exact h.idle
  | cons call calls ih =>
    obtain ⟨loc, room⟩ := call
    have hcall : RingLaw.After (emitDeflateStep I s loc infl room) written handed :=
      h.emitDeflate room
    exact RingLaw.after (ih hcall)

/-- A new component has an empty ring, whatever the window holds. -/
theorem ringLaw_new (infl : InflateCtx δ) : RingLaw .new infl [] [] := by
  refine ⟨rfl, rfl, rfl, Nat.zero_le _, fun j hj => ?_⟩
  exact absurd hj (Nat.not_lt_zero j)

/-- After any calls on a component, and in the middle of one more, the octets
    handed out are the first of those the decompressor wrote, no more than a
    window of them is still to come, and the window holds the last ones written
    at their positions. What a call returns is what the step says. -/
theorem inflate_ring_invariant (I : Inflater δ) (s : LoadFileDataBlock) (infl : InflateCtx δ)
    (calls : List (CompLoc × ℕ)) (loc : CompLoc) (rounds room : ℕ) :
    let p := emits I { s with cursor := .new } infl calls
    let q := p.after (inflateSteps I rounds (start I p.block p.infl).1 loc
      (start I p.block p.infl).2 room)
    (p.block.cursor.emitted ≤ p.block.cursor.produced ∧
      RingLaw p.block.cursor p.infl p.written p.handed) ∧
    (q.block.cursor.emitted ≤ q.block.cursor.produced ∧
      RingLaw q.block.cursor q.infl q.written q.handed) ∧
    LoadFileDataBlock.emitDeflate I p.block loc p.infl room =
      (emitDeflateStep I p.block loc p.infl room).returned := by
  intro p q
  have hnew : RingLaw ({ s with cursor := .new } : LoadFileDataBlock).cursor infl [] [] :=
    ringLaw_new infl
  have hp : RingLaw p.block.cursor p.infl p.written p.handed := hnew.emits calls
  have hq : RingLaw q.block.cursor q.infl q.written q.handed :=
    (hp.start (I := I)).inflateSteps rounds room
  exact ⟨⟨hp.emitted_le, hp⟩, ⟨hq.emitted_le, hq⟩, emitDeflate_eq_returned I ..⟩

end Cap

end Scll
