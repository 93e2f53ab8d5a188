import Mathlib.Algebra.Order.BigOperators.Group.List
import Scll.ChunkSize
import Scll.Framework.Loop

/-! # Pulling a load file comes to an end

    The loops of a block as the source writes them, with nothing that bounds
    their rounds: the loop over the components, and inside it the loop over the
    ring and the decompressor. Every block returns, and it returns what the
    bounded loops compute. Blocks that hand something out owe less afterwards,
    so after finitely many of them one is empty or fails.
-/

namespace Scll

namespace Cap

open LoadFileDataBlock Loop

variable {δ : Type} (I : Inflater δ)

/-! ### The loops of a block -/

/-- What a loop has written so far, with the stream and the lent context. -/
abbrev Filling (δ : Type) := List UInt8 × LoadFileDataBlock × InflateCtx δ

/-- A round of the loop over a DEFLATE component. -/
def inflateRound (loc : CompLoc) (room : ℕ) :
    Filling δ → Turn (Filling δ) (Except CapError (Filling δ))
  | (out, s, infl) =>
      if ¬out.length < room then .leave (.ok (out, s, infl))
      else if s.cursor.produced = s.cursor.emitted then
        if s.cursor.done then .leave (.ok (out, s, infl))
        else
          match pump I s loc infl with
          | .error e => .leave (.error e)
          | .ok (s, infl) =>
              if s.cursor.produced = s.cursor.emitted ∧ s.cursor.done then
                .leave (.ok (out, s, infl))
              else .again (out, s, infl)
      else
        let piece := takeRing s infl (room - out.length)
        let cursor := { s.cursor with emitted := s.cursor.emitted + piece.length }
        .again (out ++ piece, { s with cursor }, infl)

/-- What a component hands out. -/
def EmitReturns (s : LoadFileDataBlock) (loc : CompLoc) (infl : InflateCtx δ) (room : ℕ)
    (r : Except CapError (Filling δ)) : Prop :=
  if loc.method = METHOD_DEFLATE then
    Returns (inflateRound I loc room · = ·) ([], start I s infl) r
  else r = .ok ((emitStored s loc room).1, (emitStored s loc room).2, infl)

/-- What the loop over the components goes on with, behind a component. -/
def emitTurn (loc : CompLoc) (out : List UInt8) :
    Except CapError (Filling δ) → Turn (Filling δ) (Except CapError (Filling δ))
  | .error e => .leave (.error e)
  | .ok (piece, s, infl) =>
      if s.cursor.emitted ≥ loc.uncompSize then .again (out ++ piece, s.advance, infl)
      else if piece = [] then .leave (.ok (out ++ piece, s, infl))
      else .again (out ++ piece, s, infl)

/-- A round of the loop over the components. -/
def BlockRound (room : ℕ) :
    Filling δ → Turn (Filling δ) (Except CapError (Filling δ)) → Prop
  | (out, s, infl), turn =>
      if ¬out.length < room then turn = .leave (.ok (out, s, infl))
      else
        match s.locs[s.comp]?.join with
        | none =>
            if s.comp ≥ LFDB_COMPONENTS then turn = .leave (.ok (out, s, infl))
            else turn = .again (out, s.advance, infl)
        | some loc =>
            ∃ r, EmitReturns I s loc infl (room - out.length) r ∧ turn = emitTurn loc out r

/-- What a call of `next_block` returns. -/
def NextBlockReturns (s : LoadFileDataBlock) (infl : InflateCtx δ) (room : ℕ)
    (r : Except CapError (Filling δ)) : Prop :=
  Returns (BlockRound I room) ((s.emitHeader room).1, (s.emitHeader room).2, infl) r

variable {I}

theorem EmitReturns.unique {s : LoadFileDataBlock} {loc : CompLoc} {infl : InflateCtx δ} {room : ℕ}
    {r r' : Except CapError (Filling δ)} (h : EmitReturns I s loc infl room r)
    (h' : EmitReturns I s loc infl room r') : r = r' := by
  unfold EmitReturns at h h'
  split at h
  · next hmethod =>
    rw [if_pos hmethod] at h'
    exact Returns.unique (fun _ _ _ ht ht' => ht.symm.trans ht') h h'
  · next hmethod =>
    rw [if_neg hmethod] at h'
    exact h.trans h'.symm

theorem BlockRound.unique {room : ℕ} {p : Filling δ}
    {t t' : Turn (Filling δ) (Except CapError (Filling δ))} (h : BlockRound I room p t)
    (h' : BlockRound I room p t') : t = t' := by
  obtain ⟨out, s, infl⟩ := p
  unfold BlockRound at h h'
  dsimp only at h h'
  split at h
  · next hfull =>
    rw [if_pos hfull] at h'
    exact h.trans h'.symm
  · next hfull =>
    rw [if_neg hfull] at h'
    cases hloc : s.locs[s.comp]?.join with
    | none =>
      rw [hloc] at h h'
      dsimp only at h h'
      split at h
      · next hend =>
        rw [if_pos hend] at h'
        exact h.trans h'.symm
      · next hend =>
        rw [if_neg hend] at h'
        exact h.trans h'.symm
    | some loc =>
      rw [hloc] at h h'
      obtain ⟨r, hr, rfl⟩ := h
      obtain ⟨r', hr', rfl⟩ := h'
      rw [hr.unique hr']

/-! ### A DEFLATE component -/

/-- A call of the decompressor finishes the stream, writes or uses input. -/
theorem pump_moves {s s' : LoadFileDataBlock} {loc : CompLoc} {infl infl' : InflateCtx δ}
    (h : pump I s loc infl = .ok (s', infl')) :
    ∃ c, s' = { s with cursor := c } ∧ c.emitted = s.cursor.emitted ∧
      s.cursor.produced ≤ c.produced ∧ s.cursor.inPos ≤ c.inPos ∧
      (c.done = true ∨ s.cursor.produced < c.produced ∨
        s.cursor.inPos < c.inPos ∧ s.cursor.inPos < loc.compSize) := by
  unfold pump at h
  dsimp only at h
  split at h
  · cases h
  split at h
  · cases h
  next finished hr =>
    obtain ⟨rfl, -⟩ := Prod.mk.inj (Except.ok.inj h)
    refine ⟨_, rfl, rfl, Nat.le_add_right .., Nat.le_add_right .., ?_⟩
    have hconsumed := I.consumed_le infl.state
      ((s.zip.drop (loc.dataOff + s.cursor.inPos)).take (loc.compSize - s.cursor.inPos))
      infl.window (ringPos s.cursor.produced) false
    rw [List.length_take] at hconsumed
    rcases pumped_cases (I.decompress infl.state
      ((s.zip.drop (loc.dataOff + s.cursor.inPos)).take (loc.compSize - s.cursor.inPos))
      infl.window (ringPos s.cursor.produced) false) with
      ⟨-, hr'⟩ | ⟨-, e, hr'⟩ | ⟨-, hmoved, -⟩
    · left
      obtain rfl := Except.ok.inj (hr.symm.trans hr')
      exact Bool.or_true _
    · cases hr.symm.trans hr'
    · right
      dsimp only
      rw [← List.length_eq_zero_iff] at hmoved
      omega

/-- Something that waits in the ring is handed out. -/
theorem takeRing_pos {s : LoadFileDataBlock} (infl : InflateCtx δ) {room : ℕ}
    (h : s.cursor.emitted < s.cursor.produced) (hroom : 0 < room) :
    0 < (takeRing s infl room).length ∧ (takeRing s infl room).length ≤ room ∧
      s.cursor.emitted + (takeRing s infl room).length ≤ s.cursor.produced := by
  have hseam := ringPos_lt s.cursor.emitted
  rw [length_takeRing]
  omega

theorem prepend_append (out piece : List UInt8)
    (r : Except CapError (List UInt8 × LoadFileDataBlock × InflateCtx δ)) :
    HandsOut.prepend (out ++ piece) r = HandsOut.prepend out (HandsOut.prepend piece r) := by
  cases r with
  | error e => rfl
  | ok p => rw [HandsOut.prepend, HandsOut.prepend, HandsOut.prepend, List.append_assoc]

theorem prepend_nil (r : Except CapError (List UInt8 × LoadFileDataBlock × InflateCtx δ)) :
    HandsOut.prepend [] r = r := by
  cases r <;> rfl

/-- Rounds left of the loop over a DEFLATE component. -/
def inflateRounds (loc : CompLoc) (c : CompCursor) (left : ℕ) : ℕ :=
  2 * left + (loc.compSize - c.inPos) + (if c.done then 0 else 1) +
    (if c.produced = c.emitted then 1 else 0)

/-- A call that moved and did not end the component leaves fewer rounds. -/
theorem inflateRounds_pump {c c' : CompCursor} {loc : CompLoc} (left : ℕ)
    (hpending : c.produced = c.emitted) (hdone : ¬c.done = true) (hsame : c'.emitted = c.emitted)
    (hpos : c.inPos ≤ c'.inPos)
    (hmoved : c'.done = true ∨ c.produced < c'.produced ∨
      c.inPos < c'.inPos ∧ c.inPos < loc.compSize)
    (hover : ¬(c'.produced = c'.emitted ∧ c'.done = true)) :
    inflateRounds loc c' left < inflateRounds loc c left := by
  unfold inflateRounds
  rw [if_pos hpending, if_neg hdone]
  by_cases hd : c'.done = true
  · rw [if_pos hd, if_neg fun he => hover ⟨he, hd⟩]
    omega
  · have := hmoved.resolve_left hd
    rw [if_neg hd]
    split <;> omega

/-- So does a piece taken off the ring. -/
theorem inflateRounds_take {c : CompCursor} (loc : CompLoc) {left k : ℕ}
    (hpending : ¬c.produced = c.emitted) (hk : 0 < k) (hleft : k ≤ left) :
    inflateRounds loc { c with emitted := c.emitted + k } (left - k) <
      inflateRounds loc c left := by
  unfold inflateRounds
  rw [if_neg hpending]
  have hpendingAfter : (if c.produced = c.emitted + k then 1 else 0) ≤ 1 := by
    split <;> omega
  dsimp only
  omega

/-- The loop returns, with what the bounded loop computes. -/
theorem inflateLoop_returns {fuel : ℕ} {s : LoadFileDataBlock} {loc : CompLoc}
    (infl : InflateCtx δ) (out : List UInt8) {room : ℕ}
    (hahead : s.cursor.emitted ≤ s.cursor.produced)
    (hfuel : inflateRounds loc s.cursor (room - out.length) ≤ fuel) :
    Returns (inflateRound I loc room · = ·) (out, s, infl)
      (HandsOut.prepend out (inflateLoop I fuel s loc infl (room - out.length))) := by
  induction fuel generalizing s infl out with
  | zero =>
    have hfull : ¬out.length < room := by
      unfold inflateRounds at hfuel
      omega
    refine .leave ?_
    rw [inflateRound, if_pos hfull, inflateLoop, HandsOut.prepend, List.append_nil]
  | succ fuel ih =>
    by_cases hfull : out.length < room
    · have hleft : ¬room - out.length = 0 := by omega
      rw [inflateLoop, if_neg hleft]
      by_cases hpending : s.cursor.produced = s.cursor.emitted
      · rw [if_pos hpending]
        by_cases hdone : s.cursor.done = true
        · refine .leave ?_
          rw [inflateRound, if_neg (not_not.mpr hfull), if_pos hpending, if_pos hdone,
            if_pos hdone, HandsOut.prepend, List.append_nil]
        · rw [if_neg hdone]
          cases hpump : pump I s loc infl with
          | error e =>
            refine .leave ?_
            rw [inflateRound, if_neg (not_not.mpr hfull), if_pos hpending, if_neg hdone, hpump]
            rfl
          | ok p =>
            obtain ⟨s', infl'⟩ := p
            obtain ⟨c, rfl, hsame, hproduced, hpos, hmoved⟩ := pump_moves hpump
            have hround : inflateRound I loc room (out, s, infl) =
                if c.produced = c.emitted ∧ c.done = true then
                  .leave (.ok (out, { s with cursor := c }, infl'))
                else .again (out, { s with cursor := c }, infl') := by
              rw [inflateRound, if_neg (not_not.mpr hfull), if_pos hpending, if_neg hdone, hpump]
            dsimp only
            by_cases hover : c.produced = c.emitted ∧ c.done = true
            · -- nothing was written and the stream is over: the bounded loop
              -- finds out in a round of its own
              unfold inflateRounds at hfuel
              rw [if_pos hpending, if_neg hdone] at hfuel
              obtain ⟨fuel, rfl⟩ : ∃ n, fuel = n + 1 := ⟨fuel - 1, by omega⟩
              refine .leave ?_
              rw [hround, if_pos hover, inflateLoop, if_neg hleft, if_pos hover.1, if_pos hover.2,
                HandsOut.prepend, List.append_nil]
            · refine .again (hround.trans (if_neg hover)) (ih _ _ ?_ ?_)
              · dsimp only
                omega
              · have hless := inflateRounds_pump (room - out.length) hpending hdone hsame hpos
                  hmoved hover
                dsimp only
                omega
      · have hpiece := takeRing_pos (s := s) infl (by omega : _ < _)
          (by omega : 0 < room - out.length)
        rw [if_neg hpending]
        have hround : inflateRound I loc room (out, s, infl) =
            .again (out ++ takeRing s infl (room - out.length), { s with
              cursor := { s.cursor with
                emitted := s.cursor.emitted +
                  (takeRing s infl (room - out.length)).length } }, infl) := by
          rw [inflateRound, if_neg (not_not.mpr hfull), if_neg hpending]
        generalize takeRing s infl (room - out.length) = piece at *
        refine .again hround ?_
        have hloop := ih (s := { s with
            cursor := { s.cursor with emitted := s.cursor.emitted + piece.length } })
          infl (out ++ piece) hpiece.2.2 ?_
        · rw [List.length_append, ← Nat.sub_sub, prepend_append] at hloop
          rw [← HandsOut.prepend_eq piece] at hloop
          exact hloop
        · have hless := inflateRounds_take loc hpending hpiece.1 hpiece.2.1
          rw [List.length_append, ← Nat.sub_sub]
          dsimp only
          omega
    · refine .leave ?_
      have hleft : room - out.length = 0 := by omega
      rw [inflateRound, if_pos hfull, inflateLoop, if_pos hleft, HandsOut.prepend, List.append_nil]

/-! ### One component -/

/-- The cursor after a piece of the component. -/
def Handed (s : LoadFileDataBlock) (loc : CompLoc) (p : Filling δ) : Prop :=
  ∃ c, p.2.1 = { s with cursor := c } ∧ c.emitted = s.cursor.emitted + p.1.length ∧
    (loc.method = METHOD_DEFLATE → c.emitted ≤ c.produced)

/-- What is returned is as stated, unless it is an error. -/
def IfOk (P : Filling δ → Prop) (r : Except CapError (Filling δ)) : Prop :=
  ∀ p, r = .ok p → P p

theorem ifOk_ok {P : Filling δ → Prop} {p : Filling δ} (h : P p) : IfOk P (.ok p) := by
  intro p' hp'
  rwa [← Except.ok.inj hp']

theorem ifOk_error {P : Filling δ → Prop} (e : CapError) : IfOk P (.error e) := by
  intro p hp
  cases hp

/-- A round keeps the count, and hands out no more than there is. -/
theorem inflateRound_handed {s : LoadFileDataBlock} {loc : CompLoc} {room : ℕ} (p : Filling δ)
    (hmethod : loc.method = METHOD_DEFLATE) (h : Handed s loc p) :
    (inflateRound I loc room p).Holds (Handed s loc) (IfOk (Handed s loc)) := by
  obtain ⟨out, s₁, infl⟩ := p
  have hleft := ifOk_ok h
  obtain ⟨c, hs₁, hcount, hahead⟩ := h
  dsimp only at hs₁ hcount
  subst hs₁
  have hc := hahead hmethod
  unfold inflateRound
  dsimp only
  split
  · exact hleft
  · next hroom =>
    split
    · split
      · exact hleft
      · split
        · exact ifOk_error _
        · next s₂ infl₂ hpump =>
          obtain ⟨c', rfl, hsame, hproduced, -⟩ := pump_moves hpump
          dsimp only at hsame hproduced
          have hnext : Handed s loc (out, { s with cursor := c' }, infl₂) :=
            ⟨c', rfl, hsame.trans hcount, fun _ => by omega⟩
          dsimp only
          split
          · exact ifOk_ok hnext
          · exact hnext
    · next hpending =>
      have hpiece := takeRing_pos (s := { s with cursor := c }) infl
        (by dsimp only; omega) (by omega : 0 < room - out.length)
      refine ⟨_, rfl, ?_, fun _ => hpiece.2.2⟩
      dsimp only
      rw [List.length_append, hcount, Nat.add_assoc]

/-- A component returns, with what the bounded loop computes. -/
theorem emit_returns {s : LoadFileDataBlock} {loc : CompLoc} (infl : InflateCtx δ) (room : ℕ)
    (h : loc.method = METHOD_DEFLATE → s.cursor.emitted ≤ s.cursor.produced) :
    EmitReturns I s loc infl room (emit I s loc infl room) ∧
      IfOk (Handed s loc) (emit I s loc infl room) := by
  unfold EmitReturns emit
  by_cases hmethod : loc.method = METHOD_DEFLATE
  · rw [if_pos hmethod, if_pos hmethod]
    have hstart : Handed s loc ([], start I s infl) := by
      unfold start
      split
      · exact ⟨s.cursor, rfl, rfl, h⟩
      · exact ⟨{ s.cursor with started := true }, rfl, rfl, h⟩
    have hreturns : Returns (inflateRound I loc room · = ·) ([], start I s infl)
        (emitDeflate I s loc infl room) := by
      have hahead : (start I s infl).1.cursor.emitted ≤ (start I s infl).1.cursor.produced := by
        obtain ⟨c, hs, -, hc⟩ := hstart
        rw [hs]
        exact hc hmethod
      have hfuel : inflateRounds loc (start I s infl).1.cursor (room - 0) ≤
          inflateFuel loc room := by
        unfold inflateRounds inflateFuel
        split <;> split <;> omega
      have hloop := inflateLoop_returns (I := I) (start I s infl).2 [] hahead hfuel
      rwa [prepend_nil] at hloop
    refine ⟨hreturns, hreturns.keeps (P := Handed s loc) ?_ hstart⟩
    intro p t hp ht
    rw [← ht]
    exact inflateRound_handed p hmethod hp
  · rw [if_neg hmethod, if_neg hmethod]
    refine ⟨rfl, ifOk_ok ⟨_, rfl, ?_, fun hdeflate => absurd hdeflate hmethod⟩⟩
    dsimp only [emitStored]
    rw [List.length_take, List.length_drop]
    omega

/-! ### A block -/

/-- What holds of a stream wherever it stands: the component it is at is not
    over, and no more of it was handed out than came out of the decompressor. -/
structure Sound (s : LoadFileDataBlock) : Prop where
  slots : s.locs.length = LFDB_COMPONENTS
  short : s.cursor.emitted = 0 ∨
    ∃ loc, s.locs[s.comp]?.join = some loc ∧ s.cursor.emitted < loc.uncompSize
  ahead : ∀ loc, s.locs[s.comp]?.join = some loc → loc.method = METHOD_DEFLATE →
    s.cursor.emitted ≤ s.cursor.produced

theorem Sound.advance {s : LoadFileDataBlock} (h : Sound s) : Sound s.advance :=
  ⟨h.slots, .inl rfl, fun _ _ _ => le_rfl⟩

/-- A piece of a component that is not over behind it. -/
theorem Sound.handed {s s' : LoadFileDataBlock} {loc : CompLoc} {piece : List UInt8}
    {infl : InflateCtx δ} (h : Sound s) (hloc : s.locs[s.comp]?.join = some loc)
    (hpiece : Handed s loc (piece, s', infl)) (hshort : s'.cursor.emitted < loc.uncompSize) :
    Sound s' := by
  obtain ⟨c, hs', -, hahead⟩ := hpiece
  dsimp only at hs'
  subst hs'
  refine ⟨h.slots, .inr ⟨loc, hloc, hshort⟩, ?_⟩
  intro loc' hloc'
  obtain rfl := Option.some.inj (hloc.symm.trans hloc')
  exact hahead

/-- Octets and components from one component on, as declared. -/
def owedFrom (locs : Locs) : ℕ := contentLen locs + (locs.filterMap id).length

/-- What a stream owes at most: header octets, octets and components. -/
def owed (s : LoadFileDataBlock) : ℕ :=
  s.header.length - s.headerEmitted + (owedFrom (s.locs.drop s.comp) - s.cursor.emitted)

theorem owedFrom_present {s : LoadFileDataBlock} {loc : CompLoc}
    (h : s.locs[s.comp]?.join = some loc) :
    owedFrom (s.locs.drop s.comp) = loc.uncompSize + 1 + owedFrom (s.locs.drop (s.comp + 1)) := by
  rw [drop_of_present h]
  unfold owedFrom
  rw [contentLen_some, List.filterMap_cons_some (f := id) rfl, List.length_cons]
  omega

theorem owedFrom_absent {s : LoadFileDataBlock} (hend : s.comp < s.locs.length)
    (h : s.locs[s.comp]?.join = none) :
    owedFrom (s.locs.drop s.comp) = owedFrom (s.locs.drop (s.comp + 1)) := by
  rw [drop_of_absent hend h]
  unfold owedFrom
  rw [contentLen_none, List.filterMap_cons_none (f := id) rfl]

/-- No more is owed than before, and less if something was written. -/
def Pays (p p' : Filling δ) : Prop :=
  owed p'.2.1 < owed p.2.1 ∨ p'.1 = p.1 ∧ owed p'.2.1 ≤ owed p.2.1

theorem Pays.trans {p p' p'' : Filling δ} (h : Pays p p') (h' : Pays p' p'') : Pays p p'' := by
  rcases h with h | ⟨hout, h⟩
  · rcases h' with h' | ⟨-, h'⟩
    · exact .inl (h'.trans h)
    · exact .inl (h'.trans_lt h)
  · rcases h' with h' | ⟨hout', h'⟩
    · exact .inl (h'.trans_le h)
    · exact .inr ⟨hout'.trans hout, h'.trans h⟩

/-- A round of the loop over the components leaves a sound stream, and pays for
    what it writes. -/
theorem blockRound_pays {room : ℕ} {p : Filling δ} (h : Sound p.2.1)
    {turn : Turn (Filling δ) (Except CapError (Filling δ))} (hturn : BlockRound I room p turn) :
    turn.Holds (fun p' => Sound p'.2.1 ∧ Pays p p')
      (IfOk fun p' => Sound p'.2.1 ∧ Pays p p') := by
  obtain ⟨out, s, infl⟩ := p
  have hstays : IfOk (fun p' => Sound p'.2.1 ∧ Pays (out, s, infl) p') (.ok (out, s, infl)) :=
    ifOk_ok ⟨h, .inr ⟨rfl, le_rfl⟩⟩
  dsimp only at h
  unfold BlockRound at hturn
  dsimp only at hturn
  split at hturn
  · subst hturn
    exact hstays
  split at hturn
  · next hloc =>
    split at hturn
    · subst hturn
      exact hstays
    · next hend =>
      subst hturn
      refine ⟨h.advance, .inr ⟨rfl, ?_⟩⟩
      -- nothing of an absent component was handed out, so passing it owes nothing
      have hzero : s.cursor.emitted = 0 := by
        rcases h.short with hzero | ⟨loc, hsome, -⟩
        · exact hzero
        · rw [hloc] at hsome
          cases hsome
      have := owedFrom_absent (by rw [h.slots]; omega) hloc
      unfold owed advance
      dsimp only [CompCursor.new]
      omega
  · next loc hloc =>
    obtain ⟨r, hr, rfl⟩ := hturn
    obtain ⟨hemit, hhanded⟩ := emit_returns infl (room - out.length) (h.ahead loc hloc)
    obtain rfl := hr.unique hemit
    have howed := owedFrom_present hloc
    cases hresult : emit I s loc infl (room - out.length) with
    | error e => exact ifOk_error e
    | ok next =>
      obtain ⟨piece, s', infl'⟩ := next
      have hpiece := hhanded _ hresult
      have hsound := h.handed hloc hpiece
      have hshort := h.short
      rw [hloc] at hshort
      obtain ⟨c, hs', hcount, -⟩ := hpiece
      dsimp only at hs' hcount
      subst hs'
      have hwithin : s.cursor.emitted ≤ loc.uncompSize := by
        rcases hshort with hzero | ⟨loc', hsome, hless⟩
        · omega
        · obtain rfl := Option.some.inj hsome
          exact hless.le
      dsimp only [emitTurn]
      split
      · -- the component is over
        refine ⟨⟨h.slots, .inl rfl, fun _ _ _ => le_rfl⟩, .inl ?_⟩
        unfold owed advance
        dsimp only [CompCursor.new]
        omega
      · next hmore =>
        have hsound' := hsound (Nat.lt_of_not_le hmore)
        split
        · next hnone =>
          -- a stall: the loop is left with what it has
          refine ifOk_ok ⟨hsound', .inr ⟨by rw [hnone, List.append_nil], ?_⟩⟩
          unfold owed
          dsimp only
          omega
        · next hsome =>
          have := List.length_pos_iff.mpr hsome
          refine ⟨hsound', .inl ?_⟩
          unfold owed
          dsimp only
          omega

/-- A full block ends the loop. -/
theorem blockRound_full {room : ℕ} {out : List UInt8} (hfull : ¬out.length < room)
    (s : LoadFileDataBlock) (infl : InflateCtx δ) :
    BlockRound I room (out, s, infl) (.leave (.ok (out, s, infl))) := by
  unfold BlockRound
  dsimp only
  rw [if_pos hfull]

/-- A round at a component that is absent. -/
theorem blockRound_absent {room : ℕ} {out : List UInt8} (hfull : out.length < room)
    {s : LoadFileDataBlock} (hloc : s.locs[s.comp]?.join = none) (infl : InflateCtx δ) :
    BlockRound I room (out, s, infl)
      (if s.comp ≥ LFDB_COMPONENTS then .leave (.ok (out, s, infl))
        else .again (out, s.advance, infl)) := by
  unfold BlockRound
  dsimp only
  rw [if_neg (not_not.mpr hfull), hloc]
  dsimp only
  split
  · rfl
  · rfl

/-- A round at a component that is there: it fails, or goes on behind a piece. -/
theorem blockRound_component {room : ℕ} {out : List UInt8} (hfull : out.length < room)
    {s : LoadFileDataBlock} (h : Sound s) {loc : CompLoc} (hloc : s.locs[s.comp]?.join = some loc)
    (infl : InflateCtx δ) :
    BlockRound I room (out, s, infl) (emitTurn loc out (emit I s loc infl (room - out.length))) ∧
    ∀ piece s' infl', emit I s loc infl (room - out.length) = .ok (piece, s', infl') →
      s'.comp = s.comp ∧ Sound s'.advance ∧ (s'.cursor.emitted < loc.uncompSize → Sound s') := by
  obtain ⟨hemit, hhanded⟩ := emit_returns infl (room - out.length) (h.ahead loc hloc)
  constructor
  · unfold BlockRound
    dsimp only
    rw [if_neg (not_not.mpr hfull), hloc]
    exact ⟨_, hemit, rfl⟩
  · intro piece s' infl' hresult
    have hpiece := hhanded _ hresult
    have hsound := h.handed hloc hpiece
    obtain ⟨c, hs', -⟩ := hpiece
    dsimp only at hs'
    subst hs'
    exact ⟨rfl, ⟨h.slots, .inl rfl, fun _ _ _ => le_rfl⟩, hsound⟩

/-- The loop over the components returns, with what the bounded loop computes. -/
theorem blockLoop_returns {fuel : ℕ} {s : LoadFileDataBlock} (infl : InflateCtx δ)
    (out : List UInt8) {room : ℕ} (h : Sound s)
    (hfuel : LFDB_COMPONENTS - s.comp + (room - out.length) ≤ fuel) :
    Returns (BlockRound I room) (out, s, infl)
      (HandsOut.prepend out (blockLoop I fuel s infl (room - out.length))) := by
  -- the fuel is the components ahead and the room; every round uses some of either
  induction fuel generalizing s infl out with
  | zero =>
    rw [blockLoop, HandsOut.prepend, List.append_nil]
    exact .leave (blockRound_full (by omega) s infl)
  | succ fuel ih =>
    by_cases hfull : out.length < room
    · have hleft : ¬room - out.length = 0 := by omega
      rw [blockLoop, if_neg hleft]
      cases hloc : s.locs[s.comp]?.join with
      | none =>
        have hround := blockRound_absent (I := I) hfull hloc infl
        dsimp only
        by_cases hend : s.comp ≥ LFDB_COMPONENTS
        · rw [if_pos hend] at hround ⊢
          rw [HandsOut.prepend, List.append_nil]
          exact .leave hround
        · rw [if_neg hend] at hround ⊢
          refine .again hround (ih _ _ h.advance ?_)
          unfold advance
          dsimp only
          omega
      | some loc =>
        dsimp only
        have hcomp : s.comp < LFDB_COMPONENTS := by
          rw [← h.slots]
          exact lt_of_present hloc
        obtain ⟨hturn, hafter⟩ := blockRound_component hfull h hloc infl
        cases hresult : emit I s loc infl (room - out.length) with
        | error e =>
          rw [hresult] at hturn
          exact .leave hturn
        | ok next =>
          obtain ⟨piece, s', infl'⟩ := next
          obtain ⟨hsame, hover', hsound⟩ := hafter _ _ _ hresult
          rw [hresult] at hturn
          dsimp only [emitTurn] at hturn ⊢
          have hnext : ∀ s'' : LoadFileDataBlock, Sound s'' →
              LFDB_COMPONENTS - s''.comp + (room - out.length - piece.length) ≤ fuel →
              BlockRound I room (out, s, infl) (.again (out ++ piece, s'', infl')) →
              Returns (BlockRound I room) (out, s, infl) (HandsOut.prepend out (HandsOut.prepend
                piece (blockLoop I fuel s'' infl' (room - out.length - piece.length)))) := by
            intro s'' hs'' hless hagain
            have hloop := ih infl' (out ++ piece) hs'' (by rw [List.length_append]; omega)
            rw [List.length_append, ← Nat.sub_sub, prepend_append] at hloop
            exact .again hagain hloop
          by_cases hover : s'.cursor.emitted ≥ loc.uncompSize
          · rw [if_pos hover] at hturn
            rw [if_neg fun hstall => absurd hover (Nat.not_le_of_lt hstall.1), if_pos hover]
            have hdone := hnext _ hover' (by
              unfold advance
              dsimp only
              omega) hturn
            rw [← HandsOut.prepend_eq piece] at hdone
            exact hdone
          · rw [if_neg hover] at hturn
            have hless := Nat.lt_of_not_le hover
            by_cases hnone : piece = []
            · rw [if_pos hnone] at hturn
              rw [if_pos ⟨hless, hnone⟩]
              subst hnone
              exact .leave hturn
            · have := List.length_pos_iff.mpr hnone
              rw [if_neg hnone] at hturn
              rw [if_neg fun hstall => hnone hstall.2, if_neg hover]
              have hdone := hnext _ (hsound hless) (by omega) hturn
              rw [← HandsOut.prepend_eq piece] at hdone
              exact hdone
    · have hleft : room - out.length = 0 := by omega
      rw [blockLoop, if_pos hleft, HandsOut.prepend, List.append_nil]
      exact .leave (blockRound_full hfull s infl)

/-! ### Draining -/

theorem Sound.emitHeader {s : LoadFileDataBlock} (h : Sound s) (room : ℕ) :
    Sound (s.emitHeader room).2 := ⟨h.slots, h.short, h.ahead⟩

/-- A block returns, and nothing else than what the bounded loops compute. -/
theorem nextBlockReturns_iff {s : LoadFileDataBlock} (h : Sound s) (infl : InflateCtx δ) (room : ℕ)
    (r : Except CapError (Filling δ)) :
    NextBlockReturns I s infl room r ↔ r = nextBlock I s infl room := by
  have hreturns : NextBlockReturns I s infl room (nextBlock I s infl room) := by
    have hfuel : LFDB_COMPONENTS - (s.emitHeader room).2.comp +
        (room - (s.emitHeader room).1.length) ≤ blockFuel room := by
      unfold blockFuel
      omega
    have hloop := blockLoop_returns (I := I) infl _ (h.emitHeader room) hfuel
    rw [← HandsOut.prepend_eq] at hloop
    exact hloop
  constructor
  · intro hr
    exact Returns.unique (fun _ _ _ ht ht' => ht.unique ht') hr hreturns
  · rintro rfl
    exact hreturns

/-- A block leaves a sound stream, and pays for what it hands out. -/
theorem nextBlock_pays {s s' : LoadFileDataBlock} (h : Sound s) {infl infl' : InflateCtx δ}
    {room : ℕ} {out : List UInt8} (hblock : nextBlock I s infl room = .ok (out, s', infl')) :
    Sound s' ∧ (out ≠ [] → owed s' < owed s) := by
  have hreturns := (nextBlockReturns_iff (I := I) h infl room _).mpr rfl
  have hhead : Pays ([], s, infl) ((s.emitHeader room).1, (s.emitHeader room).2, infl) := by
    have hlen : ((s.header.drop s.headerEmitted).take room).length ≤
        s.header.length - s.headerEmitted := by
      rw [List.length_take, List.length_drop]
      omega
    by_cases hnone : (s.header.drop s.headerEmitted).take room = []
    · refine .inr ⟨hnone, ?_⟩
      dsimp only [emitHeader, owed]
      omega
    · have := List.length_pos_iff.mpr hnone
      left
      dsimp only [emitHeader, owed]
      omega
  have hpays := hreturns.keeps
    (P := fun p => Sound p.2.1 ∧ Pays ([], s, infl) p)
    (Q := IfOk fun p => Sound p.2.1 ∧ Pays ([], s, infl) p) ?_ ⟨h.emitHeader room, hhead⟩
  · obtain ⟨hsound, hpaid⟩ := hpays _ hblock
    refine ⟨hsound, ?_⟩
    intro hout
    rcases hpaid with hless | ⟨hnone, -⟩
    · exact hless
    · exact absurd hnone hout
  · rintro p turn ⟨hp, hpaid⟩ hturn
    have hround := blockRound_pays hp hturn
    cases turn with
    | again p' => exact ⟨hround.1, hpaid.trans hround.2⟩
    | leave r =>
      intro p' hp'
      obtain ⟨hsound, hpays⟩ := hround p' hp'
      exact ⟨hsound, hpaid.trans hpays⟩

theorem sound_lfdb {cap : CapFile} (hslots : cap.locs.length = LFDB_COMPONENTS) : Sound cap.lfdb :=
  ⟨hslots, .inl rfl, fun _ _ _ => le_rfl⟩

theorem Point.sound {cap : CapFile} (hslots : cap.locs.length = LFDB_COMPONENTS)
    {s : LoadFileDataBlock} (h : Point I cap s) : Sound s := by
  induction h with
  | start => exact sound_lfdb hslots
  | block _ hpulled ih => exact (nextBlock_pays ih hpulled).1
  | reset _ ih => exact ⟨ih.slots, .inl rfl, fun _ _ _ => le_rfl⟩

theorem owed_le {s : LoadFileDataBlock} (h : Sound s) : owed s ≤ s.len + LFDB_COMPONENTS := by
  have hsub := List.drop_sublist s.comp s.locs
  have hcontent : contentLen (s.locs.drop s.comp) ≤ contentLen s.locs :=
    (hsub.filterMap _).sum_le_sum fun _ _ => Nat.zero_le _
  have hcount := (hsub.filterMap id).length_le
  have hslots := List.length_filterMap_le id s.locs
  have := h.slots
  unfold owed owedFrom len
  omega

/-- For every accepted CAP, from every point of its load file and with every
    context: a block terminates, with what the bounded loops compute; and blocks
    that are not empty come to an end, with an empty one or an error, after as
    many as the load file has octets and components. -/
theorem draining_terminates {I : Inflater δ} {zip : List UInt8} {infl₀ infl₁ : InflateCtx δ}
    {cap : CapFile} (hparse : parse I zip infl₀ = .ok (cap, infl₁)) {s : LoadFileDataBlock}
    (hs : Point I cap s) (infl : InflateCtx δ) :
    (∀ room r, NextBlockReturns I s infl room r ↔ r = nextBlock I s infl room) ∧
    ∀ room : ℕ → ℕ, (∀ k, 0 < room k) →
      ∃ n r, n ≤ s.len + LFDB_COMPONENTS + 1 ∧ Chunks.Drains (pull I) (s, infl) room n r := by
  have hsound := hs.sound (parse_ok hparse).2
  refine ⟨nextBlockReturns_iff hsound infl, ?_⟩
  intro room hroom
  have hpays : ∀ p p' n out, Sound p.1 → 0 < n → pull I p n = .ok (out, p') → out ≠ [] →
      Sound p'.1 ∧ owed p'.1 < owed p.1 := by
    intro p p' n out hp _ hpull hout
    obtain ⟨hp', hless⟩ := nextBlock_pays hp hpull
    exact ⟨hp', hless hout⟩
  obtain ⟨n, r, hn, hdrains⟩ := Chunks.drains_of_measure (P := fun p => Sound p.1)
    (fun p => owed p.1) hpays (s := (s, infl)) hsound hroom
  exact ⟨n, r, hn.trans (Nat.succ_le_succ (owed_le hsound)), hdrains⟩

/-- The sample CAP, pulled in blocks of one octet, of two, of three and so on. -/
theorem draining_terminates_sample :
    ∃ cap infl₁, parse storedInflater sampleCap (InflateCtx.new storedInflater) = .ok (cap, infl₁) ∧
      (∃ r, NextBlockReturns storedInflater cap.lfdb infl₁ 1 r) ∧
      ∃ n r, n ≤ cap.lfdb.len + LFDB_COMPONENTS + 1 ∧
        Chunks.Drains (pull storedInflater) (cap.lfdb, infl₁) (· + 1) n r := by
  obtain ⟨cap, infl₁, hparse, -⟩ := parse_sampleCap
  obtain ⟨hreturns, hdrains⟩ := draining_terminates hparse .start infl₁
  exact ⟨cap, infl₁, hparse, ⟨_, (hreturns 1 _).mpr rfl⟩, hdrains (· + 1) fun k => Nat.succ_pos k⟩

end Cap

end Scll
