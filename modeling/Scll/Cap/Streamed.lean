import Scll.Cap.Draining
import Scll.Cap.Metadata

/-! # What is read of a component and what is streamed of it

    The parser takes the compressed length of a component, the stream its
    declared length. Octets that are streamed are told apart by the component
    they come from; that is the only difference between the reader here and the
    one of the code.
-/

namespace Scll

namespace Cap

open Octets LoadFileDataBlock

variable {δ : Type} (I : Inflater δ)

/-! ### Octets and where they come from -/

/-- An octet of the stream, with the component it comes from; those of the
    header come from none. -/
abbrev Sourced := Option ℕ × UInt8

def sourced (src : Option ℕ) (out : List UInt8) : List Sourced := out.map fun b => (src, b)

/-- The loop over the components, with the component of each octet. -/
def sourcedLoop : ℕ → LoadFileDataBlock → InflateCtx δ → ℕ →
    Except CapError (List Sourced × LoadFileDataBlock × InflateCtx δ)
  | 0, s, infl, _ => .ok ([], s, infl)
  | fuel + 1, s, infl, room =>
      if room = 0 then .ok ([], s, infl)
      else
        match s.locs[s.comp]?.join with
        | none =>
            if s.comp ≥ LFDB_COMPONENTS then .ok ([], s, infl)
            else sourcedLoop fuel s.advance infl room
        | some loc =>
            match emit I s loc infl room with
            | .error e => .error e
            | .ok (out, s, infl) =>
                if s.cursor.emitted < loc.uncompSize ∧ out = [] then .ok ([], s, infl)
                else
                  let next := if s.cursor.emitted ≥ loc.uncompSize then s.advance else s
                  match sourcedLoop fuel next infl (room - out.length) with
                  | .error e => .error e
                  | .ok (more, next, infl) => .ok (sourced (some s.comp) out ++ more, next, infl)

/-- The next block, with the component of each octet. -/
def sourcedBlock (p : LoadFileDataBlock × InflateCtx δ) (room : ℕ) :
    Except CapError (List Sourced × LoadFileDataBlock × InflateCtx δ) :=
  let (head, s) := p.1.emitHeader room
  match sourcedLoop I (blockFuel room) s p.2 (room - head.length) with
  | .error e => .error e
  | .ok (out, s, infl) => .ok (sourced none head ++ out, s, infl)

/-- Forget where the octets come from. -/
def erase (r : Except CapError (List Sourced × LoadFileDataBlock × InflateCtx δ)) :
    Except CapError (List UInt8 × LoadFileDataBlock × InflateCtx δ) :=
  r.map fun p => (p.1.map Prod.snd, p.2)

theorem map_snd_sourced (src : Option ℕ) (out : List UInt8) :
    (sourced src out).map Prod.snd = out := by
  simp [sourced]

theorem sourced_eq_nil {src : Option ℕ} {out : List UInt8} : sourced src out = [] ↔ out = [] :=
  List.map_eq_nil_iff

theorem erase_sourcedLoop (fuel : ℕ) (s : LoadFileDataBlock) (infl : InflateCtx δ) (room : ℕ) :
    erase (sourcedLoop I fuel s infl room) = blockLoop I fuel s infl room := by
  induction fuel generalizing s infl room with
  | zero => rfl
  | succ fuel ih =>
    rw [sourcedLoop, blockLoop]
    by_cases hroom : room = 0
    · rw [if_pos hroom, if_pos hroom]
      rfl
    · rw [if_neg hroom, if_neg hroom]
      cases s.locs[s.comp]?.join with
      | none =>
        dsimp only
        split
        · rfl
        · exact ih ..
      | some loc =>
        dsimp only
        cases emit I s loc infl room with
        | error e => rfl
        | ok p =>
          obtain ⟨out, s', infl'⟩ := p
          dsimp only
          split
          · rfl
          · rw [← ih]
            generalize sourcedLoop I fuel _ infl' (room - out.length) = r
            cases r with
            | error e => rfl
            | ok p =>
              simp only [erase, Except.map, List.map_append, map_snd_sourced]

/-- The reader is the one of the code, but for the components of the octets. -/
theorem erase_sourcedBlock (p : LoadFileDataBlock × InflateCtx δ) (room : ℕ) :
    erase (sourcedBlock I p room) = pull I p room := by
  unfold sourcedBlock pull nextBlock
  dsimp only
  rw [← erase_sourcedLoop]
  generalize sourcedLoop I _ _ _ _ = r
  cases r with
  | error e => rfl
  | ok p => simp only [erase, Except.map, List.map_append, map_snd_sourced]

/-- What was streamed of one component. -/
def streamedOf (k : ℕ) (out : List Sourced) : List UInt8 :=
  (out.filter fun b => b.1 = some k).map Prod.snd

theorem streamedOf_append (k : ℕ) (out more : List Sourced) :
    streamedOf k (out ++ more) = streamedOf k out ++ streamedOf k more := by
  rw [streamedOf, List.filter_append, List.map_append, streamedOf, streamedOf]

theorem streamedOf_same (k : ℕ) (out : List UInt8) : streamedOf k (sourced (some k) out) = out := by
  unfold streamedOf sourced
  rw [List.filter_eq_self.mpr (by simp)]
  exact map_snd_sourced (some k) out

theorem streamedOf_other {k : ℕ} {src : Option ℕ} (h : src ≠ some k) (out : List UInt8) :
    streamedOf k (sourced src out) = [] := by
  unfold streamedOf sourced
  rw [List.filter_eq_nil_iff.mpr (by simp [h]), List.map_nil]

/-! ### What a component supplies -/

variable {I} {inflate : Deflate}

/-- What the stream can take of a component, and whether all of it comes
    without an error: what it decompresses to, or the declared length of octets. -/
def supply (inflate : Deflate) (zip : List UInt8) (loc : CompLoc) :
    List UInt8 × Bool :=
  if loc.method = METHOD_DEFLATE then compOctets inflate zip loc
  else ((zip.drop loc.dataOff).take loc.uncompSize, true)

/-- A component whose supply is all there stays within its output. -/
theorem stays_of_supply {inflate : Deflate} {zip : List UInt8} {loc : CompLoc}
    (h : (supply inflate zip loc).2 = true) : Stays inflate zip loc := by
  by_cases hmethod : loc.method = METHOD_DEFLATE
  · rw [supply, if_pos hmethod] at h
    exact stays_of_ok h
  · exact stays_of_stored hmethod

/-- The cursor lies in what the component supplies. -/
structure Supplying (I : Inflater δ) (inflate : Deflate) (zip : List UInt8)
    (loc : CompLoc) (c : CompCursor) (infl : InflateCtx δ) : Prop where
  within : Stays inflate zip loc → c.emitted ≤ (supply inflate zip loc).1.length
  reading : loc.method = METHOD_DEFLATE → Reading I inflate zip loc c infl

theorem supplying_new (zip : List UInt8) (loc : CompLoc) (infl : InflateCtx δ) :
    Supplying I inflate zip loc .new infl :=
  ⟨fun _ => Nat.zero_le _, fun _ => reading_new zip loc infl⟩

/-- A piece of a component: no more than there is room for, and the cursor moves
    by it. If the component stays within its output, it is the next piece of the
    supply, and leaves room only at the end of it. -/
structure Supplies (I : Inflater δ) (inflate : Deflate) (zip : List UInt8) (loc : CompLoc)
    (emitted room : ℕ) (piece : List UInt8) (c : CompCursor) (infl : InflateCtx δ) : Prop where
  after : Supplying I inflate zip loc c infl
  fits : piece.length ≤ room
  moves : c.emitted = emitted + piece.length
  next : Stays inflate zip loc → piece = ((supply inflate zip loc).1.drop emitted).take room
  filled : Stays inflate zip loc → (supply inflate zip loc).2 = false →
    room ≤ ((supply inflate zip loc).1.drop emitted).length

/-- A DEFLATE component hands out a piece of what it decompresses to, or it fails. -/
theorem emitDeflate_supplies (hI : Correct I inflate) {s : LoadFileDataBlock} {loc : CompLoc}
    {infl : InflateCtx δ} {room : ℕ} (hroom : 0 < room) (hmethod : loc.method = METHOD_DEFLATE)
    (hreading : Reading I inflate s.zip loc s.cursor infl) :
    (∃ e, emitDeflate I s loc infl room = .error e) ∧ (supply inflate s.zip loc).2 = false ∨
      ∃ piece c infl',
        emitDeflate I s loc infl room = .ok (piece, { s with cursor := c }, infl') ∧
          Supplies I inflate s.zip loc s.cursor.emitted room piece c infl' := by
  have hsupply : supply inflate s.zip loc = compOctets inflate s.zip loc := if_pos hmethod
  rw [hsupply]
  rcases emitDeflate_moves hI hroom hmethod hreading with
    hfailed | ⟨piece, c, infl', hrun, hafter, hfits, hmoves⟩
  · exact .inl hfailed
  -- which octets these are is known only if the component stays within its output
  · have hspec : Stays inflate s.zip loc →
        piece = ((compOctets inflate s.zip loc).1.drop s.cursor.emitted).take room ∧
          ((compOctets inflate s.zip loc).2 = false →
            room ≤ ((compOctets inflate s.zip loc).1.drop s.cursor.emitted).length) := by
      intro hstays
      rcases emitDeflate_spec hI hroom hmethod hstays hreading with
        ⟨⟨e, he⟩, -⟩ | ⟨p, hp, -, hfilled⟩
      · rw [hrun] at he
        cases he
      · rw [hrun] at hp
        exact ⟨(Prod.mk.inj (Except.ok.inj hp)).1, hfilled⟩
    refine .inr ⟨piece, c, infl', hrun, ⟨?_, fun _ => hafter⟩, hfits, hmoves, ?_, ?_⟩
    · rw [hsupply]
      exact hafter.within
    · intro hstays
      rw [hsupply]
      exact (hspec hstays).1
    · intro hstays
      rw [hsupply]
      exact (hspec hstays).2

/-- A STORED component hands out a piece of the octets it declares, as far as
    the ZIP has them. -/
theorem emitStored_supplies {s : LoadFileDataBlock} {loc : CompLoc} (infl : InflateCtx δ)
    {room : ℕ} (hmethod : ¬ loc.method = METHOD_DEFLATE)
    (hwithin : s.cursor.emitted ≤ (supply inflate s.zip loc).1.length) :
    Supplies I inflate s.zip loc s.cursor.emitted room (emitStored s loc room).1
      (emitStored s loc room).2.cursor infl := by
  have hsupply : supply inflate s.zip loc =
      ((s.zip.drop loc.dataOff).take loc.uncompSize, true) := if_neg hmethod
  rw [hsupply] at hwithin
  dsimp only at hwithin
  rw [List.length_take, List.length_drop] at hwithin
  -- the source cuts at the declared length, the room and the end of the ZIP
  have htake : min (min (loc.uncompSize - s.cursor.emitted) room)
      (s.zip.length - (loc.dataOff + s.cursor.emitted)) =
      min room (min loc.uncompSize (s.zip.length - loc.dataOff) - s.cursor.emitted) := by omega
  have hpiece : (emitStored s loc room).1 =
      (((s.zip.drop loc.dataOff).take loc.uncompSize).drop s.cursor.emitted).take room := by
    unfold emitStored
    dsimp only
    rw [List.drop_take, List.take_take, List.drop_drop, ← List.length_drop,
      ← List.take_eq_take_min, Nat.min_comm room]
  have hlen : (emitStored s loc room).1.length =
      min room (min loc.uncompSize (s.zip.length - loc.dataOff) - s.cursor.emitted) := by
    rw [hpiece]
    simp only [List.length_take, List.length_drop]
  have hmoved : (emitStored s loc room).2.cursor.emitted =
      s.cursor.emitted + (emitStored s loc room).1.length := by
    rw [hlen, ← htake]
    rfl
  refine ⟨⟨fun _ => ?_, fun h => absurd h hmethod⟩, ?_, hmoved, ?_, ?_⟩
  · rw [hsupply, hmoved, hlen]
    dsimp only
    rw [List.length_take, List.length_drop]
    omega
  · rw [hlen]
    omega
  · intro _
    rw [hsupply]
    exact hpiece
  · intro _ hfails
    rw [hsupply] at hfails
    cases hfails

/-- A component hands out a piece of its supply, or it fails. -/
theorem emit_supply (hI : Correct I inflate) {zip : List UInt8} {s : LoadFileDataBlock}
    {loc : CompLoc} {infl : InflateCtx δ} {room : ℕ} (hroom : 0 < room) (hzip : s.zip = zip)
    (h : Supplying I inflate zip loc s.cursor infl) :
    (∃ e, emit I s loc infl room = .error e) ∧ (supply inflate zip loc).2 = false ∨
      ∃ piece c infl', emit I s loc infl room = .ok (piece, { s with cursor := c }, infl') ∧
        Supplies I inflate zip loc s.cursor.emitted room piece c infl' := by
  subst hzip
  unfold emit
  by_cases hmethod : loc.method = METHOD_DEFLATE
  · rw [if_pos hmethod]
    exact emitDeflate_supplies hI hroom hmethod (h.reading hmethod)
  · rw [if_neg hmethod]
    exact .inr ⟨_, _, infl, rfl,
      emitStored_supplies infl hmethod (h.within (stays_of_stored hmethod))⟩

/-! ### A drain, component by component -/

section draining

variable {zip : List UInt8} {locs : Locs}

/-- The stream stands at a component: those before it came to their declared
    lengths at least, and nothing was streamed of those after it. What was
    streamed of a component is of its supply if it stays within its output. -/
structure Streaming (I : Inflater δ) (inflate : Deflate) (zip : List UInt8)
    (locs : Locs) (out : List Sourced) (p : LoadFileDataBlock × InflateCtx δ) : Prop where
  zip_eq : p.1.zip = zip
  locs_eq : p.1.locs = locs
  past : ∀ j loc, j < p.1.comp → locs[j]?.join = some loc →
    loc.uncompSize ≤ (streamedOf j out).length ∧
      (Stays inflate zip loc → streamedOf j out <+: (supply inflate zip loc).1)
  here : ∀ loc, locs[p.1.comp]?.join = some loc →
    Supplying I inflate zip loc p.1.cursor p.2 ∧
      (streamedOf p.1.comp out).length = p.1.cursor.emitted ∧
      (Stays inflate zip loc →
        streamedOf p.1.comp out = (supply inflate zip loc).1.take p.1.cursor.emitted)
  ahead : ∀ j, p.1.comp < j → streamedOf j out = []

/-- Between two rounds, the component is not over. -/
def Unfinished (locs : Locs) (s : LoadFileDataBlock) : Prop :=
  ∀ loc, locs[s.comp]?.join = some loc →
    s.cursor.emitted = 0 ∨ s.cursor.emitted < loc.uncompSize

/-- The stream is over: all components are past, or one of them came to less
    than its declared length, with all of its supply if it stays within its
    output. -/
def Ended (inflate : Deflate) (zip : List UInt8) (locs : Locs)
    (out : List Sourced) (comp : ℕ) : Prop :=
  LFDB_COMPONENTS ≤ comp ∨
    ∃ loc, locs[comp]?.join = some loc ∧ (streamedOf comp out).length < loc.uncompSize ∧
      (Stays inflate zip loc → (supply inflate zip loc).2 = true ∧
        streamedOf comp out = (supply inflate zip loc).1)

/-- The components before one stay within their outputs, and come to their
    declared lengths at least. -/
def LongBefore (inflate : Deflate) (zip : List UInt8) (locs : Locs) (k : ℕ) : Prop :=
  ∀ j loc, j < k → locs[j]?.join = some loc →
    Stays inflate zip loc ∧ loc.uncompSize ≤ (supply inflate zip loc).1.length

/-- The stream comes to a component that fails. -/
def Fails (inflate : Deflate) (zip : List UInt8) (locs : Locs) : Prop :=
  ∃ k loc, locs[k]?.join = some loc ∧ (supply inflate zip loc).2 = false ∧
    LongBefore inflate zip locs k

/-- All components stay within their outputs. -/
def AllStay (inflate : Deflate) (zip : List UInt8) (locs : Locs) : Prop :=
  ∀ (k : ℕ) loc, locs[k]?.join = some loc → Stays inflate zip loc

/-- No component was overrun by more than an octet that it does not declare. -/
def Narrow (locs : Locs) (out : List Sourced) : Prop :=
  ∀ j loc, locs[j]?.join = some loc → (streamedOf j out).length ≤ max loc.uncompSize 1

theorem Streaming.longBefore {out : List Sourced} {p : LoadFileDataBlock × InflateCtx δ}
    (h : Streaming I inflate zip locs out p) (hstay : AllStay inflate zip locs) :
    LongBefore inflate zip locs p.1.comp := by
  intro j loc hj hloc
  obtain ⟨hlong, hfront⟩ := h.past j loc hj hloc
  have hstays := hstay j loc hloc
  exact ⟨hstays, hlong.trans (hfront hstays).length_le⟩

/-- Behind the component, whatever is behind it. -/
theorem Streaming.advance {out : List Sourced} {s : LoadFileDataBlock} {infl : InflateCtx δ}
    (h : Streaming I inflate zip locs out (s, infl))
    (hover : ∀ loc, locs[s.comp]?.join = some loc → loc.uncompSize ≤ s.cursor.emitted) :
    Streaming I inflate zip locs out (s.advance, infl) where
  zip_eq := h.zip_eq
  locs_eq := h.locs_eq
  past j loc hj hloc := by
    by_cases hlast : j = s.comp
    · subst hlast
      obtain ⟨-, hcount, hout⟩ := h.here loc hloc
      dsimp only at hcount hout
      constructor
      · rw [hcount]
        exact hover loc hloc
      · intro hstays
        rw [hout hstays]
        exact List.take_prefix ..
    · exact h.past j loc (by
        have : j < s.comp + 1 := hj
        dsimp only
        omega) hloc
  here loc _ := by
    have hnone : streamedOf (s.comp + 1) out = [] := h.ahead _ (Nat.lt_succ_self s.comp)
    exact ⟨supplying_new zip loc infl, congrArg List.length hnone, fun _ => hnone⟩
  ahead j hj := h.ahead j (Nat.lt_of_succ_lt hj)

/-- What one pull does to a drain. -/
def StreamsOn (I : Inflater δ) (inflate : Deflate) (zip : List UInt8)
    (locs : Locs) (out : List Sourced) (room : ℕ) :
    Except CapError (List Sourced × LoadFileDataBlock × InflateCtx δ) → Prop
  | .error _ => AllStay inflate zip locs → Fails inflate zip locs
  | .ok (more, p) =>
      Streaming I inflate zip locs (out ++ more) p ∧ Unfinished locs p.1 ∧
        (0 < room → more = [] → Ended inflate zip locs out p.1.comp) ∧
        (room ≤ 1 → Narrow locs out → Narrow locs (out ++ more))

theorem StreamsOn.stay {out : List Sourced} {room : ℕ} {s : LoadFileDataBlock}
    {infl : InflateCtx δ} (h : Streaming I inflate zip locs out (s, infl))
    (hunfinished : Unfinished locs s)
    (hended : 0 < room → Ended inflate zip locs out s.comp) :
    StreamsOn I inflate zip locs out room (.ok ([], s, infl)) := by
  refine ⟨?_, hunfinished, fun hroom _ => hended hroom, fun _ hnarrow => ?_⟩
  · rw [List.append_nil]
    exact h
  · rw [List.append_nil]
    exact hnarrow

/-- A piece of the component it stands at, in front of what comes next. -/
theorem StreamsOn.prepend {out piece : List Sourced} {room k : ℕ} (hk : piece = [] → k = 0)
    (hnarrow : room ≤ 1 → Narrow locs out → Narrow locs (out ++ piece))
    {r : Except CapError (List Sourced × LoadFileDataBlock × InflateCtx δ)}
    (h : StreamsOn I inflate zip locs (out ++ piece) (room - k) r) :
    StreamsOn I inflate zip locs out room (r.map fun p => (piece ++ p.1, p.2)) := by
  cases r with
  | error e => exact h
  | ok p =>
    obtain ⟨hstreaming, hunfinished, hended, hmore⟩ := h
    rw [List.append_assoc] at hstreaming hmore
    refine ⟨hstreaming, hunfinished, ?_, ?_⟩
    · intro hroom hnil
      obtain ⟨rfl, hnone⟩ := List.append_eq_nil_iff.mp hnil
      have := hended (by rw [hk rfl]; omega) hnone
      rwa [List.append_nil] at this
    · intro hroom hout
      exact hmore (by omega) (hnarrow hroom hout)

/-- A component hands out a piece. -/
theorem Streaming.piece {out : List Sourced} {s : LoadFileDataBlock} {infl infl' : InflateCtx δ}
    {loc : CompLoc} {c : CompCursor} {room : ℕ} {piece : List UInt8}
    (h : Streaming I inflate zip locs out (s, infl)) (hloc : locs[s.comp]?.join = some loc)
    (hpiece : Supplies I inflate zip loc s.cursor.emitted room piece c infl') :
    Streaming I inflate zip locs (out ++ sourced (some s.comp) piece)
      ({ s with cursor := c }, infl') where
  zip_eq := h.zip_eq
  locs_eq := h.locs_eq
  past j loc' hj hloc' := by
    rw [streamedOf_append, streamedOf_other (by simpa using (Nat.ne_of_lt hj).symm),
      List.append_nil]
    exact h.past j loc' hj hloc'
  here loc' hloc' := by
    obtain rfl := Option.some.inj (hloc.symm.trans hloc')
    obtain ⟨-, hcount, hout⟩ := h.here loc hloc
    dsimp only at hcount hout
    refine ⟨hpiece.after, ?_, fun hstays => ?_⟩
    · rw [streamedOf_append, streamedOf_same, List.length_append, hcount, hpiece.moves]
    · have hnext := hpiece.next hstays
      have hfront : piece =
          ((supply inflate zip loc).1.drop s.cursor.emitted).take piece.length := by
        conv_lhs => rw [hnext]
        rw [hnext, List.length_take, ← List.take_eq_take_min]
      dsimp only
      rw [streamedOf_append, streamedOf_same, hout hstays, hpiece.moves, List.take_add, ← hfront]
  ahead j hj := by
    rw [streamedOf_append, streamedOf_other (by simpa using Nat.ne_of_lt hj), List.append_nil]
    exact h.ahead j hj

/-- A piece of one octet at most does not overrun the component it is of. -/
theorem Narrow.piece {out : List Sourced} {s : LoadFileDataBlock} {infl : InflateCtx δ}
    {loc : CompLoc} {piece : List UInt8} (h : Narrow locs out)
    (hstreaming : Streaming I inflate zip locs out (s, infl)) (hunfinished : Unfinished locs s)
    (hloc : locs[s.comp]?.join = some loc) (hone : piece.length ≤ 1) :
    Narrow locs (out ++ sourced (some s.comp) piece) := by
  intro j loc' hloc'
  rw [streamedOf_append, List.length_append]
  by_cases hj : j = s.comp
  · subst hj
    obtain rfl := Option.some.inj (hloc.symm.trans hloc')
    obtain ⟨-, hcount, -⟩ := hstreaming.here loc hloc
    have hunder := hunfinished loc hloc
    dsimp only at hcount
    rw [streamedOf_same, hcount]
    omega
  · rw [streamedOf_other (by simpa using fun h => hj h.symm), List.length_nil]
    exact h j loc' hloc'

/-- A component that has nothing more to hand out, before its declared length,
    ends the stream. -/
theorem Streaming.stalled {s : LoadFileDataBlock} {infl infl' : InflateCtx δ}
    {out : List Sourced} {room : ℕ} (h : Streaming I inflate zip locs out (s, infl))
    {loc : CompLoc} (hloc : locs[s.comp]?.join = some loc) (hroom : 0 < room) {c : CompCursor}
    (hnone : Supplies I inflate zip loc s.cursor.emitted room [] c infl')
    (hless : c.emitted < loc.uncompSize) : Ended inflate zip locs out s.comp := by
  obtain ⟨-, hcount, hout⟩ := h.here loc hloc
  dsimp only at hcount hout
  have hmoves := hnone.moves
  rw [List.length_nil, Nat.add_zero] at hmoves
  refine .inr ⟨loc, hloc, by omega, fun hstays => ?_⟩
  -- there was room, so an empty piece is an empty rest of the supply
  have hrest := congrArg List.length (hnone.next hstays)
  rw [List.length_nil, List.length_take] at hrest
  constructor
  · by_contra hno
    have := hnone.filled hstays (Bool.eq_false_iff.mpr hno)
    omega
  · rw [List.length_drop] at hrest
    rw [hout hstays, List.take_of_length_le (by omega)]

/-- What one round of the loop does at a component: it fails; or it is stuck,
    short of the declared length; or it hands out a piece. -/
theorem Streaming.round (hI : Correct I inflate) {s : LoadFileDataBlock} {infl : InflateCtx δ}
    {out : List Sourced} {room : ℕ} (h : Streaming I inflate zip locs out (s, infl))
    (hslots : locs.length = LFDB_COMPONENTS) {loc : CompLoc}
    (hloc : locs[s.comp]?.join = some loc) (hroom : 0 < room) :
    (∃ e, emit I s loc infl room = .error e) ∧
      (AllStay inflate zip locs → Fails inflate zip locs) ∨
    (∃ c infl', emit I s loc infl room = .ok ([], { s with cursor := c }, infl') ∧
      c.emitted < loc.uncompSize ∧
      Streaming I inflate zip locs out ({ s with cursor := c }, infl') ∧
      Ended inflate zip locs out s.comp) ∨
    ∃ piece c infl' next, emit I s loc infl room = .ok (piece, { s with cursor := c }, infl') ∧
      ¬(c.emitted < loc.uncompSize ∧ piece = []) ∧ piece.length ≤ room ∧
      c.emitted = s.cursor.emitted + piece.length ∧
      (if c.emitted ≥ loc.uncompSize then LoadFileDataBlock.advance { s with cursor := c }
        else { s with cursor := c }) = next ∧
      Streaming I inflate zip locs (out ++ sourced (some s.comp) piece) (next, infl') ∧
      Unfinished locs next ∧
      LFDB_COMPONENTS - next.comp + (room - piece.length) < LFDB_COMPONENTS - s.comp + room := by
  obtain ⟨hsupplying, -, -⟩ := h.here loc hloc
  have hzip : s.zip = zip := h.zip_eq
  have hcomp : s.comp < LFDB_COMPONENTS := by
    rw [← hslots]
    exact lt_of_present hloc
  rcases emit_supply hI hroom hzip hsupplying with
    ⟨⟨e, he⟩, hfails⟩ | ⟨piece, c, infl', hpiece, hsupplies⟩
  · exact .inl ⟨⟨e, he⟩, fun hstay => ⟨s.comp, loc, hloc, hfails, h.longBefore hstay⟩⟩
  · right
    have hmid := h.piece hloc hsupplies
    have hlen := hsupplies.fits
    have hmoves := hsupplies.moves
    by_cases hstall : c.emitted < loc.uncompSize ∧ piece = []
    · -- the stall guard of the source: nothing more to come, and less than declared
      obtain ⟨hless, rfl⟩ := hstall
      rw [sourced, List.map_nil, List.append_nil] at hmid
      exact .inl ⟨c, infl', hpiece, hless, hmid, h.stalled hloc hroom hsupplies hless⟩
    · right
      -- the fuel pays for a component that is past, or for octets that were handed out
      by_cases hover : c.emitted ≥ loc.uncompSize
      · refine ⟨piece, c, infl', _, hpiece, hstall, hlen, hmoves, if_pos hover,
          hmid.advance ?_, fun _ _ => .inl rfl, ?_⟩
        · intro loc' hloc'
          obtain rfl := Option.some.inj (hloc.symm.trans hloc')
          exact hover
        · unfold LoadFileDataBlock.advance
          dsimp only
          omega
      · have hsome := List.length_pos_iff.mpr fun hnil => hstall ⟨Nat.lt_of_not_le hover, hnil⟩
        refine ⟨piece, c, infl', _, hpiece, hstall, hlen, hmoves, if_neg hover, hmid, ?_, ?_⟩
        · intro loc' hloc'
          obtain rfl := Option.some.inj (hloc.symm.trans hloc')
          exact .inr (Nat.lt_of_not_le hover)
        · dsimp only
          omega

/-- The loop over the components goes on streaming. -/
theorem sourcedLoop_streamsOn (hI : Correct I inflate) {fuel : ℕ} {s : LoadFileDataBlock}
    {infl : InflateCtx δ} {out : List Sourced} {room : ℕ}
    (h : Streaming I inflate zip locs out (s, infl)) (hunfinished : Unfinished locs s)
    (hslots : locs.length = LFDB_COMPONENTS) (hfuel : LFDB_COMPONENTS - s.comp + room ≤ fuel) :
    StreamsOn I inflate zip locs out room (sourcedLoop I fuel s infl room) := by
  -- the rooms left, and the components not yet past, are what the fuel bounds
  induction fuel generalizing s infl out room with
  | zero => exact .stay h hunfinished (by omega)
  | succ fuel ih =>
    by_cases hroom : room = 0
    · rw [sourcedLoop, if_pos hroom]
      exact .stay h hunfinished (by omega)
    · rw [sourcedLoop, if_neg hroom]
      have hlocs : s.locs = locs := h.locs_eq
      cases hloc : s.locs[s.comp]?.join with
      | none =>
        dsimp only
        by_cases hend : s.comp ≥ LFDB_COMPONENTS
        · rw [if_pos hend]
          exact .stay h hunfinished fun _ => .inl hend
        · rw [if_neg hend]
          -- an absent component is skipped, and there was nothing to hand out of it
          refine ih (h.advance ?_) (fun _ _ => .inl rfl) ?_
          · intro loc hsome
            rw [← hlocs, hloc] at hsome
            cases hsome
          · unfold LoadFileDataBlock.advance
            dsimp only
            omega
      | some loc =>
        dsimp only
        have hpresent : locs[s.comp]?.join = some loc := by rw [← hlocs, hloc]
        rcases h.round hI hslots hpresent (Nat.pos_of_ne_zero hroom) with
          ⟨⟨e, he⟩, hfails⟩ | ⟨c, infl', hstuck, hless, hmid, hended⟩ |
          ⟨piece, c, infl', next, hpiece, hgoes, hlen, -, hnext, hmid, hunfinished', hrounds⟩
        · rw [he]
          exact hfails
        · rw [hstuck]
          dsimp only
          rw [if_pos ⟨hless, rfl⟩]
          refine .stay hmid ?_ fun _ => hended
          intro loc' hloc'
          obtain rfl := Option.some.inj (hpresent.symm.trans hloc')
          exact .inr hless
        · rw [hpiece]
          dsimp only
          rw [if_neg hgoes, hnext]
          have hleft : LFDB_COMPONENTS - next.comp + (room - piece.length) ≤ fuel := by omega
          have hall := (ih hmid hunfinished' hleft).prepend
            (fun hnil => by rw [sourced_eq_nil.mp hnil, List.length_nil])
            fun hone hnarrow => hnarrow.piece h hunfinished hpresent (hlen.trans hone)
          generalize sourcedLoop I fuel next infl' _ = r at hall ⊢
          cases r with
          | error e => exact hall
          | ok p => exact hall

/-- Octets of the header are of no component. -/
theorem Streaming.header {out : List Sourced} {p : LoadFileDataBlock × InflateCtx δ}
    (h : Streaming I inflate zip locs out p) (room : ℕ) :
    Streaming I inflate zip locs (out ++ sourced none (p.1.emitHeader room).1)
      ((p.1.emitHeader room).2, p.2) := by
  have hsame : ∀ j, streamedOf j (out ++ sourced none (p.1.emitHeader room).1) =
      streamedOf j out := by
    intro j
    rw [streamedOf_append, streamedOf_other (by simp), List.append_nil]
  refine ⟨h.zip_eq, h.locs_eq, ?_, ?_, ?_⟩
  · intro j
    rw [hsame]
    exact h.past j
  · intro loc hloc
    rw [hsame]
    exact h.here loc hloc
  · intro j
    rw [hsame]
    exact h.ahead j

/-- A block goes on streaming. -/
theorem sourcedBlock_streamsOn (hI : Correct I inflate) {out : List Sourced}
    {p : LoadFileDataBlock × InflateCtx δ} (h : Streaming I inflate zip locs out p)
    (hunfinished : Unfinished locs p.1) (hslots : locs.length = LFDB_COMPONENTS) (room : ℕ) :
    StreamsOn I inflate zip locs out room (sourcedBlock I p room) := by
  have hnarrow : room ≤ 1 → Narrow locs out →
      Narrow locs (out ++ sourced none (p.1.emitHeader room).1) := by
    intro _ hout j loc hloc
    rw [streamedOf_append, streamedOf_other (by simp), List.append_nil]
    exact hout j loc hloc
  have hfuel : LFDB_COMPONENTS - (p.1.emitHeader room).2.comp +
      (room - (p.1.emitHeader room).1.length) ≤ blockFuel room := by
    unfold blockFuel
    omega
  have hloop := sourcedLoop_streamsOn hI (h.header room) hunfinished hslots hfuel
  have hall := hloop.prepend (fun hnil => by rw [sourced_eq_nil.mp hnil, List.length_nil]) hnarrow
  unfold sourcedBlock
  dsimp only
  generalize sourcedLoop I _ _ _ _ = r at hall ⊢
  cases r with
  | error e => exact hall
  | ok p => exact hall

/-- A drain that is completed has streamed all there is; one that fails has come
    to a component that does. -/
theorem drains_streamed (hI : Correct I inflate) (hslots : locs.length = LFDB_COMPONENTS)
    {room : ℕ → ℕ} {n : ℕ} {r : Except CapError (List Sourced)}
    {p : LoadFileDataBlock × InflateCtx δ} (hdrains : Chunks.Drains (sourcedBlock I) p room n r)
    (hroom : ∀ k, 0 < room k) {out : List Sourced} (h : Streaming I inflate zip locs out p)
    (hunfinished : Unfinished locs p.1) :
    (∃ e, r = .error e) ∧ (AllStay inflate zip locs → Fails inflate zip locs) ∨
    ∃ all p', r = .ok all ∧ Streaming I inflate zip locs (out ++ all) p' ∧
      Ended inflate zip locs (out ++ all) p'.1.comp ∧
      ((∀ k, room k ≤ 1) → Narrow locs out → Narrow locs (out ++ all)) := by
  -- over the blocks of the drain, with what was streamed so far as the accumulator
  induction hdrains generalizing out with
  | @exhausted _ p' room hlast =>
    have hblock := sourcedBlock_streamsOn hI h hunfinished hslots (room 0)
    rw [hlast] at hblock
    obtain ⟨hstreaming, -, hended, hnarrow⟩ := hblock
    refine .inr ⟨[], p', rfl, hstreaming, ?_, fun hone => hnarrow (hone 0)⟩
    rw [List.append_nil]
    exact hended (hroom 0) rfl
  | @failed _ room _ hlast =>
    have hblock := sourcedBlock_streamsOn hI h hunfinished hslots (room 0)
    rw [hlast] at hblock
    exact .inl ⟨⟨_, rfl⟩, hblock⟩
  | @more _ _ room _ _ _ hfirst _ _ ih =>
    have hblock := sourcedBlock_streamsOn hI h hunfinished hslots (room 0)
    rw [hfirst] at hblock
    obtain ⟨hstreaming, hunfinished', -, hnarrow⟩ := hblock
    rcases ih (fun k => hroom (k + 1)) hstreaming hunfinished' with
      ⟨⟨e, rfl⟩, hfails⟩ | ⟨all, p', rfl, hstreaming', hended, hmore⟩
    · exact .inl ⟨⟨e, rfl⟩, hfails⟩
    · rw [List.append_assoc] at hstreaming' hended hmore
      exact .inr ⟨_, p', rfl, hstreaming', hended, fun hone hout =>
        hmore (fun k => hone (k + 1)) (hnarrow (hone 0) hout)⟩

/-- The start of a stream. -/
theorem streaming_lfdb (I : Inflater δ) (inflate : Deflate) (cap : CapFile)
    (infl : InflateCtx δ) :
    Streaming I inflate cap.zip cap.locs [] (cap.lfdb, infl) ∧ Unfinished cap.locs cap.lfdb := by
  refine ⟨⟨rfl, rfl, ?_, ?_, fun _ _ => rfl⟩, fun _ _ => .inl rfl⟩
  · intro j loc hj
    exact absurd hj (Nat.not_lt_zero j)
  · intro loc _
    exact ⟨supplying_new cap.zip loc infl, rfl, fun _ => rfl⟩

end draining

/-! ### What the parser reads -/

/-- A fresh decompressor makes all of a stream in one call, if it says so. -/
def OneShot (I : Inflater δ) (inflate : Deflate) : Prop :=
  ∀ raw window, window.length = INFLATE_WINDOW →
    (I.decompress I.new raw window 0 true).status = .done →
      inflate raw = ((I.decompress I.new raw window 0 true).written, true)

/-- The octets that the metadata of a CAP was taken from. -/
inductive TakenFrom (I : Inflater δ) (zip : List UInt8) (locs : Locs) (infl : InflateCtx δ) :
    ℕ → List UInt8 → Prop where
  | header {loc : CompLoc} {bytes : List UInt8} {infl' : InflateCtx δ}
      (present : locs[IDX_HEADER]?.join = some loc)
      (read : readComponent I zip loc infl = .ok (bytes, infl')) :
      TakenFrom I zip locs infl IDX_HEADER bytes
  | imports {header loc : CompLoc} {bytes₀ bytes : List UInt8} {infl₀ infl' : InflateCtx δ}
      (first : locs[IDX_HEADER]?.join = some header)
      (readFirst : readComponent I zip header infl = .ok (bytes₀, infl₀))
      (present : locs[IDX_IMPORT]?.join = some loc)
      (read : readComponent I zip loc infl₀ = .ok (bytes, infl')) :
      TakenFrom I zip locs infl IDX_IMPORT bytes
  | applets {header loc : CompLoc} {bytes₀ bytes : List UInt8} {infl₀ infl₁ infl' : InflateCtx δ}
      {imports : List Aid} (first : locs[IDX_HEADER]?.join = some header)
      (readFirst : readComponent I zip header infl = .ok (bytes₀, infl₀))
      (readSecond : readOptional I zip locs[IDX_IMPORT]?.join infl₀ parseImports =
        .ok (imports, infl₁))
      (present : locs[IDX_APPLET]?.join = some loc)
      (read : readComponent I zip loc infl₁ = .ok (bytes, infl')) :
      TakenFrom I zip locs infl IDX_APPLET bytes

/-- The components that metadata is taken from. -/
def IsMetadata (k : ℕ) : Prop := k = IDX_HEADER ∨ k = IDX_IMPORT ∨ k = IDX_APPLET

/-- What is read of a component is what it comes to by its compressed length. -/
theorem readComponent_octets (hone : OneShot I inflate) {zip bytes : List UInt8} {loc : CompLoc}
    {infl infl' : InflateCtx δ} (h : readComponent I zip loc infl = .ok (bytes, infl')) :
    slice zip loc.dataOff loc.compSize ≠ none ∧ compOctets inflate zip loc = (bytes, true) := by
  obtain ⟨raw, hraw, h⟩ := bind_eq_ok.mp h
  rw [required_eq_ok] at hraw
  refine ⟨by rw [hraw]; simp, ?_⟩
  unfold compOctets
  rw [hraw]
  dsimp only
  -- the source compares the method with STORED first, then with DEFLATE
  split at h
  · next hstored =>
    have hmethod : ¬loc.method = METHOD_DEFLATE := by
      rw [hstored]
      decide
    rw [if_neg hmethod, if_pos hstored]
    split at h
    · obtain ⟨rfl, -⟩ := Prod.mk.inj (Except.ok.inj h)
      rfl
    · cases h
  · split at h
    · next hmethod =>
      rw [if_pos hmethod]
      dsimp only at h
      split at h
      · next hdone =>
        obtain ⟨rfl, -⟩ := Prod.mk.inj (Except.ok.inj h)
        exact hone raw infl.window infl.size hdone
      · cases h
    · cases h

theorem length_header {b : List UInt8} {r : Aid × UInt8 × UInt8 × UInt8}
    (h : parseHeader b = .ok r) : 4 ≤ b.length := by
  obtain ⟨magic, hmagic, -⟩ := bind_eq_ok.mp h
  rw [required_eq_ok] at hmagic
  obtain ⟨s, hs, -⟩ := Option.map_eq_some_iff.mp hmagic
  have := (slice_eq_some.mp hs).1
  omega

/-- What an accepted CAP was read from. -/
theorem parse_steps {zip : List UInt8} {infl₀ infl₃ : InflateCtx δ} {cap : CapFile}
    (h : parse I zip infl₀ = .ok (cap, infl₃)) :
    ∃ loc header infl₁ package imports infl₂ applets infl₃,
      cap.locs[IDX_HEADER]?.join = some loc ∧
      readComponent I zip loc infl₀ = .ok (header, infl₁) ∧ parseHeader header = .ok package ∧
      readOptional I zip cap.locs[IDX_IMPORT]?.join infl₁ parseImports = .ok (imports, infl₂) ∧
      readOptional I zip cap.locs[IDX_APPLET]?.join infl₂ parseApplets = .ok (applets, infl₃) := by
  obtain ⟨locs, -, h⟩ := bind_eq_ok.mp h
  obtain ⟨loc, hloc, h⟩ := bind_eq_ok.mp h
  obtain ⟨⟨header, infl₁⟩, hread, h⟩ := bind_eq_ok.mp h
  obtain ⟨package, hpackage, h⟩ := bind_eq_ok.mp h
  obtain ⟨⟨imports, infl₂⟩, himports, h⟩ := bind_eq_ok.mp h
  obtain ⟨⟨applets, infl₃⟩, happlets, h⟩ := bind_eq_ok.mp h
  obtain ⟨rfl, -⟩ := Prod.mk.inj (Except.ok.inj h)
  refine ⟨loc, header, infl₁, package, imports, infl₂, applets, infl₃, ?_, hread, hpackage,
    himports, happlets⟩
  dsimp only
  cases hfirst : locs[IDX_HEADER]?.join with
  | none =>
    rw [hfirst] at hloc
    cases hloc
  | some loc' =>
    rw [hfirst] at hloc
    rw [Except.ok.inj hloc]

/-- What is taken from a component is what it comes to, four octets at least. -/
theorem takenFrom_octets (hone : OneShot I inflate) {zip : List UInt8} {infl₀ infl₁ : InflateCtx δ}
    {cap : CapFile} (hparse : parse I zip infl₀ = .ok (cap, infl₁)) {k : ℕ} {bytes : List UInt8}
    (h : TakenFrom I zip cap.locs infl₀ k bytes) :
    IsMetadata k ∧ 4 ≤ bytes.length ∧ ∃ loc, cap.locs[k]?.join = some loc ∧
      slice zip loc.dataOff loc.compSize ≠ none ∧ compOctets inflate zip loc = (bytes, true) := by
  obtain ⟨loc₀, header, infl₁, package, imports, infl₂, applets, infl₃, hloc₀, hread₀, hpackage,
    himports, happlets⟩ := parse_steps hparse
  -- the contexts of the later reads are those that the earlier ones left
  cases h with
  | header hpresent hread =>
    obtain rfl := Option.some.inj (hloc₀.symm.trans hpresent)
    obtain ⟨rfl, -⟩ := Prod.mk.inj (Except.ok.inj (hread₀.symm.trans hread))
    exact ⟨.inl rfl, length_header hpackage, _, hpresent, readComponent_octets hone hread⟩
  | imports hfirst hreadFirst hpresent hread =>
    obtain rfl := Option.some.inj (hloc₀.symm.trans hfirst)
    obtain ⟨rfl, rfl⟩ := Prod.mk.inj (Except.ok.inj (hread₀.symm.trans hreadFirst))
    rw [hpresent] at himports
    obtain ⟨⟨read, infl'⟩, hread', himports⟩ := bind_eq_ok.mp himports
    obtain ⟨rfl, rfl⟩ := Prod.mk.inj (Except.ok.inj (hread'.symm.trans hread))
    obtain ⟨_, hparsed, -⟩ := bind_eq_ok.mp himports
    obtain ⟨_, hcount, -⟩ := bind_eq_ok.mp hparsed
    exact ⟨.inr (.inl rfl), length_counted hcount, _, hpresent, readComponent_octets hone hread⟩
  | applets hfirst hreadFirst hreadSecond hpresent hread =>
    obtain rfl := Option.some.inj (hloc₀.symm.trans hfirst)
    obtain ⟨rfl, rfl⟩ := Prod.mk.inj (Except.ok.inj (hread₀.symm.trans hreadFirst))
    obtain ⟨rfl, rfl⟩ := Prod.mk.inj (Except.ok.inj (himports.symm.trans hreadSecond))
    rw [hpresent] at happlets
    obtain ⟨⟨read, infl'⟩, hread', happlets⟩ := bind_eq_ok.mp happlets
    obtain ⟨rfl, rfl⟩ := Prod.mk.inj (Except.ok.inj (hread'.symm.trans hread))
    obtain ⟨_, hparsed, -⟩ := bind_eq_ok.mp happlets
    obtain ⟨_, hcount, -⟩ := bind_eq_ok.mp hparsed
    exact ⟨.inr (.inr rfl), length_counted hcount, _, hpresent, readComponent_octets hone hread⟩

/-- Metadata was taken from every component for it that is there. -/
theorem takenFrom_of_present {zip : List UInt8} {infl₀ infl₁ : InflateCtx δ} {cap : CapFile}
    (hparse : parse I zip infl₀ = .ok (cap, infl₁)) {k : ℕ} (hk : IsMetadata k) {loc : CompLoc}
    (hloc : cap.locs[k]?.join = some loc) :
    ∃ bytes, TakenFrom I zip cap.locs infl₀ k bytes := by
  obtain ⟨loc₀, header, infl₁, package, imports, infl₂, applets, infl₃, hloc₀, hread₀, hpackage,
    himports, happlets⟩ := parse_steps hparse
  rcases hk with rfl | rfl | rfl
  · exact ⟨_, .header hloc₀ hread₀⟩
  · rw [hloc] at himports
    obtain ⟨⟨bytes, infl'⟩, hread, -⟩ := bind_eq_ok.mp himports
    exact ⟨bytes, .imports hloc₀ hread₀ hloc hread⟩
  · rw [hloc] at happlets
    obtain ⟨⟨bytes, infl'⟩, hread, -⟩ := bind_eq_ok.mp happlets
    exact ⟨bytes, .applets hloc₀ hread₀ himports hloc hread⟩

/-! ### When what is streamed is what was read -/

/-- Every drain that is completed streams of each metadata component the octets
    that its metadata was taken from, whatever the rooms and the context. -/
def StreamsAsRead (I : Inflater δ) (zip : List UInt8) (infl₀ : InflateCtx δ) (cap : CapFile) :
    Prop :=
  ∀ (infl : InflateCtx δ) (room : ℕ → ℕ) (n : ℕ) (out : List Sourced), (∀ k, 0 < room k) →
    Chunks.Drains (sourcedBlock I) (cap.lfdb, infl) room n (.ok out) →
      ∀ k bytes, TakenFrom I zip cap.locs infl₀ k bytes → streamedOf k out = bytes

/-- The declared length covers a DEFLATE component, and is that of a STORED one
    unless the archive ends before. -/
def Covers (inflate : Deflate) (zip : List UInt8) (loc : CompLoc) : Prop :=
  if loc.method = METHOD_DEFLATE then (compOctets inflate zip loc).1.length ≤ loc.uncompSize
  else loc.compSize = min loc.uncompSize (zip.length - loc.dataOff)

/-- The declared lengths of the metadata components cover them, and the components
    before one of them come to what they declare at least, with no distance that
    reaches back too far. -/
def Consistent (inflate : Deflate) (zip : List UInt8) (locs : Locs) : Prop :=
  ∀ k loc, IsMetadata k → locs[k]?.join = some loc →
    Covers inflate zip loc ∧ LongBefore inflate zip locs k

/-- What was read, as what is supplied. -/
theorem covers_iff {zip bytes : List UInt8} {loc : CompLoc}
    (hslice : slice zip loc.dataOff loc.compSize ≠ none)
    (hoctets : compOctets inflate zip loc = (bytes, true)) :
    Covers inflate zip loc ↔
      (supply inflate zip loc).1 = bytes ∧ bytes.length ≤ loc.uncompSize := by
  unfold Covers supply
  by_cases hmethod : loc.method = METHOD_DEFLATE
  · rw [if_pos hmethod, if_pos hmethod, hoctets]
    simp
  · rw [if_neg hmethod, if_neg hmethod]
    obtain ⟨raw, hraw⟩ := Option.ne_none_iff_exists'.mp hslice
    -- the compressed octets of a STORED component are its octets
    have hbytes : raw = bytes := by
      unfold compOctets at hoctets
      rw [hraw] at hoctets
      dsimp only at hoctets
      rw [if_neg hmethod] at hoctets
      split at hoctets
      · exact (Prod.mk.inj hoctets).1
      · cases hoctets
    subst hbytes
    have hlen := length_slice hraw
    obtain ⟨hfits, hpiece⟩ := slice_eq_some.mp hraw
    rw [hlen]
    constructor
    · intro hsize
      refine ⟨?_, by omega⟩
      rw [← hpiece, hsize, ← List.length_drop, ← List.take_eq_take_min]
    · rintro ⟨hsame, hle⟩
      have := congrArg List.length hsame
      rw [List.length_take, List.length_drop, hlen] at this
      exact this.symm

section streaming

variable {I : Inflater δ} {inflate : Deflate} {zip : List UInt8}
  {infl₀ infl₁ : InflateCtx δ} {cap : CapFile}

theorem IsMetadata.lt {k : ℕ} (h : IsMetadata k) : k < LFDB_COMPONENTS := by
  rcases h with rfl | rfl | rfl <;> decide

/-- Consistent lengths are enough. -/
theorem streamsAsRead_of_consistent (hI : Correct I inflate) (hone : OneShot I inflate)
    (hparse : parse I zip infl₀ = .ok (cap, infl₁)) (h : Consistent inflate zip cap.locs) :
    StreamsAsRead I zip infl₀ cap := by
  intro infl room n out hroom hdrains k bytes htaken
  obtain ⟨rfl, hslots⟩ := parse_ok hparse
  obtain ⟨hk, -, loc, hloc, hslice, hoctets⟩ := takenFrom_octets hone hparse htaken
  obtain ⟨hcovers, hlong⟩ := h k loc hk hloc
  obtain ⟨hsupply, hlen⟩ := (covers_iff hslice hoctets).mp hcovers
  obtain ⟨hstart, hunfinished⟩ := streaming_lfdb I inflate cap infl
  rcases drains_streamed hI hslots hdrains hroom hstart hunfinished with
    ⟨⟨e, he⟩, -⟩ | ⟨all, p, hall, hstreaming, hended, -⟩
  · cases he
  · obtain rfl := Except.ok.inj hall
    rw [List.nil_append] at hstreaming hended
    have hstays : Stays inflate cap.zip loc := stays_of_ok (by rw [hoctets])
    -- a component that is past came to its declared length, which covers it
    have hpast : k < p.1.comp → streamedOf k out = bytes := by
      intro hlt
      obtain ⟨hcame, hfront⟩ := hstreaming.past k loc hlt hloc
      have hfront := hfront hstays
      rw [hsupply] at hfront
      exact hfront.eq_of_length_le (hlen.trans hcame)
    rcases hended with hend | ⟨last, hlast, hshort, hall⟩
    · exact hpast (hk.lt.trans_le hend)
    · rcases Nat.lt_trichotomy k p.1.comp with hlt | rfl | hgt
      · exact hpast hlt
      · obtain rfl := Option.some.inj (hloc.symm.trans hlast)
        rw [(hall hstays).2, hsupply]
      · -- the components before it came to their declared lengths
        obtain ⟨hstaysLast, hlongLast⟩ := hlong _ _ hgt hlast
        rw [(hall hstaysLast).2] at hshort
        omega

/-- A stream that fails on the way is never drained. -/
theorem streamsAsRead_of_fails (hI : Correct I inflate)
    (hparse : parse I zip infl₀ = .ok (cap, infl₁))
    (hshort : ∀ loc ∈ cap.locs.filterMap id, (supply inflate zip loc).2 = false →
      Stays inflate zip loc ∧ (supply inflate zip loc).1.length < loc.uncompSize)
    (h : Fails inflate zip cap.locs) : StreamsAsRead I zip infl₀ cap := by
  intro infl room n out hroom hdrains k bytes htaken
  -- the drain would have to get past the component that fails
  exfalso
  obtain ⟨rfl, hslots⟩ := parse_ok hparse
  obtain ⟨j, loc, hloc, hbroken, hlong⟩ := h
  have hj := lt_of_present hloc
  have hmem : loc ∈ cap.locs.filterMap id :=
    List.mem_filterMap.mpr ⟨some loc, mem_of_present hloc, rfl⟩
  obtain ⟨hstays, hless⟩ := hshort loc hmem hbroken
  obtain ⟨hstart, hunfinished⟩ := streaming_lfdb I inflate cap infl
  rcases drains_streamed hI hslots hdrains hroom hstart hunfinished with
    ⟨⟨e, he⟩, -⟩ | ⟨all, p, -, hstreaming, hended, -⟩
  · cases he
  -- it comes to less than it declares, so the stream never leaves it behind
  · have hbehind : ¬j < p.1.comp := by
      intro hlt
      obtain ⟨hcame, hfront⟩ := hstreaming.past j loc hlt hloc
      have := (hfront hstays).length_le
      omega
    rcases hended with hend | ⟨last, hlast, hlastShort, hall⟩
    · exact hbehind (by omega)
    · rcases Nat.lt_trichotomy j p.1.comp with hlt | rfl | hgt
      · exact hbehind hlt
      · obtain rfl := Option.some.inj (hloc.symm.trans hlast)
        rw [(hall hstays).1] at hbroken
        cases hbroken
      · obtain ⟨hstaysLast, hlongLast⟩ := hlong _ _ hgt hlast
        rw [(hall hstaysLast).2] at hlastShort
        omega

/-- Draining octet by octet comes to an end. -/
theorem sourced_drains (I : Inflater δ) {s : LoadFileDataBlock} (h : Sound s) (infl : InflateCtx δ)
    (room : ℕ → ℕ) (hroom : ∀ k, 0 < room k) :
    ∃ n r, Chunks.Drains (sourcedBlock I) (s, infl) room n r := by
  -- every block that hands something out leaves less to hand out
  have hpays : ∀ p p' n out, Sound p.1 → 0 < n → sourcedBlock I p n = .ok (out, p') → out ≠ [] →
      Sound p'.1 ∧ owed p'.1 < owed p.1 := by
    intro p p' n out hp _ hblock hout
    have hpull : nextBlock I p.1 p.2 n = .ok (out.map Prod.snd, p') := by
      have := erase_sourcedBlock I p n
      rw [hblock] at this
      exact this.symm
    obtain ⟨hp', hless⟩ := nextBlock_pays hp hpull
    exact ⟨hp', hless fun hnil => hout (List.map_eq_nil_iff.mp hnil)⟩
  obtain ⟨n, r, -, hdrains⟩ := Chunks.drains_of_measure (P := fun p => Sound p.1)
    (fun p => owed p.1) hpays (s := (s, infl)) h hroom
  exact ⟨n, r, hdrains⟩

/-- What is streamed octet by octet is what was read only if the lengths are
    consistent, or the stream fails. -/
theorem consistent_of_streamsAsRead (hI : Correct I inflate) (hone : OneShot I inflate)
    (hparse : parse I zip infl₀ = .ok (cap, infl₁)) (hstay : AllStay inflate zip cap.locs)
    (h : StreamsAsRead I zip infl₀ cap) :
    Consistent inflate zip cap.locs ∨ Fails inflate zip cap.locs := by
  obtain ⟨rfl, hslots⟩ := parse_ok hparse
  -- octet by octet, nothing of a component is streamed beyond its declared length
  obtain ⟨n, r, hdrains⟩ := sourced_drains I (sound_lfdb hslots) infl₁ (fun _ => 1)
    fun _ => Nat.one_pos
  obtain ⟨hstart, hunfinished⟩ := streaming_lfdb I inflate cap infl₁
  rcases drains_streamed hI hslots hdrains (fun _ => Nat.one_pos) hstart hunfinished with
    ⟨-, hfails⟩ | ⟨out, p, rfl, hstreaming, hended, hnarrow⟩
  · exact .inr (hfails hstay)
  · left
    rw [List.nil_append] at hstreaming hended hnarrow
    have hnarrow := hnarrow (fun _ => le_rfl) fun _ _ _ => Nat.zero_le _
    intro k loc hk hloc
    obtain ⟨bytes, htaken⟩ := takenFrom_of_present hparse hk hloc
    obtain ⟨-, hfour, loc', hloc', hslice, hoctets⟩ := takenFrom_octets hone hparse htaken
    obtain rfl := Option.some.inj (hloc.symm.trans hloc')
    have hout := h infl₁ _ n out (fun _ => Nat.one_pos) hdrains k bytes htaken
    -- four octets of it were streamed, so the stream came as far
    have hreached : k ≤ p.1.comp := by
      by_contra hahead
      have hnone := hstreaming.ahead k (Nat.lt_of_not_le hahead)
      rw [← hout, hnone] at hfour
      exact absurd hfour (by decide)
    have hwidth := hnarrow k loc hloc
    rw [hout] at hwidth
    have hlen : bytes.length ≤ loc.uncompSize := by omega
    refine ⟨(covers_iff hslice hoctets).mpr ⟨?_, hlen⟩, ?_⟩
    · by_cases hmethod : loc.method = METHOD_DEFLATE
      · rw [supply, if_pos hmethod, hoctets]
      · have hsupply : (supply inflate cap.zip loc).1.length ≤ loc.uncompSize := by
          rw [supply, if_neg hmethod]
          exact List.length_take_le ..
        -- a STORED component hands out what it declares, so what is past is all of it
        have hpast : k < p.1.comp → (supply inflate cap.zip loc).1 = bytes := by
          intro hlt
          obtain ⟨hcame, hfront⟩ := hstreaming.past k loc hlt hloc
          have hfront := hfront (stays_of_stored hmethod)
          rw [hout] at hfront hcame
          exact (hfront.eq_of_length_le (hsupply.trans hcame)).symm
        rcases hended with hend | ⟨last, hlast, -, hall⟩
        · exact hpast (hk.lt.trans_le hend)
        · rcases hreached.lt_or_eq with hlt | rfl
          · exact hpast hlt
          · obtain rfl := Option.some.inj (hloc.symm.trans hlast)
            rw [← (hall (stays_of_stored hmethod)).2, hout]
    · intro j loc' hj
      exact hstreaming.longBefore hstay j loc' (hj.trans_le hreached)

/-- For every accepted CAP. Consistent lengths are enough for every completed
    drain to stream what was read. They are necessary too, unless a component
    that fails ends every drain; where every stream that is malformed is so before
    its declared length, with no distance that reaches back too far. -/
theorem streams_as_read_iff {I : Inflater δ} {inflate : Deflate}
    (hI : Correct I inflate) (hone : OneShot I inflate) {zip : List UInt8}
    {infl₀ infl₁ : InflateCtx δ} {cap : CapFile}
    (hparse : parse I zip infl₀ = .ok (cap, infl₁)) :
    (Consistent inflate zip cap.locs → StreamsAsRead I zip infl₀ cap) ∧
    ((∀ loc ∈ cap.locs.filterMap id, (supply inflate zip loc).2 = false →
        Stays inflate zip loc ∧ (supply inflate zip loc).1.length < loc.uncompSize) →
      (StreamsAsRead I zip infl₀ cap ↔
        Consistent inflate zip cap.locs ∨ Fails inflate zip cap.locs)) := by
  have hconsistent := streamsAsRead_of_consistent hI hone hparse
  refine ⟨hconsistent, fun hshort => ?_⟩
  have hstay : AllStay inflate zip cap.locs := by
    intro k loc hloc
    by_cases hok : (supply inflate zip loc).2 = true
    · exact stays_of_supply hok
    · exact (hshort loc (List.mem_filterMap.mpr ⟨some loc, mem_of_present hloc, rfl⟩)
        (Bool.eq_false_iff.mpr hok)).1
  refine ⟨consistent_of_streamsAsRead hI hone hparse hstay, ?_⟩
  rintro (h | h)
  · exact hconsistent h
  · exact streamsAsRead_of_fails hI hparse hshort h

end streaming

/-- The decompressor for stored blocks makes a block in one call. -/
theorem storedInflater_oneShot : OneShot storedInflater inflateStored := by
  intro raw window hsize
  unfold inflateStored storedInflater
  dsimp only
  cases hblock : storedBlock raw with
  | none =>
    intro hdone
    cases hdone
  | some octets =>
    dsimp only
    obtain ⟨-, hfront, -⟩ := inBlock_copy hblock List.nil_prefix window.length 0 5 rfl
    rw [List.drop_zero, List.nil_append, List.length_nil, Nat.sub_zero] at hfront
    rw [Nat.sub_zero]
    intro hdone
    have hall : (copyBlock octets.length 5 raw window.length).written.length = octets.length := by
      unfold copyBlock at hdone ⊢
      dsimp only at hdone ⊢
      split at hdone
      · assumption
      · cases hdone
    rw [hfront.eq_of_length hall]

/-- The sample CAP: its declared lengths are its lengths. -/
theorem streams_as_read_iff_sample :
    ∃ cap infl₁, parse storedInflater sampleCap (InflateCtx.new storedInflater) = .ok (cap, infl₁) ∧
      (StreamsAsRead storedInflater sampleCap (InflateCtx.new storedInflater) cap ↔
        Consistent inflateStored sampleCap cap.locs ∨ Fails inflateStored sampleCap cap.locs) := by
  obtain ⟨cap, infl₁, hparse, hlocs⟩ := parse_sampleCap
  refine ⟨cap, infl₁, hparse, (streams_as_read_iff storedInflater_correct storedInflater_oneShot
    hparse).2 ?_⟩
  rw [hlocs]
  have hboth : ∀ loc ∈ [(⟨METHOD_STORED, 113, 18, 18⟩ : CompLoc), ⟨METHOD_DEFLATE, 54, 8, 3⟩],
      (supply inflateStored sampleCap loc).2 = false →
        (supply inflateStored sampleCap loc).1.length < loc.uncompSize := by
    decide +kernel
  intro loc hmem hbroken
  exact ⟨stays_inflateStored sampleCap loc, hboth loc hmem hbroken⟩

/-- A CAP of one STORED component that declares three of its octets. -/
def misdeclaredCap : List UInt8 := zipOf [⟨"Header.cap", METHOD_STORED, 3, headerOctets⟩]

/-- The package AID is read from octets that are never streamed. -/
theorem streams_other_than_read :
    ∃ cap infl₁,
      parse storedInflater misdeclaredCap (InflateCtx.new storedInflater) = .ok (cap, infl₁) ∧
      ¬StreamsAsRead storedInflater misdeclaredCap (InflateCtx.new storedInflater) cap := by
  have hlocs : (parse storedInflater misdeclaredCap (InflateCtx.new storedInflater)).map
      (·.1.locs) = .ok (some ⟨METHOD_STORED, 40, 18, 3⟩ :: List.replicate 10 none) := by
    decide +kernel
  obtain ⟨⟨cap, infl₁⟩, hparse, hlocs⟩ := map_eq_ok hlocs
  dsimp only at hlocs
  refine ⟨cap, infl₁, hparse, fun h => ?_⟩
  have hstay : AllStay inflateStored misdeclaredCap cap.locs :=
    fun _ loc _ => stays_inflateStored misdeclaredCap loc
  rcases consistent_of_streamsAsRead storedInflater_correct storedInflater_oneShot hparse hstay h
    with hconsistent | ⟨k, loc, hloc, hbroken, -⟩
  · rw [hlocs] at hconsistent
    have hcovers := (hconsistent IDX_HEADER _ (.inl rfl) rfl).1
    revert hcovers
    unfold Covers
    decide +kernel
  · have hmem : loc ∈ cap.locs.filterMap id :=
      List.mem_filterMap.mpr ⟨some loc, mem_of_present hloc, rfl⟩
    rw [hlocs] at hmem
    obtain rfl := List.mem_singleton.mp hmem
    revert hbroken
    decide +kernel

end Cap

end Scll
