import Scll.Cap.UsizeParse
import Scll.Cap.Streamed

/-! # Streaming on a machine

    The stream of a CAP does on a machine what it does over the natural numbers,
    if every DEFLATE component ends below the end of the word and the octets
    that go through the ring can be counted in it. On 64 bits all of that holds
    of every CAP; on 32 bits a directory can make the reader overflow.
-/

namespace Scll

namespace Cap

namespace Usize

open Octets Checked LoadFileDataBlock

variable {w : ℕ} {δ : Type} {I : Inflater δ} {inflate : Deflate}

/-! ### Header and STORED octets -/

theorem emitHeader_eq (hw : 32 ≤ w) {s : LoadFileDataBlock} (room : ℕ)
    (hlen : s.header.length ≤ 5) (h : s.headerEmitted ≤ s.header.length) :
    Usize.emitHeader w s room = .ok (s.emitHeader room) := by
  have hbig := pow_le hw
  have htake : min (s.header.length - s.headerEmitted) room =
      ((s.header.drop s.headerEmitted).take room).length := by
    rw [List.length_take, List.length_drop, Nat.min_comm]
  have hout : (s.header.drop s.headerEmitted).take (min (s.header.length - s.headerEmitted) room) =
      (s.header.drop s.headerEmitted).take room := by
    rw [← List.length_drop, Nat.min_comm, ← List.take_eq_take_min]
  unfold Usize.emitHeader LoadFileDataBlock.emitHeader
  rw [sub_eq h, ok_bind, add_eq (by omega), ok_bind, between_eq (by omega) (by omega), ok_bind,
    Nat.add_sub_cancel_left, add_eq (by omega), ok_bind, hout, htake]

theorem emitStored_eq (hw : 32 ≤ w) {s : LoadFileDataBlock} {loc : CompLoc} (room : ℕ)
    (hzip : s.zip.length < 2 ^ 31) (hwithin : loc.dataOff + s.cursor.emitted ≤ s.zip.length)
    (hdeclared : s.cursor.emitted ≤ loc.uncompSize) :
    Usize.emitStored w s loc room = .ok (s.emitStored loc room) := by
  have hbig := pow_le hw
  unfold Usize.emitStored LoadFileDataBlock.emitStored
  rw [add_eq (by omega), ok_bind, sub_eq hdeclared, ok_bind]
  dsimp only
  rw [add_eq (by omega), ok_bind, between_eq (by omega) (by omega), ok_bind,
    Nat.add_sub_cancel_left, add_eq (by omega), ok_bind]

/-! ### DEFLATE octets -/

/-- The octets of a component that go through the ring can be counted: those up
    to the end of the block and what the ring holds ahead of it, or all there
    are of a stream that stays within its output. A call that fails may write as
    much as the ring takes. -/
def Counts (w : ℕ) (octets : List UInt8 × Bool) (stays : Prop) (stop : ℕ) : Prop :=
  stop + INFLATE_WINDOW < 2 ^ w ∨
    stays ∧ octets.1.length + (if octets.2 then 0 else INFLATE_WINDOW) < 2 ^ w

/-- What a call writes can be counted. -/
theorem counted (hI : Correct I inflate) {raw out : List UInt8} {c : CompCursor}
    {infl : InflateCtx δ} {stop : ℕ} (h : Inflating I inflate raw c infl out)
    (hpending : c.produced = c.emitted) (hdone : c.done = false) (hstop : c.emitted ≤ stop)
    (hcount : Counts w (inflate raw) (inflate.Within raw) stop) :
    c.produced + (I.feed raw infl.state c.inPos out infl.window).written.length < 2 ^ w := by
  have hrunning := h.running hdone
  have hproduced := h.produced
  have hfits := I.written_le infl.state (raw.drop c.inPos) infl.window (ringPos out.length) false
    (by rw [infl.size]; exact (ringPos_lt _).le)
  rw [infl.size] at hfits
  have hwindow : (I.feed raw infl.state c.inPos out infl.window).written.length ≤
      INFLATE_WINDOW := (Nat.le_add_left ..).trans hfits
  rcases hcount with hcount | ⟨hstays, hcount⟩
  · omega
  · have hsofar := (h.sofar hstays).length_le
    -- a well-formed stream does not fail, so what is written is part of it
    cases hok : (inflate raw).2 with
    | false =>
      rw [hok, if_neg Bool.false_ne_true] at hcount
      omega
    | true =>
      rw [hok, if_pos rfl] at hcount
      obtain ⟨hnofail, -⟩ := hI.progress hrunning infl.size h.holds hok
      have hfront := (hI.written hstays hrunning infl.size h.holds hnofail).length_le
      rw [List.length_append] at hfront
      omega

theorem pump_eq_lift {s : LoadFileDataBlock} {loc : CompLoc} {infl : InflateCtx δ}
    {raw out : List UInt8} (hslice : slice s.zip loc.dataOff loc.compSize = some raw)
    (hpos : s.cursor.inPos ≤ raw.length) (hout : s.cursor.produced = out.length)
    (hend : loc.dataOff + loc.compSize < 2 ^ w)
    (hcounted : s.cursor.produced +
      (I.feed raw infl.state s.cursor.inPos out infl.window).written.length < 2 ^ w) :
    Usize.pump w I s loc infl = lift (s.pump I loc infl) := by
  have hlen := length_slice hslice
  obtain ⟨hwithin, hinput⟩ := input_eq hslice hpos
  have hinside := (slice_eq_some.mp hslice).1
  have hleft : loc.dataOff + loc.compSize - (loc.dataOff + s.cursor.inPos) =
      loc.compSize - s.cursor.inPos := Nat.add_sub_add_left ..
  have hconsumed := I.consumed_le infl.state (raw.drop s.cursor.inPos) infl.window
    (ringPos out.length) false
  rw [List.length_drop] at hconsumed
  unfold Usize.pump LoadFileDataBlock.pump
  -- the checked operations of the call, in the order of the source
  rw [add_eq hend, ok_bind, if_neg (by omega), add_eq (by omega), ok_bind, if_neg (by omega),
    between_eq (by omega) (by omega), ok_bind, if_neg hwithin, hleft]
  dsimp only
  unfold Inflater.feed at hcounted
  simp only [hinput]
  rw [← hout] at hcounted hconsumed
  rw [add_eq (by omega), ok_bind, add_eq hcounted, ok_bind]
  cases pumped (I.decompress infl.state (raw.drop s.cursor.inPos) infl.window
    (ringPos s.cursor.produced) false) with
  | error e => rfl
  | ok finished => rfl

/-- What waits in the ring can be counted. -/
theorem produced_lt {raw out : List UInt8} {c : CompCursor} {infl : InflateCtx δ} {stop : ℕ}
    (h : Inflating I inflate raw c infl out) (hstop : c.emitted ≤ stop)
    (hcount : Counts w (inflate raw) (inflate.Within raw) stop) : c.produced < 2 ^ w := by
  have hproduced := h.produced
  have hrecent := h.recent
  rcases hcount with hcount | ⟨hstays, hcount⟩
  · omega
  · have := (h.sofar hstays).length_le
    omega

theorem inflateLoop_eq (hw : 32 ≤ w) (hI : Correct I inflate) {fuel : ℕ} {s : LoadFileDataBlock}
    {loc : CompLoc} {infl : InflateCtx δ} {raw out : List UInt8} {room stop : ℕ}
    (hslice : slice s.zip loc.dataOff loc.compSize = some raw)
    (h : Inflating I inflate raw s.cursor infl out) (hend : loc.dataOff + loc.compSize < 2 ^ w)
    (hstop : s.cursor.emitted + room ≤ stop)
    (hcount : Counts w (inflate raw) (inflate.Within raw) stop) :
    Usize.inflateLoop w I fuel s loc infl room =
      lift (LoadFileDataBlock.inflateLoop I fuel s loc infl room) := by
  have hbig := pow_le hw
  have hwindow : INFLATE_WINDOW ≤ 2 ^ 31 := by decide
  -- what is handed out and the room left add up to the same in every round
  induction fuel generalizing s infl out room with
  | zero => rfl
  | succ fuel ih =>
    have hemitted := h.emitted
    have hproduced := h.produced
    have hlt := produced_lt h (by omega) hcount
    unfold Usize.inflateLoop LoadFileDataBlock.inflateLoop
    by_cases hroom : room = 0
    · rw [if_pos hroom, if_pos hroom]
      rfl
    · rw [if_neg hroom, if_neg hroom, sub_eq (by omega), ok_bind]
      -- the ring is empty, and the decompressor is called; or its octets are handed out
      by_cases hpending : s.cursor.produced = s.cursor.emitted
      · rw [if_pos (by omega), if_pos hpending]
        by_cases hdone : s.cursor.done = true
        · rw [if_pos hdone, if_pos hdone]
          rfl
        · have hrunning := Bool.eq_false_iff.mpr hdone
          have hcounted := counted hI h hpending hrunning (by omega) hcount
          rw [if_neg hdone, if_neg hdone, pump_eq_lift hslice h.used hproduced hend hcounted]
          rcases pump_spec hI hslice h hpending hrunning with
            ⟨⟨e, hpump⟩, -⟩ | ⟨c, infl', out', hpump, h', -, hsame, -⟩
          · rw [hpump]
            rfl
          · rw [hpump]
            exact ih hslice h' (by rw [← hsame] at hstop; exact hstop)
      · have hpos := ringPos_lt s.cursor.emitted
        have hlen := length_takeRing s infl room
        rw [if_neg (by omega), if_neg hpending]
        dsimp only
        rw [sub_eq hpos.le, ok_bind]
        rw [← hlen, add_eq (by omega), ok_bind, between_eq (by omega) (by rw [infl.size]; omega),
          ok_bind, Nat.add_sub_cancel_left, add_eq (by omega), ok_bind, sub_eq (by omega), ok_bind]
        have hring : (infl.window.drop (ringPos s.cursor.emitted)).take
            (takeRing s infl room).length = takeRing s infl room := by
          rw [hlen]
          rfl
        have hleft : s.cursor.emitted + (takeRing s infl room).length +
            (room - (takeRing s infl room).length) ≤ stop := by omega
        have hmore := ih (s := { s with cursor := { s.cursor with
          emitted := s.cursor.emitted + (takeRing s infl room).length } })
          hslice (h.emit (by omega)) hleft
        rw [hring, hmore]
        cases LoadFileDataBlock.inflateLoop I fuel { s with cursor := { s.cursor with
          emitted := s.cursor.emitted + (takeRing s infl room).length } } loc infl
          (room - (takeRing s infl room).length) with
        | error e => rfl
        | ok p => rfl

theorem Counts.mono {octets : List UInt8 × Bool} {stays : Prop} {stop stop' : ℕ}
    (h : Counts w octets stays stop') (hle : stop ≤ stop') : Counts w octets stays stop := by
  rcases h with h | h
  · exact .inl (by omega)
  · exact .inr h

/-- A DEFLATE component ends below the end of the word, and its octets can be
    counted. -/
def ComponentFits (w : ℕ) (inflate : Deflate) (zip : List UInt8)
    (loc : CompLoc) (stop : ℕ) : Prop :=
  loc.method = METHOD_DEFLATE →
    loc.dataOff + loc.compSize < 2 ^ w ∧
      Counts w (compOctets inflate zip loc) (Stays inflate zip loc) stop

theorem ComponentFits.mono {zip : List UInt8} {loc : CompLoc} {stop stop' : ℕ}
    (h : ComponentFits w inflate zip loc stop') (hle : stop ≤ stop') :
    ComponentFits w inflate zip loc stop :=
  fun hmethod => ⟨(h hmethod).1, (h hmethod).2.mono hle⟩

theorem pump_outside {s : LoadFileDataBlock} {loc : CompLoc} (infl : InflateCtx δ)
    (hend : loc.dataOff + loc.compSize < 2 ^ w)
    (houtside : s.zip.length < loc.dataOff + loc.compSize) :
    Usize.pump w I s loc infl = lift (s.pump I loc infl) := by
  unfold Usize.pump LoadFileDataBlock.pump
  rw [add_eq hend, ok_bind, if_pos houtside, if_pos (.inl houtside)]
  rfl

/-- Nothing of the component is there, so the first call fails. -/
theorem inflateLoop_outside {fuel : ℕ} {s : LoadFileDataBlock} {loc : CompLoc}
    (infl : InflateCtx δ) {room : ℕ} (hroom : 0 < room)
    (hpending : s.cursor.produced = s.cursor.emitted) (hdone : s.cursor.done = false)
    (hend : loc.dataOff + loc.compSize < 2 ^ w)
    (houtside : s.zip.length < loc.dataOff + loc.compSize) :
    Usize.inflateLoop w I (fuel + 1) s loc infl room =
      lift (LoadFileDataBlock.inflateLoop I (fuel + 1) s loc infl room) := by
  rw [Usize.inflateLoop, if_neg hroom.ne', sub_eq hpending.ge, ok_bind, if_pos (by omega), hdone,
    if_neg Bool.false_ne_true, pump_outside infl hend houtside, LoadFileDataBlock.inflateLoop,
    if_neg hroom.ne', if_pos hpending, hdone, if_neg Bool.false_ne_true, LoadFileDataBlock.pump,
    if_pos (.inl houtside)]
  rfl

theorem emitDeflate_eq (hw : 32 ≤ w) (hI : Correct I inflate) {s : LoadFileDataBlock}
    {loc : CompLoc} {infl : InflateCtx δ} {room : ℕ} (hroom : 0 < room)
    (hmethod : loc.method = METHOD_DEFLATE) (h : Reading I inflate s.zip loc s.cursor infl)
    (hfits : ComponentFits w inflate s.zip loc (s.cursor.emitted + room)) :
    Usize.emitDeflate w I s loc infl room = lift (s.emitDeflate I loc infl room) := by
  obtain ⟨hend, hcount⟩ := hfits hmethod
  cases hslice : slice s.zip loc.dataOff loc.compSize with
  | none =>
    -- the compressed octets lie outside the ZIP, where the first call fails
    have hnew := h.cursor_eq_new hmethod hslice
    have houtside : s.zip.length < loc.dataOff + loc.compSize := by
      unfold slice at hslice
      split at hslice
      · cases hslice
      · omega
    have hstart : LoadFileDataBlock.start I s infl =
        ({ s with cursor := { CompCursor.new with started := true } }, infl.reset I) := by
      rw [LoadFileDataBlock.start, hnew]
      rfl
    unfold Usize.emitDeflate LoadFileDataBlock.emitDeflate inflateFuel
    rw [hstart]
    exact inflateLoop_outside _ hroom rfl rfl hend houtside
  | some raw =>
    have hcount : Counts w (inflate raw) (inflate.Within raw)
        (s.cursor.emitted + room) := by
      rw [compOctets_deflate hslice hmethod] at hcount
      exact hcount.imp id (And.imp_left fun hstays => hstays hmethod raw hslice)
    obtain ⟨s₁, infl₁, out, hstart, hs₁, hinflating⟩ := h.start hmethod hslice
    unfold Usize.emitDeflate LoadFileDataBlock.emitDeflate
    rw [hstart]
    exact inflateLoop_eq hw hI (by rw [hs₁]; exact hslice) hinflating hend
      (by rw [hs₁]) hcount

/-! ### A block -/

section blocks

variable {zip : List UInt8} {locs : Locs}

/-- The next octets of a component, as long as it fits. -/
theorem emit_eq (hw : 32 ≤ w) (hI : Correct I inflate) (hzip : zip.length < 2 ^ 31)
    {s : LoadFileDataBlock} {loc : CompLoc} {infl : InflateCtx δ} {room : ℕ} (hroom : 0 < room)
    (hs : s.zip = zip) (hloc : Located zip loc) (h : Supplying I inflate zip loc s.cursor infl)
    (hfits : ComponentFits w inflate zip loc (s.cursor.emitted + room)) :
    Usize.emit w I s loc infl room = lift (s.emit I loc infl room) := by
  subst hs
  unfold Usize.emit LoadFileDataBlock.emit
  by_cases hmethod : loc.method = METHOD_DEFLATE
  · rw [if_pos hmethod, if_pos hmethod]
    exact emitDeflate_eq hw hI hroom hmethod (h.reading hmethod) hfits
  · have hwithin := h.within (stays_of_stored hmethod)
    have hstart := hloc.dataOff
    rw [supply, if_neg hmethod, List.length_take, List.length_drop] at hwithin
    rw [if_neg hmethod, if_neg hmethod, emitStored_eq hw room hzip (by omega) (by omega), ok_bind]
    rfl

/-- Every component that a block may come to fits, whatever the block leaves of
    its room to it. -/
structure BlockFits (w : ℕ) (inflate : Deflate) (zip : List UInt8)
    (locs : Locs) (comp emitted room : ℕ) : Prop where
  here : ∀ loc, locs[comp]?.join = some loc → ComponentFits w inflate zip loc (emitted + room)
  ahead : ∀ k loc, comp < k → locs[k]?.join = some loc → ComponentFits w inflate zip loc room

theorem BlockFits.mono {comp emitted emitted' room room' : ℕ}
    (h : BlockFits w inflate zip locs comp emitted' room')
    (hsum : emitted + room ≤ emitted' + room') (hroom : room ≤ room') :
    BlockFits w inflate zip locs comp emitted room where
  here loc hloc := (h.here loc hloc).mono hsum
  ahead k loc hk hloc := (h.ahead k loc hk hloc).mono hroom

theorem BlockFits.advance {comp emitted room : ℕ}
    (h : BlockFits w inflate zip locs comp emitted room) :
    BlockFits w inflate zip locs (comp + 1) 0 room where
  here loc hloc := by
    rw [Nat.zero_add]
    exact h.ahead (comp + 1) loc (Nat.lt_succ_self comp) hloc
  ahead k loc hk hloc := h.ahead k loc (Nat.lt_of_succ_lt hk) hloc

theorem advance_eq (hw : 32 ≤ w) {s : LoadFileDataBlock} (h : s.comp < LFDB_COMPONENTS) :
    Usize.advance w s = .ok s.advance := by
  have hbig := pow_le hw
  have hcomp : s.comp < 11 := h
  rw [Usize.advance, add_eq (by omega), ok_bind]
  rfl

theorem blockLoop_eq (hw : 32 ≤ w) (hI : Correct I inflate) (hzip : zip.length < 2 ^ 31)
    (hlocated : ∀ loc, some loc ∈ locs → Located zip loc) (hslots : locs.length = LFDB_COMPONENTS)
    {fuel : ℕ} {s : LoadFileDataBlock} {infl : InflateCtx δ} {out : List Sourced} {room : ℕ}
    (h : Streaming I inflate zip locs out (s, infl))
    (hfits : BlockFits w inflate zip locs s.comp s.cursor.emitted room) :
    Usize.blockLoop w I fuel s infl room = lift (s.blockLoop I fuel infl room) := by
  -- room handed out at a component, and component left behind, keep the block fitting
  induction fuel generalizing s infl out room with
  | zero => rfl
  | succ fuel ih =>
    unfold Usize.blockLoop LoadFileDataBlock.blockLoop
    by_cases hroom : room = 0
    · rw [if_pos hroom, if_pos hroom]
      rfl
    · rw [if_neg hroom, if_neg hroom]
      have hlocs : s.locs = locs := h.locs_eq
      have hs : s.zip = zip := h.zip_eq
      cases hloc : s.locs[s.comp]?.join with
      | none =>
        dsimp only
        by_cases hend : s.comp ≥ LFDB_COMPONENTS
        · rw [if_pos hend, if_pos hend]
          rfl
        · rw [if_neg hend, if_neg hend, advance_eq hw (Nat.lt_of_not_le hend), ok_bind]
          refine ih (h.advance ?_) hfits.advance
          intro loc hsome
          rw [← hlocs, hloc] at hsome
          cases hsome
      | some loc =>
        have hpresent : locs[s.comp]?.join = some loc := by rw [← hlocs, hloc]
        have hcomp := lt_of_present hpresent
        obtain ⟨hsupplying, -⟩ := h.here loc hpresent
        dsimp only at hsupplying ⊢
        rw [emit_eq hw hI hzip (Nat.pos_of_ne_zero hroom) hs
          (hlocated loc (mem_of_present hpresent)) hsupplying (hfits.here loc hpresent)]
        rcases h.round hI hslots hpresent (Nat.pos_of_ne_zero hroom) with
          ⟨⟨e, he⟩, -⟩ | ⟨c, infl', hstuck, hless, -⟩ |
          ⟨piece, c, infl', next, hpiece, hgoes, hlen, hemitted, hnext, hmid, -⟩
        · rw [he]
          rfl
        · rw [hstuck, lift, ok_bind]
          dsimp only
          rw [List.length_nil, sub_eq (Nat.zero_le _), ok_bind]
          rw [if_neg (Nat.not_le.mpr hless), if_pos rfl, if_pos ⟨hless, rfl⟩]
          rfl
        · rw [hpiece]
          have hleft : BlockFits w inflate zip locs s.comp c.emitted (room - piece.length) :=
            hfits.mono (by omega) (Nat.sub_le ..)
          rw [lift, ok_bind]
          dsimp only
          rw [sub_eq hlen, ok_bind, if_neg hgoes, hnext]
          have hloop : Usize.blockLoop w I fuel next infl' (room - piece.length) =
              lift (LoadFileDataBlock.blockLoop I fuel next infl' (room - piece.length)) := by
            refine ih hmid ?_
            rw [← hnext]
            split
            · exact hleft.advance
            · exact hleft
          -- the source advances past a component that came to its declared length
          by_cases hover : c.emitted ≥ loc.uncompSize
          · rw [if_pos hover] at hnext ⊢
            rw [advance_eq hw (by rw [← hslots]; exact hcomp), ok_bind, hnext, hloop]
            cases LoadFileDataBlock.blockLoop I fuel next infl' (room - piece.length) with
            | error e => rfl
            | ok p => rfl
          · have hsome : piece ≠ [] := fun hnil => hgoes ⟨Nat.lt_of_not_le hover, hnil⟩
            rw [if_neg hover] at hnext
            rw [if_neg hover, if_neg hsome, hnext, hloop]
            cases LoadFileDataBlock.blockLoop I fuel next infl' (room - piece.length) with
            | error e => rfl
            | ok p => rfl

/-- A block of a component stream that fits is as over the natural numbers. -/
theorem nextBlock_eq (hw : 32 ≤ w) (hI : Correct I inflate) (hzip : zip.length < 2 ^ 31)
    (hlocated : ∀ loc, some loc ∈ locs → Located zip loc) (hslots : locs.length = LFDB_COMPONENTS)
    {s : LoadFileDataBlock} {infl : InflateCtx δ} {out : List Sourced} {room : ℕ}
    (h : Streaming I inflate zip locs out (s, infl)) (hlen : s.header.length ≤ 5)
    (hheader : s.headerEmitted ≤ s.header.length)
    (hfits : BlockFits w inflate zip locs s.comp s.cursor.emitted room) :
    Usize.nextBlock w I s infl room = lift (s.nextBlock I infl room) := by
  have hhead := length_emitHeader s room
  unfold Usize.nextBlock LoadFileDataBlock.nextBlock
  rw [emitHeader_eq hw room hlen hheader, ok_bind]
  dsimp only
  rw [sub_eq hhead, ok_bind, blockLoop_eq hw hI hzip hlocated hslots (h.header room)
    (hfits.mono (by dsimp only [LoadFileDataBlock.emitHeader]; omega) (Nat.sub_le ..))]
  cases LoadFileDataBlock.blockLoop I (blockFuel room) (s.emitHeader room).2 infl
    (room - (s.emitHeader room).1.length) with
  | error e => rfl
  | ok p => rfl

end blocks

/-! ### Runs -/

/-- The points of a load file with the lent context: where it is opened, and
    whatever blocks that fit and resets lead to. -/
inductive Blocks (w : ℕ) (I : Inflater δ) (inflate : Deflate)
    (cap : CapFile) : LoadFileDataBlock → InflateCtx δ → Prop where
  | start {s : LoadFileDataBlock} (infl : InflateCtx δ) (opened : lfdb w cap = .ok s) :
      Blocks w I inflate cap s infl
  | block {s s' : LoadFileDataBlock} {infl infl' : InflateCtx δ} {room : ℕ} {out : List UInt8}
      (before : Blocks w I inflate cap s infl)
      (fits : BlockFits w inflate cap.zip cap.locs s.comp s.cursor.emitted room)
      (pulled : Usize.nextBlock w I s infl room = .ok (out, s', infl')) :
      Blocks w I inflate cap s' infl'
  | reset {s : LoadFileDataBlock} {infl : InflateCtx δ} (infl' : InflateCtx δ)
      (before : Blocks w I inflate cap s infl) : Blocks w I inflate cap s.reset infl'

/-- What holds of a stream at every point. -/
structure Streamable (I : Inflater δ) (inflate : Deflate) (cap : CapFile)
    (s : LoadFileDataBlock) (infl : InflateCtx δ) : Prop where
  streaming : ∃ out, Streaming I inflate cap.zip cap.locs out (s, infl)
  unfinished : Unfinished cap.locs s
  streamOf : StreamOf cap s
  header : s.headerEmitted ≤ s.header.length

theorem streamable_lfdb (I : Inflater δ) (inflate : Deflate)
    (cap : CapFile) (infl : InflateCtx δ) : Streamable I inflate cap cap.lfdb infl where
  streaming := ⟨[], (streaming_lfdb I inflate cap infl).1⟩
  unfinished := (streaming_lfdb I inflate cap infl).2
  streamOf := .lfdb cap
  header := Nat.zero_le _

theorem length_lfdbHeader (n : ℕ) : (lfdbHeader n).length ≤ 5 := by
  unfold lfdbHeader
  split_ifs
  all_goals simp

section runs

variable {zip : List UInt8} {cap : CapFile}

/-- A block that fits, at any point of the run. -/
theorem Streamable.nextBlock_eq (hw : 32 ≤ w) (hI : Correct I inflate)
    (hzip : cap.zip.length < 2 ^ 31) (hlocated : ∀ loc, some loc ∈ cap.locs → Located cap.zip loc)
    (hslots : cap.locs.length = LFDB_COMPONENTS) {s : LoadFileDataBlock} {infl : InflateCtx δ}
    (h : Streamable I inflate cap s infl) {room : ℕ}
    (hfits : BlockFits w inflate cap.zip cap.locs s.comp s.cursor.emitted room) :
    Usize.nextBlock w I s infl room = lift (s.nextBlock I infl room) := by
  obtain ⟨out, hstreaming⟩ := h.streaming
  have hheader : s.header = lfdbHeader (Cap.contentLen cap.locs) := h.streamOf.header
  refine Usize.nextBlock_eq hw hI hzip hlocated hslots hstreaming ?_ h.header hfits
  rw [hheader]
  exact length_lfdbHeader _

/-- A block over the natural numbers. -/
theorem Streamable.nextBlock (hI : Correct I inflate) (hslots : cap.locs.length = LFDB_COMPONENTS)
    {s s' : LoadFileDataBlock} {infl infl' : InflateCtx δ} (h : Streamable I inflate cap s infl)
    {room : ℕ} {out : List UInt8} (hblock : s.nextBlock I infl room = .ok (out, s', infl')) :
    Streamable I inflate cap s' infl' := by
  obtain ⟨before, hstreaming⟩ := h.streaming
  have hon := sourcedBlock_streamsOn hI hstreaming h.unfinished hslots room
  have herase := erase_sourcedBlock I (s, infl) room
  rw [pull, hblock] at herase
  cases hsourced : sourcedBlock I (s, infl) room with
  | error e =>
    rw [hsourced] at herase
    cases herase
  | ok r =>
    rw [hsourced] at herase hon
    obtain ⟨-, hp⟩ := Prod.mk.inj (Except.ok.inj herase)
    obtain ⟨hstreaming', hunfinished', -⟩ := hon
    rw [hp] at hstreaming' hunfinished'
    refine ⟨⟨_, hstreaming'⟩, hunfinished', h.streamOf.nextBlock hblock, ?_⟩
    obtain ⟨_, _, rfl⟩ := nextBlock_same hblock
    have := h.header
    dsimp only [LoadFileDataBlock.emitHeader]
    rw [List.length_take, List.length_drop]
    omega

theorem Blocks.streamable (hw : 32 ≤ w) (hI : Correct I inflate) (hzip : cap.zip.length < 2 ^ 31)
    (hlocated : ∀ loc, some loc ∈ cap.locs → Located cap.zip loc)
    (hslots : cap.locs.length = LFDB_COMPONENTS) {s : LoadFileDataBlock} {infl : InflateCtx δ}
    (h : Blocks w I inflate cap s infl) : Streamable I inflate cap s infl := by
  induction h with
  | start infl hopened =>
    rw [lfdb_ok hopened]
    exact streamable_lfdb I inflate cap infl
  | block _ hfits hpulled ih =>
    rw [ih.nextBlock_eq hw hI hzip hlocated hslots hfits] at hpulled
    exact ih.nextBlock hI hslots (lift_ok_iff.mp hpulled)
  | reset infl' _ ih =>
    rw [ih.streamOf.reset_eq]
    exact streamable_lfdb I inflate cap infl'

/-- What is parsed, where it lies. -/
theorem parse_located {infl infl' : InflateCtx δ} (h : Cap.parse I zip infl = .ok (cap, infl')) :
    cap.zip = zip ∧ cap.locs.length = LFDB_COMPONENTS ∧
      ∀ loc, some loc ∈ cap.locs → Located zip loc := by
  obtain ⟨hsame, hwalk⟩ := parse_walk h
  exact ⟨hsame, length_walkZip hwalk, walkZip_located hwalk⟩

/-- What the machine parses is what is parsed. -/
theorem parse_ok_of_machine (hw : 32 ≤ w) (hzip : zip.length < 2 ^ 31) {infl infl' : InflateCtx δ}
    (h : Usize.parse w I zip infl = .ok (cap, infl')) :
    Cap.parse I zip infl = .ok (cap, infl') := by
  obtain ⟨hiff, heq⟩ := parse_safe_iff (I := I) hw hzip infl
  have hsafe : Safe (Usize.parse w I zip infl) := by
    rw [h]
    exact ⟨nofun, nofun⟩
  rw [heq (hiff.mp hsafe)] at h
  exact lift_ok_iff.mp h

/-! ### 64 bits -/

/-- On 64 bits every directory fits. -/
theorem directoryFits_64 (zip : List UInt8) : DirectoryFits 64 zip := by
  intro eocd total cdOff _ _ hoff
  obtain ⟨-, hlt⟩ := readU32_bound hoff
  refine ⟨fun _ => by omega, ?_⟩
  intro left pos locs e _ hentry _
  obtain ⟨-, -, -, hlocal⟩ := centralEntry_bound hentry
  omega

/-- On 64 bits every length fits. -/
theorem len_lt_64 (hlocated : ∀ loc, some loc ∈ cap.locs → Located zip loc)
    (hslots : cap.locs.length = LFDB_COMPONENTS) : cap.lfdb.len < 2 ^ 64 := by
  have hlen : cap.lfdb.len = (lfdbHeader (Cap.contentLen cap.locs)).length +
      Cap.contentLen cap.locs := rfl
  have hheader := length_lfdbHeader (Cap.contentLen cap.locs)
  have hcount : (cap.locs.filterMap (Option.map CompLoc.uncompSize)).length ≤ 11 := by
    have := List.length_filterMap_le (Option.map CompLoc.uncompSize) cap.locs
    rwa [hslots] at this
  have hsum := List.sum_le_card_nsmul (cap.locs.filterMap (Option.map CompLoc.uncompSize)) (2 ^ 32)
    (by
      intro n hn
      obtain ⟨loc?, hmem, hloc⟩ := List.mem_filterMap.mp hn
      obtain ⟨loc, rfl, rfl⟩ := Option.map_eq_some_iff.mp hloc
      exact (hlocated loc hmem).uncompSize.le)
  rw [hlen]
  unfold Cap.contentLen at hheader ⊢
  have hall := hsum.trans (Nat.mul_le_mul_right (2 ^ 32) hcount)
  omega

/-- On 64 bits every block fits that is shorter than half of what can be addressed. -/
theorem Streamable.blockFits_64 (hzip : zip.length < 2 ^ 31)
    (hlocated : ∀ loc, some loc ∈ cap.locs → Located zip loc) {s : LoadFileDataBlock}
    {infl : InflateCtx δ} (h : Streamable I inflate cap s infl) {room : ℕ} (hroom : room < 2 ^ 63) :
    BlockFits 64 inflate zip cap.locs s.comp s.cursor.emitted room := by
  have hwindow : INFLATE_WINDOW ≤ 2 ^ 31 := by decide
  have hfits : ∀ loc, some loc ∈ cap.locs → ∀ stop, stop ≤ loc.uncompSize + room →
      ComponentFits 64 inflate zip loc stop := by
    intro loc hmem stop hstop _
    obtain ⟨hoff, hcomp, huncomp⟩ := hlocated loc hmem
    exact ⟨by omega, .inl (by omega)⟩
  constructor
  · intro loc hloc
    refine hfits loc (mem_of_present hloc) _ ?_
    have := h.unfinished loc hloc
    omega
  · intro k loc _ hloc
    exact hfits loc (mem_of_present hloc) room (Nat.le_add_left ..)

/-! ### When the reader has no fault -/

/-- On 32 or 64 bits. Parsing has no fault exactly if the directory fits, and
    the lengths of an accepted CAP have none exactly if they fit; a block has
    none if it fits, at every point that blocks that fit lead to. On 64 bits
    all of these fit. -/
theorem reader_safe_iff (hw : w = 32 ∨ w = 64) (hI : Correct I inflate)
    (hzip : zip.length < 2 ^ 31) :
    (∀ infl, Safe (Usize.parse w I zip infl) ↔ DirectoryFits w zip) ∧
    (∀ infl cap infl', Usize.parse w I zip infl = .ok (cap, infl') →
      ((Safe (lfdb w cap) ∧ ∀ s, lfdb w cap = .ok s → Safe (len w s)) ↔
        cap.lfdb.len < 2 ^ w) ∧
      ∀ s ctx room, Blocks w I inflate cap s ctx →
        BlockFits w inflate cap.zip cap.locs s.comp s.cursor.emitted room →
          Safe (Usize.nextBlock w I s ctx room)) ∧
    (w = 64 → DirectoryFits w zip ∧
      ∀ infl cap infl', Usize.parse w I zip infl = .ok (cap, infl') → cap.lfdb.len < 2 ^ w ∧
        ∀ s ctx room, Blocks w I inflate cap s ctx → room < 2 ^ 63 →
          BlockFits w inflate cap.zip cap.locs s.comp s.cursor.emitted room) := by
  have hwide : 32 ≤ w := by omega
  refine ⟨fun infl => (parse_safe_iff hwide hzip infl).1, ?_, ?_⟩
  · intro infl cap infl' hparse
    obtain ⟨rfl, hslots, hlocated⟩ := parse_located (parse_ok_of_machine hwide hzip hparse)
    refine ⟨len_safe_iff cap, ?_⟩
    intro s ctx room hblocks hfits
    have hstream := hblocks.streamable hwide hI hzip hlocated hslots
    rw [hstream.nextBlock_eq hwide hI hzip hlocated hslots hfits]
    exact safe_lift _
  · rintro rfl
    refine ⟨directoryFits_64 zip, ?_⟩
    intro infl cap infl' hparse
    obtain ⟨rfl, hslots, hlocated⟩ := parse_located (parse_ok_of_machine hwide hzip hparse)
    refine ⟨len_lt_64 hlocated hslots, ?_⟩
    intro s ctx room hblocks hroom
    exact (hblocks.streamable hwide hI hzip hlocated hslots).blockFits_64 hzip hlocated hroom

end runs

/-- The sample CAP on 32 bits, and a block of 240 octets of it. -/
theorem reader_safe_iff_sample :
    DirectoryFits 32 sampleCap ∧ ∃ cap infl₁,
      Usize.parse 32 storedInflater sampleCap (InflateCtx.new storedInflater) = .ok (cap, infl₁) ∧
      Safe (lfdb 32 cap) ∧ Safe (Usize.nextBlock 32 storedInflater cap.lfdb infl₁ 240) := by
  have hshort : sampleCap.length < 2 ^ 31 := by decide +kernel
  obtain ⟨hparse, haccepted, -⟩ := reader_safe_iff (.inl rfl) storedInflater_correct hshort
  have hlocs : (Usize.parse 32 storedInflater sampleCap (InflateCtx.new storedInflater)).map
      (·.1.locs) = .ok (some ⟨METHOD_STORED, 113, 18, 18⟩ :: some ⟨METHOD_DEFLATE, 54, 8, 3⟩ ::
        List.replicate 9 none) := by decide +kernel
  obtain ⟨⟨cap, infl₁⟩, hok, hlocs⟩ := map_eq_ok hlocs
  dsimp only at hlocs
  have hdirectory : DirectoryFits 32 sampleCap := by
    refine (hparse (InflateCtx.new storedInflater)).mp ?_
    rw [hok]
    exact ⟨nofun, nofun⟩
  obtain ⟨hlen, hblock⟩ := haccepted _ cap infl₁ hok
  have hcontent : Cap.contentLen cap.locs = 21 := by
    rw [hlocs]
    rfl
  have hfits : cap.lfdb.len < 2 ^ 32 := by
    have hsum : cap.lfdb.len = (lfdbHeader (Cap.contentLen cap.locs)).length +
        Cap.contentLen cap.locs := rfl
    rw [hsum, hcontent]
    decide
  have hcomponent : ∀ (k : ℕ) loc, cap.locs[k]?.join = some loc →
      ComponentFits 32 inflateStored cap.zip loc 240 := by
    intro k loc hloc hmethod
    have hmem := mem_of_present hloc
    rw [hlocs] at hmem
    simp only [List.mem_cons, Option.some.injEq, List.mem_replicate, reduceCtorEq, and_false,
      or_false] at hmem
    rcases hmem with rfl | rfl
    · cases hmethod
    · exact ⟨by decide, .inl (by decide)⟩
  refine ⟨hdirectory, cap, infl₁, hok, (hlen.mpr hfits).1, ?_⟩
  refine hblock cap.lfdb infl₁ 240 (.start infl₁ (lfdb_eq (by rw [hcontent]; decide))) ?_
  exact ⟨fun loc hloc => hcomponent 0 loc hloc, fun k loc _ hloc => hcomponent k loc hloc⟩

/-- An end record of 22 octets that puts one file at the end of the word. -/
def lastOffsetZip : List UInt8 :=
  writeLE 4 SIG_EOCD ++ List.replicate 4 0 ++ writeLE 2 1 ++ writeLE 2 1 ++ writeLE 4 0 ++
    writeLE 4 0xFFFFFFFF ++ writeLE 2 0

/-- The directory that it points to cannot be looked at on 32 bits. -/
theorem parse_overflows :
    lastOffsetZip.length < 2 ^ 31 ∧
      ¬Safe (Usize.parse 32 storedInflater lastOffsetZip (InflateCtx.new storedInflater)) := by
  have hshort : lastOffsetZip.length < 2 ^ 31 := by decide
  refine ⟨hshort, fun hsafe => ?_⟩
  have hfits := (parse_safe_iff le_rfl hshort _).1.mp hsafe
  have hfound : Cap.findEocd lastOffsetZip = some 0 := by decide +kernel
  have htotal : Cap.readU16 lastOffsetZip (0 + 10) = some 1 := by decide +kernel
  have hoff : Cap.readU32 lastOffsetZip (0 + 16) = some 0xFFFFFFFF := by decide +kernel
  obtain ⟨hstart, -⟩ := hfits 0 1 0xFFFFFFFF hfound htotal hoff
  exact absurd (hstart Nat.one_ne_zero) (by decide)

end Usize

end Cap

end Scll
