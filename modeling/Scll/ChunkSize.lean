import Scll.Cap.Sample
import Scll.Framework.Chunks

/-! # The load file does not depend on how it is pulled

    Whatever rooms a load file is pulled with, it is `'C4'`, the length of the
    components and the components in load order, cut up by the rooms. That holds
    from the start and after any reset, whatever the lent context held before.
-/

namespace Scll

namespace Cap

open LoadFileDataBlock

variable {δ : Type}

/-- The blocks of a load file: the state is the stream and the lent context. -/
def pull (I : Inflater δ) (p : LoadFileDataBlock × InflateCtx δ) (room : ℕ) :
    Except CapError (List UInt8 × LoadFileDataBlock × InflateCtx δ) :=
  nextBlock I p.1 p.2 room

/-! ### Streams of a CAP -/

/-- A stream of the CAP, wherever it stands. -/
structure StreamOf (cap : CapFile) (s : LoadFileDataBlock) : Prop where
  zip : s.zip = cap.zip
  locs : s.locs = cap.locs
  header : s.header = cap.lfdb.header

theorem StreamOf.lfdb (cap : CapFile) : StreamOf cap cap.lfdb := ⟨rfl, rfl, rfl⟩

/-- A reset starts over. -/
theorem StreamOf.reset_eq {cap : CapFile} {s : LoadFileDataBlock} (h : StreamOf cap s) :
    s.reset = cap.lfdb := by
  obtain ⟨zip, locs, comp, cursor, header, headerEmitted⟩ := s
  obtain ⟨rfl, rfl, rfl⟩ := h
  rfl

section frame

variable {I : Inflater δ} {cap : CapFile} {s s' : LoadFileDataBlock} {infl infl' : InflateCtx δ}

/-- Only the cursor moves. -/
def SameComponent (s s' : LoadFileDataBlock) : Prop := ∃ c, s' = { s with cursor := c }

theorem SameComponent.trans {s'' : LoadFileDataBlock} (h : SameComponent s s')
    (h' : SameComponent s' s'') : SameComponent s s'' := by
  obtain ⟨_, rfl⟩ := h
  obtain ⟨c, rfl⟩ := h'
  exact ⟨c, rfl⟩

theorem pump_same {loc : CompLoc} (h : pump I s loc infl = .ok (s', infl')) :
    SameComponent s s' := by
  unfold LoadFileDataBlock.pump at h
  dsimp only at h
  split at h
  · cases h
  · split at h
    · cases h
    · obtain ⟨rfl, -⟩ := Prod.mk.inj (Except.ok.inj h)
      exact ⟨_, rfl⟩

theorem inflateLoop_same {fuel : ℕ} {loc : CompLoc} {room : ℕ} {out : List UInt8}
    (h : inflateLoop I fuel s loc infl room = .ok (out, s', infl')) : SameComponent s s' := by
  induction fuel generalizing s infl room out with
  | zero =>
    obtain ⟨-, rfl, -⟩ := Except.ok.inj h
    exact ⟨_, rfl⟩
  | succ fuel ih =>
    unfold LoadFileDataBlock.inflateLoop at h
    split at h
    · obtain ⟨-, rfl, -⟩ := Except.ok.inj h
      exact ⟨_, rfl⟩
    · split at h
      · split at h
        · obtain ⟨-, rfl, -⟩ := Except.ok.inj h
          exact ⟨_, rfl⟩
        · split at h
          · cases h
          · next hpump => exact (pump_same hpump).trans (ih h)
      · dsimp only at h
        split at h
        · cases h
        · next hmore =>
          obtain ⟨-, rfl, -⟩ := Except.ok.inj h
          exact SameComponent.trans ⟨_, rfl⟩ (ih hmore)

theorem emit_same {loc : CompLoc} {room : ℕ} {out : List UInt8}
    (h : emit I s loc infl room = .ok (out, s', infl')) : SameComponent s s' := by
  unfold LoadFileDataBlock.emit at h
  split at h
  · unfold emitDeflate at h
    have hstart : SameComponent s (start I s infl).1 := by
      unfold start
      split
      · exact ⟨_, rfl⟩
      · exact ⟨_, rfl⟩
    exact hstart.trans (inflateLoop_same h)
  · obtain ⟨-, rfl, -⟩ := Except.ok.inj h
    exact ⟨_, rfl⟩

/-- Only the place in the components moves. -/
def SameHeader (s s' : LoadFileDataBlock) : Prop :=
  ∃ comp c, s' = { s with comp := comp, cursor := c }

theorem SameHeader.trans {s'' : LoadFileDataBlock} (h : SameHeader s s')
    (h' : SameHeader s' s'') : SameHeader s s'' := by
  obtain ⟨_, _, rfl⟩ := h
  obtain ⟨comp, c, rfl⟩ := h'
  exact ⟨comp, c, rfl⟩

theorem blockLoop_same {fuel room : ℕ} {out : List UInt8}
    (h : blockLoop I fuel s infl room = .ok (out, s', infl')) : SameHeader s s' := by
  induction fuel generalizing s infl room out with
  | zero =>
    obtain ⟨-, rfl, -⟩ := Except.ok.inj h
    exact ⟨_, _, rfl⟩
  | succ fuel ih =>
    unfold LoadFileDataBlock.blockLoop at h
    split at h
    · obtain ⟨-, rfl, -⟩ := Except.ok.inj h
      exact ⟨_, _, rfl⟩
    · split at h
      · split at h
        · obtain ⟨-, rfl, -⟩ := Except.ok.inj h
          exact ⟨_, _, rfl⟩
        · exact SameHeader.trans ⟨_, _, rfl⟩ (ih h)
      · split at h
        · cases h
        · next hemit =>
          obtain ⟨c, rfl⟩ := emit_same hemit
          split at h
          · obtain ⟨-, rfl, -⟩ := Except.ok.inj h
            exact ⟨_, _, rfl⟩
          · dsimp only at h
            split at h
            · cases h
            · next hmore =>
              obtain ⟨-, rfl, -⟩ := Except.ok.inj h
              refine SameHeader.trans ?_ (ih hmore)
              split
              · exact ⟨_, _, rfl⟩
              · exact ⟨_, _, rfl⟩

/-- A block moves the place in the header and that in the components. -/
theorem nextBlock_same {room : ℕ} {out : List UInt8}
    (h : nextBlock I s infl room = .ok (out, s', infl')) :
    SameHeader (s.emitHeader room).2 s' := by
  unfold LoadFileDataBlock.nextBlock at h
  dsimp only at h
  split at h
  · cases h
  · next hloop =>
    obtain ⟨-, rfl, -⟩ := Except.ok.inj h
    exact blockLoop_same hloop

/-- A block leaves a stream of the CAP. -/
theorem StreamOf.nextBlock {room : ℕ} {out : List UInt8} (hs : StreamOf cap s)
    (h : nextBlock I s infl room = .ok (out, s', infl')) : StreamOf cap s' := by
  obtain ⟨_, _, rfl⟩ := nextBlock_same h
  exact ⟨hs.zip, hs.locs, hs.header⟩

end frame

/-- The points of a load file: the start, and whatever blocks and resets lead
    to, whatever context each of them is lent. -/
inductive Point (I : Inflater δ) (cap : CapFile) : LoadFileDataBlock → Prop where
  | start : Point I cap cap.lfdb
  | block {s s' : LoadFileDataBlock} {infl infl' : InflateCtx δ} {room : ℕ} {out : List UInt8}
      (before : Point I cap s) (pulled : nextBlock I s infl room = .ok (out, s', infl')) :
      Point I cap s'
  | reset {s : LoadFileDataBlock} (before : Point I cap s) : Point I cap s.reset

theorem Point.streamOf {I : Inflater δ} {cap : CapFile} {s : LoadFileDataBlock}
    (h : Point I cap s) : StreamOf cap s := by
  induction h with
  | start => exact .lfdb cap
  | block _ hpulled ih => exact ih.nextBlock hpulled
  | reset _ ih =>
    rw [ih.reset_eq]
    exact .lfdb cap

/-! ### Chunks -/

/-- For every CAP whose components come to exactly their declared lengths, less
    than 2²⁴ octets in all: from the start and from any point after a reset,
    with any context and any rooms, the blocks are the load file cut up by the
    rooms, and its length is the one reported. -/
theorem chunk_size_independence {I : Inflater δ} {inflate : Deflate}
    (hI : Correct I inflate) {zip : List UInt8} {infl₀ infl₁ : InflateCtx δ} {cap : CapFile}
    (hparse : parse I zip infl₀ = .ok (cap, infl₁))
    (hexact : ∀ loc ∈ cap.locs.filterMap id, Exact inflate zip loc)
    (hlen : contentLen cap.locs < 2 ^ 24) {s : LoadFileDataBlock}
    (hs : s = cap.lfdb ∨ ∃ p, Point I cap p ∧ s = p.reset) (infl : InflateCtx δ)
    {room : ℕ → ℕ} (hroom : ∀ k, 0 < room k) :
    (∃ out state, Chunks.Pulls (pull I) (s, infl) room out state ∧
      Chunks.Cuts (loadFile inflate cap) room out) ∧
    s.len = (loadFile inflate cap).length := by
  obtain ⟨rfl, hslots⟩ := parse_ok hparse
  obtain rfl : s = cap.lfdb := by
    rcases hs with rfl | ⟨p, hp, rfl⟩
    · rfl
    · exact hp.streamOf.reset_eq
  obtain ⟨hloadable, hok⟩ := loadable_of_exact hexact
  obtain ⟨hstream, hlength⟩ := stream_eq_loadFile hloadable hok hlen
  have hdelivers : Chunks.Delivers (pull I) fun p rest => Left I inflate p.1 p.2 rest true := by
    intro p rest n _ hleft
    rcases nextBlock_spec hI hleft n with ⟨-, hno⟩ | ⟨p', hpull, hleft', -⟩
    · cases hno
    · exact ⟨p', hpull, hleft'⟩
  have hleft := left_lfdb (I := I) hslots hloadable infl
  rw [hok] at hleft
  constructor
  · rw [← hstream]
    exact hdelivers.cuts hleft hroom
  · rw [← hstream, hlength]

/-- The sample CAP, pulled in blocks of one octet, of two, of three and so on. -/
theorem chunk_size_independence_sample :
    ∃ cap infl₁, parse storedInflater sampleCap (InflateCtx.new storedInflater) = .ok (cap, infl₁) ∧
      (∃ out state, Chunks.Pulls (pull storedInflater) (cap.lfdb, infl₁) (· + 1) out state ∧
        Chunks.Cuts (loadFile inflateStored cap) (· + 1) out) ∧
      cap.lfdb.len = (loadFile inflateStored cap).length := by
  obtain ⟨cap, infl₁, hparse, hlocs⟩ := parse_sampleCap
  refine ⟨cap, infl₁, hparse, chunk_size_independence storedInflater_correct hparse ?_ ?_ (.inl rfl)
    infl₁ fun k => Nat.succ_pos k⟩
  · rw [hlocs]
    have hboth : ∀ loc ∈ [(⟨METHOD_STORED, 113, 18, 18⟩ : CompLoc), ⟨METHOD_DEFLATE, 54, 8, 3⟩],
        (compOctets inflateStored sampleCap loc).2 = true ∧
          (compOctets inflateStored sampleCap loc).1.length = loc.uncompSize := by
      decide +kernel
    exact hboth
  · rw [hlocs]
    decide

end Cap

end Scll
