import Scll.Cap.Zip

/-! # Streaming the Load File Data Block

    The load file is the components one after another, behind a `'C4'` header
    with their declared length. It is pulled block by block: STORED octets come
    straight from the ZIP, DEFLATE ones through a 32 KiB window that is a ring
    of what was decompressed last. The decompressor is a library of its own.
-/

namespace Scll

namespace Cap

open Octets

/-! ### The decompressor -/

/-- `TINFLStatus`, with its failures as one. -/
inductive InflateStatus where
  | done
  | hasMoreOutput
  | needsMoreInput
  | failed
  deriving DecidableEq, Repr

/-- What one call of `decompress` returns. -/
structure Inflated (δ : Type) where
  status : InflateStatus
  /-- Octets of input used. -/
  consumed : ℕ
  /-- The octets written to the buffer, from the output position on. -/
  written : List UInt8
  state : δ

/-- The raw-DEFLATE decompressor: a state, and a call that reads input and
    writes output at a position of a buffer. It may look back in the buffer. -/
structure Inflater (δ : Type) where
  new : δ
  decompress : (state : δ) → (input buffer : List UInt8) → (outPos : ℕ) →
    (nonWrapping : Bool) → Inflated δ
  /-- It uses no more input than there is. -/
  consumed_le : ∀ state input buffer outPos nonWrapping,
    (decompress state input buffer outPos nonWrapping).consumed ≤ input.length
  /-- It stays inside the buffer. -/
  written_le : ∀ state input buffer outPos nonWrapping, outPos ≤ buffer.length →
    outPos + (decompress state input buffer outPos nonWrapping).written.length ≤ buffer.length

/-- The window and the decompressor state that a caller lends. -/
structure InflateCtx (δ : Type) where
  window : List UInt8
  state : δ
  size : window.length = INFLATE_WINDOW

variable {δ : Type} (I : Inflater δ)

namespace InflateCtx

/-- A zeroed window and a fresh state. -/
def new : InflateCtx δ := ⟨List.replicate INFLATE_WINDOW 0, I.new, List.length_replicate⟩

/-- A fresh state; the window is reused. -/
def reset (infl : InflateCtx δ) : InflateCtx δ := { infl with state := I.new }

/-- Write into the window. -/
def write (infl : InflateCtx δ) (pos : ℕ) (src : List UInt8) (state : δ)
    (h : pos + src.length ≤ INFLATE_WINDOW) : InflateCtx δ where
  window := overwrite infl.window pos src
  state := state
  size := by rw [length_overwrite (by rw [infl.size]; exact h), infl.size]

end InflateCtx

/-! ### Reading one metadata component -/

theorem zero_add_le_window {bytes : List UInt8} (h : bytes.length ≤ INFLATE_WINDOW) :
    0 + bytes.length ≤ INFLATE_WINDOW := by
  rwa [Nat.zero_add]

/-- A component inflated in one call stays inside the window. -/
theorem inflated_le_window (infl : InflateCtx δ) (input : List UInt8) :
    0 + (I.decompress I.new input infl.window 0 true).written.length ≤ INFLATE_WINDOW := by
  have := I.written_le I.new input infl.window 0 true (Nat.zero_le _)
  rwa [infl.size] at this

/-- Materialize a component into the window: its octets, and the context after. -/
def readComponent (zip : List UInt8) (loc : CompLoc) (infl : InflateCtx δ) :
    Except CapError (List UInt8 × InflateCtx δ) := do
  let input ← required (slice zip loc.dataOff loc.compSize)
  if loc.method = METHOD_STORED then
    if h : input.length ≤ INFLATE_WINDOW then
      .ok (input, infl.write 0 input infl.state (zero_add_le_window h))
    else .error .malformed
  else if loc.method = METHOD_DEFLATE then
    let r := I.decompress I.new input infl.window 0 true
    match r.status with
    | .done =>
        .ok (r.written, infl.write 0 r.written r.state (inflated_le_window I infl input))
    | _ => .error .inflate
  else .error .malformed

/-- Read and parse an optional component. -/
def readOptional {α : Type} (zip : List UInt8) (loc : Option CompLoc) (infl : InflateCtx δ)
    (parse : List UInt8 → Except CapError (List α)) : Except CapError (List α × InflateCtx δ) :=
  match loc with
  | none => .ok ([], infl)
  | some loc => do
      let (bytes, infl) ← readComponent I zip loc infl
      let items ← parse bytes
      .ok (items, infl)

/-- A parsed CAP file. -/
structure CapFile where
  packageAid : Aid
  components : CapComponents
  zip : List UInt8
  locs : Locs

/-- Parse a CAP. The context is left reset. -/
def parse (zip : List UInt8) (infl : InflateCtx δ) : Except CapError (CapFile × InflateCtx δ) := do
  let locs ← walkZip zip
  let headerLoc ← okOr locs[IDX_HEADER]?.join (.missingComponent "Header.cap")
  let (header, infl) ← readComponent I zip headerLoc infl
  let (packageAid, version) ← parseHeader header
  let (imports, infl) ← readOptional I zip locs[IDX_IMPORT]?.join infl parseImports
  let (applets, infl) ← readOptional I zip locs[IDX_APPLET]?.join infl parseApplets
  .ok (⟨packageAid, ⟨version, imports, applets⟩, zip, locs⟩, infl.reset I)

/-! ### The load file -/

/-- The declared length of all components. -/
def contentLen (locs : Locs) : ℕ := (locs.filterMap (Option.map CompLoc.uncompSize)).sum

/-- The low eight bits of a length shifted down. -/
def lengthByte (n shift : ℕ) : UInt8 := UInt8.ofNat (n >>> shift)

/-- `C4` and the BER length, in at most five octets. -/
def lfdbHeader (n : ℕ) : List UInt8 :=
  if n < 0x80 then [0xC4, lengthByte n 0]
  else if n ≤ 0xFF then [0xC4, 0x81, lengthByte n 0]
  else if n ≤ 0xFFFF then [0xC4, 0x82, lengthByte n 8, lengthByte n 0]
  else [0xC4, 0x83, lengthByte n 16, lengthByte n 8, lengthByte n 0]

/-- Progress within one component. -/
structure CompCursor where
  /-- Compressed octets used. -/
  inPos : ℕ
  /-- Octets decompressed into the ring. -/
  produced : ℕ
  /-- Octets handed to the consumer. -/
  emitted : ℕ
  done : Bool
  /-- The context has been reset for this component. -/
  started : Bool

def CompCursor.new : CompCursor := ⟨0, 0, 0, false, false⟩

/-- The streaming Load File Data Block. -/
structure LoadFileDataBlock where
  zip : List UInt8
  locs : Locs
  /-- The component being emitted. -/
  comp : ℕ
  cursor : CompCursor
  header : List UInt8
  /-- Header octets handed out so far. -/
  headerEmitted : ℕ

/-- A fresh stream over a CAP. -/
def CapFile.lfdb (cap : CapFile) : LoadFileDataBlock where
  zip := cap.zip
  locs := cap.locs
  comp := 0
  cursor := .new
  header := lfdbHeader (contentLen cap.locs)
  headerEmitted := 0

namespace LoadFileDataBlock

/-- Total framed length: the header and the declared content. -/
def len (s : LoadFileDataBlock) : ℕ := s.header.length + contentLen s.locs

/-- Restart from the first octet. -/
def reset (s : LoadFileDataBlock) : LoadFileDataBlock :=
  { s with comp := 0, cursor := .new, headerEmitted := 0 }

/-- Move to the next component. -/
def advance (s : LoadFileDataBlock) : LoadFileDataBlock :=
  { s with comp := s.comp + 1, cursor := .new }

/-- Hand out header octets, at most `room`. -/
def emitHeader (s : LoadFileDataBlock) (room : ℕ) : List UInt8 × LoadFileDataBlock :=
  let out := (s.header.drop s.headerEmitted).take room
  (out, { s with headerEmitted := s.headerEmitted + out.length })

/-- Hand out octets of a STORED component, at most `room`. -/
def emitStored (s : LoadFileDataBlock) (loc : CompLoc) (room : ℕ) :
    List UInt8 × LoadFileDataBlock :=
  let start := loc.dataOff + s.cursor.emitted
  let take := min (min (loc.uncompSize - s.cursor.emitted) room) (s.zip.length - start)
  ((s.zip.drop start).take take,
    { s with cursor := { s.cursor with emitted := s.cursor.emitted + take } })

/-- The position of the ring where an offset of the stream lies. -/
def ringPos (n : ℕ) : ℕ := n % INFLATE_WINDOW

theorem ringPos_lt (n : ℕ) : ringPos n < INFLATE_WINDOW := Nat.mod_lt _ (by decide)

/-- Whether a call made progress, or the component is over. -/
def pumped (r : Inflated δ) : Except CapError Bool :=
  match r.status with
  | .done => .ok true
  | .failed => .error .inflate
  | .hasMoreOutput => if r.consumed = 0 ∧ r.written = [] then .error .inflate else .ok false
  | .needsMoreInput => if r.consumed = 0 ∧ r.written = [] then .error .inflate else .ok false

/-- A call of `pump` stays inside the window. -/
theorem pump_le_window (s : LoadFileDataBlock) (loc : CompLoc) (infl : InflateCtx δ) :
    ringPos s.cursor.produced +
        (I.decompress infl.state
          ((s.zip.drop (loc.dataOff + s.cursor.inPos)).take (loc.compSize - s.cursor.inPos))
          infl.window (ringPos s.cursor.produced) false).written.length ≤ INFLATE_WINDOW := by
  have := I.written_le infl.state
    ((s.zip.drop (loc.dataOff + s.cursor.inPos)).take (loc.compSize - s.cursor.inPos))
    infl.window (ringPos s.cursor.produced) false (by rw [infl.size]; exact (ringPos_lt _).le)
  rwa [infl.size] at this

/-- Drive the decompressor once, appending its output to the ring. -/
def pump (s : LoadFileDataBlock) (loc : CompLoc) (infl : InflateCtx δ) :
    Except CapError (LoadFileDataBlock × InflateCtx δ) :=
  let compEnd := loc.dataOff + loc.compSize
  if compEnd > s.zip.length ∨ loc.dataOff + s.cursor.inPos > compEnd then .error .inflate
  else
    let input := (s.zip.drop (loc.dataOff + s.cursor.inPos)).take (loc.compSize - s.cursor.inPos)
    let pos := ringPos s.cursor.produced
    let r := I.decompress infl.state input infl.window pos false
    have hfit : pos + r.written.length ≤ INFLATE_WINDOW := pump_le_window I s loc infl
    match pumped r with
    | .error e => .error e
    | .ok finished =>
        let cursor :=
          { s.cursor with
            inPos := s.cursor.inPos + r.consumed
            produced := s.cursor.produced + r.written.length
            done := s.cursor.done || finished }
        .ok ({ s with cursor }, infl.write pos r.written r.state hfit)

/-- Octets of the ring not handed out yet: as many as `room`, up to the seam. -/
def takeRing (s : LoadFileDataBlock) (infl : InflateCtx δ) (room : ℕ) : List UInt8 :=
  let start := ringPos s.cursor.emitted
  let pending := s.cursor.produced - s.cursor.emitted
  (infl.window.drop start).take (min (min pending room) (INFLATE_WINDOW - start))

/-- The loop of a DEFLATE component, with `fuel` more rounds. -/
def inflateLoop : ℕ → LoadFileDataBlock → CompLoc → InflateCtx δ → ℕ →
    Except CapError (List UInt8 × LoadFileDataBlock × InflateCtx δ)
  | 0, s, _, infl, _ => .ok ([], s, infl)
  | fuel + 1, s, loc, infl, room =>
      if room = 0 then .ok ([], s, infl)
      else if s.cursor.produced = s.cursor.emitted then
        if s.cursor.done then .ok ([], s, infl)
        else
          match pump I s loc infl with
          | .error e => .error e
          | .ok (s, infl) => inflateLoop fuel s loc infl room
      else
        let out := takeRing s infl room
        let s := { s with cursor := { s.cursor with emitted := s.cursor.emitted + out.length } }
        match inflateLoop fuel s loc infl (room - out.length) with
        | .error e => .error e
        | .ok (more, s, infl) => .ok (out ++ more, s, infl)

/-- Rounds that are enough: each hands out an octet, or uses input, or ends. -/
def inflateFuel (loc : CompLoc) (room : ℕ) : ℕ := 2 * room + loc.compSize + 3

/-- Reset the context the first time a component is inflated. -/
def start (s : LoadFileDataBlock) (infl : InflateCtx δ) : LoadFileDataBlock × InflateCtx δ :=
  if s.cursor.started then (s, infl)
  else ({ s with cursor := { s.cursor with started := true } }, infl.reset I)

/-- Hand out octets of a DEFLATE component, at most `room`. -/
def emitDeflate (s : LoadFileDataBlock) (loc : CompLoc) (infl : InflateCtx δ) (room : ℕ) :
    Except CapError (List UInt8 × LoadFileDataBlock × InflateCtx δ) :=
  let (s, infl) := start I s infl
  inflateLoop I (inflateFuel loc room) s loc infl room

/-- Hand out octets of the current component. Every method but DEFLATE is read
    as STORED. -/
def emit (s : LoadFileDataBlock) (loc : CompLoc) (infl : InflateCtx δ) (room : ℕ) :
    Except CapError (List UInt8 × LoadFileDataBlock × InflateCtx δ) :=
  if loc.method = METHOD_DEFLATE then emitDeflate I s loc infl room
  else
    let (out, s) := emitStored s loc room
    .ok (out, s, infl)

/-- The loop over the components, with `fuel` more rounds. -/
def blockLoop : ℕ → LoadFileDataBlock → InflateCtx δ → ℕ →
    Except CapError (List UInt8 × LoadFileDataBlock × InflateCtx δ)
  | 0, s, infl, _ => .ok ([], s, infl)
  | fuel + 1, s, infl, room =>
      if room = 0 then .ok ([], s, infl)
      else
        match s.locs[s.comp]?.join with
        | none =>
            if s.comp ≥ LFDB_COMPONENTS then .ok ([], s, infl)
            else blockLoop fuel s.advance infl room
        | some loc =>
            match emit I s loc infl room with
            | .error e => .error e
            | .ok (out, s, infl) =>
                -- no progress, with room left: guard against a stall
                if s.cursor.emitted < loc.uncompSize ∧ out = [] then .ok ([], s, infl)
                else
                  let s := if s.cursor.emitted ≥ loc.uncompSize then s.advance else s
                  match blockLoop fuel s infl (room - out.length) with
                  | .error e => .error e
                  | .ok (more, s, infl) => .ok (out ++ more, s, infl)

/-- Rounds that are enough: each moves on to a component or hands out an octet. -/
def blockFuel (room : ℕ) : ℕ := LFDB_COMPONENTS + room + 1

/-- The next block, of at most `room` octets. -/
def nextBlock (s : LoadFileDataBlock) (infl : InflateCtx δ) (room : ℕ) :
    Except CapError (List UInt8 × LoadFileDataBlock × InflateCtx δ) :=
  let (head, s) := s.emitHeader room
  match blockLoop I (blockFuel room) s infl (room - head.length) with
  | .error e => .error e
  | .ok (out, s, infl) => .ok (head ++ out, s, infl)

end LoadFileDataBlock

/-! ### A block holds no more than was asked for -/

namespace LoadFileDataBlock

theorem length_inflateLoop {fuel room : ℕ} {s s' : LoadFileDataBlock} {loc : CompLoc}
    {infl infl' : InflateCtx δ} {out : List UInt8}
    (h : inflateLoop I fuel s loc infl room = .ok (out, s', infl')) : out.length ≤ room := by
  induction fuel generalizing s s' infl infl' room out with
  | zero =>
    obtain ⟨rfl, -⟩ := Prod.mk.inj (Except.ok.inj h)
    exact Nat.zero_le _
  | succ fuel ih =>
    unfold inflateLoop at h
    split at h
    · obtain ⟨rfl, -⟩ := Prod.mk.inj (Except.ok.inj h)
      exact Nat.zero_le _
    split at h
    · split at h
      · obtain ⟨rfl, -⟩ := Prod.mk.inj (Except.ok.inj h)
        exact Nat.zero_le _
      · split at h
        · cases h
        · exact ih h
    · dsimp only at h
      split at h
      · cases h
      · next more s₁ infl₁ hmore =>
        obtain ⟨rfl, -⟩ := Prod.mk.inj (Except.ok.inj h)
        have hring : (takeRing s infl room).length ≤ room := by
          unfold takeRing
          simp only [List.length_take]
          omega
        have := ih hmore
        rw [List.length_append]
        omega

theorem length_emit {room : ℕ} {s s' : LoadFileDataBlock} {loc : CompLoc}
    {infl infl' : InflateCtx δ} {out : List UInt8}
    (h : emit I s loc infl room = .ok (out, s', infl')) : out.length ≤ room := by
  unfold emit at h
  split at h
  · exact length_inflateLoop I h
  · obtain ⟨rfl, -⟩ := Prod.mk.inj (Except.ok.inj h)
    simp only [List.length_take]
    omega

theorem length_blockLoop {fuel room : ℕ} {s s' : LoadFileDataBlock} {infl infl' : InflateCtx δ}
    {out : List UInt8} (h : blockLoop I fuel s infl room = .ok (out, s', infl')) :
    out.length ≤ room := by
  induction fuel generalizing s s' infl infl' room out with
  | zero =>
    obtain ⟨rfl, -⟩ := Prod.mk.inj (Except.ok.inj h)
    exact Nat.zero_le _
  | succ fuel ih =>
    unfold blockLoop at h
    split at h
    · obtain ⟨rfl, -⟩ := Prod.mk.inj (Except.ok.inj h)
      exact Nat.zero_le _
    split at h
    · split at h
      · obtain ⟨rfl, -⟩ := Prod.mk.inj (Except.ok.inj h)
        exact Nat.zero_le _
      · exact ih h
    · split at h
      · cases h
      · next first s₁ infl₁ hfirst =>
        split at h
        · obtain ⟨rfl, -⟩ := Prod.mk.inj (Except.ok.inj h)
          exact Nat.zero_le _
        · dsimp only at h
          split at h
          · cases h
          · next more s₂ infl₂ hmore =>
            obtain ⟨rfl, -⟩ := Prod.mk.inj (Except.ok.inj h)
            have := length_emit I hfirst
            have := ih hmore
            rw [List.length_append]
            omega

theorem length_emitHeader (s : LoadFileDataBlock) (room : ℕ) :
    (s.emitHeader room).1.length ≤ room := by
  unfold emitHeader
  dsimp only
  rw [List.length_take]
  exact Nat.min_le_left ..

theorem length_nextBlock {room : ℕ} {s s' : LoadFileDataBlock} {infl infl' : InflateCtx δ}
    {out : List UInt8} (h : s.nextBlock I infl room = .ok (out, s', infl')) :
    out.length ≤ room := by
  unfold nextBlock at h
  dsimp only at h
  split at h
  · cases h
  · next more s₁ infl₁ hmore =>
    obtain ⟨rfl, -⟩ := Prod.mk.inj (Except.ok.inj h)
    have hhead := length_emitHeader s room
    have := length_blockLoop I hmore
    rw [List.length_append]
    omega

end LoadFileDataBlock

end Cap

end Scll
