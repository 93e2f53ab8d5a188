import Scll.Cap.Stream
import Scll.Framework.Ring
import Scll.TlvRoundTrip

/-! # What the stream of a CAP comes to

    The octets of a component are its STORED octets, or what a correct
    decompressor makes of its DEFLATE ones. As long as every component comes to
    its declared length, up to a first one that cannot be decompressed, each
    block is the next piece of the header and the components behind it.
-/

namespace Scll

namespace Cap

open Octets LoadFileDataBlock

variable {δ : Type}

/-! ### A correct decompressor -/

/-- One call over the rest of a DEFLATE stream, behind the output so far. -/
def Inflater.feed (I : Inflater δ) (raw : List UInt8) (state : δ) (used : ℕ)
    (out window : List UInt8) : Inflated δ :=
  I.decompress state (raw.drop used) window (ringPos out.length) false

/-- The decompressor has used that many octets of a stream and written `out`,
    through a ring that held as much of its output as fits. -/
inductive Decompressing (I : Inflater δ) (raw : List UInt8) : δ → ℕ → List UInt8 → Prop where
  | start : Decompressing I raw I.new 0 []
  | call {state : δ} {used : ℕ} {out window : List UInt8}
      (sofar : Decompressing I raw state used out) (size : window.length = INFLATE_WINDOW)
      (holds : Ring.Holds INFLATE_WINDOW window out)
      (more : (I.feed raw state used out window).status = .hasMoreOutput ∨
        (I.feed raw state used out window).status = .needsMoreInput) :
      Decompressing I raw (I.feed raw state used out window).state
        (used + (I.feed raw state used out window).consumed)
        (out ++ (I.feed raw state used out window).written)

/-- What streams decompress to. -/
structure Deflate where
  /-- The octets of a stream, and whether it is well formed to its end. -/
  inflate : List UInt8 → List UInt8 × Bool
  /-- No distance of the stream reaches back behind the start of its output. -/
  Within : List UInt8 → Prop
  within_of_ok {raw : List UInt8} : (inflate raw).2 = true → Within raw

instance : CoeFun Deflate fun _ => List UInt8 → List UInt8 × Bool := ⟨Deflate.inflate⟩

/-- The decompressor is right about `inflate`. A distance that reaches back too
    far makes it take octets that some other stream has left in the ring, so
    what it writes is a matter of the stream alone only where none does. -/
structure Correct (I : Inflater δ) (inflate : Deflate) : Prop where
  /-- The output is written in order. -/
  written {raw : List UInt8} {state : δ} {used : ℕ} {out window : List UInt8} :
    inflate.Within raw → Decompressing I raw state used out → window.length = INFLATE_WINDOW →
    Ring.Holds INFLATE_WINDOW window out → (I.feed raw state used out window).status ≠ .failed →
    out ++ (I.feed raw state used out window).written <+: (inflate raw).1
  /-- A stream is done when it is well formed and all of it is written. -/
  done {raw : List UInt8} {state : δ} {used : ℕ} {out window : List UInt8} :
    inflate.Within raw → Decompressing I raw state used out → window.length = INFLATE_WINDOW →
    Ring.Holds INFLATE_WINDOW window out → (I.feed raw state used out window).status = .done →
    (inflate raw).2 = true ∧ out ++ (I.feed raw state used out window).written = (inflate raw).1
  /-- A stream that is well formed does not fail, and goes on until it is done. -/
  progress {raw : List UInt8} {state : δ} {used : ℕ} {out window : List UInt8} :
    Decompressing I raw state used out → window.length = INFLATE_WINDOW →
    Ring.Holds INFLATE_WINDOW window out → (inflate raw).2 = true →
    (I.feed raw state used out window).status ≠ .failed ∧
      ((I.feed raw state used out window).status ≠ .done →
        (I.feed raw state used out window).consumed ≠ 0 ∨
          (I.feed raw state used out window).written ≠ [])

/-! ### The octets of a CAP -/

/-- The octets of a component, and whether they are all there. -/
def compOctets (inflate : Deflate) (zip : List UInt8) (loc : CompLoc) :
    List UInt8 × Bool :=
  match slice zip loc.dataOff loc.compSize with
  | none => ([], false)
  | some raw =>
      if loc.method = METHOD_DEFLATE then inflate raw
      else if loc.method = METHOD_STORED then (raw, true)
      else ([], false)

/-- The component comes to exactly its declared length. -/
def Exact (inflate : Deflate) (zip : List UInt8) (loc : CompLoc) : Prop :=
  (compOctets inflate zip loc).2 = true ∧ (compOctets inflate zip loc).1.length = loc.uncompSize

/-- The component is no DEFLATE stream with a distance that reaches back behind
    the start of its output. -/
def Stays (inflate : Deflate) (zip : List UInt8) (loc : CompLoc) : Prop :=
  loc.method = METHOD_DEFLATE →
    ∀ raw, slice zip loc.dataOff loc.compSize = some raw → inflate.Within raw

/-- A DEFLATE component that fails short of its declared length. -/
def Broken (inflate : Deflate) (zip : List UInt8) (loc : CompLoc) : Prop :=
  loc.method = METHOD_DEFLATE ∧ (compOctets inflate zip loc).2 = false ∧
    (compOctets inflate zip loc).1.length < loc.uncompSize ∧ Stays inflate zip loc

/-- The octets of the components one after another, up to a first that fails. -/
def content (inflate : Deflate) (zip : List UInt8) :
    Locs → List UInt8 × Bool
  | [] => ([], true)
  | none :: locs => content inflate zip locs
  | some loc :: locs =>
      let octets := compOctets inflate zip loc
      if octets.2 then
        (octets.1 ++ (content inflate zip locs).1, (content inflate zip locs).2)
      else octets

/-- Every component is exact, up to a first that fails short of its length. -/
def Loadable (inflate : Deflate) (zip : List UInt8) : Locs → Prop
  | [] => True
  | none :: locs => Loadable inflate zip locs
  | some loc :: locs =>
      Exact inflate zip loc ∧ Loadable inflate zip locs ∨ Broken inflate zip loc

section octets

variable {inflate : Deflate} {zip : List UInt8}

theorem compOctets_deflate {raw : List UInt8} {loc : CompLoc}
    (hslice : slice zip loc.dataOff loc.compSize = some raw) (h : loc.method = METHOD_DEFLATE) :
    compOctets inflate zip loc = inflate raw := by
  unfold compOctets
  rw [hslice]
  exact if_pos h

/-- A component that is all there stays within its output. -/
theorem stays_of_ok {loc : CompLoc} (h : (compOctets inflate zip loc).2 = true) :
    Stays inflate zip loc := by
  intro hmethod raw hslice
  rw [compOctets_deflate hslice hmethod] at h
  exact inflate.within_of_ok h

theorem stays_of_stored {loc : CompLoc} (h : ¬loc.method = METHOD_DEFLATE) :
    Stays inflate zip loc :=
  fun hmethod => absurd hmethod h

theorem slice_eq_some {b raw : List UInt8} {pos n : ℕ} :
    slice b pos n = some raw ↔ pos + n ≤ b.length ∧ (b.drop pos).take n = raw := by
  unfold slice
  split <;> simp_all

theorem length_slice {b raw : List UInt8} {pos n : ℕ} (h : slice b pos n = some raw) :
    raw.length = n := by
  obtain ⟨hfits, rfl⟩ := slice_eq_some.mp h
  rw [List.length_take, List.length_drop]
  omega

theorem content_exact {loc : CompLoc} (h : Exact inflate zip loc) (locs : Locs) :
    content inflate zip (some loc :: locs) =
      ((compOctets inflate zip loc).1 ++ (content inflate zip locs).1,
        (content inflate zip locs).2) := by
  rw [content]
  exact if_pos h.1

theorem content_broken {loc : CompLoc} (h : Broken inflate zip loc) (locs : Locs) :
    content inflate zip (some loc :: locs) = compOctets inflate zip loc := by
  rw [content]
  exact if_neg (Bool.eq_false_iff.mp h.2.1)

theorem contentLen_none (locs : Locs) : contentLen (none :: locs) = contentLen locs := rfl

theorem contentLen_some (loc : CompLoc) (locs : Locs) :
    contentLen (some loc :: locs) = loc.uncompSize + contentLen locs := by
  simp [contentLen]

/-- The octets of a component that is there come first; what follows are those
    of the others, or nothing if it fails. -/
theorem content_loadable {loc : CompLoc} {locs : Locs}
    (h : Loadable inflate zip (some loc :: locs)) :
    ∃ more, (content inflate zip (some loc :: locs)).1 =
        (compOctets inflate zip loc).1 ++ more.1 ∧
      (Exact inflate zip loc ∧ Loadable inflate zip locs ∧ more = content inflate zip locs ∧
          (content inflate zip (some loc :: locs)).2 = more.2 ∨
        Broken inflate zip loc ∧ more.1 = [] ∧
          (content inflate zip (some loc :: locs)).2 = false) := by
  rcases h with ⟨hexact, hlocs⟩ | hbroken
  · refine ⟨content inflate zip locs, ?_, .inl ⟨hexact, hlocs, rfl, ?_⟩⟩
    · rw [content_exact hexact]
    · rw [content_exact hexact]
  · refine ⟨([], false), ?_, .inr ⟨hbroken, rfl, ?_⟩⟩
    · rw [content_broken hbroken, List.append_nil]
    · rw [content_broken hbroken, hbroken.2.1]

/-- The declared length is the length, or some component fails short of it. -/
theorem length_content {locs : Locs} (h : Loadable inflate zip locs) :
    if (content inflate zip locs).2 then (content inflate zip locs).1.length = contentLen locs
    else (content inflate zip locs).1.length < contentLen locs := by
  induction locs with
  | nil => rfl
  | cons loc? locs ih =>
    rcases loc? with _ | loc
    · exact ih h
    · rcases h with ⟨hexact, h⟩ | hbroken
      · have := ih h
        rw [content_exact hexact, contentLen_some, List.length_append, hexact.2]
        dsimp only
        split at this
        · next hok => rw [if_pos hok, this]
        · next hok =>
          rw [if_neg hok]
          omega
      · rw [content_broken hbroken, contentLen_some, if_neg (Bool.eq_false_iff.mp hbroken.2.1)]
        have := hbroken.2.2.1
        omega

/-- Components that are all exact are loadable, and no octet is missing. -/
theorem loadable_of_exact {locs : Locs} (h : ∀ loc ∈ locs.filterMap id, Exact inflate zip loc) :
    Loadable inflate zip locs ∧ (content inflate zip locs).2 = true := by
  induction locs with
  | nil => exact ⟨trivial, rfl⟩
  | cons loc? locs ih =>
    rcases loc? with _ | loc
    · exact ih h
    · have hexact : Exact inflate zip loc := h loc (by simp)
      obtain ⟨hloadable, hok⟩ := ih fun loc' hloc => h loc' (by simp_all)
      refine ⟨.inl ⟨hexact, hloadable⟩, ?_⟩
      rw [content_exact hexact]
      exact hok

end octets

/-! ### Handing out octets -/

/-- Of what is left, as much as there is room for is handed out; or it fails,
    which it does before it leaves room. -/
def HandsOut {α : Type} (rest : List UInt8) (ok : Bool) (room : ℕ)
    (r : Except CapError (List UInt8 × α)) (P : α → Prop) : Prop :=
  (∃ e, r = .error e) ∧ ok = false ∨
    ∃ a, r = .ok (rest.take room, a) ∧ P a ∧ (ok = false → room ≤ rest.length)

namespace HandsOut

variable {α : Type} {rest : List UInt8} {ok : Bool} {room : ℕ} {P Q : α → Prop}

/-- No room. -/
theorem none {a : α} (h : P a) : HandsOut rest ok 0 (.ok ([], a)) P :=
  .inr ⟨a, by rw [List.take_zero], h, fun _ => Nat.zero_le _⟩

/-- Nothing left. -/
theorem ended {a : α} (hok : ok = true) (hrest : rest = []) (h : P a) :
    HandsOut rest ok room (.ok ([], a)) P :=
  .inr ⟨a, by rw [hrest, List.take_nil], h, fun hbroken => by rw [hok] at hbroken; cases hbroken⟩

theorem mono {r : Except CapError (List UInt8 × α)} (h : HandsOut rest ok room r P)
    (hPQ : ∀ a, P a → Q a) : HandsOut rest ok room r Q := by
  rcases h with h | ⟨a, hr, ha, hroom⟩
  · exact .inl h
  · exact .inr ⟨a, hr, hPQ a ha, hroom⟩

/-- A piece in front of what is handed out next. -/
def prepend (out : List UInt8) (r : Except CapError (List UInt8 × α)) :
    Except CapError (List UInt8 × α) :=
  match r with
  | .error e => .error e
  | .ok (more, a) => .ok (out ++ more, a)

theorem prepend_eq (out : List UInt8)
    (r : Except CapError (List UInt8 × LoadFileDataBlock × InflateCtx δ)) :
    (match r with
      | .error e => .error e
      | .ok (more, s, infl) => .ok (out ++ more, s, infl)) = prepend out r := by
  cases r <;> rfl

/-- Two pieces are one. -/
theorem append {r : Except CapError (List UInt8 × α)} {k : ℕ} (hk : k ≤ room)
    (hrest : k ≤ rest.length) (h : HandsOut (rest.drop k) ok (room - k) r P) :
    HandsOut rest ok room (prepend (rest.take k) r) P := by
  rcases h with ⟨⟨e, rfl⟩, hok⟩ | ⟨a, rfl, ha, hroom⟩
  · exact .inl ⟨⟨e, rfl⟩, hok⟩
  · refine .inr ⟨a, ?_, ha, fun hbroken => ?_⟩
    · rw [prepend, ← List.take_add, Nat.add_sub_cancel' hk]
    · have := hroom hbroken
      rw [List.length_drop] at this
      omega

end HandsOut

/-! ### A DEFLATE component -/

section inflating

variable {I : Inflater δ} {inflate : Deflate}

/-- The cursor is in the middle of a DEFLATE stream, `out` of which went through
    the ring. -/
structure Inflating (I : Inflater δ) (inflate : Deflate)
    (raw : List UInt8) (c : CompCursor) (infl : InflateCtx δ) (out : List UInt8) : Prop where
  running : c.done = false → Decompressing I raw infl.state c.inPos out
  finished : inflate.Within raw → c.done = true → (inflate raw).2 = true ∧ out = (inflate raw).1
  sofar : inflate.Within raw → out <+: (inflate raw).1
  holds : Ring.Holds INFLATE_WINDOW infl.window out
  used : c.inPos ≤ raw.length
  produced : c.produced = out.length
  emitted : c.emitted ≤ out.length
  /-- What is not handed out yet is still in the ring. -/
  recent : out.length ≤ c.emitted + INFLATE_WINDOW

/-- A write into the window, as a write into a ring. -/
theorem written_write (infl : InflateCtx δ) {pos : ℕ} {src : List UInt8} (state : δ)
    (h : pos + src.length ≤ INFLATE_WINDOW) :
    Ring.Written infl.window (infl.write pos src state h).window pos src := by
  have hfits : pos + src.length ≤ infl.window.length := by
    rw [infl.size]
    exact h
  constructor
  · intro k hk
    rw [InflateCtx.write, getElem?_overwrite hfits, if_neg (by omega), if_pos (by omega),
      Nat.add_sub_cancel_left]
  · intro j hj
    rw [InflateCtx.write, getElem?_overwrite hfits]
    rcases hj with hj | hj
    · rw [if_pos hj]
    · rw [if_neg (by omega), if_neg (by omega)]

/-- What is left of the input of a component. -/
theorem input_eq {zip raw : List UInt8} {loc : CompLoc} {pos : ℕ}
    (hslice : slice zip loc.dataOff loc.compSize = some raw) (hpos : pos ≤ raw.length) :
    ¬(loc.dataOff + loc.compSize > zip.length ∨ loc.dataOff + pos > loc.dataOff + loc.compSize) ∧
      (zip.drop (loc.dataOff + pos)).take (loc.compSize - pos) = raw.drop pos := by
  have hlen := length_slice hslice
  obtain ⟨hfits, hraw⟩ := slice_eq_some.mp hslice
  refine ⟨by omega, ?_⟩
  rw [← hraw, List.drop_take, List.drop_drop]

/-- A pump, as a call over the rest of the stream. -/
theorem pump_eq {s : LoadFileDataBlock} {loc : CompLoc} (infl : InflateCtx δ)
    {raw out : List UInt8} (hslice : slice s.zip loc.dataOff loc.compSize = some raw)
    (hpos : s.cursor.inPos ≤ raw.length) (hout : s.cursor.produced = out.length) :
    ∃ hfit, pump I s loc infl =
      match pumped (I.feed raw infl.state s.cursor.inPos out infl.window) with
      | .error e => .error e
      | .ok finished =>
          let r := I.feed raw infl.state s.cursor.inPos out infl.window
          .ok ({ s with
            cursor := { s.cursor with
              inPos := s.cursor.inPos + r.consumed
              produced := s.cursor.produced + r.written.length
              done := s.cursor.done || finished } },
            infl.write (ringPos out.length) r.written r.state hfit) := by
  -- the slice bounds of the source hold, and its input is the rest of the stream
  obtain ⟨hwithin, hinput⟩ := input_eq hslice hpos
  refine ⟨?_, ?_⟩
  · have := I.written_le infl.state (raw.drop s.cursor.inPos) infl.window
      (ringPos out.length) false (by rw [infl.size]; exact (ringPos_lt _).le)
    rw [infl.size] at this
    exact this
  · unfold pump
    rw [if_neg hwithin]
    simp only [hinput, hout]
    rfl

/-- What a call comes to. -/
theorem pumped_cases (r : Inflated δ) :
    (r.status = .done ∧ pumped r = .ok true) ∨
    ((r.status = .failed ∨ r.status ≠ .done ∧ r.consumed = 0 ∧ r.written = []) ∧
      ∃ e, pumped r = .error e) ∨
    ((r.status = .hasMoreOutput ∨ r.status = .needsMoreInput) ∧
      ¬(r.consumed = 0 ∧ r.written = []) ∧ pumped r = .ok false) := by
  unfold pumped
  by_cases hnone : r.consumed = 0 ∧ r.written = []
  · cases r.status <;> simp [hnone]
  · cases r.status <;> simp [hnone]

/-- The cursor after a call that does not fail. -/
theorem Inflating.call (hI : Correct I inflate) {raw out : List UInt8} {c : CompCursor}
    {infl : InflateCtx δ} (h : Inflating I inflate raw c infl out) (hdone : c.done = false)
    (hpending : c.produced = c.emitted) {r : Inflated δ}
    (hr : I.feed raw infl.state c.inPos out infl.window = r)
    (hfit : ringPos out.length + r.written.length ≤ INFLATE_WINDOW) (finished : Bool)
    (hstatus : r.status ≠ .failed) (hyes : finished = true → r.status = .done)
    (hno : finished = false → r.status = .hasMoreOutput ∨ r.status = .needsMoreInput) :
    Inflating I inflate raw { c with
        inPos := c.inPos + r.consumed
        produced := c.produced + r.written.length
        done := c.done || finished }
      (infl.write (ringPos out.length) r.written r.state hfit) (out ++ r.written) := by
  have hrunning := h.running hdone
  have hproduced := h.produced
  have hused := h.used
  have hconsumed := I.consumed_le infl.state (raw.drop c.inPos) infl.window
    (ringPos out.length) false
  rw [List.length_drop] at hconsumed
  change (I.feed raw infl.state c.inPos out infl.window).consumed ≤ _ at hconsumed
  subst hr
  -- the fields in order: the call, its end, what it wrote, the ring, and the counts
  refine ⟨fun hd => ?_, fun hwithin hd => ?_, fun hwithin => ?_,
    h.holds.write hfit (written_write infl _ hfit), ?_, ?_, ?_, ?_⟩
  · rw [hdone, Bool.false_or] at hd
    exact Decompressing.call hrunning infl.size h.holds (hno hd)
  · rw [hdone, Bool.false_or] at hd
    exact hI.done hwithin hrunning infl.size h.holds (hyes hd)
  · exact hI.written hwithin hrunning infl.size h.holds hstatus
  · dsimp only
    omega
  · dsimp only
    rw [List.length_append, hproduced]
  · have := h.emitted
    dsimp only
    rw [List.length_append]
    omega
  · have hpos := hfit
    dsimp only
    rw [List.length_append]
    omega

/-- Pumping, as long as nothing waits in the ring: the stream fails, or the
    decompressor is a step further on. -/
theorem pump_spec (hI : Correct I inflate) {s : LoadFileDataBlock} {loc : CompLoc}
    {infl : InflateCtx δ} {raw out : List UInt8}
    (hslice : slice s.zip loc.dataOff loc.compSize = some raw)
    (h : Inflating I inflate raw s.cursor infl out)
    (hpending : s.cursor.produced = s.cursor.emitted)
    (hdone : s.cursor.done = false) :
    (∃ e, pump I s loc infl = .error e) ∧ (inflate raw).2 = false ∨
    ∃ c infl' out', pump I s loc infl = .ok ({ s with cursor := c }, infl') ∧
      Inflating I inflate raw c infl' out' ∧ out <+: out' ∧ c.emitted = s.cursor.emitted ∧
      c.started = s.cursor.started ∧ s.cursor.inPos ≤ c.inPos ∧
      (c.done = true ∨ c.produced ≠ c.emitted ∨ s.cursor.inPos < c.inPos) := by
  obtain ⟨hfit, hpump⟩ := pump_eq (I := I) infl hslice h.used h.produced
  have hprogress := hI.progress (h.running hdone) infl.size h.holds
  rw [hpump]
  generalize hcall : I.feed raw infl.state s.cursor.inPos out infl.window = r at *
  have hafter := h.call hI hdone hpending hcall hfit
  -- the call ended the stream, failed or stalled, or made progress
  rcases pumped_cases r with ⟨hdone', hr⟩ | ⟨hbad, e, hr⟩ | ⟨hmore, hmoved, hr⟩
  · right
    rw [hr]
    exact ⟨_, _, _, rfl, hafter true (by simp [hdone']) (by simp [hdone']) (by simp),
      List.prefix_append .., rfl, rfl, Nat.le_add_right .., .inl (Bool.or_true _)⟩
  · -- a call that fails, or makes no progress, is one over a broken stream
    left
    rw [hr]
    refine ⟨⟨e, rfl⟩, ?_⟩
    by_contra hok
    obtain ⟨hnofail, hgoes⟩ := hprogress (Bool.eq_true_of_not_eq_false hok)
    rcases hbad with hfailed | ⟨hnotdone, hnone⟩
    · exact hnofail hfailed
    · have := hgoes hnotdone
      tauto
  · right
    rw [hr]
    have hnofail : r.status ≠ .failed := by rcases hmore with h | h <;> simp [h]
    refine ⟨_, _, _, rfl, hafter false hnofail (by simp) (fun _ => hmore),
      List.prefix_append .., rfl, rfl, Nat.le_add_right .., ?_⟩
    dsimp only
    by_cases hw : r.written = []
    · have : r.consumed ≠ 0 := fun hc => hmoved ⟨hc, hw⟩
      omega
    · have := List.length_pos_iff.mpr hw
      omega

/-- Octets of the ring that are handed out: a next piece of the output, and not
    an empty one if there is room and something waits. -/
theorem takeRing_spec {s : LoadFileDataBlock} {infl : InflateCtx δ} {raw out : List UInt8}
    (h : Inflating I inflate raw s.cursor infl out) (room : ℕ) :
    ∃ k, k ≤ room ∧ s.cursor.emitted + k ≤ out.length ∧
      takeRing s infl room = (out.drop s.cursor.emitted).take k ∧
      (takeRing s infl room).length = k ∧
      (0 < room → s.cursor.produced ≠ s.cursor.emitted → 0 < k) := by
  have hemitted := h.emitted
  have hproduced := h.produced
  have hseam := ringPos_lt s.cursor.emitted
  obtain ⟨k, hk⟩ : ∃ k, k = min (min (s.cursor.produced - s.cursor.emitted) room)
      (INFLATE_WINDOW - ringPos s.cursor.emitted) := ⟨_, rfl⟩
  have hend : s.cursor.emitted + k ≤ out.length := by omega
  have hread := h.holds.read hend h.recent (n := k) (by
    unfold ringPos at hk hseam
    omega)
  have hpiece : takeRing s infl room = (out.drop s.cursor.emitted).take k := by
    rw [takeRing, ← hk, ringPos, hread]
  refine ⟨k, by omega, hend, hpiece, ?_, by omega⟩
  rw [hpiece, List.length_take, List.length_drop]
  omega

/-- Octets that are handed out leave the ring as it is. -/
theorem Inflating.emit {raw out : List UInt8} {c : CompCursor} {infl : InflateCtx δ} {k : ℕ}
    (h : Inflating I inflate raw c infl out) (hend : c.emitted + k ≤ out.length) :
    Inflating I inflate raw { c with emitted := c.emitted + k } infl out :=
  { h with
    emitted := hend
    recent := by
      have := h.recent
      dsimp only
      omega }

theorem length_takeRing (s : LoadFileDataBlock) (infl : InflateCtx δ) (room : ℕ) :
    (takeRing s infl room).length = min (min (s.cursor.produced - s.cursor.emitted) room)
      (INFLATE_WINDOW - ringPos s.cursor.emitted) := by
  rw [takeRing, List.length_take, List.length_drop, infl.size]
  omega

/-- Rounds left in the loop of a DEFLATE component. -/
def roundsLeft (raw : List UInt8) (c : CompCursor) (room : ℕ) : ℕ :=
  2 * room + (raw.length - c.inPos) + (if c.done then 0 else 1) +
    (if c.produced = c.emitted then 1 else 0)

/-- What the loop of a DEFLATE component comes to: octets that follow in the
    output, as many as there is room for unless the stream is over; or it fails,
    which it does only over a stream that is not well formed. -/
def MovesOn (I : Inflater δ) (inflate : Deflate) (raw : List UInt8) (s : LoadFileDataBlock)
    (out : List UInt8) (room : ℕ) :
    Except CapError (List UInt8 × LoadFileDataBlock × InflateCtx δ) → Prop
  | .error _ => (inflate raw).2 = false
  | .ok (piece, s', infl') => ∃ c out', s' = { s with cursor := c } ∧
      Inflating I inflate raw c infl' out' ∧ out <+: out' ∧ c.started = s.cursor.started ∧
      c.emitted = s.cursor.emitted + piece.length ∧ piece.length ≤ room ∧
      piece = (out'.drop s.cursor.emitted).take piece.length ∧
      (piece.length < room → c.done = true ∧ c.emitted = out'.length)

/-- Nothing more is handed out. -/
theorem MovesOn.stay {s : LoadFileDataBlock} {infl : InflateCtx δ} {raw out : List UInt8}
    {room : ℕ} (h : Inflating I inflate raw s.cursor infl out)
    (hover : 0 < room → s.cursor.done = true ∧ s.cursor.emitted = out.length) :
    MovesOn I inflate raw s out room (.ok ([], s, infl)) :=
  ⟨s.cursor, out, rfl, h, List.prefix_rfl, rfl, rfl, Nat.zero_le _, List.take_zero.symm, hover⟩

/-- A piece in front of what the loop comes to. -/
theorem MovesOn.prepend {s : LoadFileDataBlock} {raw out piece : List UInt8} {room : ℕ}
    (hend : s.cursor.emitted + piece.length ≤ out.length) (hroom : piece.length ≤ room)
    (hpiece : piece = (out.drop s.cursor.emitted).take piece.length)
    {r : Except CapError (List UInt8 × LoadFileDataBlock × InflateCtx δ)}
    (h : MovesOn I inflate raw { s with cursor := { s.cursor with
      emitted := s.cursor.emitted + piece.length } } out (room - piece.length) r) :
    MovesOn I inflate raw s out room (HandsOut.prepend piece r) := by
  cases r with
  | error e => exact h
  | ok p =>
    obtain ⟨more, s', infl'⟩ := p
    obtain ⟨c, out', rfl, hinflating, hout, hstarted, hemitted, hmore, hnext, hover⟩ := h
    dsimp only at hnext hemitted hstarted
    refine ⟨c, out', rfl, hinflating, hout, hstarted, ?_, ?_, ?_, ?_⟩
    · rw [hemitted, List.length_append]
      omega
    · rw [List.length_append]
      omega
    · obtain ⟨behind, rfl⟩ := hout
      rw [List.length_append, List.take_add, List.drop_drop, ← hnext,
        List.drop_append_of_le_length (by omega),
        List.take_append_of_le_length (by rw [List.length_drop]; omega), ← hpiece]
    · intro hless
      rw [List.length_append] at hless
      exact hover (by omega)

/-- Pumping changes what waits in the ring, and nothing that was handed out. -/
theorem MovesOn.pumped {s : LoadFileDataBlock} {raw out out₁ : List UInt8} {room : ℕ}
    {c₁ : CompCursor} (hout : out <+: out₁) (hemitted : c₁.emitted = s.cursor.emitted)
    (hstarted : c₁.started = s.cursor.started)
    {r : Except CapError (List UInt8 × LoadFileDataBlock × InflateCtx δ)}
    (h : MovesOn I inflate raw { s with cursor := c₁ } out₁ room r) :
    MovesOn I inflate raw s out room r := by
  cases r with
  | error e => exact h
  | ok p =>
    obtain ⟨piece, s', infl'⟩ := p
    obtain ⟨c, out', rfl, hinflating, hout', hstarted', hemitted', hlen, hpiece, hover⟩ := h
    dsimp only at hpiece hemitted' hstarted'
    rw [hemitted] at hpiece hemitted'
    exact ⟨c, out', rfl, hinflating, hout.trans hout', hstarted'.trans hstarted, hemitted', hlen,
      hpiece, hover⟩

/-- The loop hands out the next octets of the output. -/
theorem inflateLoop_moves (hI : Correct I inflate) {fuel : ℕ} {s : LoadFileDataBlock}
    {loc : CompLoc} {infl : InflateCtx δ} {raw out : List UInt8} {room : ℕ}
    (hslice : slice s.zip loc.dataOff loc.compSize = some raw)
    (h : Inflating I inflate raw s.cursor infl out) (hfuel : roundsLeft raw s.cursor room ≤ fuel) :
    MovesOn I inflate raw s out room (inflateLoop I fuel s loc infl room) := by
  -- on the fuel, which bounds the calls, the input and the room that are left
  induction fuel generalizing s infl out room with
  | zero =>
    refine .stay h fun hroom => ?_
    unfold roundsLeft at hfuel
    omega
  | succ fuel ih =>
    have hemitted := h.emitted
    have hproduced := h.produced
    by_cases hroom : room = 0
    · rw [inflateLoop, if_pos hroom]
      exact .stay h (by omega)
    · rw [inflateLoop, if_neg hroom]
      by_cases hpending : s.cursor.produced = s.cursor.emitted
      · rw [if_pos hpending]
        by_cases hdone : s.cursor.done = true
        · -- the stream is over, and all of it has been handed out
          rw [if_pos hdone]
          exact .stay h fun _ => ⟨hdone, by omega⟩
        · rw [if_neg hdone]
          rcases pump_spec hI hslice h hpending (Bool.eq_false_iff.mpr hdone) with
            ⟨⟨e, hpump⟩, hbroken⟩ |
            ⟨c, infl', out', hpump, h', hout, hsame, hstarted, hpos, hmoved⟩
          · rw [hpump]
            exact hbroken
          · rw [hpump]
            have hused := h'.used
            -- the call used input, wrote, or ended the stream: fewer rounds are left
            have hrounds : roundsLeft raw c room ≤ fuel := by
              unfold roundsLeft at hfuel ⊢
              rw [if_neg hdone, if_pos hpending] at hfuel
              split <;> split <;> simp_all <;> omega
            have hloop := ih (s := { s with cursor := c }) hslice h' hrounds
            exact hloop.pumped hout hsame hstarted
      · rw [if_neg hpending]
        -- a piece of the ring, up to the seam, and the loop for the rest of the room
        obtain ⟨k, hk, hend, hpiece, hlenk, hpos⟩ := takeRing_spec h room
        have hkpos := hpos (by omega) hpending
        generalize takeRing s infl room = piece at hpiece hlenk ⊢
        subst hlenk
        have hrounds : roundsLeft raw { s.cursor with emitted := s.cursor.emitted + piece.length }
            (room - piece.length) ≤ fuel := by
          unfold roundsLeft at hfuel ⊢
          rw [if_neg hpending] at hfuel
          dsimp only
          have hpendingAfter :
              (if s.cursor.produced = s.cursor.emitted + piece.length then 1 else 0) ≤ 1 := by
            split <;> omega
          omega
        have hmore := ih (s := { s with cursor := { s.cursor with
          emitted := s.cursor.emitted + piece.length } }) hslice (h.emit hend) hrounds
        have hall := MovesOn.prepend hend hk hpiece hmore
        rw [← HandsOut.prepend_eq] at hall
        exact hall

/-- The cursor after `n` more octets of a DEFLATE component. -/
def MovedOn (I : Inflater δ) (inflate : Deflate) (raw : List UInt8)
    (s : LoadFileDataBlock) (n : ℕ) (p : LoadFileDataBlock × InflateCtx δ) : Prop :=
  ∃ c out, p.1 = { s with cursor := c } ∧ Inflating I inflate raw c p.2 out ∧
    c.started = s.cursor.started ∧ c.emitted = s.cursor.emitted + n

/-- What follows in the output of a stream that stays within it is the next piece
    of what the stream decompresses to. -/
theorem MovesOn.handsOut {s : LoadFileDataBlock} {raw out : List UInt8} {room : ℕ}
    (hwithin : inflate.Within raw)
    {r : Except CapError (List UInt8 × LoadFileDataBlock × InflateCtx δ)}
    (h : MovesOn I inflate raw s out room r) :
    HandsOut ((inflate raw).1.drop s.cursor.emitted) (inflate raw).2 room r
      (MovedOn I inflate raw s (min room ((inflate raw).1.length - s.cursor.emitted))) := by
  cases r with
  | error e => exact .inl ⟨⟨e, rfl⟩, h⟩
  | ok p =>
    obtain ⟨piece, s', infl'⟩ := p
    obtain ⟨c, out', rfl, hinflating, -, hstarted, hemitted, hlen, hpiece, hover⟩ := h
    obtain ⟨behind, hall⟩ := hinflating.sofar hwithin
    have hin := hinflating.emitted
    have hlength := congrArg List.length hall
    rw [List.length_append] at hlength
    have hfront : piece = ((inflate raw).1.drop s.cursor.emitted).take piece.length := by
      rw [← hall, List.drop_append_of_le_length (by omega),
        List.take_append_of_le_length (by rw [List.length_drop]; omega)]
      exact hpiece
    -- less than the room is handed out only at the end of the stream
    have hshort : piece.length < room → (inflate raw).2 = true ∧
        piece.length = (inflate raw).1.length - s.cursor.emitted := by
      intro hless
      obtain ⟨hdone, hend⟩ := hover hless
      obtain ⟨hok, hout⟩ := hinflating.finished hwithin hdone
      refine ⟨hok, ?_⟩
      rw [← hout]
      omega
    have hcount : piece.length = min room ((inflate raw).1.length - s.cursor.emitted) := by
      by_cases hless : piece.length < room
      · have := (hshort hless).2
        omega
      · omega
    refine .inr ⟨({ s with cursor := c }, infl'), ?_,
      ⟨c, out', rfl, hinflating, hstarted, by omega⟩, ?_⟩
    · rw [List.take_eq_take_min, List.length_drop, ← hcount, ← hfront]
    · intro hbroken
      rw [List.length_drop]
      by_contra hless
      have := (hshort (by omega)).1
      rw [hbroken] at this
      cases this

/-! ### One component -/

/-- The cursor lies in the component. -/
structure Reading (I : Inflater δ) (inflate : Deflate) (zip : List UInt8)
    (loc : CompLoc) (c : CompCursor) (infl : InflateCtx δ) : Prop where
  within : Stays inflate zip loc → c.emitted ≤ (compOctets inflate zip loc).1.length
  fresh : loc.method = METHOD_DEFLATE → c.started = false → c = .new
  stream : loc.method = METHOD_DEFLATE → c.started = true →
    ∃ raw out, slice zip loc.dataOff loc.compSize = some raw ∧ Inflating I inflate raw c infl out

/-- A fresh cursor lies in any component, whatever the context holds. -/
theorem reading_new (zip : List UInt8) (loc : CompLoc) (infl : InflateCtx δ) :
    Reading I inflate zip loc .new infl :=
  ⟨fun _ => Nat.zero_le _, fun _ _ => rfl, fun _ hstarted => by cases hstarted⟩

/-- The first octets of a DEFLATE component reset the context. -/
theorem inflating_new (raw : List UInt8) (infl : InflateCtx δ) :
    Inflating I inflate raw { CompCursor.new with started := true } (infl.reset I) [] where
  running _ := .start
  finished _ hdone := by cases hdone
  sofar _ := List.nil_prefix
  holds := Ring.holds_nil _ _
  used := Nat.zero_le _
  produced := rfl
  emitted := le_rfl
  recent := Nat.zero_le _

/-- The next octets of the component. -/
def Emitted (I : Inflater δ) (inflate : Deflate) (s : LoadFileDataBlock)
    (loc : CompLoc) (room : ℕ) (p : LoadFileDataBlock × InflateCtx δ) : Prop :=
  ∃ c, p.1 = { s with cursor := c } ∧ Reading I inflate s.zip loc c p.2 ∧
    c.emitted = s.cursor.emitted +
      min room ((compOctets inflate s.zip loc).1.length - s.cursor.emitted)

/-- The first octets of a component start a stream; later ones go on with it. -/
theorem Reading.start {s : LoadFileDataBlock} {loc : CompLoc} {infl : InflateCtx δ}
    {raw : List UInt8} (h : Reading I inflate s.zip loc s.cursor infl)
    (hmethod : loc.method = METHOD_DEFLATE)
    (hslice : slice s.zip loc.dataOff loc.compSize = some raw) :
    ∃ s₁ infl₁ out, LoadFileDataBlock.start I s infl = (s₁, infl₁) ∧
      s₁ = { s with cursor := { s.cursor with started := true } } ∧
      Inflating I inflate raw s₁.cursor infl₁ out := by
  unfold LoadFileDataBlock.start
  by_cases hstarted : s.cursor.started = true
  · obtain ⟨raw', out, hraw, hinflating⟩ := h.stream hmethod hstarted
    obtain rfl := Option.some.inj (hslice.symm.trans hraw)
    rw [if_pos hstarted]
    refine ⟨s, infl, out, rfl, ?_, hinflating⟩
    rw [← hstarted]
  · have hnew := h.fresh hmethod (Bool.eq_false_iff.mpr hstarted)
    rw [if_neg hstarted, hnew]
    exact ⟨_, _, [], rfl, rfl, inflating_new raw infl⟩

/-- A component that is not in the archive was not started. -/
theorem Reading.cursor_eq_new {zip : List UInt8} {loc : CompLoc} {c : CompCursor}
    {infl : InflateCtx δ} (h : Reading I inflate zip loc c infl)
    (hmethod : loc.method = METHOD_DEFLATE) (hslice : slice zip loc.dataOff loc.compSize = none) :
    c = .new := by
  refine h.fresh hmethod ?_
  by_contra hstarted
  obtain ⟨raw, _, hraw, -⟩ := h.stream hmethod (Bool.eq_true_of_not_eq_false hstarted)
  rw [hslice] at hraw
  cases hraw

/-- A cursor in a DEFLATE stream lies in the component. -/
theorem Inflating.reading {zip raw out : List UInt8} {loc : CompLoc} {c : CompCursor}
    {infl : InflateCtx δ} (h : Inflating I inflate raw c infl out) (hstarted : c.started = true)
    (hmethod : loc.method = METHOD_DEFLATE)
    (hslice : slice zip loc.dataOff loc.compSize = some raw) :
    Reading I inflate zip loc c infl where
  within hstays := by
    rw [compOctets_deflate hslice hmethod]
    exact h.emitted.trans (h.sofar (hstays hmethod raw hslice)).length_le
  fresh _ hno := by
    rw [hstarted] at hno
    cases hno
  stream _ _ := ⟨raw, out, hslice, h⟩

/-- A DEFLATE component fails, or moves on in its stream. -/
theorem emitDeflate_cases (hI : Correct I inflate) {s : LoadFileDataBlock} {loc : CompLoc}
    {infl : InflateCtx δ} {room : ℕ} (hroom : 0 < room) (hmethod : loc.method = METHOD_DEFLATE)
    (h : Reading I inflate s.zip loc s.cursor infl) :
    (∃ e, emitDeflate I s loc infl room = .error e) ∧ (compOctets inflate s.zip loc).2 = false ∨
      ∃ raw out, slice s.zip loc.dataOff loc.compSize = some raw ∧
        MovesOn I inflate raw { s with cursor := { s.cursor with started := true } } out room
          (emitDeflate I s loc infl room) := by
  cases hslice : slice s.zip loc.dataOff loc.compSize with
  | none =>
    -- nothing of the component is there, so the first call fails
    have hnew := h.cursor_eq_new hmethod hslice
    have hstarted : s.cursor.started = false := congrArg CompCursor.started hnew
    left
    constructor
    · refine ⟨.inflate, ?_⟩
      have houtside : loc.dataOff + loc.compSize > s.zip.length := by
        unfold slice at hslice
        split at hslice
        · cases hslice
        · omega
      unfold emitDeflate LoadFileDataBlock.start inflateFuel
      rw [hstarted, hnew]
      dsimp only [CompCursor.new]
      rw [if_neg Bool.false_ne_true, inflateLoop, if_neg (by omega), if_pos rfl,
        if_neg Bool.false_ne_true, pump, if_pos (.inl houtside)]
    · unfold compOctets
      rw [hslice]
  | some raw =>
    have hlen := length_slice hslice
    obtain ⟨s₁, infl₁, out, hstart, rfl, hinflating⟩ := h.start hmethod hslice
    refine .inr ⟨raw, out, rfl, ?_⟩
    unfold emitDeflate
    rw [hstart]
    refine inflateLoop_moves hI hslice hinflating ?_
    unfold roundsLeft inflateFuel
    split <;> split <;> omega

/-- Whatever the stream is, the cursor moves by what is handed out. -/
theorem emitDeflate_moves (hI : Correct I inflate) {s : LoadFileDataBlock} {loc : CompLoc}
    {infl : InflateCtx δ} {room : ℕ} (hroom : 0 < room) (hmethod : loc.method = METHOD_DEFLATE)
    (h : Reading I inflate s.zip loc s.cursor infl) :
    (∃ e, emitDeflate I s loc infl room = .error e) ∧ (compOctets inflate s.zip loc).2 = false ∨
      ∃ piece c infl', emitDeflate I s loc infl room = .ok (piece, { s with cursor := c }, infl') ∧
        Reading I inflate s.zip loc c infl' ∧ piece.length ≤ room ∧
        c.emitted = s.cursor.emitted + piece.length := by
  rcases emitDeflate_cases hI hroom hmethod h with hfailed | ⟨raw, out, hslice, hmoves⟩
  · exact .inl hfailed
  · cases hrun : emitDeflate I s loc infl room with
    | error e =>
      rw [hrun] at hmoves
      refine .inl ⟨⟨e, rfl⟩, ?_⟩
      rw [compOctets_deflate hslice hmethod]
      exact hmoves
    | ok p =>
      rw [hrun] at hmoves
      obtain ⟨piece, s', infl'⟩ := p
      obtain ⟨c, out', rfl, hinflating, -, hstarted, hemitted, hlen, -⟩ := hmoves
      exact .inr ⟨piece, c, infl', rfl, hinflating.reading hstarted hmethod hslice, hlen, hemitted⟩

/-- A stream that stays within its output hands out the next octets of it. -/
theorem emitDeflate_spec (hI : Correct I inflate) {s : LoadFileDataBlock} {loc : CompLoc}
    {infl : InflateCtx δ} {room : ℕ} (hroom : 0 < room) (hmethod : loc.method = METHOD_DEFLATE)
    (hstays : Stays inflate s.zip loc) (h : Reading I inflate s.zip loc s.cursor infl) :
    HandsOut ((compOctets inflate s.zip loc).1.drop s.cursor.emitted)
      (compOctets inflate s.zip loc).2 room (emitDeflate I s loc infl room)
      (Emitted I inflate s loc room) := by
  rcases emitDeflate_cases hI hroom hmethod h with hfailed | ⟨raw, out, hslice, hmoves⟩
  · exact .inl hfailed
  · have hout := hmoves.handsOut (hstays hmethod raw hslice)
    rw [compOctets_deflate hslice hmethod]
    refine hout.mono ?_
    rintro ⟨s', infl'⟩ ⟨c, out', rfl, hinflating, hstarted, hemitted⟩
    refine ⟨c, rfl, hinflating.reading hstarted hmethod hslice, ?_⟩
    rw [compOctets_deflate hslice hmethod]
    exact hemitted

theorem emitStored_spec {s : LoadFileDataBlock} {loc : CompLoc} {infl : InflateCtx δ} {room : ℕ}
    (hmethod : loc.method ≠ METHOD_DEFLATE) (hexact : Exact inflate s.zip loc)
    (h : Reading I inflate s.zip loc s.cursor infl) :
    HandsOut ((compOctets inflate s.zip loc).1.drop s.cursor.emitted)
      (compOctets inflate s.zip loc).2 room
      (.ok ((emitStored s loc room).1, (emitStored s loc room).2, infl))
      (Emitted I inflate s loc room) := by
  have hwithin := h.within (stays_of_stored hmethod)
  obtain ⟨raw, hslice, hoctets⟩ : ∃ raw, slice s.zip loc.dataOff loc.compSize = some raw ∧
      compOctets inflate s.zip loc = (raw, true) := by
    have hok := hexact.1
    unfold compOctets at hok ⊢
    split at hok
    · cases hok
    · next raw hslice =>
      rw [if_neg hmethod] at hok ⊢
      split at hok
      · next hstored => exact ⟨raw, hslice, if_pos hstored⟩
      · cases hok
  have hlen : raw.length = loc.uncompSize := by
    have := hexact.2
    rwa [hoctets] at this
  have hsize := length_slice hslice
  obtain ⟨hfits, hraw⟩ := slice_eq_some.mp hslice
  rw [hoctets] at hwithin ⊢
  dsimp only at hwithin ⊢
  -- the source cuts at the declared length, the room and the end of the ZIP
  have htake : min (min (loc.uncompSize - s.cursor.emitted) room)
      (s.zip.length - (loc.dataOff + s.cursor.emitted)) =
      min room (raw.length - s.cursor.emitted) := by omega
  have hout : (emitStored s loc room).1 = (raw.drop s.cursor.emitted).take room := by
    have hinside : s.cursor.emitted + min room (raw.length - s.cursor.emitted) ≤ loc.compSize := by
      omega
    unfold emitStored
    dsimp only
    rw [htake, ← hraw, List.drop_take, List.take_take, List.drop_drop]
    congr 1
    rw [hraw, hsize]
  refine .inr ⟨((emitStored s loc room).2, infl), by rw [hout],
    ⟨(emitStored s loc room).2.cursor, rfl, ⟨fun _ => ?_, fun h => absurd h hmethod,
      fun h => absurd h hmethod⟩, ?_⟩, by simp⟩
  · rw [hoctets]
    simp only [emitStored, htake]
    omega
  · rw [hoctets]
    simp only [emitStored, htake]

/-- The next octets of a component that comes to its length, or fails short of it. -/
theorem emit_spec (hI : Correct I inflate) {s : LoadFileDataBlock} {loc : CompLoc}
    {infl : InflateCtx δ} {room : ℕ} (hroom : 0 < room)
    (hloc : Exact inflate s.zip loc ∨ Broken inflate s.zip loc)
    (h : Reading I inflate s.zip loc s.cursor infl) :
    HandsOut ((compOctets inflate s.zip loc).1.drop s.cursor.emitted)
      (compOctets inflate s.zip loc).2 room (emit I s loc infl room)
      (Emitted I inflate s loc room) := by
  unfold emit
  by_cases hmethod : loc.method = METHOD_DEFLATE
  · rw [if_pos hmethod]
    have hstays : Stays inflate s.zip loc :=
      hloc.elim (fun hexact => stays_of_ok hexact.1) fun hbroken => hbroken.2.2.2
    exact emitDeflate_spec hI hroom hmethod hstays h
  · rw [if_neg hmethod]
    have hexact : Exact inflate s.zip loc := hloc.resolve_right fun hbroken => hmethod hbroken.1
    exact emitStored_spec hmethod hexact h

/-! ### A block -/

/-- The stream stands at the components from the cursor on, `rest` of which is
    left. -/
structure Stands (I : Inflater δ) (inflate : Deflate)
    (s : LoadFileDataBlock) (infl : InflateCtx δ) (rest : List UInt8) (ok : Bool) : Prop where
  slots : s.locs.length = LFDB_COMPONENTS
  loadable : Loadable inflate s.zip (s.locs.drop s.comp)
  absent : s.locs[s.comp]?.join = none → s.cursor.emitted = 0
  reading : ∀ loc, s.locs[s.comp]?.join = some loc → Reading I inflate s.zip loc s.cursor infl
  rest : rest = (content inflate s.zip (s.locs.drop s.comp)).1.drop s.cursor.emitted
  ok : ok = (content inflate s.zip (s.locs.drop s.comp)).2

/-- At the start of a component. -/
theorem stands_new {s : LoadFileDataBlock} (infl : InflateCtx δ)
    (slots : s.locs.length = LFDB_COMPONENTS)
    (loadable : Loadable inflate s.zip (s.locs.drop s.comp)) (hnew : s.cursor = .new) :
    Stands I inflate s infl (content inflate s.zip (s.locs.drop s.comp)).1
      (content inflate s.zip (s.locs.drop s.comp)).2 where
  slots := slots
  loadable := loadable
  absent _ := by rw [hnew]; rfl
  reading loc _ := by rw [hnew]; exact reading_new s.zip loc infl
  rest := by rw [hnew]; rfl
  ok := rfl

/-- The components from one on that is there. -/
theorem drop_of_present {locs : Locs} {i : ℕ} {loc : CompLoc} (h : locs[i]?.join = some loc) :
    locs.drop i = some loc :: locs.drop (i + 1) := by
  have hget : locs[i]? = some (some loc) := by
    cases hi : locs[i]? with
    | none =>
      rw [hi] at h
      cases h
    | some loc? =>
      rw [hi] at h
      exact congrArg some h
  obtain ⟨hi, hloc⟩ := List.getElem?_eq_some_iff.mp hget
  rw [List.drop_eq_getElem_cons hi, hloc]

theorem lt_of_present {locs : Locs} {i : ℕ} {loc : CompLoc} (h : locs[i]?.join = some loc) :
    i < locs.length := by
  by_contra hover
  rw [List.getElem?_eq_none (by omega)] at h
  cases h

theorem mem_of_present {locs : Locs} {i : ℕ} {loc : CompLoc} (h : locs[i]?.join = some loc) :
    some loc ∈ locs := by
  have hmem : some loc ∈ locs.drop i := by
    rw [drop_of_present h]
    exact List.mem_cons_self
  exact List.mem_of_mem_drop hmem

/-- The components from one on that is absent. -/
theorem drop_of_absent {locs : Locs} {i : ℕ} (hi : i < locs.length) (h : locs[i]?.join = none) :
    locs.drop i = none :: locs.drop (i + 1) := by
  rw [List.drop_eq_getElem_cons hi]
  rw [List.getElem?_eq_getElem hi] at h
  congr 1

/-- Behind the last component nothing is left. -/
theorem Stands.ended {s : LoadFileDataBlock} {infl : InflateCtx δ} {rest : List UInt8} {ok : Bool}
    (h : Stands I inflate s infl rest ok) (hend : LFDB_COMPONENTS ≤ s.comp) :
    ok = true ∧ rest = [] := by
  have hslots := h.slots
  have hnothing : s.locs.drop s.comp = [] := List.drop_eq_nil_of_le (by omega)
  have hrest := h.rest
  have hok := h.ok
  rw [hnothing, content] at hrest hok
  exact ⟨hok, hrest.trans List.drop_nil⟩

/-- A component that is absent is passed over. -/
theorem Stands.skip {s : LoadFileDataBlock} {infl : InflateCtx δ} {rest : List UInt8} {ok : Bool}
    (h : Stands I inflate s infl rest ok) (habsent : s.locs[s.comp]?.join = none)
    (hcomp : s.comp < LFDB_COMPONENTS) : Stands I inflate s.advance infl rest ok := by
  have hslots := h.slots
  have hdrop := drop_of_absent (by omega) habsent
  have hloadable := h.loadable
  have hrest := h.rest
  have hok := h.ok
  rw [hdrop, content, h.absent habsent, List.drop_zero] at hrest
  rw [hdrop, content] at hok
  rw [hdrop] at hloadable
  rw [hrest, hok]
  exact stands_new infl hslots hloadable rfl

/-- The cursor lies in the component. -/
theorem Stands.within {s : LoadFileDataBlock} {infl : InflateCtx δ} {rest : List UInt8} {ok : Bool}
    (h : Stands I inflate s infl rest ok) {loc : CompLoc}
    (hloc : s.locs[s.comp]?.join = some loc) :
    s.cursor.emitted ≤ (compOctets inflate s.zip loc).1.length := by
  refine (h.reading loc hloc).within ?_
  have hloadable := h.loadable
  rw [drop_of_present hloc] at hloadable
  rcases hloadable with ⟨hexact, -⟩ | hbroken
  · exact stays_of_ok hexact.1
  · exact hbroken.2.2.2

/-- A component that is there, and what is left behind it. -/
theorem Stands.present {s : LoadFileDataBlock} {infl : InflateCtx δ} {rest : List UInt8} {ok : Bool}
    (h : Stands I inflate s infl rest ok) {loc : CompLoc}
    (hloc : s.locs[s.comp]?.join = some loc) :
    ∃ more : List UInt8,
      rest = (compOctets inflate s.zip loc).1.drop s.cursor.emitted ++ more ∧
      (Exact inflate s.zip loc ∧ Loadable inflate s.zip (s.locs.drop (s.comp + 1)) ∧
          more = (content inflate s.zip (s.locs.drop (s.comp + 1))).1 ∧
          ok = (content inflate s.zip (s.locs.drop (s.comp + 1))).2 ∨
        Broken inflate s.zip loc ∧ more = [] ∧ ok = false) := by
  have hdrop := drop_of_present hloc
  obtain ⟨more, hmore, hkind⟩ := content_loadable (hdrop ▸ h.loadable)
  refine ⟨more.1, ?_, ?_⟩
  · rw [h.rest, hdrop, hmore, List.drop_append_of_le_length (h.within hloc)]
  · rw [h.ok, hdrop]
    rcases hkind with ⟨hexact, hlocs, rfl, hok⟩ | ⟨hbroken, hnone, hno⟩
    · exact .inl ⟨hexact, hlocs, rfl, hok⟩
    · exact .inr ⟨hbroken, hnone, hno⟩

/-- The component is handed out as far as it is declared: it was not a broken one. -/
theorem Stands.over {s : LoadFileDataBlock} {infl infl' : InflateCtx δ} {rest : List UInt8}
    {ok : Bool} (h : Stands I inflate s infl rest ok) {loc : CompLoc} {c : CompCursor}
    (hloc : s.locs[s.comp]?.join = some loc) (hover : loc.uncompSize ≤ c.emitted) {k : ℕ}
    (hemitted : c.emitted = s.cursor.emitted + k)
    (hk : k ≤ (compOctets inflate s.zip loc).1.length - s.cursor.emitted) :
    Stands I inflate (advance { s with cursor := c }) infl' (rest.drop k) ok := by
  have hwithin := h.within hloc
  obtain ⟨more, hrest, ⟨hexact, hlocs, rfl, rfl⟩ | ⟨hbroken, -⟩⟩ := h.present hloc
  · have hlen := hexact.2
    have hleft : rest.drop k = (content inflate s.zip (s.locs.drop (s.comp + 1))).1 := by
      rw [hrest]
      apply List.drop_left'
      rw [List.length_drop]
      omega
    rw [hleft]
    exact stands_new infl' h.slots hlocs rfl
  · have := hbroken.2.2.1
    omega

/-- What one round of the loop does at a component: it hands out a piece of what
    is left, and stands behind it; or it fails, as what is left does. -/
theorem Stands.round (hI : Correct I inflate) {s : LoadFileDataBlock} {infl : InflateCtx δ}
    {rest : List UInt8} {ok : Bool} {room : ℕ} (h : Stands I inflate s infl rest ok)
    {loc : CompLoc} (hloc : s.locs[s.comp]?.join = some loc) (hroom : 0 < room) :
    (∃ e, emit I s loc infl room = .error e) ∧ ok = false ∨
    ∃ k c infl' next, emit I s loc infl room = .ok (rest.take k, { s with cursor := c }, infl') ∧
      k ≤ room ∧ k ≤ rest.length ∧ ¬(c.emitted < loc.uncompSize ∧ rest.take k = []) ∧
      (if c.emitted ≥ loc.uncompSize then advance { s with cursor := c }
        else { s with cursor := c }) = next ∧
      (∃ comp c, next = { s with comp := comp, cursor := c }) ∧
      Stands I inflate next infl' (rest.drop k) ok ∧
      (LFDB_COMPONENTS - next.comp) + (room - k) < (LFDB_COMPONENTS - s.comp) + room := by
  have hslots := h.slots
  have hreading := h.reading loc hloc
  have hwithin := h.within hloc
  obtain ⟨more, hrest, hkind⟩ := h.present hloc
  have hexactOrBroken : Exact inflate s.zip loc ∨ Broken inflate s.zip loc :=
    hkind.imp (fun hexact => hexact.1) fun hbroken => hbroken.1
  have hcomp : s.comp < LFDB_COMPONENTS := by
    rw [← hslots]
    exact lt_of_present hloc
  rcases emit_spec hI hroom hexactOrBroken hreading with
    ⟨⟨e, he⟩, hbroken⟩ | ⟨⟨s', infl'⟩, hout, ⟨c, hs', hreading', hemitted⟩, hshort⟩
  -- an exact component does not fail, so the one that fails is broken
  · left
    refine ⟨⟨e, he⟩, ?_⟩
    rcases hkind with ⟨hexact, -⟩ | ⟨-, -, hno⟩
    · rw [hexact.1] at hbroken
      cases hbroken
    · exact hno
  · right
    dsimp only at hs' hreading'
    subst hs'
    rw [List.length_drop] at hshort
    obtain ⟨k, hk⟩ : ∃ k, k = min room
      ((compOctets inflate s.zip loc).1.length - s.cursor.emitted) := ⟨_, rfl⟩
    have htake : ((compOctets inflate s.zip loc).1.drop s.cursor.emitted).take room =
        rest.take k := by
      rw [hrest, hk, List.take_append_of_le_length (by rw [List.length_drop]; omega),
        ← List.length_drop, ← List.take_eq_take_min]
    have hlen : k ≤ rest.length := by
      rw [hrest, List.length_append, List.length_drop]
      omega
    -- with room left, only a component that is over hands out nothing
    have hpiece : c.emitted < loc.uncompSize → k = room := by
      intro hleft
      rcases hexactOrBroken with hexact | hbroken
      · have := hexact.2
        omega
      · have := hshort hbroken.2.1
        omega
    have hguard : ¬(c.emitted < loc.uncompSize ∧ rest.take k = []) := by
      rintro ⟨hleft, hnil⟩
      have hnone := congrArg List.length hnil
      rw [List.length_take, List.length_nil] at hnone
      have := hpiece hleft
      omega
    rw [htake] at hout
    by_cases hover : c.emitted ≥ loc.uncompSize
    · refine ⟨k, c, infl', _, hout, by omega, hlen, hguard, if_pos hover,
        ⟨s.comp + 1, .new, rfl⟩, h.over hloc hover (hemitted.trans (by rw [hk])) (by omega), ?_⟩
      unfold advance
      dsimp only
      omega
    · -- the room is filled
      have hfilled := hpiece (Nat.lt_of_not_le hover)
      refine ⟨k, c, infl', _, hout, by omega, hlen, hguard, if_neg hover, ⟨s.comp, c, rfl⟩,
        ⟨hslots, h.loadable, ?_, ?_, ?_, h.ok⟩, ?_⟩
      · intro hnone
        rw [hloc] at hnone
        cases hnone
      · intro loc' hloc'
        obtain rfl := Option.some.inj (hloc.symm.trans hloc')
        exact hreading'
      · rw [h.rest, List.drop_drop, hemitted, hk]
      · dsimp only
        omega

/-- A block of components: the next octets, unless a component fails before. -/
theorem blockLoop_spec (hI : Correct I inflate) {fuel : ℕ} {s : LoadFileDataBlock}
    {infl : InflateCtx δ} {rest : List UInt8} {ok : Bool} {room : ℕ}
    (h : Stands I inflate s infl rest ok) (hfuel : (LFDB_COMPONENTS - s.comp) + room ≤ fuel) :
    HandsOut rest ok room (blockLoop I fuel s infl room) fun p =>
      (∃ comp c, p.1 = { s with comp := comp, cursor := c }) ∧
        Stands I inflate p.1 p.2 (rest.drop room) ok := by
  -- on the fuel, with what is left of the stream shrinking by each piece
  induction fuel generalizing s infl rest room with
  | zero =>
    obtain rfl : room = 0 := by omega
    exact .none ⟨⟨s.comp, s.cursor, rfl⟩, h⟩
  | succ fuel ih =>
    by_cases hroom : room = 0
    · subst hroom
      exact .none ⟨⟨s.comp, s.cursor, rfl⟩, h⟩
    · rw [blockLoop, if_neg hroom]
      cases hloc : s.locs[s.comp]?.join with
      | none =>
        dsimp only
        by_cases hend : s.comp ≥ LFDB_COMPONENTS
        · obtain ⟨hok, hrest⟩ := h.ended hend
          rw [if_pos hend]
          refine .ended hok hrest ⟨⟨s.comp, s.cursor, rfl⟩, ?_⟩
          rw [hrest, List.drop_nil, ← hrest]
          exact h
        · rw [if_neg hend]
          -- an absent component adds nothing to the stream
          have hnext := h.skip hloc (Nat.lt_of_not_le hend)
          refine (ih hnext (by unfold advance; dsimp only; omega)).mono ?_
          rintro ⟨s', infl'⟩ ⟨⟨comp, c, rfl⟩, hstands⟩
          exact ⟨⟨comp, c, rfl⟩, hstands⟩
      | some loc =>
        dsimp only
        rcases h.round hI hloc (Nat.pos_of_ne_zero hroom) with ⟨⟨e, he⟩, hbroken⟩ |
          ⟨k, c, infl', next, hout, hk, hlen, hguard, hnext, ⟨comp, c', rfl⟩, hstands, hrounds⟩
        · rw [he]
          exact .inl ⟨⟨e, rfl⟩, hbroken⟩
        · have htake : (rest.take k).length = k := List.length_take_of_le hlen
          have hblock := (ih hstands (by omega)).append hk hlen
          rw [← HandsOut.prepend_eq] at hblock
          rw [hout]
          dsimp only
          rw [if_neg hguard, hnext, htake]
          refine hblock.mono ?_
          rintro ⟨s₁, infl₁⟩ ⟨⟨comp₁, c₁, rfl⟩, hstands₁⟩
          rw [List.drop_drop, Nat.add_sub_cancel' hk] at hstands₁
          exact ⟨⟨comp₁, c₁, rfl⟩, hstands₁⟩

/-- `rest` is what is left of the stream: header octets, and components. -/
def Left (I : Inflater δ) (inflate : Deflate) (s : LoadFileDataBlock)
    (infl : InflateCtx δ) (rest : List UInt8) (ok : Bool) : Prop :=
  ∃ behind, rest = s.header.drop s.headerEmitted ++ behind ∧ Stands I inflate s infl behind ok

/-- A block is the next octets of the stream, unless a component fails before. -/
theorem nextBlock_spec (hI : Correct I inflate) {s : LoadFileDataBlock} {infl : InflateCtx δ}
    {rest : List UInt8} {ok : Bool} (h : Left I inflate s infl rest ok) (room : ℕ) :
    HandsOut rest ok room (nextBlock I s infl room) fun p =>
      Left I inflate p.1 p.2 (rest.drop room) ok := by
  obtain ⟨behind, hrest, hstands⟩ := h
  obtain ⟨k, hk⟩ : ∃ k, k = min room (s.header.drop s.headerEmitted).length := ⟨_, rfl⟩
  have hlen : (rest.take k).length = k := by
    rw [List.length_take, hrest, List.length_append]
    omega
  -- the header octets come first, and leave the rest of the room to the components
  have hhead : s.emitHeader room =
      (rest.take k, { s with headerEmitted := s.headerEmitted + k }) := by
    have htake : (s.header.drop s.headerEmitted).take room = rest.take k := by
      rw [hrest, List.take_append_of_le_length (by omega), hk, ← List.take_eq_take_min]
    rw [emitHeader, htake, hlen]
  have hstands' : Stands I inflate { s with headerEmitted := s.headerEmitted + k } infl behind ok :=
    ⟨hstands.slots, hstands.loadable, hstands.absent, hstands.reading, hstands.rest, hstands.ok⟩
  have hmore : HandsOut (rest.drop k) ok (room - k)
      (blockLoop I (blockFuel room) { s with headerEmitted := s.headerEmitted + k } infl (room - k))
      fun p => Left I inflate p.1 p.2 (rest.drop room) ok := by
    by_cases hfilled : room < (s.header.drop s.headerEmitted).length
    · -- the header fills the block
      obtain rfl : k = room := by omega
      rw [Nat.sub_self]
      refine .none ⟨behind, ?_, hstands'⟩
      rw [hrest, List.drop_append_of_le_length (by omega), List.drop_drop]
    · have hdrop : rest.drop k = behind := by
        rw [hrest]
        exact List.drop_left' (by omega)
      have hfuel : LFDB_COMPONENTS - s.comp + (room - k) ≤ blockFuel room := by
        unfold blockFuel
        omega
      rw [hdrop]
      refine (blockLoop_spec hI hstands' hfuel).mono ?_
      rintro ⟨s₁, infl₁⟩ ⟨⟨comp, c, rfl⟩, hstands₁⟩
      refine ⟨behind.drop (room - k), ?_, hstands₁⟩
      have hnone : s.header.drop (s.headerEmitted + k) = [] := by
        rw [← List.drop_drop]
        exact List.drop_eq_nil_of_le (by omega)
      dsimp only
      rw [hnone, List.nil_append, ← hdrop, List.drop_drop, Nat.add_sub_cancel' (by omega)]
  have hall := hmore.append (by omega) (by rw [hrest, List.length_append]; omega)
  rw [← HandsOut.prepend_eq] at hall
  unfold nextBlock
  rw [hhead]
  dsimp only
  rw [hlen]
  exact hall

/-! ### The whole stream -/

theorem toNat_lengthByte (n shift : ℕ) : (lengthByte n shift).toNat = n / 2 ^ shift % 256 := by
  rw [lengthByte, UInt8.toNat_ofNat', Nat.shiftRight_eq_div_pow]

/-- A long form that does not start with a zero octet is minimal. -/
theorem isMinimalLength_long {c b : UInt8} {bs : List UInt8} {n : ℕ} (hn : 128 ≤ n)
    (hc : c.toNat = 128 + (b :: bs).length) (hlen : (b :: bs).length ≤ 8) (hb : b ≠ 0)
    (hread : n = readBE (b :: bs)) : Tlv.IsMinimalLength (c :: b :: bs) n := by
  refine ⟨.inr ⟨hc, by simp, hlen, hread⟩, .inr ⟨hn, ?_⟩⟩
  rintro b' bs' h
  obtain ⟨rfl, -⟩ := List.cons.inj h
  exact hb

/-- The header is the tag and the length in its minimal definite form. -/
theorem lfdbHeader_eq {n : ℕ} (h : n < 2 ^ 24) : lfdbHeader n = 0xC4 :: Tlv.lengthOctets n := by
  have hzero : ∀ b : UInt8, b.toNat ≠ 0 → b ≠ 0 := by
    rintro b hb rfl
    exact hb rfl
  have h0 := toNat_lengthByte n 0
  have h8 := toNat_lengthByte n 8
  have h16 := toNat_lengthByte n 16
  unfold lfdbHeader
  -- the four branches of the source, against the minimal form of each length
  by_cases hshort : n < 0x80
  · rw [if_pos hshort]
    have hmin : Tlv.IsMinimalLength [lengthByte n 0] n :=
      ⟨.inl ⟨by omega, rfl, by omega⟩, .inl rfl⟩
    rw [hmin.eq_lengthOctets]
  · rw [if_neg hshort]
    by_cases hone : n ≤ 0xFF
    · have hmin : Tlv.IsMinimalLength [0x81, lengthByte n 0] n := by
        refine isMinimalLength_long (by omega) rfl (by simp) (hzero _ (by omega)) ?_
        simp only [readBE, List.foldl]
        omega
      rw [if_pos hone, hmin.eq_lengthOctets]
    · rw [if_neg hone]
      by_cases htwo : n ≤ 0xFFFF
      · have hmin : Tlv.IsMinimalLength [0x82, lengthByte n 8, lengthByte n 0] n := by
          refine isMinimalLength_long (by omega) rfl (by simp) (hzero _ (by omega)) ?_
          simp only [readBE, List.foldl]
          omega
        rw [if_pos htwo, hmin.eq_lengthOctets]
      · have hmin : Tlv.IsMinimalLength
            [0x83, lengthByte n 16, lengthByte n 8, lengthByte n 0] n := by
          refine isMinimalLength_long (by omega) rfl (by simp) (hzero _ (by omega)) ?_
          simp only [readBE, List.foldl]
          omega
        rw [if_neg htwo, hmin.eq_lengthOctets]

/-- The stream of a CAP: the header with the declared length, and the components. -/
def CapFile.stream (inflate : Deflate) (cap : CapFile) : List UInt8 :=
  lfdbHeader (contentLen cap.locs) ++ (content inflate cap.zip cap.locs).1

/-- The load file of a CAP: the tag, the length of the content and the content. -/
def loadFile (inflate : Deflate) (cap : CapFile) : List UInt8 :=
  0xC4 :: (Tlv.lengthOctets (content inflate cap.zip cap.locs).1.length ++
    (content inflate cap.zip cap.locs).1)

/-- The length of the stream is the one declared, or a component fails short of it. -/
theorem length_stream {cap : CapFile} (h : Loadable inflate cap.zip cap.locs) :
    if (content inflate cap.zip cap.locs).2 then (cap.stream inflate).length = cap.lfdb.len
    else (cap.stream inflate).length < cap.lfdb.len := by
  have hlen : cap.lfdb.len = (lfdbHeader (contentLen cap.locs)).length + contentLen cap.locs := rfl
  have := length_content h
  rw [CapFile.stream, List.length_append, hlen]
  split at this
  · next hok => rw [if_pos hok, this]
  · next hok =>
    rw [if_neg hok]
    omega

/-- The stream is the load file, if no component fails and the length has three
    octets at most. -/
theorem stream_eq_loadFile {cap : CapFile} (h : Loadable inflate cap.zip cap.locs)
    (hok : (content inflate cap.zip cap.locs).2 = true) (hlen : contentLen cap.locs < 2 ^ 24) :
    cap.stream inflate = loadFile inflate cap ∧ (cap.stream inflate).length = cap.lfdb.len := by
  have hcontent := length_content h
  rw [if_pos hok] at hcontent
  have hstream := length_stream h
  rw [if_pos hok] at hstream
  refine ⟨?_, hstream⟩
  rw [CapFile.stream, lfdbHeader_eq hlen, ← hcontent]
  rfl

/-- A fresh stream has all of it left, whatever the context holds. -/
theorem left_lfdb {cap : CapFile} (hslots : cap.locs.length = LFDB_COMPONENTS)
    (hloadable : Loadable inflate cap.zip cap.locs) (infl : InflateCtx δ) :
    Left I inflate cap.lfdb infl (cap.stream inflate) (content inflate cap.zip cap.locs).2 :=
  ⟨_, rfl, stands_new infl hslots hloadable rfl⟩

end inflating

/-! ### What is parsed -/

theorem length_walkEntries {zip : List UInt8} {n pos : ℕ} {locs locs' : Locs}
    (h : walkEntries zip n pos locs = .ok locs') : locs'.length = locs.length := by
  induction n generalizing pos locs with
  | zero =>
    obtain rfl := Except.ok.inj h
    rfl
  | succ n ih =>
    obtain ⟨e, -, h⟩ := bind_eq_ok.mp h
    obtain ⟨locs₁, hlocate, h⟩ := bind_eq_ok.mp h
    rw [ih h]
    unfold locate at hlocate
    split at hlocate
    · rw [Except.ok.inj hlocate]
    · split at hlocate
      · rw [Except.ok.inj hlocate]
      · obtain ⟨dataOff, -, hlocate⟩ := bind_eq_ok.mp hlocate
        rw [← Except.ok.inj hlocate, List.length_set]

theorem length_walkZip {zip : List UInt8} {locs : Locs} (h : walkZip zip = .ok locs) :
    locs.length = LFDB_COMPONENTS := by
  obtain ⟨_, -, h⟩ := bind_eq_ok.mp h
  obtain ⟨_, -, h⟩ := bind_eq_ok.mp h
  obtain ⟨_, -, h⟩ := bind_eq_ok.mp h
  rw [length_walkEntries h, List.length_replicate]

/-- The components of a CAP are those that the walk found. -/
theorem parse_walk {I : Inflater δ} {zip : List UInt8} {infl infl' : InflateCtx δ} {cap : CapFile}
    (h : parse I zip infl = .ok (cap, infl')) : cap.zip = zip ∧ walkZip zip = .ok cap.locs := by
  obtain ⟨locs, hlocs, h⟩ := bind_eq_ok.mp h
  obtain ⟨_, -, h⟩ := bind_eq_ok.mp h
  obtain ⟨_, -, h⟩ := bind_eq_ok.mp h
  obtain ⟨_, -, h⟩ := bind_eq_ok.mp h
  obtain ⟨_, -, h⟩ := bind_eq_ok.mp h
  obtain ⟨_, -, h⟩ := bind_eq_ok.mp h
  obtain ⟨rfl, -⟩ := Prod.mk.inj (Except.ok.inj h)
  exact ⟨rfl, hlocs⟩

/-- A CAP has one place for each component. -/
theorem parse_ok {I : Inflater δ} {zip : List UInt8} {infl infl' : InflateCtx δ} {cap : CapFile}
    (h : parse I zip infl = .ok (cap, infl')) :
    cap.zip = zip ∧ cap.locs.length = LFDB_COMPONENTS := by
  obtain ⟨hzip, hwalk⟩ := parse_walk h
  exact ⟨hzip, length_walkZip hwalk⟩

end Cap

end Scll
