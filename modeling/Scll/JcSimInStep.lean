import Scll.JcSim
import Scll.Framework.Run
import Mathlib.Data.List.Chain

/-! # The framing of the simulator adapter stays in step

    A connection is in step when nothing is under way on it: no part of a
    request that the bridge still waits for, and no octet of a response that
    was not read. From there a `transmit` that returns a response returns the
    one the bridge sent for that command, and it leaves the connection in step
    exactly when no write stops half-way, no read is cut and the response is no
    longer than an R-APDU. After any other `transmit` only a `reset` brings the
    connection back into step, and nothing in the adapter asks for it.
-/

namespace Scll

open Octets Framing Run

namespace JcSim

variable {κ : Type}

/-- Nothing is under way on the connection, or it is shut and takes no request. -/
def InStep (t : JcSimTransport κ) : Prop :=
  t.stream.shut = true ∨ t.stream.pending = [] ∧ t.stream.unread = []

variable {t : JcSimTransport κ}

/-! ### The response -/

/-- The two reads of `transmit`. -/
def receiveResponse (io : ExchangeIo) : Prog (JcSimTransport κ) TransportError Rapdu := do
  let lenBuf ← orFail (readExact io.readLength 4)
  if readBE lenBuf > RAPDU_MAX then Prog.fail .protocolError
  else
    let body ← orFail (readExact io.readBody (readBE lenBuf))
    Prog.lift (rapduOf body)

/-- The response is short, and both reads get all of it. -/
structure Received (io : ExchangeIo) (response : List UInt8) : Prop where
  length : io.readLength = .done
  short : response.length ≤ RAPDU_MAX
  body : response ≠ [] → io.readBody = .done

theorem readExact_zero (io : Io) (t : JcSimTransport κ) : readExact io 0 t = (.ok [], t) := rfl

theorem readExact_done {n : ℕ} (h : n ≤ t.stream.unread.length) :
    readExact .done n t = (.ok (t.stream.unread.take n), consume n t) := by
  unfold readExact
  by_cases hn : n = 0
  · rw [if_pos hn, hn]
    rfl
  · rw [if_neg hn, if_pos h]

theorem orFail_ok {α : Type} {m : Prog (JcSimTransport κ) IoError α} {a : α}
    {t' : JcSimTransport κ} (h : m t = (.ok a, t')) : orFail m t = (.ok a, t') := by
  unfold orFail
  rw [h]

theorem orFail_error {α : Type} {m : Prog (JcSimTransport κ) IoError α} {e : IoError}
    {t' : JcSimTransport κ} (h : m t = (.error e, t')) :
    orFail m t = (.error (fail e t').1, (fail e t').2) := by
  unfold orFail
  rw [h]

/-- The reads of one response frame: the response, with nothing left, or an error
    with some of the frame left. -/
theorem receiveResponse_cases (io : ExchangeIo) {response : List UInt8}
    (hresponse : response.length < 256 ^ 4) (hunread : t.stream.unread = frame 4 response) :
    (Received io response ∧ ∃ rapdu t', receiveResponse io t = (.ok rapdu, t') ∧
      rapdu.octets = response ∧ t' = consume (4 + response.length) t) ∨
    (¬Received io response ∧ ∃ e t', receiveResponse io t = (.error e, t') ∧
      t'.stream.unread ≠ [] ∧ t'.stream.shut = t.stream.shut) := by
  have hleft : ∀ k, k < 4 + response.length → (frame 4 response).drop k ≠ [] := by
    intro k hk h
    have := congrArg List.length h
    rw [List.length_drop, length_frame, List.length_nil] at this
    omega
  have htake : (frame 4 response).take 4 = writeBE 4 response.length :=
    List.take_left' (length_writeBE 4 _)
  have hdrop : (frame 4 response).drop 4 = response :=
    List.drop_left' (length_writeBE 4 _)
  unfold receiveResponse
  cases hlength : io.readLength with
  | cut moved e =>
    refine .inr ⟨fun h => ?_, _, _, Prog.bind_error (orFail_error rfl), ?_, rfl⟩
    · rw [h.length] at hlength
      cases hlength
    · show (t.stream.unread.drop (min moved 3)) ≠ []
      -- a length that is cut leaves an octet of it unread
      rw [hunread]
      exact hleft _ (by omega)
  | done =>
    have hfirst : orFail (readExact .done 4) t = (.ok (writeBE 4 response.length), consume 4 t) := by
      apply orFail_ok
      rw [readExact_done, hunread, htake]
      rw [hunread, length_frame]
      omega
    have hrest : (consume 4 t).stream.unread = response := by
      show t.stream.unread.drop 4 = response
      rw [hunread, hdrop]
    rw [Prog.bind_ok hfirst, readBE_writeBE 4 _ hresponse]
    by_cases hlong : response.length > RAPDU_MAX
    · rw [if_pos hlong]
      -- the body that is refused is still in the stream
      refine .inr ⟨fun h => absurd h.short (Nat.not_le.mpr hlong), _, _, Prog.fail_run _ _, ?_, rfl⟩
      rw [hrest]
      intro h
      rw [h] at hlong
      cases hlong
    · rw [if_neg hlong]
      have hsecond : (response ≠ [] → io.readBody = .done) →
          orFail (readExact io.readBody response.length) (consume 4 t) =
            (.ok response, consume (4 + response.length) t) := by
        intro hbody
        have hconsume : consume response.length (consume 4 t) = consume (4 + response.length) t := by
          simp [consume, List.drop_drop]
        apply orFail_ok
        rw [← hconsume]
        by_cases hempty : response = []
        · rw [hempty, List.length_nil, readExact_zero]
          rfl
        · rw [hbody hempty, readExact_done (Nat.le_of_eq (by rw [hrest])), hrest,
            List.take_length]
      by_cases hbody : response ≠ [] → io.readBody = .done
      · refine .inl ⟨⟨hlength, Nat.le_of_not_lt hlong, hbody⟩,
          ⟨response, Nat.le_of_not_lt hlong⟩, _, ?_, rfl, rfl⟩
        rw [Prog.bind_ok (hsecond hbody), Prog.lift_run, rapduOf,
          dif_pos (Nat.le_of_not_lt hlong)]
      · obtain ⟨hempty, hcut⟩ := Classical.not_imp.mp hbody
        cases hio : io.readBody with
        | done => exact absurd hio hcut
        | cut moved e =>
          have hlen : 0 < response.length := List.length_pos_iff.mpr hempty
          -- a body that is cut leaves an octet unread as well
          have hread : readExact (.cut moved e) response.length (consume 4 t) =
              (.error e, consume (min moved (response.length - 1)) (consume 4 t)) := by
            unfold readExact
            rw [if_neg (Nat.ne_of_gt hlen)]
          refine .inr ⟨fun h => hbody h.body, _, _,
            Prog.bind_error (orFail_error hread), ?_, rfl⟩
          show ((consume 4 t).stream.unread.drop (min moved (response.length - 1))) ≠ []
          rw [hrest]
          intro h
          have := congrArg List.length h
          rw [List.length_drop, List.length_nil] at this
          omega

/-! ### What the bridge has received -/

theorem setPending_self (h : t.stream.pending = []) : setPending [] t = t := by
  unfold setPending
  rw [← h]

variable [Bridge κ]

@[simp] theorem serve_setPending (t : JcSimTransport κ) (pending request : List UInt8) :
    serve (setPending pending t) request = setPending pending (serve t request) := rfl

theorem foldl_serve_setPending (requests : List (List UInt8)) (t : JcSimTransport κ)
    (pending : List UInt8) :
    requests.foldl serve (setPending pending t) = setPending pending (requests.foldl serve t) := by
  induction requests generalizing t with
  | nil => rfl
  | cons request requests ih => rw [List.foldl_cons, serve_setPending, ih, List.foldl_cons]

/-- Two deliveries are one. -/
theorem deliver_deliver (as bs : List UInt8) (t : JcSimTransport κ) :
    deliver bs (deliver as t) = deliver (as ++ bs) t := by
  unfold deliver
  simp only [foldl_serve_setPending]
  rw [show (setPending (splitFrames 4 (t.stream.pending ++ as)).2
      ((splitFrames 4 (t.stream.pending ++ as)).1.foldl serve t)).stream.pending =
      (splitFrames 4 (t.stream.pending ++ as)).2 from rfl,
    ← List.append_assoc t.stream.pending as bs,
    splitFrames_append (by decide) (t.stream.pending ++ as) bs, List.foldl_append]
  rfl

variable {capdu : List UInt8}

/-- A request frame brings the response to it. -/
theorem deliver_frame (h : t.stream.pending = []) (hcapdu : capdu.length < 256 ^ 4) :
    deliver (frame 4 capdu) t = serve t capdu := by
  unfold deliver
  rw [h, List.nil_append, splitFrames_frame (by decide) hcapdu]
  simp only [List.foldl_cons, List.foldl_nil, setPending_self h]

/-- A part of a request frame stays with the bridge. -/
theorem deliver_part (h : t.stream.pending = []) (hcapdu : capdu.length < 256 ^ 4) {k : ℕ}
    (hk : k < 4 + capdu.length) :
    deliver ((frame 4 capdu).take k) t = setPending ((frame 4 capdu).take k) t := by
  unfold deliver
  rw [h, List.nil_append, splitFrames_part hcapdu hk]
  rfl

/-! ### The request -/

/-- The two writes of `transmit`. -/
def sendRequest (io : ExchangeIo) (capdu : List UInt8) : Prog (JcSimTransport κ) IoError Unit := do
  writeAll io.writeLength (writeBE 4 capdu.length)
  writeAll io.writeBody capdu

/-- Both writes do all they were asked to. -/
structure Written (io : ExchangeIo) (capdu : List UInt8) : Prop where
  length : io.writeLength = .done
  body : capdu ≠ [] → io.writeBody = .done

/-- The first write fails before its first octet. -/
def Unwritten (io : ExchangeIo) : Prop := ∃ e, io.writeLength = .cut 0 e

theorem writeLength_eq_take (capdu : List UInt8) (k : ℕ) (hk : k ≤ 4) :
    (writeBE 4 capdu.length).take k = (frame 4 capdu).take k := by
  rw [frame, List.take_append_of_le_length]
  rw [length_writeBE]
  exact hk

theorem writeAll_nil (io : Io) (t : JcSimTransport κ) : writeAll io [] t = (.ok (), t) := rfl

theorem writeAll_run (io : Io) {bs : List UInt8} (hbs : bs ≠ [])
    (hshut : t.stream.shut = false) :
    writeAll io bs t = match io with
      | .done => (.ok (), deliver bs t)
      | .cut moved e => (.error e, deliver (bs.take (min moved (bs.length - 1))) t) := by
  unfold writeAll
  rw [if_neg hbs, hshut]
  rfl

/-- The writes on a connection in step: all of the request, none of it, or a part
    that stays with the bridge. -/
theorem sendRequest_cases (io : ExchangeIo) (hshut : t.stream.shut = false)
    (hpending : t.stream.pending = []) (hcapdu : capdu.length < 256 ^ 4) :
    (Written io capdu ∧ sendRequest io capdu t = (.ok (), serve t capdu)) ∨
    (Unwritten io ∧ ∃ e, sendRequest io capdu t = (.error e, t)) ∨
    (¬Written io capdu ∧ ¬Unwritten io ∧ ∃ e part, part ≠ [] ∧
      sendRequest io capdu t = (.error e, setPending part t)) := by
  have hne : writeBE 4 capdu.length ≠ [] := by
    intro h
    have := congrArg List.length h
    rw [length_writeBE] at this
    cases this
  have hpart : ∀ k, 0 < k → (frame 4 capdu).take k ≠ [] := by
    intro k hk h
    have := congrArg List.length h
    rw [List.length_take, length_frame, List.length_nil] at this
    omega
  -- the body is written only after the whole length
  cases hlength : io.writeLength with
  | cut moved e =>
    have hwritten : ¬Written io capdu := fun h => by
      rw [h.length] at hlength
      cases hlength
    have hsend : sendRequest io capdu t =
        (.error e, deliver ((writeBE 4 capdu.length).take
          (min moved ((writeBE 4 capdu.length).length - 1))) t) := by
      apply Prog.bind_error
      rw [writeAll_run _ hne hshut, hlength]
    rw [length_writeBE, writeLength_eq_take capdu _ (by omega),
      deliver_part hpending hcapdu (by omega)] at hsend
    by_cases hmoved : moved = 0
    · refine .inr (.inl ⟨⟨e, by rw [hlength, hmoved]⟩, e, ?_⟩)
      rw [hsend, hmoved, Nat.zero_min, List.take_zero, setPending_self hpending]
    · refine .inr (.inr ⟨hwritten, ?_, e, _, hpart _ (by omega), hsend⟩)
      intro ⟨_, h⟩
      rw [hlength] at h
      cases h
      exact hmoved rfl
  | done =>
    have hfirst : writeAll io.writeLength (writeBE 4 capdu.length) t =
        (.ok (), deliver (writeBE 4 capdu.length) t) := by
      rw [writeAll_run _ hne hshut, hlength]
    have hunwritten : ¬Unwritten io := fun ⟨_, h⟩ => by
      rw [hlength] at h
      cases h
    have hsend : sendRequest io capdu t =
        writeAll io.writeBody capdu (deliver (writeBE 4 capdu.length) t) :=
      Prog.bind_ok hfirst
    by_cases hempty : capdu = []
    · refine .inl ⟨⟨hlength, fun h => absurd hempty h⟩, ?_⟩
      rw [hsend, ← deliver_frame hpending hcapdu, frame, hempty, List.append_nil, writeAll_nil]
    · have hlen : 0 < capdu.length := List.length_pos_iff.mpr hempty
      have hshut' : (deliver (writeBE 4 capdu.length) t).stream.shut = false := by
        rw [← List.take_of_length_le (Nat.le_of_eq (length_writeBE 4 capdu.length)),
          writeLength_eq_take capdu 4 le_rfl, deliver_part hpending hcapdu (by omega)]
        exact hshut
      rw [writeAll_run _ hempty hshut'] at hsend
      cases hbody : io.writeBody with
      | done =>
        refine .inl ⟨⟨hlength, fun _ => hbody⟩, ?_⟩
        rw [hsend, hbody, ← deliver_frame hpending hcapdu, frame, ← deliver_deliver]
      | cut moved e =>
        refine .inr (.inr ⟨fun h => ?_, hunwritten, e,
          (frame 4 capdu).take (4 + min moved (capdu.length - 1)), hpart _ (by omega), ?_⟩)
        · rw [h.body hempty] at hbody
          cases hbody
        · have htake : (frame 4 capdu).take (4 + min moved (capdu.length - 1)) =
              writeBE 4 capdu.length ++ capdu.take (min moved (capdu.length - 1)) := by
            rw [frame, ← List.take_length_add_append, length_writeBE]
          rw [hsend, hbody, ← deliver_part hpending hcapdu (by omega), htake, ← deliver_deliver]

/-! ### One transmit -/

/-- What the operating system will make of the reads and writes of the next call. -/
def upcoming (t : JcSimTransport κ) : ExchangeIo := t.net.exchanges.head?.getD .calm

/-- The schedule after it. -/
def advance (t : JcSimTransport κ) : JcSimTransport κ :=
  { t with net := { t.net with exchanges := t.net.exchanges.tail } }

theorem transmit_long (h : MAX_FRAME < capdu.length) :
    transmit capdu t = (.error .protocolError, t) := by
  have hlen : (tryU32 capdu.length).filter (· ≤ MAX_FRAME) = none := by
    unfold tryU32
    split
    · simp [Option.filter, h]
    · rfl
  unfold transmit
  rw [hlen]
  rfl

theorem transmit_eq (h : capdu.length ≤ MAX_FRAME) :
    transmit capdu t =
      (orFail (sendRequest (upcoming t) capdu) >>= fun _ => receiveResponse (upcoming t))
        (advance t) := by
  have hlen : (tryU32 capdu.length).filter (· ≤ MAX_FRAME) = some capdu.length := by
    have hsmall : capdu.length < 2 ^ 32 := Nat.lt_of_le_of_lt h (by decide)
    rw [tryU32, if_pos hsmall]
    simp [Option.filter, h]
  unfold transmit
  rw [hlen]
  rfl

/-- Nothing is left behind by a transmit that is refused before it writes, or that
    writes nothing, or that writes its request whole and reads all of a response
    no longer than an R-APDU. -/
inductive Smooth (t : JcSimTransport κ) (capdu : List UInt8) : Prop where
  | refused (long : MAX_FRAME < capdu.length)
  | shut (shut : t.stream.shut = true)
  | unwritten (unwritten : Unwritten (upcoming t))
  | whole (written : Written (upcoming t) capdu)
      (received : Received (upcoming t) (Bridge.answer t.net.bridge capdu).1.octets)

theorem not_smooth (hlong : capdu.length ≤ MAX_FRAME) (hshut : t.stream.shut = false)
    (hunwritten : ¬Unwritten (upcoming t))
    (hwhole : Written (upcoming t) capdu →
      ¬Received (upcoming t) (Bridge.answer t.net.bridge capdu).1.octets) : ¬Smooth t capdu := by
  intro h
  cases h with
  | refused long => exact absurd long (Nat.not_lt.mpr hlong)
  | shut shut =>
    rw [hshut] at shut
    cases shut
  | unwritten unwritten => exact hunwritten unwritten
  | whole written received => exact hwhole written received

omit [Bridge κ] in
theorem not_inStep (hshut : t.stream.shut = false)
    (hleft : t.stream.pending ≠ [] ∨ t.stream.unread ≠ []) : ¬InStep t := by
  intro h
  rcases h with h | ⟨hpending, hunread⟩
  · rw [hshut] at h
    cases h
  · rcases hleft with hleft | hleft
    · exact hleft hpending
    · exact hleft hunread

/-- Nothing is written to a connection that is shut. -/
theorem sendRequest_shut (io : ExchangeIo) (hshut : t.stream.shut = true) (capdu : List UInt8) :
    sendRequest io capdu t = (.error ⟨.brokenPipe, []⟩, t) := by
  have hne : writeBE 4 capdu.length ≠ [] := List.ne_nil_of_length_pos (by simp)
  apply Prog.bind_error
  unfold writeAll
  rw [if_neg hne, if_pos hshut]

/-- The transmits of a connection in step: it is in step afterwards exactly when
    nothing is left behind, and what is returned is the response to the command. -/
theorem transmit_spec (h : InStep t) (capdu : List UInt8) :
    (InStep (transmit capdu t).2 ↔ Smooth t capdu) ∧
    ∀ rapdu, (transmit capdu t).1 = .ok rapdu →
      (transmit capdu t).2.stream.answered = t.stream.answered ++ [(capdu, rapdu.octets)] := by
  by_cases hlong : MAX_FRAME < capdu.length
  · rw [transmit_long hlong]
    exact ⟨⟨fun _ => .refused hlong, fun _ => h⟩, fun _ hrun => by cases hrun⟩
  have hfits : capdu.length ≤ MAX_FRAME := Nat.le_of_not_lt hlong
  have hcapdu : capdu.length < 256 ^ 4 := Nat.lt_of_le_of_lt hfits (by decide)
  rw [transmit_eq hfits]
  by_cases hopen : t.stream.shut = true
  · rw [Prog.bind_error (orFail_error (sendRequest_shut (t := advance t) _ hopen capdu))]
    exact ⟨⟨fun _ => .shut hopen, fun _ => .inl hopen⟩, fun _ hrun => by cases hrun⟩
  have hshut : (advance t).stream.shut = false := Bool.not_eq_true _ ▸ hopen
  obtain ⟨hpending, hunread⟩ := h.resolve_left hopen
  rcases sendRequest_cases (upcoming t) hshut hpending hcapdu with
    ⟨hwritten, hsend⟩ | ⟨hunwritten, e, hsend⟩ | ⟨hwritten, hunwritten, e, part, hpart, hsend⟩
  · have hnot : ¬Unwritten (upcoming t) := fun ⟨_, hcut⟩ => by
      rw [hwritten.length] at hcut
      cases hcut
    have hframe : (serve (advance t) capdu).stream.unread =
        frame 4 (Bridge.answer t.net.bridge capdu).1.octets := by
      show t.stream.unread ++ _ = _
      rw [hunread, List.nil_append]
      rfl
    rw [Prog.bind_ok (orFail_ok hsend)]
    rcases receiveResponse_cases (upcoming t) (Bridge.answer t.net.bridge capdu).1.fits hframe with
      ⟨hreceived, rapdu, t', hread, hoctets, rfl⟩ | ⟨hreceived, e, t', hread, hleft, hkept⟩
    · rw [hread]
      refine ⟨⟨fun _ => .whole hwritten hreceived, fun _ => .inr ⟨hpending, ?_⟩⟩, ?_⟩
      · show (serve (advance t) capdu).stream.unread.drop _ = []
        rw [hframe, ← length_frame, List.drop_length]
      · intro rapdu' hrun
        obtain rfl := Except.ok.inj hrun
        rw [hoctets]
        rfl
    · rw [hread]
      refine ⟨⟨fun hstep => ?_, fun hsmooth => ?_⟩, fun _ hrun => by cases hrun⟩
      · exact absurd hstep (not_inStep (hkept.trans hshut) (.inr hleft))
      · exact absurd hsmooth (not_smooth hfits hshut hnot fun _ => hreceived)
  · rw [Prog.bind_error (orFail_error hsend)]
    exact ⟨⟨fun _ => .unwritten hunwritten, fun _ => .inr ⟨hpending, hunread⟩⟩,
      fun _ hrun => by cases hrun⟩
  · rw [Prog.bind_error (orFail_error hsend)]
    refine ⟨⟨fun hstep => ?_, fun hsmooth => ?_⟩, fun _ hrun => by cases hrun⟩
    · exact absurd hstep (not_inStep hshut (.inl hpart))
    · exact absurd hsmooth (not_smooth hfits hshut hunwritten fun h => absurd h hwritten)

/-! ### Reset -/

theorem openStream_fresh {net net' : Net κ} {stream : TcpStream}
    (h : openStream net = (.ok stream, net')) : stream = .fresh := by
  unfold openStream at h
  dsimp only at h
  split at h
  · cases h
  · split at h
    · cases h
    · cases h
    · exact (Except.ok.inj (Prod.mk.inj h).1).symm

/-- A reset leaves a fresh connection, or one that is shut. -/
theorem reset_inStep (t : JcSimTransport κ) : InStep (reset t).2 := by
  cases hopen : openStream t.net with
  | mk r net =>
    cases r with
    | error e =>
      have hreset : (reset t).2 = { shutdown t with connected := false, net := net } := by
        unfold reset
        simp only [Prog.bind_run, Prog.update_run, Prog.zoom, shutdown, hopen]
      rw [hreset]
      exact .inl rfl
    | ok stream =>
      have hreset : (reset t).2 = ⟨stream, true, net⟩ := by
        unfold reset
        simp only [Prog.bind_run, Prog.update_run, Prog.zoom, shutdown, hopen]
        rfl
      rw [hreset, openStream_fresh hopen]
      exact .inr ⟨rfl, rfl⟩

theorem connect_inStep {net : Net κ} {t : JcSimTransport κ} (h : connect net = .ok t) :
    InStep t := by
  unfold connect at h
  split at h
  · next stream net' hopen =>
    obtain rfl := Except.ok.inj h
    rw [openStream_fresh hopen]
    exact .inr ⟨rfl, rfl⟩
  · cases h

/-! ### Runs -/

/-- A call on the transport. -/
inductive Call where
  | transmit (capdu : List UInt8)
  | reset

inductive Reply where
  | rapdu (rapdu : Rapdu)
  | atr (atr : AtrAts)

def perform : Call → Prog (JcSimTransport κ) TransportError Reply
  | .transmit capdu => do
    let rapdu ← transmit capdu
    pure (.rapdu rapdu)
  | .reset => do
    let atr ← reset
    pure (.atr atr)

/-- One call. -/
def callStep (call : Call) (t : JcSimTransport κ) :
    Except TransportError Reply × JcSimTransport κ :=
  perform call t

/-- A transmit that returns a response returns the one response the bridge sent
    to that very command. -/
def OwnResponse (e : Event (JcSimTransport κ) Call (Except TransportError Reply)) : Prop :=
  ∀ capdu rapdu, e.op = .transmit capdu → e.out = .ok (.rapdu rapdu) →
    e.after.stream.answered = e.before.stream.answered ++ [(capdu, rapdu.octets)]

/-- Whatever a transmit leaves behind, the next call clears away. -/
def Cleared (e e' : Event (JcSimTransport κ) Call (Except TransportError Reply)) : Prop :=
  ∀ capdu, e.op = .transmit capdu → ¬Smooth e.before capdu → e'.op = .reset

theorem callStep_transmit (capdu : List UInt8) (t : JcSimTransport κ) :
    (callStep (.transmit capdu) t).2 = (transmit capdu t).2 ∧
    ∀ rapdu, (callStep (.transmit capdu) t).1 = .ok (.rapdu rapdu) →
      (transmit capdu t).1 = .ok rapdu := by
  simp only [callStep, perform, Prog.bind_run]
  split
  · next r t' hrun =>
    rw [hrun]
    refine ⟨rfl, fun rapdu h => ?_⟩
    obtain rfl := Reply.rapdu.inj (Except.ok.inj h)
    rfl
  · next e t' hrun =>
    rw [hrun]
    exact ⟨rfl, fun _ h => by cases h⟩

theorem callStep_reset (t : JcSimTransport κ) : (callStep .reset t).2 = (reset t).2 := by
  simp only [callStep, perform, Prog.bind_run]
  split
  · next r t' hrun => rw [hrun]; rfl
  · next e t' hrun => rw [hrun]

/-- The framing stays in step in a run where a reset comes after every transmit
    that leaves something behind: every response returned is the one the bridge
    sent for that command. The induction is on the calls; a connection out of
    step meets only a reset. -/
theorem responses_stay_in_step (net : Net κ) (t : JcSimTransport κ) (hconnect : connect net = .ok t)
    (calls : List Call) (hcleared : (run callStep calls t).IsChain Cleared) :
    ∀ e ∈ run callStep calls t, OwnResponse e := by
  have hstart : InStep t ∨ ∀ call ∈ calls.head?, call = .reset := .inl (connect_inStep hconnect)
  clear hconnect
  induction calls generalizing t with
  | nil => simp [run]
  | cons call calls ih =>
    unfold run at hcleared ⊢
    rw [List.isChain_cons] at hcleared
    rw [List.forall_mem_cons]
    cases call with
    | reset =>
      refine ⟨fun _ _ hop => (by cases hop), ih _ hcleared.2 (.inl ?_)⟩
      rw [callStep_reset]
      exact reset_inStep t
    | transmit capdu =>
      have hstep : InStep t := hstart.resolve_right fun h => by cases h _ rfl
      obtain ⟨hafter, hown⟩ := transmit_spec hstep capdu
      obtain ⟨hstate, hout⟩ := callStep_transmit capdu t
      refine ⟨?_, ih _ hcleared.2 ?_⟩
      · intro capdu' rapdu hop hrapdu
        obtain rfl := Call.transmit.inj hop
        show (callStep (.transmit capdu) t).2.stream.answered = _
        rw [hstate]
        exact hown rapdu (hout rapdu hrapdu)
      · by_cases hsmooth : Smooth t capdu
        · rw [hstate]
          exact .inl (hafter.mpr hsmooth)
        · refine .inr fun call hcall => ?_
          cases calls with
          | nil => cases hcall
          | cons call' calls =>
            obtain rfl := Option.some.inj hcall
            exact hcleared.1 _ rfl capdu rfl hsmooth

/-! ### Two runs -/

/-- A bridge that answers from a list. -/
structure Canned where
  responses : List Response

instance : Bridge Canned where
  accept b := b
  answer b _ :=
    match b.responses with
    | [] => (⟨[], by decide⟩, b)
    | r :: rest => (r, ⟨rest⟩)

/-- `9000` and then `6985`, with a time-out before the first octet of the first. -/
def lateNet : Net Canned where
  bridge := ⟨[⟨[0x90, 0x00], by decide⟩, ⟨[0x69, 0x85], by decide⟩]⟩
  exchanges := [{ ExchangeIo.calm with readLength := .cut 0 ⟨.wouldBlock, []⟩ }]
  opens := []

def late : JcSimTransport Canned := ⟨.fresh, true, lateNet⟩

/-- Two commands, with a reset between. -/
def resetBetween : List Call := [.transmit [0x00], .reset, .transmit [0x01]]

theorem responses_stay_in_step_late :
    (run callStep resetBetween late).length = 3 ∧
      ∀ e ∈ run callStep resetBetween late, OwnResponse e := by
  refine ⟨rfl, responses_stay_in_step lateNet late rfl resetBetween ?_⟩
  simp only [resetBetween, run, List.isChain_cons]
  refine ⟨fun e he => ?_, fun e he => ?_, fun e he => ?_, List.IsChain.nil⟩
  · obtain rfl := Option.some.inj he
    exact fun _ _ _ => rfl
  · obtain rfl := Option.some.inj he
    intro _ hop
    cases hop
  · cases he

/-- The response to a command that timed out is returned for the next command. -/
theorem late_response_returned :
    ¬∀ (κ : Type) [Bridge κ] (net : Net κ) (t : JcSimTransport κ), connect net = .ok t →
      ∀ calls : List Call, ∀ e ∈ run callStep calls t, OwnResponse e := by
  intro hall
  have hown := hall Canned lateNet late rfl [.transmit [0x00], .transmit [0x01]]
  simp only [run, List.forall_mem_cons] at hown
  have hanswered := hown.2.1 [0x01] ⟨[0x90, 0x00], by decide⟩ rfl rfl
  revert hanswered
  decide

end JcSim

end Scll
