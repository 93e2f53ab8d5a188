import Scll.Card.LifeCycle

/-! # The life cycle over whole runs

    A manager that reads and sets the state of a card gets what `LifeCall.spec`
    says: the state the card is in, and on a change the card's own answer to
    the move that the matrix allows. As long as the host asks the card where it
    is, whatever rule the card has, it only ever moves along the matrix, and a
    move that was reported as irreversible stays made.
-/

namespace Scll

open Cap Listing Response Workflow

/-! ### What is called for -/

/-- A call that reads or writes the state of a card. -/
inductive LifeCall where
  | status
  /-- Without a state to start from, it is read from the card. -/
  | set (target : CardLifeCycle) (current : Option CardLifeCycle) (force : Bool)

namespace LifeCall

/-- The call of the manager. -/
def call {δ : Type} (isd : Aid) : LifeCall → SessionCall δ
  | status => .getCardStatus isd.bytes
  | set target current force => .setCardStatus ⟨target, current, force, isd.bytes⟩

/-- The host asks the card where it is. -/
def Reads : LifeCall → Prop
  | status => True
  | set _ current _ => current = none

end LifeCall

/-! ### What it does -/

/-- The report on a state. -/
def statusReport (isd : Aid) (b : UInt8) : GetCardStatusReport where
  state := decodeLifeCycle b
  effective := ⟨rawByte (decodeLifeCycle b), decodeLifeCycle b, isd⟩
  warnings := []

section spec

variable {P : Primitives} (r : LifeRule P)

/-- A planned move, as the card answers it. -/
def move : TransitionPlan → Prog UInt8 ScllError Unit
  | .noOp => pure ()
  | .apply p2 => fun b =>
      (setStatusOutcome (r.answer b p2), if r.answer b p2 = SW_OK then p2 else b)

/-- From the caller's word or from where the card is, the matrix decides. -/
def setState (target : CardLifeCycle) (current : Option CardLifeCycle) (force : Bool) :
    Prog UInt8 ScllError SessionReport := do
  let before ← .query fun b => .ok (current.getD (decodeLifeCycle b))
  let plan ← .lift (checkTransition before target force)
  move r plan
  pure (.setStatus (setCardStatusReport ⟨target, current, force, r.isd.bytes⟩ before plan))

/-- What a call does to the state of the card, and what it reports. -/
def LifeCall.spec : LifeCall → Prog UInt8 ScllError SessionReport
  | status => .query fun b => .ok (.cardStatus (statusReport r.isd b))
  | set target current force => setState r target current force

end spec

section runs

variable {P : Primitives} {ρ δ : Type} {r : LifeRule P} {session : ScpSession}

/-- The card is in the state, and `n` more commands fit through the channel. -/
structure Living (r : LifeRule P) (n : ℕ) (w : World (IdealCard (LifeCard r)) (IdealBackend P ρ))
    (b : UInt8) : Prop where
  state : w.transport.app.state = b
  room : w.backend.channel.RoomFor n

/-! ### Reading the state -/

/-- The listing of an ISD is one page, and parses. -/
theorem isd_page (isd : Aid) (b : UInt8) (q : Privileges) :
    (AppReply.ok (octets [isdFields isd b q])).data = octets [isdFields isd b q] ∧
      Tlv.parse (octets [isdFields isd b q]) = .ok [entry (isdFields isd b q)] ∧
      Tlv.parse (entry (isdFields isd b q)).value = .ok (isdFields isd b q) := by
  have hreadable : Readable (isdFields isd b q) :=
    readable_of_short (show 3 ≤ 64 by omega) (short_isdFields isd b q)
  have hentries : ∀ fields ∈ [isdFields isd b q], Readable fields := by
    intro fields hfields
    rw [List.mem_singleton.mp hfields]
    exact hreadable
  have hone : [isdFields isd b q].length ≤ MAX_TLVS := show 1 ≤ 64 by omega
  have hlength := length_isdOctets isd b q
  have hmax : MAX_REPLY_DATA = 239 := rfl
  refine ⟨List.take_of_length_le (by omega), ?_, parse_entry hreadable⟩
  exact (parseStatusRegistry_octets hone hentries).1

theorem readStatusScope_life (session : ScpSession) {n : ℕ}
    {w : World (IdealCard (LifeCard r)) (IdealBackend P ρ)} {b : UInt8} (hw : Living r (n + 1) w b) :
    ∃ w', readStatusScope session P1_ISD_SCOPE w =
        (.ok (octets [isdFields r.isd b r.privileges], false), w') ∧ Living r n w' b := by
  have hlen : [(0x4F : UInt8), 0x00].length ≤ LOAD_BLOCK_DATA := by decide
  have hperform := LifeCard.perform_getStatus Capdu.P2_FIRST_TLV [0x4F, 0x00] w.transport.app
  obtain ⟨w', hrun, happ, hroom⟩ := exchange_admitted session hw.room 0x80 0xF2 P1_ISD_SCOPE
    Capdu.P2_FIRST_TLV (List.cons_ne_nil _ _) hlen true hperform
  obtain ⟨hdata, hparse, -⟩ := isd_page r.isd b r.privileges
  rw [hw.state, hdata] at hrun
  change transmitInSession session (statusCommand P1_ISD_SCOPE Capdu.P2_FIRST_TLV) w =
    (.ok (octets [isdFields r.isd b r.privileges], SW_OK), w') at hrun
  have hlength := length_isdOctets r.isd b r.privileges
  have hbytes : MAX_STATUS_SCOPE_BYTES = 16 * 258 := rfl
  have hfits : ([] : List UInt8).length + (octets [isdFields r.isd b r.privileges]).length ≤
      MAX_STATUS_SCOPE_BYTES := by
    rw [List.length_nil]
    omega
  have hparses : Parses ([] ++ octets [isdFields r.isd b r.privileges]) = true := by
    rw [List.nil_append, Parses, hparse]
    rfl
  refine ⟨w', ?_, ?_, hroom⟩
  · show readPages session P1_ISD_SCOPE (15 + 1) Capdu.P2_FIRST_TLV ⟨[], 0, false⟩ w = _
    unfold readPages
    rw [getStatusP2_eq, Prog.bind_ok (Prog.lift_run _ w), Prog.bind_ok hrun]
    dsimp only
    rw [page_last hfits, Prog.lift_ok_bind, Scope.absorb, hparses]
    dsimp only [Prog.pure_run, finishScope]
    rw [if_pos rfl, List.nil_append, List.take_length]
    rfl
  · rw [happ, hw.state]

theorem cardStatusReport_life (b : UInt8) :
    cardStatusReport r.isd.bytes (octets [isdFields r.isd b r.privileges]) false =
      .ok (statusReport r.isd b) := by
  obtain ⟨-, hparse, hfields⟩ := isd_page r.isd b r.privileges
  have hdecoded : parseStatusE3 (octets [isdFields r.isd b r.privileges]) =
      .ok (some (decodeLifeCycle b)) := parseStatusE3_eq hparse rfl hfields
  unfold cardStatusReport
  rw [hdecoded, Aid.new_of_valid r.isd.valid]
  rfl

theorem getCardStatus_life (session : ScpSession) (n : ℕ) :
    Prog.Simulates (Living (ρ := ρ) r (n + 1)) (Living r n) (getCardStatus session r.isd.bytes)
      (fun b => (.ok (statusReport r.isd b), b)) := by
  intro w b hw
  obtain ⟨w', hread, hw'⟩ := readStatusScope_life session hw
  unfold getCardStatus
  rw [Prog.bind_ok hread]
  dsimp only
  rw [cardStatusReport_life]
  exact ⟨rfl, hw'⟩

/-! ### Setting it -/

theorem Living.mono {m n : ℕ} (hle : m ≤ n)
    (w : World (IdealCard (LifeCard r)) (IdealBackend P ρ)) (b : UInt8) (h : Living r n w b) :
    Living r m w b :=
  ⟨h.state, h.room.mono hle⟩

/-- SET STATUS is answered by the card's own rule. -/
theorem setStatus_life (target : CardLifeCycle) (n : ℕ) :
    Prog.Simulates (Living (ρ := ρ) r (n + 1)) (Living r n)
      (applyTransition session r.isd.bytes (.apply (rawByte target)))
      (move r (.apply (rawByte target))) := by
  intro w b hw
  have hlen : r.isd.bytes.length ≤ LOAD_BLOCK_DATA := by
    have hvalid := r.isd.valid.2
    exact hvalid.trans (by decide)
  have hperform := LifeCard.perform_setStatus (rawByte target) r.isd.bytes w.transport.app
  obtain ⟨w', hrun, happ, hroom⟩ := exchange_admitted session hw.room 0x84 0xF0 0x80
    (rawByte target) (Workflow.Aid.ne_nil r.isd) hlen false hperform
  rw [← setStatusCommand_eq, hw.state] at hrun
  rw [hw.state] at happ
  unfold applyTransition
  dsimp only
  rw [setCardStatus_eq, Prog.lift_ok_bind, Prog.bind_ok hrun]
  refine ⟨rfl, ?_, hroom⟩
  show w'.transport.app.state = if r.answer b (rawByte target) = SW_OK then rawByte target else b
  rw [happ]
  by_cases hok : r.answer b (rawByte target) = SW_OK
  · rw [if_pos hok, if_pos hok]
  · rw [if_neg hok, if_neg hok, hw.state]

/-- A plan that passed the check is carried out at the card. -/
theorem applyTransition_life {current target : CardLifeCycle} {force : Bool} {plan : TransitionPlan}
    (hplan : checkTransition current target force = .ok plan) (n : ℕ) :
    Prog.Simulates (Living (ρ := ρ) r (n + 1)) (Living r n)
      (applyTransition session r.isd.bytes plan) (move r plan) := by
  cases plan with
  | noOp => exact (Prog.Simulates.pure ()).mono (fun _ _ h => h) (Living.mono (Nat.le_succ n))
  | apply p2 =>
    obtain rfl := checkTransition_apply hplan
    exact setStatus_life target n

/-- The state to start from is the caller's word, or the card's. -/
theorem currentState_life (session : ScpSession) (args : SetCardStatusArgs)
    (hisd : args.isdAid = r.isd.bytes) (n : ℕ) :
    Prog.Simulates (Living (ρ := ρ) r (n + 1)) (Living r n) (currentState session args)
      (.query fun b => .ok (args.currentState.getD (decodeLifeCycle b))) := by
  intro w b hw
  unfold currentState
  cases args.currentState with
  | some s => exact ⟨rfl, Living.mono (Nat.le_succ n) w b hw⟩
  | none =>
    have hread := (getCardStatus_life session n).ok hw rfl
    obtain ⟨w', hrun, hw'⟩ := hread
    dsimp only
    rw [hisd, Prog.bind_ok hrun]
    exact ⟨rfl, hw'⟩

/-- A change of the state is one read at most, and the move that is planned. -/
theorem setCardStatus_life (target : CardLifeCycle) (current : Option CardLifeCycle) (force : Bool)
    (n : ℕ) :
    Prog.Shows SessionReport.setStatus (Living (ρ := ρ) r (n + 2)) (Living r n)
      (setCardStatus session ⟨target, current, force, r.isd.bytes⟩)
      (setState r target current force) := by
  have hcurrent := currentState_life (ρ := ρ) session
    ⟨target, current, force, r.isd.bytes⟩ rfl (n + 1)
  refine .seq (.of_simulates hcurrent) ?_ (Living.mono (Nat.le_succ n))
  intro before
  dsimp only [id]
  cases hplan : checkTransition before target force with
  | error e =>
    intro w b hw
    exact ⟨rfl, Living.mono (Nat.le_succ n) w b hw⟩
  | ok plan =>
    rw [Prog.lift_ok_bind, Prog.lift_ok_bind]
    refine .seq (.of_simulates (applyTransition_life hplan n)) ?_ fun _ _ h => h
    intro _ w b hw
    exact ⟨rfl, hw⟩

/-! ### Runs -/

/-- The commands of a call: one to read the state, and one to set it. -/
def LIFE_COMMANDS : ℕ := 2

theorem lifeCall_shows [RngCore ρ] (I : Inflater δ) (call : LifeCall) (n : ℕ) :
    Prog.Shows id (Retaining session (Living (ρ := ρ) r (n + LIFE_COMMANDS)))
      (Retaining session (Living r n)) (sessionCall I (call.call r.isd)) (call.spec r) := by
  cases call with
  | status =>
    have hstatus : Prog.Shows SessionReport.cardStatus (Living (ρ := ρ) r (n + LIFE_COMMANDS))
        (Living r n) (getCardStatus session r.isd.bytes) (LifeCall.status.spec r) := by
      intro w b hw
      have hfewer : n + 1 ≤ n + LIFE_COMMANDS := Nat.le_succ (n + 1)
      obtain ⟨hout, hstate⟩ := getCardStatus_life session n w b (Living.mono hfewer w b hw)
      rw [hout]
      exact ⟨rfl, hstate⟩
    exact inSession_shows hstatus fun _ => rfl
  | set target current force =>
    exact inSession_shows (setCardStatus_life target current force n) fun _ => rfl

end runs

/-! ### What becomes of a card -/

section cycle

variable {P : Primitives} {r : LifeRule P}

theorem setStatusOutcome_ok {sw : UInt16} (h : setStatusOutcome sw = .ok ()) : sw = SW_OK := by
  unfold setStatusOutcome at h
  split at h
  · assumption
  · split at h
    · cases h
    · cases h

/-- A move that was planned is made along the matrix, or not at all. -/
theorem move_apply {b : UInt8} {target : CardLifeCycle} {force : Bool}
    (hallows : Allows (decodeLifeCycle b) target force) :
    Leads (decodeLifeCycle b) (decodeLifeCycle (move r (.apply (rawByte target)) b).2) ∧
      ((move r (.apply (rawByte target)) b).1 = .ok () →
        decodeLifeCycle (move r (.apply (rawByte target)) b).2 = target) := by
  unfold move
  dsimp only
  by_cases hok : r.answer b (rawByte target) = SW_OK
  · rw [if_pos hok, decodeLifeCycle_rawByte hallows]
    exact ⟨.single ⟨force, hallows⟩, fun _ => rfl⟩
  · rw [if_neg hok]
    refine ⟨.refl, ?_⟩
    intro h
    exact absurd (setStatusOutcome_ok h) hok

/-- A call that asks the card where it is moves it along the matrix, or not at all; and
    what it reports as irreversible has brought the card on. -/
theorem LifeCall.spec_leads {call : LifeCall} (hreads : call.Reads) (b : UInt8) :
    Leads (decodeLifeCycle b) (decodeLifeCycle (call.spec r b).2) ∧
      ∀ report, (call.spec r b).1 = .ok (.setStatus report) →
        report.effective.irreversible = true → report.effective.wasNoOp = false →
        stage report.effective.stateBefore <
          stage (decodeLifeCycle (call.spec r b).2) := by
  cases call with
  | status =>
    refine ⟨.refl, ?_⟩
    intro report hreport
    cases hreport
  | set target current force =>
    obtain rfl : current = none := hreads
    unfold LifeCall.spec setState
    dsimp only
    have hbefore : (Prog.query fun b =>
        .ok ((none : Option CardLifeCycle).getD (decodeLifeCycle b)) :
        Prog UInt8 ScllError CardLifeCycle) b = (.ok (decodeLifeCycle b), b) := rfl
    rw [Prog.bind_ok hbefore]
    cases hplan : checkTransition (decodeLifeCycle b) target force with
    | error e =>
      refine ⟨.refl, ?_⟩
      intro report hreport
      cases hreport
    | ok plan =>
      rw [Prog.lift_ok_bind]
      cases plan with
      | noOp =>
        refine ⟨.refl, ?_⟩
        intro report hreport _ hmoved
        -- a report of no move says so
        cases hreport
        cases hmoved
      | apply p2 =>
        obtain ⟨hallows, rfl⟩ := checkTransition_apply_iff.mp hplan
        obtain ⟨hleads, harrived⟩ := move_apply (r := r) hallows
        cases hmove : move r (.apply (rawByte target)) b with
        | mk result b' =>
          rw [hmove] at hleads harrived
          cases result with
          | error e =>
            rw [Prog.bind_error hmove]
            refine ⟨hleads, ?_⟩
            intro report hreport
            cases hreport
          | ok u =>
            rw [Prog.bind_ok hmove]
            refine ⟨hleads, ?_⟩
            intro report hreport hirreversible _
            cases hreport
            show stage (decodeLifeCycle b) < stage (decodeLifeCycle b')
            rw [harrived rfl]
            exact stage_lt_of_irreversible hallows hirreversible

/-- Over a run. By induction on the calls: what one call has brought the card on by, the
    calls after it do not take back. -/
theorem runs_lead {calls : List LifeCall} (hreads : ∀ call ∈ calls, call.Reads) (b : UInt8) :
    Leads (decodeLifeCycle b)
        (decodeLifeCycle (Prog.calls (calls.map (LifeCall.spec r)) b).2) ∧
      ∀ report, .ok (.setStatus report) ∈ (Prog.calls (calls.map (LifeCall.spec r)) b).1 →
        report.effective.irreversible = true → report.effective.wasNoOp = false →
        stage report.effective.stateBefore <
          stage (decodeLifeCycle (Prog.calls (calls.map (LifeCall.spec r)) b).2) := by
  induction calls generalizing b with
  | nil =>
    refine ⟨.refl, ?_⟩
    intro report hreport
    cases hreport
  | cons call calls ih =>
    rw [List.forall_mem_cons] at hreads
    obtain ⟨hleads, hon⟩ := LifeCall.spec_leads (r := r) hreads.1 b
    obtain ⟨hrest, hons⟩ := ih hreads.2 (call.spec r b).2
    refine ⟨hleads.trans hrest, ?_⟩
    intro report hreport hirreversible hmoved
    rcases List.mem_cons.mp hreport with hhead | htail
    · exact (hon report hhead.symm hirreversible hmoved).trans_le hrest.stage_le
    · exact hons report htail hirreversible hmoved

end cycle

/-- The life cycle of a card is kept: a manager opens a channel to a card in whatever
    state and with whatever rule of its own, and each read and each change reports what
    the specification reports, and leaves the state that this leaves. If the host asks
    the card where it is, the card is led along the matrix, and behind a move that was
    reported as irreversible there is no way back from where it ends. -/
theorem life_cycle_is_kept {P : Primitives} {ρ δ : Type} [RngCore ρ] {r : LifeRule P}
    (I : Inflater δ) (args : OpenScpArgs)
    (m : CardManager (ServedCard P (LifeCard r)) (RustCryptoBackend P ρ)) (sd : HonestDomain P)
    (hmeets : MeetsServed args m.world.transport m.world.backend sd) (calls : List LifeCall)
    (hroom : calls.length * LIFE_COMMANDS ≤ FRESH_ROOM) :
    ∃ effective m', CardManager.openScp args m = (.ok effective, m') ∧
      (Prog.calls (calls.map fun call => sessionCall I (call.call r.isd)) m').1 =
        (Prog.calls (calls.map (LifeCall.spec r)) m.world.transport.app.state).1 ∧
      (Prog.calls (calls.map fun call => sessionCall I (call.call r.isd))
          m').2.world.transport.app.state =
        (Prog.calls (calls.map (LifeCall.spec r)) m.world.transport.app.state).2 ∧
      ((∀ call ∈ calls, call.Reads) →
        Leads (decodeLifeCycle m.world.transport.app.state)
            (decodeLifeCycle (Prog.calls (calls.map fun call =>
              sessionCall I (call.call r.isd)) m').2.world.transport.app.state) ∧
          ∀ report, .ok (.setStatus report) ∈
              (Prog.calls (calls.map fun call => sessionCall I (call.call r.isd)) m').1 →
            report.effective.irreversible = true → report.effective.wasNoOp = false →
            ¬Leads (decodeLifeCycle (Prog.calls (calls.map fun call =>
                sessionCall I (call.call r.isd)) m').2.world.transport.app.state)
              report.effective.stateBefore) := by
  obtain ⟨effective, session, m', hopen, hentered⟩ := CardManager.openScp_enters hmeets
  have hstart : Living r (0 + calls.length * LIFE_COMMANDS) (m'.ideal session).world
      m.world.transport.app.state := by
    refine ⟨?_, ?_⟩
    · show m'.world.transport.app.state = _
      rw [hentered.app]
      rfl
    · rw [Nat.zero_add]
      exact hentered.room.mono hroom
  obtain ⟨hout, w, hw, happ⟩ := hentered.calls_show I
    (fun call _ n => lifeCall_shows I call n) hstart
  have hsame : (Prog.calls (calls.map fun call => sessionCall I (call.call r.isd)) m').1 =
      (Prog.calls (calls.map (LifeCall.spec r)) m.world.transport.app.state).1 := by
    rw [← hout]
    simp
  have hstate : (Prog.calls (calls.map fun call => sessionCall I (call.call r.isd))
        m').2.world.transport.app.state =
      (Prog.calls (calls.map (LifeCall.spec r)) m.world.transport.app.state).2 := by
    rw [← happ]
    exact hw.state
  refine ⟨effective, m', hopen, hsame, hstate, ?_⟩
  intro hreads
  obtain ⟨hleads, hon⟩ := runs_lead (r := r) hreads m.world.transport.app.state
  rw [hsame, hstate]
  refine ⟨hleads, ?_⟩
  intro report hreport hirreversible hmoved
  exact not_leads_of_stage_lt (hon report hreport hirreversible hmoved)

/-! ### A card that goes wherever it is sent -/

def obedient : LifeRule Primitives.xorCipher where
  domain := .scp03 sampleDomain
  isd := sampleIsd
  privileges := ⟨0x9E, 0x00, 0x00⟩
  answer _ _ := SW_OK

def lifeManager : CardManager (ServedCard Primitives.xorCipher (LifeCard obedient))
    (RustCryptoBackend Primitives.xorCipher Unit) :=
  .new ⟨sampleWorld.transport, ⟨0x01⟩⟩ sampleWorld.backend

theorem meets_life : MeetsServed sampleArgs lifeManager.world.transport
    lifeManager.world.backend (.scp03 sampleDomain) where
  domain := rfl
  meets :=
    { target := by decide
      accepts := by decide
      level := by decide
      shared := .scp03 (by decide) (by decide) rfl rfl (.inr rfl)
        (.carried sample_names) ⟨⟨0, by decide⟩, rfl⟩ }

/-- To SECURED by force, to CARD_LOCKED, and back to where it started. -/
def lifeCalls : List LifeCall :=
  [.set .secured none true, .set .cardLocked none false, .set .opReady none true, .status]

theorem reads_lifeCalls : ∀ call ∈ lifeCalls, call.Reads := by
  simp [lifeCalls, LifeCall.Reads]

/-- The card would go back to OP_READY, and is not asked to. -/
theorem life_cycle_is_kept_sample :
    ∃ effective m', CardManager.openScp sampleArgs lifeManager = (.ok effective, m') ∧
      (Prog.calls (lifeCalls.map fun call =>
        sessionCall storedInflater (call.call sampleIsd)) m').2.world.transport.app.state = 0x7F ∧
      Leads .opReady .cardLocked := by
  obtain ⟨effective, m', hopen, -, hstate, hkept⟩ := life_cycle_is_kept (r := obedient)
    storedInflater sampleArgs lifeManager (.scp03 sampleDomain) meets_life lifeCalls (by decide)
  have hend : (Prog.calls (lifeCalls.map (LifeCall.spec obedient))
      lifeManager.world.transport.app.state).2 = 0x7F := by decide
  have hleads := (hkept reads_lifeCalls).1
  rw [hstate, hend] at hleads
  exact ⟨effective, m', hopen, hstate.trans hend, hleads⟩

end Scll
