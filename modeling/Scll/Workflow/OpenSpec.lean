import Scll.Scp.OpenSpec
import Scll.Workflow.OpenScp

/-! # What an open sends

    An open talks to the card in plain commands, so the commands it notes are
    the ones the transport gets, and with the transport they started from they
    fix the whole transcript. Up to EXTERNAL AUTHENTICATE nothing is sent but
    SELECT and INITIALIZE UPDATE; whoever reaches it has a `begin` that succeeded
    behind it.
-/

namespace Scll

namespace Workflow

open BlockMode

/-! ### Transcripts -/

section transcript

variable {τ β : Type} [Transport τ]

/-- The transport after some commands. -/
def after : List Capdu → τ → τ
  | [], t => t
  | c :: cs, t => after cs (Transport.transmit c t).2

/-- Some commands, each with its answer. -/
def transcript : List Capdu → τ → List (Capdu × Except TransportError Rapdu)
  | [], _ => []
  | c :: cs, t => (c, (Transport.transmit c t).1) :: transcript cs (Transport.transmit c t).2

theorem after_append (cs ds : List Capdu) (t : τ) : after (cs ++ ds) t = after ds (after cs t) := by
  induction cs generalizing t with
  | nil => rfl
  | cons c cs ih => exact ih _

theorem fst_mem_of_mem_transcript {cs : List Capdu} {t : τ}
    {p : Capdu × Except TransportError Rapdu} (h : p ∈ transcript cs t) : p.1 ∈ cs := by
  induction cs generalizing t with
  | nil => cases h
  | cons c cs ih =>
    rcases List.mem_cons.mp h with rfl | h
    · exact List.mem_cons_self
    · exact List.mem_cons_of_mem _ (ih h)

/-- Between `w` and `w'` the transport got the commands `cmds`, and no others. -/
structure Sent (cmds : List Capdu) (w w' : World τ β) : Prop where
  noted : w'.sent = w.sent ++ cmds
  transport : w'.transport = after cmds w.transport

theorem Sent.nil {w w' : World τ β} (hsent : w'.sent = w.sent)
    (htransport : w'.transport = w.transport) : Sent [] w w' :=
  ⟨by rw [hsent, List.append_nil], htransport⟩

theorem Sent.trans {cs ds : List Capdu} {w w₁ w₂ : World τ β} (h : Sent cs w w₁)
    (h' : Sent ds w₁ w₂) : Sent (cs ++ ds) w w₂ := by
  constructor
  · rw [h'.noted, h.noted, List.append_assoc]
  · rw [h'.transport, h.transport, after_append]

/-- `data` is what the card answered to `capdu`, under `9000`. -/
structure Answered (capdu : Capdu) (data : List UInt8) (w w' : World τ β) : Prop where
  sent : Sent [capdu] w w'
  backend : w'.backend = w.backend
  answer : ∃ rapdu, (Transport.transmit capdu w.transport).1 = .ok rapdu ∧
    splitSw rapdu.octets = .ok (data, SW_OK)

/-- Whatever comes of it, a plain exchange sends its command. -/
theorem transmitPlain_sent (capdu : Capdu) (w : World τ β) :
    Sent [capdu] w (transmitPlain capdu w).2 ∧ (transmitPlain capdu w).2.backend = w.backend := by
  unfold transmitPlain exchange
  simp only [Prog.bind_run, note, Prog.update_run, Prog.zoom, Prog.mapErr]
  cases (Transport.transmit capdu w.transport).1 with
  | ok rapdu => exact ⟨⟨rfl, rfl⟩, rfl⟩
  | error e => exact ⟨⟨rfl, rfl⟩, rfl⟩

theorem transmitPlain_ok {capdu : Capdu} {w w' : World τ β} {data : List UInt8} {sw : UInt16}
    (h : transmitPlain capdu w = (.ok (data, sw), w')) :
    ∃ rapdu, (Transport.transmit capdu w.transport).1 = .ok rapdu ∧
      splitSw rapdu.octets = .ok (data, sw) := by
  unfold transmitPlain exchange at h
  obtain ⟨rapdu, w₁, hexchange, h⟩ := Prog.bind_eq_ok.mp h
  obtain ⟨_, w₂, hnote, hexchange⟩ := Prog.bind_eq_ok.mp hexchange
  obtain ⟨hsplit, -⟩ := Prog.lift_eq_ok.mp h
  obtain ⟨-, rfl⟩ := Prod.mk.inj hnote
  have htransmit := (Prod.mk.inj hexchange).1
  simp only [Prog.mapErr] at htransmit
  refine ⟨rapdu, ?_, hsplit⟩
  cases hr : (Transport.transmit capdu w.transport).1 with
  | ok r =>
    rw [hr] at htransmit
    rw [Except.ok.inj htransmit]
  | error e =>
    rw [hr] at htransmit
    cases htransmit

theorem transmitPlain_answered {capdu : Capdu} {w w' : World τ β} {data : List UInt8}
    (h : transmitPlain capdu w = (.ok (data, SW_OK), w')) : Answered capdu data w w' := by
  obtain ⟨hsent, hbackend⟩ := transmitPlain_sent capdu w
  rw [h] at hsent hbackend
  exact ⟨hsent, hbackend, transmitPlain_ok h⟩

/-- The transcript of three commands, the first two answered. -/
theorem transcript_three {sel iu : Capdu} (ea : Capdu) {r r' : Rapdu} {w w₀ w₁ : World τ β}
    (hsel : Sent [sel] w w₀) (hr : (Transport.transmit sel w.transport).1 = .ok r)
    (hiu : Sent [iu] w₀ w₁) (hr' : (Transport.transmit iu w₀.transport).1 = .ok r') :
    transcript [sel, iu, ea] w.transport =
      [(sel, .ok r), (iu, .ok r'), (ea, (Transport.transmit ea w₁.transport).1)] := by
  rw [hiu.transport, hsel.transport]
  rw [hsel.transport] at hr'
  simp only [transcript, after, hr] at hr' ⊢
  rw [hr']

/-- Nothing sent is EXTERNAL AUTHENTICATE. -/
def quiet : Prog.Frame (World τ β) where
  rel w w' := ∃ cmds, Sent cmds w w' ∧ ∀ c ∈ cmds, Capdu.ins c ≠ Scp03.INS_EXTERNAL_AUTHENTICATE
  refl _ := ⟨[], .nil rfl rfl, by simp⟩
  trans := by
    rintro w₁ w₂ w₃ ⟨cs, hcs, hquiet⟩ ⟨ds, hds, hquiet'⟩
    refine ⟨cs ++ ds, hcs.trans hds, ?_⟩
    intro c hc
    rcases List.mem_append.mp hc with hc | hc
    · exact hquiet c hc
    · exact hquiet' c hc

theorem transmitPlain_quiet {capdu : Capdu}
    (h : Capdu.ins capdu ≠ Scp03.INS_EXTERNAL_AUTHENTICATE) :
    (transmitPlain capdu : Prog (World τ β) ScllError _).Keeps quiet := by
  intro w
  exact ⟨[capdu], (transmitPlain_sent capdu w).1, by simpa using h⟩

theorem onBackend_quiet {α : Type} (m : Prog β ScllError α) :
    (onBackend m : Prog (World τ β) ScllError α).Keeps quiet := by
  intro w
  exact ⟨[], .nil rfl rfl, by simp⟩

end transcript

/-! ### The phases -/

theorem ins_selectByAid {aid : List UInt8} {capdu : Capdu} (h : Capdu.selectByAid aid = .ok capdu) :
    Capdu.ins capdu = 0xA4 := Capdu.ins_of_build h

/-- The SCP03 INITIALIZE UPDATE, octet by octet. -/
theorem iuCommand03_eq_ok {kvn : UInt8} {hostChallenge capdu : List UInt8} :
    Scp03.iuCommand kvn hostChallenge = .ok capdu ↔
      hostChallenge.length ≤ 255 ∧
      capdu = 0x80 :: Scp03.INS_INITIALIZE_UPDATE :: kvn :: 0x00 ::
        UInt8.ofNat hostChallenge.length :: (hostChallenge ++ [0x00]) := by
  unfold Scp03.iuCommand Scp03.lcByte Scp03.extendApdu
  simp only [bind_eq_ok, extend_eq_ok]
  constructor
  · rintro ⟨lc, hlc, head, ⟨rfl, -⟩, body, ⟨rfl, -⟩, rfl, -⟩
    split at hlc
    · next hlen =>
      obtain rfl := Except.ok.inj hlc
      exact ⟨hlen, by simp⟩
    · cases hlc
  · rintro ⟨hlen, rfl⟩
    refine ⟨UInt8.ofNat hostChallenge.length, if_pos hlen, _, ⟨rfl, ?_⟩, _, ⟨rfl, ?_⟩, by simp, ?_⟩
    · simp [CAPDU_MAX]
    · simp [CAPDU_MAX]
      omega
    · simp [CAPDU_MAX]
      omega

/-- The SCP02 INITIALIZE UPDATE, octet by octet. -/
theorem iuCommand02_eq_ok {kvn keyId : UInt8} {hostChallenge : Block 8} {capdu : List UInt8} :
    Scp02.iuCommand kvn keyId hostChallenge = .ok capdu ↔
      capdu = 0x80 :: Scp03.INS_INITIALIZE_UPDATE :: kvn :: keyId :: 0x08 ::
        (hostChallenge.val ++ [0x00]) := by
  have hlen := hostChallenge.property
  unfold Scp02.iuCommand Scp03.extendApdu
  simp only [bind_eq_ok, extend_eq_ok]
  constructor
  · rintro ⟨head, ⟨rfl, -⟩, body, ⟨rfl, -⟩, rfl, -⟩
    simp
  · rintro rfl
    refine ⟨_, ⟨rfl, ?_⟩, _, ⟨rfl, ?_⟩, by simp, ?_⟩
    all_goals simp [CAPDU_MAX, hlen]

section phases

variable {τ β : Type} [Transport τ]

theorem select_keeps (aid : List UInt8) :
    (select aid : Prog (World τ β) ScllError _).Keeps quiet := by
  refine .lift_bind fun capdu hcapdu => .bind (transmitPlain_quiet ?_) fun _ => .lift _
  rw [ins_selectByAid (ofBuild_eq_ok.mp hcapdu)]
  decide

theorem select_ok {aid fci : List UInt8} {w w' : World τ β}
    (h : select aid w = (.ok fci, w')) :
    ∃ capdu, Capdu.selectByAid aid = .ok capdu ∧ Answered capdu fci w w' := by
  obtain ⟨capdu, w₁, hcapdu, h⟩ := Prog.bind_eq_ok.mp h
  obtain ⟨hbuilt, rfl⟩ := Prog.lift_eq_ok.mp hcapdu
  obtain ⟨⟨data, sw⟩, w₂, htransmit, h⟩ := Prog.bind_eq_ok.mp h
  obtain ⟨hout, rfl⟩ := Prog.lift_eq_ok.mp h
  unfold selectOutcome at hout
  split at hout
  · next hsw =>
    obtain rfl := Except.ok.inj hout
    subst hsw
    exact ⟨capdu, ofBuild_eq_ok.mp hbuilt, transmitPlain_answered htransmit⟩
  · split at hout <;> cases hout

theorem initializeUpdate_keeps {iu : Except ScllError Capdu}
    (hiu : ∀ capdu, iu = .ok capdu → Capdu.ins capdu = Scp03.INS_INITIALIZE_UPDATE) :
    (initializeUpdate iu : Prog (World τ β) ScllError _).Keeps quiet := by
  refine .lift_bind fun capdu hcapdu => .bind (transmitPlain_quiet ?_) fun _ => .lift _
  rw [hiu capdu hcapdu]
  decide

theorem initializeUpdate_ok {iu : Except ScllError Capdu} {data : List UInt8} {w w' : World τ β}
    (h : initializeUpdate iu w = (.ok data, w')) :
    ∃ capdu, iu = .ok capdu ∧ Answered capdu data w w' := by
  obtain ⟨capdu, w₁, hcapdu, h⟩ := Prog.bind_eq_ok.mp h
  obtain ⟨hbuilt, rfl⟩ := Prog.lift_eq_ok.mp hcapdu
  obtain ⟨⟨data', sw⟩, w₂, htransmit, h⟩ := Prog.bind_eq_ok.mp h
  obtain ⟨hout, rfl⟩ := Prog.lift_eq_ok.mp h
  unfold requireOk at hout
  split at hout
  · next hsw =>
    obtain rfl := Except.ok.inj hout
    subst hsw
    exact ⟨capdu, hbuilt, transmitPlain_answered htransmit⟩
  · cases hout

/-- EXTERNAL AUTHENTICATE is sent whatever comes of it, and accepted on `9000` only. -/
theorem externalAuthenticate_sent (ea : Capdu) (w : World τ β) :
    Sent [ea] w (externalAuthenticate ea w).2 ∧ (externalAuthenticate ea w).2.backend = w.backend := by
  obtain ⟨hsent, hbackend⟩ := transmitPlain_sent ea w
  unfold externalAuthenticate
  rw [Prog.bind_run]
  rcases hrun : transmitPlain ea w with ⟨r, w'⟩
  rw [hrun] at hsent hbackend
  cases r with
  | ok a => exact ⟨hsent, hbackend⟩
  | error e => exact ⟨hsent, hbackend⟩

theorem externalAuthenticate_ok {ea : Capdu} {w w' : World τ β}
    (h : externalAuthenticate ea w = (.ok (), w')) : ∃ data, Answered ea data w w' := by
  obtain ⟨⟨data, sw⟩, w₁, htransmit, h⟩ := Prog.bind_eq_ok.mp h
  obtain ⟨hout, rfl⟩ := Prog.lift_eq_ok.mp h
  unfold requireAuth at hout
  split at hout
  · next hsw =>
    subst hsw
    exact ⟨data, transmitPlain_answered htransmit⟩
  · cases hout

/-- What is left of an open once EXTERNAL AUTHENTICATE is ready. -/
def finish (ea : Capdu) (opened : Opened) : Prog (World τ β) ScllError Opened := do
  externalAuthenticate ea
  pure opened

theorem finish_sent (ea : Capdu) (opened : Opened) (w : World τ β) :
    Sent [ea] w (finish ea opened w).2 ∧ (finish ea opened w).2.backend = w.backend := by
  have h := externalAuthenticate_sent ea w
  unfold finish
  rw [Prog.bind_run]
  rcases hrun : externalAuthenticate ea w with ⟨r, w'⟩
  rw [hrun] at h
  cases r with
  | ok _ => exact h
  | error e => exact h

theorem finish_ok {ea : Capdu} {opened opened' : Opened} {w w' : World τ β}
    (h : finish ea opened w = (.ok opened', w')) :
    opened' = opened ∧ ∃ data, Answered ea data w w' := by
  obtain ⟨_, w₁, hea, h⟩ := Prog.bind_eq_ok.mp h
  obtain ⟨hopened, rfl⟩ := Prod.mk.inj h
  exact ⟨(Except.ok.inj hopened).symm, externalAuthenticate_ok hea⟩

theorem selectTarget_keeps (args : OpenScpArgs) :
    (selectTarget args : Prog (World τ β) ScllError _).Keeps quiet :=
  .bind (.lift _) fun _ => .bind (select_keeps _) fun _ => .bind (.lift _) fun _ => .pure _

theorem selectTarget_ok {args : OpenScpArgs} {target : OpenTarget} {w w' : World τ β}
    (h : selectTarget args w = (.ok target, w')) :
    selectVariant args.advertised args.forceScp = some target.variant ∧
      target.targetAid.bytes = args.targetAid ∧
      ∃ capdu fci, Capdu.selectByAid args.targetAid = .ok capdu ∧ Answered capdu fci w w' ∧
        target.invokerAid = invokerAid fci target.targetAid := by
  obtain ⟨variant, w₁, hvariant, h⟩ := Prog.bind_eq_ok.mp h
  obtain ⟨hselected, rfl⟩ := Prog.lift_eq_ok.mp hvariant
  obtain ⟨fci, w₂, hselect, h⟩ := Prog.bind_eq_ok.mp h
  obtain ⟨aid, w₃, haid, h⟩ := Prog.bind_eq_ok.mp h
  obtain ⟨hnew, rfl⟩ := Prog.lift_eq_ok.mp haid
  obtain ⟨htarget, rfl⟩ := Prod.mk.inj h
  obtain rfl := Except.ok.inj htarget
  obtain ⟨capdu, hbuilt, hanswered⟩ := select_ok hselect
  refine ⟨?_, Aid.new_eq_ok.mp hnew, capdu, fci, hbuilt, hanswered, rfl⟩
  cases hv : selectVariant args.advertised args.forceScp with
  | none =>
    rw [hv] at hselected
    cases hselected
  | some v =>
    rw [hv] at hselected
    rw [Except.ok.inj hselected]

variable [KeyBackend β]

theorem challenge03_keeps (args : OpenScpArgs) (iParam : UInt8) :
    (challenge03 args iParam : Prog (World τ β) ScllError _).Keeps quiet := by
  refine .bind (onBackend_quiet _) fun hostChallenge => ?_
  refine .bind (initializeUpdate_keeps ?_) fun _ => .pure _
  intro capdu hcapdu
  rw [(iuCommand03_eq_ok.mp hcapdu).2]
  rfl

theorem challenge02_keeps (args : OpenScpArgs) :
    (challenge02 args : Prog (World τ β) ScllError _).Keeps quiet := by
  refine .bind (onBackend_quiet _) fun hostChallenge => ?_
  refine .bind (initializeUpdate_keeps ?_) fun _ => .pure _
  intro capdu hcapdu
  rw [iuCommand02_eq_ok.mp hcapdu]
  rfl

/-- Past the answer to the challenge, an SCP03 handshake fails without a word or
    has an EXTERNAL AUTHENTICATE to send. -/
theorem authenticate03_cases [Scp03Backend β] (args : OpenScpArgs) (invoker : Aid)
    (hostChallenge iuData : List UInt8) (w : World τ β) :
    (∃ e w', authenticate03 args invoker hostChallenge iuData w = (.error e, w') ∧
      quiet.rel w w') ∨
    ∃ iu state ea b, Scp03.parseIuResponse iuData = .ok iu ∧
      Scp03.begin args.sdKeys.enc args.sdKeys.mac args.kvn args.requestedLevel hostChallenge
        invoker.bytes iuData w.backend = (.ok (state, ea), b) ∧
      authenticate03 args invoker hostChallenge iuData w =
        finish ea ⟨.scp03 state, iu.kvn, iu.iParam, state.securityLevel⟩
          { w with backend := b } := by
  unfold authenticate03
  cases hparse : Scp03.parseIuResponse iuData with
  | error e => exact .inl ⟨e, w, rfl, quiet.refl w⟩
  | ok iu =>
    rw [Prog.bind_ok (Prog.lift_run (.ok iu) w)]
    rcases hbegin : Scp03.begin args.sdKeys.enc args.sdKeys.mac args.kvn args.requestedLevel
      hostChallenge invoker.bytes iuData w.backend with ⟨r, b⟩
    have hrun : onBackend (Scp03.begin args.sdKeys.enc args.sdKeys.mac args.kvn
        args.requestedLevel hostChallenge invoker.bytes iuData) w =
        (r, { w with backend := b }) := onBackend_run hbegin
    cases r with
    | error e =>
      exact .inl ⟨e, _, Prog.bind_error hrun, [], .nil rfl rfl, by simp⟩
    | ok p =>
      obtain ⟨state, ea⟩ := p
      exact .inr ⟨iu, state, ea, b, rfl, rfl, Prog.bind_ok hrun⟩

theorem authenticate02_cases [Scp02Backend β] (args : OpenScpArgs) (iParam : UInt8)
    (hostChallenge : Block 8)
    (iuData : List UInt8) (w : World τ β) :
    (∃ e w', authenticate02 args iParam hostChallenge iuData w = (.error e, w') ∧
      quiet.rel w w') ∨
    ∃ iu state ea b, Scp02.parseIuResponse iuData = .ok iu ∧
      Scp02.begin args.sdKeys.enc args.sdKeys.mac args.sdKeys.dek iParam args.kvn
        args.requestedLevel hostChallenge iuData w.backend = (.ok (state, ea), b) ∧
      authenticate02 args iParam hostChallenge iuData w =
        finish ea ⟨.scp02 state, iu.kvn, iParam, state.securityLevel⟩ { w with backend := b } := by
  unfold authenticate02
  cases hparse : Scp02.parseIuResponse iuData with
  | error e => exact .inl ⟨e, w, rfl, quiet.refl w⟩
  | ok iu =>
    rw [Prog.bind_ok (Prog.lift_run (.ok iu) w)]
    rcases hbegin : Scp02.begin args.sdKeys.enc args.sdKeys.mac args.sdKeys.dek iParam args.kvn
      args.requestedLevel hostChallenge iuData w.backend with ⟨r, b⟩
    have hrun : onBackend (Scp02.begin args.sdKeys.enc args.sdKeys.mac args.sdKeys.dek iParam
        args.kvn args.requestedLevel hostChallenge iuData) w = (r, { w with backend := b }) :=
      onBackend_run hbegin
    cases r with
    | error e =>
      exact .inl ⟨e, _, Prog.bind_error hrun, [], .nil rfl rfl, by simp⟩
    | ok p =>
      obtain ⟨state, ea⟩ := p
      exact .inr ⟨iu, state, ea, b, rfl, rfl, Prog.bind_ok hrun⟩

variable [Scp03Backend β] [Scp02Backend β]

/-- `ea` is ready to send from `w'`: a `begin` over the answer to INITIALIZE
    UPDATE has succeeded. -/
inductive Begun (args : OpenScpArgs) (target : OpenTarget) (w : World τ β) :
    Capdu → Opened → World τ β → Prop where
  | scp03 {iParam : UInt8} {hostChallenge iuData : List UInt8} {w₁ : World τ β}
      {iu : Scp03.IuResponse} {state : Scp03.Scp03State} {ea : Capdu} {b : β}
      (variant : target.variant = .scp03 iParam)
      (challenge : challenge03 args iParam w = (.ok (hostChallenge, iuData), w₁))
      (parsed : Scp03.parseIuResponse iuData = .ok iu)
      (begun : Scp03.begin args.sdKeys.enc args.sdKeys.mac args.kvn args.requestedLevel
        hostChallenge target.invokerAid.bytes iuData w₁.backend = (.ok (state, ea), b)) :
      Begun args target w ea ⟨.scp03 state, iu.kvn, iu.iParam, state.securityLevel⟩
        { w₁ with backend := b }
  | scp02 {iParam : UInt8} {hostChallenge : Block 8} {iuData : List UInt8} {w₁ : World τ β}
      {iu : Scp02.IuResponse} {state : Scp02.Scp02State} {ea : Capdu} {b : β}
      (variant : target.variant = .scp02 iParam)
      (challenge : challenge02 args w = (.ok (hostChallenge, iuData), w₁))
      (parsed : Scp02.parseIuResponse iuData = .ok iu)
      (begun : Scp02.begin args.sdKeys.enc args.sdKeys.mac args.sdKeys.dek iParam args.kvn
        args.requestedLevel hostChallenge iuData w₁.backend = (.ok (state, ea), b)) :
      Begun args target w ea ⟨.scp02 state, iu.kvn, iParam, state.securityLevel⟩
        { w₁ with backend := b }

/-- A handshake fails before EXTERNAL AUTHENTICATE, or has one begun and to finish. -/
theorem handshake_cases (args : OpenScpArgs) (target : OpenTarget) (w : World τ β) :
    (∃ e w', handshake args target w = (.error e, w') ∧ quiet.rel w w') ∨
    ∃ ea opened w₁, Begun args target w ea opened w₁ ∧
      handshake args target w = finish ea opened w₁ := by
  -- for either protocol: what breaks off before the end has sent no EXTERNAL AUTHENTICATE
  cases hvariant : target.variant with
  | scp03 iParam =>
    have hquiet := challenge03_keeps (τ := τ) (β := β) args iParam w
    have hrun : handshake args target w = (challenge03 args iParam >>= fun p =>
        authenticate03 args target.invokerAid p.1 p.2) w := by
      unfold handshake
      rw [hvariant]
    rw [hrun]
    rcases hchallenge : challenge03 args iParam w with ⟨r, w₁⟩
    rw [hchallenge] at hquiet
    cases r with
    | error e => exact .inl ⟨e, w₁, Prog.bind_error hchallenge, hquiet⟩
    | ok p =>
      obtain ⟨hostChallenge, iuData⟩ := p
      rw [Prog.bind_ok hchallenge]
      rcases authenticate03_cases args target.invokerAid hostChallenge iuData w₁ with
        ⟨e, w', he, hquiet'⟩ | ⟨iu, state, ea, b, hparse, hbegin, hfinish⟩
      · exact .inl ⟨e, w', he, quiet.trans hquiet hquiet'⟩
      · exact .inr ⟨ea, _, _, .scp03 hvariant hchallenge hparse hbegin, hfinish⟩
  | scp02 iParam =>
    have hquiet := challenge02_keeps (τ := τ) (β := β) args w
    have hrun : handshake args target w = (challenge02 args >>= fun p =>
        authenticate02 args iParam p.1 p.2) w := by
      unfold handshake
      rw [hvariant]
    rw [hrun]
    rcases hchallenge : challenge02 args w with ⟨r, w₁⟩
    rw [hchallenge] at hquiet
    cases r with
    | error e => exact .inl ⟨e, w₁, Prog.bind_error hchallenge, hquiet⟩
    | ok p =>
      obtain ⟨hostChallenge, iuData⟩ := p
      rw [Prog.bind_ok hchallenge]
      rcases authenticate02_cases args iParam hostChallenge iuData w₁ with
        ⟨e, w', he, hquiet'⟩ | ⟨iu, state, ea, b, hparse, hbegin, hfinish⟩
      · exact .inl ⟨e, w', he, quiet.trans hquiet hquiet'⟩
      · exact .inr ⟨ea, _, _, .scp02 hvariant hchallenge hparse hbegin, hfinish⟩

/-- The handshake of an EXTERNAL AUTHENTICATE that is ready. -/
theorem Begun.handshake_eq {args : OpenScpArgs} {target : OpenTarget} {ea : Capdu}
    {opened : Opened} {w w₁ : World τ β} (h : Begun args target w ea opened w₁) :
    handshake args target w = finish ea opened w₁ := by
  cases h with
  | scp03 variant challenge parsed begun =>
    unfold handshake
    rw [variant]
    dsimp only
    rw [Prog.bind_ok challenge]
    unfold authenticate03
    dsimp only
    rw [Prog.bind_ok (Prog.lift_eq_ok.mpr ⟨parsed, rfl⟩)]
    exact Prog.bind_ok (onBackend_run begun)
  | scp02 variant challenge parsed begun =>
    unfold handshake
    rw [variant]
    dsimp only
    rw [Prog.bind_ok challenge]
    unfold authenticate02
    dsimp only
    rw [Prog.bind_ok (Prog.lift_eq_ok.mpr ⟨parsed, rfl⟩)]
    exact Prog.bind_ok (onBackend_run begun)

/-- An open whose EXTERNAL AUTHENTICATE is ready and accepted succeeds. -/
theorem openScp_of_begun {args : OpenScpArgs} {target : OpenTarget} {ea : Capdu} {opened : Opened}
    {w w₀ w₁ w₂ : World τ β} (htarget : selectTarget args w = (.ok target, w₀))
    (hbegun : Begun args target w₀ ea opened w₁)
    (haccepted : externalAuthenticate ea w₁ = (.ok (), w₂)) :
    openScp args w = (.ok (openReport args target opened), w₂) := by
  have hfinish : finish ea opened w₁ = (.ok opened, w₂) := by
    unfold finish
    rw [Prog.bind_ok haccepted]
    rfl
  unfold openScp
  rw [Prog.bind_ok htarget, Prog.bind_ok (hbegun.handshake_eq.trans hfinish)]
  rfl

/-- An open fails before EXTERNAL AUTHENTICATE, or its outcome is the card's
    answer to it. -/
theorem openScp_cases (args : OpenScpArgs) (w : World τ β) :
    (∃ e w', openScp args w = (.error e, w') ∧ quiet.rel w w') ∨
    ∃ target w₀ ea opened w₁, selectTarget args w = (.ok target, w₀) ∧
      Begun args target w₀ ea opened w₁ ∧
      openScp args w =
        (finish ea opened >>= fun opened => pure (openReport args target opened)) w₁ := by
  have hquiet := selectTarget_keeps (τ := τ) (β := β) args w
  unfold openScp
  rcases htarget : selectTarget args w with ⟨r, w₀⟩
  rw [htarget] at hquiet
  cases r with
  | error e => exact .inl ⟨e, w₀, Prog.bind_error htarget, hquiet⟩
  | ok target =>
    rw [Prog.bind_ok htarget]
    rcases handshake_cases args target w₀ with
      ⟨e, w', he, hquiet'⟩ | ⟨ea, opened, w₁, hbegun, hfinish⟩
    · exact .inl ⟨e, w', Prog.bind_error he, quiet.trans hquiet hquiet'⟩
    · refine .inr ⟨target, w₀, ea, opened, w₁, rfl, hbegun, ?_⟩
      rw [Prog.bind_run, hfinish, ← Prog.bind_run]

/-- An open that succeeds: the card answered SELECT, then INITIALIZE UPDATE as
    `begin` wants it, then EXTERNAL AUTHENTICATE. -/
theorem openScp_ok {args : OpenScpArgs} {report : OpenScpReport} {w w' : World τ β}
    (h : openScp args w = (.ok report, w')) :
    ∃ target w₀ ea opened w₁ data, selectTarget args w = (.ok target, w₀) ∧
      Begun args target w₀ ea opened w₁ ∧ Answered ea data w₁ w' ∧
      report = openReport args target opened := by
  rcases openScp_cases args w with
    ⟨e, w'', he, -⟩ | ⟨target, w₀, ea, opened, w₁, htarget, hbegun, hrun⟩
  · rw [h] at he
    cases he
  · rw [h] at hrun
    obtain ⟨opened', w₂, hfinish, hreport⟩ := Prog.bind_eq_ok.mp hrun.symm
    obtain ⟨rfl, data, hdata⟩ := finish_ok hfinish
    obtain ⟨hok, rfl⟩ := Prod.mk.inj hreport
    exact ⟨target, w₀, ea, opened', w₁, data, htarget, hbegun, hdata, (Except.ok.inj hok).symm⟩

end phases

end Workflow

end Scll
