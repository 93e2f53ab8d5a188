import Scll.ChannelEnds

/-! # The channel is transparent

    To whoever calls the manager, an open channel to an honest card is the ideal
    channel to its application: the same reports, the same errors, the same
    application afterwards. The relation between the two worlds goes through
    every exchange, and so through every sequence of calls.
-/

namespace Scll

open Cap Workflow

variable (P : Primitives) {ρ α : Type}

/-! ### One exchange -/

/-- An exchange whose stages all succeed. -/
theorem transmitInSession_run {τ β : Type} [Transport τ] [Scp03Backend β] [Scp02Backend β]
    {session : ScpSession} {capdu wire : Capdu} {rapdu : Rapdu} {out : List UInt8}
    {w : World τ β} {b b' : β} {t : τ} (hwrap : wrapCommand session capdu w.backend = (.ok wire, b))
    (htransmit : Transport.transmit wire w.transport = (.ok rapdu, t))
    (hunwrap : unwrapResponse session rapdu.octets b = (.ok out, b')) :
    transmitInSession session capdu w = (splitSw out, ⟨t, b', w.sent ++ [capdu]⟩) := by
  have hexchange : exchange capdu wire ({ w with backend := b } : World τ β) =
      (.ok rapdu, ⟨t, b, w.sent ++ [capdu]⟩) := by
    unfold exchange Workflow.note
    rw [Prog.bind_ok (Prog.update_run _ _)]
    simp only [Prog.zoom, Prog.mapErr, htransmit]
  have honUnwrap : onBackend (unwrapResponse session rapdu.octets)
      (⟨t, b, w.sent ++ [capdu]⟩ : World τ β) = (.ok out, ⟨t, b', w.sent ++ [capdu]⟩) :=
    onBackend_run hunwrap
  unfold transmitInSession
  rw [Prog.bind_ok (onBackend_run hwrap), Prog.bind_ok hexchange, Prog.bind_ok honUnwrap]
  rfl

/-- An exchange that the wrapper refuses. -/
theorem transmitInSession_refused {τ β : Type} [Transport τ] [Scp03Backend β] [Scp02Backend β]
    {session : ScpSession} {capdu : Capdu} {w : World τ β} {e : ScllError}
    (hwrap : wrapCommand session capdu w.backend = (.error e, w.backend)) :
    transmitInSession session capdu w = (.error e, w) := by
  have hrun : onBackend (wrapCommand session capdu) w = (.error e, w) := onBackend_run hwrap
  unfold transmitInSession
  rw [Prog.bind_error hrun]

section ideal

variable {session : ScpSession} {b : IdealBackend P ρ} {capdu : Capdu}

theorem wrapCommand_ideal {c : Command} {next : IdealChannel}
    (h : b.channel.accept capdu = .ok (c, next)) :
    wrapCommand session capdu b = (.ok capdu, { b with channel := next }) := by
  have hwrap : IdealBackend.wrap capdu b = (.ok capdu, { b with channel := next }) := by
    unfold IdealBackend.wrap
    rw [h]
  cases session with
  | scp03 s => exact ofBackend_eq_ok.mpr hwrap
  | scp02 s => exact ofBackend_eq_ok.mpr hwrap

theorem wrapCommand_ideal_error {e : BackendError} (h : b.channel.accept capdu = .error e) :
    wrapCommand session capdu b = (.error (.backend e), b) := by
  have hwrap : IdealBackend.wrap capdu b = (.error e, b) := by
    unfold IdealBackend.wrap
    rw [h]
  cases session with
  | scp03 s => exact ofBackend_error hwrap
  | scp02 s => exact ofBackend_error hwrap

theorem unwrapResponse_ideal (rapdu : List UInt8) :
    unwrapResponse session rapdu b = (.ok rapdu, b) := by
  cases session <;> rfl

/-- What the ideal channel admits, the application performs. -/
theorem transmitInSession_admitted [CardApplication α] {w : World (IdealCard α) (IdealBackend P ρ)}
    {c : Command} {next : IdealChannel} {reply : AppReply} {app : α}
    (haccept : w.backend.channel.accept capdu = .ok (c, next))
    (hperform : CardApplication.perform c w.transport.app = (reply, app)) :
    transmitInSession session capdu w =
      (.ok (reply.data, reply.sw),
        ⟨⟨app⟩, { w.backend with channel := next }, w.sent ++ [capdu]⟩) := by
  have hanswer : Transport.transmit capdu w.transport =
      (.ok (w.transport.answer capdu).1, (w.transport.answer capdu).2) := rfl
  unfold IdealCard.answer at hanswer
  rw [IdealChannel.plainCommand_of_accept haccept] at hanswer
  dsimp only at hanswer
  rw [hperform] at hanswer
  rw [transmitInSession_run (wrapCommand_ideal P haccept) hanswer (unwrapResponse_ideal P _),
    splitSw_ofAnswer (le_trans reply.small (by decide))]

end ideal

/-- The two worlds have the same application, and the ideal channel has the room that
    the real one has, whose two ends are in step. -/
structure InIdeal (session : ScpSession) (w : World (ServedCard P α) (RustCryptoBackend P ρ))
    (w' : World (IdealCard α) (IdealBackend P ρ)) : Prop where
  app : w'.transport.app = w.transport.app
  sent : w'.sent = w.sent
  room : w'.backend.channel = IdealChannel.ofSession session w.backend
  vault : SameVault session w.backend w'.backend.vault
  locked : ∃ ch, w.transport.channel = some ch ∧ Locked w.backend session ch

variable {P}

/-- The card's channel moves on as its kind. -/
theorem channel_setChannel {session : ScpSession} {sd : HonestDomain P} {ch ch' : CardChannel}
    {st st' : BackendState ρ} (hsd : sd.channel = some ch) (h : Locked st session ch)
    (h' : Locked st' session ch') : (sd.setChannel ch').channel = some ch' := by
  cases h with
  | scp03 hagree =>
    cases h' with
    | scp03 hagree' =>
      cases sd with
      | scp03 sd => rfl
      | scp02 sd =>
        unfold HonestDomain.channel at hsd
        dsimp only at hsd
        split at hsd <;> cases hsd
  | scp02 hagree =>
    cases h' with
    | scp02 hagree' =>
      cases sd with
      | scp02 sd => rfl
      | scp03 sd =>
        unfold HonestDomain.channel at hsd
        dsimp only at hsd
        split at hsd <;> cases hsd

section exchange

variable [Issuer P α]

/-- The card serves a command that its channel recovers. -/
theorem answer_served {c : ServedCard P α} {ch ch' : CardChannel} {wire : List UInt8}
    {cmd : Command} (hch : c.channel = some ch) (hsecure : IsSecure wire)
    (hreceive : ch.receive P wire = some (cmd, ch')) :
    c.answer wire =
      (.ofAnswer (ch'.respond P (CardApplication.perform cmd c.app).1).1
          (CardApplication.perform cmd c.app).1.sw,
        ⟨c.front.setDomain (c.front.domain.setChannel
            (ch'.respond P (CardApplication.perform cmd c.app).1).2),
          (CardApplication.perform cmd c.app).2⟩) := by
  unfold ServedCard.answer
  rw [hch]
  dsimp only
  rw [if_neg hsecure]
  unfold ServedCard.serve
  rw [hreceive]

/-- One exchange keeps the two worlds alike. -/
theorem transmitInSession_ideal (session : ScpSession) (capdu : Capdu) :
    Prog.Simulates (InIdeal P session) (InIdeal P session)
      (transmitInSession session capdu :
        Prog (World (ServedCard P α) (RustCryptoBackend P ρ)) ScllError _)
      (transmitInSession session capdu) := by
  intro w w' h
  obtain ⟨happ, hsent, hroom, hvault, ch, hch, hlocked⟩ := h
  rcases wrapped P hlocked capdu with ⟨e, hideal, hreal⟩ |
    ⟨c, next, wire, st, ch₁, hideal, hreal, hreceive, hsecure, hawait, hnext, hvault₁⟩
  · rw [transmitInSession_refused hreal,
      transmitInSession_refused (wrapCommand_ideal_error P (by rw [hroom]; exact hideal))]
    exact ⟨rfl, happ, hsent, hroom, hvault, ch, hch, hlocked⟩
  · obtain ⟨st', hunwrap, hlocked', hroom', hvault'⟩ :=
      unwrap_reply P hawait (CardApplication.perform c w.transport.app).1
    have hplain := IdealChannel.plainCommand_of_accept hideal
    have hserved : Transport.transmit wire w.transport =
        (.ok (w.transport.answer wire).1, (w.transport.answer wire).2) := rfl
    have hperformed : Transport.transmit capdu w'.transport =
        (.ok (w'.transport.answer capdu).1, (w'.transport.answer capdu).2) := rfl
    rw [answer_served hch hsecure hreceive] at hserved
    unfold IdealCard.answer at hperformed
    rw [hplain, happ] at hperformed
    rw [transmitInSession_run hreal hserved hunwrap,
      transmitInSession_run (wrapCommand_ideal P (by rw [hroom]; exact hideal)) hperformed
        (unwrapResponse_ideal P _)]
    refine ⟨rfl, rfl, by rw [hsent], ?_, ?_, _, channel_setChannel hch hlocked hlocked', hlocked'⟩
    · exact (hroom'.trans hnext).symm
    · exact ⟨hvault'.keys.trans (hvault₁.keys.trans hvault.keys),
        hvault'.dek.trans (hvault₁.dek.trans hvault.dek)⟩

end exchange

/-! ### The payload of PUT KEY -/

section vault

variable {st st' : BackendState ρ}

theorem readAesKey_congr (h : st.keys = st'.keys) (k : KeyHandle) :
    readAesKey st k = readAesKey st' k := by
  unfold readAesKey
  rw [h]

theorem readTdesKey_congr (h : st.keys = st'.keys) (k : KeyHandle) :
    Scp02.readTdesKey st k = Scp02.readTdesKey st' k := by
  unfold Scp02.readTdesKey
  rw [h]

theorem computeKcv_congr (h : st.keys = st'.keys) (k : KeyHandle) :
    computeKcv P k st = computeKcv P k st' := by
  unfold computeKcv
  rw [h]

theorem scp03EncryptPutKeyPayload_congr (h : st.keys = st'.keys) (dek new : KeyHandle) :
    scp03EncryptPutKeyPayload P dek new st = scp03EncryptPutKeyPayload P dek new st' := by
  unfold scp03EncryptPutKeyPayload
  rw [readAesKey_congr h, readAesKey_congr h]

/-- Of its slot, the payload reads the DEK alone. -/
theorem scp02EncryptPutKeyPayload_congr {s : Scp02.Scp02State}
    (h : SameVault (.scp02 s) st st') (new : KeyHandle) :
    scp02EncryptPutKeyPayloadForSession P s.session new st =
      scp02EncryptPutKeyPayloadForSession P s.session new st' := by
  have hdek : (st.scp02Sessions.get s.session.index.toNat).map Scp02SessionSlot.sDek =
      (st'.scp02Sessions.get s.session.index.toNat).map Scp02SessionSlot.sDek := h.dek
  unfold scp02EncryptPutKeyPayloadForSession
  rw [readTdesKey_congr h.keys]
  cases hslot : st.scp02Sessions.get s.session.index.toNat with
  | none =>
    cases hslot' : st'.scp02Sessions.get s.session.index.toNat with
    | none => rfl
    | some slot' =>
      rw [hslot, hslot'] at hdek
      cases hdek
  | some slot =>
    cases hslot' : st'.scp02Sessions.get s.session.index.toNat with
    | none =>
      rw [hslot, hslot'] at hdek
      cases hdek
    | some slot' =>
      rw [hslot, hslot'] at hdek
      rw [okOr_some, okOr_some, ok_bind, ok_bind]
      simp only [Option.map_some, Option.some.injEq] at hdek
      rw [hdek]

end vault

/-- The two backends, as they stand. -/
def Stand (st : RustCryptoBackend P ρ) (b : IdealBackend P ρ) :
    RustCryptoBackend P ρ → IdealBackend P ρ → Prop := fun s s' => s = st ∧ s' = b

theorem encryptNewKey_ideal {session : ScpSession} {st : RustCryptoBackend P ρ}
    {b : IdealBackend P ρ} (h : SameVault session st b.vault) (dek new : KeyHandle) :
    Prog.Simulates (Stand st b) (Stand st b) (encryptNewKey session dek new)
      (encryptNewKey session dek new) := by
  cases session with
  | scp03 s =>
    apply Prog.Simulates.mapErr
    apply Prog.Simulates.query
    intro s s' hs
    rw [hs.1, hs.2]
    exact scp03EncryptPutKeyPayload_congr h.keys dek new
  | scp02 s =>
    apply Prog.Simulates.mapErr
    apply Prog.Simulates.query
    intro s s' hs
    rw [hs.1, hs.2]
    exact scp02EncryptPutKeyPayload_congr h new

variable [RngCore ρ]

theorem computeKcv_ideal {session : ScpSession} {st : RustCryptoBackend P ρ}
    {b : IdealBackend P ρ} (h : SameVault session st b.vault) (k : KeyHandle) :
    Prog.Simulates (Stand st b) (Stand st b)
      (ofBackend (KeyBackend.computeKcv k)) (ofBackend (KeyBackend.computeKcv k)) := by
  apply Prog.Simulates.mapErr
  apply Prog.Simulates.query
  intro s s' hs
  rw [hs.1, hs.2]
  exact computeKcv_congr h.keys k

/-- The payload is the same, and only reads. -/
theorem putKeyCommand_ideal (session : ScpSession) (args : PutSdKeysArgs) :
    Prog.Simulates (InIdeal P session) (InIdeal P session)
      (onBackend (putKeyCommand session args) :
        Prog (World (ServedCard P α) (RustCryptoBackend P ρ)) ScllError _)
      (onBackend (putKeyCommand session args)) := by
  intro w w' h
  have hvault := h.vault
  have hread : Prog.Simulates (Stand w.backend w'.backend) (Stand w.backend w'.backend)
      (putKeyCommand session args) (putKeyCommand session args) := by
    unfold putKeyCommand
    apply Prog.Simulates.bind (encryptNewKey_ideal hvault _ _)
    intro _
    apply Prog.Simulates.bind (encryptNewKey_ideal hvault _ _)
    intro _
    apply Prog.Simulates.bind (encryptNewKey_ideal hvault _ _)
    intro _
    apply Prog.Simulates.bind (computeKcv_ideal hvault _)
    intro _
    apply Prog.Simulates.bind (computeKcv_ideal hvault _)
    intro _
    apply Prog.Simulates.bind (computeKcv_ideal hvault _)
    intro _
    exact .bind (.lift _) fun _ => .pure _
  obtain ⟨hout, hstate, hstate'⟩ := hread w.backend w'.backend ⟨rfl, rfl⟩
  have hrun : onBackend (putKeyCommand session args) w =
      ((putKeyCommand session args w.backend).1, w) := onBackend_run (Prod.ext rfl hstate)
  have hrun' : onBackend (putKeyCommand session args) w' =
      ((putKeyCommand session args w'.backend).1, w') := onBackend_run (Prod.ext rfl hstate')
  rw [hrun, hrun']
  exact ⟨hout, h⟩

variable [Issuer P α]

theorem alike_ideal (session : ScpSession) :
    Alike (InIdeal (ρ := ρ) (α := α) P session) session where
  transmit := transmitInSession_ideal session
  payload := putKeyCommand_ideal session

/-! ### Whole runs -/

variable {δ : Type}

/-- Through a channel whose two ends are in step, a sequence of calls reports what it
    reports over the ideal channel, leaves the same application and has sent the same
    commands; and the two ends are in step again. -/
theorem calls_ideal (I : Inflater δ) {session : ScpSession}
    {m : CardManager (ServedCard P α) (RustCryptoBackend P ρ)} {ch : CardChannel}
    (hretained : m.session = some session) (hch : m.world.transport.channel = some ch)
    (hlocked : Locked m.world.backend session ch) (cs : List (SessionCall δ)) :
    (Prog.calls (cs.map (sessionCall I)) m).1 =
        (Prog.calls (cs.map (sessionCall I)) (m.ideal session)).1 ∧
      ManagersAlike (InIdeal P session) session (Prog.calls (cs.map (sessionCall I)) m).2
        (Prog.calls (cs.map (sessionCall I)) (m.ideal session)).2 := by
  have hstart : ManagersAlike (InIdeal P session) session m (m.ideal session) :=
    ⟨hretained, hretained, rfl, rfl, rfl, rfl, ⟨rfl, rfl⟩, ch, hch, hlocked⟩
  exact Prog.Simulates.calls (fun c => sessionCall_alike I (alike_ideal session) c) cs hstart

end Scll
