import Scll.Backend.Machine
import Scll.ServedOpen
import Scll.SlotLeak

/-! # Visits

    A visit opens a channel, makes calls through it and closes it again. What the
    host keeps between visits is its key table, and what the card keeps is its
    face: the names it goes by and what it answers to them. Neither is touched by
    a visit, and the slot of the channel is given back; the application has seen
    what it would have seen over the ideal channel.
-/

namespace Scll

open Cap Workflow
open SlotLeak (wrapCommand_state unwrapResponse_state putKeyCommand_leaves)

variable (P : Primitives) {ρ α : Type}

/-! ### What stays -/

/-- The host's keys and the face of the card are the same. -/
def steady : Prog.Frame (World (ServedCard P α) (RustCryptoBackend P ρ)) where
  rel w w' := BackendState.keys w'.backend = BackendState.keys w.backend ∧
    w'.transport.front.accepts = w.transport.front.accepts ∧
    w'.transport.front.fci = w.transport.front.fci
  refl _ := ⟨rfl, rfl, rfl⟩
  trans h h' := ⟨h'.1.trans h.1, h'.2.1.trans h.2.1, h'.2.2.trans h.2.2⟩

variable {P}

namespace HonestCard

/-- A card keeps its face. -/
theorem answer_face (capdu : List UInt8) (card : HonestCard (HonestDomain P)) :
    (card.answer capdu).2.accepts = card.accepts ∧ (card.answer capdu).2.fci = card.fci := by
  unfold answer
  split
  · split
    · split <;> exact ⟨rfl, rfl⟩
    · split
      · exact ⟨rfl, rfl⟩
      · split
        · split <;> exact ⟨rfl, rfl⟩
        · split
          · split <;> exact ⟨rfl, rfl⟩
          · exact ⟨rfl, rfl⟩
  · exact ⟨rfl, rfl⟩

end HonestCard

namespace ServedCard

variable [Issuer P α]

theorem answerPlain_face (capdu : List UInt8) (c : ServedCard P α) :
    (answerPlain capdu c).2.front.accepts = c.front.accepts ∧
      (answerPlain capdu c).2.front.fci = c.front.fci := by
  unfold answerPlain
  split
  · split
    · unfold challenge
      split
      · exact ⟨rfl, rfl⟩
      · exact HonestCard.answer_face _ (c.front.setDomain _)
    · split
      · unfold authenticate
        dsimp only
        split <;> exact HonestCard.answer_face _ c.front
      · exact HonestCard.answer_face _ c.front
  · exact HonestCard.answer_face _ c.front

theorem answer_face (capdu : List UInt8) (c : ServedCard P α) :
    (c.answer capdu).2.front.accepts = c.front.accepts ∧
      (c.answer capdu).2.front.fci = c.front.fci := by
  unfold answer
  split
  · split
    · exact answerPlain_face capdu c
    · unfold serve
      split <;> exact ⟨rfl, rfl⟩
  · exact answerPlain_face capdu c

end ServedCard

section steady

/-- A backend call that stores no key. -/
theorem onBackend_steady {γ : Type} {m : Prog (RustCryptoBackend P ρ) ScllError γ}
    (h : ∀ st, BackendState.keys (m st).2 = BackendState.keys st) :
    (onBackend m : Prog (World (ServedCard P α) (RustCryptoBackend P ρ)) ScllError _).Keeps
      (steady P) :=
  fun w => ⟨h w.backend, rfl, rfl⟩

variable [Issuer P α]

theorem exchange_steady (plain wire : Capdu) :
    (exchange plain wire : Prog (World (ServedCard P α) (RustCryptoBackend P ρ))
      ScllError _).Keeps (steady P) :=
  .bind (fun _ => ⟨rfl, rfl, rfl⟩) fun _ w => ⟨rfl, ServedCard.answer_face wire w.transport⟩

theorem transmitPlain_steady (capdu : Capdu) :
    (transmitPlain capdu : Prog (World (ServedCard P α) (RustCryptoBackend P ρ))
      ScllError _).Keeps (steady P) :=
  .bind (exchange_steady _ _) fun _ => .lift _

theorem transmitInSession_steady (session : ScpSession) (capdu : Capdu) :
    (transmitInSession session capdu : Prog (World (ServedCard P α) (RustCryptoBackend P ρ))
      ScllError _).Keeps (steady P) := by
  have hwrap : ∀ st : RustCryptoBackend P ρ,
      BackendState.keys (wrapCommand session capdu st).2 = BackendState.keys st := by
    intro st
    rw [wrapCommand_state]
    exact (sessionStep_frame P _ st).keys
  have hunwrap : ∀ rapdu, ∀ st : RustCryptoBackend P ρ,
      BackendState.keys (unwrapResponse session rapdu st).2 = BackendState.keys st := by
    intro rapdu st
    rw [unwrapResponse_state]
    exact (sessionStep_frame P _ st).keys
  exact .bind (onBackend_steady hwrap) fun _ => .bind (exchange_steady _ _) fun _ =>
    .bind (onBackend_steady (hunwrap _)) fun _ => .lift _

theorem steady_keptInSession [RngCore ρ] (session : ScpSession) :
    KeptInSession (steady (ρ := ρ) (α := α) P) session where
  transmit := transmitInSession_steady session
  payload args := onBackend_steady fun st => by rw [putKeyCommand_leaves P]

/-- What `begin` takes from the key table, it leaves there. -/
theorem begin03_keys [RngCore ρ] {enc mac : KeyHandle} {kvn requested : UInt8}
    {hostChallenge aid iuData ea : List UInt8} {state : Scp03.Scp03State}
    {st st' : RustCryptoBackend P ρ}
    (h : Scp03.begin enc mac kvn requested hostChallenge aid iuData st = (.ok (state, ea), st')) :
    BackendState.keys st' = BackendState.keys st := by
  obtain ⟨iu, s, level, eaPlain, st₁, -, -, hderive, -, hwrap, -⟩ := (Scp03.begin_eq_ok P).mp h
  have hframe := (sessionStep_frame P (.wrap (.scp03 s) eaPlain) st₁).keys
  rw [show (sessionStep P (.wrap (.scp03 s) eaPlain) st₁).2 =
    (scp03WrapCommand P s eaPlain st₁).2 from rfl, hwrap] at hframe
  exact hframe.trans (scp03DeriveSession_slot P hderive).1

theorem begin02_keys [RngCore ρ] {enc mac dek : KeyHandle} {iParam kvn requested : UInt8}
    {hostChallenge : BlockMode.Block 8} {iuData ea : List UInt8} {state : Scp02.Scp02State}
    {st st' : RustCryptoBackend P ρ}
    (h : Scp02.begin enc mac dek iParam kvn requested hostChallenge iuData st =
      (.ok (state, ea), st')) :
    BackendState.keys st' = BackendState.keys st := by
  obtain ⟨iu, s, level, eaPlain, st₁, -, -, hderive, -, hwrap, -⟩ := (Scp02.begin_eq_ok P).mp h
  have hframe := (sessionStep_frame P (.wrap (.scp02 s) eaPlain) st₁).keys
  rw [show (sessionStep P (.wrap (.scp02 s) eaPlain) st₁).2 =
    (scp02WrapCommand P s eaPlain st₁).2 from rfl, hwrap] at hframe
  exact hframe.trans (scp02DeriveSession_slot P hderive).1

section opening

theorem initializeUpdate_steady (iu : Except ScllError Capdu) :
    (initializeUpdate iu : Prog (World (ServedCard P α) (RustCryptoBackend P ρ))
      ScllError _).Keeps (steady P) :=
  .bind (.lift _) fun _ => .bind (transmitPlain_steady _) fun _ => .lift _

theorem selectTarget_steady (args : OpenScpArgs) :
    (selectTarget args : Prog (World (ServedCard P α) (RustCryptoBackend P ρ))
      ScllError _).Keeps (steady P) :=
  .bind (.lift _) fun _ => .bind (.bind (.lift _) fun _ => .bind (transmitPlain_steady _)
    fun _ => .lift _) fun _ => .bind (.lift _) fun _ => .pure _

variable [RngCore ρ]

theorem challenge03_steady (args : OpenScpArgs) (iParam : UInt8) :
    (challenge03 args iParam : Prog (World (ServedCard P α) (RustCryptoBackend P ρ))
      ScllError _).Keeps (steady P) :=
  .bind (onBackend_steady fun _ => rfl) fun _ => .bind (initializeUpdate_steady _) fun _ => .pure _

theorem challenge02_steady (args : OpenScpArgs) :
    (challenge02 args : Prog (World (ServedCard P α) (RustCryptoBackend P ρ))
      ScllError _).Keeps (steady P) :=
  .bind (onBackend_steady fun _ => rfl) fun _ => .bind (initializeUpdate_steady _) fun _ => .pure _

theorem begun_steady {args : OpenScpArgs} {target : OpenTarget} {ea : Capdu} {opened : Opened}
    {w w' : World (ServedCard P α) (RustCryptoBackend P ρ)}
    (h : Begun args target w ea opened w') : (steady P).rel w w' := by
  cases h with
  | scp03 hvariant hchallenge hparsed hbegin =>
    obtain ⟨hkeys, hface⟩ := Prog.Keeps.rel_of_ok (challenge03_steady args _) hchallenge
    exact ⟨(begin03_keys hbegin).trans hkeys, hface⟩
  | scp02 hvariant hchallenge hparsed hbegin =>
    obtain ⟨hkeys, hface⟩ := Prog.Keeps.rel_of_ok (challenge02_steady args) hchallenge
    exact ⟨(begin02_keys hbegin).trans hkeys, hface⟩

/-- An open that succeeds stores no key and leaves the card its face. -/
theorem openScp_steady {args : OpenScpArgs} {report : OpenScpReport}
    {w w' : World (ServedCard P α) (RustCryptoBackend P ρ)}
    (h : openScp args w = (.ok report, w')) : (steady P).rel w w' := by
  obtain ⟨target, w₀, ea, opened, w₁, data, htarget, hbegun, hanswered, -⟩ := openScp_ok h
  have hstart := Prog.Keeps.rel_of_ok (selectTarget_steady args) htarget
  have hend : (steady P).rel w₁ w' := by
    refine ⟨?_, ?_⟩
    · rw [hanswered.backend]
    · rw [hanswered.sent.transport]
      exact ServedCard.answer_face ea w₁.transport
  exact (steady P).trans hstart ((steady P).trans (begun_steady hbegun) hend)

end opening

end steady

/-! ### A channel that was just opened -/

/-- There is room for `n` more commands, each as long as a LOAD block at most. -/
structure IdealChannel.RoomFor (n : ℕ) (ch : IdealChannel) : Prop where
  counted : ∀ k, ch.remaining = some k → n ≤ k
  block : ∀ k, ch.block = some k → k ≤ 16
  mac : ch.macLen ≤ 16

/-- How many commands fit through a channel that was just opened, if they are counted. -/
def FRESH_ROOM : ℕ := 2 ^ 32 - 1

theorem IdealChannel.RoomFor.mono {ch : IdealChannel} {m n : ℕ} (h : ch.RoomFor n) (hle : m ≤ n) :
    ch.RoomFor m :=
  ⟨fun k hk => hle.trans (h.counted k hk), h.block, h.mac⟩

/-- Counting a command takes the room of one. -/
theorem IdealChannel.count_of_roomFor {ch : IdealChannel} {n : ℕ} (h : ch.RoomFor (n + 1)) :
    ∃ next, ch.count = .ok next ∧ next.RoomFor n := by
  unfold IdealChannel.count
  split
  · next hfree =>
    refine ⟨ch, rfl, ?_, h.block, h.mac⟩
    intro k hk
    rw [hfree] at hk
    cases hk
  · next hzero =>
    have hpos := h.counted 0 hzero
    omega
  · next k hk =>
    have hpos := h.counted (k + 1) hk
    refine ⟨{ ch with remaining := some k }, rfl, ?_, h.block, h.mac⟩
    intro k' hk'
    obtain rfl := Option.some.inj hk'
    omega

/-- A command that is no longer than a LOAD block is accepted. -/
theorem IdealChannel.accept_of_roomFor {ch : IdealChannel} {n : ℕ} (h : ch.RoomFor (n + 1))
    (cla ins p1 p2 : UInt8) {data : List UInt8} (hne : data ≠ [])
    (hlen : data.length ≤ LOAD_BLOCK_DATA) (le : Bool) :
    ∃ next, ch.accept (cla :: ins :: p1 :: p2 :: Capdu.tailOctets data le) =
      .ok (⟨ins, p1, p2, data⟩, next) ∧ next.RoomFor n := by
  obtain ⟨next, hcount, hnext⟩ := count_of_roomFor h
  have hmax : LOAD_BLOCK_DATA = 223 := rfl
  -- padded to whole blocks, the data are at most sixteen octets longer
  have hbody : ch.bodyLength data ≤ 239 := by
    unfold IdealChannel.bodyLength
    split
    · next n hblock =>
      have hn := h.block n hblock
      rw [if_neg hne]
      omega
    · omega
  have hmac := h.mac
  have hle : (if le = true then [0x00] else [] : List UInt8).length ≤ 1 := by
    cases le <;> decide
  have htake : ch.take (Capdu.tailOctets data le) = .ok (data, next) := by
    unfold IdealChannel.take
    rw [commandData_tailOctets hne (by omega), ok_bind]
    dsimp only
    rw [hcount, ok_bind, if_neg (by omega), if_neg]
    intro hfull
    have hmax : CAPDU_MAX = 261 := rfl
    omega
  refine ⟨next, ?_, hnext⟩
  unfold IdealChannel.accept
  dsimp only
  rw [htake]
  rfl

/-- One exchange with an application over the ideal channel. -/
theorem exchange_admitted [CardApplication α] (session : ScpSession)
    {w : World (IdealCard α) (IdealBackend P ρ)} {n : ℕ} (hroom : w.backend.channel.RoomFor (n + 1))
    (cla ins p1 p2 : UInt8) {data : List UInt8} (hne : data ≠ [])
    (hlen : data.length ≤ LOAD_BLOCK_DATA) (le : Bool) {reply : AppReply} {app : α}
    (hperform : CardApplication.perform ⟨ins, p1, p2, data⟩ w.transport.app = (reply, app)) :
    ∃ w', transmitInSession session (cla :: ins :: p1 :: p2 :: Capdu.tailOctets data le) w =
        (.ok (reply.data, reply.sw), w') ∧
      w'.transport.app = app ∧ w'.backend.channel.RoomFor n := by
  obtain ⟨next, haccept, hnext⟩ := IdealChannel.accept_of_roomFor hroom cla ins p1 p2 hne hlen le
  exact ⟨_, transmitInSession_admitted P haccept hperform, rfl, hnext⟩

/-- EXTERNAL AUTHENTICATE is not counted. -/
theorem Scp03Card.counter_of_first {card card' : Scp03Card} {capdu : List UInt8} {cmd : Command}
    (hfirst : card.opened = false) (h : card.receive P capdu = some (cmd, card')) :
    card'.counter = card.counter := by
  unfold Scp03Card.receive at h
  split at h
  · dsimp only at h
    split at h
    · cases h
    · split at h
      · cases h
      · split at h
        · cases h
        · obtain ⟨q, hq, hcard⟩ := Option.map_eq_some_iff.mp h
          obtain ⟨-, rfl⟩ := Prod.mk.inj hcard
          unfold Scp03Card.accept at hq
          rw [hfirst, if_neg (by decide)] at hq
          split at hq
          · obtain rfl := Option.some.inj hq
            rfl
          · cases hq
  · cases h

section agreed

variable {args : OpenScpArgs} {iu ea : Capdu} {report : OpenScpReport} {st : BackendState ρ}
  {sd sd' : HonestDomain P}

theorem Workflow.Agreed.roomFor (h : Agreed args iu ea report st sd sd') :
    (IdealChannel.ofSession report.session st).RoomFor FRESH_ROOM := by
  cases h with
  | scp03 hsession _ hverified hagree _ _ =>
    obtain ⟨slot, hslot, -, hstep⟩ := hagree
    -- EXTERNAL AUTHENTICATE is not counted, so all of the counter is left
    have hcounter : slot.counter.toNat = 0 :=
      hstep.counter.trans (Scp03Card.counter_of_first rfl hverified)
    rw [hsession]
    unfold IdealChannel.ofSession
    dsimp only
    rw [hslot]
    show (IdealChannel.of03 slot).RoomFor FRESH_ROOM
    refine ⟨?_, ?_, ?_⟩
    · intro k hk
      have hleft : 2 ^ 32 - 1 - slot.counter.toNat = k := Option.some.inj hk
      unfold FRESH_ROOM
      omega
    · intro n hn
      unfold IdealChannel.of03 at hn
      dsimp only at hn
      split at hn
      · exact Nat.le_of_eq (Option.some.inj hn).symm
      · cases hn
    · show slot.mode.macLen ≤ 16
      cases slot.mode <;> decide
  | scp02 hsession _ _ hagree _ _ _ =>
    obtain ⟨slot, hslot, -, -⟩ := hagree
    rw [hsession]
    unfold IdealChannel.ofSession
    dsimp only
    rw [hslot]
    show (IdealChannel.of02 slot).RoomFor FRESH_ROOM
    refine ⟨?_, ?_, ?_⟩
    · intro k hk
      cases hk
    · intro n hn
      unfold IdealChannel.of02 at hn
      dsimp only at hn
      split at hn
      · rw [← Option.some.inj hn]
        decide
      · cases hn
    · show 8 ≤ 16
      decide

/-- It is the same Security Domain that the channel is open with. -/
theorem Workflow.Agreed.same (h : Agreed args iu ea report st sd sd') :
    report.session.protocol = sd.protocol ∧ HonestDomain.forget sd' = HonestDomain.forget sd ∧
      sessionDek report.session st = sd.sessionDek := by
  cases h with
  | scp03 hsession _ _ _ _ _ =>
    rw [hsession]
    exact ⟨rfl, rfl, rfl⟩
  | scp02 hsession _ _ _ hdek _ _ =>
    rw [hsession]
    exact ⟨rfl, rfl, hdek⟩

end agreed

/-- The manager `m'` is `m` with a channel that was just opened to `sd`. -/
structure Entered [Issuer P α] (sd : HonestDomain P) (session : ScpSession)
    (m m' : CardManager (ServedCard P α) (RustCryptoBackend P ρ)) : Prop where
  retained : m'.session = some session
  protocol : session.protocol = sd.protocol
  domain : HonestDomain.forget m'.world.transport.front.domain = HonestDomain.forget sd
  app : m'.world.transport.app =
    Issuer.opened m'.world.transport.front.domain m.world.transport.app
  dek : sessionDek session m'.world.backend = sd.sessionDek
  room : (IdealChannel.ofSession session m'.world.backend).RoomFor FRESH_ROOM
  steady : (steady P).rel m.world m'.world
  locked : ∃ ch, m'.world.transport.channel = some ch ∧ Locked m'.world.backend session ch

theorem CardManager.openScp_enters [RngCore ρ] [Issuer P α] {args : OpenScpArgs}
    {m : CardManager (ServedCard P α) (RustCryptoBackend P ρ)} {sd : HonestDomain P}
    (hmeets : MeetsServed args m.world.transport m.world.backend sd) :
    ∃ effective session m', CardManager.openScp args m = (.ok effective, m') ∧
      Entered sd session m m' := by
  obtain ⟨sel, iu, ea, report, world, hopen, -, hagreed, happ⟩ := Workflow.openScp_served hmeets
  have hrun : workflow (Workflow.openScp args) m = (.ok report, { m with world := world }) := by
    unfold workflow Prog.zoom
    rw [hopen]
  obtain ⟨hprotocol, hdomain, hdek⟩ := hagreed.same
  refine ⟨report.effective, report.session,
    { m with world := world, session := some report.session }, ?_, rfl, ?_, ?_, happ, ?_,
    hagreed.roomFor, openScp_steady hopen, hagreed.locked⟩
  · unfold CardManager.openScp
    rw [Prog.bind_ok hrun]
    rfl
  · cases sd <;> exact hprotocol
  · exact hdomain.trans (HonestDomain.forget_forget sd)
  · cases sd <;> exact hdek

/-! ### Closing -/

/-- There is a session slot left. -/
def FreeSlot (protocol : ScpProtocol) (st : BackendState ρ) : Prop :=
  match protocol with
  | .scp03 => ∃ i : Fin MAX_SESSION_SLOTS, st.sessions.get i = none
  | .scp02 => ∃ i : Fin MAX_SESSION_SLOTS, st.scp02Sessions.get i = none

/-- A channel that is closed leaves its slot free. -/
theorem freeSlot_close {session : ScpSession} {st : RustCryptoBackend P ρ} {ch : CardChannel}
    (h : Locked st session ch) :
    FreeSlot session.protocol (CardManager.closeSession session st : RustCryptoBackend P ρ) := by
  cases h with
  | scp03 hagree =>
    obtain ⟨slot, hslot, -⟩ := hagree
    exact ⟨⟨_, SlotTable.lt_of_get hslot⟩, SlotTable.get_set_none _ _⟩
  | scp02 hagree =>
    obtain ⟨slot, hslot, -⟩ := hagree
    exact ⟨⟨_, SlotTable.lt_of_get hslot⟩, SlotTable.get_set_none _ _⟩

theorem keys_close (session : ScpSession) (st : RustCryptoBackend P ρ) :
    BackendState.keys (CardManager.closeSession session st : RustCryptoBackend P ρ) =
      BackendState.keys st := by
  cases session <;> rfl

/-! ### Visits -/

section visits

/-- Open a channel, make a call through it, and close it. -/
def CardManager.visit {τ β γ : Type} [Transport τ] [KeyBackend β] [Scp03Backend β] [Scp02Backend β]
    (args : OpenScpArgs) (call : Prog (CardManager τ β) ScllError γ) :
    Prog (CardManager τ β) ScllError γ := do
  let _ ← CardManager.openScp args
  let r ← call
  CardManager.closeChannel
  pure r

/-- The manager has no channel, and room for one. -/
structure Rested (protocol : ScpProtocol)
    (m : CardManager (ServedCard P α) (RustCryptoBackend P ρ)) : Prop where
  closed : m.session = none
  free : FreeSlot protocol m.world.backend

variable [RngCore ρ] [Issuer P α]

/-- A call that keeps the host's keys and the face of the card. -/
def Unobtrusive {γ : Type}
    (call : Prog (CardManager (ServedCard P α) (RustCryptoBackend P ρ)) ScllError γ) : Prop :=
  ∀ m, (steady P).rel m.world (call m).2.world

/-- A visit goes as its call goes over the ideal channel. -/
theorem CardManager.visit_served {γ : Type} {args : OpenScpArgs}
    {m : CardManager (ServedCard P α) (RustCryptoBackend P ρ)} {sd : HonestDomain P}
    (call : Prog (CardManager (ServedCard P α) (RustCryptoBackend P ρ)) ScllError γ)
    (call' : Prog (CardManager (IdealCard α) (IdealBackend P ρ)) ScllError γ)
    (hmeets : MeetsServed args m.world.transport m.world.backend sd)
    (halike : ∀ session, Prog.Simulates (ManagersAlike (InIdeal P session) session)
      (ManagersAlike (InIdeal P session) session) call call')
    (hsteady : Unobtrusive call) :
    ∃ session m₁, Entered sd session m m₁ ∧
      ∀ r m', call' (m₁.ideal session) = (.ok r, m') →
        ∃ m₂, CardManager.visit args call m = (.ok r, m₂) ∧ Rested sd.protocol m₂ ∧
          (steady P).rel m.world m₂.world ∧
          m₂.world.transport.app = m'.world.transport.app := by
  obtain ⟨effective, session, m₁, hopen, hentered⟩ := CardManager.openScp_enters hmeets
  refine ⟨session, m₁, hentered, fun r m' hideal => ?_⟩
  have hstart : ManagersAlike (InIdeal P session) session m₁ (m₁.ideal session) :=
    ⟨hentered.retained, hentered.retained, rfl, rfl, rfl, rfl, ⟨rfl, rfl⟩, hentered.locked⟩
  obtain ⟨m₃, hcall, hretained, -, -, hworld⟩ := (halike session).ok hstart hideal
  have hkept : (steady P).rel m₁.world m₃.world := by
    have := hsteady m₁
    rwa [hcall] at this
  obtain ⟨ch, -, hlocked⟩ := hworld.locked
  have hclosed : m₃.close = { m₃ with
      world := { m₃.world with backend := CardManager.closeSession session m₃.world.backend }
      session := none } := by
    unfold CardManager.close
    rw [hretained]
  refine ⟨m₃.close, ?_, ⟨?_, ?_⟩, ?_, ?_⟩
  · have hclose : CardManager.closeChannel m₃ = (.ok (), m₃.close) := rfl
    unfold CardManager.visit
    rw [Prog.bind_ok hopen, Prog.bind_ok hcall, Prog.bind_ok hclose]
    rfl
  · rw [hclosed]
  · rw [hclosed, ← hentered.protocol]
    exact freeSlot_close hlocked
  · rw [hclosed]
    exact (steady P).trans hentered.steady ((steady P).trans hkept ⟨keys_close _ _, rfl, rfl⟩)
  · rw [hclosed]
    exact hworld.app.symm

omit [RngCore ρ] in
/-- Beside the manager that has just opened its channel stands its ideal. -/
theorem Entered.inIdeal {sd : HonestDomain P} {session : ScpSession}
    {m m' : CardManager (ServedCard P α) (RustCryptoBackend P ρ)} (h : Entered sd session m m') :
    InIdeal P session m'.world (m'.ideal session).world :=
  ⟨rfl, rfl, rfl, ⟨rfl, rfl⟩, h.locked⟩

omit [RngCore ρ] [Issuer P α] in
theorem CardManager.inSession_run {τ β γ : Type} {session : ScpSession}
    {f : ScpSession → Prog (World τ β) ScllError γ} {m : CardManager τ β}
    {r : Except ScllError γ} {w : World τ β} (hretained : m.session = some session)
    (hrun : f session m.world = (r, w)) :
    CardManager.inSession f m = (r, { m with world := w }) := by
  unfold CardManager.inSession
  rw [Prog.bind_ok (Prog.read_run m), hretained]
  dsimp only
  unfold workflow Prog.zoom
  rw [hrun, ← hretained]

omit [RngCore ρ] [Issuer P α] in
/-- A workflow that keeps what is to stay is an unobtrusive call. -/
theorem unobtrusive_inSession {γ : Type}
    {f : ScpSession → Prog (World (ServedCard P α) (RustCryptoBackend P ρ)) ScllError γ}
    (h : ∀ session, (f session).Keeps (steady P)) : Unobtrusive (CardManager.inSession f) := by
  intro m
  cases hretained : m.session with
  | none =>
    unfold CardManager.inSession
    rw [Prog.bind_ok (Prog.read_run m), hretained]
    exact (steady P).refl _
  | some session =>
    rw [CardManager.inSession_run hretained rfl]
    exact h session m.world

end visits

/-! ### Runs that a specification accounts for -/

/-- The manager has its channel open, in a world that stands for a state. -/
structure Retaining {τ β σ : Type} (session : ScpSession) (R : World τ β → σ → Prop)
    (m : CardManager τ β) (s : σ) : Prop where
  retained : m.session = some session
  world : R m.world s

section retaining

variable {τ β γ σ : Type} {session : ScpSession} {R S : World τ β → σ → Prop}

/-- What a workflow shows, the call of the manager shows by its report. -/
theorem inSession_shows {κ : Type} {report : κ → SessionReport} {f : κ → γ}
    {shown : SessionReport → γ} {m : ScpSession → Prog (World τ β) ScllError κ}
    {spec : Prog σ ScllError γ} (h : Prog.Shows f R S (m session) spec)
    (hreport : ∀ a, shown (report a) = f a) :
    Prog.Shows shown (Retaining session R) (Retaining session S)
      (reported report (CardManager.inSession m)) spec := by
  intro manager s hs
  obtain ⟨hout, hworld⟩ := h manager.world s hs.world
  have hsplit : m session manager.world =
      ((m session manager.world).1, (m session manager.world).2) := rfl
  have hrun := CardManager.inSession_run hs.retained hsplit
  unfold reported
  cases hr : (m session manager.world).1 with
  | ok a =>
    rw [hr] at hrun hout
    rw [Prog.bind_ok hrun]
    refine ⟨?_, hs.retained, hworld⟩
    rw [← hout]
    exact congrArg Except.ok (hreport a)
  | error e =>
    rw [hr] at hrun hout
    rw [Prog.bind_error hrun]
    exact ⟨hout, hs.retained, hworld⟩

theorem inSessionWith_shows {κ : Type} {report : κ → SessionReport} {f : κ → γ}
    {shown : SessionReport → γ} {m : Capdu.PrivLen → ScpSession → Prog (World τ β) ScllError κ}
    {spec : Prog σ ScllError γ} (h : ∀ privLen, Prog.Shows f R S (m privLen session) spec)
    (hreport : ∀ a, shown (report a) = f a) :
    Prog.Shows shown (Retaining session R) (Retaining session S)
      (reported report (CardManager.inSessionWith m)) spec := by
  intro manager s hs
  exact inSession_shows (h manager.privLen) hreport manager s hs

end retaining

/-- Calls that are accounted for over the ideal channel, one command at a time, are
    accounted for through the channel that was opened. -/
theorem Entered.calls_show [RngCore ρ] [Issuer P α] {γ δ ι σ : Type} {sd : HonestDomain P}
    {session : ScpSession} {m m' : CardManager (ServedCard P α) (RustCryptoBackend P ρ)}
    (hentered : Entered sd session m m') (I : Inflater δ) {shown : SessionReport → γ} {cost : ℕ}
    {R : ℕ → World (IdealCard α) (IdealBackend P ρ) → σ → Prop} {call : ι → SessionCall δ}
    {spec : ι → Prog σ ScllError γ} {is : List ι}
    (hcalls : ∀ i ∈ is, ∀ n, Prog.Shows shown (Retaining session (R (n + cost)))
      (Retaining session (R n)) (sessionCall I (call i)) (spec i))
    {s : σ} (hstart : R (0 + is.length * cost) (m'.ideal session).world s) :
    (Prog.calls (is.map fun i => sessionCall I (call i)) m').1.map (Except.map shown) =
        (Prog.calls (is.map spec) s).1 ∧
      ∃ w, R 0 w (Prog.calls (is.map spec) s).2 ∧ w.transport.app =
        (Prog.calls (is.map fun i => sessionCall I (call i)) m').2.world.transport.app := by
  have hideal : Retaining session (R (0 + is.length * cost)) (m'.ideal session) s :=
    ⟨hentered.retained, hstart⟩
  obtain ⟨hout, hfinal⟩ :=
    Prog.Shows.calls_counted (R := fun n => Retaining session (R n)) hcalls hideal
  have hbeside : ManagersAlike (InIdeal P session) session m' (m'.ideal session) :=
    ⟨hentered.retained, hentered.retained, rfl, hentered.inIdeal⟩
  obtain ⟨hsame, halike⟩ := Prog.Simulates.calls
    (fun i : ι => sessionCall_alike I (alike_ideal session) (call i)) is hbeside
  rw [hsame]
  exact ⟨hout, _, hfinal.world, halike.world.app⟩

end Scll
