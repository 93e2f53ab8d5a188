import Scll.Card.Application
import Scll.Workflow.Parallel

/-! # The ideal channel

    What an open channel is for, without any cryptography: a command that fits
    reaches the application as it was written, and the reply comes back as it
    was given. What does not fit is refused, with the words of the backend; what
    fits depends on the length of the data alone. The payload of PUT KEY is made
    from what the host held when the channel was opened.
-/

namespace Scll

open BlockMode Workflow

/-! ### What fits -/

/-- How much room a channel leaves. -/
structure IdealChannel where
  /-- The commands that are left, where they are counted. -/
  remaining : Option ℕ
  /-- The block length that data are padded to, when they are encrypted. -/
  block : Option ℕ
  macLen : ℕ
  /-- `Le` goes out behind the MAC. -/
  keepsLe : Bool

namespace IdealChannel

/-- The length of the data field before the MAC. -/
def bodyLength (ch : IdealChannel) (data : List UInt8) : ℕ :=
  match ch.block with
  | some n => if data = [] then 0 else data.length + (n - data.length % n)
  | none => data.length

/-- Count a command. -/
def count (ch : IdealChannel) : Except BackendError IdealChannel :=
  match ch.remaining with
  | none => .ok ch
  | some 0 => .error (cryptoErr "command counter overflow")
  | some (n + 1) => .ok { ch with remaining := some n }

/-- The data behind a header, if they fit; or why they do not. -/
def take (rest : List UInt8) (ch : IdealChannel) :
    Except BackendError (List UInt8 × IdealChannel) := do
  let (data, le) ← commandData rest
  let next ← ch.count
  if ch.bodyLength data + ch.macLen > 255 then .error (cryptoErr "wrapped Lc exceeds short APDU")
  else if ch.keepsLe = true ∧ 5 + ch.bodyLength data + ch.macLen + le.length > CAPDU_MAX then
    .error (cryptoErr "buffer overflow")
  else .ok (data, next)

/-- The command that a C-APDU is, if it fits; or why it does not. -/
def accept (capdu : List UInt8) (ch : IdealChannel) :
    Except BackendError (Command × IdealChannel) :=
  match capdu with
  | _ :: ins :: p1 :: p2 :: rest => do
      let (data, next) ← ch.take rest
      .ok (⟨ins, p1, p2, data⟩, next)
  | _ => .error (cryptoErr "C-APDU shorter than header")

/-- The room of an SCP03 slot. -/
def of03 (slot : Scp03SessionSlot) : IdealChannel where
  remaining := some (2 ^ 32 - 1 - slot.counter.toNat)
  block := if slot.level &&& SL_CENC ≠ 0 then some 16 else none
  macLen := slot.mode.macLen
  keepsLe := true

/-- The room of an SCP02 slot. -/
def of02 (slot : Scp02SessionSlot) : IdealChannel where
  remaining := none
  block := if slot.level &&& Scp02.SL_CDEC ≠ 0 then some 8 else none
  macLen := 8
  keepsLe := false

/-- A channel that takes nothing. -/
def shut : IdealChannel := ⟨some 0, none, 0, false⟩

/-- The room of a session, as its slot stands. -/
def ofSession {ρ : Type} (session : ScpSession) (st : BackendState ρ) : IdealChannel :=
  match session with
  | .scp03 s => ((st.sessions.get s.session.index.toNat).map of03).getD shut
  | .scp02 s => ((st.scp02Sessions.get s.session.index.toNat).map of02).getD shut

end IdealChannel

/-- The command in a C-APDU. -/
def plainCommand : List UInt8 → Option Command
  | _ :: ins :: p1 :: p2 :: rest =>
      match commandData rest with
      | .ok (data, _) => some ⟨ins, p1, p2, data⟩
      | .error _ => none
  | _ => none

/-- What is taken is the data field. -/
theorem IdealChannel.commandData_of_take {rest data : List UInt8} {ch next : IdealChannel}
    (h : ch.take rest = .ok (data, next)) : ∃ le, commandData rest = .ok (data, le) := by
  unfold IdealChannel.take at h
  obtain ⟨⟨field, le⟩, hdata, h⟩ := bind_eq_ok.mp h
  obtain ⟨counted, -, h⟩ := bind_eq_ok.mp h
  split at h
  · cases h
  · split at h
    · cases h
    · obtain ⟨rfl, -⟩ := Prod.mk.inj (Except.ok.inj h)
      exact ⟨le, hdata⟩

/-- What is admitted is the command in the C-APDU. -/
theorem IdealChannel.plainCommand_of_accept {capdu : List UInt8} {ch next : IdealChannel}
    {c : Command} (h : ch.accept capdu = .ok (c, next)) : plainCommand capdu = some c := by
  unfold accept at h
  split at h
  · next cla ins p1 p2 rest =>
    obtain ⟨⟨data, counted⟩, htake, h⟩ := bind_eq_ok.mp h
    obtain ⟨le, hdata⟩ := commandData_of_take htake
    obtain ⟨rfl, -⟩ := Prod.mk.inj (Except.ok.inj h)
    unfold plainCommand
    dsimp only
    rw [hdata]
  · cases h

/-! ### The ideal world -/

/-- A host that keeps what it held, and the room of its channel. -/
structure IdealBackend (P : Primitives) (ρ : Type) where
  /-- The keys, and what derived with the session. -/
  vault : BackendState ρ
  channel : IdealChannel

namespace IdealBackend

variable {P : Primitives} {ρ : Type}

/-- Admit a command and hand it on as it is. -/
def wrap (capdu : List UInt8) : Prog (IdealBackend P ρ) BackendError (List UInt8) := fun b =>
  match b.channel.accept capdu with
  | .error e => (.error e, b)
  | .ok (_, next) => (.ok capdu, { b with channel := next })

/-- The channel is open already, and there is no other. -/
def noOther {α : Type} : Prog (IdealBackend P ρ) BackendError α :=
  .fail (.unsupported "no second channel")

instance [RngCore ρ] : KeyBackend (IdealBackend P ρ) where
  importKey _ _ := noOther
  generateKey _ := noOther
  computeKcv h := .query fun b => computeKcv P h b.vault
  randomBytes _ := noOther
  ctEq _ := ctEq

instance : Scp03Backend (IdealBackend P ρ) where
  scp03DeriveSession _ _ _ _ _ := noOther
  scp03CardCryptogram _ _ _ := noOther
  scp03HostCryptogram _ _ _ := noOther
  scp03PseudoCardChallenge _ _ _ _ := noOther
  scp03WrapCommand _ := wrap
  scp03UnwrapResponse _ rapdu := pure rapdu
  scp03EncryptPutKeyPayload dek newKey :=
    .query fun b => scp03EncryptPutKeyPayload P dek newKey b.vault
  scp03CloseSession _ b := b

instance : Scp02Backend (IdealBackend P ρ) where
  scp02DeriveSession _ _ _ _ := noOther
  scp02CardCryptogram _ _ _ := noOther
  scp02HostCryptogram _ _ _ := noOther
  scp02WrapCommand _ := wrap
  scp02UnwrapResponse _ rapdu := pure rapdu
  scp02EncryptPutKeyPayloadForSession s newKey :=
    .query fun b => scp02EncryptPutKeyPayloadForSession P s newKey b.vault
  scp02CloseSession _ b := b

end IdealBackend

/-- A card that is its application. -/
structure IdealCard (α : Type) where
  app : α

namespace IdealCard

variable {α : Type} [CardApplication α]

/-- The answer to a plaintext command. -/
def answer (capdu : List UInt8) (c : IdealCard α) : Rapdu × IdealCard α :=
  match plainCommand capdu with
  | none => (.ofAnswer [] HonestCard.SW_WRONG_LENGTH, c)
  | some cmd =>
      (.ofAnswer (CardApplication.perform cmd c.app).1.data (CardApplication.perform cmd c.app).1.sw,
        ⟨(CardApplication.perform cmd c.app).2⟩)

instance : Transport (IdealCard α) where
  transmit capdu c := (.ok (answer capdu c).1, (answer capdu c).2)
  capabilities _ := ⟨false, .t1, false⟩
  reset := pure ⟨[], .t1, Nat.zero_le _⟩
  protocol _ := .t1
  isConnected _ := true

end IdealCard

variable {P : Primitives} {ρ α : Type}

/-- The ideal world of an open channel: its application, the host's keys and the room
    of the channel. -/
def World.ideal (session : ScpSession) (w : World (ServedCard P α) (RustCryptoBackend P ρ)) :
    World (IdealCard α) (IdealBackend P ρ) where
  transport := ⟨w.transport.app⟩
  backend := ⟨w.backend, IdealChannel.ofSession session w.backend⟩
  sent := w.sent

/-- A manager of the ideal world. -/
def CardManager.ideal (session : ScpSession)
    (m : CardManager (ServedCard P α) (RustCryptoBackend P ρ)) :
    CardManager (IdealCard α) (IdealBackend P ρ) where
  world := m.world.ideal session
  session := m.session
  privLen := m.privLen

end Scll
