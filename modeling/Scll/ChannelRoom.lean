import Scll.Scp.OpenSpec
import Scll.ShortCases
import Scll.Workflow.Session

/-! # What an open channel takes

    Wrapping makes a command longer: padding and a MAC. A channel past EXTERNAL
    AUTHENTICATE takes every command whose data leave room for both, at whatever
    level it was opened. Only the command counter of SCP03 can then be in the
    way, and it is used up after `2 ^ 32 - 1` commands.
-/

namespace Scll

namespace Workflow

open BlockMode

/-- A data field that fits `Lc` with the padding of a block and the longest MAC. -/
def MAX_WRAPPED_DATA : ℕ := 255 - 16 - 16

section room

variable (P : Primitives) {ρ τ : Type}

/-- The channel of a session is open: its slot is there, past EXTERNAL AUTHENTICATE. -/
def IsOpen (session : ScpSession) (st : BackendState ρ) : Prop :=
  match session with
  | .scp03 s => ∃ slot, st.sessions.get s.session.index.toNat = some slot ∧ slot.authed = true
  | .scp02 s => ∃ slot, st.scp02Sessions.get s.session.index.toNat = some slot ∧
      slot.authed = true

/-- The command counter is at its last value. -/
def Exhausted (session : ScpSession) (st : BackendState ρ) : Prop :=
  match session with
  | .scp03 s => ∃ slot, st.sessions.get s.session.index.toNat = some slot ∧
      slot.counter.toNat + 1 = 2 ^ 32
  | .scp02 _ => False

/-- The channel protects a command. -/
def Wraps {β : Type} [Scp03Backend β] [Scp02Backend β] (session : ScpSession) (capdu : Capdu)
    (b : β) : Prop := ∃ wire b', wrapCommand session capdu b = (.ok wire, b')

/-! ### Wrapping -/

theorem commandData_tailOctets {data : List UInt8} (hne : data ≠ []) (hlen : data.length ≤ 255)
    (le : Bool) :
    commandData (Capdu.tailOctets data le) = .ok (data, if le then [0x00] else []) := by
  have hlc : (UInt8.ofNat data.length).toNat = data.length := by
    rw [UInt8.toNat_ofNat']
    omega
  unfold Capdu.tailOctets
  rw [if_neg (by simpa using hne), List.cons_append, commandData, hlc, if_neg (by simp),
    List.take_left, List.drop_left]

/-- Encryption adds a block at most. -/
theorem length_wireBody03_le (slot : Scp03SessionSlot) (data : List UInt8) :
    (ShortCases.wireBody03 P slot data).length ≤ data.length + 16 := by
  unfold ShortCases.wireBody03
  split
  · have hdvd := dvd_length_pad (show 0 < 16 by decide) data
    rw [commandCipher, length_encryptOctets _ _ hdvd, length_pad (show 0 < 16 by decide)]
    omega
  · omega

theorem length_wireBody02_le (slot : Scp02SessionSlot) (data : List UInt8) :
    (Scp02.wireBody P slot data).length ≤ data.length + 8 := by
  unfold Scp02.wireBody
  split
  · have hdvd := dvd_length_pad (show 0 < 8 by decide) data
    rw [Scp02.commandCipher, length_encryptOctets _ _ hdvd, length_pad (show 0 < 8 by decide)]
    omega
  · omega

theorem wraps03_iff {s : Scp03.Scp03State} {capdu : Capdu} {st : RustCryptoBackend P ρ} :
    Wraps (.scp03 s) capdu st ↔ ∃ (wire : List UInt8) (st' : BackendState ρ),
      scp03WrapCommand P s.session capdu st = (.ok wire, st') := by
  simp only [Wraps, wrapCommand, ofBackend_eq_ok]
  rfl

theorem wraps02_iff {s : Scp02.Scp02State} {capdu : Capdu} {st : RustCryptoBackend P ρ} :
    Wraps (.scp02 s) capdu st ↔ ∃ (wire : List UInt8) (st' : BackendState ρ),
      scp02WrapCommand P s.session capdu st = (.ok wire, st') := by
  simp only [Wraps, wrapCommand, ofBackend_eq_ok]
  rfl

/-- A channel whose counter is used up refuses a command for that, and for no other
    reason. -/
theorem wrapCommand_of_exhausted {session : ScpSession} {st : RustCryptoBackend P ρ}
    (hopen : IsOpen session st) (hlast : Exhausted session st) (cla ins p1 p2 : UInt8)
    {data : List UInt8} (hne : data ≠ []) (hlen : data.length ≤ 255) (le : Bool) :
    wrapCommand session (cla :: ins :: p1 :: p2 :: Capdu.tailOctets data le) st =
      (.error (.backend (cryptoErr "command counter overflow")), st) := by
  cases session with
  | scp03 s =>
    obtain ⟨slot, hslot, hauth⟩ := hopen
    obtain ⟨slot', hslot', hcounter⟩ := hlast
    obtain rfl := Option.some.inj (hslot.symm.trans hslot')
    have hsucc : checkedSucc slot.counter = none := if_neg (by omega)
    -- the counter is moved before the command is measured
    have hwrap : wrapSlot P slot cla ins p1 p2 (Capdu.tailOctets data le) =
        .error (cryptoErr "command counter overflow") := by
      unfold wrapSlot commandBody
      rw [commandData_tailOctets hne hlen, ok_bind]
      dsimp only
      rw [if_pos hauth, hsucc]
      rfl
    apply ofBackend_error
    show scp03WrapCommand P s.session _ st = _
    unfold scp03WrapCommand
    dsimp only
    rw [hslot]
    dsimp only
    rw [hwrap]
    rfl
  | scp02 s => exact absurd hlast not_false

/-- An open channel takes every command that leaves room, at any level, unless its
    counter is used up. -/
theorem wraps_iff_of_isOpen {session : ScpSession} {st : RustCryptoBackend P ρ}
    (hopen : IsOpen session st) (cla ins p1 p2 : UInt8) {data : List UInt8} (hne : data ≠ [])
    (hlen : data.length ≤ MAX_WRAPPED_DATA) (le : Bool) :
    Wraps session (cla :: ins :: p1 :: p2 :: Capdu.tailOctets data le) st ↔
      ¬Exhausted session st := by
  have hmax : data.length ≤ 223 := hlen
  have hdata := commandData_tailOctets hne (by omega) le
  cases session with
  | scp03 s =>
    constructor
    · intro ⟨wire, st', hwire⟩ hlast
      rw [wrapCommand_of_exhausted P hopen hlast cla ins p1 p2 hne (by omega) le] at hwire
      cases hwire
    · intro hcount
      obtain ⟨slot, hslot, hauth⟩ := hopen
      have hcounter : slot.counter.toNat + 1 < 2 ^ 32 := by
        have hlt := slot.counter.toNat_lt
        have hlast : slot.counter.toNat + 1 ≠ 2 ^ 32 := fun h => hcount ⟨slot, hslot, h⟩
        omega
      -- 223 octets, a block of padding and the longest MAC make 255
      have hbody := length_wireBody03_le P slot data
      have hmac := slot.mode.macLen_le
      have hwrap : ∃ out, wrapSlot P slot cla ins p1 p2 (Capdu.tailOctets data le) = .ok out :=
        ShortCases.wrapSlot_authed P hauth hcounter hdata (by omega) (by cases le <;> simp)
          (by omega)
      obtain ⟨⟨out, slot'⟩, hwrap⟩ := hwrap
      refine (wraps03_iff P).mpr ⟨out,
        { st with sessions := st.sessions.set s.session.index.toNat (some slot') }, ?_⟩
      unfold scp03WrapCommand
      dsimp only
      rw [hslot]
      dsimp only
      rw [hwrap]
  | scp02 s =>
    rw [wraps02_iff]
    obtain ⟨slot, hslot, hauth⟩ := hopen
    have hbody := length_wireBody02_le P slot data
    have hwrap : ∃ out, Scp02.wrapSlot P slot cla ins p1 p2 (Capdu.tailOctets data le) = .ok out :=
      Scp02.wrapSlot_of_fits P (fun hno => by rw [hauth] at hno; cases hno) hdata (by omega)
    obtain ⟨⟨out, slot'⟩, hwrap⟩ := hwrap
    refine ⟨fun _ hexhausted => hexhausted, fun _ => ⟨out,
      { st with scp02Sessions := st.scp02Sessions.set s.session.index.toNat (some slot') }, ?_⟩⟩
    unfold scp02WrapCommand
    dsimp only
    rw [hslot]
    dsimp only
    rw [hwrap]

/-! ### What an exchange says of the channel -/

/-- A response that is delivered leaves the channel open. -/
theorem isOpen_of_unwrap {session : ScpSession} {rapdu out : List UInt8}
    {st st' : RustCryptoBackend P ρ} (h : unwrapResponse session rapdu st = (.ok out, st')) :
    IsOpen session st' := by
  cases session with
  | scp03 s =>
    have hrun : scp03UnwrapResponse P s.session rapdu st = (.ok out, st') := ofBackend_eq_ok.mp h
    rcases scp03UnwrapResponse_cases P s.session rapdu st with
      ⟨-, e, he⟩ | ⟨_, e, -, -, he⟩ | ⟨slot, out', hslot, hunwrap, hok⟩
    · rw [hrun] at he
      cases he
    · rw [hrun] at he
      cases he
    · rw [hrun] at hok
      obtain ⟨-, rfl⟩ := Prod.mk.inj hok
      exact ⟨slot, hslot, (unwrapSlot_ok P hunwrap).1⟩
  | scp02 s =>
    have hrun : scp02UnwrapResponse P s.session rapdu st = (.ok out, st') := ofBackend_eq_ok.mp h
    rcases scp02UnwrapResponse_cases P s.session rapdu st with
      ⟨-, e, he⟩ | ⟨slot, out', ricv, hslot, hdeliver, hok⟩ | ⟨_, e, -, -, he⟩ | ⟨_, e, -, -, he⟩
    · rw [hrun] at he
      cases he
    · rw [hrun] at hok
      obtain ⟨-, rfl⟩ := Prod.mk.inj hok
      refine ⟨_, SlotTable.get_set_self (SlotTable.lt_of_get hslot) _, ?_⟩
      exact (Scp02.unwrapSlot_deliver P hdeliver).1
    · rw [hrun] at he
      cases he
    · rw [hrun] at he
      cases he

variable [Transport τ]

/-- A command that the channel protects is handed to the transport. -/
theorem sent_of_wraps {β : Type} [Scp03Backend β] [Scp02Backend β] {session : ScpSession}
    {capdu : Capdu} {w : World τ β} (h : Wraps session capdu w.backend) :
    (transmitInSession session capdu w).2.sent = w.sent ++ [capdu] := by
  obtain ⟨wire, b', hwrap⟩ := h
  have hrun : (onBackend (wrapCommand session capdu) : Prog (World τ β) ScllError _) w =
      (.ok wire, { w with backend := b' }) := onBackend_run hwrap
  unfold transmitInSession
  rw [Prog.bind_ok hrun]
  simp only [exchange, Prog.bind_run, note, Prog.update_run, Prog.zoom, Prog.mapErr]
  cases (Transport.transmit wire w.transport).1 with
  | error e => rfl
  | ok rapdu =>
    simp only [onBackend, Prog.zoom]
    cases (unwrapResponse session rapdu.octets b').1 with
    | error e => rfl
    | ok out => rfl

/-- A command that it does not protect is not. -/
theorem sent_of_not_wraps {β : Type} [Scp03Backend β] [Scp02Backend β] {session : ScpSession}
    {capdu : Capdu} {w : World τ β} (h : ¬Wraps session capdu w.backend) :
    (transmitInSession session capdu w).2.sent = w.sent := by
  cases hwrap : wrapCommand session capdu w.backend with
  | mk r b' =>
    cases r with
    | ok wire => exact absurd ⟨wire, b', hwrap⟩ h
    | error e =>
      have hrun : (onBackend (wrapCommand session capdu) : Prog (World τ β) ScllError _) w =
          (.error e, { w with backend := b' }) := onBackend_run hwrap
      unfold transmitInSession
      rw [Prog.bind_error hrun]

/-- An exchange that succeeds leaves the channel open. -/
theorem isOpen_of_exchange {session : ScpSession} {capdu : Capdu}
    {a : List UInt8 × UInt16} {w w' : World τ (RustCryptoBackend P ρ)}
    (h : transmitInSession session capdu w = (.ok a, w')) : IsOpen session w'.backend := by
  unfold transmitInSession at h
  obtain ⟨_, w₁, -, h⟩ := Prog.bind_eq_ok.mp h
  obtain ⟨rapdu, w₂, -, h⟩ := Prog.bind_eq_ok.mp h
  obtain ⟨unwrapped, w₃, hunwrap, h⟩ := Prog.bind_eq_ok.mp h
  obtain ⟨-, rfl⟩ := Prog.lift_eq_ok.mp h
  obtain ⟨hok, rfl⟩ := Prod.mk.inj hunwrap
  exact isOpen_of_unwrap P (Prod.ext hok rfl)

end room

end Workflow

end Scll
