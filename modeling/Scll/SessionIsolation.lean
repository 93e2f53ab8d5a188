import Scll.Backend.Machine
import Scll.Framework.Isolation
import Scll.Handles

/-! # Sessions do not see each other

    One backend holds up to sixteen sessions of each protocol, and any number of
    callers may take turns at it. What the calls through one handle return is
    determined by that session alone: neither the calls of others, nor the keys
    in the table, nor the generator show in it.
-/

namespace Scll

open BlockMode Run

variable (P : Primitives) {ρ ρ' : Type}

/-! ### The calls through a handle -/

/-- The call reads a cryptogram of the session. -/
def ReadOp.of (h : SessionHandle) : ReadOp → Bool
  | .scp03CardCryptogram s _ _ => h = .scp03 s
  | .scp03HostCryptogram s _ _ => h = .scp03 s
  | .scp02CardCryptogram s _ _ => h = .scp02 s
  | .scp02HostCryptogram s _ _ => h = .scp02 s
  | _ => false

/-- The call goes through the handle: it wraps, unwraps or closes, or reads a
    cryptogram. -/
def BackendOp.of (h : SessionHandle) : BackendOp → Bool
  | .session (.wrap g _) => h = g
  | .session (.unwrap g _) => h = g
  | .session (.close g) => h = g
  | .read op => op.of h
  | _ => false

/-- The handle reaches a slot that is the same in the two states. -/
structure SameSession (h : SessionHandle) (st : BackendState ρ) (st' : BackendState ρ') : Prop where
  slot : slotAt st h = slotAt st' h
  live : slotAt st h ≠ none

variable {h : SessionHandle} {st : BackendState ρ} {st' : BackendState ρ'}

theorem SameSession.get03 {s : Scp03Session} (hsame : SameSession (.scp03 s) st st') :
    ∃ slot, st.sessions.get s.index.toNat = some slot ∧
      st'.sessions.get s.index.toNat = some slot := by
  obtain ⟨hslot, hlive⟩ := hsame
  unfold slotAt at hslot hlive
  dsimp only at hslot hlive
  cases hget : st.sessions.get s.index.toNat with
  | none =>
    rw [hget] at hlive
    exact absurd rfl hlive
  | some slot =>
    rw [hget] at hslot
    obtain ⟨slot', hget', heq⟩ := Option.map_eq_some_iff.mp hslot.symm
    obtain rfl : slot' = slot := SessionSlot.scp03.inj heq
    exact ⟨slot', rfl, hget'⟩

theorem SameSession.get02 {s : Scp02Session} (hsame : SameSession (.scp02 s) st st') :
    ∃ slot, st.scp02Sessions.get s.index.toNat = some slot ∧
      st'.scp02Sessions.get s.index.toNat = some slot := by
  obtain ⟨hslot, hlive⟩ := hsame
  unfold slotAt at hslot hlive
  dsimp only at hslot hlive
  cases hget : st.scp02Sessions.get s.index.toNat with
  | none =>
    rw [hget] at hlive
    exact absurd rfl hlive
  | some slot =>
    rw [hget] at hslot
    obtain ⟨slot', hget', heq⟩ := Option.map_eq_some_iff.mp hslot.symm
    obtain rfl : slot' = slot := SessionSlot.scp02.inj heq
    exact ⟨slot', rfl, hget'⟩

/-- What has been written to one slot of two tables is there in both. -/
theorem slotAt_set03 {s : Scp03Session} {slot : Scp03SessionSlot} (v : Option Scp03SessionSlot)
    (hget : st.sessions.get s.index.toNat = some slot) :
    slotAt { st with sessions := st.sessions.set s.index.toNat v } (.scp03 s) = v.map .scp03 := by
  unfold slotAt
  dsimp only
  rw [SlotTable.get_set_self (SlotTable.lt_of_get hget)]

theorem slotAt_set02 {s : Scp02Session} {slot : Scp02SessionSlot} (v : Option Scp02SessionSlot)
    (hget : st.scp02Sessions.get s.index.toNat = some slot) :
    slotAt { st with scp02Sessions := st.scp02Sessions.set s.index.toNat v } (.scp02 s) =
      v.map .scp02 := by
  unfold slotAt
  dsimp only
  rw [SlotTable.get_set_self (SlotTable.lt_of_get hget)]

/-! ### One call -/

/-- A call through the handle: its answer and the slot after it depend on the slot before. -/
structure Alone (h : SessionHandle) (op : SessionOp) (st : BackendState ρ)
    (st' : BackendState ρ') : Prop where
  answer : (sessionStep P op st).1 = (sessionStep P op st').1
  slot : slotAt (sessionStep P op st).2 h = slotAt (sessionStep P op st').2 h

theorem wrap_alone (hsame : SameSession h st st') (capdu : List UInt8) :
    Alone P h (.wrap h capdu) st st' := by
  cases h with
  | scp03 s =>
    obtain ⟨slot, hget, hget'⟩ := hsame.get03
    rcases capdu with _ | ⟨cla, _ | ⟨ins, _ | ⟨p1, _ | ⟨p2, rest⟩⟩⟩⟩
    case cons.cons.cons.cons =>
      constructor
      · simp only [sessionStep, scp03WrapCommand, hget, hget']
        split <;> rfl
      · simp only [sessionStep, scp03WrapCommand, hget, hget']
        split
        · exact hsame.slot
        · rw [slotAt_set03 _ hget, slotAt_set03 _ hget']
    all_goals exact ⟨rfl, hsame.slot⟩
  | scp02 s =>
    obtain ⟨slot, hget, hget'⟩ := hsame.get02
    rcases capdu with _ | ⟨cla, _ | ⟨ins, _ | ⟨p1, _ | ⟨p2, rest⟩⟩⟩⟩
    case cons.cons.cons.cons =>
      constructor
      · simp only [sessionStep, scp02WrapCommand, hget, hget']
        split <;> rfl
      · simp only [sessionStep, scp02WrapCommand, hget, hget']
        split
        · exact hsame.slot
        · rw [slotAt_set02 _ hget, slotAt_set02 _ hget']
    all_goals exact ⟨rfl, hsame.slot⟩

theorem unwrap_alone (hsame : SameSession h st st') (rapdu : List UInt8) :
    Alone P h (.unwrap h rapdu) st st' := by
  cases h with
  | scp03 s =>
    obtain ⟨slot, hget, hget'⟩ := hsame.get03
    constructor
    · simp only [sessionStep, scp03UnwrapResponse, hget, hget']
      split <;> rfl
    · simp only [sessionStep, scp03UnwrapResponse, hget, hget']
      split
      · rw [slotAt_set03 _ hget, slotAt_set03 _ hget']
      · exact hsame.slot
  | scp02 s =>
    obtain ⟨slot, hget, hget'⟩ := hsame.get02
    constructor
    · simp only [sessionStep, scp02UnwrapResponse, hget, hget']
      split <;> rfl
    · simp only [sessionStep, scp02UnwrapResponse, hget, hget']
      split
      · rw [slotAt_set02 _ hget, slotAt_set02 _ hget']
      · rw [slotAt_set02 _ hget, slotAt_set02 _ hget']
      · exact hsame.slot

theorem close_alone (hsame : SameSession h st st') : Alone P h (.close h) st st' := by
  cases h with
  | scp03 s =>
    obtain ⟨slot, hget, hget'⟩ := hsame.get03
    refine ⟨rfl, ?_⟩
    show slotAt { st with sessions := _ } (.scp03 s) = slotAt { st' with sessions := _ } (.scp03 s)
    rw [slotAt_set03 _ hget, slotAt_set03 _ hget']
  | scp02 s =>
    obtain ⟨slot, hget, hget'⟩ := hsame.get02
    refine ⟨rfl, ?_⟩
    show slotAt { st with scp02Sessions := _ } (.scp02 s) =
      slotAt { st' with scp02Sessions := _ } (.scp02 s)
    rw [slotAt_set02 _ hget, slotAt_set02 _ hget']

/-- A cryptogram is read off the slot. -/
theorem read_alone {op : ReadOp} (hown : op.of h = true) (hsame : SameSession h st st') :
    op.result P st = op.result P st' := by
  cases op with
  | scp03CardCryptogram s hostCh cardCh =>
    obtain rfl := of_decide_eq_true hown
    obtain ⟨slot, hget, hget'⟩ := hsame.get03
    simp only [ReadOp.result, scp03CardCryptogram, cryptogram, hget, hget']
  | scp03HostCryptogram s hostCh cardCh =>
    obtain rfl := of_decide_eq_true hown
    obtain ⟨slot, hget, hget'⟩ := hsame.get03
    simp only [ReadOp.result, scp03HostCryptogram, cryptogram, hget, hget']
  | scp02CardCryptogram s hostCh cardCh =>
    obtain rfl := of_decide_eq_true hown
    obtain ⟨slot, hget, hget'⟩ := hsame.get02
    simp only [ReadOp.result, scp02CardCryptogram, scp02Cryptogram, hget, hget']
  | scp02HostCryptogram s hostCh cardCh =>
    obtain rfl := of_decide_eq_true hown
    obtain ⟨slot, hget, hget'⟩ := hsame.get02
    simp only [ReadOp.result, scp02HostCryptogram, scp02Cryptogram, hget, hget']
  | _ => cases hown

/-! ### The calls of others -/

theorem octets_ne_opened (r : Except BackendError (List UInt8)) (h : SessionHandle) :
    SessionResult.ofExcept .octets r ≠ .opened h := by
  cases r <;> exact nofun

/-- A derivation returns a handle that reached nothing. -/
theorem opened_of_free (op : SessionOp) (hopened : (sessionStep P op st).1 = .opened h) :
    slotAt st h = none := by
  cases op with
  | derive03 enc mac mode hostCh cardCh =>
    rcases scp03DeriveSession_cases P st enc mac mode hostCh cardCh with
      ⟨e, he⟩ | ⟨sEnc, sMac, sRmac, idx, -, hfree, hok⟩
    · simp only [sessionStep, he, SessionResult.ofExcept] at hopened
      cases hopened
    · simp only [sessionStep, hok, SessionResult.ofExcept] at hopened
      obtain rfl := SessionResult.opened.inj hopened
      unfold slotAt
      dsimp only
      rw [slotIndex_toNat idx, SlotTable.firstFree_get hfree]
      rfl
  | derive02 enc mac dek seq =>
    rcases scp02DeriveSession_cases P st enc mac dek seq with
      ⟨e, he⟩ | ⟨sEnc, sMac, sRmac, sDek, idx, -, hfree, hok⟩
    · simp only [sessionStep, he, SessionResult.ofExcept] at hopened
      cases hopened
    · simp only [sessionStep, hok, SessionResult.ofExcept] at hopened
      obtain rfl := SessionResult.opened.inj hopened
      unfold slotAt
      dsimp only
      rw [slotIndex_toNat idx, SlotTable.firstFree_get hfree]
      rfl
  | wrap g capdu => cases g <;> exact absurd hopened (octets_ne_opened _ h)
  | unwrap g rapdu => cases g <;> exact absurd hopened (octets_ne_opened _ h)
  | close g => cases g <;> cases hopened

variable [RngCore ρ] [RngCore ρ']

/-- A call of another leaves a live session. -/
theorem slotAt_of_other {op : BackendOp} (hother : op.of h = false) (hlive : slotAt st h ≠ none) :
    slotAt (backendStep P op st).2 h = slotAt st h := by
  apply (backendStep_frame P op st).1
  intro htarget
  cases op with
  | session op =>
    cases op with
    | wrap g capdu => exact absurd (Option.some.inj htarget).symm (of_decide_eq_false hother)
    | unwrap g rapdu => exact absurd (Option.some.inj htarget).symm (of_decide_eq_false hother)
    | close g => exact absurd (Option.some.inj htarget).symm (of_decide_eq_false hother)
    | derive03 enc mac mode hostCh cardCh =>
      apply hlive
      apply opened_of_free P (.derive03 enc mac mode hostCh cardCh)
      unfold BackendOp.target backendStep SessionOp.target at htarget
      dsimp only at htarget
      split at htarget
      · next g hg => rw [hg, Option.some.inj htarget]
      · cases htarget
    | derive02 enc mac dek seq =>
      apply hlive
      apply opened_of_free P (.derive02 enc mac dek seq)
      unfold BackendOp.target backendStep SessionOp.target at htarget
      dsimp only at htarget
      split at htarget
      · next g hg => rw [hg, Option.some.inj htarget]
      · cases htarget
  | importKey kind bytes => cases htarget
  | generateKey kind => cases htarget
  | randomBytes n => cases htarget
  | read op => cases htarget

/-- The callers of one handle are a client of the backend. -/
theorem session_isolated (h : SessionHandle) :
    Isolated (BackendOp.of h) (backendStep (ρ := ρ) P) (backendStep (ρ := ρ') P) (SameSession h)
      fun st => slotAt st h = none where
  others := by
    intro op st st' hother hsame
    have hslot := slotAt_of_other P hother hsame.live
    exact ⟨hslot.trans hsame.slot, by rw [hslot]; exact hsame.live⟩
  answer := by
    intro op st st' hown hsame
    -- only wraps, unwraps, closes and reads are calls of one session
    cases op with
    | session op =>
      cases op with
      | wrap g capdu =>
        obtain rfl := of_decide_eq_true hown
        exact congrArg BackendResult.session (wrap_alone P hsame capdu).answer
      | unwrap g rapdu =>
        obtain rfl := of_decide_eq_true hown
        exact congrArg BackendResult.session (unwrap_alone P hsame rapdu).answer
      | close g =>
        obtain rfl := of_decide_eq_true hown
        exact congrArg BackendResult.session (close_alone P hsame).answer
      | derive03 enc mac mode hostCh cardCh => cases hown
      | derive02 enc mac dek seq => cases hown
    | read op => exact congrArg BackendResult.octets (read_alone P hown hsame)
    | importKey kind bytes => cases hown
    | generateKey kind => cases hown
    | randomBytes n => cases hown
  stays := by
    intro op st st' hown hsame hstays
    have hslot : slotAt (backendStep P op st).2 h = slotAt (backendStep P op st').2 h := by
      cases op with
      | session op =>
        cases op with
        | wrap g capdu =>
          obtain rfl := of_decide_eq_true hown
          exact (wrap_alone P hsame capdu).slot
        | unwrap g rapdu =>
          obtain rfl := of_decide_eq_true hown
          exact (unwrap_alone P hsame rapdu).slot
        | close g =>
          obtain rfl := of_decide_eq_true hown
          exact (close_alone P hsame).slot
        | derive03 enc mac mode hostCh cardCh => cases hown
        | derive02 enc mac dek seq => cases hown
      | read op => exact hsame.slot
      | importKey kind bytes => cases hown
      | generateKey kind => cases hown
      | randomBytes n => cases hown
    exact ⟨hslot, by rw [hslot]; exact hstays⟩

/-- Sessions do not see each other: however calls of others, derivations among them, fall
    between the calls through a handle, these return what they return alone, from any
    state in which the handle reaches the same session. -/
theorem answered_as_alone (h : SessionHandle) (st : BackendState ρ) (st' : BackendState ρ')
    (ops : List BackendOp) (hlive : slotAt st h ≠ none) (hslot : slotAt st h = slotAt st' h)
    (hlasts : LastsOut (fun st => slotAt st h = none)
      (run (backendStep P) (ops.filter (BackendOp.of h)) st')) :
    answers (BackendOp.of h) (run (backendStep P) ops st) =
      (run (backendStep P) (ops.filter (BackendOp.of h)) st').map Event.out :=
  (session_isolated P h).answers_eq ⟨hslot, hlive⟩ hlasts

/-- One session, and a second one beside it. -/
def oneSession : BackendState Unit :=
  (backendStep Primitives.xorCipher (.session (Handles.deriveOp 1)) Handles.keyedBackend).2

def twoSessions : BackendState Unit :=
  (backendStep Primitives.xorCipher (.session (Handles.deriveOp 2)) oneSession).2

/-- The calls of three callers. -/
def threeCallers : List BackendOp :=
  [.session (Handles.deriveOp 3), .session Handles.authenticateOp, .session (.close (.scp03 ⟨1⟩)),
    .importKey .aes128 (List.replicate 16 0x11), .session (.close Handles.firstHandle)]

theorem answered_as_alone_three_callers :
    answers (BackendOp.of Handles.firstHandle)
        (run (backendStep Primitives.xorCipher) threeCallers twoSessions) =
      (run (backendStep Primitives.xorCipher)
        [.session Handles.authenticateOp, .session (.close Handles.firstHandle)]
        oneSession).map Event.out := by
  have hlive : slotAt oneSession Handles.firstHandle ≠ none :=
    Option.isSome_iff_ne_none.mp (by decide +kernel)
  have hslot : slotAt twoSessions Handles.firstHandle = slotAt oneSession Handles.firstHandle :=
    slotAt_of_other Primitives.xorCipher rfl hlive
  have hstays : ¬slotAt (backendStep Primitives.xorCipher (.session Handles.authenticateOp)
      oneSession).2 Handles.firstHandle = none :=
    Option.isSome_iff_ne_none.mp (by decide +kernel)
  exact answered_as_alone Primitives.xorCipher Handles.firstHandle twoSessions oneSession
    threeCallers (by rw [hslot]; exact hlive) hslot (.cons hstays (.last _))

end Scll
