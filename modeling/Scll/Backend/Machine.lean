import Scll.Backend.Sessions
import Scll.Backend.Software

/-! # The whole backend as a machine

    Every method of the three traits as the steps of one machine: the session
    calls, the calls that write the key table or draw randomness, and those that
    only read. What one step can touch is at most one session slot, and nothing
    in the key table unless it stores a key.
-/

namespace Scll

open BlockMode Run

variable (P : Primitives) {ρ : Type}

/-! ### Slots of either protocol -/

/-- A session slot of either protocol. -/
inductive SessionSlot where
  | scp03 (slot : Scp03SessionSlot)
  | scp02 (slot : Scp02SessionSlot)

/-- The slot a handle reaches; none when it is empty. -/
def slotAt (st : BackendState ρ) : SessionHandle → Option SessionSlot
  | .scp03 s => (st.sessions.get s.index.toNat).map .scp03
  | .scp02 s => (st.scp02Sessions.get s.index.toNat).map .scp02

/-- Writing an SCP03 slot leaves every other slot. -/
theorem slotAt_set03_of_ne (st : BackendState ρ) (s : Scp03Session)
    (v : Option Scp03SessionSlot) {h : SessionHandle} (hne : h ≠ .scp03 s) :
    slotAt { st with sessions := st.sessions.set s.index.toNat v } h = slotAt st h := by
  cases h with
  | scp02 s' => rfl
  | scp03 s' =>
    have hs : s' ≠ s := fun heq => hne (by rw [heq])
    simp only [slotAt, SlotTable.get_set_of_ne _ (Scp03Session.index_ne hs)]

/-- Writing an SCP02 slot leaves every other slot. -/
theorem slotAt_set02_of_ne (st : BackendState ρ) (s : Scp02Session)
    (v : Option Scp02SessionSlot) {h : SessionHandle} (hne : h ≠ .scp02 s) :
    slotAt { st with scp02Sessions := st.scp02Sessions.set s.index.toNat v } h = slotAt st h := by
  cases h with
  | scp03 s' => rfl
  | scp02 s' =>
    have hs : s' ≠ s := fun heq => hne (by rw [heq])
    simp only [slotAt, SlotTable.get_set_of_ne _ (Scp02Session.index_ne hs)]

/-- A handle has keys exactly when it has a slot. -/
theorem keysAt_eq_none {st : BackendState ρ} {h : SessionHandle} :
    keysAt st h = none ↔ slotAt st h = none := by
  cases h <;> simp [keysAt, slotAt]

/-! ### The session calls -/

/-- The handle whose slot a call may touch. -/
def SessionOp.target (op : SessionOp) (result : SessionResult) : Option SessionHandle :=
  match op with
  | .wrap h _ | .unwrap h _ | .close h => some h
  | .derive03 .. | .derive02 .. =>
      match result with
      | .opened h => some h
      | _ => none

/-- From `st` to `st'` nothing changes but the slot of `target`. -/
structure TouchesOnly (target : Option SessionHandle) (st st' : BackendState ρ) : Prop where
  slots : ∀ g, target ≠ some g → slotAt st' g = slotAt st g
  keys : st'.keys = st.keys

theorem TouchesOnly.same (target : Option SessionHandle) (st : BackendState ρ) :
    TouchesOnly target st st := ⟨fun _ _ => rfl, rfl⟩

theorem TouchesOnly.set03 (st : BackendState ρ) (s : Scp03Session)
    (v : Option Scp03SessionSlot) :
    TouchesOnly (some (.scp03 s)) st
      { st with sessions := st.sessions.set s.index.toNat v } :=
  ⟨fun _ hg => slotAt_set03_of_ne st s v (fun heq => hg (by rw [heq])), rfl⟩

theorem TouchesOnly.set02 (st : BackendState ρ) (s : Scp02Session)
    (v : Option Scp02SessionSlot) :
    TouchesOnly (some (.scp02 s)) st
      { st with scp02Sessions := st.scp02Sessions.set s.index.toNat v } :=
  ⟨fun _ hg => slotAt_set02_of_ne st s v (fun heq => hg (by rw [heq])), rfl⟩

/-- A session call touches one slot and no key. -/
theorem sessionStep_frame (op : SessionOp) (st : BackendState ρ) :
    TouchesOnly (op.target (sessionStep P op st).1) st (sessionStep P op st).2 := by
  -- by the outcomes of each call: refused calls keep the state, the others write one slot
  cases op with
  | derive03 enc mac mode hostCh cardCh =>
    rcases scp03DeriveSession_cases P st enc mac mode hostCh cardCh with
      ⟨e, he⟩ | ⟨sEnc, sMac, sRmac, idx, -, -, hok⟩
    · simp only [sessionStep, he]
      exact .same _ st
    · simp only [sessionStep, hok, SessionResult.ofExcept, SessionOp.target]
      have := TouchesOnly.set03 st ⟨UInt16.ofNat idx⟩ (some (.fresh sEnc sMac sRmac mode))
      rwa [slotIndex_toNat idx] at this
  | derive02 enc mac dek seq =>
    rcases scp02DeriveSession_cases P st enc mac dek seq with
      ⟨e, he⟩ | ⟨sEnc, sMac, sRmac, sDek, idx, -, -, hok⟩
    · simp only [sessionStep, he]
      exact .same _ st
    · simp only [sessionStep, hok, SessionResult.ofExcept, SessionOp.target]
      have := TouchesOnly.set02 st ⟨UInt16.ofNat idx⟩ (some (Scp02.fresh sEnc sMac sRmac sDek))
      rwa [slotIndex_toNat idx] at this
  | wrap h capdu =>
    cases h with
    | scp03 s =>
      rcases scp03WrapCommand_cases P s capdu st with
        ⟨e, he⟩ | ⟨_, _, _, _, _, _, _, _, -, -, -, hok⟩
      · simp only [sessionStep, he]
        exact .same _ st
      · simp only [sessionStep, hok]
        exact .set03 st s _
    | scp02 s =>
      rcases scp02WrapCommand_cases P s capdu st with
        ⟨e, he⟩ | ⟨_, _, _, _, _, _, _, _, -, -, -, hok⟩
      · simp only [sessionStep, he]
        exact .same _ st
      · simp only [sessionStep, hok]
        exact .set02 st s _
  | unwrap h rapdu =>
    cases h with
    | scp03 s =>
      rcases scp03UnwrapResponse_cases P s rapdu st with
        ⟨-, e, he⟩ | ⟨_, e, -, -, he⟩ | ⟨_, _, -, -, hok⟩
      · simp only [sessionStep, he]
        exact .same _ st
      · simp only [sessionStep, he]
        exact .set03 st s _
      · simp only [sessionStep, hok]
        exact .same _ st
    | scp02 s =>
      rcases scp02UnwrapResponse_cases P s rapdu st with
        ⟨-, e, he⟩ | ⟨_, _, _, -, -, hok⟩ | ⟨_, e, -, -, he⟩ | ⟨_, e, -, -, he⟩
      · simp only [sessionStep, he]
        exact .same _ st
      · simp only [sessionStep, hok]
        exact .set02 st s _
      · simp only [sessionStep, he]
        exact .set02 st s _
      · simp only [sessionStep, he]
        exact .same _ st
  | close h =>
    cases h with
    | scp03 s => exact .set03 st s none
    | scp02 s => exact .set02 st s none

/-- A failed wrap changes nothing at all. -/
theorem wrap_failed {h : SessionHandle} {capdu : List UInt8} {st : BackendState ρ}
    {e : BackendError} (hfail : (sessionStep P (.wrap h capdu) st).1 = .failed e) :
    (sessionStep P (.wrap h capdu) st).2 = st := by
  cases h with
  | scp03 s =>
    rcases scp03WrapCommand_cases P s capdu st with
      ⟨e', he⟩ | ⟨_, _, _, _, _, _, _, _, -, -, -, hok⟩
    · simp only [sessionStep, he]
    · simp only [sessionStep, hok, SessionResult.ofExcept] at hfail
      cases hfail
  | scp02 s =>
    rcases scp02WrapCommand_cases P s capdu st with
      ⟨e', he⟩ | ⟨_, _, _, _, _, _, _, _, -, -, -, hok⟩
    · simp only [sessionStep, he]
    · simp only [sessionStep, hok, SessionResult.ofExcept] at hfail
      cases hfail

/-! ### All calls -/

/-- The calls that only read. -/
inductive ReadOp where
  | computeKcv (h : KeyHandle)
  | scp03CardCryptogram (s : Scp03Session) (hostCh cardCh : List UInt8)
  | scp03HostCryptogram (s : Scp03Session) (hostCh cardCh : List UInt8)
  | scp03PseudoCardChallenge (staticEnc : KeyHandle) (mode : ScpMode)
      (seqCounter : Block 3) (invokerAid : List UInt8)
  | scp03EncryptPutKeyPayload (dek newKey : KeyHandle)
  | scp02CardCryptogram (s : Scp02Session) (hostCh cardCh : Block 8)
  | scp02HostCryptogram (s : Scp02Session) (hostCh cardCh : Block 8)
  | scp02EncryptPutKeyPayloadForSession (s : Scp02Session) (newKey : KeyHandle)

/-- What a reading call returns. -/
def ReadOp.result (st : BackendState ρ) : ReadOp → Except BackendError (List UInt8)
  | .computeKcv h => (Scll.computeKcv P h st).map Subtype.val
  | .scp03CardCryptogram s hostCh cardCh => Scll.scp03CardCryptogram P s hostCh cardCh st
  | .scp03HostCryptogram s hostCh cardCh => Scll.scp03HostCryptogram P s hostCh cardCh st
  | .scp03PseudoCardChallenge h mode seq aid => Scll.scp03PseudoCardChallenge P h mode seq.val aid st
  | .scp03EncryptPutKeyPayload dek newKey => Scll.scp03EncryptPutKeyPayload P dek newKey st
  | .scp02CardCryptogram s hostCh cardCh =>
      (Scll.scp02CardCryptogram P s hostCh cardCh st).map Subtype.val
  | .scp02HostCryptogram s hostCh cardCh =>
      (Scll.scp02HostCryptogram P s hostCh cardCh st).map Subtype.val
  | .scp02EncryptPutKeyPayloadForSession s newKey =>
      Scll.scp02EncryptPutKeyPayloadForSession P s newKey st

/-- Every call a backend takes. -/
inductive BackendOp where
  | session (op : SessionOp)
  | importKey (kind : KeyKind) (bytes : List UInt8)
  | generateKey (kind : KeyKind)
  | randomBytes (n : ℕ)
  | read (op : ReadOp)

inductive BackendResult where
  | session (r : SessionResult)
  | key (r : Except BackendError KeyHandle)
  | octets (r : Except BackendError (List UInt8))

/-- One call. -/
def backendStep [RngCore ρ] : BackendOp → BackendState ρ → BackendResult × BackendState ρ
  | .session op, st => (.session (sessionStep P op st).1, (sessionStep P op st).2)
  | .importKey kind bytes, st => (.key (importKey kind bytes st).1, (importKey kind bytes st).2)
  | .generateKey kind, st => (.key (generateKey kind st).1, (generateKey kind st).2)
  | .randomBytes n, st =>
      (.octets ((randomBytes n st).1.map Subtype.val), (randomBytes n st).2)
  | .read op, st => (.octets (op.result P st), st)

/-- The call stores a key. -/
def BackendOp.storesKey : BackendOp → Bool
  | .importKey .. | .generateKey .. => true
  | _ => false

/-- The handle whose slot a call may touch. -/
def BackendOp.target (op : BackendOp) (result : BackendResult) : Option SessionHandle :=
  match op, result with
  | .session op, .session r => op.target r
  | _, _ => none

theorem storeKey_sessions (slot : KeySlot) (st : BackendState ρ) :
    (storeKey slot st).2.sessions = st.sessions ∧
      (storeKey slot st).2.scp02Sessions = st.scp02Sessions := by
  unfold storeKey
  split <;> exact ⟨rfl, rfl⟩

theorem importKey_sessions (kind : KeyKind) (bytes : List UInt8) (st : BackendState ρ) :
    (importKey kind bytes st).2.sessions = st.sessions ∧
      (importKey kind bytes st).2.scp02Sessions = st.scp02Sessions := by
  unfold importKey
  split
  · exact storeKey_sessions _ st
  · exact ⟨rfl, rfl⟩

theorem generateKey_sessions [RngCore ρ] (kind : KeyKind) (st : BackendState ρ) :
    (generateKey kind st).2.sessions = st.sessions ∧
      (generateKey kind st).2.scp02Sessions = st.scp02Sessions :=
  storeKey_sessions _ _

/-- What a handle reaches is read off the session tables alone. -/
theorem slotAt_congr {st st' : BackendState ρ} (h : st'.sessions = st.sessions ∧
    st'.scp02Sessions = st.scp02Sessions) (g : SessionHandle) : slotAt st' g = slotAt st g := by
  cases g <;> simp only [slotAt, h.1, h.2]

/-- Any call touches one session slot at most, and the key table only to store a key. -/
theorem backendStep_frame [RngCore ρ] (op : BackendOp) (st : BackendState ρ) :
    (∀ g, op.target (backendStep P op st).1 ≠ some g →
      slotAt (backendStep P op st).2 g = slotAt st g) ∧
    (op.storesKey = false → (backendStep P op st).2.keys = st.keys) := by
  cases op with
  | session op =>
    have h := sessionStep_frame P op st
    exact ⟨h.slots, fun _ => h.keys⟩
  | importKey kind bytes =>
    exact ⟨fun g _ => slotAt_congr (importKey_sessions kind bytes st) g, fun h => by cases h⟩
  | generateKey kind =>
    exact ⟨fun g _ => slotAt_congr (generateKey_sessions kind st) g, fun h => by cases h⟩
  | randomBytes n => exact ⟨fun _ _ => rfl, fun _ => rfl⟩
  | read op => exact ⟨fun _ _ => rfl, fun _ => rfl⟩

end Scll
