import Scll.SessionState

/-! # Which responses end a session

    A response that fails to unwrap is to end its session, and one that unwraps
    is to leave everything the next command depends on. The one way out is the
    copy of an unprotected SCP02 response into its buffer: a response that does
    not fit is refused before the tear-down is reached.
-/

namespace Scll

open BlockMode

variable (P : Primitives) {ρ : Type}

namespace FailClosed

/-- What a slot holds for its next command: everything but the response chain. -/
structure CommandSide where
  keys : SessionKeys
  level : UInt8
  authed : Bool
  /-- The chaining value; none before the first command of SCP02. -/
  chain : Option (List UInt8)
  counter : UInt32

def commandSideOf : SessionSlot → CommandSide
  | .scp03 slot => ⟨slot.keys, slot.level, slot.authed, some slot.chain.val, slot.counter⟩
  | .scp02 slot =>
      ⟨slot.keys, slot.level, slot.authed, if slot.icvValid then some slot.icv.val else none, 0⟩

/-- An unwrap through `h` that fails frees the slot, and one that succeeds
    leaves keys, level and command chain as they were. -/
structure FailsClosed (st : BackendState ρ) (h : SessionHandle) (rapdu : List UInt8) : Prop where
  failed : ∀ e st', sessionStep P (.unwrap h rapdu) st = (.failed e, st') → slotAt st' h = none
  delivered : ∀ out st', sessionStep P (.unwrap h rapdu) st = (.octets out, st') →
    (slotAt st' h).map commandSideOf = (slotAt st h).map commandSideOf

theorem failsClosed_scp03 {st : BackendState ρ} {s : Scp03Session} {rapdu : List UInt8}
    (hlive : (slotAt st (.scp03 s)).isSome) : FailsClosed P st (.scp03 s) rapdu := by
  rcases scp03UnwrapResponse_cases P s rapdu st with
    ⟨hnone, -⟩ | ⟨slot, e, -, -, he⟩ | ⟨slot, out, -, -, hok⟩
  · simp [slotAt, hnone] at hlive
  · constructor
    · intro e' st' h
      simp only [sessionStep, he] at h
      rw [← (Prod.mk.inj h).2]
      simp [slotAt]
    · intro out st' h
      simp [sessionStep, he, SessionResult.ofExcept] at h
  · constructor
    · intro e' st' h
      simp [sessionStep, hok, SessionResult.ofExcept] at h
    · intro out st' h
      simp only [sessionStep, hok] at h
      rw [← (Prod.mk.inj h).2]

theorem failsClosed_scp02 {st : BackendState ρ} {s : Scp02Session} {rapdu : List UInt8}
    (hlive : (slotAt st (.scp02 s)).isSome) :
    FailsClosed P st (.scp02 s) rapdu ↔ ¬RefusedAt st rapdu (.scp02 s) := by
  have hrefused : ∀ {slot}, st.scp02Sessions.get s.index.toNat = some slot →
      (RefusedAt st rapdu (.scp02 s) ↔ ∃ e, Scp02.unwrapSlot P slot rapdu = .refuse e) := by
    intro slot hslot
    rw [Scp02.unwrapSlot_refuse_iff]
    simp [RefusedAt, hslot]
  rcases scp02UnwrapResponse_cases P s rapdu st with
    ⟨hnone, -⟩ | ⟨slot, out, ricv, hslot, hdeliver, hok⟩ | ⟨slot, e, hslot, hdown, he⟩ |
      ⟨slot, e, hslot, hrefuse, he⟩
  · simp [slotAt, hnone] at hlive
  · rw [hrefused hslot, hdeliver]
    refine iff_of_true ⟨fun e st' h => ?_, fun out st' h => ?_⟩ (by simp)
    · simp [sessionStep, hok, SessionResult.ofExcept] at h
    · simp only [sessionStep, hok] at h
      rw [← (Prod.mk.inj h).2]
      simp only [slotAt, hslot, SlotTable.get_set_self (SlotTable.lt_of_get hslot),
        Option.map_some]
      rfl
  · rw [hrefused hslot, hdown]
    refine iff_of_true ⟨fun e st' h => ?_, fun out st' h => ?_⟩ (by simp)
    · simp only [sessionStep, he] at h
      rw [← (Prod.mk.inj h).2]
      simp [slotAt]
    · simp [sessionStep, he, SessionResult.ofExcept] at h
  · rw [hrefused hslot, hrefuse]
    refine iff_of_false ?_ (by simp)
    intro h
    have := h.failed e st (by simp only [sessionStep, he]; rfl)
    simp [slotAt, hslot] at this

/-- Every live session fails closed on every response, but for one kind: an
    authenticated SCP02 session whose level has no R-MAC, on a response of more
    than 258 octets. -/
theorem failsClosed_iff {st : BackendState ρ} {h : SessionHandle} {rapdu : List UInt8}
    (hlive : (slotAt st h).isSome) : FailsClosed P st h rapdu ↔ ¬RefusedAt st rapdu h := by
  cases h with
  | scp03 s =>
    constructor
    · intro _ hrefused
      exact hrefused
    · intro _
      exact failsClosed_scp03 P hlive
  | scp02 s => exact failsClosed_scp02 P hlive

/-! ### A response that is too long -/

/-- A backend with one 3DES key. -/
def tdesBackend : BackendState Unit :=
  { BackendState.new () with
    keys := (SlotTable.empty MAX_KEY_SLOTS KeySlot).set 0
      (some ⟨.tripleDesDouble, List.replicate 16 0x40, by decide⟩) }

def scp02Handle : SessionHandle := .scp02 ⟨0⟩

/-- Derive an SCP02 session, and authenticate at C-MAC. -/
def authenticated : BackendState Unit :=
  (sessionStep Primitives.xorCipher
    (.wrap scp02Handle [0x84, 0x82, 0x01, 0x00, 0x08, 1, 2, 3, 4, 5, 6, 7, 8])
    (sessionStep Primitives.xorCipher (.derive02 ⟨0⟩ ⟨0⟩ ⟨0⟩ (Block.zero 2)) tdesBackend).2).2

theorem authenticated_slot :
    (authenticated.scp02Sessions.get 0).map (fun slot => (slot.authed, slot.level)) =
      some (true, 0x01) := by decide +kernel

def longResponse : List UInt8 := List.replicate 259 0

theorem longResponse_length : RAPDU_MAX < longResponse.length := by
  rw [longResponse, List.length_replicate]
  decide

theorem authenticated_live : (slotAt authenticated scp02Handle).isSome = true := by decide +kernel

theorem failsClosed_iff_short_response :
    FailsClosed Primitives.xorCipher authenticated scp02Handle [0x6A, 0x82] ↔
      ¬RefusedAt authenticated [0x6A, 0x82] scp02Handle :=
  failsClosed_iff Primitives.xorCipher authenticated_live

/-- Of 259 octets: the call fails and the session lives on. -/
theorem long_response_leaves_session :
    ¬∀ (st : BackendState Unit) (h : SessionHandle) (rapdu : List UInt8), (slotAt st h).isSome →
      FailsClosed Primitives.xorCipher st h rapdu := by
  intro hclosed
  obtain ⟨slot, hslot, hauthed⟩ := Option.map_eq_some_iff.mp authenticated_slot
  obtain ⟨hauth, hlevel⟩ := Prod.mk.inj hauthed
  have hrefused : RefusedAt authenticated longResponse scp02Handle :=
    ⟨slot, hslot, hauth, by rw [hlevel]; decide, longResponse_length⟩
  have hfails := hclosed authenticated scp02Handle longResponse authenticated_live
  exact (failsClosed_scp02 Primitives.xorCipher authenticated_live).mp hfails hrefused

end FailClosed

end Scll
