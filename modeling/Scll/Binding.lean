import Scll.Binding03
import Scll.Binding02

/-! # Response binding

    In a session with R-MAC the host takes for the answer to a command only
    what the card answered to that command. Nothing the card said before, in
    any order or combination, will do, and nothing at all when the command
    never reached the card.
-/

namespace Scll

namespace Binding

/-- Response binding, over both protocols. Against an attacker that drops,
    replays and recombines at will but forges no MAC, whatever the host accepts
    is what the card answered to that very command: over SCP03 under `9000`,
    `62xx` and `63xx`, over SCP02 under every status word. -/
theorem response_binding (P : Primitives) (ρ : Type) :
    (∀ a : Binding03.Attack P ρ, Binding03.Symbolic P a.card.mode {t | t ∈ a.terms} →
      a.NoForgery → ∀ e ∈ a.rounds, Binding03.Bound e) ∧
    (∀ a : Binding02.Attack P ρ, Set.InjOn (Binding02.MacTerm.mac P) {t | t ∈ a.terms} →
      a.NoForgery → ∀ e ∈ a.rounds, Binding02.Bound e) :=
  ⟨fun a hsym hun => a.rounds_bound hsym hun, fun a hsym hun => a.rounds_bound hsym hun⟩

/-! ### A replay -/

section replay

open Primitives (xorCipher)

theorem wrap03_isSome :
    ((LockStep03.apduChannel xorCipher ⟨0⟩).wrap LockStep03.sampleEa.encode
      LockStep03.sampleBackend).isSome = true := by
  decide +kernel

/-- EXTERNAL AUTHENTICATE of the SCP03 sample session, and its host afterwards. -/
def opened03 : List UInt8 × BackendState Unit := Option.get _ wrap03_isSome

theorem wrap03_eq : (LockStep03.apduChannel xorCipher ⟨0⟩).wrap LockStep03.sampleEa.encode
    LockStep03.sampleBackend = some (opened03.1, opened03.2) := by
  rw [Prod.mk.eta]
  exact (Option.some_get _).symm

/-- The SCP03 sample card before it. -/
def fresh03 : Scp03Card :=
  .fresh LockStep03.sampleKey LockStep03.sampleKey LockStep03.sampleKey .s8

theorem receive03_isSome : (fresh03.receive xorCipher opened03.1).isSome = true := by
  decide +kernel

/-- What the card recovers from it, and the card afterwards. -/
def card03 : Command × Scp03Card := Option.get _ receive03_isSome

theorem receive03_eq :
    fresh03.receive xorCipher opened03.1 = some (card03.1, card03.2) := by
  rw [Prod.mk.eta]
  exact (Option.some_get _).symm

/-- GET STATUS goes through; DELETE never reaches the card, and the host is
    given the answer to GET STATUS once more. -/
def replay03 : Binding03.Attack xorCipher Unit where
  handle := ⟨0⟩
  derivedHost := LockStep03.sampleBackend
  derivedCard := fresh03
  externalAuthenticate := LockStep03.sampleEa.encode
  wire := opened03.1
  got := card03.1
  host := opened03.2
  card := card03.2
  moves :=
    let answer := [99, 0, 128, 0, 0, 0, 0, 0, 0, 0, 0, 0, 0, 0, 0, 1, 243, 112, 179, 2, 9, 206, 2,
      131, 0x90, 0x00]
    [⟨[0x80, 0xF2, 0x80, 0x02, 0x02, 0x4F, 0x00, 0x00], true,
        LockStep03.sampleReply, answer⟩,
      ⟨[0x80, 0xE4, 0x00, 0x00], false, ⟨[], 0x90, 0x00, by decide⟩, answer⟩]
  derived := ⟨LockStep03.sampleKey, LockStep03.sampleKey, LockStep03.sampleKey, .s8, rfl, rfl⟩
  wrapped := wrap03_eq
  received := receive03_eq
  rmac := by decide +kernel

theorem wrap02_isSome :
    ((LockStep02.apduChannel xorCipher ⟨0⟩).wrap LockStep02.sampleEa.encode
      LockStep02.sampleBackend).isSome = true := by
  decide +kernel

/-- EXTERNAL AUTHENTICATE of the SCP02 sample session, and its host afterwards. -/
def opened02 : List UInt8 × BackendState Unit := Option.get _ wrap02_isSome

theorem wrap02_eq : (LockStep02.apduChannel xorCipher ⟨0⟩).wrap LockStep02.sampleEa.encode
    LockStep02.sampleBackend = some (opened02.1, opened02.2) := by
  rw [Prod.mk.eta]
  exact (Option.some_get _).symm

/-- The SCP02 sample card before it. -/
def fresh02 : Scp02Card :=
  .fresh LockStep02.sampleKey LockStep02.sampleKey LockStep02.sampleKey

theorem receive02_isSome : (fresh02.receive xorCipher opened02.1).isSome = true := by
  decide +kernel

/-- What the card recovers from it, and the card afterwards. -/
def card02 : Command × Scp02Card := Option.get _ receive02_isSome

theorem receive02_eq :
    fresh02.receive xorCipher opened02.1 = some (card02.1, card02.2) := by
  rw [Prod.mk.eta]
  exact (Option.some_get _).symm

/-- The same over SCP02. -/
def replay02 : Binding02.Attack xorCipher Unit where
  handle := ⟨0⟩
  derivedHost := LockStep02.sampleBackend
  derivedCard := fresh02
  externalAuthenticate := LockStep02.sampleEa.encode
  wire := opened02.1
  got := card02.1
  host := opened02.2
  card := card02.2
  moves :=
    let answer := [0xE3, 0x00, 227, 117, 5, 5, 154, 206, 2, 1, 0x90, 0x00]
    [⟨[0x80, 0xF2, 0x80, 0x02, 0x02, 0x4F, 0x00, 0x00], true, ⟨[0xE3, 0x00], 0x90, 0x00⟩, answer⟩,
      ⟨[0x80, 0xE4, 0x00, 0x00], false, ⟨[], 0x90, 0x00⟩, answer⟩]
  derived := ⟨LockStep02.sampleKey, LockStep02.sampleKey, LockStep02.sampleKey,
    LockStep02.sampleKey, rfl, rfl⟩
  wrapped := wrap02_eq
  received := receive02_eq
  rmac := by decide +kernel

/-- In both replays the first answer is delivered, the second refused. -/
theorem response_binding_replay :
    (∀ e ∈ replay03.rounds, Binding03.Bound e) ∧ (∀ e ∈ replay02.rounds, Binding02.Bound e) ∧
    replay03.rounds.map (fun e => e.out.bind fun x => x.result.toOption) =
      [some [0xE3, 0x00, 0x90, 0x00], none] ∧
    replay02.rounds.map (fun e => e.out.bind fun x => x.result.toOption) =
      [some [0xE3, 0x00, 0x90, 0x00], none] := by
  have hinj03 : ∀ t ∈ replay03.terms, ∀ t' ∈ replay03.terms,
      t.tag xorCipher .s8 = t'.tag xorCipher .s8 → t = t' := by decide +kernel
  have hnonzero : ∀ t ∈ replay03.terms, t.mac xorCipher ≠ (BlockMode.Block.zero 16).val := by
    decide +kernel
  have hinj02 : ∀ t ∈ replay02.terms, ∀ t' ∈ replay02.terms,
      t.mac xorCipher = t'.mac xorCipher → t = t' := by decide +kernel
  have hun03 : replay03.NoForgery := by
    unfold Binding03.Attack.NoForgery
    decide +kernel
  have hun02 : replay02.NoForgery := by
    unfold Binding02.Attack.NoForgery
    decide +kernel
  obtain ⟨h03, h02⟩ := response_binding xorCipher Unit
  refine ⟨h03 replay03 ⟨?_, hnonzero⟩ hun03, h02 replay02 ?_ hun02, ?_, ?_⟩
  · intro t ht t' ht' htag
    exact hinj03 t ht t' ht' htag
  · intro t ht t' ht' hmac
    exact hinj02 t ht t' ht' hmac
  · decide +kernel
  · decide +kernel

end replay

end Binding

end Scll
