import Scll.Framework.LockStep
import Scll.Framework.Run
import Mathlib.Data.Set.Function

/-! # A channel under attack

    The host wraps a command and then unwraps whatever the attacker hands it
    for an answer. Whether the command reaches the card is up to the attacker
    too. A run of such moves is a run of the machine `attacked`.

    Authentication codes enter as terms: the machine says which terms an event
    computes, which of them it puts on the wire, and which code it accepts. An
    attacker that cannot forge has every accepted code from the wire
    (`Unforged`), and `forall_of_step` is the induction over such runs.
-/

namespace Channel

variable {Host Card Cmd Got Reply Wire Out : Type}

/-- A command and its answer, as the attacker lets them through. -/
structure Move (Cmd Reply Wire : Type) where
  command : Cmd
  /-- The command reaches the card. -/
  forward : Bool
  /-- What the card has to say, when it takes the command. -/
  reply : Reply
  /-- What the host is given for an answer. -/
  delivered : Wire

/-- What a move shows. -/
structure Exchanged (Host Card Got Wire Out : Type) where
  /-- The wrapped command. -/
  wire : Wire
  /-- The host between the command and its answer. -/
  host : Host
  /-- What the card recovered, and the card then; none when the command did not
      reach it or was refused. -/
  received : Option (Got × Card)
  /-- The card's own answer on the wire. -/
  answer : Option Wire
  /-- What the host made of the answer it was given. -/
  result : Out

variable (ch : Channel Host Card Cmd Got Reply Wire Out)

/-- One move. A command the host refuses changes nothing. -/
def attacked (m : Move Cmd Reply Wire) (s : Host × Card) :
    Option (Exchanged Host Card Got Wire Out) × (Host × Card) :=
  match ch.wrap m.command s.1 with
  | none => (none, s)
  | some (wire, host) =>
      let received := if m.forward then ch.receive wire s.2 else none
      let answered := received.bind fun got => ch.respond m.reply got.2
      let card := ((answered.map Prod.snd).or (received.map Prod.snd)).getD s.2
      let (result, after) := ch.unwrap m.delivered host
      (some ⟨wire, host, received, answered.map Prod.fst, result⟩, (after, card))

theorem attacked_of_refused {m : Move Cmd Reply Wire} {s : Host × Card}
    (h : ch.wrap m.command s.1 = none) : ch.attacked m s = (none, s) := by
  rw [attacked, h]

/-- The host took the answer for the card's, and rightly so: the card recovered
    something from the command, and what the host was given is what the card
    answered to it. -/
structure Exchanged.Genuine (x : Exchanged Host Card Got Wire Out) (m : Move Cmd Reply Wire)
    (deliver : Reply → Out) : Prop where
  received : x.received.isSome = true
  answer : x.answer = some m.delivered
  result : x.result = deliver m.reply

/-- What the ends and the record are after a move, when the command was wrapped. -/
theorem attacked_of_wrap {m : Move Cmd Reply Wire} {host host' : Host} {wire : Wire}
    (h : ch.wrap m.command host = some (wire, host')) (card : Card) :
    (m.forward = true ∧ ∃ got card₁, ch.receive wire card = some (got, card₁) ∧
      ((∃ answer card₂, ch.respond m.reply card₁ = some (answer, card₂) ∧
          ch.attacked m (host, card) =
            (some ⟨wire, host', some (got, card₁), some answer, (ch.unwrap m.delivered host').1⟩,
              (ch.unwrap m.delivered host').2, card₂)) ∨
        (ch.respond m.reply card₁ = none ∧
          ch.attacked m (host, card) =
            (some ⟨wire, host', some (got, card₁), none, (ch.unwrap m.delivered host').1⟩,
              (ch.unwrap m.delivered host').2, card₁)))) ∨
    ch.attacked m (host, card) =
      (some ⟨wire, host', none, none, (ch.unwrap m.delivered host').1⟩,
        (ch.unwrap m.delivered host').2, card) := by
  simp only [attacked, h]
  by_cases hforward : m.forward = true
  · simp only [hforward, if_true]
    rcases hreceive : ch.receive wire card with _ | ⟨got, card₁⟩
    · right
      rfl
    · left
      refine ⟨trivial, got, card₁, rfl, ?_⟩
      rcases hrespond : ch.respond m.reply card₁ with _ | ⟨answer, card₂⟩
      · right
        simp only [Option.bind_some, hrespond]
        exact ⟨trivial, rfl⟩
      · left
        simp only [Option.bind_some, hrespond]
        exact ⟨answer, card₂, rfl, rfl⟩
  · right
    simp only [if_neg hforward]
    rfl

/-- What any wrapped command shows, whatever became of it. -/
theorem attacked_host {m : Move Cmd Reply Wire} {s : Host × Card} {host : Host} {wire : Wire}
    (h : ch.wrap m.command s.1 = some (wire, host)) :
    ∃ x, (ch.attacked m s).1 = some x ∧ x.wire = wire ∧ x.host = host ∧
      x.result = (ch.unwrap m.delivered host).1 ∧
      (ch.attacked m s).2.1 = (ch.unwrap m.delivered host).2 := by
  simp only [attacked, h]
  exact ⟨_, rfl, rfl, rfl, rfl, trivial⟩

end Channel

namespace Run

variable {σ Op Out T V : Type} (step : Op → σ → Out × σ)

/-- Every code an event accepts was on the wire by then. `known` are the terms
    whose codes were there before. -/
def Unforged (code : T → V) (sends : Event σ Op Out → List T)
    (accepts : Event σ Op Out → Option V) : List T → List (Event σ Op Out) → Prop
  | _, [] => True
  | known, e :: es =>
      (∀ v ∈ accepts e, v ∈ (known ++ sends e).map code) ∧
        Unforged code sends accepts (known ++ sends e) es

instance decidableUnforged [DecidableEq V] (code : T → V) (sends : Event σ Op Out → List T)
    (accepts : Event σ Op Out → Option V) : ∀ (known : List T) (es : List (Event σ Op Out)),
    Decidable (Unforged code sends accepts known es)
  | _, [] => .isTrue trivial
  | known, e :: es =>
      have := decidableUnforged code sends accepts (known ++ sends e) es
      inferInstanceAs (Decidable (_ ∧ _))

variable {step}

/-- What every unforged step shows, given an invariant of what is on the wire,
    holds of every event of an unforged run. -/
theorem forall_of_step {code : T → V} {computes sends : Event σ Op Out → List T}
    {accepts : Event σ Op Out → Option V} {U : Set T} {I : List T → σ → Prop}
    {B : Event σ Op Out → Prop}
    (hstep : ∀ e known, IsStep step e → (∀ t ∈ computes e, t ∈ U) →
      (∀ v ∈ accepts e, v ∈ (known ++ sends e).map code) → I known e.before →
      I (known ++ sends e) e.after ∧ B e)
    {ops : List Op} {s : σ} {known : List T}
    (hU : ∀ e ∈ run step ops s, ∀ t ∈ computes e, t ∈ U)
    (hun : Unforged code sends accepts known (run step ops s)) (h : I known s) :
    ∀ e ∈ run step ops s, B e := by
  induction ops generalizing s known with
  | nil => simp [run]
  | cons op ops ih =>
    simp only [run, List.forall_mem_cons] at hU ⊢
    obtain ⟨haccept, hrest⟩ := hun
    have his : IsStep step ⟨op, s, (step op s).1, (step op s).2⟩ := rfl
    obtain ⟨hafter, hevent⟩ := hstep _ known his hU.1 haccept h
    exact ⟨hevent, ih hU.2 hrest hafter⟩

end Run
