import Mathlib.Data.List.Basic

/-! # Two ends of a channel in lock step

    A channel has two stateful ends. The host wraps a command, the card
    receives it, the card answers, the host unwraps the answer. A session is a
    first command whose answer is not unwrapped, and then any number of
    exchanges; its record is a list of rounds.

    `Simulation` names the three relations that make an induction over
    sessions go through, and `session_faithful` is that induction.
-/

/-- The two ends of a channel, as functions of their states. -/
structure Channel (Host Card Cmd Got Reply Wire Out : Type) where
  /-- The host wraps a command, or refuses it. -/
  wrap : Cmd → Host → Option (Wire × Host)
  /-- The card takes a wrapped command, or refuses it. -/
  receive : Wire → Card → Option (Got × Card)
  /-- The card puts a reply on the wire, when it fits. -/
  respond : Reply → Card → Option (Wire × Card)
  /-- The host makes something of the answer. -/
  unwrap : Wire → Host → Out × Host

namespace Channel

variable {Host Card Cmd Got Reply Wire Out : Type}

/-- What one exchange showed, and the two ends after it. -/
structure Round (Host Card Cmd Got Reply Out : Type) where
  command : Cmd
  /-- The card's reply; none for the opening command, whose answer is not unwrapped. -/
  reply : Option Reply
  /-- What the card recovered; none when it refused the command. -/
  received : Option Got
  /-- What the host made of the answer. -/
  delivered : Option Out
  host : Host
  card : Card

variable (ch : Channel Host Card Cmd Got Reply Wire Out)

/-- The channel for commands that are written as commands of another kind. -/
def comap {Cmd' : Type} (encode : Cmd' → Cmd) : Channel Host Card Cmd' Got Reply Wire Out where
  wrap c := ch.wrap (encode c)
  receive := ch.receive
  respond := ch.respond
  unwrap := ch.unwrap

/-- The host wraps a command and the card receives it. There is no such step
    when the host refuses the command. -/
def send (c : Cmd) (host : Host) (card : Card) : Option (Option Got × Host × Card) :=
  match ch.wrap c host with
  | none => none
  | some (wire, host) =>
      match ch.receive wire card with
      | none => some (none, host, card)
      | some (got, card) => some (some got, host, card)

/-- The opening command. -/
def openRound (c : Cmd) (host : Host) (card : Card) :
    Option (Round Host Card Cmd Got Reply Out) := do
  let (received, host, card) ← ch.send c host card
  some ⟨c, none, received, none, host, card⟩

/-- A command and its reply. -/
def exchange (c : Cmd) (r : Reply) (host : Host) (card : Card) :
    Option (Round Host Card Cmd Got Reply Out) := do
  let (received, host, card) ← ch.send c host card
  let (wire, card) ← ch.respond r card
  let (delivered, host) := ch.unwrap wire host
  some ⟨c, some r, received, some delivered, host, card⟩

/-- The exchanges after the opening command. -/
def exchanges : List (Cmd × Reply) → Host → Card →
    Option (List (Round Host Card Cmd Got Reply Out))
  | [], _, _ => some []
  | (c, r) :: rest, host, card => do
      let round ← ch.exchange c r host card
      let rounds ← exchanges rest round.host round.card
      some (round :: rounds)

/-- A session, as the list of its rounds. There is none where the host refuses
    a command or a reply does not fit. -/
def session (first : Cmd) (es : List (Cmd × Reply)) (host : Host) (card : Card) :
    Option (List (Round Host Card Cmd Got Reply Out)) := do
  let round ← ch.openRound first host card
  let rounds ← ch.exchanges es round.host round.card
  some (round :: rounds)

/-- The relations between the two ends at the three points of an exchange, and
    what each step makes of them. -/
structure Simulation (expect : Cmd → Got) (deliver : Reply → Out) (first : Cmd) where
  /-- Before the opening command. -/
  fresh : Host → Card → Prop
  /-- Between exchanges. -/
  ready : Host → Card → Prop
  /-- Between a command and its answer. -/
  pending : Host → Card → Prop
  open_step : ∀ {host host' card wire}, fresh host card →
    ch.wrap first host = some (wire, host') →
    ∃ card', ch.receive wire card = some (expect first, card') ∧ ready host' card'
  send_step : ∀ {c host host' card wire}, ready host card →
    ch.wrap c host = some (wire, host') →
    ∃ card', ch.receive wire card = some (expect c, card') ∧ pending host' card'
  answer_step : ∀ {r host card card' wire}, pending host card →
    ch.respond r card = some (wire, card') →
    ∃ host', ch.unwrap wire host = (deliver r, host') ∧ ready host' card'

/-- The round went as the channel means it to. -/
structure Round.Faithful (expect : Cmd → Got) (deliver : Reply → Out)
    (ready : Host → Card → Prop) (round : Round Host Card Cmd Got Reply Out) : Prop where
  /-- The card accepted the command and recovered exactly what was asked for. -/
  received : round.received = some (expect round.command)
  /-- The host delivered exactly what the card answered. -/
  delivered : round.delivered = round.reply.map deliver
  /-- The two ends agree afterwards. -/
  ready : ready round.host round.card

variable {ch}
variable {expect : Cmd → Got} {deliver : Reply → Out} {first : Cmd}

theorem send_of_receive {c : Cmd} {host host' : Host} {card card' : Card} {wire : Wire} {got : Got}
    (hwrap : ch.wrap c host = some (wire, host'))
    (hreceive : ch.receive wire card = some (got, card')) :
    ch.send c host card = some (some got, host', card') := by
  rw [send, hwrap]
  simp only [hreceive]

theorem send_of_refused {c : Cmd} {host : Host} {card : Card} (hwrap : ch.wrap c host = none) :
    ch.send c host card = none := by
  rw [send, hwrap]

theorem openRound_faithful (sim : ch.Simulation expect deliver first) {host : Host} {card : Card}
    {round : Round Host Card Cmd Got Reply Out} (h : sim.fresh host card)
    (hround : ch.openRound first host card = some round) :
    round.command = first ∧ round.reply = none ∧
      round.Faithful expect deliver sim.ready := by
  unfold openRound at hround
  cases hwrap : ch.wrap first host with
  | none =>
    rw [send_of_refused hwrap] at hround
    cases hround
  | some p =>
    obtain ⟨wire, host'⟩ := p
    obtain ⟨card', hreceive, hready⟩ := sim.open_step h hwrap
    rw [send_of_receive hwrap hreceive] at hround
    obtain rfl := Option.some.inj hround
    exact ⟨rfl, rfl, rfl, rfl, hready⟩

theorem exchange_faithful (sim : ch.Simulation expect deliver first) {c : Cmd} {r : Reply}
    {host : Host} {card : Card} {round : Round Host Card Cmd Got Reply Out}
    (h : sim.ready host card) (hround : ch.exchange c r host card = some round) :
    round.command = c ∧ round.reply = some r ∧
      round.Faithful expect deliver sim.ready := by
  unfold exchange at hround
  cases hwrap : ch.wrap c host with
  | none =>
    rw [send_of_refused hwrap] at hround
    cases hround
  | some p =>
    obtain ⟨wire, host₁⟩ := p
    obtain ⟨card₁, hreceive, hpending⟩ := sim.send_step h hwrap
    rw [send_of_receive hwrap hreceive] at hround
    simp only [Option.bind_eq_bind, Option.bind_some] at hround
    obtain ⟨⟨answer, card₂⟩, hrespond, hround⟩ := Option.bind_eq_some_iff.mp hround
    obtain ⟨host₂, hunwrap, hready⟩ := sim.answer_step hpending hrespond
    simp only [hunwrap] at hround
    obtain rfl := Option.some.inj hround
    exact ⟨rfl, rfl, rfl, rfl, hready⟩

/-- By induction on the exchanges: the relation after one is the relation
    before the next. -/
theorem exchanges_faithful (sim : ch.Simulation expect deliver first)
    {es : List (Cmd × Reply)} {host : Host} {card : Card}
    {rounds : List (Round Host Card Cmd Got Reply Out)} (h : sim.ready host card)
    (hrun : ch.exchanges es host card = some rounds) :
    rounds.map (fun round => (round.command, round.reply)) = es.map (fun e => (e.1, some e.2)) ∧
      ∀ round ∈ rounds, round.Faithful expect deliver sim.ready := by
  induction es generalizing host card rounds with
  | nil =>
    obtain rfl := Option.some.inj hrun
    exact ⟨rfl, by simp⟩
  | cons e es ih =>
    obtain ⟨c, r⟩ := e
    obtain ⟨round, hround, hrun⟩ := Option.bind_eq_some_iff.mp hrun
    obtain ⟨rounds', hrest, hrun⟩ := Option.bind_eq_some_iff.mp hrun
    obtain rfl := Option.some.inj hrun
    obtain ⟨hcommand, hreply, hfaithful⟩ := exchange_faithful sim h hround
    obtain ⟨hmap, hall⟩ := ih hfaithful.ready hrest
    refine ⟨?_, List.forall_mem_cons.mpr ⟨hfaithful, hall⟩⟩
    rw [List.map_cons, List.map_cons, hmap, hcommand, hreply]

/-- Every round of a session is faithful, and the session has one round for
    each command, in order. -/
theorem session_faithful (sim : ch.Simulation expect deliver first) {es : List (Cmd × Reply)}
    {host : Host} {card : Card} {rounds : List (Round Host Card Cmd Got Reply Out)}
    (h : sim.fresh host card) (hrun : ch.session first es host card = some rounds) :
    rounds.map (fun round => (round.command, round.reply)) =
        (first, none) :: es.map (fun e => (e.1, some e.2)) ∧
      ∀ round ∈ rounds, round.Faithful expect deliver sim.ready := by
  obtain ⟨round, hopen, hrun⟩ := Option.bind_eq_some_iff.mp hrun
  obtain ⟨rounds', hrest, hrun⟩ := Option.bind_eq_some_iff.mp hrun
  obtain rfl := Option.some.inj hrun
  obtain ⟨hcommand, hreply, hfaithful⟩ := openRound_faithful sim h hopen
  obtain ⟨hmap, hall⟩ := exchanges_faithful sim hfaithful.ready hrest
  refine ⟨?_, List.forall_mem_cons.mpr ⟨hfaithful, hall⟩⟩
  rw [List.map_cons, hmap, hcommand, hreply]

end Channel
