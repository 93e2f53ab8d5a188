import Scll.Card.KeyRing
import Scll.Card.Listing
import Scll.SetStatusLaw
import Scll.Visits
import Mathlib.Logic.Relation

/-! # A card with a life cycle

    The issuer's side of SET STATUS. A card is in a state, shows it to whoever
    asks, and has a rule of its own for where it lets itself be sent; nothing is
    asked of the rule. Over it, the life cycle as a relation: what is behind a
    card that has moved on.
-/

namespace Scll

open Listing Response Workflow

/-! ### The application -/

/-- What one card has and another has not. -/
structure LifeRule (P : Primitives) where
  domain : HonestDomain P
  isd : Aid
  privileges : Privileges
  /-- The answer to SET STATUS, by the state it is in and the state it is sent to. -/
  answer : UInt8 → UInt8 → UInt16

structure LifeCard {P : Primitives} (r : LifeRule P) where
  /-- The life-cycle octet. -/
  state : UInt8

namespace LifeCard

variable {P : Primitives} {r : LifeRule P}

/-- The card moves when it answers `9000`. -/
def setStatus (p2 : UInt8) (card : LifeCard r) : AppReply × LifeCard r :=
  (.status (r.answer card.state p2), if r.answer card.state p2 = SW_OK then ⟨p2⟩ else card)

def perform (cmd : Command) (card : LifeCard r) : AppReply × LifeCard r :=
  if cmd.ins = Capdu.INS_GET_STATUS ∧ cmd.p1 = P1_ISD_SCOPE then
    (.ok (octets [isdFields r.isd card.state r.privileges]), card)
  -- the AID that comes with the command is ignored
  else if cmd.ins = Capdu.INS_SET_STATUS ∧ cmd.p1 = P1_ISD_SCOPE then card.setStatus cmd.p2
  else (.status HonestCard.SW_INS_NOT_SUPPORTED, card)

/-- Any key version of the Security Domain opens a channel to it. -/
instance : Issuer P (LifeCard r) where
  perform := perform
  domain kvn _ := if kvn = 0x00 ∨ kvn = r.domain.kvn then some r.domain else none
  opened _ card := card

theorem perform_getStatus (p2 : UInt8) (data : List UInt8) (card : LifeCard r) :
    card.perform ⟨0xF2, 0x80, p2, data⟩ =
      (.ok (octets [isdFields r.isd card.state r.privileges]), card) := by
  unfold perform
  rw [if_pos ⟨rfl, rfl⟩]

theorem perform_setStatus (p2 : UInt8) (data : List UInt8) (card : LifeCard r) :
    card.perform ⟨0xF0, 0x80, p2, data⟩ = card.setStatus p2 := by
  have hother : ¬(0xF0 : UInt8) = Capdu.INS_GET_STATUS := by decide
  unfold perform
  rw [if_neg (fun h => hother h.1), if_pos ⟨rfl, rfl⟩]

end LifeCard

/-! ### The life cycle -/

/-- A move of the matrix, with or without `force`. -/
def Moves (s t : CardLifeCycle) : Prop := ∃ force, Allows s t force

/-- The states that can be reached from a state. -/
def Leads : CardLifeCycle → CardLifeCycle → Prop := Relation.ReflTransGen Moves

/-- How far a card has come. -/
def stage : CardLifeCycle → ℕ
  | .opReady => 0
  | .initialized => 1
  | .secured => 2
  | .cardLocked => 2
  | .terminated => 3
  | .unknown _ => 3

theorem Moves.stage_le {s t : CardLifeCycle} (h : Moves s t) : stage s ≤ stage t := by
  obtain ⟨force, hallows⟩ := h
  cases hallows with
  | start => decide
  | secure => decide
  | unlock => decide
  | lock => decide
  | skip => decide

theorem Leads.stage_le {s t : CardLifeCycle} (h : Leads s t) : stage s ≤ stage t := by
  induction h with
  | refl => exact Nat.le_refl _
  | tail _ hmove ih => exact ih.trans hmove.stage_le

/-- A move that is reported as irreversible leads on. -/
theorem stage_lt_of_irreversible {s t : CardLifeCycle} {force : Bool} (h : Allows s t force)
    (hirreversible : irreversible s t = true) : stage s < stage t := by
  cases h with
  | start => decide
  | secure => decide
  | unlock => cases hirreversible
  | lock => cases hirreversible
  | skip => decide

/-- From further on there is no way back. -/
theorem not_leads_of_stage_lt {s t : CardLifeCycle} (h : stage s < stage t) : ¬Leads t s := by
  intro hback
  have hle := hback.stage_le
  omega

theorem decodeLifeCycle_rawByte {s t : CardLifeCycle} {force : Bool} (h : Allows s t force) :
    decodeLifeCycle (rawByte t) = t := by
  cases h <;> rfl

end Scll
