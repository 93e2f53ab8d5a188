import Scll.Workflow.OpenSpec

/-! # A card that opens a channel

    The card's end of the three commands of an open, whatever the protocol: a
    target is SELECTed, INITIALIZE UPDATE is answered by the Security Domain
    behind it, and so is EXTERNAL AUTHENTICATE. Nothing here is translated from
    the host.
-/

namespace Scll

/-- A Security Domain, as far as an open needs one. -/
class SecurityDomain (σ : Type) where
  /-- Answer a host challenge, under a key version number or `00`. -/
  initializeUpdate : UInt8 → List UInt8 → σ → Option (List UInt8 × σ)
  /-- Take an EXTERNAL AUTHENTICATE as it was received; `none` is a refusal. -/
  externalAuthenticate : List UInt8 → σ → Option σ
  /-- End the channel. -/
  forget : σ → σ

/-- A card with one Security Domain. -/
structure HonestCard (σ : Type) where
  /-- The names it is SELECTed by. -/
  accepts : List UInt8 → Bool
  /-- What it answers to SELECT. -/
  fci : List UInt8
  fits : fci.length ≤ 256
  selected : Bool
  domain : σ

namespace HonestCard

open Workflow

variable {σ : Type}

/-- Status words of a refusal. -/
def SW_NOT_ALLOWED : UInt16 := 0x6985
def SW_NOT_AUTHENTICATED : UInt16 := 0x6300
def SW_INS_NOT_SUPPORTED : UInt16 := 0x6D00
def SW_WRONG_LENGTH : UInt16 := 0x6700

variable [SecurityDomain σ]

/-- A card whose Security Domain was SELECTed. -/
def choose (card : HonestCard σ) : HonestCard σ :=
  { card with selected := true, domain := SecurityDomain.forget card.domain }

/-- A card whose Security Domain moved on. -/
def setDomain (domain : σ) (card : HonestCard σ) : HonestCard σ := { card with domain := domain }

/-- The answer to one command. -/
def answer (capdu : List UInt8) (card : HonestCard σ) : Rapdu × HonestCard σ :=
  match capdu with
  | _ :: ins :: p1 :: _ :: lc :: rest =>
    if ins = 0xA4 then
      if card.accepts (rest.take lc.toNat) then (.ofAnswer card.fci SW_OK, card.choose)
      else (.ofAnswer [] SW_FILE_NOT_FOUND, card)
    else if card.selected = false then (.ofAnswer [] SW_NOT_ALLOWED, card)
    else if ins = 0x50 then
      match SecurityDomain.initializeUpdate p1 (rest.take lc.toNat) card.domain with
      | some (data, domain) => (.ofAnswer data SW_OK, card.setDomain domain)
      | none => (.ofAnswer [] SW_REF_NOT_FOUND, card)
    else if ins = 0x82 then
      match SecurityDomain.externalAuthenticate capdu card.domain with
      | some domain => (.ofAnswer [] SW_OK, card.setDomain domain)
      | none => (.ofAnswer [] SW_NOT_AUTHENTICATED, card)
    else (.ofAnswer [] SW_INS_NOT_SUPPORTED, card)
  | _ => (.ofAnswer [] SW_WRONG_LENGTH, card)

instance : Transport (HonestCard σ) where
  transmit capdu card := (.ok (answer capdu card).1, (answer capdu card).2)
  capabilities _ := ⟨false, .t1, false⟩
  reset card := (.ok ⟨[], .t1, Nat.zero_le _⟩,
    { card with selected := false, domain := SecurityDomain.forget card.domain })
  protocol _ := .t1
  isConnected _ := true

/-! ### The three commands of an open -/

variable {β : Type} {w : World (HonestCard σ) β}

/-- The world after a command the card answered. -/
def told (capdu : Capdu) (card : HonestCard σ) (w : World (HonestCard σ) β) :
    World (HonestCard σ) β :=
  { w with transport := card, sent := w.sent ++ [capdu] }

theorem transmitPlain_answer {capdu : Capdu} {data : List UInt8} {sw : UInt16}
    {card : HonestCard σ} (hdata : data.length ≤ 256)
    (h : answer capdu w.transport = (.ofAnswer data sw, card)) :
    transmitPlain capdu w = (.ok (data, sw), told capdu card w) := by
  have hexchange : exchange capdu capdu w = (.ok (.ofAnswer data sw), told capdu card w) := by
    have hanswer : exchange capdu capdu w =
        (.ok (answer capdu w.transport).1, told capdu (answer capdu w.transport).2 w) := rfl
    rw [hanswer, h]
  unfold transmitPlain
  rw [Prog.bind_ok hexchange, splitSw_ofAnswer hdata]
  rfl

/-- SELECT of a name the card goes by. -/
theorem select_answer {aid : List UInt8} (haid : AidLength aid)
    (haccepts : w.transport.accepts aid = true) :
    ∃ capdu, select aid w = (.ok w.transport.fci, told capdu w.transport.choose w) := by
  obtain ⟨hmin, hmax⟩ : 5 ≤ aid.length ∧ aid.length ≤ 16 := haid
  have hlc : (UInt8.ofNat aid.length).toNat = aid.length := by
    rw [UInt8.toNat_ofNat']
    omega
  have hne : aid.isEmpty = false := by
    cases aid with
    | nil => simp at hmin
    | cons b bs => rfl
  have hbuild : Capdu.selectByAid aid =
      .ok (0x00 :: 0xA4 :: 0x04 :: 0x00 :: UInt8.ofNat aid.length :: (aid ++ [0x00])) := by
    refine Capdu.build_eq_ok.mpr ⟨by omega, ?_⟩
    unfold Capdu.tailOctets
    simp [hne]
  have hanswer : answer (0x00 :: 0xA4 :: 0x04 :: 0x00 :: UInt8.ofNat aid.length ::
      (aid ++ [0x00])) w.transport = (.ofAnswer w.transport.fci SW_OK, w.transport.choose) := by
    unfold answer
    simp only
    rw [if_pos trivial, hlc, List.take_left' rfl, if_pos haccepts]
  refine ⟨0x00 :: 0xA4 :: 0x04 :: 0x00 :: UInt8.ofNat aid.length :: (aid ++ [0x00]), ?_⟩
  unfold select
  rw [Prog.bind_ok (Prog.lift_eq_ok.mpr ⟨ofBuild_eq_ok.mpr hbuild, rfl⟩),
    Prog.bind_ok (transmitPlain_answer w.transport.fits hanswer)]
  rfl

/-- INITIALIZE UPDATE with a challenge the Security Domain answers. -/
theorem initializeUpdate_answer {kvn p2 : UInt8} {challenge data : List UInt8} {domain : σ}
    (hselected : w.transport.selected = true) (hchallenge : challenge.length ≤ 255)
    (hdata : data.length ≤ 256)
    (hanswer : SecurityDomain.initializeUpdate kvn challenge w.transport.domain =
      some (data, domain)) :
    initializeUpdate (.ok (0x80 :: Scp03.INS_INITIALIZE_UPDATE :: kvn :: p2 ::
        UInt8.ofNat challenge.length :: (challenge ++ [0x00]))) w =
      (.ok data, told (0x80 :: Scp03.INS_INITIALIZE_UPDATE :: kvn :: p2 ::
        UInt8.ofNat challenge.length :: (challenge ++ [0x00]))
        (w.transport.setDomain domain) w) := by
  have hlc : (UInt8.ofNat challenge.length).toNat = challenge.length := by
    rw [UInt8.toNat_ofNat']
    omega
  have hanswered : answer (0x80 :: Scp03.INS_INITIALIZE_UPDATE :: kvn :: p2 ::
      UInt8.ofNat challenge.length :: (challenge ++ [0x00])) w.transport =
      (.ofAnswer data SW_OK, w.transport.setDomain domain) := by
    unfold answer
    simp only
    rw [if_neg (by decide), if_neg (by rw [hselected]; decide),
      if_pos (show Scp03.INS_INITIALIZE_UPDATE = 0x50 from rfl), hlc, List.take_left' rfl, hanswer]
  unfold initializeUpdate
  rw [Prog.bind_ok (Prog.lift_run _ w), Prog.bind_ok (transmitPlain_answer hdata hanswered)]
  rfl

/-- EXTERNAL AUTHENTICATE that the Security Domain accepts. -/
theorem externalAuthenticate_answer {cla p1 p2 lc : UInt8} {rest : List UInt8} {domain : σ}
    (hselected : w.transport.selected = true)
    (haccepted : SecurityDomain.externalAuthenticate
      (cla :: Scp03.INS_EXTERNAL_AUTHENTICATE :: p1 :: p2 :: lc :: rest) w.transport.domain =
      some domain) :
    externalAuthenticate (cla :: Scp03.INS_EXTERNAL_AUTHENTICATE :: p1 :: p2 :: lc :: rest) w =
      (.ok (), told (cla :: Scp03.INS_EXTERNAL_AUTHENTICATE :: p1 :: p2 :: lc :: rest)
        (w.transport.setDomain domain) w) := by
  have hanswered : answer (cla :: Scp03.INS_EXTERNAL_AUTHENTICATE :: p1 :: p2 :: lc :: rest)
      w.transport = (.ofAnswer [] SW_OK, w.transport.setDomain domain) := by
    unfold answer
    simp only
    rw [if_neg (by decide), if_neg (by rw [hselected]; decide), if_neg (by decide),
      if_pos (show Scp03.INS_EXTERNAL_AUTHENTICATE = 0x82 from rfl), haccepted]
  unfold externalAuthenticate
  rw [Prog.bind_ok (transmitPlain_answer (Nat.zero_le _) hanswered)]
  rfl

end HonestCard

end Scll
