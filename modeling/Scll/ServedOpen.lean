import Scll.Cap.Sample
import Scll.Transparent

/-! # Opening a channel to an application

    The front of a served card is an honest card, but which Security Domain it
    is in front of is only known with INITIALIZE UPDATE. Up to there an open
    goes as with an honest card whose domain is the one to come, and from there
    with the honest card itself. What is known of honest handshakes then holds
    of the served card, and its application has been told.
-/

namespace Scll

open Cap Workflow

variable {P : Primitives} {ρ α β : Type}

/-! ### Two worlds that differ in their cards -/

section cards

variable {τ τ' : Type}

/-- The cards are related; all else is the same. -/
structure OnCards (T : τ → τ' → Prop) (w : World τ β) (w' : World τ' β) : Prop where
  cards : T w.transport w'.transport
  backend : w.backend = w'.backend
  sent : w.sent = w'.sent

variable {T U : τ → τ' → Prop}

/-- What is done on the backend is done alike. -/
theorem onBackend_simulates (m : Prog β ScllError α) :
    Prog.Simulates (OnCards T) (OnCards T) (onBackend m) (onBackend m) := by
  intro w w' h
  obtain ⟨hcards, hbackend, hsent⟩ := h
  unfold onBackend Prog.zoom
  rw [hbackend]
  exact ⟨rfl, hcards, rfl, hsent⟩

variable [Transport τ] [Transport τ']

theorem transmitPlain_run {capdu : Capdu} {rapdu : Rapdu} {w : World τ β} {t : τ}
    (h : Transport.transmit capdu w.transport = (.ok rapdu, t)) :
    transmitPlain capdu w = (splitSw rapdu.octets, ⟨t, w.backend, w.sent ++ [capdu]⟩) := by
  unfold transmitPlain exchange
  simp only [Prog.bind_run, Workflow.note, Prog.update_run, Prog.zoom, Prog.mapErr]
  rw [h]
  rfl

theorem transmitPlain_simulates {capdu : Capdu}
    (h : ∀ c c', T c c' → (Transport.transmit capdu c).1 = (Transport.transmit capdu c').1 ∧
      U (Transport.transmit capdu c).2 (Transport.transmit capdu c').2) :
    Prog.Simulates (OnCards T) (OnCards U) (transmitPlain capdu : Prog (World τ β) ScllError _)
      (transmitPlain capdu) := by
  intro w w' hw
  obtain ⟨hcards, hbackend, hsent⟩ := hw
  obtain ⟨hanswer, hnext⟩ := h _ _ hcards
  unfold transmitPlain exchange
  simp only [Prog.bind_run, Workflow.note, Prog.update_run, Prog.zoom, Prog.mapErr]
  rw [hanswer, hbackend, hsent]
  cases (Transport.transmit capdu w'.transport).1 with
  | ok rapdu => exact ⟨rfl, hnext, rfl, rfl⟩
  | error e => exact ⟨rfl, hnext, rfl, rfl⟩

/-- SELECT by AID does what every SELECT command does. -/
theorem select_simulates {aid : List UInt8}
    (h : ∀ rest c c', T c c' →
      (Transport.transmit (0x00 :: 0xA4 :: rest) c).1 =
        (Transport.transmit (0x00 :: 0xA4 :: rest) c').1 ∧
      T (Transport.transmit (0x00 :: 0xA4 :: rest) c).2
        (Transport.transmit (0x00 :: 0xA4 :: rest) c').2) :
    Prog.Simulates (OnCards T) (OnCards T) (select aid : Prog (World τ β) ScllError _)
      (select aid) := by
  unfold select
  refine .lift_bind (fun capdu hcapdu => ?_) fun _ _ hw => hw
  obtain ⟨-, rfl⟩ := Capdu.build_eq_ok.mp (ofBuild_eq_ok.mp hcapdu)
  exact .bind (transmitPlain_simulates (h _)) fun _ => .lift _

/-- So does INITIALIZE UPDATE under a key version. -/
theorem initializeUpdate_simulates {kvn : UInt8} {rest : List UInt8} {iu : Except ScllError Capdu}
    (hiu : iu = .ok (0x80 :: 0x50 :: kvn :: rest))
    (h : ∀ c c', T c c' →
      (Transport.transmit (0x80 :: 0x50 :: kvn :: rest) c).1 =
        (Transport.transmit (0x80 :: 0x50 :: kvn :: rest) c').1 ∧
      U (Transport.transmit (0x80 :: 0x50 :: kvn :: rest) c).2
        (Transport.transmit (0x80 :: 0x50 :: kvn :: rest) c').2) :
    Prog.Simulates (OnCards T) (OnCards U) (initializeUpdate iu : Prog (World τ β) ScllError _)
      (initializeUpdate iu) := by
  subst hiu
  unfold initializeUpdate
  intro w w' hw
  rw [Prog.bind_ok (Prog.lift_run _ w), Prog.bind_ok (Prog.lift_run _ w')]
  exact (Prog.Simulates.seq (transmitPlain_simulates h) (fun _ => .lift _) fun _ _ hw => hw) w w' hw

end cards

/-! ### The front -/

namespace HonestDomain

theorem channel_forget (sd : HonestDomain P) : (HonestDomain.forget sd).channel = none := by
  cases sd <;> rfl

theorem forget_forget (sd : HonestDomain P) :
    HonestDomain.forget (HonestDomain.forget sd) = HonestDomain.forget sd := by
  cases sd <;> rfl

/-- INITIALIZE UPDATE opens nothing. -/
theorem channel_initializeUpdate {sd : HonestDomain P} {kvn : UInt8} {hostChallenge : List UInt8}
    {p : List UInt8 × HonestDomain P}
    (h : HonestDomain.initializeUpdate kvn hostChallenge sd = some p) : p.2.channel = none := by
  cases sd with
  | scp03 sd =>
    obtain ⟨q, hq, rfl⟩ := Option.map_eq_some_iff.mp h
    unfold Scp03Domain.initializeUpdate at hq
    split at hq
    · cases hq
    · split at hq
      · cases hq
      · obtain rfl := Option.some.inj hq
        rfl
  | scp02 sd =>
    obtain ⟨q, hq, rfl⟩ := Option.map_eq_some_iff.mp h
    unfold Scp02Domain.initializeUpdate at hq
    split at hq
    · cases hq
    · split at hq
      · cases hq
      · obtain rfl := Option.some.inj hq
        rfl

end HonestDomain

namespace HonestCard

/-- SELECT is answered without the Security Domain, which it only resets. -/
theorem answer_select {sd : HonestDomain P} (hidle : SecurityDomain.forget sd = sd)
    (front : HonestCard (HonestDomain P)) (cla : UInt8) (rest : List UInt8) :
    ((front.setDomain sd).answer (cla :: 0xA4 :: rest)).1 = (front.answer (cla :: 0xA4 :: rest)).1 ∧
      ((front.setDomain sd).answer (cla :: 0xA4 :: rest)).2 =
        (front.answer (cla :: 0xA4 :: rest)).2.setDomain sd := by
  rcases rest with _ | ⟨p1, _ | ⟨p2, _ | ⟨lc, rest⟩⟩⟩
  · exact ⟨rfl, rfl⟩
  · exact ⟨rfl, rfl⟩
  · exact ⟨rfl, rfl⟩
  · have haccepts : (front.setDomain sd).accepts = front.accepts := rfl
    unfold answer
    dsimp only
    rw [if_pos rfl, if_pos rfl, haccepts]
    split
    · refine ⟨rfl, ?_⟩
      unfold choose setDomain
      dsimp only
      rw [hidle]
    · exact ⟨rfl, rfl⟩

theorem channel_challenged {card : HonestCard (HonestDomain P)} (hidle : card.domain.channel = none)
    (cla : UInt8) (rest : List UInt8) :
    (card.answer (cla :: 0x50 :: rest)).2.domain.channel = none := by
  rcases rest with _ | ⟨p1, _ | ⟨p2, _ | ⟨lc, rest⟩⟩⟩
  · exact hidle
  · exact hidle
  · exact hidle
  · unfold answer
    dsimp only
    rw [if_neg (by decide)]
    split
    · exact hidle
    · rw [if_pos rfl]
      cases hupdate : SecurityDomain.initializeUpdate p1 (rest.take lc.toNat) card.domain with
      | none => exact hidle
      | some p => exact HonestDomain.channel_initializeUpdate hupdate

end HonestCard

/-! ### A served card beside its front -/

namespace ServedCard

variable [Issuer P α]

/-- The honest card that stands in until INITIALIZE UPDATE: the front, with the
    Security Domain that is to answer. -/
structure Fronted (sd : HonestDomain P) (app : α) (c : ServedCard P α)
    (card : HonestCard (HonestDomain P)) : Prop where
  card : card = c.front.setDomain sd
  app : c.app = app

/-- Past it the front is the honest card, with a challenge out. -/
structure Challenged (app : α) (c : ServedCard P α) (card : HonestCard (HonestDomain P)) : Prop where
  card : card = c.front
  idle : c.channel = none
  app : c.app = app

theorem answer_idle {c : ServedCard P α} (hidle : c.channel = none) (capdu : List UInt8) :
    c.answer capdu = answerPlain capdu c := by
  unfold answer
  rw [hidle]

theorem answer_plain {cla : UInt8} (hcla : cla &&& 0x04 = 0) (rest : List UInt8)
    (c : ServedCard P α) : c.answer (cla :: rest) = answerPlain (cla :: rest) c := by
  unfold answer
  cases c.channel with
  | none => rfl
  | some ch => exact if_pos hcla

variable {sd sd₀ : HonestDomain P} {app : α}

theorem fronted_select (hidle : SecurityDomain.forget sd = sd) (rest : List UInt8)
    (c : ServedCard P α) (card : HonestCard (HonestDomain P)) (h : Fronted sd app c card) :
    (Transport.transmit (0x00 :: 0xA4 :: rest) c).1 =
        (Transport.transmit (0x00 :: 0xA4 :: rest) card).1 ∧
      Fronted sd app (Transport.transmit (0x00 :: 0xA4 :: rest) c).2
        (Transport.transmit (0x00 :: 0xA4 :: rest) card).2 := by
  obtain ⟨rfl, rfl⟩ := h
  obtain ⟨hanswer, hnext⟩ := HonestCard.answer_select hidle c.front 0x00 rest
  have hplain : c.answer (0x00 :: 0xA4 :: rest) = answerFront (0x00 :: 0xA4 :: rest) c := by
    rw [answer_plain (by decide)]
    cases rest <;> rfl
  show Except.ok (c.answer _).1 = Except.ok (HonestCard.answer _ _).1 ∧
    Fronted sd c.app (c.answer _).2 (HonestCard.answer _ _).2
  rw [hplain]
  exact ⟨congrArg Except.ok hanswer.symm, hnext, rfl⟩

theorem fronted_challenge {kvn : UInt8} (hdomain : Issuer.domain kvn app = some sd₀)
    (rest : List UInt8) (c : ServedCard P α) (card : HonestCard (HonestDomain P))
    (h : Fronted (SecurityDomain.forget sd₀) app c card) :
    (Transport.transmit (0x80 :: 0x50 :: kvn :: rest) c).1 =
        (Transport.transmit (0x80 :: 0x50 :: kvn :: rest) card).1 ∧
      Challenged app (Transport.transmit (0x80 :: 0x50 :: kvn :: rest) c).2
        (Transport.transmit (0x80 :: 0x50 :: kvn :: rest) card).2 := by
  obtain ⟨rfl, rfl⟩ := h
  have hplain : c.answer (0x80 :: 0x50 :: kvn :: rest) =
      answerFront (0x80 :: 0x50 :: kvn :: rest)
        { c with front := c.front.setDomain (SecurityDomain.forget sd₀) } := by
    rw [answer_plain (by decide)]
    unfold answerPlain
    dsimp only
    rw [if_pos rfl]
    unfold challenge
    rw [hdomain]
  show Except.ok (c.answer _).1 = Except.ok (HonestCard.answer _ _).1 ∧
    Challenged c.app (c.answer _).2 (HonestCard.answer _ _).2
  rw [hplain]
  refine ⟨rfl, rfl, ?_, rfl⟩
  exact HonestCard.channel_challenged (HonestDomain.channel_forget sd₀) _ _

/-- The command that opens is told to the application. -/
theorem challenged_authenticate {ea : List UInt8} {p1 cla : UInt8} {rest : List UInt8}
    (hea : ea = cla :: 0x82 :: p1 :: rest) {c : ServedCard P α} {card : HonestCard (HonestDomain P)}
    (h : Challenged app c card) {ch : CardChannel}
    (hopened : (card.answer ea).2.domain.channel = some ch) :
    Transport.transmit ea c = (.ok (card.answer ea).1,
      ⟨(card.answer ea).2, Issuer.opened (card.answer ea).2.domain app⟩) := by
  obtain ⟨rfl, hidle, rfl⟩ := h
  have hplain : c.answer ea = authenticate ea c := by
    rw [answer_idle hidle, hea]
    unfold answerPlain
    dsimp only
    rw [if_neg (by decide), if_pos rfl]
  have hnext : (answerFront ea c).2.channel = some ch := hopened
  show (Except.ok (c.answer ea).1, (c.answer ea).2) = _
  rw [hplain]
  unfold authenticate
  dsimp only
  rw [hidle, hnext]
  rfl

end ServedCard

/-! ### The command that opens -/

theorem Scp03Card.receive_octets {card card' : Scp03Card} {capdu : List UInt8} {cmd : Command}
    (h : card.receive P capdu = some (cmd, card')) :
    ∃ cla rest, capdu = cla :: cmd.ins :: cmd.p1 :: rest := by
  unfold Scp03Card.receive at h
  split at h
  · next cla ins p1 p2 lc rest =>
    dsimp only at h
    split at h
    · cases h
    · split at h
      · cases h
      · split at h
        · cases h
        · obtain ⟨q, -, hq⟩ := Option.map_eq_some_iff.mp h
          obtain ⟨rfl, -⟩ := Prod.mk.inj hq
          exact ⟨cla, p2 :: lc :: rest, rfl⟩
  · cases h

theorem Scp02Card.receive_octets {card card' : Scp02Card} {capdu : List UInt8} {cmd : Command}
    (h : card.receive P capdu = some (cmd, card')) :
    ∃ cla rest, capdu = cla :: cmd.ins :: cmd.p1 :: rest := by
  unfold Scp02Card.receive at h
  split at h
  · next cla ins p1 p2 lc rest =>
    dsimp only at h
    split at h
    · cases h
    · split at h
      · cases h
      · split at h
        · cases h
        · split at h
          · cases h
          · obtain ⟨q, -, hq⟩ := Option.map_eq_some_iff.mp h
            obtain ⟨rfl, -⟩ := Prod.mk.inj hq
            exact ⟨cla, p2 :: lc :: rest, rfl⟩
  · cases h

/-! ### The stages of an open -/

namespace Workflow

open ServedCard

variable [Issuer P α] {sd₀ : HonestDomain P} {app : α} {args : OpenScpArgs}
  {w : World (ServedCard P α) (RustCryptoBackend P ρ)}
  {w' w₁' : World (HonestCard (HonestDomain P)) (RustCryptoBackend P ρ)}

theorem selectTarget_served {sd : HonestDomain P} (hidle : SecurityDomain.forget sd = sd) :
    Prog.Simulates (OnCards (Fronted sd app)) (OnCards (Fronted sd app))
      (selectTarget args : Prog (World _ (RustCryptoBackend P ρ)) ScllError _)
      (selectTarget args) := by
  unfold selectTarget
  apply Prog.Simulates.bind (.lift _)
  intro variant
  apply Prog.Simulates.bind (select_simulates (fronted_select hidle))
  intro fci
  exact .bind (.lift _) fun _ => .pure _

variable [RngCore ρ]

theorem challenge03_served (hdomain : Issuer.domain args.kvn app = some sd₀) {iParam : UInt8}
    {r : List UInt8 × List UInt8} (h : OnCards (Fronted (SecurityDomain.forget sd₀) app) w w')
    (hrun : challenge03 args iParam w' = (.ok r, w₁')) :
    ∃ w₁, challenge03 args iParam w = (.ok r, w₁) ∧ OnCards (Challenged app) w₁ w₁' := by
  obtain ⟨hostChallenge, w₀', hrandom', hrun⟩ := Prog.bind_eq_ok.mp hrun
  obtain ⟨iuData, w₂', hupdate', hrun⟩ := Prog.bind_eq_ok.mp hrun
  obtain ⟨w₀, hrandom, h⟩ := (onBackend_simulates _).ok h hrandom'
  have hlen := hostChallenge.property
  have hle := ScpMode.fieldLen_le (ScpMode.fromI iParam)
  have hiu := iuCommand03_eq_ok.mpr ⟨show hostChallenge.val.length ≤ 255 by omega,
    rfl (a := 0x80 :: Scp03.INS_INITIALIZE_UPDATE :: args.kvn :: 0x00 ::
      UInt8.ofNat hostChallenge.val.length :: (hostChallenge.val ++ [0x00]))⟩
  obtain ⟨w₂, hupdate, h⟩ :=
    (initializeUpdate_simulates hiu (fronted_challenge hdomain _)).ok h hupdate'
  obtain ⟨hr, rfl⟩ := Prod.mk.inj hrun
  obtain rfl := Except.ok.inj hr
  refine ⟨w₂, ?_, h⟩
  unfold challenge03
  rw [Prog.bind_ok hrandom, Prog.bind_ok hupdate]
  rfl

theorem challenge02_served (hdomain : Issuer.domain args.kvn app = some sd₀)
    {r : BlockMode.Block 8 × List UInt8}
    (h : OnCards (Fronted (SecurityDomain.forget sd₀) app) w w')
    (hrun : challenge02 args w' = (.ok r, w₁')) :
    ∃ w₁, challenge02 args w = (.ok r, w₁) ∧ OnCards (Challenged app) w₁ w₁' := by
  obtain ⟨hostChallenge, w₀', hrandom', hrun⟩ := Prog.bind_eq_ok.mp hrun
  obtain ⟨iuData, w₂', hupdate', hrun⟩ := Prog.bind_eq_ok.mp hrun
  obtain ⟨w₀, hrandom, h⟩ := (onBackend_simulates _).ok h hrandom'
  have hiu := iuCommand02_eq_ok.mpr (rfl (a := 0x80 :: Scp03.INS_INITIALIZE_UPDATE :: args.kvn ::
    SCP02_KEY_ID :: 0x08 :: (hostChallenge.val ++ [0x00])))
  obtain ⟨w₂, hupdate, h⟩ :=
    (initializeUpdate_simulates hiu (fronted_challenge hdomain _)).ok h hupdate'
  obtain ⟨hr, rfl⟩ := Prod.mk.inj hrun
  obtain rfl := Except.ok.inj hr
  refine ⟨w₂, ?_, h⟩
  unfold challenge02
  rw [Prog.bind_ok hrandom, Prog.bind_ok hupdate]
  rfl

/-- `begin` is done on the backend, so up to EXTERNAL AUTHENTICATE all goes alike. -/
theorem begun_served (hdomain : Issuer.domain args.kvn app = some sd₀) {target : OpenTarget}
    {ea : Capdu} {opened : Opened} (h : OnCards (Fronted (SecurityDomain.forget sd₀) app) w w')
    (hbegun : Begun args target w' ea opened w₁') :
    ∃ w₁, Begun args target w ea opened w₁ ∧ OnCards (Challenged app) w₁ w₁' := by
  cases hbegun with
  | scp03 hvariant hchallenge hparsed hbegin =>
    obtain ⟨w₁, hrun, hcards, hbackend, hsent⟩ := challenge03_served hdomain h hchallenge
    rw [← hbackend] at hbegin
    exact ⟨_, .scp03 hvariant hrun hparsed hbegin, hcards, rfl, hsent⟩
  | scp02 hvariant hchallenge hparsed hbegin =>
    obtain ⟨w₁, hrun, hcards, hbackend, hsent⟩ := challenge02_served hdomain h hchallenge
    rw [← hbackend] at hbegin
    exact ⟨_, .scp02 hvariant hrun hparsed hbegin, hcards, rfl, hsent⟩

/-! ### The open -/

/-- A served card that an open meets: the keyset it asks for is there, and the front
    would be met as an honest card with that Security Domain. -/
structure MeetsServed (args : OpenScpArgs) (c : ServedCard P α) (st : BackendState ρ)
    (sd : HonestDomain P) : Prop where
  domain : Issuer.domain args.kvn c.app = some sd
  meets : Meets args (c.front.setDomain (SecurityDomain.forget sd)) st

section agreed

variable {iu ea : Capdu} {report : OpenScpReport} {st : BackendState ρ} {sd sd' : HonestDomain P}

omit [RngCore ρ]

/-- The command that the card has verified is EXTERNAL AUTHENTICATE. -/
theorem Agreed.shape (h : Agreed args iu ea report st sd sd') :
    ∃ cla p1 rest, ea = cla :: 0x82 :: p1 :: rest := by
  cases h with
  | scp03 _ _ hverified _ _ _ =>
    obtain ⟨cla, rest, hea⟩ := Scp03Card.receive_octets hverified
    exact ⟨cla, _, rest, hea⟩
  | scp02 _ _ hverified _ _ _ _ =>
    obtain ⟨cla, rest, hea⟩ := Scp02Card.receive_octets hverified
    exact ⟨cla, _, rest, hea⟩

/-- The two ends of the channel are in step. -/
theorem Agreed.locked (h : Agreed args iu ea report st sd sd') :
    ∃ ch, sd'.channel = some ch ∧ Locked st report.session ch := by
  cases h with
  | scp03 hsession _ _ hagree _ _ => exact ⟨_, rfl, hsession ▸ .scp03 hagree⟩
  | scp02 hsession _ _ hagree _ _ _ => exact ⟨_, rfl, hsession ▸ .scp02 hagree⟩

end agreed

/-- An open that meets a served card succeeds, leaves both ends in step, and the
    application has been told. -/
theorem openScp_served {sd : HonestDomain P} (hmeets : MeetsServed args w.transport w.backend sd) :
    ∃ sel iu ea report w', openScp args w = (.ok report, w') ∧
      w'.sent = w.sent ++ [sel, iu, ea] ∧
      Agreed args iu ea report w'.backend (SecurityDomain.forget sd) w'.transport.front.domain ∧
      w'.transport.app = Issuer.opened w'.transport.front.domain w.transport.app := by
  let before : World (HonestCard (HonestDomain P)) (RustCryptoBackend P ρ) :=
    ⟨w.transport.front.setDomain (SecurityDomain.forget sd), w.backend, w.sent⟩
  have hcards : OnCards (Fronted (SecurityDomain.forget sd) w.transport.app) w before :=
    ⟨⟨rfl, rfl⟩, rfl, rfl⟩
  -- what is known of honest cards is known of the one that stands in
  have hopened : ∃ sel iu ea report w', openScp args before = (.ok report, w') ∧
      w'.sent = w.sent ++ [sel, iu, ea] ∧
      Agreed args iu ea report w'.backend before.transport.domain w'.transport.domain := by
    cases hdomain : before.transport.domain with
    | scp03 sd =>
      rw [← hdomain]
      exact openScp03_honest hmeets.meets hdomain
    | scp02 sd =>
      rw [← hdomain]
      exact openScp02_honest hmeets.meets hdomain
  obtain ⟨sel, iu, ea, report, w', hopen, hsent, hagreed⟩ := hopened
  obtain ⟨target, w₀', ea', opened, w₁', data, htarget, hbegun, hanswered, rfl⟩ := openScp_ok hopen
  obtain ⟨w₀, htarget, hcards⟩ := (selectTarget_served (HonestDomain.forget_forget sd)).ok hcards htarget
  obtain ⟨w₁, hbegun, hcards⟩ := begun_served hmeets.domain hcards hbegun
  obtain ⟨cla, p1, rest, hea⟩ := hagreed.shape
  obtain ⟨ch, hch, -⟩ := hagreed.locked
  have hlast : w₁'.sent ++ [ea'] = (w.sent ++ [sel, iu]) ++ [ea] := by
    rw [← hanswered.sent.noted, hsent, List.append_assoc]
    rfl
  obtain ⟨hfirst, hone⟩ := List.append_inj' hlast rfl
  obtain rfl : ea' = ea := List.head_eq_of_cons_eq hone
  have hcard : w'.transport = (w₁'.transport.answer ea').2 := hanswered.sent.transport
  have htransmit := challenged_authenticate hea hcards.cards (hcard ▸ hch)
  rw [← hcard] at htransmit
  obtain ⟨rapdu, hrapdu, hsplit⟩ := hanswered.answer
  have hsame : w₁'.transport.answer ea' = (rapdu, w'.transport) :=
    Prod.ext (Except.ok.inj hrapdu) hcard.symm
  rw [hsame] at htransmit
  have haccepted : externalAuthenticate ea' w₁ = (.ok (), ⟨⟨w'.transport,
      Issuer.opened w'.transport.domain w.transport.app⟩, w₁.backend, w₁.sent ++ [ea']⟩) := by
    unfold externalAuthenticate
    rw [Prog.bind_ok ((transmitPlain_run htransmit).trans (by rw [hsplit]))]
    rfl
  refine ⟨sel, iu, ea', _, _, openScp_of_begun htarget hbegun haccepted, ?_, ?_, rfl⟩
  · show w₁.sent ++ [ea'] = _
    rw [hcards.sent, hlast, List.append_assoc]
    rfl
  · show Agreed args iu ea' _ w₁.backend _ _
    rw [hcards.backend, ← hanswered.backend]
    exact hagreed

/-! ### What the application does not know -/

/-- The application is the same. -/
def untold : Prog.Frame (World (ServedCard P α) β) where
  rel w w' := w'.transport.app = w.transport.app
  refl _ := rfl
  trans h h' := h'.trans h

omit [Issuer P α] [RngCore ρ] in
theorem onBackend_untold {γ : Type} (m : Prog β ScllError γ) :
    (onBackend m : Prog (World (ServedCard P α) β) ScllError _).Keeps untold :=
  fun _ => rfl

omit [RngCore ρ] in
/-- The front answers SELECT, and the application does not hear of it. -/
theorem selectTarget_untold (args : OpenScpArgs) :
    (selectTarget args : Prog (World (ServedCard P α) (RustCryptoBackend P ρ)) ScllError _).Keeps
      untold := by
  have hselect : ∀ aid, (select aid : Prog (World (ServedCard P α) (RustCryptoBackend P ρ))
      ScllError _).Keeps untold := by
    intro aid
    apply Prog.Keeps.lift_bind
    intro capdu hcapdu
    obtain ⟨-, rfl⟩ := Capdu.build_eq_ok.mp (ofBuild_eq_ok.mp hcapdu)
    refine .bind (.bind (.bind (fun w => rfl) fun _ w => ?_) fun _ => .lift _) fun _ => .lift _
    show (ServedCard.answer _ w.transport).2.app = _
    rw [ServedCard.answer_plain (by decide)]
    rfl
  exact .bind (.lift _) fun _ => .bind (hselect _) fun _ => .bind (.lift _) fun _ => .pure _

omit [RngCore ρ] in
/-- INITIALIZE UPDATE under a version that no keyset has is refused. -/
theorem initializeUpdate_unknown {kvn : UInt8} {rest : List UInt8} {iu : Except ScllError Capdu}
    (hiu : iu = .ok (0x80 :: 0x50 :: kvn :: rest)) {data : List UInt8}
    {w w' : World (ServedCard P α) (RustCryptoBackend P ρ)}
    (hdomain : Issuer.domain kvn w.transport.app = (none : Option (HonestDomain P))) :
    Workflow.initializeUpdate iu w ≠ (.ok data, w') := by
  intro hrun
  have hanswer : Transport.transmit (0x80 :: 0x50 :: kvn :: rest) w.transport =
      (.ok (.ofAnswer [] SW_REF_NOT_FOUND), w.transport) := by
    show (Except.ok (w.transport.answer _).1, (w.transport.answer _).2) = _
    rw [ServedCard.answer_plain (by decide)]
    unfold ServedCard.answerPlain
    dsimp only
    rw [if_pos rfl]
    unfold ServedCard.challenge
    rw [hdomain]
  unfold initializeUpdate at hrun
  rw [hiu, Prog.bind_ok (Prog.lift_run _ w)] at hrun
  obtain ⟨⟨data', sw⟩, w₂, htransmit, hrun⟩ := Prog.bind_eq_ok.mp hrun
  rw [transmitPlain_run hanswer, splitSw_ofAnswer (Nat.zero_le _)] at htransmit
  obtain ⟨hok, -⟩ := Prod.mk.inj htransmit
  obtain ⟨rfl, rfl⟩ := Prod.mk.inj (Except.ok.inj hok)
  cases (Prod.mk.inj hrun).1

/-- An open under such a version fails. -/
theorem openScp_unknown {report : OpenScpReport}
    {w w' : World (ServedCard P α) (RustCryptoBackend P ρ)}
    (hdomain : Issuer.domain args.kvn w.transport.app = (none : Option (HonestDomain P))) :
    openScp args w ≠ (.ok report, w') := by
  intro hrun
  obtain ⟨target, w₀, ea, opened, w₁, data, htarget, hbegun, -, -⟩ := openScp_ok hrun
  have happ : w₀.transport.app = w.transport.app :=
    Prog.Keeps.rel_of_ok (selectTarget_untold args) htarget
  cases hbegun with
  | scp03 _ hchallenge _ _ =>
    obtain ⟨hostChallenge, w₂, hrandom, hrun⟩ := Prog.bind_eq_ok.mp hchallenge
    obtain ⟨iuData, w₃, hupdate, -⟩ := Prog.bind_eq_ok.mp hrun
    have hsame : w₂.transport.app = w₀.transport.app :=
      Prog.Keeps.rel_of_ok (onBackend_untold _) hrandom
    have hlen := hostChallenge.property
    have hle := ScpMode.fieldLen_le (ScpMode.fromI ‹UInt8›)
    exact initializeUpdate_unknown
      (iuCommand03_eq_ok.mpr ⟨show hostChallenge.val.length ≤ 255 by omega, rfl⟩)
      (by rw [hsame, happ]; exact hdomain) hupdate
  | scp02 _ hchallenge _ _ =>
    obtain ⟨hostChallenge, w₂, hrandom, hrun⟩ := Prog.bind_eq_ok.mp hchallenge
    obtain ⟨iuData, w₃, hupdate, -⟩ := Prog.bind_eq_ok.mp hrun
    have hsame : w₂.transport.app = w₀.transport.app :=
      Prog.Keeps.rel_of_ok (onBackend_untold _) hrandom
    exact initializeUpdate_unknown (iuCommand02_eq_ok.mpr rfl)
      (by rw [hsame, happ]; exact hdomain) hupdate

end Workflow

/-! ### Opened and used -/

namespace CardManager

variable {δ : Type} [RngCore ρ] [Issuer P α]

/-- A manager whose open succeeds retains the session, over the world of the open. -/
theorem openScp_served {args : OpenScpArgs}
    {m : CardManager (ServedCard P α) (RustCryptoBackend P ρ)} {sd : HonestDomain P}
    (hmeets : MeetsServed args m.world.transport m.world.backend sd) :
    ∃ sel iu ea report world, CardManager.openScp args m =
        (.ok report.effective, { m with world := world, session := some report.session }) ∧
      world.sent = m.world.sent ++ [sel, iu, ea] ∧
      Agreed args iu ea report world.backend (SecurityDomain.forget sd)
        world.transport.front.domain ∧
      world.transport.app = Issuer.opened world.transport.front.domain m.world.transport.app := by
  obtain ⟨sel, iu, ea, report, world, hopen, hsent, hagreed, happ⟩ :=
    Workflow.openScp_served hmeets
  have hrun : workflow (Workflow.openScp args) m = (.ok report, { m with world := world }) := by
    unfold workflow Prog.zoom
    rw [hopen]
  refine ⟨sel, iu, ea, report, world, ?_, hsent, hagreed, happ⟩
  unfold CardManager.openScp
  rw [Prog.bind_ok hrun]
  rfl

/-- Nothing is opened under a version that the application does not know. -/
theorem openScp_unknown {args : OpenScpArgs} {effective : OpenScpParams}
    {m m' : CardManager (ServedCard P α) (RustCryptoBackend P ρ)}
    (hdomain : Issuer.domain args.kvn m.world.transport.app = (none : Option (HonestDomain P))) :
    CardManager.openScp args m ≠ (.ok effective, m') := by
  intro hrun
  obtain ⟨report, m₁, hopen, -⟩ := Prog.bind_eq_ok.mp hrun
  obtain ⟨hok, -⟩ := Prod.mk.inj hopen
  exact Workflow.openScp_unknown hdomain (Prod.ext hok rfl)

/-- Opening a channel and using it is using the ideal channel: from an honest served
    card that holds the host's keys, an open succeeds, and whatever is called through
    the channel afterwards reports what it reports over the ideal one, leaves the
    application as that does and has sent what that has sent. -/
theorem opened_channel_is_ideal (I : Inflater δ) (args : OpenScpArgs)
    (m : CardManager (ServedCard P α) (RustCryptoBackend P ρ)) (sd : HonestDomain P)
    (hmeets : MeetsServed args m.world.transport m.world.backend sd)
    (cs : List (SessionCall δ)) :
    ∃ report : OpenScpReport, ∃ m', CardManager.openScp args m = (.ok report.effective, m') ∧
      m'.session = some report.session ∧
      m'.world.transport.app =
        Issuer.opened m'.world.transport.front.domain m.world.transport.app ∧
      (Prog.calls (cs.map (sessionCall I)) m').1 =
        (Prog.calls (cs.map (sessionCall I)) (m'.ideal report.session)).1 ∧
      ManagersAlike (InIdeal P report.session) report.session
        (Prog.calls (cs.map (sessionCall I)) m').2
        (Prog.calls (cs.map (sessionCall I)) (m'.ideal report.session)).2 := by
  obtain ⟨sel, iu, ea, report, world, hopen, -, hagreed, happ⟩ := openScp_served hmeets
  obtain ⟨ch, hch, hlocked⟩ := hagreed.locked
  have hcalls := calls_ideal I (m := { m with world := world, session := some report.session })
    rfl hch hlocked cs
  exact ⟨report, _, hopen, rfl, happ, hcalls⟩

end CardManager

/-! ### An application on its own -/

/-- It counts what it gets and sends the data back. -/
structure Echo where
  served : ℕ

instance : Issuer Primitives.xorCipher Echo where
  perform cmd a := (.ok cmd.data, ⟨a.served + 1⟩)
  domain kvn _ := if kvn = 0x30 then some (.scp03 sampleDomain) else none
  opened _ a := a

def echoManager : CardManager (ServedCard Primitives.xorCipher Echo)
    (RustCryptoBackend Primitives.xorCipher Unit) :=
  .new ⟨sampleWorld.transport, ⟨0⟩⟩ sampleWorld.backend

theorem meets_echo : MeetsServed sampleArgs echoManager.world.transport
    echoManager.world.backend (.scp03 sampleDomain) where
  domain := rfl
  meets :=
    { target := by decide
      accepts := by decide
      level := by decide
      shared := .scp03 (by decide) (by decide) rfl rfl (.inr rfl)
        (.carried sample_names) ⟨⟨0, by decide⟩, rfl⟩ }

theorem opened_channel_is_ideal_echo :
    ∃ report : OpenScpReport, ∃ m',
      CardManager.openScp sampleArgs echoManager = (.ok report.effective, m') ∧
      (Prog.calls ([.transmit [0x80, 0xE2, 0x00, 0x00, 0x01, 0x2A], .getCardStatus []].map
          (sessionCall storedInflater)) m').1 =
        (Prog.calls ([.transmit [0x80, 0xE2, 0x00, 0x00, 0x01, 0x2A], .getCardStatus []].map
          (sessionCall storedInflater)) (m'.ideal report.session)).1 := by
  obtain ⟨report, m', hopen, -, -, hsame, -⟩ := CardManager.opened_channel_is_ideal storedInflater
    sampleArgs echoManager _ meets_echo
    [.transmit [0x80, 0xE2, 0x00, 0x00, 0x01, 0x2A], .getCardStatus []]
  exact ⟨report, m', hopen, hsame⟩

end Scll
