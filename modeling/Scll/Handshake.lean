import Scll.Handshake03
import Scll.Handshake02
import Scll.TlvRoundTrip
import Scll.Handles

/-! # Honest handshakes complete

    A card of either protocol that holds the keys of the host is opened by it,
    whatever the random source yields: three commands go out, the card verifies
    the last, and both ends leave with the same keys, level and chaining value.
-/

namespace Scll

open BlockMode Sequence

/-! ### The card -/

/-- A Security Domain of either protocol. -/
inductive HonestDomain (P : Primitives) where
  | scp03 (sd : Scp03Domain P)
  | scp02 (sd : Scp02Domain P)

namespace HonestDomain

variable {P : Primitives}

def initializeUpdate (kvn : UInt8) (hostChallenge : List UInt8) :
    HonestDomain P → Option (List UInt8 × HonestDomain P)
  | .scp03 sd => (sd.initializeUpdate kvn hostChallenge).map fun p => (p.1, .scp03 p.2)
  | .scp02 sd => (sd.initializeUpdate kvn hostChallenge).map fun p => (p.1, .scp02 p.2)

def externalAuthenticate (capdu : List UInt8) : HonestDomain P → Option (HonestDomain P)
  | .scp03 sd => (sd.externalAuthenticate capdu).map .scp03
  | .scp02 sd => (sd.externalAuthenticate capdu).map .scp02

def forget : HonestDomain P → HonestDomain P
  | .scp03 sd => .scp03 (SecurityDomain.forget sd)
  | .scp02 sd => .scp02 (SecurityDomain.forget sd)

instance : SecurityDomain (HonestDomain P) where
  initializeUpdate := initializeUpdate
  externalAuthenticate := externalAuthenticate
  forget := forget

end HonestDomain

namespace Workflow

/-! ### The invoker -/

/-- `name` is the DF name in an FCI: the first `84` of the template, or of the FCI
    itself when there is no template, among as many objects as the host takes. -/
inductive Names (fci name : List UInt8) : Prop where
  | template {top fields : List Tlv} {inner : List UInt8}
      (objects : Items Tlv.parseObject fci top) (fits : top.length ≤ MAX_TLVS)
      (template : find top TAG_FCI = some inner)
      (inside : Items Tlv.parseObject inner fields) (fits' : fields.length ≤ MAX_TLVS)
      (name : find fields TAG_DF_NAME = some name)
  | bare {top : List Tlv} (objects : Items Tlv.parseObject fci top)
      (fits : top.length ≤ MAX_TLVS) (template : find top TAG_FCI = none)
      (name : find top TAG_DF_NAME = some name)

theorem ofTlv_parse_iff {input : List UInt8} {items : List Tlv} :
    ofTlv (Tlv.parse input) = .ok items ↔
      Items Tlv.parseObject input items ∧ items.length ≤ MAX_TLVS :=
  mapError_eq_ok.trans readMany_iff

/-- The host finds a DF name exactly where there is one. -/
theorem fciDfName_iff {fci name : List UInt8} :
    fciDfName fci = .ok (some name) ↔ Names fci name := by
  unfold fciDfName
  constructor
  · intro h
    split at h
    · cases h
    · obtain ⟨top, htop, h⟩ := bind_eq_ok.mp h
      obtain ⟨hobjects, hfits⟩ := ofTlv_parse_iff.mp htop
      split at h
      · next inner htemplate =>
        obtain ⟨fields, hfields, h⟩ := bind_eq_ok.mp h
        obtain ⟨hinside, hfits'⟩ := ofTlv_parse_iff.mp hfields
        exact .template hobjects hfits htemplate hinside hfits' (Except.ok.inj h)
      · next htemplate => exact .bare hobjects hfits htemplate (Except.ok.inj h)
  · intro h
    have hne : fci.isEmpty = false := by
      by_contra hempty
      obtain rfl : fci = [] := by simpa using hempty
      rcases h with ⟨hobjects, -, hfind, -⟩ | ⟨hobjects, -, -, hfind⟩
      all_goals
        cases hobjects with
        | nil => cases hfind
        | cons hne _ _ => exact hne rfl
    rw [hne, if_neg (by decide)]
    cases h with
    | template hobjects hfits htemplate hinside hfits' hname =>
      rw [ofTlv_parse_iff.mpr ⟨hobjects, hfits⟩, ok_bind, htemplate]
      dsimp only
      rw [ofTlv_parse_iff.mpr ⟨hinside, hfits'⟩, ok_bind, hname]
    | bare hobjects hfits htemplate hname =>
      rw [ofTlv_parse_iff.mpr ⟨hobjects, hfits⟩, ok_bind, htemplate]
      dsimp only
      rw [hname]

/-- A card SELECTed by `target` reveals the full AID: its FCI carries it, or leaves
    it out because `target` is it. -/
inductive Reveals (fci target : List UInt8) (aid : Aid) : Prop where
  | carried (names : Names fci aid.bytes)
  | omitted (nameless : ∀ name, ¬ Names fci name) (full : target = aid.bytes)

theorem invokerAid_of_reveals {fci target : List UInt8} {aid : Aid} (h : Reveals fci target aid)
    (htarget : AidLength target) : invokerAid fci ⟨target, htarget⟩ = aid := by
  unfold invokerAid
  cases h with
  | carried hnames =>
    rw [fciDfName_iff.mpr hnames]
    show ((Aid.ofOctets? aid.bytes).getD _) = aid
    unfold Aid.ofOctets?
    rw [Aid.new_eq_ok.mpr rfl]
    rfl
  | omitted hnameless hfull =>
    have hnone : (fciDfName fci).toOption.join = none := by
      cases hfci : fciDfName fci with
      | error e => rfl
      | ok name =>
        cases name with
        | none => rfl
        | some name => exact absurd (fciDfName_iff.mp hfci) (hnameless name)
    rw [hnone]
    cases hfull
    rfl

/-! ### What an open needs -/

section open_channel

variable {P : Primitives} {ρ : Type}

/-- The host holds the keys of the Security Domain behind `fci` and has a slot
    for the session; the variant it selects carries the card's `i`. -/
inductive Shared (args : OpenScpArgs) (fci : List UInt8) (st : BackendState ρ) :
    HonestDomain P → Prop where
  | scp03 {sd : Scp03Domain P}
      (variant : selectVariant args.advertised args.forceScp = some (.scp03 sd.iParam))
      (supported : Scp03.iSupported sd.iParam = true)
      (enc : readAesKey st args.sdKeys.enc = .ok sd.enc)
      (mac : readAesKey st args.sdKeys.mac = .ok sd.mac)
      (kvn : args.kvn = 0x00 ∨ args.kvn = sd.kvn)
      (reveals : Reveals fci args.targetAid sd.aid)
      (free : ∃ i : Fin MAX_SESSION_SLOTS, st.sessions.get i = none) :
      Shared args fci st (.scp03 sd)
  | scp02 {sd : Scp02Domain P}
      (variant : selectVariant args.advertised args.forceScp = some (.scp02 0x55))
      (enc : Scp02.readTdesKey st args.sdKeys.enc = .ok sd.enc)
      (mac : Scp02.readTdesKey st args.sdKeys.mac = .ok sd.mac)
      (dek : Scp02.readTdesKey st args.sdKeys.dek = .ok sd.dek)
      (kvn : args.kvn = 0x00 ∨ args.kvn = sd.kvn)
      (free : ∃ i : Fin MAX_SESSION_SLOTS, st.scp02Sessions.get i = none) :
      Shared args fci st (.scp02 sd)

/-- An open that meets an honest card. -/
structure Meets (args : OpenScpArgs) (card : HonestCard (HonestDomain P)) (st : BackendState ρ) :
    Prop where
  target : AidLength args.targetAid
  accepts : card.accepts args.targetAid = true
  /-- C-MAC is asked for, among others or alone. -/
  level : args.requestedLevel &&& 0x01 ≠ 0
  shared : Shared args card.fci st card.domain

/-! ### What it comes to -/

/-- Past `iu` and `ea`, both ends are in step: the card has verified the C-MAC of
    `ea` and the host cryptogram in it, and the slot of the session has the
    card's keys, level and chaining value. -/
inductive Agreed (args : OpenScpArgs) (iu ea : Capdu) (report : OpenScpReport)
    (st : BackendState ρ) : HonestDomain P → HonestDomain P → Prop where
  | scp03 {sd : Scp03Domain P} {hostChallenge : List UInt8} {card : Scp03Card}
      {state : Scp03.Scp03State}
      (session : report.session = .scp03 state)
      (challenged : Scp03.iuCommand args.kvn hostChallenge = .ok iu)
      (verified : (sd.card hostChallenge).receive P ea =
        some (⟨EXTERNAL_AUTHENTICATE, state.securityLevel, 0x00,
          sd.cryptogram 0x01 hostChallenge⟩, card))
      (agree : LockStep03.Agree state.session st card)
      (level : card.level = state.securityLevel)
      (reported : report.effective.securityLevelEffective = state.securityLevel) :
      Agreed args iu ea report st (.scp03 sd) (.scp03 (sd.enter (.opened card)))
  | scp02 {sd : Scp02Domain P} {hostChallenge : Block 8} {card : Scp02Card}
      {state : Scp02.Scp02State}
      (session : report.session = .scp02 state)
      (challenged : Scp02.iuCommand args.kvn SCP02_KEY_ID hostChallenge = .ok iu)
      (verified : sd.card.receive P ea =
        some (⟨EXTERNAL_AUTHENTICATE, state.securityLevel, 0x00,
          (sd.hostCryptogram hostChallenge.val).val⟩, card))
      (agree : LockStep02.Agree state.session st card)
      (dek : (st.scp02Sessions.get state.session.index.toNat).map Scp02SessionSlot.sDek =
        some sd.sDek)
      (level : card.level = state.securityLevel)
      (reported : report.effective.securityLevelEffective = state.securityLevel) :
      Agreed args iu ea report st (.scp02 sd) (.scp02 (sd.enter (.opened card)))

/-! ### The stages -/

/-- The world once the random source has moved. -/
def drawn {τ : Type} (rng : ρ) (w : World τ (RustCryptoBackend P ρ)) :
    World τ (RustCryptoBackend P ρ) :=
  { w with backend := ({ w.backend with rng := rng } : BackendState ρ) }

variable {σ : Type} [SecurityDomain σ] {args : OpenScpArgs}
  {w : World (HonestCard σ) (RustCryptoBackend P ρ)}

theorem selectTarget_honest {variant : ScpVariant}
    (hvariant : selectVariant args.advertised args.forceScp = some variant)
    (htarget : AidLength args.targetAid) (haccepts : w.transport.accepts args.targetAid = true) :
    ∃ sel, selectTarget args w =
      (.ok ⟨variant, ⟨args.targetAid, htarget⟩,
        invokerAid w.transport.fci ⟨args.targetAid, htarget⟩⟩,
        HonestCard.told sel w.transport.choose w) := by
  obtain ⟨sel, hselect⟩ := HonestCard.select_answer htarget haccepts
  have haid : Aid.new args.targetAid = .ok ⟨args.targetAid, htarget⟩ := Aid.new_eq_ok.mpr rfl
  refine ⟨sel, ?_⟩
  unfold selectTarget
  rw [hvariant, okOr_some, haid, Prog.bind_ok (Prog.lift_run _ w), Prog.bind_ok hselect]
  rfl

variable [RngCore ρ]

/-- The random source never fails, so the card gets a challenge of the length it
    wants, and the host its answer. -/
theorem challenge03_honest {iParam : UInt8} {response : List UInt8 → List UInt8}
    {next : List UInt8 → σ} (hselected : w.transport.selected = true)
    (hanswer : ∀ hostChallenge : List UInt8,
      hostChallenge.length = (ScpMode.fromI iParam).fieldLen →
      SecurityDomain.initializeUpdate args.kvn hostChallenge w.transport.domain =
        some (response hostChallenge, next hostChallenge))
    (hfits : ∀ hostChallenge, (response hostChallenge).length ≤ 256) :
    ∃ hostChallenge iu rng, hostChallenge.length = (ScpMode.fromI iParam).fieldLen ∧
      Scp03.iuCommand args.kvn hostChallenge = .ok iu ∧
      challenge03 args iParam w = (.ok (hostChallenge, response hostChallenge),
        HonestCard.told iu (w.transport.setDomain (next hostChallenge))
          (drawn rng w)) := by
  have hle := ScpMode.fieldLen_le (ScpMode.fromI iParam)
  obtain ⟨hostChallenge, rng, hrandom⟩ : ∃ hostChallenge rng,
      onBackend (ofBackend (KeyBackend.randomBytes (ScpMode.fromI iParam).fieldLen)) w =
        (.ok hostChallenge, drawn rng w) := ⟨_, _, rfl⟩
  have hlen := hostChallenge.property
  have hiu := iuCommand03_eq_ok.mpr ⟨show hostChallenge.val.length ≤ 255 by omega,
    rfl (a := 0x80 :: Scp03.INS_INITIALIZE_UPDATE :: args.kvn :: 0x00 ::
      UInt8.ofNat hostChallenge.val.length :: (hostChallenge.val ++ [0x00]))⟩
  refine ⟨hostChallenge.val, _, rng, hlen, hiu, ?_⟩
  unfold challenge03
  rw [Prog.bind_ok hrandom, hiu, Prog.bind_ok (HonestCard.initializeUpdate_answer
    (w := drawn rng w) hselected (by omega) (hfits _) (hanswer _ hlen))]
  rfl

theorem challenge02_honest {response : List UInt8 → List UInt8} {next : List UInt8 → σ}
    (hselected : w.transport.selected = true)
    (hanswer : ∀ hostChallenge : List UInt8, hostChallenge.length = 8 →
      SecurityDomain.initializeUpdate args.kvn hostChallenge w.transport.domain =
        some (response hostChallenge, next hostChallenge))
    (hfits : ∀ hostChallenge, (response hostChallenge).length ≤ 256) :
    ∃ hostChallenge : Block 8, ∃ iu rng,
      Scp02.iuCommand args.kvn SCP02_KEY_ID hostChallenge = .ok iu ∧
      challenge02 args w = (.ok (hostChallenge, response hostChallenge.val),
        HonestCard.told iu (w.transport.setDomain (next hostChallenge.val))
          (drawn rng w)) := by
  obtain ⟨hostChallenge, rng, hrandom⟩ : ∃ hostChallenge rng,
      onBackend (ofBackend (KeyBackend.randomBytes 8)) w =
        (.ok hostChallenge, drawn rng w) := ⟨_, _, rfl⟩
  have hlen := hostChallenge.property
  have hlc : UInt8.ofNat hostChallenge.val.length = 0x08 := by rw [hlen]; rfl
  have hiu : Scp02.iuCommand args.kvn SCP02_KEY_ID hostChallenge =
      .ok (0x80 :: Scp03.INS_INITIALIZE_UPDATE :: args.kvn :: SCP02_KEY_ID ::
        UInt8.ofNat hostChallenge.val.length :: (hostChallenge.val ++ [0x00])) :=
    iuCommand02_eq_ok.mpr (by rw [hlc])
  refine ⟨hostChallenge, _, rng, hiu, ?_⟩
  unfold challenge02
  rw [Prog.bind_ok hrandom, hiu, Prog.bind_ok (HonestCard.initializeUpdate_answer
    (w := drawn rng w) hselected (by omega) (hfits _) (hanswer _ hlen))]
  rfl

/-! ### The card's end -/

section card

variable {hostChallenge : List UInt8} {kvn level p2 : UInt8} {capdu : List UInt8}

/-- The card answers a challenge under its key version, whatever went before. -/
theorem initializeUpdate03_honest (sd : Scp03Domain P) (hkvn : kvn = 0x00 ∨ kvn = sd.kvn)
    (hlen : hostChallenge.length = sd.mode.fieldLen) :
    HonestDomain.initializeUpdate kvn hostChallenge (.scp03 sd) =
      some (sd.response hostChallenge, .scp03 (sd.enter
        (.challenged (sd.card hostChallenge) (sd.cryptogram 0x01 hostChallenge)))) := by
  have hversion : ¬ (kvn ≠ 0x00 ∧ kvn ≠ sd.kvn) := fun h => hkvn.elim h.1 h.2
  unfold HonestDomain.initializeUpdate Scp03Domain.initializeUpdate
  dsimp only
  rw [if_neg hversion, if_neg (not_not.mpr hlen)]
  rfl

theorem initializeUpdate02_honest (sd : Scp02Domain P) (hkvn : kvn = 0x00 ∨ kvn = sd.kvn)
    (hlen : hostChallenge.length = 8) :
    HonestDomain.initializeUpdate kvn hostChallenge (.scp02 sd) =
      some (sd.response hostChallenge,
        .scp02 (sd.enter (.challenged sd.card (sd.hostCryptogram hostChallenge)))) := by
  have hversion : ¬ (kvn ≠ 0x00 ∧ kvn ≠ sd.kvn) := fun h => hkvn.elim h.1 h.2
  unfold HonestDomain.initializeUpdate Scp02Domain.initializeUpdate
  dsimp only
  rw [if_neg hversion, if_neg (not_not.mpr hlen)]
  rfl

/-- A command that verifies, with the host cryptogram in it, opens the channel. -/
theorem externalAuthenticate03_honest (sd : Scp03Domain P) {card card' : Scp03Card}
    {hostCryptogram : List UInt8} (hphase : sd.phase = .challenged card hostCryptogram)
    (hreceive : card.receive P capdu =
      some (⟨EXTERNAL_AUTHENTICATE, level, p2, hostCryptogram⟩, card'))
    (hoffered : sd.LevelOffered level) :
    HonestDomain.externalAuthenticate capdu (.scp03 sd) =
      some (.scp03 (sd.enter (.opened card'))) := by
  unfold HonestDomain.externalAuthenticate Scp03Domain.externalAuthenticate
  dsimp only
  rw [hphase]
  dsimp only
  rw [hreceive]
  dsimp only
  rw [if_pos ⟨rfl, hoffered, rfl⟩]
  rfl

theorem externalAuthenticate02_honest (sd : Scp02Domain P) {card card' : Scp02Card}
    {hostCryptogram : Block 8} (hphase : sd.phase = .challenged card hostCryptogram)
    (hreceive : card.receive P capdu =
      some (⟨EXTERNAL_AUTHENTICATE, level, p2, hostCryptogram.val⟩, card'))
    (hoffered : Scp02Domain.LevelOffered level) :
    HonestDomain.externalAuthenticate capdu (.scp02 sd) =
      some (.scp02 (sd.enter (.opened card'))) := by
  unfold HonestDomain.externalAuthenticate Scp02Domain.externalAuthenticate
  dsimp only
  rw [hphase]
  dsimp only
  rw [hreceive]
  dsimp only
  rw [if_pos ⟨rfl, hoffered, rfl⟩]
  rfl

end card

/-! ### The open -/

section honest

variable {w : World (HonestCard (HonestDomain P)) (RustCryptoBackend P ρ)}

theorem openScp03_honest {sd : Scp03Domain P} (hmeets : Meets args w.transport w.backend)
    (hdomain : w.transport.domain = .scp03 sd) :
    ∃ sel iu ea report w', openScp args w = (.ok report, w') ∧ w'.sent = w.sent ++ [sel, iu, ea] ∧
      Agreed args iu ea report w'.backend w.transport.domain w'.transport.domain := by
  obtain ⟨htarget, haccepts, hlevel, hshared⟩ := hmeets
  rw [hdomain] at hshared ⊢
  obtain ⟨hvariant, hsupported, henc, hmac, hkvn, hreveals, i, hfree⟩ := hshared
  obtain ⟨sel, hselect⟩ := selectTarget_honest hvariant htarget haccepts
  rw [invokerAid_of_reveals hreveals htarget] at hselect
  have hchosen : w.transport.choose.domain = .scp03 (sd.enter .idle) := by
    show HonestDomain.forget w.transport.domain = _
    rw [hdomain]
    rfl
  have hanswer : ∀ hostChallenge : List UInt8,
      hostChallenge.length = (ScpMode.fromI sd.iParam).fieldLen →
      SecurityDomain.initializeUpdate args.kvn hostChallenge w.transport.choose.domain =
        some (sd.response hostChallenge, .scp03 (sd.enter
          (.challenged (sd.card hostChallenge) (sd.cryptogram 0x01 hostChallenge)))) := by
    intro hostChallenge hlen
    rw [hchosen]
    exact initializeUpdate03_honest (sd.enter .idle) hkvn hlen
  obtain ⟨hostChallenge, iu, rng, hlen, hiu, hchallenge⟩ :=
    challenge03_honest (P := P) (w := HonestCard.told sel w.transport.choose w) rfl hanswer
      (length_response sd)
  obtain ⟨state, lc, rest, card, st', hbegin, hoffered, hverified, hagree, hcard⟩ :=
    begin03_honest (drawn rng w).backend hsupported henc hmac hkvn hlevel hlen hfree
  have haccepted := externalAuthenticate03_honest (sd.enter (.challenged _ _)) rfl hverified hoffered
  have hopen := openScp_of_begun hselect
    (.scp03 rfl hchallenge (Scp03.parseIuResponse_of_layout (layout_response hsupported)) hbegin)
    (HonestCard.externalAuthenticate_answer rfl haccepted)
  refine ⟨sel, iu, _, _, _, hopen, ?_, .scp03 rfl hiu hverified hagree hcard rfl⟩
  show w.sent ++ [sel] ++ [iu] ++ [_] = _
  rw [List.append_assoc, List.append_assoc]
  rfl

theorem openScp02_honest {sd : Scp02Domain P} (hmeets : Meets args w.transport w.backend)
    (hdomain : w.transport.domain = .scp02 sd) :
    ∃ sel iu ea report w', openScp args w = (.ok report, w') ∧ w'.sent = w.sent ++ [sel, iu, ea] ∧
      Agreed args iu ea report w'.backend w.transport.domain w'.transport.domain := by
  obtain ⟨htarget, haccepts, hlevel, hshared⟩ := hmeets
  rw [hdomain] at hshared ⊢
  cases hshared with
  | scp02 hvariant henc hmac hdek hkvn hfree =>
  obtain ⟨i, hfree⟩ := hfree
  obtain ⟨sel, hselect⟩ := selectTarget_honest hvariant htarget haccepts
  have hchosen : w.transport.choose.domain = .scp02 (sd.enter .idle) := by
    show HonestDomain.forget w.transport.domain = _
    rw [hdomain]
    rfl
  have hanswer : ∀ hostChallenge : List UInt8, hostChallenge.length = 8 →
      SecurityDomain.initializeUpdate args.kvn hostChallenge w.transport.choose.domain =
        some (sd.response hostChallenge,
          .scp02 (sd.enter (.challenged sd.card (sd.hostCryptogram hostChallenge)))) := by
    intro hostChallenge hlen
    rw [hchosen]
    exact initializeUpdate02_honest (sd.enter .idle) hkvn hlen
  have hfits : ∀ hostChallenge, (sd.response hostChallenge).length ≤ 256 := by
    intro hostChallenge
    rw [length_response02]
    decide
  obtain ⟨hostChallenge, iu, rng, hiu, hchallenge⟩ :=
    challenge02_honest (P := P) (w := HonestCard.told sel w.transport.choose w) rfl hanswer hfits
  obtain ⟨state, lc, rest, card, st', hbegin, hoffered, hverified, hagree, hcard, hsDek⟩ :=
    begin02_honest (drawn rng w).backend henc hmac hdek hkvn hlevel hostChallenge hfree
  have haccepted := externalAuthenticate02_honest (sd.enter (.challenged _ _)) rfl hverified hoffered
  have hopen := openScp_of_begun hselect
    (.scp02 rfl hchallenge (Scp02.parseIuResponse_of_layout (layout_response02 sd _)) hbegin)
    (HonestCard.externalAuthenticate_answer rfl haccepted)
  refine ⟨sel, iu, _, _, _, hopen, ?_, .scp02 rfl hiu hverified hagree hsDek hcard rfl⟩
  show w.sent ++ [sel] ++ [iu] ++ [_] = _
  rw [List.append_assoc, List.append_assoc]
  rfl

/-- Honest handshakes complete: whoever meets an honest card opens it with three
    commands, whatever the random source, and both ends leave in step. -/
theorem honest_handshake_completes (args : OpenScpArgs)
    (w : World (HonestCard (HonestDomain P)) (RustCryptoBackend P ρ))
    (hmeets : Meets args w.transport w.backend) :
    ∃ sel iu ea report w', openScp args w = (.ok report, w') ∧ w'.sent = w.sent ++ [sel, iu, ea] ∧
      Agreed args iu ea report w'.backend w.transport.domain w'.transport.domain := by
  cases hdomain : w.transport.domain with
  | scp03 sd =>
    rw [← hdomain]
    exact openScp03_honest hmeets hdomain
  | scp02 sd =>
    rw [← hdomain]
    exact openScp02_honest hmeets hdomain

end honest

end open_channel

/-! ### A card on its own -/

/-- A pseudo-random card under one key that is registered under eight octets. -/
def sampleDomain : Scp03Domain Primitives.xorCipher where
  kdd := Block.zero 10
  kvn := 0x30
  iParam := 0x70
  enc := ⟨List.replicate 16 0x40, .inl rfl⟩
  mac := ⟨List.replicate 16 0x40, .inl rfl⟩
  sameLength := rfl
  aid := ⟨[0xA0, 0x00, 0x00, 0x01, 0x51, 0x00, 0x00, 0x00], by decide⟩
  random := Block.zero 16
  sequence := ⟨[0x00, 0x00, 0x07], rfl⟩
  phase := .idle

/-- The FCI of the sample card, with its AID as the DF name. -/
def sampleFields : List Tlv := [⟨TAG_DF_NAME, sampleDomain.aid.bytes, by decide⟩]

def sampleFci : Tlv := ⟨TAG_FCI, Tlv.encoding sampleFields, by decide⟩

/-- SELECTed by the first five octets of the AID. -/
def sampleWorld : World (HonestCard (HonestDomain Primitives.xorCipher))
    (RustCryptoBackend Primitives.xorCipher Unit) where
  transport :=
    { accepts := fun aid => aid == [0xA0, 0x00, 0x00, 0x01, 0x51]
      fci := Tlv.encoding [sampleFci]
      fits := by decide
      selected := false
      domain := .scp03 sampleDomain }
  backend := Handles.keyedBackend
  sent := []

def sampleArgs : OpenScpArgs where
  targetAid := [0xA0, 0x00, 0x00, 0x01, 0x51]
  targetKind := .securityDomainAid
  sdKeys := ⟨⟨0⟩, ⟨0⟩, ⟨0⟩⟩
  advertised := [.scp03 0x70]
  forceScp := none
  kvn := 0x30
  requestedLevel := 0x33

theorem sample_names : Names sampleWorld.transport.fci sampleDomain.aid.bytes := by
  have hone : ∀ (tag : UInt32) (item : Tlv), item.tag = tag → Tlv.WellFormedTag tag →
      Items Tlv.parseObject (Tlv.encoding [item]) [item] := by
    intro tag item hitem htag
    have hparse : Tlv.parse (Tlv.encoding [item]) = .ok [item] :=
      Tlv.parse_encoding (show 1 ≤ 64 by decide) (by simpa [hitem] using htag)
    exact (readMany_iff.mp hparse).1
  exact .template (hone TAG_FCI sampleFci rfl ⟨[0x6F], by decide, by decide⟩)
    (show 1 ≤ 64 by decide) rfl
    (hone TAG_DF_NAME _ rfl ⟨[0x84], by decide, by decide⟩) (show 1 ≤ 64 by decide) rfl

theorem honest_handshake_completes_sample :
    ∃ sel iu ea report w', openScp sampleArgs sampleWorld = (.ok report, w') ∧
      w'.sent = [sel, iu, ea] ∧
      Agreed sampleArgs iu ea report w'.backend (.scp03 sampleDomain) w'.transport.domain :=
  honest_handshake_completes sampleArgs sampleWorld
    { target := by decide
      accepts := by decide
      level := by decide
      shared := .scp03 (by decide) (by decide) rfl rfl (.inr rfl)
        (.carried sample_names) ⟨⟨0, by decide⟩, rfl⟩ }

end Workflow

end Scll
