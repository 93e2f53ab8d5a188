import Scll.Delivery
import Scll.Workflow.OpenSpec

/-! # Who is let in

    An open sends EXTERNAL AUTHENTICATE only to a card that has answered
    INITIALIZE UPDATE with `9000` and proved itself: its cryptogram, and the
    challenge of a pseudo-random card, are the ones the backend computes. It
    succeeds only when the card accepts, and then the level is the same wherever
    it is read.
-/

namespace Scll

open BlockMode

namespace Workflow

variable (P : Primitives) {ρ τ : Type}

/-! ### The proof a card gives -/

/-- An SCP03 card has proved itself over the host challenge it was sent. -/
structure Proof03 (args : OpenScpArgs) (st : BackendState ρ) (invoker : Aid)
    (hostChallenge iuData : List UInt8) (iu : Scp03.IuResponse) : Prop where
  parsed : Scp03.parseIuResponse iuData = .ok iu
  /-- Where the fields are depends on `i` alone. -/
  layout : Scp03.IuLayout iuData iu
  pinned : args.kvn ≠ 0x00 → iu.kvn = args.kvn
  cryptogram : ∃ sEnc sMac sRmac,
    scp03SessionKeys P st args.sdKeys.enc args.sdKeys.mac iu.mode hostChallenge iu.cardChallenge =
      .ok (sEnc, sMac, sRmac) ∧
    kdf P sMac.val DC_CARD_CRYPTO iu.mode.lBits (hostChallenge ++ iu.cardChallenge)
      iu.mode.fieldLen = .ok iu.cardCryptogram
  /-- The challenge is derived from the counter and the invoker. -/
  challenge : iu.iParam &&& Scp03.I_PSEUDO_RANDOM ≠ 0 →
    ∃ seq key, iu.sequenceCounter = some seq ∧ readAesKey st args.sdKeys.enc = .ok key ∧
      kdf P key.val DC_CARD_CHALLENGE iu.mode.lBits (seq.val ++ invoker.bytes) iu.mode.fieldLen =
        .ok iu.cardChallenge

/-- An SCP02 card has proved itself over the host challenge it was sent. -/
structure Proof02 (args : OpenScpArgs) (st : BackendState ρ) (hostChallenge : Block 8)
    (iuData : List UInt8) (iu : Scp02.IuResponse) : Prop where
  parsed : Scp02.parseIuResponse iuData = .ok iu
  layout : Scp02.IuLayout iuData iu
  pinned : args.kvn ≠ 0x00 → iu.kvn = args.kvn
  cryptogram : ∃ sEnc sMac sRmac sDek,
    scp02SessionKeys P st args.sdKeys.enc args.sdKeys.mac args.sdKeys.dek iu.seqCounter =
      .ok (sEnc, sMac, sRmac, sDek) ∧
    iu.cardCryptogram = tdesCbcMac P sEnc.val (Block.zero 8)
      (hostChallenge.val ++ (iu.seqCounter.val ++ iu.cardChallenge.val))

/-- The card behind `iuData` has proved itself to the host that sent `iuCmd`. -/
inductive Authentic (args : OpenScpArgs) (st : BackendState ρ) (invoker : Aid) (iuCmd : Capdu)
    (iuData : List UInt8) : Prop where
  | scp03 (iParam : UInt8) (hostChallenge : List UInt8) (iu : Scp03.IuResponse)
      (variant : selectVariant args.advertised args.forceScp = some (.scp03 iParam))
      (command : Scp03.iuCommand args.kvn hostChallenge = .ok iuCmd)
      (proof : Proof03 P args st invoker hostChallenge iuData iu)
  | scp02 (iParam : UInt8) (hostChallenge : Block 8) (iu : Scp02.IuResponse)
      (variant : selectVariant args.advertised args.forceScp = some (.scp02 iParam))
      (command : Scp02.iuCommand args.kvn SCP02_KEY_ID hostChallenge = .ok iuCmd)
      (proof : Proof02 P args st hostChallenge iuData iu)

/-- The level in the backend slot of a session. -/
def latchedLevel (session : ScpSession) (st : BackendState ρ) : Option UInt8 :=
  match session with
  | .scp03 s => (st.sessions.get s.session.index.toNat).map Scp03SessionSlot.level
  | .scp02 s => (st.scp02Sessions.get s.session.index.toNat).map Scp02SessionSlot.level

/-! ### SCP03 -/

theorem context_eq_ok {host card ctx : List UInt8} :
    context host card = .ok ctx ↔ ctx = host ++ card ∧ ctx.length ≤ 32 := by
  unfold context
  simp only [bind_eq_ok, extend_eq_ok, List.nil_append]
  constructor
  · rintro ⟨_, ⟨rfl, -⟩, rfl, hlen⟩
    exact ⟨rfl, hlen⟩
  · rintro ⟨rfl, hlen⟩
    rw [List.length_append] at hlen
    exact ⟨host, ⟨rfl, by omega⟩, rfl, by rw [List.length_append]; exact hlen⟩

/-- EXTERNAL AUTHENTICATE keeps its header under the wrap, and leaves its level
    in the slot. -/
theorem scp03WrapCommand_latch {s : Scp03Session} {level : UInt8} {tail ea : List UInt8}
    {st st' : BackendState ρ} {slot : Scp03SessionSlot}
    (hslot : st.sessions.get s.index.toNat = some slot) (hauth : slot.authed = false)
    (h : scp03WrapCommand P s
      (0x84 :: Scp03.INS_EXTERNAL_AUTHENTICATE :: level :: 0x00 :: tail) st = (.ok ea, st')) :
    Capdu.ins ea = Scp03.INS_EXTERNAL_AUTHENTICATE ∧ Capdu.p1 ea = level ∧
      (st'.sessions.get s.index.toNat).map Scp03SessionSlot.level = some level := by
  obtain ⟨cla, ins, p1, p2, rest, slot₀, slot', hcapdu, hslot₀, hwrap, hslot'⟩ :=
    scp03WrapCommand_ok P h
  obtain ⟨-, rfl, rfl, -, -⟩ : (0x84 : UInt8) = cla ∧ Scp03.INS_EXTERNAL_AUTHENTICATE = ins ∧
    level = p1 ∧ 0x00 = p2 ∧ tail = rest := by simpa using hcapdu
  obtain rfl := Option.some.inj (hslot.symm.trans hslot₀)
  have hlevel := (Delivery.wrapSlot_latch P hwrap).2.1
  rw [hauth] at hlevel
  obtain ⟨_, _, _, _, _, _, -, -, -, -, rfl, -⟩ := wrapSlot_ok P hwrap
  refine ⟨rfl, rfl, ?_⟩
  rw [hslot', Option.map_some, hlevel]
  rfl

section begun

variable [RngCore ρ]

/-- A `begin` that succeeds: the card has proved itself, and the level is in the
    state, in EXTERNAL AUTHENTICATE and in the slot. -/
theorem begin_proof03 {args : OpenScpArgs} {invoker : Aid} {hostChallenge iuData ea : List UInt8}
    {st st' : RustCryptoBackend P ρ} {state : Scp03.Scp03State}
    (h : Scp03.begin args.sdKeys.enc args.sdKeys.mac args.kvn args.requestedLevel hostChallenge
      invoker.bytes iuData st = (.ok (state, ea), st')) :
    (∃ iu, Proof03 P args st invoker hostChallenge iuData iu ∧ state.iParam = iu.iParam ∧
        Scp03.capSecurityLevel iu.iParam args.requestedLevel = .ok state.securityLevel) ∧
      Capdu.ins ea = Scp03.INS_EXTERNAL_AUTHENTICATE ∧ Capdu.p1 ea = state.securityLevel ∧
      latchedLevel (.scp03 state) st' = some state.securityLevel := by
  obtain ⟨iu, s, level, eaPlain, st₁, hparse, hpin, hderive, hprepare, hwrap, rfl⟩ :=
    (Scp03.begin_eq_ok P).mp h
  obtain ⟨hcard, hchallenge, hlevel, ⟨cryptogram, -, hplain⟩, -⟩ :=
    (Scp03.prepareEa_eq_ok P).mp hprepare
  obtain ⟨hkeys, sEnc, sMac, sRmac, hsession, hslot⟩ := scp03DeriveSession_slot P hderive
  have hlayout := Scp03.parseIuResponse_ok hparse
  constructor
  · refine ⟨iu, ⟨hparse, hlayout, hpin, ⟨sEnc, sMac, sRmac, hsession, ?_⟩, ?_⟩, rfl, hlevel⟩
    · unfold scp03CardCryptogram Scll.cryptogram at hcard
      obtain ⟨ctx, hctx, hcard⟩ := bind_eq_ok.mp hcard
      rw [hslot, okOr_some, ok_bind] at hcard
      rw [(context_eq_ok.mp hctx).1] at hcard
      exact hcard
    · intro hpseudo
      obtain ⟨seq, hseq⟩ := Option.isSome_iff_exists.mp (hlayout.counter.mpr hpseudo)
      have hok := hchallenge seq hseq
      unfold scp03PseudoCardChallenge at hok
      obtain ⟨c₁, hc₁, hok⟩ := bind_eq_ok.mp hok
      obtain ⟨c₂, hc₂, hok⟩ := bind_eq_ok.mp hok
      obtain ⟨key, hkey, hok⟩ := bind_eq_ok.mp hok
      obtain ⟨rfl, -⟩ := extend_eq_ok.mp hc₁
      obtain ⟨rfl, -⟩ := extend_eq_ok.mp hc₂
      have hread : readAesKey st args.sdKeys.enc = readAesKey st₁ args.sdKeys.enc := by
        unfold readAesKey
        rw [hkeys]
      exact ⟨seq, key, hseq, hread.trans hkey, hok⟩
  · rw [Scp03.eaPlaintext_eq_ok hplain] at hwrap
    exact scp03WrapCommand_latch P hslot rfl hwrap

end begun

/-! ### SCP02 -/

theorem scp02WrapCommand_latch {s : Scp02Session} {level : UInt8} {tail ea : List UInt8}
    {st st' : BackendState ρ} {slot : Scp02SessionSlot}
    (hslot : st.scp02Sessions.get s.index.toNat = some slot) (hauth : slot.authed = false)
    (h : scp02WrapCommand P s
      (0x84 :: Scp03.INS_EXTERNAL_AUTHENTICATE :: level :: 0x00 :: tail) st = (.ok ea, st')) :
    Capdu.ins ea = Scp03.INS_EXTERNAL_AUTHENTICATE ∧ Capdu.p1 ea = level ∧
      (st'.scp02Sessions.get s.index.toNat).map Scp02SessionSlot.level = some level := by
  rcases scp02WrapCommand_cases P s
      (0x84 :: Scp03.INS_EXTERNAL_AUTHENTICATE :: level :: 0x00 :: tail) st with
    ⟨e, he⟩ | ⟨cla, ins, p1, p2, rest, slot₀, out, slot', hcapdu, hslot₀, hwrap, hok⟩
  · rw [h] at he
    cases he
  · rw [h] at hok
    obtain ⟨hout, rfl⟩ := Prod.mk.inj hok
    obtain rfl := Except.ok.inj hout
    obtain ⟨-, rfl, rfl, -, -⟩ : (0x84 : UInt8) = cla ∧ Scp03.INS_EXTERNAL_AUTHENTICATE = ins ∧
      level = p1 ∧ 0x00 = p2 ∧ tail = rest := by simpa using hcapdu
    obtain rfl := Option.some.inj (hslot.symm.trans hslot₀)
    obtain ⟨_, _, _, -, -, -, -, rfl, rfl⟩ := Scp02.wrapSlot_ok P hwrap
    refine ⟨rfl, rfl, ?_⟩
    rw [SlotTable.get_set_self (SlotTable.lt_of_get hslot), Option.map_some]
    simp [Scp02.commit, hauth]

section begun

variable [RngCore ρ]

theorem begin_proof02 {args : OpenScpArgs} {iParam : UInt8} {hostChallenge : Block 8}
    {iuData ea : List UInt8} {st st' : RustCryptoBackend P ρ} {state : Scp02.Scp02State}
    (h : Scp02.begin args.sdKeys.enc args.sdKeys.mac args.sdKeys.dek iParam args.kvn
      args.requestedLevel hostChallenge iuData st = (.ok (state, ea), st')) :
    (∃ iu, Proof02 P args st hostChallenge iuData iu) ∧
      Capdu.ins ea = Scp03.INS_EXTERNAL_AUTHENTICATE ∧ Capdu.p1 ea = state.securityLevel ∧
      latchedLevel (.scp02 state) st' = some state.securityLevel := by
  obtain ⟨iu, s, level, eaPlain, st₁, hparse, hpin, hderive, hprepare, hwrap, rfl⟩ :=
    (Scp02.begin_eq_ok P).mp h
  obtain ⟨hcard, -, ⟨cryptogram, -, hplain⟩, -⟩ := (Scp02.prepareEa_eq_ok P).mp hprepare
  obtain ⟨-, sEnc, sMac, sRmac, sDek, hsession, hslot⟩ := scp02DeriveSession_slot P hderive
  constructor
  · refine ⟨iu, hparse, Scp02.parseIuResponse_ok hparse, hpin, sEnc, sMac, sRmac, sDek, hsession, ?_⟩
    unfold scp02CardCryptogram scp02Cryptogram at hcard
    rw [hslot, okOr_some, ok_bind] at hcard
    have hch : (Scp02.cardCh8 iu).val = iu.seqCounter.val ++ iu.cardChallenge.val :=
      Block.val_ofOctets (by
        rw [List.length_append, iu.seqCounter.property, iu.cardChallenge.property])
    have hlen : (hostChallenge.val ++ (Scp02.cardCh8 iu).val).length = 16 := by
      rw [List.length_append, hostChallenge.property, (Scp02.cardCh8 iu).property]
    rw [if_neg (by rw [hostChallenge.property, (Scp02.cardCh8 iu).property]; omega),
      show (Scp02.fresh sEnc sMac sRmac sDek).sEnc = sEnc from rfl,
      tdesMac_eq P sEnc _ (by rw [hlen, List.length_replicate])] at hcard
    rw [← Except.ok.inj hcard, hch]
  · rw [Scp02.eaPlaintext_eq_ok hplain] at hwrap
    exact scp02WrapCommand_latch P hslot rfl hwrap

end begun

/-! ### The gate -/

section gate

variable [RngCore ρ] [Transport τ]

/-- The host challenge has the length of the selected mode, and only the random
    source has moved when INITIALIZE UPDATE is sent. -/
theorem challenge03_ok {args : OpenScpArgs} {iParam : UInt8} {hostChallenge iuData : List UInt8}
    {w w' : World τ (RustCryptoBackend P ρ)}
    (h : challenge03 args iParam w = (.ok (hostChallenge, iuData), w')) :
    hostChallenge.length = (ScpMode.fromI iParam).fieldLen ∧
    ∃ iuCmd rng, ∃ w₁ : World τ (RustCryptoBackend P ρ),
      Scp03.iuCommand args.kvn hostChallenge = .ok iuCmd ∧ Answered iuCmd iuData w₁ w' ∧
      w₁ = { w with backend := ({ w.backend with rng := rng } : BackendState ρ) } := by
  obtain ⟨host, w₁, hrandom, h⟩ := Prog.bind_eq_ok.mp h
  obtain ⟨data, w₂, hiu, h⟩ := Prog.bind_eq_ok.mp h
  obtain ⟨hpair, rfl⟩ := Prod.mk.inj h
  obtain ⟨rfl, rfl⟩ := Prod.mk.inj (Except.ok.inj hpair)
  obtain ⟨iuCmd, hbuilt, hanswered⟩ := initializeUpdate_ok hiu
  exact ⟨host.property, iuCmd, _, w₁, hbuilt, hanswered, (Prod.mk.inj hrandom).2.symm⟩

theorem challenge02_ok {args : OpenScpArgs} {hostChallenge : Block 8} {iuData : List UInt8}
    {w w' : World τ (RustCryptoBackend P ρ)}
    (h : challenge02 args w = (.ok (hostChallenge, iuData), w')) :
    ∃ iuCmd rng, ∃ w₁ : World τ (RustCryptoBackend P ρ),
      Scp02.iuCommand args.kvn SCP02_KEY_ID hostChallenge = .ok iuCmd ∧
      Answered iuCmd iuData w₁ w' ∧
      w₁ = { w with backend := ({ w.backend with rng := rng } : BackendState ρ) } := by
  obtain ⟨host, w₁, hrandom, h⟩ := Prog.bind_eq_ok.mp h
  obtain ⟨data, w₂, hiu, h⟩ := Prog.bind_eq_ok.mp h
  obtain ⟨hpair, rfl⟩ := Prod.mk.inj h
  obtain ⟨rfl, rfl⟩ := Prod.mk.inj (Except.ok.inj hpair)
  obtain ⟨iuCmd, hbuilt, hanswered⟩ := initializeUpdate_ok hiu
  exact ⟨iuCmd, _, w₁, hbuilt, hanswered, (Prod.mk.inj hrandom).2.symm⟩

/-- What stands behind an EXTERNAL AUTHENTICATE that is ready to send. -/
theorem Begun.authentic {args : OpenScpArgs} {target : OpenTarget} {ea : Capdu} {opened : Opened}
    {w w' : World τ (RustCryptoBackend P ρ)}
    (hselect : selectVariant args.advertised args.forceScp = some target.variant)
    (h : Begun args target w ea opened w') :
    (∃ iuCmd iuData, Sent [iuCmd] w w' ∧ Capdu.ins iuCmd = Scp03.INS_INITIALIZE_UPDATE ∧
      (∃ rapdu, (Transport.transmit iuCmd w.transport).1 = .ok rapdu ∧
        splitSw rapdu.octets = .ok (iuData, SW_OK)) ∧
      Authentic P args w.backend target.invokerAid iuCmd iuData) ∧
    Capdu.ins ea = Scp03.INS_EXTERNAL_AUTHENTICATE ∧ opened.level = Capdu.p1 ea ∧
    opened.session.securityLevel = Capdu.p1 ea ∧
    latchedLevel opened.session w'.backend = some (Capdu.p1 ea) := by
  cases h with
  | scp03 variant challenge parsed begun =>
    obtain ⟨-, iuCmd, rng, w₂, hiu, hanswered, rfl⟩ := challenge03_ok P challenge
    obtain ⟨⟨iu, hproof, -⟩, hins, hp1, hlatched⟩ := begin_proof03 P begun
    rw [hanswered.backend] at hproof
    refine ⟨⟨iuCmd, _, ⟨hanswered.sent.noted, hanswered.sent.transport⟩,
      by rw [(iuCommand03_eq_ok.mp hiu).2]; rfl, hanswered.answer, ?_⟩, hins, hp1.symm, hp1.symm,
      by rw [hp1]; exact hlatched⟩
    exact .scp03 _ _ iu (by rw [hselect, variant]) hiu
      ⟨hproof.parsed, hproof.layout, hproof.pinned, hproof.cryptogram, hproof.challenge⟩
  | scp02 variant challenge parsed begun =>
    obtain ⟨iuCmd, rng, w₂, hiu, hanswered, rfl⟩ := challenge02_ok P challenge
    obtain ⟨⟨iu, hproof⟩, hins, hp1, hlatched⟩ := begin_proof02 P begun
    rw [hanswered.backend] at hproof
    refine ⟨⟨iuCmd, _, ⟨hanswered.sent.noted, hanswered.sent.transport⟩,
      by rw [iuCommand02_eq_ok.mp hiu]; rfl, hanswered.answer, ?_⟩, hins, hp1.symm, hp1.symm,
      by rw [hp1]; exact hlatched⟩
    exact .scp02 _ _ iu (by rw [hselect, variant]) hiu
      ⟨hproof.parsed, hproof.layout, hproof.pinned, hproof.cryptogram⟩

/-- The one entry of three that is neither of the first two is the last. -/
theorem eq_third_of_ne {α : Type} {a b c x : α} {pre post : List α}
    (h : [a, b, c] = pre ++ x :: post) (ha : x ≠ a) (hb : x ≠ b) :
    pre = [a, b] ∧ x = c ∧ post = [] := by
  rcases pre with _ | ⟨y, _ | ⟨z, pre⟩⟩
  · exact absurd (List.cons.inj h).1.symm ha
  · obtain ⟨-, h⟩ := List.cons.inj h
    exact absurd (List.cons.inj h).1.symm hb
  · simp only [List.cons_append, List.cons.injEq] at h
    obtain ⟨rfl, rfl, h⟩ := h
    rcases pre with _ | ⟨u, pre⟩
    · obtain ⟨rfl, rfl⟩ := List.cons.inj h
      exact ⟨rfl, rfl, rfl⟩
    · simp at h

/-- Mutual authentication is a gate: whatever the card answers, an open over the
    software backend sends EXTERNAL AUTHENTICATE only as its third command, after
    a SELECT and an INITIALIZE UPDATE answered with `9000`, to a card that has
    proved itself over the challenge it was sent and under a pinned key version.
    It succeeds only if that command was answered with `9000`, and then the level
    reported, the session's, the one in `P1` and the one in the slot are equal. -/
theorem mutual_authentication_gate (args : OpenScpArgs)
    (w : World τ (RustCryptoBackend P ρ)) :
    ∃ cmds, Sent cmds w (openScp args w).2 ∧
      (∀ pre ea answer post, transcript cmds w.transport = pre ++ (ea, answer) :: post →
        Capdu.ins ea = Scp03.INS_EXTERNAL_AUTHENTICATE →
        ∃ sel fciRapdu fci targetAid iuCmd iuRapdu iuData,
          pre = [(sel, .ok fciRapdu), (iuCmd, .ok iuRapdu)] ∧ post = [] ∧
          Capdu.selectByAid args.targetAid = .ok sel ∧ targetAid.bytes = args.targetAid ∧
          splitSw fciRapdu.octets = .ok (fci, SW_OK) ∧
          splitSw iuRapdu.octets = .ok (iuData, SW_OK) ∧
          Authentic P args w.backend (invokerAid fci targetAid) iuCmd iuData) ∧
      (∀ report, (openScp args w).1 = .ok report →
        ∃ pre ea rapdu data, transcript cmds w.transport = pre ++ [(ea, .ok rapdu)] ∧
          Capdu.ins ea = Scp03.INS_EXTERNAL_AUTHENTICATE ∧
          splitSw rapdu.octets = .ok (data, SW_OK) ∧
          report.effective.securityLevelEffective = Capdu.p1 ea ∧
          report.session.securityLevel = Capdu.p1 ea ∧
          latchedLevel report.session (openScp args w).2.backend = some (Capdu.p1 ea)) := by
  -- either it fails before EXTERNAL AUTHENTICATE, or `begin` succeeded and it is sent
  rcases openScp_cases args w with
    ⟨e, w', hrun, cmds, hsent, hquiet⟩ | ⟨target, w₀, ea, opened, w₁, htarget, hbegun, hrun⟩
  · rw [hrun]
    refine ⟨cmds, hsent, ?_, ?_⟩
    · intro pre ea answer post hlog hins
      have hmem : (ea, answer) ∈ transcript cmds w.transport := by
        rw [hlog]
        exact List.mem_append_right _ List.mem_cons_self
      exact absurd hins (hquiet ea (fst_mem_of_mem_transcript hmem))
    · intro report h
      cases h
  · obtain ⟨hselect, haid, sel, fci, hsel, hfci, hinvoker⟩ := selectTarget_ok htarget
    obtain ⟨⟨iuCmd, iuData, hiuSent, hiuIns, ⟨iuRapdu, hiuAnswer, hiuData⟩, hauthentic⟩, hins,
      hlevel, hsession, hlatched⟩ := hbegun.authentic P hselect
    obtain ⟨fciRapdu, hselAnswer, hfciData⟩ := hfci.answer
    obtain ⟨heaSent, heaBackend⟩ := finish_sent ea opened w₁
    have hstate : (openScp args w).2 = (finish ea opened w₁).2 := by
      rw [hrun, Prog.bind_run]
      split
      · next heq => rw [heq]; rfl
      · next heq => rw [heq]
    have hlog := transcript_three ea hfci.sent hselAnswer hiuSent hiuAnswer
    have hselIns := ins_selectByAid hsel
    refine ⟨[sel] ++ [iuCmd] ++ [ea], by rw [hstate]; exact (hfci.sent.trans hiuSent).trans heaSent,
      ?_, ?_⟩
    · intro pre ea' answer post hsplit hea'
      -- SELECT and INITIALIZE UPDATE are no EXTERNAL AUTHENTICATE, so it is the third command
      obtain ⟨rfl, -, rfl⟩ := eq_third_of_ne (hlog.symm.trans hsplit)
        (fun h => by rw [(Prod.mk.inj h).1, hselIns] at hea'; cases hea')
        (fun h => by rw [(Prod.mk.inj h).1, hiuIns] at hea'; cases hea')
      refine ⟨sel, fciRapdu, fci, target.targetAid, iuCmd, iuRapdu, iuData, rfl, rfl, hsel, haid,
        hfciData, hiuData, ?_⟩
      rw [← hinvoker, ← hfci.backend]
      exact hauthentic
    · intro report hok
      rw [hrun] at hok
      obtain ⟨opened', w₂, hfinish, hreport⟩ :=
        Prog.bind_eq_ok.mp (show (finish ea opened >>= fun opened =>
          pure (openReport args target opened)) w₁ = (.ok report, _) from Prod.ext hok rfl)
      obtain ⟨rfl, data, heaAnswered⟩ := finish_ok hfinish
      obtain ⟨rapdu, hanswer, hdata⟩ := heaAnswered.answer
      obtain rfl := Except.ok.inj (Prod.mk.inj hreport).1
      refine ⟨[(sel, .ok fciRapdu), (iuCmd, .ok iuRapdu)], ea, rapdu, data, ?_, hins, hdata,
        hlevel, hsession, ?_⟩
      · rw [show [sel] ++ [iuCmd] ++ [ea] = [sel, iuCmd, ea] from rfl, hlog, hanswer]
        rfl
      · rw [hstate, heaBackend]
        exact hlatched

end gate

end Workflow

end Scll
