import Scll.Handles
import Scll.MutualAuth
import Scll.TestSupport

/-! # What the card's `i` decides

    The `i` of the selected variant fixes the length of the host challenge, and
    with it the size mode. Everything else is read from the `i` in the
    INITIALIZE UPDATE response, which no cryptogram covers: the levels the
    session may have, and whether the card challenge is recomputed.
-/

namespace Scll

open BlockMode

namespace Workflow

variable (P : Primitives) {ρ τ : Type}

/-- What an open makes of the `i` it reads in the INITIALIZE UPDATE response,
    when `iParam` was selected. -/
structure Negotiated (args : OpenScpArgs) (iParam : UInt8) (st : BackendState ρ)
    (iuData : List UInt8) (iu : Scp03.IuResponse) (report : OpenScpReport) : Prop where
  /-- In scope, and of the length it asks for itself. -/
  layout : Scp03.IuLayout iuData iu
  mode : ScpMode.fromI iu.iParam = ScpMode.fromI iParam
  effective : report.effective.iParamEffective = iu.iParam
  session : report.session.iParam = iu.iParam
  level : Scp03.capSecurityLevel iu.iParam args.requestedLevel =
    .ok report.effective.securityLevelEffective
  sessionLevel : report.session.securityLevel = report.effective.securityLevelEffective
  /-- The check of a pseudo-random challenge was made if `i` says it is one. -/
  challenge : iu.iParam &&& Scp03.I_PSEUDO_RANDOM ≠ 0 →
    ∃ seq key, iu.sequenceCounter = some seq ∧ readAesKey st args.sdKeys.enc = .ok key ∧
      kdf P key.val DC_CARD_CHALLENGE iu.mode.lBits
        (seq.val ++ report.effective.invokerAidUsed.bytes) iu.mode.fieldLen =
        .ok iu.cardChallenge
  /-- A card that echoes the selected `i` gets what was selected. -/
  kept : iu.iParam = iParam → report.effective.iParamEffective = iParam ∧
    Scp03.capSecurityLevel iParam args.requestedLevel =
      .ok report.effective.securityLevelEffective

/-- The session keys are derived from challenges of one length only. -/
theorem scp03SessionKeys_length {st : BackendState ρ} {staticEnc staticMac : KeyHandle}
    {mode : ScpMode} {hostChallenge cardChallenge : List UInt8} {keys : AesKey × AesKey × AesKey}
    (h : scp03SessionKeys P st staticEnc staticMac mode hostChallenge cardChallenge = .ok keys) :
    hostChallenge.length = mode.fieldLen := by
  unfold scp03SessionKeys at h
  by_contra hne
  rw [if_pos (.inl hne)] at h
  cases h

theorem ScpMode.fieldLen_inj {m m' : ScpMode} (h : m.fieldLen = m'.fieldLen) : m = m' := by
  cases m <;> cases m' <;> first | rfl | exact absurd h (by decide)

section negotiation

variable [RngCore ρ] [Transport τ]

/-- Whatever the card or anyone on the line answers, an open with SCP03 `iParam`
    selected that succeeds has followed the `i` of the INITIALIZE UPDATE response:
    it has the size mode of `iParam`, it is the effective `i`, and it alone caps the
    level and says whether the card challenge is checked. -/
theorem echoed_i_decides (args : OpenScpArgs) (iParam : UInt8) (report : OpenScpReport)
    (w w' : World τ (RustCryptoBackend P ρ)) (hopen : openScp args w = (.ok report, w'))
    (hselect : selectVariant args.advertised args.forceScp = some (.scp03 iParam)) :
    ∃ sel iuCmd ea fciRapdu iuRapdu eaRapdu iuData iu,
      w'.sent = w.sent ++ [sel, iuCmd, ea] ∧
      transcript [sel, iuCmd, ea] w.transport =
        [(sel, .ok fciRapdu), (iuCmd, .ok iuRapdu), (ea, .ok eaRapdu)] ∧
      splitSw iuRapdu.octets = .ok (iuData, SW_OK) ∧
      Scp03.parseIuResponse iuData = .ok iu ∧
      Negotiated P args iParam w.backend iuData iu report := by
  obtain ⟨target, w₀, ea, opened, w₁, data, htarget, hbegun, hea, rfl⟩ := openScp_ok hopen
  obtain ⟨hvariant, -, sel, fci, -, hfci, -⟩ := selectTarget_ok htarget
  obtain ⟨fciRapdu, hselAnswer, -⟩ := hfci.answer
  obtain ⟨eaRapdu, heaAnswer, -⟩ := hea.answer
  rw [hselect] at hvariant
  -- the variant that was selected is SCP03, so the other handshake is out
  cases hbegun with
  | scp02 variant _ _ _ =>
    rw [variant] at hvariant
    cases hvariant
  | scp03 variant challenge parsed begun =>
    rw [variant] at hvariant
    obtain rfl := ScpVariant.scp03.inj (Option.some.inj hvariant)
    obtain ⟨hlen, iuCmd, rng, w₂, hiu, hanswered, rfl⟩ := challenge03_ok P challenge
    obtain ⟨iuRapdu, hiuAnswer, hiuData⟩ := hanswered.answer
    obtain ⟨⟨iu', hproof, hi, hcap⟩, -, -, -⟩ := begin_proof03 P begun
    obtain rfl := Except.ok.inj (parsed.symm.trans hproof.parsed)
    obtain ⟨sEnc, sMac, sRmac, hkeys, -⟩ := hproof.cryptogram
    -- the mode of the keys is the one that the echoed `i` gives
    have hmode := ScpMode.fieldLen_inj (hlen.symm.trans (scp03SessionKeys_length P hkeys))
    have hlayout := hproof.layout
    refine ⟨sel, iuCmd, ea, fciRapdu, iuRapdu, eaRapdu, _, _, ?_, ?_, hiuData, parsed, hlayout,
      by rw [← hlayout.mode, hmode], rfl, hi, hcap, rfl, ?_, ?_⟩
    · rw [hea.sent.noted, hanswered.sent.noted, hfci.sent.noted]
      simp
    · rw [transcript_three ea hfci.sent hselAnswer
        ⟨hanswered.sent.noted, hanswered.sent.transport⟩ hiuAnswer, heaAnswer]
    · rw [hanswered.backend] at hproof
      rw [← hfci.backend]
      exact hproof.challenge
    · rintro rfl
      exact ⟨rfl, hcap⟩

end negotiation

/-! ### An `i` that was altered -/

/-- The response of a card that has proved itself to the keyed backend, with any `i`
    in its place: the cryptogram is the same for all of them. -/
def echoing (iParam : UInt8) : List UInt8 :=
  List.replicate 10 0 ++ [0x01, 0x03, iParam] ++ List.replicate 8 1 ++ List.replicate 8 0x40

/-- A card that accepts SELECT and EXTERNAL AUTHENTICATE, with `iuData` between. -/
def cardOf (iuData : List UInt8) : World Script (RustCryptoBackend Primitives.xorCipher Unit) where
  transport := ⟨[Rapdu.ofAnswer [] SW_OK, Rapdu.ofAnswer iuData SW_OK, Rapdu.ofAnswer [] SW_OK]⟩
  backend := Handles.keyedBackend
  sent := []

/-- An open at the full level over a card that advertises `70`. -/
def fullArgs : OpenScpArgs where
  targetAid := [0xA0, 0x00, 0x00, 0x01, 0x51]
  targetKind := .securityDomainAid
  sdKeys := ⟨⟨0⟩, ⟨0⟩, ⟨0⟩⟩
  advertised := [.scp03 0x70]
  forceScp := none
  kvn := 0x00
  requestedLevel := 0x33

theorem fullArgs_selects :
    selectVariant fullArgs.advertised fullArgs.forceScp = some (.scp03 0x70) := by decide

/-- With `00` for `70` the open succeeds at `03`. -/
theorem openScp_altered : (openScp fullArgs (cardOf (echoing 0x00))).1.map
    (fun report => (report.effective.iParamEffective, report.effective.securityLevelEffective)) =
    .ok (0x00, 0x03) := by decide +kernel

theorem exists_altered : ∃ report, openScp fullArgs (cardOf (echoing 0x00)) =
      (.ok report, (openScp fullArgs (cardOf (echoing 0x00))).2) ∧
    report.effective.iParamEffective = 0x00 ∧
    report.effective.securityLevelEffective = 0x03 := by
  have h := openScp_altered
  cases hrun : (openScp fullArgs (cardOf (echoing 0x00))).1 with
  | error e =>
    rw [hrun] at h
    cases h
  | ok report =>
    rw [hrun] at h
    obtain ⟨hi, hlevel⟩ := Prod.mk.inj (Except.ok.inj h)
    exact ⟨report, Prod.ext hrun rfl, hi, hlevel⟩

theorem echoed_i_decides_altered : ∃ report iuData iu,
    Negotiated Primitives.xorCipher fullArgs 0x70 (cardOf (echoing 0x00)).backend iuData iu report ∧
      report.effective.iParamEffective = 0x00 := by
  obtain ⟨report, hopen, hi, -⟩ := exists_altered
  obtain ⟨_, _, _, _, _, _, iuData, iu, -, -, -, -, hnegotiated⟩ :=
    echoed_i_decides Primitives.xorCipher fullArgs 0x70 report (cardOf (echoing 0x00)) _ hopen
      fullArgs_selects
  exact ⟨report, iuData, iu, hnegotiated, hi⟩

/-- With `70` selected and `33` requested, a response with `00` in the place of
    `i`, and without the counter, opens a session without R-MAC, without R-ENC
    and without the challenge check. -/
theorem i_downgraded :
    ¬∀ (args : OpenScpArgs) (iParam : UInt8) (report : OpenScpReport)
      (w w' : World Script (RustCryptoBackend Primitives.xorCipher Unit)),
      openScp args w = (.ok report, w') →
      selectVariant args.advertised args.forceScp = some (.scp03 iParam) →
      report.effective.iParamEffective = iParam ∧
        Scp03.capSecurityLevel iParam args.requestedLevel =
          .ok report.effective.securityLevelEffective := by
  intro hkept
  obtain ⟨report, hopen, hi, -⟩ := exists_altered
  have hsame := (hkept fullArgs 0x70 report _ _ hopen fullArgs_selects).1
  rw [hi] at hsame
  cases hsame

end Workflow

end Scll
