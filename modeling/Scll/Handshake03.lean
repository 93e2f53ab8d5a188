import Scll.Card.Domain03
import Scll.LockStep03
import Scll.MutualAuth

/-! # An honest SCP03 card is let in

    Host and card are two programs that never see each other's code. With the
    same static keys they agree on everything: the KDF loop of the host computes
    the KDF of the card, the parser finds the fields where the card put them, and
    EXTERNAL AUTHENTICATE is received as it was wrapped. Each stage has its
    lemma; `begin` follows.
-/

namespace Scll

open Octets BlockMode

namespace Workflow

variable (P : Primitives) {ρ : Type}

/-! ### Keys and cryptograms -/

/-- A session key is the card's. -/
theorem sessionKey_eq (key : AesKey) (constant : UInt8) {context : List UInt8}
    (hctx : context.length ≤ 48) :
    sessionKey P key constant context = .ok (Scp03Domain.derive P key constant context) := by
  have hlen : key.val.length = 16 ∨ key.val.length = 24 ∨ key.val.length = 32 := key.property
  have hbits : (UInt16.ofNat (key.val.length * 8)).toNat = 8 * key.val.length := by
    rw [UInt16.toNat_ofNat']
    omega
  have hkdf : kdf P key.val constant _ context key.val.length = _ :=
    kdf_eq P key hbits hctx (by omega)
  unfold sessionKey
  split
  · next out hout =>
    rw [hkdf] at hout
    obtain rfl := Except.ok.inj hout
    rfl
  · next e he =>
    rw [hkdf] at he
    cases he

theorem lBits_toNat (mode : ScpMode) : mode.lBits.toNat = 8 * mode.fieldLen := by
  cases mode <;> rfl

theorem ScpMode.fieldLen_le (mode : ScpMode) : mode.fieldLen ≤ 16 := by
  cases mode <;> decide

variable {P} {sd : Scp03Domain P} {hostChallenge : List UInt8}

theorem length_challenge (sd : Scp03Domain P) : sd.challenge.length = sd.mode.fieldLen := by
  have hle := ScpMode.fieldLen_le sd.mode
  unfold Scp03Domain.challenge
  split
  · rw [length_counterKdf]
  · rw [List.length_take, sd.random.property]
    omega

theorem length_sessionContext (hlen : hostChallenge.length = sd.mode.fieldLen) :
    (sd.sessionContext hostChallenge).length ≤ 32 := by
  have hle := ScpMode.fieldLen_le sd.mode
  rw [Scp03Domain.sessionContext, List.length_append, hlen, length_challenge]
  omega

/-- What the host reads in the card's response. -/
def iuResponse (sd : Scp03Domain P) (hostChallenge : List UInt8) : Scp03.IuResponse where
  kvn := sd.kvn
  iParam := sd.iParam
  mode := sd.mode
  cardChallenge := sd.challenge
  cardCryptogram := sd.cryptogram 0x00 hostChallenge
  sequenceCounter := if sd.pseudoRandom then some sd.sequence else none

theorem isSome_sequenceCounter (sd : Scp03Domain P) (hostChallenge : List UInt8) :
    (iuResponse sd hostChallenge).sequenceCounter.isSome ↔
      sd.iParam &&& Scp03.I_PSEUDO_RANDOM ≠ 0 := by
  unfold iuResponse Scp03Domain.pseudoRandom
  dsimp only
  by_cases hpseudo : sd.iParam &&& 0x10 ≠ 0
  · rw [decide_eq_true hpseudo]
    exact ⟨fun _ => hpseudo, fun _ => rfl⟩
  · rw [decide_eq_false hpseudo]
    exact ⟨fun h => absurd h (by simp), fun h => absurd h hpseudo⟩

/-- The response lies in the layout its `i` asks for. -/
theorem layout_response (hsupported : Scp03.iSupported sd.iParam = true) :
    Scp03.IuLayout (sd.response hostChallenge) (iuResponse sd hostChallenge) := by
  refine ⟨⟨sd.kdd.val, sd.kdd.property, ?_⟩, hsupported, rfl, length_challenge sd,
    length_counterKdf P _ _ _ _, isSome_sequenceCounter sd hostChallenge⟩
  unfold Scp03Domain.response Scp03.IuResponse.counterOctets iuResponse
  cases hpseudo : sd.pseudoRandom with
  | true => simp [Scp03.SCP_ID_SCP03]
  | false => simp [Scp03.SCP_ID_SCP03]

/-- A SELECT or an INITIALIZE UPDATE is answered in one R-APDU. -/
theorem length_response (sd : Scp03Domain P) (hostChallenge : List UInt8) :
    (sd.response hostChallenge).length ≤ 256 := by
  have hle := ScpMode.fieldLen_le sd.mode
  have hchallenge := length_challenge sd
  have hkdd := sd.kdd.property
  have hseq := sd.sequence.property
  have hcryptogram : (sd.cryptogram 0x00 hostChallenge).length = sd.mode.fieldLen :=
    length_counterKdf P _ _ _ _
  unfold Scp03Domain.response
  simp only [List.length_append, List.length_cons, List.length_nil, hchallenge, hcryptogram, hkdd]
  split
  · omega
  · simp only [List.length_nil]
    omega

/-- The session keys of the host are the card's. -/
theorem scp03SessionKeys_honest {st : BackendState ρ} {staticEnc staticMac : KeyHandle}
    (henc : readAesKey st staticEnc = .ok sd.enc) (hmac : readAesKey st staticMac = .ok sd.mac)
    (hlen : hostChallenge.length = sd.mode.fieldLen) :
    scp03SessionKeys P st staticEnc staticMac sd.mode hostChallenge sd.challenge =
      .ok ((sd.card hostChallenge).sEnc, (sd.card hostChallenge).sMac,
        (sd.card hostChallenge).sRmac) := by
  have hctx : context hostChallenge sd.challenge = .ok (sd.sessionContext hostChallenge) :=
    context_eq_ok.mpr ⟨rfl, length_sessionContext hlen⟩
  have hshort : (sd.sessionContext hostChallenge).length ≤ 48 :=
    Nat.le_trans (length_sessionContext hlen) (by decide)
  unfold scp03SessionKeys
  rw [if_neg (by rw [hlen, length_challenge]; simp), hctx, ok_bind, henc, ok_bind, hmac, ok_bind,
    if_neg (not_not.mpr sd.sameLength), sessionKey_eq P _ _ hshort, ok_bind,
    sessionKey_eq P _ _ hshort, ok_bind, sessionKey_eq P _ _ hshort, ok_bind]
  rfl

/-- The cryptograms of the host are the card's. -/
theorem cryptogram_honest {st : BackendState ρ} {s : Scp03Session} (constant : UInt8)
    (hslot : st.sessions.get s.index.toNat = some (.fresh (sd.card hostChallenge).sEnc
      (sd.card hostChallenge).sMac (sd.card hostChallenge).sRmac sd.mode))
    (hlen : hostChallenge.length = sd.mode.fieldLen) :
    Scll.cryptogram P s hostChallenge sd.challenge constant st =
      .ok (sd.cryptogram constant hostChallenge) := by
  have hctx : context hostChallenge sd.challenge = .ok (sd.sessionContext hostChallenge) :=
    context_eq_ok.mpr ⟨rfl, length_sessionContext hlen⟩
  have hshort : (sd.sessionContext hostChallenge).length ≤ 48 :=
    Nat.le_trans (length_sessionContext hlen) (by decide)
  have hle := ScpMode.fieldLen_le sd.mode
  unfold Scll.cryptogram
  rw [hctx, ok_bind, hslot, okOr_some, ok_bind]
  exact kdf_eq P _ (lBits_toNat sd.mode) hshort (by show sd.mode.fieldLen ≤ 64; omega)

/-- The challenge the host recomputes for a pseudo-random card is the card's. -/
theorem pseudoChallenge_honest {st : BackendState ρ} {staticEnc : KeyHandle}
    (henc : readAesKey st staticEnc = .ok sd.enc) (hpseudo : sd.pseudoRandom = true) :
    scp03PseudoCardChallenge P staticEnc sd.mode sd.sequence.val sd.aid.bytes st =
      .ok sd.challenge := by
  have haid : sd.aid.bytes.length ≤ 16 := sd.aid.valid.2
  have hseq := sd.sequence.property
  have hlen : (sd.sequence.val ++ sd.aid.bytes).length ≤ 19 := by
    rw [List.length_append, hseq]
    omega
  have hle := ScpMode.fieldLen_le sd.mode
  have hfirst : extend 19 (cryptoErr "challenge context overflow") [] sd.sequence.val =
      .ok sd.sequence.val := extend_eq_ok.mpr ⟨rfl, by omega⟩
  have hsecond : extend 19 (cryptoErr "challenge context overflow") sd.sequence.val sd.aid.bytes =
      .ok (sd.sequence.val ++ sd.aid.bytes) := extend_eq_ok.mpr ⟨rfl, hlen⟩
  unfold scp03PseudoCardChallenge Scp03Domain.challenge
  rw [hfirst, ok_bind, hsecond, ok_bind, henc, ok_bind, if_pos hpseudo]
  exact kdf_eq P _ (lBits_toNat sd.mode) (by omega) (by omega)

/-- A requested level with C-MAC is capped to one that the card offers. -/
theorem capSecurityLevel_honest {requested : UInt8} (hlevel : requested &&& 0x01 ≠ 0)
    (sd : Scp03Domain P) :
    ∃ level, Scp03.capSecurityLevel sd.iParam requested = .ok level ∧ sd.LevelOffered level := by
  have hcapped : ∀ allowed : UInt8, allowed &&& 0x01 = 0x01 →
      (allowed &&& 0x10 ≠ 0 → sd.iParam &&& 0x20 ≠ 0) →
      (allowed &&& 0x20 ≠ 0 → sd.iParam &&& 0x40 ≠ 0) →
      requested &&& allowed ≠ 0 ∧ sd.LevelOffered (requested &&& allowed) := by
    intro allowed hcmac hrmac hrenc
    have hbit : requested &&& allowed &&& 0x01 ≠ 0 := by
      rw [UInt8.and_assoc, hcmac]
      exact hlevel
    have hzero : ∀ b : UInt8, requested &&& allowed &&& b ≠ 0 → allowed &&& b ≠ 0 := by
      intro b hb hnone
      rw [UInt8.and_assoc, hnone, UInt8.and_zero] at hb
      exact hb rfl
    refine ⟨fun h => ?_, hbit, fun h => hrmac (hzero _ h), fun h => hrenc (hzero _ h)⟩
    rw [h, UInt8.zero_and] at hbit
    exact hbit rfl
  have hallowed : requested &&& Scp03.allowedLevel sd.iParam ≠ 0 ∧
      sd.LevelOffered (requested &&& Scp03.allowedLevel sd.iParam) := by
    apply hcapped
    · unfold Scp03.allowedLevel
      split <;> split <;> decide
    · unfold Scp03.allowedLevel Scp03.I_RMAC
      by_cases h : sd.iParam &&& 0x20 ≠ 0
      · exact fun _ => h
      · rw [if_neg h]
        split <;> (intro h'; exact absurd h' (by decide))
    · unfold Scp03.allowedLevel Scp03.I_RENC
      by_cases h : sd.iParam &&& 0x40 ≠ 0
      · exact fun _ => h
      · rw [if_neg h]
        split <;> (intro h'; exact absurd h' (by decide))
  refine ⟨_, ?_, hallowed.2⟩
  unfold Scp03.capSecurityLevel
  exact if_neg hallowed.1

/-- EXTERNAL AUTHENTICATE from a fresh slot, and the card that receives it. -/
theorem wrapSlot_honest {card : Scp03Card} {slot : Scp03SessionSlot} {level : UInt8}
    {hostCryptogram : List UInt8} (hstep : InStep slot card) (hauth : slot.authed = false)
    (hlevel : level &&& 0x01 ≠ 0) (hlen : hostCryptogram.length ≤ 16) :
    ∃ lc rest slot' card',
      wrapSlot P slot 0x84 EXTERNAL_AUTHENTICATE level 0x00
        (UInt8.ofNat hostCryptogram.length :: hostCryptogram) =
        .ok (secureCla 0x84 :: EXTERNAL_AUTHENTICATE :: level :: 0x00 :: lc :: rest, slot') ∧
      card.receive P
        (secureCla 0x84 :: EXTERNAL_AUTHENTICATE :: level :: 0x00 :: lc :: rest) =
        some (⟨EXTERNAL_AUTHENTICATE, level, 0x00, hostCryptogram⟩, card') ∧
      InStep slot' card' ∧ slot'.authed = true ∧ slot'.level = level := by
  have hmode := slot.mode.macLen_le
  have hlc : (UInt8.ofNat hostCryptogram.length).toNat = hostCryptogram.length := by
    rw [UInt8.toNat_ofNat']
    omega
  have hdata : commandData (UInt8.ofNat hostCryptogram.length :: hostCryptogram) =
      .ok (hostCryptogram, []) := by
    unfold commandData
    dsimp only
    rw [hlc, if_neg (by omega), List.take_length, List.drop_length]
  have hbody : commandBody P slot EXTERNAL_AUTHENTICATE level hostCryptogram =
      .ok (hostCryptogram, slot.counter, level) := by
    unfold commandBody
    rw [hauth]
    rfl
  have hwrapped : ∃ out, wrapSlot P slot 0x84 EXTERNAL_AUTHENTICATE level 0x00
      (UInt8.ofNat hostCryptogram.length :: hostCryptogram) = .ok out :=
    wrapSlot_of_body P hdata hbody (Nat.zero_le _) (by omega)
  obtain ⟨⟨out, slot'⟩, hwrap⟩ := hwrapped
  obtain ⟨card', hreceive, hstep', hauth'⟩ :=
    receive_wrapSlot P hstep (fun _ => hlevel) hdata hwrap
  have hlatch := (Delivery.wrapSlot_latch P hwrap).2.1
  rw [hauth] at hlatch
  obtain ⟨_, _, _, _, _, lc, -, -, -, -, rfl, -⟩ := wrapSlot_ok P hwrap
  exact ⟨lc, _, slot', card', hwrap, hreceive, hstep', hauth', hlatch⟩

/-- A derivation with a free slot, and what is in the slot then. -/
theorem derive03_honest {staticEnc staticMac : KeyHandle} {st : BackendState ρ}
    (henc : readAesKey st staticEnc = .ok sd.enc) (hmac : readAesKey st staticMac = .ok sd.mac)
    (hlen : hostChallenge.length = sd.mode.fieldLen)
    {i : Fin MAX_SESSION_SLOTS} (hfree : st.sessions.get i = none) :
    ∃ s st₁, scp03DeriveSession P staticEnc staticMac sd.mode hostChallenge sd.challenge st =
        (.ok s, st₁) ∧
      st₁.keys = st.keys ∧
      st₁.sessions.get s.index.toNat = some (.fresh (sd.card hostChallenge).sEnc
        (sd.card hostChallenge).sMac (sd.card hostChallenge).sRmac sd.mode) := by
  have hsession := scp03SessionKeys_honest henc hmac hlen
  obtain ⟨s, st₁, hderive⟩ := scp03DeriveSession_of_free P hsession hfree
  obtain ⟨hkeys, sEnc, sMac, sRmac, hderived, hslot⟩ := scp03DeriveSession_slot P hderive
  rw [hsession] at hderived
  obtain ⟨rfl, hrest⟩ := Prod.mk.inj (Except.ok.inj hderived)
  obtain ⟨rfl, rfl⟩ := Prod.mk.inj hrest
  exact ⟨s, st₁, hderive, hkeys, hslot⟩

/-- The host is content with what an honest card answered. -/
theorem prepareEa03_honest [RngCore ρ] {staticEnc : KeyHandle} {requested level : UInt8}
    {st : RustCryptoBackend P ρ} {s : Scp03Session}
    (henc : readAesKey st staticEnc = .ok sd.enc)
    (hslot : st.sessions.get s.index.toNat = some (.fresh (sd.card hostChallenge).sEnc
      (sd.card hostChallenge).sMac (sd.card hostChallenge).sRmac sd.mode))
    (hlen : hostChallenge.length = sd.mode.fieldLen)
    (hcap : Scp03.capSecurityLevel sd.iParam requested = .ok level) :
    Scp03.prepareEa s staticEnc requested hostChallenge sd.aid.bytes (iuResponse sd hostChallenge)
        st =
      (.ok (level, 0x84 :: EXTERNAL_AUTHENTICATE :: level :: 0x00 ::
        UInt8.ofNat (sd.cryptogram 0x01 hostChallenge).length :: sd.cryptogram 0x01 hostChallenge),
        st) := by
  have hle := ScpMode.fieldLen_le sd.mode
  have hlength : (sd.cryptogram 0x01 hostChallenge).length = sd.mode.fieldLen :=
    length_counterKdf P _ _ _ _
  apply (Scp03.prepareEa_eq_ok P).mpr
  refine ⟨cryptogram_honest 0x00 hslot hlen, ?_, hcap,
    ⟨_, cryptogram_honest 0x01 hslot hlen, Scp03.eaPlaintext_of_le level (by omega)⟩, rfl⟩
  intro seq hseq
  have hpseudo : sd.pseudoRandom = true := by
    by_contra hrandom
    unfold iuResponse at hseq
    dsimp only at hseq
    rw [if_neg hrandom] at hseq
    cases hseq
  unfold iuResponse at hseq
  dsimp only at hseq
  rw [if_pos hpseudo] at hseq
  obtain rfl := Option.some.inj hseq
  exact pseudoChallenge_honest henc hpseudo

/-- Past the answer of an honest card, `begin` wraps an EXTERNAL AUTHENTICATE
    that the card verifies, and the new slot is in step with it. -/
theorem begin03_honest [RngCore ρ] {staticEnc staticMac : KeyHandle} {kvn requested : UInt8}
    (st : RustCryptoBackend P ρ) (hsupported : Scp03.iSupported sd.iParam = true)
    (henc : readAesKey st staticEnc = .ok sd.enc) (hmac : readAesKey st staticMac = .ok sd.mac)
    (hkvn : kvn = 0x00 ∨ kvn = sd.kvn) (hlevel : requested &&& 0x01 ≠ 0)
    (hlen : hostChallenge.length = sd.mode.fieldLen)
    {i : Fin MAX_SESSION_SLOTS} (hfree : st.sessions.get i = none) :
    ∃ state lc rest card, ∃ st' : RustCryptoBackend P ρ,
      Scp03.begin staticEnc staticMac kvn requested hostChallenge sd.aid.bytes
        (sd.response hostChallenge) st =
        (.ok (state, secureCla 0x84 :: EXTERNAL_AUTHENTICATE :: state.securityLevel :: 0x00 ::
          lc :: rest), st') ∧
      sd.LevelOffered state.securityLevel ∧
      (sd.card hostChallenge).receive P (secureCla 0x84 :: EXTERNAL_AUTHENTICATE ::
          state.securityLevel :: 0x00 :: lc :: rest) =
        some (⟨EXTERNAL_AUTHENTICATE, state.securityLevel, 0x00,
          sd.cryptogram 0x01 hostChallenge⟩, card) ∧
      LockStep03.Agree state.session st' card ∧ card.level = state.securityLevel := by
  have hle := ScpMode.fieldLen_le sd.mode
  have hlength : (sd.cryptogram 0x01 hostChallenge).length = sd.mode.fieldLen :=
    length_counterKdf P _ _ _ _
  -- what `begin` comes to: the level, the slot, and the command it wraps
  obtain ⟨level, hcap, hoffered⟩ := capSecurityLevel_honest hlevel sd
  obtain ⟨s, st₁, hderive, hkeys, hslot⟩ := derive03_honest henc hmac hlen hfree
  have henc' : readAesKey st₁ staticEnc = .ok sd.enc := by
    unfold readAesKey
    rw [hkeys]
    exact henc
  obtain ⟨lc, rest, slot', card, hwrap, hreceive, hstep, hauth, hlatched⟩ :=
    wrapSlot_honest (P := P) (LockStep03.fresh_inStep _ _ _ _) rfl hoffered.1
      (show (sd.cryptogram 0x01 hostChallenge).length ≤ 16 by omega)
  have hwrapped : scp03WrapCommand P s (0x84 :: EXTERNAL_AUTHENTICATE :: level :: 0x00 ::
      UInt8.ofNat (sd.cryptogram 0x01 hostChallenge).length :: sd.cryptogram 0x01 hostChallenge)
      st₁ = (.ok (secureCla 0x84 :: EXTERNAL_AUTHENTICATE :: level :: 0x00 :: lc :: rest),
        { st₁ with sessions := st₁.sessions.set s.index.toNat (some slot') }) := by
    unfold scp03WrapCommand
    dsimp only
    rw [hslot]
    dsimp only
    rw [hwrap]
  refine ⟨⟨s, sd.iParam, level, sd.kvn⟩, lc, rest, card, _, (Scp03.begin_eq_ok P).mpr
    ⟨iuResponse sd hostChallenge, s, level, _, st₁,
      Scp03.parseIuResponse_of_layout (layout_response hsupported), ?_, hderive,
      prepareEa03_honest henc' hslot hlen hcap, hwrapped, rfl⟩, hoffered, hreceive, ?_, ?_⟩
  · intro hpin
    exact (hkvn.resolve_left hpin).symm
  · exact ⟨slot', SlotTable.get_set_self (SlotTable.lt_of_get hslot) _, hauth, hstep⟩
  · rw [← hstep.level]
    exact hlatched

end Workflow

end Scll
