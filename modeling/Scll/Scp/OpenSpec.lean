import Scll.Backend.Software
import Scll.Backend.Sessions
import Scll.Scp.Scp02

/-! # Opening a channel over the software backend

    What `begin` makes of the session tables: it refuses before it derives, or
    derives and refuses, or derives and wraps EXTERNAL AUTHENTICATE. Between the
    two calls that change the tables it only reads.
-/

namespace Scll

open BlockMode

variable (P : Primitives) {ρ : Type} [RngCore ρ]

theorem ofBackend_eq_ok {β α : Type} {m : Prog β BackendError α} {b b' : β} {a : α} :
    ofBackend m b = (.ok a, b') ↔ m b = (.ok a, b') := Prog.mapErr_eq_ok

theorem ofBackend_error {β α : Type} {m : Prog β BackendError α} {b b' : β} {e : BackendError}
    (h : m b = (.error e, b')) : ofBackend m b = (.error (.backend e), b') := by
  unfold ofBackend Prog.mapErr
  rw [h]

/-! ### SCP03 -/

namespace Scp03

/-! ### The INITIALIZE UPDATE response -/

/-- The counter octets behind the cryptogram, none for a random card. -/
def IuResponse.counterOctets (iu : IuResponse) : List UInt8 :=
  match iu.sequenceCounter with
  | some seq => seq.val
  | none => []

/-- `bytes` is `KDD(10) KVN 03 i challenge cryptogram [counter]`, with the lengths
    and the counter that `i` asks for. -/
structure IuLayout (bytes : List UInt8) (iu : IuResponse) : Prop where
  octets : ∃ kdd, kdd.length = 10 ∧ bytes = kdd ++ iu.kvn :: SCP_ID_SCP03 :: iu.iParam ::
    (iu.cardChallenge ++ (iu.cardCryptogram ++ iu.counterOctets))
  supported : iSupported iu.iParam = true
  mode : iu.mode = ScpMode.fromI iu.iParam
  challenge : iu.cardChallenge.length = iu.mode.fieldLen
  cryptogram : iu.cardCryptogram.length = iu.mode.fieldLen
  counter : iu.sequenceCounter.isSome ↔ iu.iParam &&& I_PSEUDO_RANDOM ≠ 0

theorem length_counterOctets {iu : IuResponse}
    (h : iu.sequenceCounter.isSome ↔ iu.iParam &&& I_PSEUDO_RANDOM ≠ 0) :
    iu.counterOctets.length =
      if iu.iParam &&& I_PSEUDO_RANDOM ≠ 0 then SEQ_COUNTER_LEN else 0 := by
  unfold IuResponse.counterOctets
  cases hseq : iu.sequenceCounter with
  | none =>
    rw [hseq] at h
    rw [if_neg (by simpa using h)]
    rfl
  | some seq =>
    rw [hseq] at h
    rw [if_pos (h.mp rfl)]
    exact seq.property

theorem parseIuResponse_of_layout {bytes : List UInt8} {iu : IuResponse} (h : IuLayout bytes iu) :
    parseIuResponse bytes = .ok iu := by
  obtain ⟨kvn, iParam, mode, challenge, cryptogram, counter⟩ := iu
  obtain ⟨⟨kdd, hkdd, rfl⟩, hsupported, hmode, hchallenge, hcryptogram, hcounter⟩ := h
  have htail := length_counterOctets hcounter
  simp only at hsupported hmode hchallenge hcryptogram hcounter htail
  subst hmode
  have hlen : (kdd ++ kvn :: SCP_ID_SCP03 :: iParam :: (challenge ++ (cryptogram ++
      IuResponse.counterOctets ⟨kvn, iParam, .fromI iParam, challenge, cryptogram, counter⟩))).length =
      IU_PREFIX_LEN + 2 * (ScpMode.fromI iParam).fieldLen +
        if iParam &&& I_PSEUDO_RANDOM ≠ 0 then SEQ_COUNTER_LEN else 0 := by
    simp only [List.length_append, List.length_cons, hkdd, hchallenge, hcryptogram, htail,
      IU_PREFIX_LEN]
    omega
  unfold parseIuResponse
  rw [List.drop_left' hkdd]
  dsimp only
  rw [if_neg (by simp), if_neg (by simp [hsupported]), if_neg (by rw [hlen]; simp)]
  congr 1
  simp only [IuResponse.mk.injEq, true_and]
  refine ⟨List.take_left' hchallenge, ?_, ?_⟩
  · rw [List.drop_left' hchallenge, List.take_left' hcryptogram]
  · have hdrop : (challenge ++ (cryptogram ++
        IuResponse.counterOctets ⟨kvn, iParam, .fromI iParam, challenge, cryptogram, counter⟩)).drop
        (2 * (ScpMode.fromI iParam).fieldLen) =
        IuResponse.counterOctets ⟨kvn, iParam, .fromI iParam, challenge, cryptogram, counter⟩ := by
      rw [← List.append_assoc, List.drop_left' (by rw [List.length_append]; omega)]
    rw [hdrop]
    cases counter with
    | none =>
      rw [if_neg (by simpa using hcounter)]
    | some seq =>
      rw [if_pos (hcounter.mp rfl)]
      rw [show IuResponse.counterOctets ⟨kvn, iParam, .fromI iParam, challenge, cryptogram,
        some seq⟩ = seq.val from rfl, Block.ofOctets_val]

/-- The counter a parse reads is all that follows the cryptogram. -/
theorem counterOctets_drop {kvn iParam : UInt8} {mode : ScpMode} {challenge cryptogram : List UInt8}
    {n : ℕ} {rest : List UInt8}
    (h : rest.length = n + if iParam &&& I_PSEUDO_RANDOM ≠ 0 then SEQ_COUNTER_LEN else 0) :
    IuResponse.counterOctets ⟨kvn, iParam, mode, challenge, cryptogram,
      if iParam &&& I_PSEUDO_RANDOM ≠ 0 then some (Block.ofOctets SEQ_COUNTER_LEN (rest.drop n))
      else none⟩ = rest.drop n := by
  by_cases hpseudo : iParam &&& I_PSEUDO_RANDOM ≠ 0
  · rw [if_pos hpseudo] at h ⊢
    exact Block.val_ofOctets (by rw [List.length_drop, h, Nat.add_sub_cancel_left])
  · rw [if_neg hpseudo] at h ⊢
    exact (List.drop_eq_nil_of_le (by omega)).symm

theorem parseIuResponse_ok {bytes : List UInt8} {iu : IuResponse}
    (h : parseIuResponse bytes = .ok iu) : IuLayout bytes iu := by
  unfold parseIuResponse at h
  split at h
  · next kvn scpId iParam rest hdrop =>
    split at h
    · cases h
    · next hid =>
      split at h
      · cases h
      · next hsupported =>
        dsimp only at h
        by_cases hlen : bytes.length = IU_PREFIX_LEN + 2 * (ScpMode.fromI iParam).fieldLen +
            if iParam &&& I_PSEUDO_RANDOM ≠ 0 then SEQ_COUNTER_LEN else 0
        · rw [if_neg (not_not.mpr hlen)] at h
          obtain rfl := Except.ok.inj h
          obtain rfl := not_not.mp hid
          have hcut := congrArg List.length hdrop
          simp only [List.length_drop, List.length_cons, IU_PREFIX_LEN] at hcut hlen
          refine ⟨⟨bytes.take 10, List.length_take_of_le (by omega), ?_⟩, by simpa using hsupported,
            rfl, List.length_take_of_le (by omega), ?_, ?_⟩
          · rw [counterOctets_drop (by omega)]
            have htail : rest.take (ScpMode.fromI iParam).fieldLen ++
                ((rest.drop (ScpMode.fromI iParam).fieldLen).take (ScpMode.fromI iParam).fieldLen ++
                  rest.drop (2 * (ScpMode.fromI iParam).fieldLen)) = rest := by
              rw [Nat.two_mul, ← List.drop_drop, List.take_append_drop, List.take_append_drop]
            rw [htail, ← hdrop, List.take_append_drop]
          · rw [List.length_take_of_le (by rw [List.length_drop]; omega)]
          · by_cases hpseudo : iParam &&& I_PSEUDO_RANDOM = 0
            · simp [hpseudo]
            · simp [hpseudo]
        · rw [if_pos hlen] at h
          cases h
  · cases h

/-! ### The host side -/

theorem verify_leaves (expected actual : List UInt8) (e : ScllError) :
    (verify expected actual e : Prog (RustCryptoBackend P ρ) ScllError Unit).Leaves :=
  .bind .read fun _ => .ite (.pure ()) (.fail e)

theorem verifyChallenge_leaves (staticEnc : KeyHandle) (iu : IuResponse) (aid : List UInt8) :
    (verifyChallenge staticEnc iu aid : Prog (RustCryptoBackend P ρ) ScllError Unit).Leaves := by
  unfold verifyChallenge
  split
  · exact .pure ()
  · exact .bind (.mapErr _ (.query _)) fun expected => verify_leaves P _ _ _

theorem prepareEa_leaves (session : Scp03Session) (staticEnc : KeyHandle) (level : UInt8)
    (hostChallenge aid : List UInt8) (iu : IuResponse) :
    (prepareEa session staticEnc level hostChallenge aid iu :
      Prog (RustCryptoBackend P ρ) ScllError _).Leaves := by
  refine .bind (.mapErr _ (.query _)) fun expected => .bind (verify_leaves P _ _ _) fun _ => ?_
  refine .bind (verifyChallenge_leaves P _ _ _) fun _ => .bind (.lift _) fun level => ?_
  exact .bind (.mapErr _ (.query _)) fun _ => .bind (.lift _) fun _ => .pure _

theorem eaPlaintext_eq_ok {level : UInt8} {cryptogram apdu : List UInt8}
    (h : eaPlaintext level cryptogram = .ok apdu) :
    apdu = 0x84 :: INS_EXTERNAL_AUTHENTICATE :: level :: 0x00 :: UInt8.ofNat cryptogram.length ::
      cryptogram := by
  obtain ⟨lc, hlc, h⟩ := bind_eq_ok.mp h
  obtain ⟨head, hhead, h⟩ := bind_eq_ok.mp h
  obtain ⟨rfl, -⟩ := extend_eq_ok.mp hhead
  obtain ⟨rfl, -⟩ := extend_eq_ok.mp h
  unfold lcByte at hlc
  split at hlc
  · obtain rfl := Except.ok.inj hlc
    rfl
  · cases hlc

theorem eaPlaintext_of_le (level : UInt8) {cryptogram : List UInt8}
    (h : cryptogram.length ≤ 255) :
    eaPlaintext level cryptogram = .ok (0x84 :: INS_EXTERNAL_AUTHENTICATE :: level :: 0x00 ::
      UInt8.ofNat cryptogram.length :: cryptogram) := by
  unfold eaPlaintext lcByte
  rw [if_pos h, ok_bind]
  refine bind_eq_ok.mpr ⟨_, extend_eq_ok.mpr ⟨rfl, by simp [CAPDU_MAX]⟩,
    extend_eq_ok.mpr ⟨rfl, ?_⟩⟩
  simp only [List.length_cons, CAPDU_MAX]
  omega

/-! ### What the host has checked -/

theorem verify_eq_ok {expected actual : List UInt8} {e : ScllError} {st st' : RustCryptoBackend P ρ} :
    verify expected actual e st = (.ok (), st') ↔ expected = actual ∧ st' = st := by
  have hct : KeyBackend.ctEq st expected actual = ctEq expected actual := rfl
  unfold verify
  rw [Prog.bind_ok (Prog.read_run st), hct]
  by_cases h : ctEq expected actual = true
  · rw [if_pos h]
    simp [ctEq_iff.mp h, eq_comm]
  · rw [if_neg h]
    have hne : expected ≠ actual := fun heq => h (ctEq_iff.mpr heq)
    simp [hne]

theorem verifyChallenge_eq_ok {staticEnc : KeyHandle} {iu : IuResponse} {aid : List UInt8}
    {st st' : RustCryptoBackend P ρ} :
    verifyChallenge staticEnc iu aid st = (.ok (), st') ↔
      (∀ seq, iu.sequenceCounter = some seq →
        scp03PseudoCardChallenge P staticEnc iu.mode seq.val aid st = .ok iu.cardChallenge) ∧
      st' = st := by
  unfold verifyChallenge
  cases hseq : iu.sequenceCounter with
  | none => simp [eq_comm]
  | some seq =>
    simp only [Prog.bind_eq_ok, ofBackend_eq_ok, verify_eq_ok]
    constructor
    · rintro ⟨expected, s, hquery, rfl, rfl⟩
      obtain ⟨hok, rfl⟩ := Prog.query_eq_ok.mp hquery
      refine ⟨?_, rfl⟩
      intro seq' hseq'
      rw [← Option.some.inj hseq']
      exact hok
    · rintro ⟨hok, rfl⟩
      exact ⟨iu.cardChallenge, st', Prod.ext (hok seq rfl) rfl, rfl, rfl⟩

/-- EXTERNAL AUTHENTICATE is prepared exactly when the card's cryptogram, and the
    challenge of a pseudo-random card, are the ones the backend computes. -/
theorem prepareEa_eq_ok {session : Scp03Session} {staticEnc : KeyHandle} {requested level : UInt8}
    {hostChallenge aid eaPlain : List UInt8} {iu : IuResponse} {st st' : RustCryptoBackend P ρ} :
    prepareEa session staticEnc requested hostChallenge aid iu st = (.ok (level, eaPlain), st') ↔
      scp03CardCryptogram P session hostChallenge iu.cardChallenge st = .ok iu.cardCryptogram ∧
      (∀ seq, iu.sequenceCounter = some seq →
        scp03PseudoCardChallenge P staticEnc iu.mode seq.val aid st = .ok iu.cardChallenge) ∧
      capSecurityLevel iu.iParam requested = .ok level ∧
      (∃ cryptogram,
        scp03HostCryptogram P session hostChallenge iu.cardChallenge st = .ok cryptogram ∧
        eaPlaintext level cryptogram = .ok eaPlain) ∧
      st' = st := by
  unfold prepareEa
  simp only [Prog.bind_eq_ok, ofBackend_eq_ok, Prog.lift_eq_ok]
  constructor
  · rintro ⟨expected, s₁, hcard, ⟨⟩, s₂, hverify, ⟨⟩, s₃, hchallenge, level', s₄, ⟨hlevel, rfl⟩,
      cryptogram, s₅, hhost, eaPlain', s₆, ⟨hplain, rfl⟩, hpure⟩
    obtain ⟨hcard', rfl⟩ := Prog.query_eq_ok.mp hcard
    obtain ⟨rfl, rfl⟩ := (verify_eq_ok P).mp hverify
    obtain ⟨hchallenge, rfl⟩ := (verifyChallenge_eq_ok P).mp hchallenge
    obtain ⟨hhost', rfl⟩ := Prog.query_eq_ok.mp hhost
    obtain ⟨hpair, rfl⟩ := Prod.mk.inj hpure
    obtain ⟨rfl, rfl⟩ := Prod.mk.inj (Except.ok.inj hpair)
    exact ⟨hcard', hchallenge, hlevel, ⟨cryptogram, hhost', hplain⟩, rfl⟩
  · rintro ⟨hcard, hchallenge, hlevel, ⟨cryptogram, hhost, hplain⟩, rfl⟩
    exact ⟨iu.cardCryptogram, st', Prod.ext hcard rfl, (), st', (verify_eq_ok P).mpr ⟨rfl, rfl⟩, (),
      st', (verifyChallenge_eq_ok P).mpr ⟨hchallenge, rfl⟩, level, st', ⟨hlevel, rfl⟩, cryptogram,
      st', Prod.ext hhost rfl, eaPlain, st', ⟨hplain, rfl⟩, rfl⟩

/-- What is prepared is EXTERNAL AUTHENTICATE at the level returned, the cap of
    the requested one. -/
theorem prepareEa_ok {session : Scp03Session} {staticEnc : KeyHandle} {requested level : UInt8}
    {hostChallenge aid eaPlain : List UInt8} {iu : IuResponse} {st st' : RustCryptoBackend P ρ}
    (h : prepareEa session staticEnc requested hostChallenge aid iu st =
      (.ok (level, eaPlain), st')) :
    capSecurityLevel iu.iParam requested = .ok level ∧
      ∃ tail, eaPlain = 0x84 :: INS_EXTERNAL_AUTHENTICATE :: level :: 0x00 :: tail := by
  obtain ⟨-, -, hlevel, ⟨cryptogram, -, hplain⟩, -⟩ := (prepareEa_eq_ok P).mp h
  exact ⟨hlevel, _, eaPlaintext_eq_ok hplain⟩

/-! ### Opening -/

/-- The three ways of an SCP03 open. -/
theorem begin_cases (staticEnc staticMac : KeyHandle) (kvnExpected requested : UInt8)
    (hostChallenge aid iuResponse : List UInt8) (st : RustCryptoBackend P ρ) :
    (∃ e, begin staticEnc staticMac kvnExpected requested hostChallenge aid iuResponse st =
      (.error e, st)) ∨
    (∃ mode cardCh s st₁, scp03DeriveSession P staticEnc staticMac mode hostChallenge cardCh st =
        (.ok s, st₁) ∧
      ((∃ e, begin staticEnc staticMac kvnExpected requested hostChallenge aid iuResponse st =
          (.error e, st₁)) ∨
        ∃ iParam level kvn eaPlain ea st₂,
          capSecurityLevel iParam requested = .ok level ∧
          (∃ tail, eaPlain = 0x84 :: INS_EXTERNAL_AUTHENTICATE :: level :: 0x00 :: tail) ∧
          scp03WrapCommand P s eaPlain st₁ = (.ok ea, st₂) ∧
          begin staticEnc staticMac kvnExpected requested hostChallenge aid iuResponse st =
            (.ok (⟨s, iParam, level, kvn⟩, ea), st₂))) := by
  unfold begin
  cases hiu : parseIuResponse iuResponse with
  | error e => exact .inl ⟨e, rfl⟩
  | ok iu =>
    rw [Prog.bind_ok (Prog.lift_run (.ok iu) st)]
    split
    · exact .inl ⟨_, rfl⟩
    · obtain ⟨r, st₁, hderive⟩ : ∃ r, ∃ st₁ : RustCryptoBackend P ρ,
          scp03DeriveSession P staticEnc staticMac iu.mode hostChallenge iu.cardChallenge st =
            (r, st₁) := ⟨_, _, rfl⟩
      cases r with
      | error e =>
        left
        -- a derivation that fails takes no slot
        have hst : st₁ = st := by
          rcases scp03DeriveSession_cases P st staticEnc staticMac iu.mode hostChallenge
            iu.cardChallenge with ⟨e', he'⟩ | ⟨_, _, _, _, _, _, hok⟩
          · rw [hderive] at he'
            exact (Prod.mk.inj he').2
          · rw [hderive] at hok
            cases hok
        subst hst
        exact ⟨_, Prog.bind_error (ofBackend_error hderive)⟩
      | ok s =>
        right
        refine ⟨iu.mode, iu.cardChallenge, s, st₁, hderive, ?_⟩
        have hderive' : ofBackend (Scp03Backend.scp03DeriveSession staticEnc staticMac iu.mode
            hostChallenge iu.cardChallenge : Prog (RustCryptoBackend P ρ) _ _) st =
            (.ok s, st₁) := ofBackend_eq_ok.mpr hderive
        rw [Prog.bind_ok hderive']
        rcases (prepareEa_leaves P s staticEnc requested hostChallenge aid iu).cases st₁ with
          ⟨⟨level, eaPlain⟩, hprepare⟩ | ⟨e, hprepare⟩
        · rw [Prog.bind_ok hprepare]
          obtain ⟨hcap, htail⟩ := prepareEa_ok P hprepare
          rcases scp03WrapCommand_cases P s eaPlain st₁ with
            ⟨e, he⟩ | ⟨_, _, _, _, _, _, ea, _, _, _, _, hok⟩
          · exact .inl ⟨_, Prog.bind_error (ofBackend_error he)⟩
          · exact .inr ⟨iu.iParam, level, iu.kvn, eaPlain, ea, _, hcap, htail, hok,
              Prog.bind_ok (ofBackend_eq_ok.mpr hok)⟩
        · exact .inl ⟨e, Prog.bind_error hprepare⟩

/-- What stands behind a successful `begin`: the response parsed, the key version
    is the pinned one, and what was derived, prepared and wrapped from it. -/
theorem begin_eq_ok {staticEnc staticMac : KeyHandle} {kvnExpected requested : UInt8}
    {hostChallenge aid iuResponse ea : List UInt8} {state : Scp03State}
    {st st' : RustCryptoBackend P ρ} :
    begin staticEnc staticMac kvnExpected requested hostChallenge aid iuResponse st =
        (.ok (state, ea), st') ↔
      ∃ iu s level eaPlain, ∃ st₁ : RustCryptoBackend P ρ, parseIuResponse iuResponse = .ok iu ∧
        (kvnExpected ≠ 0x00 → iu.kvn = kvnExpected) ∧
        scp03DeriveSession P staticEnc staticMac iu.mode hostChallenge iu.cardChallenge st =
          (.ok s, st₁) ∧
        prepareEa s staticEnc requested hostChallenge aid iu st₁ = (.ok (level, eaPlain), st₁) ∧
        scp03WrapCommand P s eaPlain st₁ = (.ok ea, st') ∧
        state = ⟨s, iu.iParam, level, iu.kvn⟩ := by
  unfold begin
  simp only [Prog.bind_eq_ok, Prog.lift_eq_ok]
  constructor
  · rintro ⟨iu, s₀, ⟨hparse, rfl⟩, h⟩
    split at h
    · cases h
    · next hkvn =>
      obtain ⟨s, st₁, hderive, h⟩ := Prog.bind_eq_ok.mp h
      obtain ⟨⟨level, eaPlain⟩, st₂, hprepare, h⟩ := Prog.bind_eq_ok.mp h
      obtain ⟨ea', st₃, hwrap, h⟩ := Prog.bind_eq_ok.mp h
      obtain ⟨hpair, rfl⟩ := Prod.mk.inj h
      obtain ⟨rfl, rfl⟩ := Prod.mk.inj (Except.ok.inj hpair)
      obtain ⟨-, -, -, -, rfl⟩ := (prepareEa_eq_ok P).mp hprepare
      refine ⟨iu, s, level, eaPlain, st₂, hparse, ?_, ofBackend_eq_ok.mp hderive, hprepare,
        ofBackend_eq_ok.mp hwrap, rfl⟩
      intro hpin
      by_contra hne
      exact hkvn ⟨hpin, hne⟩
  · rintro ⟨iu, s, level, eaPlain, st₁, hparse, hpin, hderive, hprepare, hwrap, rfl⟩
    refine ⟨iu, st, ⟨hparse, rfl⟩, ?_⟩
    rw [if_neg (fun h => h.2 (hpin h.1))]
    exact Prog.bind_eq_ok.mpr ⟨s, st₁, ofBackend_eq_ok.mpr hderive, Prog.bind_eq_ok.mpr
      ⟨(level, eaPlain), st₁, hprepare, Prog.bind_eq_ok.mpr
        ⟨ea, st', ofBackend_eq_ok.mpr hwrap, rfl⟩⟩⟩

/-- A `begin` that cannot derive a session leaves the backend as it was. -/
theorem begin_refuses {staticEnc staticMac : KeyHandle} {kvnExpected requested : UInt8}
    {hostChallenge aid iuResponse : List UInt8} {st : RustCryptoBackend P ρ}
    (h : ∀ iu, parseIuResponse iuResponse = .ok iu → (kvnExpected ≠ 0x00 → iu.kvn = kvnExpected) →
      ∃ e, scp03DeriveSession P staticEnc staticMac iu.mode hostChallenge iu.cardChallenge st =
        (.error e, st)) :
    ∃ e, begin staticEnc staticMac kvnExpected requested hostChallenge aid iuResponse st =
      (.error e, st) := by
  unfold begin
  cases hiu : parseIuResponse iuResponse with
  | error e => exact ⟨e, rfl⟩
  | ok iu =>
    rw [Prog.bind_ok (Prog.lift_run (.ok iu) st)]
    split
    · exact ⟨_, rfl⟩
    · next hpin =>
      obtain ⟨e, he⟩ := h iu hiu (fun hne => by_contra fun hkvn => hpin ⟨hne, hkvn⟩)
      exact ⟨_, Prog.bind_error (ofBackend_error he)⟩

end Scp03

/-! ### SCP02 -/

namespace Scp02

/-! ### The INITIALIZE UPDATE response -/

/-- `bytes` is `KDD(10) KVN 02 counter(2) challenge(6) cryptogram(8)`. -/
def IuLayout (bytes : List UInt8) (iu : IuResponse) : Prop :=
  ∃ kdd, kdd.length = 10 ∧ bytes = kdd ++ iu.kvn :: SCP_ID_SCP02 ::
    (iu.seqCounter.val ++ (iu.cardChallenge.val ++ iu.cardCryptogram.val))

theorem parseIuResponse_of_layout {bytes : List UInt8} {iu : IuResponse} (h : IuLayout bytes iu) :
    parseIuResponse bytes = .ok iu := by
  obtain ⟨kvn, seq, challenge, cryptogram⟩ := iu
  obtain ⟨kdd, hkdd, rfl⟩ := h
  have hseq := seq.property
  have hchallenge := challenge.property
  have hcryptogram := cryptogram.property
  unfold parseIuResponse
  rw [if_neg (by simp [hkdd, hseq, hchallenge, hcryptogram, IU_RESPONSE_LEN]),
    List.drop_left' hkdd]
  dsimp only
  rw [if_neg (by simp)]
  congr 1
  have hdrop : (seq.val ++ (challenge.val ++ cryptogram.val)).drop 8 = cryptogram.val := by
    rw [← List.append_assoc, List.drop_left' (by rw [List.length_append]; omega)]
  simp only [IuResponse.mk.injEq, true_and]
  refine ⟨Block.ofOctets_append seq _, ?_, ?_⟩
  · rw [List.drop_left' hseq, Block.ofOctets_append]
  · rw [hdrop, Block.ofOctets_val]

theorem parseIuResponse_ok {bytes : List UInt8} {iu : IuResponse}
    (h : parseIuResponse bytes = .ok iu) : IuLayout bytes iu := by
  unfold parseIuResponse at h
  by_cases hlen : bytes.length = IU_RESPONSE_LEN
  · rw [if_neg (not_not.mpr hlen)] at h
    split at h
    · next kvn scpId rest hdrop =>
      split at h
      · cases h
      · next hid =>
        obtain rfl := Except.ok.inj h
        obtain rfl := not_not.mp hid
        have hcut := congrArg List.length hdrop
        simp only [List.length_drop, List.length_cons, IU_RESPONSE_LEN] at hcut hlen
        refine ⟨bytes.take 10, List.length_take_of_le (by omega), ?_⟩
        have htail : (Block.ofOctets 2 rest).val ++ ((Block.ofOctets 6 (rest.drop 2)).val ++
            (Block.ofOctets 8 (rest.drop 8)).val) = rest := by
          rw [Block.val_ofOctets_of_le (by omega),
            Block.val_ofOctets_of_le (by rw [List.length_drop]; omega),
            Block.val_ofOctets (by rw [List.length_drop]; omega),
            show rest.drop 8 = (rest.drop 2).drop 6 by rw [List.drop_drop], List.take_append_drop,
            List.take_append_drop]
        rw [htail, ← hdrop, List.take_append_drop]
    · cases h
  · rw [if_pos hlen] at h
    cases h

/-! ### The host side -/

theorem eaPlaintext_eq_ok {level : UInt8} {cryptogram : Block 8} {apdu : List UInt8}
    (h : eaPlaintext level cryptogram = .ok apdu) :
    apdu = 0x84 :: Scp03.INS_EXTERNAL_AUTHENTICATE :: level :: 0x00 :: 0x08 :: cryptogram.val := by
  obtain ⟨head, hhead, h⟩ := bind_eq_ok.mp h
  obtain ⟨rfl, -⟩ := extend_eq_ok.mp hhead
  obtain ⟨rfl, -⟩ := extend_eq_ok.mp h
  rfl

theorem eaPlaintext_eq (level : UInt8) (cryptogram : Block 8) :
    eaPlaintext level cryptogram = .ok (0x84 :: Scp03.INS_EXTERNAL_AUTHENTICATE :: level :: 0x00 ::
      0x08 :: cryptogram.val) := by
  have hlen := cryptogram.property
  unfold eaPlaintext
  refine bind_eq_ok.mpr ⟨_, extend_eq_ok.mpr ⟨rfl, by simp [CAPDU_MAX]⟩,
    extend_eq_ok.mpr ⟨rfl, ?_⟩⟩
  simp [CAPDU_MAX, hlen]

/-! ### What the host has checked -/

theorem prepareEa_eq_ok {session : Scp02Session} {iParam requested level : UInt8}
    {hostChallenge : Block 8} {eaPlain : List UInt8} {iu : IuResponse}
    {st st' : RustCryptoBackend P ρ} :
    prepareEa session iParam requested hostChallenge iu st = (.ok (level, eaPlain), st') ↔
      scp02CardCryptogram P session hostChallenge (cardCh8 iu) st = .ok iu.cardCryptogram ∧
      capSecurityLevel iParam requested = .ok level ∧
      (∃ cryptogram, scp02HostCryptogram P session hostChallenge (cardCh8 iu) st = .ok cryptogram ∧
        eaPlaintext level cryptogram = .ok eaPlain) ∧
      st' = st := by
  unfold prepareEa
  simp only [Prog.bind_eq_ok, ofBackend_eq_ok, Prog.lift_eq_ok]
  constructor
  · rintro ⟨expected, s₁, hcard, ⟨⟩, s₂, hverify, level', s₄, ⟨hlevel, rfl⟩, cryptogram, s₅, hhost,
      eaPlain', s₆, ⟨hplain, rfl⟩, hpure⟩
    obtain ⟨hcard', rfl⟩ := Prog.query_eq_ok.mp hcard
    obtain ⟨hexpected, rfl⟩ := (Scp03.verify_eq_ok P).mp hverify
    obtain rfl := Subtype.ext hexpected
    obtain ⟨hhost', rfl⟩ := Prog.query_eq_ok.mp hhost
    obtain ⟨hpair, rfl⟩ := Prod.mk.inj hpure
    obtain ⟨rfl, rfl⟩ := Prod.mk.inj (Except.ok.inj hpair)
    exact ⟨hcard', hlevel, ⟨cryptogram, hhost', hplain⟩, rfl⟩
  · rintro ⟨hcard, hlevel, ⟨cryptogram, hhost, hplain⟩, rfl⟩
    exact ⟨iu.cardCryptogram, st', Prod.ext hcard rfl, (), st',
      (Scp03.verify_eq_ok P).mpr ⟨rfl, rfl⟩, level, st', ⟨hlevel, rfl⟩, cryptogram, st',
      Prod.ext hhost rfl, eaPlain, st', ⟨hplain, rfl⟩, rfl⟩

/-! ### Opening -/

/-- What stands behind a successful `begin`. -/
theorem begin_eq_ok {baseEnc baseMac baseDek : KeyHandle} {iParam kvnExpected requested : UInt8}
    {hostChallenge : Block 8} {iuResponse ea : List UInt8} {state : Scp02State}
    {st st' : RustCryptoBackend P ρ} :
    begin baseEnc baseMac baseDek iParam kvnExpected requested hostChallenge iuResponse st =
        (.ok (state, ea), st') ↔
      ∃ iu s level eaPlain, ∃ st₁ : RustCryptoBackend P ρ, parseIuResponse iuResponse = .ok iu ∧
        (kvnExpected ≠ 0x00 → iu.kvn = kvnExpected) ∧
        scp02DeriveSession P baseEnc baseMac baseDek iu.seqCounter st = (.ok s, st₁) ∧
        prepareEa s iParam requested hostChallenge iu st₁ = (.ok (level, eaPlain), st₁) ∧
        scp02WrapCommand P s eaPlain st₁ = (.ok ea, st') ∧
        state = ⟨s, iParam, level, iu.kvn⟩ := by
  unfold begin
  simp only [Prog.bind_eq_ok, Prog.lift_eq_ok]
  constructor
  · rintro ⟨iu, s₀, ⟨hparse, rfl⟩, h⟩
    split at h
    · cases h
    · next hkvn =>
      obtain ⟨s, st₁, hderive, h⟩ := Prog.bind_eq_ok.mp h
      obtain ⟨⟨level, eaPlain⟩, st₂, hprepare, h⟩ := Prog.bind_eq_ok.mp h
      obtain ⟨ea', st₃, hwrap, h⟩ := Prog.bind_eq_ok.mp h
      obtain ⟨hpair, rfl⟩ := Prod.mk.inj h
      obtain ⟨rfl, rfl⟩ := Prod.mk.inj (Except.ok.inj hpair)
      obtain ⟨-, -, -, rfl⟩ := (prepareEa_eq_ok P).mp hprepare
      refine ⟨iu, s, level, eaPlain, st₂, hparse, ?_, ofBackend_eq_ok.mp hderive, hprepare,
        ofBackend_eq_ok.mp hwrap, rfl⟩
      intro hpin
      by_contra hne
      exact hkvn ⟨hpin, hne⟩
  · rintro ⟨iu, s, level, eaPlain, st₁, hparse, hpin, hderive, hprepare, hwrap, rfl⟩
    refine ⟨iu, st, ⟨hparse, rfl⟩, ?_⟩
    rw [if_neg (fun h => h.2 (hpin h.1))]
    exact Prog.bind_eq_ok.mpr ⟨s, st₁, ofBackend_eq_ok.mpr hderive, Prog.bind_eq_ok.mpr
      ⟨(level, eaPlain), st₁, hprepare, Prog.bind_eq_ok.mpr
        ⟨ea, st', ofBackend_eq_ok.mpr hwrap, rfl⟩⟩⟩

/-- A `begin` that cannot derive a session leaves the backend as it was. -/
theorem begin_refuses {baseEnc baseMac baseDek : KeyHandle} {iParam kvnExpected requested : UInt8}
    {hostChallenge : Block 8} {iuResponse : List UInt8} {st : RustCryptoBackend P ρ}
    (h : ∀ iu, parseIuResponse iuResponse = .ok iu → (kvnExpected ≠ 0x00 → iu.kvn = kvnExpected) →
      ∃ e, scp02DeriveSession P baseEnc baseMac baseDek iu.seqCounter st = (.error e, st)) :
    ∃ e, begin baseEnc baseMac baseDek iParam kvnExpected requested hostChallenge iuResponse st =
      (.error e, st) := by
  unfold begin
  cases hiu : parseIuResponse iuResponse with
  | error e => exact ⟨e, rfl⟩
  | ok iu =>
    rw [Prog.bind_ok (Prog.lift_run (.ok iu) st)]
    split
    · exact ⟨_, rfl⟩
    · next hpin =>
      obtain ⟨e, he⟩ := h iu hiu (fun hne => by_contra fun hkvn => hpin ⟨hne, hkvn⟩)
      exact ⟨_, Prog.bind_error (ofBackend_error he)⟩

end Scp02

end Scll
