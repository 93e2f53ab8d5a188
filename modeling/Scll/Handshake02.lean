import Scll.Card.Domain02
import Scll.LockStep02
import Scll.MutualAuth

/-! # An honest SCP02 card is let in

    As for SCP03. The session keys are one CBC over a constant and the counter of
    the card, the cryptograms full 3DES MACs over counter and challenges, and
    EXTERNAL AUTHENTICATE starts both MAC chains.
-/

namespace Scll

open Octets BlockMode

namespace Workflow

variable (P : Primitives) {ρ : Type}

/-! ### Keys and cryptograms -/

/-- A session key is the card's. -/
theorem deriveOne_eq (base : TdesKey) {constant : List UInt8} (hconstant : constant.length = 2)
    (seq : Block 2) :
    Scp02.deriveOne P base constant seq.val = .ok (Scp02Domain.derive P base constant seq) := by
  have hbuf : (constant ++ seq.val ++ List.replicate 12 0x00).length = 16 := by
    rw [List.length_append, List.length_append, hconstant, seq.property, List.length_replicate]
  have hout : (encryptOctets (P.tdesEde2 base.val) (Block.zero 8)
      (constant ++ seq.val ++ List.replicate 12 0x00)).length =
      (constant ++ seq.val ++ List.replicate 12 0x00).length :=
    length_encryptOctets _ _ (by rw [hbuf]; decide)
  unfold Scp02.deriveOne tdesCbcEncrypt
  dsimp only
  rw [if_neg (not_not.mpr base.property), encryptPaddedMut_eq _ _ (by omega) (by decide),
    okOr_some, ok_bind, List.take_of_length_le (by omega)]
  have hwhole : overwrite (constant ++ seq.val ++ List.replicate 12 0x00) 0
      (encryptOctets (P.tdesEde2 base.val) (Block.zero 8)
        (constant ++ seq.val ++ List.replicate 12 0x00)) =
      encryptOctets (P.tdesEde2 base.val) (Block.zero 8)
        (constant ++ seq.val ++ List.replicate 12 0x00) := by
    unfold overwrite
    rw [List.take_zero, List.nil_append, Nat.zero_add, hout, List.drop_length, List.append_nil]
  rw [hwhole]
  rfl

variable {P} {sd : Scp02Domain P}

theorem scp02SessionKeys_honest {st : BackendState ρ} {baseEnc baseMac baseDek : KeyHandle}
    (henc : Scp02.readTdesKey st baseEnc = .ok sd.enc)
    (hmac : Scp02.readTdesKey st baseMac = .ok sd.mac)
    (hdek : Scp02.readTdesKey st baseDek = .ok sd.dek) :
    scp02SessionKeys P st baseEnc baseMac baseDek sd.sequence =
      .ok (sd.card.sEnc, sd.card.sMac, sd.card.sRmac, sd.sDek) := by
  unfold scp02SessionKeys
  rw [henc, ok_bind, hmac, ok_bind, hdek, ok_bind, deriveOne_eq P _ rfl, ok_bind,
    deriveOne_eq P _ rfl, ok_bind, deriveOne_eq P _ rfl, ok_bind, deriveOne_eq P _ rfl, ok_bind]
  rfl

/-- A cryptogram of the host is the full MAC over what it is given. -/
theorem scp02Cryptogram_honest {st : BackendState ρ} {s : Scp02Session} {sDek : TdesKey}
    (hslot : st.scp02Sessions.get s.index.toNat = some
      (Scp02.fresh sd.card.sEnc sd.card.sMac sd.card.sRmac sDek)) (head tail : Block 8) :
    scp02Cryptogram P s head.val tail.val st =
      .ok (tdesCbcMac P sd.sEnc.val (Block.zero 8) (head.val ++ tail.val)) := by
  have hlen : (head.val ++ tail.val).length = 16 := by
    rw [List.length_append, head.property, tail.property]
  unfold scp02Cryptogram
  rw [hslot, okOr_some, ok_bind, if_neg (by rw [head.property, tail.property]; omega)]
  exact tdesMac_eq P sd.sEnc _ (by rw [hlen, List.length_replicate])

/-- What the host reads in the card's response. -/
def iuResponse02 (sd : Scp02Domain P) (hostChallenge : List UInt8) : Scp02.IuResponse where
  kvn := sd.kvn
  seqCounter := sd.sequence
  cardChallenge := sd.challenge
  cardCryptogram := sd.cardCryptogram hostChallenge

theorem layout_response02 (sd : Scp02Domain P) (hostChallenge : List UInt8) :
    Scp02.IuLayout (sd.response hostChallenge) (iuResponse02 sd hostChallenge) := by
  refine ⟨sd.kdd.val, sd.kdd.property, ?_⟩
  unfold Scp02Domain.response iuResponse02
  simp [Scp02.SCP_ID_SCP02]

theorem length_response02 (sd : Scp02Domain P) (hostChallenge : List UInt8) :
    (sd.response hostChallenge).length = 28 := by
  unfold Scp02Domain.response
  simp only [List.length_append, List.length_cons, List.length_nil, sd.kdd.property,
    sd.sequence.property, sd.challenge.property, (sd.cardCryptogram hostChallenge).property]

theorem val_cardCh8 (sd : Scp02Domain P) (hostChallenge : List UInt8) :
    (Scp02.cardCh8 (iuResponse02 sd hostChallenge)).val = sd.sequence.val ++ sd.challenge.val :=
  Block.val_ofOctets (by
    rw [List.length_append]
    exact congrArg₂ (· + ·) sd.sequence.property sd.challenge.property)

/-- The cap of a requested level with C-MAC is a level the card offers. -/
theorem capSecurityLevel02_honest {requested : UInt8} (hlevel : requested &&& 0x01 ≠ 0) :
    ∃ level, Scp02.capSecurityLevel 0x55 requested = .ok level ∧ Scp02Domain.LevelOffered level := by
  have hallowed : Scp02.allowedLevel 0x55 = 0x13 := rfl
  have hbit : requested &&& 0x13 &&& 0x01 ≠ 0 := by
    rw [UInt8.and_assoc]
    exact hlevel
  have hrenc : requested &&& 0x13 &&& 0x20 = 0 := by
    rw [UInt8.and_assoc]
    exact UInt8.and_zero
  refine ⟨requested &&& 0x13, ?_, hbit, hrenc⟩
  unfold Scp02.capSecurityLevel
  rw [hallowed]
  apply if_neg
  intro hzero
  rw [hzero] at hbit
  exact hbit rfl

/-! ### EXTERNAL AUTHENTICATE -/

/-- EXTERNAL AUTHENTICATE from a fresh slot, and the card that receives it. -/
theorem wrapSlot02_honest {card : Scp02Card} {slot : Scp02SessionSlot} {level : UInt8}
    (hostCryptogram : Block 8) (hstep : LockStep02.InStep slot card) (hauth : slot.authed = false)
    (hlevel : level &&& 0x01 ≠ 0) :
    ∃ lc rest slot' card',
      Scp02.wrapSlot P slot 0x84 EXTERNAL_AUTHENTICATE level 0x00 (0x08 :: hostCryptogram.val) =
        .ok (secureCla 0x84 :: EXTERNAL_AUTHENTICATE :: level :: 0x00 :: lc :: rest, slot') ∧
      card.receive P
        (secureCla 0x84 :: EXTERNAL_AUTHENTICATE :: level :: 0x00 :: lc :: rest) =
        some (⟨EXTERNAL_AUTHENTICATE, level, 0x00, hostCryptogram.val⟩, card') ∧
      LockStep02.InStep slot' card' ∧ slot'.authed = true ∧ slot'.level = level ∧
      slot'.sDek = slot.sDek := by
  have hdata : commandData (0x08 :: hostCryptogram.val) = .ok (hostCryptogram.val, []) := by
    have hlen := hostCryptogram.property
    have hlc : (0x08 : UInt8).toNat = hostCryptogram.val.length := by rw [hlen]; rfl
    unfold commandData
    dsimp only
    rw [hlc, if_neg (by omega), List.take_length, List.drop_length]
  have hbody : Scp02.wireBody P slot hostCryptogram.val = hostCryptogram.val := by
    unfold Scp02.wireBody
    rw [hauth]
    rfl
  have hwrapped : ∃ out, Scp02.wrapSlot P slot 0x84 EXTERNAL_AUTHENTICATE level 0x00
      (0x08 :: hostCryptogram.val) = .ok out :=
    Scp02.wrapSlot_of_fits P (fun _ => rfl) hdata (by rw [hbody, hostCryptogram.property]; decide)
  obtain ⟨⟨out, slot'⟩, hwrap⟩ := hwrapped
  obtain ⟨card', hreceive, hauth', hstep', -⟩ :=
    LockStep02.receive_wrapSlot P hstep (fun _ => hlevel) hdata hwrap
  obtain ⟨_, _, lc, -, -, -, -, rfl, rfl⟩ := Scp02.wrapSlot_ok P hwrap
  refine ⟨lc, _, _, card', hwrap, hreceive, hstep', hauth', ?_, ?_⟩
  · simp [Scp02.commit, hauth]
  · simp [Scp02.commit, hauth]

theorem derive02_honest {baseEnc baseMac baseDek : KeyHandle} {st : BackendState ρ}
    (henc : Scp02.readTdesKey st baseEnc = .ok sd.enc)
    (hmac : Scp02.readTdesKey st baseMac = .ok sd.mac)
    (hdek : Scp02.readTdesKey st baseDek = .ok sd.dek)
    {i : Fin MAX_SESSION_SLOTS} (hfree : st.scp02Sessions.get i = none) :
    ∃ s st₁, scp02DeriveSession P baseEnc baseMac baseDek sd.sequence st = (.ok s, st₁) ∧
      st₁.scp02Sessions.get s.index.toNat = some
        (Scp02.fresh sd.card.sEnc sd.card.sMac sd.card.sRmac sd.sDek) := by
  have hsession := scp02SessionKeys_honest henc hmac hdek
  obtain ⟨s, st₁, hderive⟩ := scp02DeriveSession_of_free P hsession hfree
  obtain ⟨-, sEnc, sMac, sRmac, sDek, hderived, hslot⟩ := scp02DeriveSession_slot P hderive
  rw [hsession] at hderived
  obtain ⟨rfl, hrest⟩ := Prod.mk.inj (Except.ok.inj hderived)
  obtain ⟨rfl, hrest'⟩ := Prod.mk.inj hrest
  obtain ⟨rfl, rfl⟩ := Prod.mk.inj hrest'
  exact ⟨s, st₁, hderive, hslot⟩

/-- The host is content with what an honest card answered. -/
theorem prepareEa02_honest [RngCore ρ] {requested level : UInt8} {st : RustCryptoBackend P ρ}
    {s : Scp02Session} (hostChallenge : Block 8) {sDek : TdesKey}
    (hslot : st.scp02Sessions.get s.index.toNat = some
      (Scp02.fresh sd.card.sEnc sd.card.sMac sd.card.sRmac sDek))
    (hcap : Scp02.capSecurityLevel 0x55 requested = .ok level) :
    Scp02.prepareEa s 0x55 requested hostChallenge (iuResponse02 sd hostChallenge.val) st =
      (.ok (level, 0x84 :: EXTERNAL_AUTHENTICATE :: level :: 0x00 :: 0x08 ::
        (sd.hostCryptogram hostChallenge.val).val), st) := by
  have hch := val_cardCh8 sd hostChallenge.val
  apply (Scp02.prepareEa_eq_ok P).mpr
  refine ⟨?_, hcap, ⟨sd.hostCryptogram hostChallenge.val, ?_, Scp02.eaPlaintext_eq level _⟩, rfl⟩
  · unfold scp02CardCryptogram
    rw [scp02Cryptogram_honest hslot, hch, ← List.append_assoc]
    rfl
  · unfold scp02HostCryptogram
    rw [scp02Cryptogram_honest hslot, hch]
    rfl

/-- Past the answer of an honest card, `begin` wraps an EXTERNAL AUTHENTICATE
    that the card verifies, and the new slot is in step with it. -/
theorem begin02_honest [RngCore ρ] {baseEnc baseMac baseDek : KeyHandle} {kvn requested : UInt8}
    (st : RustCryptoBackend P ρ) (henc : Scp02.readTdesKey st baseEnc = .ok sd.enc)
    (hmac : Scp02.readTdesKey st baseMac = .ok sd.mac)
    (hdek : Scp02.readTdesKey st baseDek = .ok sd.dek)
    (hkvn : kvn = 0x00 ∨ kvn = sd.kvn) (hlevel : requested &&& 0x01 ≠ 0)
    (hostChallenge : Block 8) {i : Fin MAX_SESSION_SLOTS}
    (hfree : st.scp02Sessions.get i = none) :
    ∃ state lc rest card, ∃ st' : RustCryptoBackend P ρ,
      Scp02.begin baseEnc baseMac baseDek 0x55 kvn requested hostChallenge
        (sd.response hostChallenge.val) st =
        (.ok (state, secureCla 0x84 :: EXTERNAL_AUTHENTICATE :: state.securityLevel :: 0x00 ::
          lc :: rest), st') ∧
      Scp02Domain.LevelOffered state.securityLevel ∧
      sd.card.receive P (secureCla 0x84 :: EXTERNAL_AUTHENTICATE :: state.securityLevel :: 0x00 ::
          lc :: rest) =
        some (⟨EXTERNAL_AUTHENTICATE, state.securityLevel, 0x00,
          (sd.hostCryptogram hostChallenge.val).val⟩, card) ∧
      LockStep02.Agree state.session st' card ∧ card.level = state.securityLevel ∧
      (st'.scp02Sessions.get state.session.index.toNat).map Scp02SessionSlot.sDek =
        some sd.sDek := by
  -- what `begin` comes to: the level, the slot, and the command it wraps
  obtain ⟨level, hcap, hoffered⟩ := capSecurityLevel02_honest hlevel
  obtain ⟨s, st₁, hderive, hslot⟩ := derive02_honest henc hmac hdek hfree
  obtain ⟨lc, rest, slot', card, hwrap, hreceive, hstep, hauth, hlatched, hdek'⟩ :=
    wrapSlot02_honest (P := P) (sd.hostCryptogram hostChallenge.val)
      (LockStep02.fresh_inStep _ _ _ sd.sDek) rfl hoffered.1
  have hwrapped : scp02WrapCommand P s (0x84 :: EXTERNAL_AUTHENTICATE :: level :: 0x00 :: 0x08 ::
      (sd.hostCryptogram hostChallenge.val).val) st₁ =
        (.ok (secureCla 0x84 :: EXTERNAL_AUTHENTICATE :: level :: 0x00 :: lc :: rest),
        { st₁ with scp02Sessions := st₁.scp02Sessions.set s.index.toNat (some slot') }) := by
    unfold scp02WrapCommand
    dsimp only
    rw [hslot]
    dsimp only
    rw [hwrap]
  have hget : (st₁.scp02Sessions.set s.index.toNat (some slot')).get s.index.toNat = some slot' :=
    SlotTable.get_set_self (SlotTable.lt_of_get hslot) _
  refine ⟨⟨s, 0x55, level, sd.kvn⟩, lc, rest, card, _, (Scp02.begin_eq_ok P).mpr
    ⟨iuResponse02 sd hostChallenge.val, s, level, _, st₁,
      Scp02.parseIuResponse_of_layout (layout_response02 sd hostChallenge.val), ?_, hderive,
      prepareEa02_honest hostChallenge hslot hcap, hwrapped, rfl⟩, hoffered, hreceive, ?_, ?_, ?_⟩
  · intro hpin
    exact (hkvn.resolve_left hpin).symm
  · exact ⟨slot', hget, hauth, hstep⟩
  · rw [← hstep.level]
    exact hlatched
  · show ((st₁.scp02Sessions.set s.index.toNat (some slot')).get s.index.toNat).map _ = _
    rw [hget, Option.map_some, hdek']
    rfl

end Workflow

end Scll
