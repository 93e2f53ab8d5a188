import Scll.CryptoSpec
import Scll.Backend.Scp03

/-! # What wrapping and unwrapping compute

    One lemma for each function over an SCP03 slot, free of buffers. A wrapped
    command is `header ‖ body ‖ MAC ‖ Le`; a verified response is
    `data ‖ MAC ‖ SW`; everything later is derived from `wrapSlot_ok`,
    `verifyRmac_eq_ok` and `unwrapInner_append`.
-/

namespace Scll

open Octets BlockMode

variable (P : Primitives) {ρ : Type}

/-! ### Buffers -/

theorem push_eq_ok {cap : ℕ} {v src out : List UInt8} :
    push cap v src = .ok out ↔ out = v ++ src ∧ out.length ≤ cap := extend_eq_ok

theorem push_of_fits {cap : ℕ} {v src : List UInt8} (h : v.length + src.length ≤ cap) :
    push cap v src = .ok (v ++ src) := by
  rw [push_eq_ok]
  exact ⟨rfl, by rw [List.length_append]; exact h⟩

theorem ecbIcv_eq (key : AesKey) (counter : UInt32) (response : Bool) :
    ecbIcv P key counter response = .ok (P.aes key.val (counterBlock counter response)) :=
  aesEcbBlock_eq P key _

theorem aesCmac_eq (key : AesKey) (data : List UInt8) :
    aesCmac P key.val data = .ok (P.aesCmac key.val data) := perAes_key key _

/-! ### Wrapping -/

/-- The command data under C-DECRYPTION with the ICV of `counter`. -/
def commandCipher (slot : Scp03SessionSlot) (counter : UInt32) (data : List UInt8) : List UInt8 :=
  encryptOctets (P.aes slot.sEnc.val) (P.aes slot.sEnc.val (counterBlock counter false))
    (pad 16 data)

theorem encryptCommand_eq {slot : Scp03SessionSlot} {counter : UInt32} {data : List UInt8}
    (h : data.length ≤ 255) :
    encryptCommand P slot counter data = .ok (commandCipher P slot counter data) := by
  have hmod := Nat.mod_lt data.length (show 0 < 16 by decide)
  have hfits : data.length + (16 - data.length % 16) ≤
      (List.replicate CAPDU_MAX (0 : UInt8)).length := by
    rw [List.length_replicate]
    show _ ≤ 261
    omega
  obtain ⟨buf, hpad, -, -, ct, hct, htake⟩ := pad_encrypt_scratch (show 0 < 16 by decide)
    (P.aes slot.sEnc.val) (P.aes slot.sEnc.val (counterBlock counter false)) hfits
  have hbuf : pad80 (overwrite (List.replicate CAPDU_MAX 0) 0 data) data.length =
      .ok (buf, (pad 16 data).length) := hpad
  have hmax : ¬ data.length > CAPDU_MAX := by
    show ¬ data.length > 261
    omega
  rw [encryptCommand, if_neg hmax]
  simp only [hbuf, ok_bind, ecbIcv_eq, aesCbcEncrypt, perAes_key, hct, okOr_some, htake]
  rfl

/-- What the body of a wrapped command is, and what becomes of counter and level. -/
theorem commandBody_ok {slot : Scp03SessionSlot} {ins p1 level : UInt8} {counter : UInt32}
    {data body : List UInt8} (hlen : data.length ≤ 255)
    (h : commandBody P slot ins p1 data = .ok (body, counter, level)) :
    (slot.authed = false ∧ ins = EXTERNAL_AUTHENTICATE ∧ body = data ∧ counter = slot.counter ∧
      level = p1) ∨
    (slot.authed = true ∧ counter.toNat = slot.counter.toNat + 1 ∧ level = slot.level ∧
      body = if slot.level &&& SL_CENC ≠ 0 ∧ data ≠ [] then commandCipher P slot counter data
        else data) := by
  unfold commandBody at h
  -- before authentication only EXTERNAL AUTHENTICATE passes, in clear and uncounted
  by_cases hauth : slot.authed = true
  · rw [if_pos hauth] at h
    obtain ⟨c, hc, h⟩ := bind_eq_ok.mp h
    have hcount : c.toNat = slot.counter.toNat + 1 := by
      unfold checkedSucc at hc
      split at hc
      · next hlt =>
        obtain rfl := Except.ok.inj hc
        rw [UInt32.toNat_add]
        exact Nat.mod_eq_of_lt hlt
      · cases hc
    right
    split at h
    · next henc =>
      rw [encryptCommand_eq P hlen] at h
      injection h with h
      injection h with hbody h
      injection h with hcounter hlevel
      subst hcounter
      exact ⟨hauth, hcount, hlevel.symm, by rw [if_pos henc]; exact hbody.symm⟩
    · next hplain =>
      injection h with h
      injection h with hbody h
      injection h with hcounter hlevel
      subst hcounter
      exact ⟨hauth, hcount, hlevel.symm, by rw [if_neg hplain]; exact hbody.symm⟩
  · rw [if_neg hauth] at h
    left
    split at h
    · cases h
    · next hea =>
      injection h with h
      injection h with hbody h
      injection h with hcounter hlevel
      exact ⟨Bool.eq_false_iff.mpr hauth, not_not.mp hea, hbody.symm, hcounter.symm,
        hlevel.symm⟩

/-- The C-MAC of a command, over the chaining value and the wire header and body. -/
def commandMac (slot : Scp03SessionSlot) (header body : List UInt8) : Block 16 :=
  P.aesCmac slot.sMac.val (slot.chain.val ++ header ++ body)

/-- Everything a successful wrap says: the wire command and the slot after it. -/
theorem wrapSlot_ok {slot slot' : Scp03SessionSlot} {cla ins p1 p2 : UInt8}
    {rest out : List UInt8} (h : wrapSlot P slot cla ins p1 p2 rest = .ok (out, slot')) :
    ∃ data le body counter level lc, commandData rest = .ok (data, le) ∧
      commandBody P slot ins p1 data = .ok (body, counter, level) ∧
      body.length + slot.mode.macLen ≤ 255 ∧ lc.toNat = body.length + slot.mode.macLen ∧
      out = [secureCla cla, ins, p1, p2, lc] ++ body ++
        (commandMac P slot [secureCla cla, ins, p1, p2, lc] body).val.take slot.mode.macLen ++
        le ∧
      slot' = { slot with
        chain := commandMac P slot [secureCla cla, ins, p1, p2, lc] body
        counter := counter
        level := level
        authed := true } := by
  unfold wrapSlot at h
  obtain ⟨⟨data, le⟩, hdata, h⟩ := bind_eq_ok.mp h
  obtain ⟨⟨body, counter, level⟩, hbody, h⟩ := bind_eq_ok.mp h
  obtain ⟨lc, hlc, h⟩ := bind_eq_ok.mp h
  obtain ⟨m₁, hm₁, h⟩ := bind_eq_ok.mp h
  obtain ⟨m₂, hm₂, h⟩ := bind_eq_ok.mp h
  obtain ⟨m₃, hm₃, h⟩ := bind_eq_ok.mp h
  obtain ⟨full, hfull, h⟩ := bind_eq_ok.mp h
  obtain ⟨o₁, ho₁, h⟩ := bind_eq_ok.mp h
  obtain ⟨o₂, ho₂, h⟩ := bind_eq_ok.mp h
  obtain ⟨o₃, ho₃, h⟩ := bind_eq_ok.mp h
  obtain ⟨o₄, ho₄, h⟩ := bind_eq_ok.mp h
  injection h with h
  injection h with hout hslot
  obtain ⟨hmax, hlcn⟩ := lcPlusMac_eq_ok.mp hlc
  obtain ⟨rfl, -⟩ := push_eq_ok.mp hm₁
  obtain ⟨rfl, -⟩ := push_eq_ok.mp hm₂
  obtain ⟨rfl, -⟩ := push_eq_ok.mp hm₃
  obtain ⟨rfl, -⟩ := push_eq_ok.mp ho₁
  obtain ⟨rfl, -⟩ := push_eq_ok.mp ho₂
  obtain ⟨rfl, -⟩ := push_eq_ok.mp ho₃
  obtain ⟨rfl, -⟩ := push_eq_ok.mp ho₄
  rw [aesCmac_eq] at hfull
  obtain rfl := Except.ok.inj hfull
  exact ⟨data, le, body, counter, level, lc, hdata, hbody, hmax, hlcn, hout.symm, hslot.symm⟩

theorem length_commandMac (slot : Scp03SessionSlot) (header body : List UInt8) :
    ((commandMac P slot header body).val.take slot.mode.macLen).length = slot.mode.macLen := by
  have := slot.mode.macLen_le
  rw [List.length_take, (commandMac P slot header body).property]
  omega

/-- A wrap that has room for everything. -/
theorem wrapSlot_of_body {slot : Scp03SessionSlot} {cla ins p1 p2 level : UInt8} {counter : UInt32}
    {rest data le body : List UInt8} (hdata : commandData rest = .ok (data, le))
    (hbody : commandBody P slot ins p1 data = .ok (body, counter, level)) (hle : le.length ≤ 1)
    (hfits : body.length + slot.mode.macLen ≤ 255) :
    ∃ out, wrapSlot P slot cla ins p1 p2 rest = .ok out := by
  have hchain := slot.chain.property
  have hlc : lcPlusMac body.length slot.mode.macLen =
      .ok (UInt8.ofNat (body.length + slot.mode.macLen)) := if_pos hfits
  have hcap : CAPDU_MAX = 261 := rfl
  unfold wrapSlot
  rw [hdata, ok_bind]
  dsimp only
  rw [hbody, ok_bind]
  dsimp only
  rw [hlc, ok_bind]
  generalize UInt8.ofNat (body.length + slot.mode.macLen) = lc
  -- the MAC input has room for the chaining value, the header and the body
  have hin₁ : push 320 [] slot.chain.val = .ok ([] ++ slot.chain.val) :=
    push_of_fits (by rw [hchain]; simp)
  have hin₂ : push 320 ([] ++ slot.chain.val) [secureCla cla, ins, p1, p2, lc] =
      .ok ([] ++ slot.chain.val ++ [secureCla cla, ins, p1, p2, lc]) :=
    push_of_fits (by simp [hchain])
  have hin₃ : push 320 ([] ++ slot.chain.val ++ [secureCla cla, ins, p1, p2, lc]) body =
      .ok ([] ++ slot.chain.val ++ [secureCla cla, ins, p1, p2, lc] ++ body) :=
    push_of_fits (by simp only [List.length_append, hchain, List.length_nil, List.length_cons]; omega)
  rw [hin₁, ok_bind, hin₂, ok_bind, hin₃, ok_bind, aesCmac_eq, ok_bind]
  have hlenMac := length_commandMac P slot [secureCla cla, ins, p1, p2, lc] body
  unfold commandMac at hlenMac
  rw [List.nil_append]
  generalize (P.aesCmac slot.sMac.val
    (slot.chain.val ++ [secureCla cla, ins, p1, p2, lc] ++ body)) = full at hlenMac ⊢
  -- and the command for the header, the body, the MAC and `Le`
  have hout₁ : push CAPDU_MAX [] [secureCla cla, ins, p1, p2, lc] =
      .ok ([] ++ [secureCla cla, ins, p1, p2, lc]) := push_of_fits (by simp [hcap])
  have hout₂ : push CAPDU_MAX ([] ++ [secureCla cla, ins, p1, p2, lc]) body =
      .ok ([] ++ [secureCla cla, ins, p1, p2, lc] ++ body) :=
    push_of_fits (by simp only [List.length_append, List.length_nil, List.length_cons, hcap]; omega)
  have hout₃ : push CAPDU_MAX ([] ++ [secureCla cla, ins, p1, p2, lc] ++ body)
      (full.val.take slot.mode.macLen) = .ok ([] ++ [secureCla cla, ins, p1, p2, lc] ++ body ++
        full.val.take slot.mode.macLen) :=
    push_of_fits (by
      simp only [List.length_append, List.length_nil, List.length_cons, hcap, hlenMac]
      omega)
  have hout₄ : push CAPDU_MAX ([] ++ [secureCla cla, ins, p1, p2, lc] ++ body ++
      full.val.take slot.mode.macLen) le = .ok ([] ++ [secureCla cla, ins, p1, p2, lc] ++ body ++
        full.val.take slot.mode.macLen ++ le) :=
    push_of_fits (by
      simp only [List.length_append, List.length_nil, List.length_cons, hcap, hlenMac]
      omega)
  rw [hout₁, ok_bind, hout₂, ok_bind, hout₃, ok_bind, hout₄, ok_bind]
  exact ⟨_, rfl⟩

/-! ### Unwrapping -/

/-- The R-MAC the host expects, over the chaining value, the wire data and SW. -/
def responseMac (slot : Scp03SessionSlot) (data sw : List UInt8) : List UInt8 :=
  (P.aesCmac slot.sRmac.val (slot.chain.val ++ data ++ sw)).val.take slot.mode.macLen

theorem length_responseMac (slot : Scp03SessionSlot) (data sw : List UInt8) :
    (responseMac P slot data sw).length = slot.mode.macLen := by
  have := slot.mode.macLen_le
  rw [responseMac, List.length_take, (P.aesCmac _ _).property]
  omega

/-- Verification accepts exactly the data with its R-MAC behind it. -/
theorem verifyRmac_eq_ok {slot : Scp03SessionSlot} {body sw data : List UInt8} :
    verifyRmac P slot body sw = .ok data ↔
      body = data ++ responseMac P slot data sw ∧ data.length + sw.length ≤ RAPDU_MAX := by
  have hmac := length_responseMac P slot
  constructor
  · intro h
    unfold verifyRmac at h
    split at h
    · cases h
    · next hlen =>
      obtain ⟨m₁, hm₁, h⟩ := bind_eq_ok.mp h
      obtain ⟨m₂, hm₂, h⟩ := bind_eq_ok.mp h
      obtain ⟨m₃, hm₃, h⟩ := bind_eq_ok.mp h
      obtain ⟨full, hfull, h⟩ := bind_eq_ok.mp h
      obtain ⟨rfl, -⟩ := push_eq_ok.mp hm₁
      obtain ⟨rfl, -⟩ := push_eq_ok.mp hm₂
      obtain ⟨rfl, hcap⟩ := push_eq_ok.mp hm₃
      rw [aesCmac_eq] at hfull
      obtain rfl := Except.ok.inj hfull
      split at h
      · next heq =>
        obtain rfl := Except.ok.inj h
        constructor
        · have heq' := ctEq_iff.mp heq
          rw [List.nil_append] at heq'
          rw [responseMac, heq', List.take_append_drop]
        · have := slot.chain.property
          simp only [List.length_append, List.length_nil] at hcap
          simp only [RAPDU_MAX, MAC_CHAIN_LEN] at hcap ⊢
          omega
      · cases h
  -- backwards: each of the three writes fits
  · intro ⟨hbody, hcap⟩
    subst hbody
    have hlen : (data ++ responseMac P slot data sw).length - slot.mode.macLen = data.length := by
      rw [List.length_append, hmac]
      omega
    have hchain := slot.chain.property
    simp only [RAPDU_MAX] at hcap
    have h₁ : push (RAPDU_MAX + MAC_CHAIN_LEN) [] slot.chain.val = .ok ([] ++ slot.chain.val) :=
      push_of_fits (by rw [List.length_nil, hchain]; decide)
    have h₂ : push (RAPDU_MAX + MAC_CHAIN_LEN) slot.chain.val data =
        .ok (slot.chain.val ++ data) :=
      push_of_fits (by rw [hchain]; show _ ≤ 274; omega)
    have h₃ : push (RAPDU_MAX + MAC_CHAIN_LEN) (slot.chain.val ++ data) sw =
        .ok (slot.chain.val ++ data ++ sw) :=
      push_of_fits (by rw [List.length_append, hchain]; show _ ≤ 274; omega)
    rw [verifyRmac, if_neg (by rw [List.length_append, hmac]; omega)]
    simp only [hlen, List.take_left, List.drop_left, h₁, List.nil_append, ok_bind, h₂, h₃,
      aesCmac_eq]
    have heq : ctEq ((P.aesCmac slot.sRmac.val (slot.chain.val ++ data ++ sw)).val.take
        slot.mode.macLen) (responseMac P slot data sw) = true := ctEq_iff.mpr rfl
    rw [if_pos heq]

/-- Decryption of R-ENC data, free of the scratch buffer. -/
theorem decryptResponse_eq {slot : Scp03SessionSlot} {data : List UInt8}
    (hdvd : 16 ∣ data.length) (hmax : data.length ≤ RAPDU_MAX) :
    decryptResponse P slot data =
      okOr (unpad (decryptOctets (P.aes slot.sEnc.val)
        (P.aes slot.sEnc.val (counterBlock slot.counter true)) data)) (cryptoErr "bad pad") := by
  have hmod : data.length % BLOCK = 0 := Nat.mod_eq_zero_of_dvd hdvd
  have hscratch : (overwrite (List.replicate RAPDU_MAX 0) 0 data).take data.length = data :=
    take_overwrite_front ..
  rw [decryptResponse, if_neg (not_not.mpr hmod), ecbIcv_eq, ok_bind, if_neg (by omega)]
  simp only [hscratch, aesCbcDecrypt, perAes_key, decryptPaddedMut_eq _ _ hdvd, okOr_some,
    ok_bind, unpad80_eq]
  cases hu : unpad (decryptOctets (P.aes slot.sEnc.val)
      (P.aes slot.sEnc.val (counterBlock slot.counter true)) data) with
  | none => rfl
  | some msg =>
    simp only [Option.map_some, okOr_some, ok_bind]
    rw [take_of_unpad hu]

theorem push_push (cap : ℕ) (as bs : List UInt8) :
    (push cap [] as >>= fun out => push cap out bs) = push cap as bs := by
  unfold push extend
  by_cases h : as.length > cap
  · rw [if_pos (by rw [List.length_nil]; omega), if_pos (by omega)]
    rfl
  · rw [if_neg (by rw [List.length_nil]; omega)]
    rfl

/-- Unwrapping a response that is written as body and status word. -/
theorem unwrapInner_append (slot : Scp03SessionSlot) (body : List UInt8) (sw1 sw2 : UInt8) :
    unwrapInner P slot (body ++ [sw1, sw2]) = (do
      let data ← responseData P slot body [sw1, sw2]
      let plain ← responsePlain P slot data [sw1, sw2]
      push RAPDU_MAX plain [sw1, sw2]) := by
  have hsplit : (body ++ [sw1, sw2]).length - 2 = body.length := by simp
  unfold unwrapInner
  simp only [hsplit, List.take_left, List.drop_left, push_push]

/-- Every response of two octets or more is a body and a status word. -/
theorem exists_status {rapdu : List UInt8} (h : 2 ≤ rapdu.length) :
    ∃ body sw1 sw2, rapdu = body ++ [sw1, sw2] := by
  have hsw : (rapdu.drop (rapdu.length - 2)).length = 2 := by
    rw [List.length_drop]
    omega
  obtain ⟨sw1, sw2, heq⟩ := List.length_eq_two.mp hsw
  exact ⟨rapdu.take (rapdu.length - 2), sw1, sw2, by rw [← heq, List.take_append_drop]⟩

/-! ### The methods over the state -/

/-- A wrap either fails and changes nothing, or rewrites its own slot. -/
theorem scp03WrapCommand_cases (s : Scp03Session) (capdu : List UInt8) (st : BackendState ρ) :
    (∃ e, scp03WrapCommand P s capdu st = (.error e, st)) ∨
    (∃ cla ins p1 p2 rest slot out slot', capdu = cla :: ins :: p1 :: p2 :: rest ∧
      st.sessions.get s.index.toNat = some slot ∧
      wrapSlot P slot cla ins p1 p2 rest = .ok (out, slot') ∧
      scp03WrapCommand P s capdu st =
        (.ok out, { st with sessions := st.sessions.set s.index.toNat (some slot') })) := by
  unfold scp03WrapCommand
  split
  · next cla ins p1 p2 rest =>
    split
    · exact .inl ⟨_, rfl⟩
    · next slot hslot =>
      split
      · exact .inl ⟨_, rfl⟩
      · next out slot' hwrap =>
        exact .inr ⟨cla, ins, p1, p2, rest, slot, out, slot', rfl, hslot, hwrap, rfl⟩
  · exact .inl ⟨_, rfl⟩

/-- An unwrap finds no slot, or fails and frees it, or delivers and changes nothing. -/
theorem scp03UnwrapResponse_cases (s : Scp03Session) (rapdu : List UInt8) (st : BackendState ρ) :
    (st.sessions.get s.index.toNat = none ∧ ∃ e,
      scp03UnwrapResponse P s rapdu st = (.error e, st)) ∨
    (∃ slot e, st.sessions.get s.index.toNat = some slot ∧ unwrapSlot P slot rapdu = .error e ∧
      scp03UnwrapResponse P s rapdu st =
        (.error e, { st with sessions := st.sessions.set s.index.toNat none })) ∨
    (∃ slot out, st.sessions.get s.index.toNat = some slot ∧ unwrapSlot P slot rapdu = .ok out ∧
      scp03UnwrapResponse P s rapdu st = (.ok out, st)) := by
  unfold scp03UnwrapResponse
  split
  · next hnone => exact .inl ⟨hnone, _, rfl⟩
  · next slot hslot =>
    split
    · next e he => exact .inr (.inl ⟨slot, e, hslot, he, rfl⟩)
    · next out hout => exact .inr (.inr ⟨slot, out, hslot, hout, rfl⟩)

/-- A delivered response: an authenticated slot and a response with a status word. -/
theorem unwrapSlot_ok {slot : Scp03SessionSlot} {rapdu out : List UInt8}
    (h : unwrapSlot P slot rapdu = .ok out) :
    slot.authed = true ∧ ∃ body sw1 sw2, rapdu = body ++ [sw1, sw2] ∧
      unwrapInner P slot (body ++ [sw1, sw2]) = .ok out := by
  unfold unwrapSlot at h
  split at h
  · cases h
  · next hauth =>
    split at h
    · cases h
    · next hlen =>
      obtain ⟨body, sw1, sw2, rfl⟩ := exists_status (Nat.le_of_not_lt hlen)
      exact ⟨not_not.mp hauth, body, sw1, sw2, rfl, h⟩

end Scll
