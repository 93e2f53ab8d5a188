import Scll.Backend.Scp03Spec
import Scll.Backend.Scp02

/-! # What SCP02 wrapping and unwrapping compute

    One lemma for each function over an SCP02 slot, free of buffers. The C-MAC
    covers the plaintext data under `Lc = len + 8`, whatever is transmitted; an
    R-MAC covers the stripped command, the length and data of the response and
    the status word.
-/

namespace Scll

open Octets BlockMode

variable (P : Primitives) {ρ : Type}

namespace Scp02

/-! ### Wrapping -/

/-- The ICV the next C-MAC starts from. -/
def icvBlock (slot : Scp02SessionSlot) : Block 8 :=
  if slot.icvValid then P.des (slot.sMac.val.take 8) slot.icv else Block.zero 8

/-- The C-MAC of a command. -/
def commandMac (slot : Scp02SessionSlot) (cla ins p1 p2 : UInt8) (data : List UInt8) : Block 8 :=
  macAlgorithm3 P slot.sMac.val (icvBlock P slot)
    ([secureCla cla, ins, p1, p2, UInt8.ofNat (data.length + 8)] ++ data)

/-- The command data under C-DECRYPTION. -/
def commandCipher (slot : Scp02SessionSlot) (data : List UInt8) : List UInt8 :=
  encryptOctets (P.tdesEde2 slot.sEnc.val) (Block.zero 8) (pad 8 data)

theorem nextIcv_eq (slot : Scp02SessionSlot) : nextIcv P slot = .ok (icvBlock P slot) := by
  have hk1 : (slot.sMac.val.take DES_BLOCK).length = 8 := by simp [DES_BLOCK, slot.sMac.property]
  unfold nextIcv icvBlock
  split
  · exact desEcbBlock_eq P hk1 slot.icv
  · rfl

theorem commandCmac_ok {slot : Scp02SessionSlot} {cla ins p1 p2 : UInt8} {data : List UInt8}
    {cmac : Block 8} (h : commandCmac P slot cla ins p1 p2 data = .ok cmac) :
    data.length + 8 ≤ 255 ∧ cmac = commandMac P slot cla ins p1 p2 data := by
  unfold commandCmac at h
  rw [nextIcv_eq, ok_bind] at h
  obtain ⟨lc, hlc, h⟩ := bind_eq_ok.mp h
  obtain ⟨hmax, hlcn⟩ := lcPlusMac_eq_ok.mp hlc
  have hmaclen : MAC_LEN = 8 := rfl
  rw [hmaclen] at hmax hlcn
  have hlc' : lc = UInt8.ofNat (data.length + 8) := by
    apply UInt8.toNat_inj.mp
    rw [hlcn, UInt8.toNat_ofNat']
    omega
  have hfits : ([secureCla cla, ins, p1, p2, lc] ++ data).length +
      (8 - ([secureCla cla, ins, p1, p2, lc] ++ data).length % 8) ≤
      (List.replicate (5 + 255 + DES_BLOCK) (0 : UInt8)).length := by
    simp only [List.length_append, List.length_cons, List.length_nil, List.length_replicate,
      DES_BLOCK]
    omega
  rw [if_neg (by omega)] at h
  simp only [retailMac_eq P slot.sMac (icvBlock P slot) hfits] at h
  obtain rfl := Except.ok.inj h
  rw [commandMac, hlc']
  exact ⟨hmax, rfl⟩

theorem encryptCommand_eq {slot : Scp02SessionSlot} {data : List UInt8}
    (h : data.length ≤ 247) :
    encryptCommand P slot data = .ok (commandCipher P slot data) := by
  have hmod := Nat.mod_lt data.length (show 0 < 8 by decide)
  have hcap : CAPDU_MAX = 261 := rfl
  have hfits : data.length + (8 - data.length % 8) ≤
      (List.replicate CAPDU_MAX (0 : UInt8)).length := by
    rw [List.length_replicate]
    omega
  obtain ⟨buf, hpad, -, -, ct, hct, htake⟩ := pad_encrypt_scratch (show 0 < 8 by decide)
    (P.tdesEde2 slot.sEnc.val) (Block.zero 8) hfits
  have hbuf : pad80_8 (overwrite (List.replicate CAPDU_MAX 0) 0 data) data.length =
      .ok (buf, (pad 8 data).length) := hpad
  have henc : tdesCbcEncrypt P slot.sEnc.val (Block.zero 8) buf (pad 8 data).length =
      .ok (ct, (pad 8 data).length) := by
    rw [tdesCbcEncrypt, if_neg (not_not.mpr slot.sEnc.property), hct]
    rfl
  rw [encryptCommand, if_neg (by omega)]
  simp only [hbuf, ok_bind, henc, htake]
  rfl

/-- The transmitted body of a command. -/
def wireBody (slot : Scp02SessionSlot) (data : List UInt8) : List UInt8 :=
  if slot.authed = true ∧ slot.level &&& SL_CDEC ≠ 0 ∧ data ≠ [] then commandCipher P slot data
  else data

theorem commandBody_eq {slot : Scp02SessionSlot} {data : List UInt8} (h : data.length ≤ 247) :
    commandBody P slot data = .ok (wireBody P slot data) := by
  unfold commandBody wireBody
  split
  · exact encryptCommand_eq P h
  · rfl

/-- Everything a successful wrap says. -/
theorem wrapSlot_ok {slot slot' : Scp02SessionSlot} {cla ins p1 p2 : UInt8}
    {rest out : List UInt8} (h : wrapSlot P slot cla ins p1 p2 rest = .ok (out, slot')) :
    ∃ data le lc, commandData rest = .ok (data, le) ∧
      (slot.authed = false → ins = EXTERNAL_AUTHENTICATE) ∧ data.length + 8 ≤ 255 ∧
      lc.toNat = (wireBody P slot data).length + 8 ∧
      out = [secureCla cla, ins, p1, p2, lc] ++ wireBody P slot data ++
        (commandMac P slot cla ins p1 p2 data).val ∧
      slot' = commit slot cla ins p1 p2 data (commandMac P slot cla ins p1 p2 data) := by
  unfold wrapSlot at h
  obtain ⟨⟨data, le⟩, hdata, h⟩ := bind_eq_ok.mp h
  dsimp only at h
  split at h
  · cases h
  · next hfirst =>
    obtain ⟨cmac, hcmac, h⟩ := bind_eq_ok.mp h
    obtain ⟨body, hbody, h⟩ := bind_eq_ok.mp h
    obtain ⟨lc, hlc, h⟩ := bind_eq_ok.mp h
    obtain ⟨o₁, ho₁, h⟩ := bind_eq_ok.mp h
    obtain ⟨o₂, ho₂, h⟩ := bind_eq_ok.mp h
    obtain ⟨o₃, ho₃, h⟩ := bind_eq_ok.mp h
    injection h with h
    injection h with hout hslot
    obtain ⟨hmax, rfl⟩ := commandCmac_ok P hcmac
    rw [commandBody_eq P (by omega)] at hbody
    obtain rfl := Except.ok.inj hbody
    obtain ⟨rfl, -⟩ := push_eq_ok.mp ho₁
    obtain ⟨rfl, -⟩ := push_eq_ok.mp ho₂
    obtain ⟨rfl, -⟩ := push_eq_ok.mp ho₃
    refine ⟨data, le, lc, hdata, ?_, hmax, (lcPlusMac_eq_ok.mp hlc).2, hout.symm, hslot.symm⟩
    intro hauth
    by_contra hins
    exact hfirst ⟨by rw [hauth]; decide, hins⟩

/-- Encryption does not make the data shorter. -/
theorem length_le_wireBody (slot : Scp02SessionSlot) (data : List UInt8) :
    data.length ≤ (wireBody P slot data).length := by
  unfold wireBody
  split
  · have hdvd := dvd_length_pad (show 0 < 8 by decide) data
    rw [commandCipher, length_encryptOctets _ _ hdvd, length_pad (show 0 < 8 by decide)]
    omega
  · exact le_rfl

theorem commandCmac_fits (slot : Scp02SessionSlot) (cla ins p1 p2 : UInt8) {data : List UInt8}
    (h : data.length + 8 ≤ 255) : ∃ cmac, commandCmac P slot cla ins p1 p2 data = .ok cmac := by
  have hlc : lcPlusMac data.length MAC_LEN =
      .ok (UInt8.ofNat (data.length + MAC_LEN)) := if_pos h
  unfold commandCmac
  rw [nextIcv_eq, ok_bind, hlc, ok_bind, if_neg (by omega)]
  refine ⟨_, retailMac_eq P slot.sMac (icvBlock P slot) ?_⟩
  simp only [List.length_append, List.length_cons, List.length_nil, List.length_replicate,
    DES_BLOCK]
  omega

/-- A wrap that has room for everything. -/
theorem wrapSlot_of_fits {slot : Scp02SessionSlot} {cla ins p1 p2 : UInt8}
    (hfirst : slot.authed = false → ins = EXTERNAL_AUTHENTICATE) {rest data le : List UInt8}
    (hdata : commandData rest = .ok (data, le))
    (hfits : (wireBody P slot data).length + 8 ≤ 255) :
    ∃ out, wrapSlot P slot cla ins p1 p2 rest = .ok out := by
  have hlen := length_le_wireBody P slot data
  have hcap : CAPDU_MAX = 261 := rfl
  have hlc : lcPlusMac (wireBody P slot data).length MAC_LEN =
      .ok (UInt8.ofNat ((wireBody P slot data).length + MAC_LEN)) := if_pos hfits
  obtain ⟨cmac, hcmac⟩ := commandCmac_fits P slot cla ins p1 p2 (show data.length + 8 ≤ 255 by omega)
  have hmac := cmac.property
  unfold wrapSlot
  rw [hdata, ok_bind]
  dsimp only
  rw [if_neg (fun h => h.2 (hfirst (Bool.not_eq_true _ ▸ h.1))), hcmac, ok_bind,
    commandBody_eq P (by omega), ok_bind, hlc, ok_bind]
  generalize UInt8.ofNat ((wireBody P slot data).length + MAC_LEN) = lc
  generalize wireBody P slot data = body at hfits ⊢
  have hout₁ : push CAPDU_MAX [] [secureCla cla, ins, p1, p2, lc] =
      .ok ([] ++ [secureCla cla, ins, p1, p2, lc]) := push_of_fits (by simp [hcap])
  have hout₂ : push CAPDU_MAX ([] ++ [secureCla cla, ins, p1, p2, lc]) body =
      .ok ([] ++ [secureCla cla, ins, p1, p2, lc] ++ body) :=
    push_of_fits (by simp only [List.length_append, List.length_nil, List.length_cons, hcap]; omega)
  have hout₃ : push CAPDU_MAX ([] ++ [secureCla cla, ins, p1, p2, lc] ++ body) cmac.val =
      .ok ([] ++ [secureCla cla, ins, p1, p2, lc] ++ body ++ cmac.val) :=
    push_of_fits (by
      simp only [List.length_append, List.length_nil, List.length_cons, hcap, hmac]
      omega)
  rw [hout₁, ok_bind, hout₂, ok_bind, hout₃, ok_bind]
  exact ⟨_, rfl⟩

theorem tryExtend_of_fits {cap : ℕ} {v src : List UInt8} (h : v.length + src.length ≤ cap) :
    tryExtend cap v src = v ++ src := if_neg (by omega)

/-- The accumulated command always fits its buffer. -/
theorem rmacCommand_eq {cla ins p1 p2 : UInt8} {data : List UInt8} (h : data.length ≤ 255) :
    rmacCommand cla ins p1 p2 data =
      [cla &&& ~~~0x07, ins, p1, p2, UInt8.ofNat data.length] ++ data := by
  have hcap : RMAC_BUF_MAX = 519 := rfl
  have h₁ : tryExtend RMAC_BUF_MAX [] [cla &&& ~~~0x07, ins, p1, p2] =
      [] ++ [cla &&& ~~~0x07, ins, p1, p2] :=
    tryExtend_of_fits (by simp [hcap])
  have h₂ : tryExtend RMAC_BUF_MAX [cla &&& ~~~0x07, ins, p1, p2] [UInt8.ofNat data.length] =
      [cla &&& ~~~0x07, ins, p1, p2] ++ [UInt8.ofNat data.length] :=
    tryExtend_of_fits (by simp [hcap])
  unfold rmacCommand
  simp only [h₁, List.nil_append, h₂, List.cons_append]
  exact tryExtend_of_fits (by simp only [hcap, List.length_cons, List.length_nil]; omega)

/-! ### Unwrapping -/

/-- The R-MAC of a response after the accumulated command. -/
def responseMac (slot : Scp02SessionSlot) (data sw : List UInt8) : Block 8 :=
  macAlgorithm3 P slot.sRmac.val slot.ricv
    (slot.rmacBuf ++ [UInt8.ofNat data.length] ++ data ++ sw)

/-- R-MAC verification accepts exactly the data with its R-MAC behind it. -/
theorem unwrapRmac_eq_ok {slot : Scp02SessionSlot} {body out : List UInt8} {sw1 sw2 : UInt8}
    {ricv : Block 8} :
    unwrapRmac P slot (body ++ [sw1, sw2]) = .ok (out, ricv) ↔
      ∃ data, body = data ++ ricv.val ∧ ricv = responseMac P slot data [sw1, sw2] ∧
        out = data ++ [sw1, sw2] ∧ slot.rmacBuf.length + data.length + 3 ≤ RMAC_BUF_MAX + 3 ∧
        out.length ≤ RAPDU_MAX := by
  have hsplit : (body ++ [sw1, sw2]).length - 2 = body.length := by simp
  have hmac : ∀ input : List UInt8, input.length ≤ RMAC_BUF_MAX + 3 →
      retailMac P slot.sRmac.val slot.ricv input
        (List.replicate (RMAC_BUF_MAX + 3 + DES_BLOCK) 0) =
      .ok (macAlgorithm3 P slot.sRmac.val slot.ricv input) := by
    intro input hinput
    apply retailMac_eq
    rw [List.length_replicate]
    have : DES_BLOCK = 8 := rfl
    omega
  unfold unwrapRmac
  simp only [hsplit, List.take_left, List.drop_left]
  constructor
  -- forwards: the four writes into the MAC input, the comparison, and the two into the answer
  · intro h
    split at h
    · cases h
    · next hlen =>
      obtain ⟨i₁, hi₁, h⟩ := bind_eq_ok.mp h
      obtain ⟨i₂, hi₂, h⟩ := bind_eq_ok.mp h
      obtain ⟨i₃, hi₃, h⟩ := bind_eq_ok.mp h
      obtain ⟨i₄, hi₄, h⟩ := bind_eq_ok.mp h
      obtain ⟨rfl, -⟩ := push_eq_ok.mp hi₁
      obtain ⟨rfl, -⟩ := push_eq_ok.mp hi₂
      obtain ⟨rfl, -⟩ := push_eq_ok.mp hi₃
      obtain ⟨rfl, hcap⟩ := push_eq_ok.mp hi₄
      rw [hmac _ hcap, ok_bind] at h
      split at h
      · next heq =>
        obtain ⟨o₁, ho₁, h⟩ := bind_eq_ok.mp h
        obtain ⟨o₂, ho₂, h⟩ := bind_eq_ok.mp h
        injection h with h
        injection h with hout hricv
        obtain ⟨rfl, -⟩ := push_eq_ok.mp ho₁
        obtain ⟨rfl, hmax⟩ := push_eq_ok.mp ho₂
        have hdata : (body.take (body.length - 8)).length = body.length - 8 :=
          List.length_take_of_le (by omega)
        have heq' := ctEq_iff.mp heq
        refine ⟨body.take (body.length - 8), ?_, ?_, hout.symm, ?_, hout ▸ hmax⟩
        · rw [← hricv, heq', List.take_append_drop]
        · rw [← hricv, responseMac, hdata]
          rfl
        · simp only [List.length_append, List.length_cons, List.length_nil] at hcap
          omega
      · cases h
  · -- backwards: each of the four writes fits
    rintro ⟨data, rfl, hricv, rfl, hcap, hmax⟩
    have hrlen := ricv.property
    have hlen : (data ++ ricv.val).length - 8 = data.length := by
      rw [List.length_append, hrlen]
      omega
    have h₁ : push (RMAC_BUF_MAX + 3) [] slot.rmacBuf = .ok ([] ++ slot.rmacBuf) :=
      push_of_fits (by rw [List.length_nil]; omega)
    have h₂ : push (RMAC_BUF_MAX + 3) slot.rmacBuf [UInt8.ofNat data.length] =
        .ok (slot.rmacBuf ++ [UInt8.ofNat data.length]) :=
      push_of_fits (by rw [List.length_singleton]; omega)
    have h₃ : push (RMAC_BUF_MAX + 3) (slot.rmacBuf ++ [UInt8.ofNat data.length]) data =
        .ok (slot.rmacBuf ++ [UInt8.ofNat data.length] ++ data) :=
      push_of_fits (by rw [List.length_append, List.length_singleton]; omega)
    have h₄ : push (RMAC_BUF_MAX + 3) (slot.rmacBuf ++ [UInt8.ofNat data.length] ++ data)
        [sw1, sw2] = .ok (slot.rmacBuf ++ [UInt8.ofNat data.length] ++ data ++ [sw1, sw2]) :=
      push_of_fits (by simp only [List.length_append, List.length_cons, List.length_nil]; omega)
    have hinput := hmac (slot.rmacBuf ++ [UInt8.ofNat data.length] ++ data ++ [sw1, sw2])
      (by simp only [List.length_append, List.length_cons, List.length_nil]; omega)
    have hout : push RAPDU_MAX data [sw1, sw2] = .ok (data ++ [sw1, sw2]) :=
      push_of_fits (by rwa [List.length_append] at hmax)
    have hdata : push RAPDU_MAX [] data = .ok ([] ++ data) :=
      push_of_fits (by rw [List.length_append] at hmax; rw [List.length_nil]; omega)
    have heq : ctEq (macAlgorithm3 P slot.sRmac.val slot.ricv
        (slot.rmacBuf ++ [UInt8.ofNat data.length] ++ data ++ [sw1, sw2])).val ricv.val = true :=
      ctEq_iff.mpr (by rw [hricv]; rfl)
    rw [if_neg (by rw [List.length_append, hrlen]; omega)]
    simp only [hlen, List.take_left, List.drop_left, h₁, List.nil_append, ok_bind, h₂, h₃, h₄,
      hinput]
    rw [if_pos heq]
    simp only [hdata, List.nil_append, ok_bind, hout]
    rw [hricv]
    rfl

/-- A delivered response at an R-MAC level carried a verified R-MAC. -/
theorem unwrapSlot_deliver {slot : Scp02SessionSlot} {rapdu out : List UInt8} {ricv : Block 8}
    (h : unwrapSlot P slot rapdu = .deliver out ricv) :
    slot.authed = true ∧ ∃ body sw1 sw2, rapdu = body ++ [sw1, sw2] ∧
      ((slot.level &&& SL_RMAC ≠ 0 ∧
          unwrapRmac P slot (body ++ [sw1, sw2]) = .ok (out, ricv)) ∨
        (slot.level &&& SL_RMAC = 0 ∧ out = rapdu ∧ ricv = slot.ricv)) := by
  unfold unwrapSlot at h
  split at h
  · cases h
  · next hauth =>
    split at h
    · cases h
    · next hlen =>
      obtain ⟨body, sw1, sw2, rfl⟩ := exists_status (Nat.le_of_not_lt hlen)
      refine ⟨not_not.mp hauth, body, sw1, sw2, rfl, ?_⟩
      split at h
      · next hlevel =>
        left
        split at h
        · next o r hok =>
          injection h with hout hricv
          rw [hok, hout, hricv]
          exact ⟨hlevel, rfl⟩
        · cases h
      · next hlevel =>
        right
        split at h
        · next o hok =>
          injection h with hout hricv
          obtain ⟨rfl, -⟩ := push_eq_ok.mp hok
          exact ⟨not_not.mp hlevel, hout.symm, hricv.symm⟩
        · cases h

/-- Refusal without tear-down: an open session without R-MAC, and a response
    longer than any card sends. -/
def Refuses (slot : Scp02SessionSlot) (rapdu : List UInt8) : Prop :=
  slot.authed = true ∧ slot.level &&& SL_RMAC = 0 ∧ rapdu.length > RAPDU_MAX

theorem unwrapSlot_refuse_iff {slot : Scp02SessionSlot} {rapdu : List UInt8} :
    (∃ e, unwrapSlot P slot rapdu = .refuse e) ↔ Refuses slot rapdu := by
  have hcap : RAPDU_MAX = 258 := rfl
  unfold unwrapSlot Refuses push extend
  constructor
  · intro ⟨e, h⟩
    split at h
    · cases h
    · next hauth =>
      split at h
      · cases h
      · split at h
        · split at h <;> cases h
        · next hlevel =>
          refine ⟨not_not.mp hauth, not_not.mp hlevel, ?_⟩
          by_contra hshort
          rw [if_neg (by simpa using hshort)] at h
          cases h
  · intro ⟨hauth, hlevel, hlong⟩
    rw [if_neg (not_not.mpr hauth), if_neg (by omega), if_neg (not_not.mpr hlevel),
      if_pos (by simpa using hlong)]
    exact ⟨_, rfl⟩

end Scp02

/-! ### The methods over the state -/

/-- A wrap either fails and changes nothing, or rewrites its own slot. -/
theorem scp02WrapCommand_cases (s : Scp02Session) (capdu : List UInt8) (st : BackendState ρ) :
    (∃ e, scp02WrapCommand P s capdu st = (.error e, st)) ∨
    (∃ cla ins p1 p2 rest slot out slot', capdu = cla :: ins :: p1 :: p2 :: rest ∧
      st.scp02Sessions.get s.index.toNat = some slot ∧
      Scp02.wrapSlot P slot cla ins p1 p2 rest = .ok (out, slot') ∧
      scp02WrapCommand P s capdu st =
        (.ok out, { st with scp02Sessions := st.scp02Sessions.set s.index.toNat (some slot') })) := by
  unfold scp02WrapCommand
  split
  · next cla ins p1 p2 rest =>
    split
    · exact .inl ⟨_, rfl⟩
    · next slot hslot =>
      split
      · exact .inl ⟨_, rfl⟩
      · next out slot' hwrap =>
        exact .inr ⟨cla, ins, p1, p2, rest, slot, out, slot', rfl, hslot, hwrap, rfl⟩
  · exact .inl ⟨_, rfl⟩

/-- An unwrap finds no slot; or delivers and moves the R-MAC chain of its slot;
    or fails and frees it; or refuses the response and leaves it. -/
theorem scp02UnwrapResponse_cases (s : Scp02Session) (rapdu : List UInt8) (st : BackendState ρ) :
    (st.scp02Sessions.get s.index.toNat = none ∧ ∃ e,
      scp02UnwrapResponse P s rapdu st = (.error e, st)) ∨
    (∃ slot out ricv, st.scp02Sessions.get s.index.toNat = some slot ∧
      Scp02.unwrapSlot P slot rapdu = .deliver out ricv ∧
      scp02UnwrapResponse P s rapdu st =
        (.ok out,
          { st with
            scp02Sessions := st.scp02Sessions.set s.index.toNat
              (some { slot with ricv := ricv, rmacBuf := [] }) })) ∨
    (∃ slot e, st.scp02Sessions.get s.index.toNat = some slot ∧
      Scp02.unwrapSlot P slot rapdu = .tearDown e ∧
      scp02UnwrapResponse P s rapdu st =
        (.error e, { st with scp02Sessions := st.scp02Sessions.set s.index.toNat none })) ∨
    (∃ slot e, st.scp02Sessions.get s.index.toNat = some slot ∧
      Scp02.unwrapSlot P slot rapdu = .refuse e ∧
      scp02UnwrapResponse P s rapdu st = (.error e, st)) := by
  unfold scp02UnwrapResponse
  split
  · next hnone => exact .inl ⟨hnone, _, rfl⟩
  · next slot hslot =>
    split
    · next out ricv hdeliver => exact .inr (.inl ⟨slot, out, ricv, hslot, hdeliver, rfl⟩)
    · next e hdown => exact .inr (.inr (.inl ⟨slot, e, hslot, hdown, rfl⟩))
    · next e hrefuse => exact .inr (.inr (.inr ⟨slot, e, hslot, hrefuse, rfl⟩))

end Scll
