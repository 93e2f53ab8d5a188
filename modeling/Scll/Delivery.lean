import Scll.Handles
import Scll.LockStep03
import Scll.Scp.OpenSpec

/-! # What an R-MAC session delivers

    A session opened at a level with R-MAC releases response data only behind an
    R-MAC, when the status word is one the card protects. Under every other
    status word the response passes through as it came: such responses carry no
    R-MAC, and nothing of them is decrypted.
-/

namespace Scll

open BlockMode Run

variable (P : Primitives) {ρ : Type}

namespace Delivery

/-- The session's slot after the open: authenticated, at its level, with its keys. -/
def OpenAt (s : Scp03Session) (level : UInt8) (k : SessionKeys) (st : BackendState ρ) : Prop :=
  ∃ slot, st.sessions.get s.index.toNat = some slot ∧ slot.authed = true ∧
    slot.level = level ∧ slot.keys = k

/-- A wrap authenticates its slot and keeps its keys; the first one latches the level. -/
theorem wrapSlot_latch {slot slot' : Scp03SessionSlot} {cla ins p1 p2 : UInt8}
    {rest out : List UInt8} (h : wrapSlot P slot cla ins p1 p2 rest = .ok (out, slot')) :
    slot'.authed = true ∧ slot'.level = (if slot.authed then slot.level else p1) ∧
      slot'.keys = slot.keys := by
  obtain ⟨data, le, body, counter, level, lc, hdata, hbody, -, -, -, rfl⟩ := wrapSlot_ok P h
  rcases commandBody_ok P (length_commandData hdata) hbody with
    ⟨hauth, -, -, -, rfl⟩ | ⟨hauth, -, rfl, -⟩
  · exact ⟨rfl, by simp [hauth], rfl⟩
  · exact ⟨rfl, by simp [hauth], rfl⟩

/-- Writing another SCP03 slot leaves the session open. -/
theorem OpenAt.set_ne {s s' : Scp03Session} {level : UInt8} {k : SessionKeys}
    {st : BackendState ρ} (h : OpenAt s level k st) (hne : s.index.toNat ≠ s'.index.toNat)
    (v : Option Scp03SessionSlot) :
    OpenAt s level k { st with sessions := st.sessions.set s'.index.toNat v } := by
  obtain ⟨slot, hslot, hrest⟩ := h
  exact ⟨slot, by rw [SlotTable.get_set_of_ne _ hne]; exact hslot, hrest⟩

/-- An open session stays open through every call that does not end it. -/
theorem sessionStep_openAt {s : Scp03Session} {level : UInt8} {k : SessionKeys}
    {st : BackendState ρ} (op : SessionOp)
    (hlive : ¬Ends st op (sessionStep P op st).1 (.scp03 s)) (h : OpenAt s level k st) :
    OpenAt s level k (sessionStep P op st).2 := by
  have hopen := h
  obtain ⟨slot, hslot, hauth, hlevel, hkeys⟩ := hopen
  cases op with
  | derive03 enc mac mode hostCh cardCh =>
    rcases scp03DeriveSession_cases P st enc mac mode hostCh cardCh with
      ⟨e, he⟩ | ⟨sEnc, sMac, sRmac, idx, -, hfree, hok⟩
    · simp only [sessionStep, he]
      exact h
    · simp only [sessionStep, hok]
      -- the slot that is filled was free, and this one is not
      have hne : s.index.toNat ≠ (idx : ℕ) := by
        intro heq
        rw [heq, SlotTable.firstFree_get hfree] at hslot
        cases hslot
      exact ⟨slot, by rw [SlotTable.get_set_of_ne _ hne]; exact hslot, hauth, hlevel, hkeys⟩
  | derive02 enc mac dek seq =>
    rcases scp02DeriveSession_cases P st enc mac dek seq with
      ⟨e, he⟩ | ⟨sEnc, sMac, sRmac, sDek, idx, -, -, hok⟩
    · simp only [sessionStep, he]
      exact h
    · simp only [sessionStep, hok]
      exact h
  | wrap g capdu =>
    cases g with
    | scp03 s' =>
      rcases scp03WrapCommand_cases P s' capdu st with
        ⟨e, he⟩ | ⟨cla, ins, p1, p2, rest, slot₀, out, slot', -, hslot₀, hwrap, hok⟩
      · simp only [sessionStep, he]
        exact h
      · simp only [sessionStep, hok]
        by_cases hs : s = s'
        · subst hs
          obtain rfl := Option.some.inj (hslot.symm.trans hslot₀)
          obtain ⟨hauth', hlevel', hkeys'⟩ := wrapSlot_latch P hwrap
          rw [if_pos hauth] at hlevel'
          exact ⟨slot', SlotTable.get_set_self (SlotTable.lt_of_get hslot) _, hauth',
            hlevel'.trans hlevel, hkeys'.trans hkeys⟩
        · exact h.set_ne (Scp03Session.index_ne hs) _
    | scp02 s' =>
      rcases scp02WrapCommand_cases P s' capdu st with
        ⟨e, he⟩ | ⟨cla, ins, p1, p2, rest, slot₀, out, slot', -, -, -, hok⟩
      · simp only [sessionStep, he]
        exact h
      · simp only [sessionStep, hok]
        exact h
  | unwrap g rapdu =>
    cases g with
    | scp03 s' =>
      rcases scp03UnwrapResponse_cases P s' rapdu st with
        ⟨-, e, he⟩ | ⟨slot₀, e, -, -, he⟩ | ⟨slot₀, out, -, -, hok⟩
      · simp only [sessionStep, he]
        exact h
      · simp only [sessionStep, he] at hlive ⊢
        by_cases hs : s = s'
        · subst hs
          -- a failed unwrap through the handle ends the session
          exact absurd (.inr ⟨rapdu, e, rfl, rfl, id⟩) hlive
        · exact h.set_ne (Scp03Session.index_ne hs) _
      · simp only [sessionStep, hok]
        exact h
    | scp02 s' =>
      rcases scp02UnwrapResponse_cases P s' rapdu st with
        ⟨-, e, he⟩ | ⟨_, _, _, -, -, hok⟩ | ⟨_, e, -, -, he⟩ | ⟨_, e, -, -, he⟩
      · simp only [sessionStep, he]
        exact h
      · simp only [sessionStep, hok]
        exact h
      · simp only [sessionStep, he]
        exact h
      · simp only [sessionStep, he]
        exact h
  | close g =>
    cases g with
    | scp03 s' =>
      by_cases hs : s = s'
      · subst hs
        exact absurd (.inl rfl) hlive
      · exact h.set_ne (Scp03Session.index_ne hs) _
    | scp02 s' => exact h

/-- An open session is open through any run that does not end it. -/
theorem run_openAt {s : Scp03Session} {level : UInt8} {k : SessionKeys} {st : BackendState ρ}
    {ops : List SessionOp} (h : OpenAt s level k st)
    (hlive : ∀ e ∈ run (sessionStep P) ops st, ¬Handles.EndsAt e (.scp03 s)) :
    OpenAt s level k (final st (run (sessionStep P) ops st)) := by
  refine final_of_step (sessionStep P) (I := OpenAt s level k) ?_ h
  intro e he hstep hbefore
  have hend := hlive e he
  unfold IsStep at hstep
  unfold Handles.EndsAt at hend
  have hout : (sessionStep P e.op e.before).1 = e.out := congrArg Prod.fst hstep
  have hafter : (sessionStep P e.op e.before).2 = e.after := congrArg Prod.snd hstep
  rw [← hout] at hend
  rw [← hafter]
  exact sessionStep_openAt P e.op hend hbefore

section opened

variable [RngCore ρ]

/-- A successful open leaves its session open at the level it reports. -/
theorem begin_openAt {staticEnc staticMac : KeyHandle} {kvnExpected requested : UInt8}
    {hostChallenge aid iuResponse ea : List UInt8} {st st₁ : RustCryptoBackend P ρ}
    {state : Scp03.Scp03State}
    (h : Scp03.begin staticEnc staticMac kvnExpected requested hostChallenge aid iuResponse st =
      (.ok (state, ea), st₁)) :
    ∃ k, keysAt st₁ (.scp03 state.session) = some k ∧
      OpenAt state.session state.securityLevel k st₁ := by
  rcases Scp03.begin_cases P staticEnc staticMac kvnExpected requested hostChallenge aid
      iuResponse st with ⟨e, he⟩ | ⟨mode, cardCh, s, st₂, hderive, hbegin⟩
  · rw [h] at he
    cases he
  · rcases hbegin with ⟨e, he⟩ | ⟨iParam, level, kvn, eaPlain, ea', st₃, -, htail, hwrap, hok⟩
    · rw [h] at he
      cases he
    · rw [h] at hok
      obtain ⟨hpair, rfl⟩ := Prod.mk.inj hok
      obtain ⟨rfl, -⟩ := Prod.mk.inj (Except.ok.inj hpair)
      obtain ⟨tail, rfl⟩ := htail
      -- EXTERNAL AUTHENTICATE was wrapped on a fresh slot, which took its level
      obtain ⟨-, sEnc, sMac, sRmac, -, hfresh⟩ := scp03DeriveSession_slot P hderive
      obtain ⟨cla, ins, p1, p2, rest, slot, slot', hcapdu, hslot, hwrap', hslot'⟩ :=
        scp03WrapCommand_ok P hwrap
      obtain ⟨-, -, rfl, -, -⟩ : (0x84 : UInt8) = cla ∧ Scp03.INS_EXTERNAL_AUTHENTICATE = ins ∧
        level = p1 ∧ 0x00 = p2 ∧ tail = rest := by simpa using hcapdu
      obtain rfl := Option.some.inj (hfresh.symm.trans hslot)
      obtain ⟨hauth, hlevel, -⟩ := wrapSlot_latch P hwrap'
      have hkeys : keysAt st₁ (.scp03 s) = some slot'.keys := by
        simp only [keysAt, hslot', Option.map_some]
      exact ⟨slot'.keys, hkeys, slot', hslot', hauth, hlevel, rfl⟩

/-! ### Delivery -/

/-- The wire data of `rapdu` is covered by an R-MAC that verifies under the
    S-RMAC and the chaining value of `slot`, and `out` is that data, decrypted
    when the level says so, with the status word. -/
def Verified (slot : Scp03SessionSlot) (rapdu out : List UInt8) : Prop :=
  ∃ wdata plain sw1 sw2,
    rapdu = wdata ++
      (P.aesCmac slot.sRmac.val (slot.chain.val ++ wdata ++ [sw1, sw2])).val.take
        slot.mode.macLen ++ [sw1, sw2] ∧
    responsePlain P slot wdata [sw1, sw2] = .ok plain ∧ out = plain ++ [sw1, sw2]

/-- What an R-MAC slot delivers: verified data under a protected status word,
    the response as it came under any other. -/
theorem unwrapSlot_delivers {slot : Scp03SessionSlot} (hlevel : slot.level &&& SL_RMAC ≠ 0)
    {rapdu out : List UInt8} (h : unwrapSlot P slot rapdu = .ok out) :
    ∃ body sw1 sw2, rapdu = body ++ [sw1, sw2] ∧
      (ProtectedStatus sw1 sw2 → Verified P slot rapdu out) ∧
      (¬ProtectedStatus sw1 sw2 → out = rapdu) := by
  obtain ⟨-, body, sw1, sw2, rfl, hinner⟩ := unwrapSlot_ok P h
  refine ⟨body, sw1, sw2, rfl, ?_, ?_⟩
  · intro hprot
    have hprot' := (swIsProtected_iff sw1 sw2).mpr hprot
    rw [unwrapInner_append] at hinner
    obtain ⟨wdata, hdata, hinner⟩ := bind_eq_ok.mp hinner
    obtain ⟨plain, hplain, hout⟩ := bind_eq_ok.mp hinner
    rw [responseData, if_pos ⟨hlevel, hprot'⟩, verifyRmac_eq_ok] at hdata
    obtain ⟨rfl, -⟩ := push_eq_ok.mp hout
    exact ⟨wdata, plain, sw1, sw2, by rw [hdata.1]; rfl, hplain, rfl⟩
  · intro hprot
    have hprot' : ¬swIsProtected [sw1, sw2] = true := fun hp => hprot ((swIsProtected_iff _ _).mp hp)
    rw [unwrapInner_append] at hinner
    obtain ⟨wdata, hdata, hinner⟩ := bind_eq_ok.mp hinner
    obtain ⟨plain, hplain, hout⟩ := bind_eq_ok.mp hinner
    rw [responseData, if_neg (fun hc => hprot' hc.2)] at hdata
    obtain rfl := Except.ok.inj hdata
    rw [responsePlain, if_neg (fun hc => hprot' hc.2.1)] at hplain
    obtain rfl := Except.ok.inj hplain
    exact (push_eq_ok.mp hout).1

/-- Authenticated delivery: through any interleaving of backend calls that
    neither closes nor tears down a session `begin` opened at a level with
    R-MAC, every response it delivers under `9000`, `62xx` or `63xx` carried an
    R-MAC that verified under the session's S-RMAC over the current chaining
    value, the wire data and the status word; under any other status word the
    response is passed through as it came, with nothing decrypted. -/
theorem authenticated_delivery (staticEnc staticMac : KeyHandle) (kvnExpected requested : UInt8)
    (hostChallenge aid iuResponse : List UInt8) (st st₁ : RustCryptoBackend P ρ)
    (state : Scp03.Scp03State) (ea : List UInt8) (ops : List SessionOp) (rapdu out : List UInt8)
    (hopen : Scp03.begin staticEnc staticMac kvnExpected requested hostChallenge aid iuResponse st =
      (.ok (state, ea), st₁))
    (hlevel : state.securityLevel &&& SL_RMAC ≠ 0)
    (hlive : ∀ e ∈ run (sessionStep P) ops st₁, ¬Handles.EndsAt e (.scp03 state.session))
    (hunwrap : (scp03UnwrapResponse P state.session rapdu
      (final st₁ (run (sessionStep P) ops st₁))).1 = .ok out) :
    ∃ slot body sw1 sw2,
      (final st₁ (run (sessionStep P) ops st₁)).sessions.get state.session.index.toNat =
        some slot ∧
      keysAt st₁ (.scp03 state.session) = some slot.keys ∧
      rapdu = body ++ [sw1, sw2] ∧
      (ProtectedStatus sw1 sw2 → Verified P slot rapdu out) ∧
      (¬ProtectedStatus sw1 sw2 → out = rapdu) := by
  obtain ⟨k, hkeys, hopenAt⟩ := begin_openAt P hopen
  obtain ⟨slot, hslot, hauth, hslotLevel, hslotKeys⟩ := run_openAt P hopenAt hlive
  rcases scp03UnwrapResponse_cases P state.session rapdu
      (final st₁ (run (sessionStep P) ops st₁)) with
    ⟨hnone, -⟩ | ⟨_, e, -, -, he⟩ | ⟨slot', out', hslot', hout, hok⟩
  · rw [hslot] at hnone
    cases hnone
  · rw [he] at hunwrap
    cases hunwrap
  · obtain rfl := Option.some.inj (hslot.symm.trans hslot')
    rw [hok] at hunwrap
    obtain rfl := Except.ok.inj hunwrap
    rw [← hslotLevel] at hlevel
    obtain ⟨body, sw1, sw2, hrapdu, hprot, hbare⟩ := unwrapSlot_delivers P hlevel hout
    exact ⟨slot, body, sw1, sw2, hslot, by rw [hkeys, hslotKeys], hrapdu, hprot, hbare⟩

end opened

/-! ### Two runs -/

/-- The answer of an R-MAC and R-ENC capable card to INITIALIZE UPDATE. -/
def sampleIu : List UInt8 :=
  List.replicate 10 0 ++ [0x01, 0x03, 0x60] ++ List.replicate 8 1 ++ List.replicate 8 0x40

/-- The open of a session on a backend with one AES key. -/
def sampleOpen (requested : UInt8) :
    Except ScllError (Scp03.Scp03State × List UInt8) × RustCryptoBackend Primitives.xorCipher Unit :=
  Scp03.begin ⟨0⟩ ⟨0⟩ 0x00 requested (List.replicate 8 0) [] sampleIu Handles.keyedBackend

/-- GET DATA through the open session. -/
def sampleOps : List SessionOp := [.wrap (.scp03 ⟨0⟩) [0x80, 0xCA, 0x00, 0x66, 0x00]]

/-- What the open reports, and the state it leaves. -/
theorem sampleOpen_eq (requested : UInt8) (state : Scp03.Scp03State)
    (h : (sampleOpen requested).1.map (fun p => (p.1.session, p.1.iParam, p.1.securityLevel,
      p.1.kvn)) = .ok (state.session, state.iParam, state.securityLevel, state.kvn)) :
    ∃ ea, sampleOpen requested = (.ok (state, ea), (sampleOpen requested).2) := by
  cases hopen : (sampleOpen requested).1 with
  | error e =>
    rw [hopen] at h
    cases h
  | ok p =>
    obtain ⟨⟨session, iParam, level, kvn⟩, ea⟩ := p
    rw [hopen] at h
    have h' := Except.ok.inj h
    simp only [Prod.mk.injEq] at h'
    obtain ⟨rfl, rfl, rfl, rfl⟩ := h'
    exact ⟨ea, Prod.ext hopen rfl⟩

/-- The response `66 00 ‖ R-MAC ‖ 9000`, delivered after one command at level `13`. -/
theorem authenticated_delivery_get_data :
    ∃ slot, Verified Primitives.xorCipher slot
      [0x66, 0x00, 0x66, 0x48, 0x83, 0x66, 0x98, 0xC0, 0x40, 0x40, 0x90, 0x00]
      [0x66, 0x00, 0x90, 0x00] := by
  obtain ⟨ea, hopen⟩ := sampleOpen_eq 0x13 ⟨⟨0⟩, 0x60, 0x13, 0x01⟩
    (by decide +kernel)
  have hlive : ∀ e ∈ run (sessionStep Primitives.xorCipher) sampleOps (sampleOpen 0x13).2,
      ¬Handles.EndsAt e (.scp03 ⟨0⟩) := by
    simp only [sampleOps, run, List.forall_mem_singleton, Handles.EndsAt, Ends]
    rintro (h | ⟨_, _, h, _⟩) <;> cases h
  obtain ⟨slot, body, sw1, sw2, -, -, hrapdu, hprot, -⟩ :=
    authenticated_delivery Primitives.xorCipher ⟨0⟩ ⟨0⟩ 0x00 0x13 (List.replicate 8 0) []
      sampleIu Handles.keyedBackend (sampleOpen 0x13).2 ⟨⟨0⟩, 0x60, 0x13, 0x01⟩ ea sampleOps
      [0x66, 0x00, 0x66, 0x48, 0x83, 0x66, 0x98, 0xC0, 0x40, 0x40, 0x90, 0x00]
      [0x66, 0x00, 0x90, 0x00] hopen (by decide) hlive (by decide +kernel)
  have hlen := congrArg List.length hrapdu
  simp only [List.length_append, List.length_cons, List.length_nil] at hlen
  have hsw := congrArg (List.drop 10) hrapdu
  rw [List.drop_left' (by omega)] at hsw
  obtain ⟨rfl, htail⟩ := List.cons.inj hsw
  obtain ⟨rfl, -⟩ := List.cons.inj htail
  exact ⟨slot, hprot (.inl ⟨rfl, rfl⟩)⟩

/-- Not everything an R-MAC session delivers is covered by an R-MAC: at level
    `33` the octet before an error status word passes through as it came. -/
theorem error_response_delivered_unverified :
    ¬∀ (requested : UInt8) (state : Scp03.Scp03State) (ea rapdu out : List UInt8)
      (st₁ : RustCryptoBackend Primitives.xorCipher Unit),
      sampleOpen requested = (.ok (state, ea), st₁) →
      (state.securityLevel &&& SL_RMAC ≠ 0 ∨ state.securityLevel &&& SL_RENC ≠ 0) →
      (scp03UnwrapResponse Primitives.xorCipher state.session rapdu st₁).1 = .ok out →
      2 < out.length →
      ∃ slot, st₁.sessions.get state.session.index.toNat = some slot ∧
        Verified Primitives.xorCipher slot rapdu out := by
  intro hclaim
  obtain ⟨ea, hopen⟩ := sampleOpen_eq 0x33 ⟨⟨0⟩, 0x60, 0x33, 0x01⟩
    (by decide +kernel)
  obtain ⟨slot, -, wdata, plain, sw1, sw2, hrapdu, -⟩ := hclaim 0x33 ⟨⟨0⟩, 0x60, 0x33, 0x01⟩ ea
    [0x01, 0x6A, 0x88] [0x01, 0x6A, 0x88] _ hopen (.inl (by decide)) (by decide +kernel)
    (by decide)
  -- an R-MAC alone is longer than the whole response
  have hlen := congrArg List.length hrapdu
  have hmac := length_responseMac Primitives.xorCipher slot wdata [sw1, sw2]
  have hmode : 8 ≤ slot.mode.macLen := by
    cases slot.mode <;> decide
  rw [responseMac] at hmac
  simp only [List.length_append, hmac, List.length_cons, List.length_nil] at hlen
  omega

end Delivery

end Scll
