import Scll.Cap.Sample
import Scll.Manager
import Scll.Negotiation
import Scll.Workflow.Frames

/-! # Slots that nobody holds

    The manager holds at most one session, and the slot behind it is the only one
    it can release. A session that an open derives and then drops, or one that is
    still alive when the next open replaces it, stays in its slot for good. Every
    other call only ever empties slots.
-/

namespace Scll

open BlockMode Run Workflow Cap

variable (P : Primitives) {ρ τ δ : Type}

namespace SlotLeak

/-! ### What is in use -/

/-- The occupied slots of both session tables. -/
def occupiedSlots (st : BackendState ρ) : ℕ := st.sessions.occupied + st.scp02Sessions.occupied

/-- At most one slot is in use, and none without a session. -/
structure NoLeak (m : CardManager τ (RustCryptoBackend P ρ)) : Prop where
  one : occupiedSlots m.world.backend ≤ 1
  none : m.session = none → occupiedSlots m.world.backend = 0

/-- The handle of a session. -/
def handleOf : ScpSession → SessionHandle
  | .scp03 s => .scp03 s.session
  | .scp02 s => .scp02 s.session

/-- Every slot in use is the one of the retained session. -/
def Tidy (m : CardManager τ (RustCryptoBackend P ρ)) : Prop :=
  ∀ h, keysAt m.world.backend h ≠ none → m.session.map handleOf = some h

/-- Tables in which no handle reaches anything are empty. -/
theorem occupiedSlots_eq_zero {st : BackendState ρ} :
    occupiedSlots st = 0 ↔ ∀ h, keysAt st h = none := by
  unfold occupiedSlots
  rw [Nat.add_eq_zero_iff, SlotTable.occupied_eq_zero, SlotTable.occupied_eq_zero]
  constructor
  · rintro ⟨h03, h02⟩ h
    cases h with
    | scp03 s => simp [keysAt, h03]
    | scp02 s => simp [keysAt, h02]
  · intro hnone
    constructor
    · ext1 i
      rw [SlotTable.get_empty]
      by_cases hi : i < MAX_SESSION_SLOTS
      · have := hnone (.scp03 ⟨UInt16.ofNat i⟩)
        simp only [keysAt, slotIndex_toNat ⟨i, hi⟩, Option.map_eq_none_iff] at this
        exact this
      · rw [SlotTable.get, dif_neg hi]
    · ext1 i
      rw [SlotTable.get_empty]
      by_cases hi : i < MAX_SESSION_SLOTS
      · have := hnone (.scp02 ⟨UInt16.ofNat i⟩)
        simp only [keysAt, slotIndex_toNat ⟨i, hi⟩, Option.map_eq_none_iff] at this
        exact this
      · rw [SlotTable.get, dif_neg hi]

/-- Tables in which one handle alone reaches anything have one slot in use. -/
theorem occupiedSlots_le_one {st : BackendState ρ} {g : SessionHandle}
    (h : ∀ h, keysAt st h ≠ none → h = g) : occupiedSlots st ≤ 1 := by
  -- emptying the slot behind that handle empties both tables
  cases g with
  | scp03 s =>
    have hempty : occupiedSlots { st with sessions := st.sessions.set s.index.toNat none } = 0 :=
      occupiedSlots_eq_zero.mpr (by
        intro h'
        rw [keysAt_set03 st s none (.inr rfl)]
        split
        · rfl
        · next hne =>
          by_contra hsome
          exact hne (h h' hsome))
    obtain ⟨h03, h02⟩ := Nat.add_eq_zero_iff.mp hempty
    exact Nat.add_le_add (SlotTable.occupied_le_one h03) h02.le
  | scp02 s =>
    have hempty : occupiedSlots
        { st with scp02Sessions := st.scp02Sessions.set s.index.toNat none } = 0 :=
      occupiedSlots_eq_zero.mpr (by
        intro h'
        rw [keysAt_set02 st s none (.inr rfl)]
        split
        · rfl
        · next hne =>
          by_contra hsome
          exact hne (h h' hsome))
    obtain ⟨h03, h02⟩ := Nat.add_eq_zero_iff.mp hempty
    exact Nat.add_le_add h03.le (SlotTable.occupied_le_one h02)

theorem Tidy.noLeak {m : CardManager τ (RustCryptoBackend P ρ)} (h : Tidy P m) : NoLeak P m := by
  cases hsession : m.session with
  | none =>
    have hnone : ∀ g, keysAt m.world.backend g = none := by
      intro g
      by_contra hg
      have := h g hg
      rw [hsession] at this
      cases this
    have hzero := occupiedSlots_eq_zero.mpr hnone
    exact ⟨by omega, fun _ => hzero⟩
  | some s =>
    refine ⟨occupiedSlots_le_one (g := handleOf s) ?_, fun hn => by rw [hsession] at hn; cases hn⟩
    intro g hg
    have := h g hg
    rw [hsession] at this
    exact (Option.some.inj this).symm

/-! ### Calls that only empty slots -/

/-- No slot is in use that was not before. -/
def fewer : Prog.Frame (World τ (RustCryptoBackend P ρ)) where
  rel w w' := ∀ h, keysAt w'.backend h ≠ none → keysAt w.backend h ≠ none
  refl _ _ h := h
  trans h h' g hg := h g (h' g hg)

/-- A wrap or an unwrap fills no slot. -/
theorem sessionStep_fewer (st : BackendState ρ) {op : SessionOp} {g : SessionHandle}
    (hop : op.Through g) (h : SessionHandle) :
    keysAt (sessionStep P op st).2 h ≠ none → keysAt st h ≠ none := by
  have hnone : ∀ k, derivedKeys P st op ≠ .ok k := by
    intro k hk
    rcases hop with ⟨_, rfl⟩ | ⟨_, rfl⟩ <;> cases hk
  have heffect := sessionStep_effect P st op
  generalize (sessionStep P op st).2 = st', (sessionStep P op st).1 = r at heffect
  intro hsome
  cases heffect with
  | refused e same live => rwa [same] at hsome
  | opened g' k derived empty keys => exact absurd derived (hnone k)
  | used g' k out through live uses keys => rwa [keys] at hsome
  | tornDown g' rapdu e unwrap refused keys =>
    rw [keys] at hsome
    split at hsome
    · exact absurd rfl hsome
    · exact hsome
  | closed g' close keys =>
    rw [keys] at hsome
    split at hsome
    · exact absurd rfl hsome
    · exact hsome

/-- A derivation fills the slot of its own session only. -/
theorem derive_slots {st st' : BackendState ρ} {op : SessionOp} {h : SessionHandle}
    (hstep : sessionStep P op st = (.opened h, st')) (g : SessionHandle)
    (hg : keysAt st' g ≠ none) : g = h ∨ keysAt st g ≠ none := by
  have heffect := sessionStep_effect P st op
  rw [hstep] at heffect
  cases heffect with
  | opened _ k derived empty keys =>
    rw [keys] at hg
    split at hg
    · next heq => exact .inl heq
    · exact .inr hg

/-- A backend call that fails and changes nothing, in the world. -/
theorem onBackend_refused {α : Type} {m : Prog (RustCryptoBackend P ρ) ScllError α}
    {w : World τ (RustCryptoBackend P ρ)} (h : ∃ e, m w.backend = (.error e, w.backend)) :
    ∃ e, onBackend m w = (.error e, w) := by
  obtain ⟨e, he⟩ := h
  exact ⟨e, onBackend_run he⟩

section calls

theorem wrapCommand_state (session : ScpSession) (capdu : Capdu) (st : RustCryptoBackend P ρ) :
    (wrapCommand session capdu st).2 =
      (sessionStep P (.wrap (handleOf session) capdu) st).2 := by
  cases session <;> rfl

theorem unwrapResponse_state (session : ScpSession) (rapdu : List UInt8)
    (st : RustCryptoBackend P ρ) :
    (unwrapResponse session rapdu st).2 =
      (sessionStep P (.unwrap (handleOf session) rapdu) st).2 := by
  cases session <;> rfl

variable [Transport τ]

theorem exchange_fewer (plain wire : Capdu) :
    (exchange plain wire : Prog (World τ (RustCryptoBackend P ρ)) ScllError _).Keeps
      (fewer P) :=
  .bind (fun _ _ h => h) fun _ _ _ h => h

theorem transmitPlain_fewer (capdu : Capdu) :
    (transmitPlain capdu : Prog (World τ (RustCryptoBackend P ρ)) ScllError _).Keeps (fewer P) :=
  .bind (exchange_fewer P _ _) fun _ => .lift _

theorem transmitInSession_fewer (session : ScpSession) (capdu : Capdu) :
    (transmitInSession session capdu : Prog (World τ (RustCryptoBackend P ρ)) ScllError _).Keeps
      (fewer P) := by
  refine .bind ?_ fun wrapped => .bind (exchange_fewer P _ _) fun rapdu => .bind ?_ fun _ => .lift _
  · intro w h hsome
    rw [show ((onBackend (wrapCommand session capdu) w).2).backend =
      (wrapCommand session capdu w.backend).2 from rfl, wrapCommand_state] at hsome
    exact sessionStep_fewer P _ (.inl ⟨capdu, rfl⟩) h hsome
  · intro w h hsome
    rw [show ((onBackend (unwrapResponse session rapdu.octets) w).2).backend =
      (unwrapResponse session rapdu.octets w.backend).2 from rfl, unwrapResponse_state] at hsome
    exact sessionStep_fewer P _ (.inr ⟨rapdu.octets, rfl⟩) h hsome

/-- Without a channel, no slot is touched. -/
theorem fewer_keptPlain : KeptPlain (fewer (τ := τ) (ρ := ρ) P) where
  transmit := transmitPlain_fewer P
  reset := fun _ _ h => h

variable [RngCore ρ]

theorem putKeyCommand_leaves (session : ScpSession) (args : PutSdKeysArgs) :
    (putKeyCommand session args : Prog (RustCryptoBackend P ρ) ScllError _).Leaves := by
  have hencrypt : ∀ new, (encryptNewKey session args.dek new :
      Prog (RustCryptoBackend P ρ) ScllError _).Leaves := by
    intro new
    cases session with
    | scp03 s => exact .mapErr _ (.query _)
    | scp02 s => exact .mapErr _ (.query _)
  have hkcv : ∀ key, (ofBackend (KeyBackend.computeKcv key) :
      Prog (RustCryptoBackend P ρ) ScllError _).Leaves := fun _ => .mapErr _ (.query _)
  refine .bind (hencrypt _) fun _ => .bind (hencrypt _) fun _ => .bind (hencrypt _) fun _ => ?_
  refine .bind (hkcv _) fun _ => .bind (hkcv _) fun _ => .bind (hkcv _) fun _ => ?_
  exact .bind (.lift _) fun _ => .pure _

/-- In session, slots are only emptied. -/
theorem fewer_keptInSession (session : ScpSession) :
    KeptInSession (fewer (τ := τ) (ρ := ρ) P) session where
  transmit := transmitInSession_fewer P session
  payload args := by
    intro w h hsome
    rwa [show ((onBackend (putKeyCommand session args) w).2).backend =
      (putKeyCommand session args w.backend).2 from rfl, putKeyCommand_leaves] at hsome

end calls

/-! ### An open that settles -/

section opening

/-- The handles reach the same keys in both worlds. -/
def sameSlots : Prog.Frame (World τ (RustCryptoBackend P ρ)) where
  rel w w' := ∀ h, keysAt w'.backend h = keysAt w.backend h
  refl _ _ := rfl
  trans h h' g := (h' g).trans (h g)

section exchanges

variable [Transport τ]

theorem exchange_sameSlots (plain wire : Capdu) :
    (exchange plain wire : Prog (World τ (RustCryptoBackend P ρ)) ScllError _).Keeps
      (sameSlots P) :=
  .bind (fun _ _ => rfl) fun _ _ _ => rfl

theorem transmitPlain_sameSlots (capdu : Capdu) :
    (transmitPlain capdu : Prog (World τ (RustCryptoBackend P ρ)) ScllError _).Keeps
      (sameSlots P) :=
  .bind (exchange_sameSlots P _ _) fun _ => .lift _

theorem selectTarget_sameSlots (args : OpenScpArgs) :
    (selectTarget args : Prog (World τ (RustCryptoBackend P ρ)) ScllError _).Keeps
      (sameSlots P) :=
  .bind (.lift _) fun _ => .bind (.bind (.lift _) fun _ => .bind (transmitPlain_sameSlots P _)
    fun _ => .lift _) fun _ => .bind (.lift _) fun _ => .pure _

end exchanges

variable [RngCore ρ]

theorem randomBytes_sameSlots (n : ℕ) :
    (onBackend (ofBackend (KeyBackend.randomBytes n)) :
      Prog (World τ (RustCryptoBackend P ρ)) ScllError _).Keeps (sameSlots P) := by
  intro w h
  cases h <;> rfl

variable [Transport τ]

theorem challenge03_sameSlots (args : OpenScpArgs) (iParam : UInt8) :
    (challenge03 args iParam : Prog (World τ (RustCryptoBackend P ρ)) ScllError _).Keeps
      (sameSlots P) :=
  .bind (randomBytes_sameSlots P _) fun _ => .bind (.bind (.lift _) fun _ =>
    .bind (transmitPlain_sameSlots P _) fun _ => .lift _) fun _ => .pure _

theorem challenge02_sameSlots (args : OpenScpArgs) :
    (challenge02 args : Prog (World τ (RustCryptoBackend P ρ)) ScllError _).Keeps
      (sameSlots P) :=
  .bind (randomBytes_sameSlots P _) fun _ => .bind (.bind (.lift _) fun _ =>
    .bind (transmitPlain_sameSlots P _) fun _ => .lift _) fun _ => .pure _

/-- The open comes to derive a session: a response to INITIALIZE UPDATE that
    parses, under the pinned key version, with keys to derive from and a free
    slot to derive into. -/
inductive Derives (args : OpenScpArgs) (w : World τ (RustCryptoBackend P ρ)) : Prop where
  | scp03 {target : OpenTarget} {w₀ w₁ : World τ (RustCryptoBackend P ρ)} {iParam : UInt8}
      {hostChallenge iuData : List UInt8} {iu : Scp03.IuResponse} {idx : Fin MAX_SESSION_SLOTS}
      {keys : AesKey × AesKey × AesKey}
      (selected : selectTarget args w = (.ok target, w₀))
      (variant : target.variant = .scp03 iParam)
      (challenged : challenge03 args iParam w₀ = (.ok (hostChallenge, iuData), w₁))
      (parsed : Scp03.parseIuResponse iuData = .ok iu)
      (pinned : args.kvn ≠ 0x00 → iu.kvn = args.kvn)
      (derived : scp03SessionKeys P w₁.backend args.sdKeys.enc args.sdKeys.mac iu.mode
        hostChallenge iu.cardChallenge = .ok keys)
      (free : w₁.backend.sessions.firstFree = some idx)
  | scp02 {target : OpenTarget} {w₀ w₁ : World τ (RustCryptoBackend P ρ)} {iParam : UInt8}
      {hostChallenge : Block 8} {iuData : List UInt8} {iu : Scp02.IuResponse}
      {idx : Fin MAX_SESSION_SLOTS} {keys : TdesKey × TdesKey × TdesKey × TdesKey}
      (selected : selectTarget args w = (.ok target, w₀))
      (variant : target.variant = .scp02 iParam)
      (challenged : challenge02 args w₀ = (.ok (hostChallenge, iuData), w₁))
      (parsed : Scp02.parseIuResponse iuData = .ok iu)
      (pinned : args.kvn ≠ 0x00 → iu.kvn = args.kvn)
      (derived : scp02SessionKeys P w₁.backend args.sdKeys.enc args.sdKeys.mac args.sdKeys.dek
        iu.seqCounter = .ok keys)
      (free : w₁.backend.scp02Sessions.firstFree = some idx)

/-- The card proves itself, and accepts EXTERNAL AUTHENTICATE. -/
def Accepted (args : OpenScpArgs) (w : World τ (RustCryptoBackend P ρ)) : Prop :=
  ∃ target w₀ ea opened w₁ w₂, selectTarget args w = (.ok target, w₀) ∧
    Begun args target w₀ ea opened w₁ ∧ externalAuthenticate ea w₁ = (.ok (), w₂)

/-- An open that derives a session does so into empty tables, and keeps it. Every
    other call does as it is. -/
def Settles (m : CardManager τ (RustCryptoBackend P ρ)) : ManagerOp τ δ → Prop
  | .openScp args => Derives P args m.world →
      occupiedSlots m.world.backend = 0 ∧ Accepted P args m.world
  | _ => True

/-- The slots after a `begin` that succeeded: one more, behind the session. -/
theorem begun_slots {args : OpenScpArgs} {target : OpenTarget} {ea : Capdu} {opened : Opened}
    {w w' : World τ (RustCryptoBackend P ρ)} (h : Begun args target w ea opened w')
    (g : SessionHandle) (hg : keysAt w'.backend g ≠ none) :
    g = handleOf opened.session ∨ keysAt w.backend g ≠ none := by
  -- the challenge fills no slot, the derivation one, and the wrap none
  cases h with
  | @scp03 iParam hostChallenge iuData w₁ _ state _ b variant challenge parsed begun =>
    obtain ⟨iu, s, level, eaPlain, st₁, -, -, hderive, -, hwrap, rfl⟩ :=
      (Scp03.begin_eq_ok P).mp begun
    have hsame := challenge03_sameSlots P args iParam w g
    rw [challenge] at hsame
    rw [← hsame]
    have hderived : sessionStep P (.derive03 args.sdKeys.enc args.sdKeys.mac iu.mode hostChallenge
        iu.cardChallenge) w₁.backend = (.opened (.scp03 s), st₁) := by
      simp only [sessionStep, hderive]
      rfl
    have hwrapped : (sessionStep P (.wrap (.scp03 s) eaPlain) st₁).2 = b :=
      congrArg Prod.snd hwrap
    rw [← hwrapped] at hg
    exact derive_slots P hderived g (sessionStep_fewer P st₁ (.inl ⟨_, rfl⟩) g hg)
  | @scp02 iParam hostChallenge iuData w₁ _ state _ b variant challenge parsed begun =>
    obtain ⟨iu, s, level, eaPlain, st₁, -, -, hderive, -, hwrap, rfl⟩ :=
      (Scp02.begin_eq_ok P).mp begun
    have hsame := challenge02_sameSlots P args w g
    rw [challenge] at hsame
    rw [← hsame]
    have hderived : sessionStep P (.derive02 args.sdKeys.enc args.sdKeys.mac args.sdKeys.dek
        iu.seqCounter) w₁.backend = (.opened (.scp02 s), st₁) := by
      simp only [sessionStep, hderive]
      rfl
    have hwrapped : (sessionStep P (.wrap (.scp02 s) eaPlain) st₁).2 = b :=
      congrArg Prod.snd hwrap
    rw [← hwrapped] at hg
    exact derive_slots P hderived g (sessionStep_fewer P st₁ (.inl ⟨_, rfl⟩) g hg)

theorem handshake03_of_not_derives {args : OpenScpArgs} {target : OpenTarget} {iParam : UInt8}
    {w w₀ : World τ (RustCryptoBackend P ρ)} (h : ¬Derives P args w)
    (htarget : selectTarget args w = (.ok target, w₀)) (hvariant : target.variant = .scp03 iParam) :
    ∃ e w', handshake args target w₀ = (.error e, w') ∧ (sameSlots P).rel w₀ w' := by
  have hsame := challenge03_sameSlots P args iParam w₀
  unfold handshake
  rw [hvariant]
  dsimp only
  rcases hchallenge : challenge03 args iParam w₀ with ⟨r, w₁⟩
  rw [hchallenge] at hsame
  cases r with
  | error e => exact ⟨e, w₁, Prog.bind_error hchallenge, hsame⟩
  | ok p =>
    obtain ⟨hostChallenge, iuData⟩ := p
    -- the only way on from here is a derivation, which was excluded
    have hrefused : ∃ e, Scp03.begin args.sdKeys.enc args.sdKeys.mac args.kvn args.requestedLevel
        hostChallenge target.invokerAid.bytes iuData w₁.backend = (.error e, w₁.backend) := by
      apply Scp03.begin_refuses
      intro iu hparse hpin
      rcases scp03DeriveSession_cases P w₁.backend args.sdKeys.enc args.sdKeys.mac iu.mode
        hostChallenge iu.cardChallenge with he | ⟨sEnc, sMac, sRmac, idx, hkeys, hfree, -⟩
      · exact he
      · exact absurd (.scp03 htarget hvariant hchallenge hparse hpin hkeys hfree) h
    obtain ⟨e, he⟩ := onBackend_refused P hrefused
    rw [Prog.bind_ok hchallenge]
    unfold authenticate03
    cases Scp03.parseIuResponse iuData with
    | error e => exact ⟨e, w₁, rfl, hsame⟩
    | ok iu =>
      exact ⟨e, w₁, (Prog.bind_ok (Prog.lift_run (.ok iu) w₁)).trans (Prog.bind_error he), hsame⟩

theorem handshake02_of_not_derives {args : OpenScpArgs} {target : OpenTarget} {iParam : UInt8}
    {w w₀ : World τ (RustCryptoBackend P ρ)} (h : ¬Derives P args w)
    (htarget : selectTarget args w = (.ok target, w₀)) (hvariant : target.variant = .scp02 iParam) :
    ∃ e w', handshake args target w₀ = (.error e, w') ∧ (sameSlots P).rel w₀ w' := by
  have hsame := challenge02_sameSlots P args w₀
  unfold handshake
  rw [hvariant]
  dsimp only
  rcases hchallenge : challenge02 args w₀ with ⟨r, w₁⟩
  rw [hchallenge] at hsame
  cases r with
  | error e => exact ⟨e, w₁, Prog.bind_error hchallenge, hsame⟩
  | ok p =>
    obtain ⟨hostChallenge, iuData⟩ := p
    -- the only way on from here is a derivation, which was excluded
    have hrefused : ∃ e, Scp02.begin args.sdKeys.enc args.sdKeys.mac args.sdKeys.dek iParam
        args.kvn args.requestedLevel hostChallenge iuData w₁.backend =
        (.error e, w₁.backend) := by
      apply Scp02.begin_refuses
      intro iu hparse hpin
      rcases scp02DeriveSession_cases P w₁.backend args.sdKeys.enc args.sdKeys.mac
        args.sdKeys.dek iu.seqCounter with he | ⟨sEnc, sMac, sRmac, sDek, idx, hkeys, hfree, -⟩
      · exact he
      · exact absurd (.scp02 htarget hvariant hchallenge hparse hpin hkeys hfree) h
    obtain ⟨e, he⟩ := onBackend_refused P hrefused
    rw [Prog.bind_ok hchallenge]
    unfold authenticate02
    cases Scp02.parseIuResponse iuData with
    | error e => exact ⟨e, w₁, rfl, hsame⟩
    | ok iu =>
      exact ⟨e, w₁, (Prog.bind_ok (Prog.lift_run (.ok iu) w₁)).trans (Prog.bind_error he), hsame⟩

/-- An open that comes to derive no session fails, and leaves every slot as it was. -/
theorem openScp_of_not_derives {args : OpenScpArgs} {w : World τ (RustCryptoBackend P ρ)}
    (h : ¬Derives P args w) :
    ∃ e w', openScp args w = (.error e, w') ∧ (sameSlots P).rel w w' := by
  have hselect := selectTarget_sameSlots P args w
  unfold openScp
  rcases htarget : selectTarget args w with ⟨r, w₀⟩
  rw [htarget] at hselect
  cases r with
  | error e => exact ⟨e, w₀, Prog.bind_error htarget, hselect⟩
  | ok target =>
    rw [Prog.bind_ok htarget]
    have hhandshake : ∃ e w', handshake args target w₀ = (.error e, w') ∧
        (sameSlots P).rel w₀ w' := by
      cases hvariant : target.variant with
      | scp03 iParam => exact handshake03_of_not_derives P h htarget hvariant
      | scp02 iParam => exact handshake02_of_not_derives P h htarget hvariant
    obtain ⟨e, w', he, hsame⟩ := hhandshake
    exact ⟨e, w', Prog.bind_error he, (sameSlots P).trans hselect hsame⟩

/-- An accepted open leaves one slot more at most, behind the session it reports. -/
theorem openScp_of_accepted {args : OpenScpArgs} {w : World τ (RustCryptoBackend P ρ)}
    (h : Accepted P args w) :
    ∃ report w', openScp args w = (.ok report, w') ∧
      ∀ g, keysAt w'.backend g ≠ none →
        g = handleOf report.session ∨ keysAt w.backend g ≠ none := by
  obtain ⟨target, w₀, ea, opened, w₁, w₂, htarget, hbegun, hea⟩ := h
  refine ⟨_, w₂, openScp_of_begun htarget hbegun hea, ?_⟩
  intro g hg
  have hsame := selectTarget_sameSlots P args w g
  have hbackend := (externalAuthenticate_sent ea w₁).2
  rw [htarget] at hsame
  rw [hea] at hbackend
  rw [hbackend] at hg
  rw [← hsame]
  exact begun_slots P hbegun g hg

end opening

/-! ### The manager -/

section manager

/-- A manager call that keeps every slot in use behind the retained session. -/
def StaysTidy {α : Type} (m : Prog (CardManager τ (RustCryptoBackend P ρ)) ScllError α) : Prop :=
  ∀ s, Tidy P s → Tidy P (m s).2

theorem staysTidy_workflow {α : Type} {m : Prog (World τ (RustCryptoBackend P ρ)) ScllError α}
    (h : m.Keeps (fewer P)) : StaysTidy P (CardManager.workflow m) :=
  fun s htidy g hg => htidy g (h s.world g hg)

theorem staysTidy_inSession {α : Type}
    {m : ScpSession → Prog (World τ (RustCryptoBackend P ρ)) ScllError α}
    (h : ∀ session, (m session).Keeps (fewer P)) : StaysTidy P (CardManager.inSession m) := by
  intro s htidy
  unfold CardManager.inSession
  rw [Prog.bind_ok (Prog.read_run s)]
  cases hsession : s.session with
  | none => exact htidy
  | some session => exact staysTidy_workflow P (h session) s htidy

theorem staysTidy_inSessionWith {α : Type}
    {m : Capdu.PrivLen → ScpSession → Prog (World τ (RustCryptoBackend P ρ)) ScllError α}
    (h : ∀ privLen session, (m privLen session).Keeps (fewer P)) :
    StaysTidy P (CardManager.inSessionWith m) := by
  intro s htidy
  unfold CardManager.inSessionWith
  rw [Prog.bind_ok (Prog.read_run s)]
  exact staysTidy_inSession P (h s.privLen) s htidy

theorem staysTidy_close (s : CardManager τ (RustCryptoBackend P ρ)) (htidy : Tidy P s) :
    Tidy P s.close := by
  unfold CardManager.close
  cases hsession : s.session with
  | none => exact htidy
  | some session =>
    intro g hg
    have hset : keysAt
        (CardManager.closeSession (β := RustCryptoBackend P ρ) session s.world.backend) g =
        if g = handleOf session then none else keysAt s.world.backend g := by
      cases session with
      | scp03 st => exact keysAt_set03 s.world.backend st.session none (.inr rfl) g
      | scp02 st => exact keysAt_set02 s.world.backend st.session none (.inr rfl) g
    rw [hset] at hg
    split at hg
    · exact absurd rfl hg
    · next hne =>
      have := htidy g hg
      rw [hsession] at this
      exact absurd (Option.some.inj this).symm hne

variable [Transport τ]

theorem staysTidy_discover (aid : Option (List UInt8)) :
    StaysTidy P (CardManager.discover aid :
      Prog (CardManager τ (RustCryptoBackend P ρ)) ScllError _) := by
  intro s htidy
  have hkept := staysTidy_workflow P (discoverCard_keeps (fewer_keptPlain P) aid) s htidy
  unfold CardManager.discover
  rw [Prog.bind_run]
  split
  · next heq =>
    rw [heq] at hkept
    exact hkept
  · next heq =>
    rw [heq] at hkept
    exact hkept

variable [RngCore ρ]

/-- An open that settles keeps every slot in use behind the retained session. -/
theorem tidy_openScp {args : OpenScpArgs} {s : CardManager τ (RustCryptoBackend P ρ)}
    (hsettles : Derives P args s.world →
      occupiedSlots s.world.backend = 0 ∧ Accepted P args s.world)
    (htidy : Tidy P s) : Tidy P (CardManager.openScp args s).2 := by
  -- an open that derives into empty tables fills one slot, and retains the session of it
  by_cases hderives : Derives P args s.world
  · obtain ⟨hzero, haccepted⟩ := hsettles hderives
    obtain ⟨report, w', hopen, hslots⟩ := openScp_of_accepted P haccepted
    have hrun : CardManager.workflow (openScp args) s = (.ok report, { s with world := w' }) := by
      unfold CardManager.workflow Prog.zoom
      rw [hopen]
    unfold CardManager.openScp
    rw [Prog.bind_ok hrun]
    intro g hg
    rcases hslots g hg with rfl | hold
    · rfl
    · exact absurd (occupiedSlots_eq_zero.mp hzero g) hold
  · obtain ⟨e, w', hopen, hsame⟩ := openScp_of_not_derives P hderives
    have hrun : CardManager.workflow (openScp args) s = (.error e, { s with world := w' }) := by
      unfold CardManager.workflow Prog.zoom
      rw [hopen]
    unfold CardManager.openScp
    rw [Prog.bind_error hrun]
    intro g hg
    exact htidy g (by rw [← hsame g]; exact hg)

/-- Every call that settles keeps every slot in use behind the retained session. -/
theorem tidy_step (I : Inflater δ) {s : CardManager τ (RustCryptoBackend P ρ)}
    {op : ManagerOp τ δ} (hsettles : Settles P s op) (htidy : Tidy P s) :
    Tidy P (managerStep I op s).2 := by
  have hk := fewer_keptInSession (τ := τ) (ρ := ρ) P
  cases op with
  | transportMut f => exact htidy
  | probe name => exact staysTidy_workflow P (.query _) s htidy
  | discover aid => exact staysTidy_discover P aid s htidy
  | openScp args => exact tidy_openScp P hsettles htidy
  | closeChannel => exact staysTidy_close P s htidy
  -- every other call works through the retained session, and fills no slot
  | transmit capdu => exact staysTidy_inSession P (fun _ => transmit_keeps (hk _) _) s htidy
  | putSdKeys args => exact staysTidy_inSession P (fun _ => putSdKeys_keeps (hk _) _) s htidy
  | deleteSdKeyset kvn aid =>
    exact staysTidy_inSession P (fun _ => deleteSdKeyset_keeps (hk _) _ _) s htidy
  | createSsd args =>
    exact staysTidy_inSessionWith P (fun _ _ => createSsd_keeps (hk _) _ _) s htidy
  | loadPackage args infl =>
    exact staysTidy_inSession P (fun _ => loadPackage_keeps (hk _) I _ _) s htidy
  | deleteSsd aid requested =>
    exact staysTidy_inSession P (fun _ => deleteSsd_keeps (hk _) _ _) s htidy
  | installApplet args =>
    exact staysTidy_inSessionWith P (fun _ _ => installApplet_keeps (hk _) _ _) s htidy
  | deleteApplet args => exact staysTidy_inSession P (fun _ => deleteApplet_keeps (hk _) _) s htidy
  | getCardStatus aid => exact staysTidy_inSession P (fun _ => getCardStatus_keeps (hk _) _) s htidy
  | getCardInventory aid =>
    exact staysTidy_inSession P (fun _ => getCardInventory_keeps (hk _) _) s htidy
  | setCardStatus args =>
    exact staysTidy_inSession P (fun _ => setCardStatus_keeps (hk _) _) s htidy

/-- In a run whose opens all settle every slot in use is the retained session's. -/
theorem tidy_of_settled (I : Inflater δ) {transport : τ} {backend : RustCryptoBackend P ρ}
    (hempty : occupiedSlots backend = 0) {ops : List (ManagerOp τ δ)}
    (hsettles : ∀ e ∈ run (managerStep I) ops (CardManager.new transport backend),
      Settles P e.before e.op) :
    ∀ e ∈ run (managerStep I) ops (CardManager.new transport backend), Tidy P e.after := by
  intro e he
  have hstart : Tidy P (CardManager.new transport backend) :=
    fun g hg => absurd (occupiedSlots_eq_zero.mp hempty g) hg
  have hstep : ∀ x ∈ run (managerStep I) ops (CardManager.new transport backend),
      IsStep (managerStep I) x → Tidy P x.before → Tidy P x.after := by
    intro x hx hx' htidy
    have hafter : (managerStep I x.op x.before).2 = x.after := congrArg Prod.snd hx'
    rw [← hafter]
    exact tidy_step P I (hsettles x hx) htidy
  -- the events before this one are steps of the same run
  obtain ⟨es, fs, hrun⟩ := List.append_of_mem he
  obtain ⟨hbefore, hisStep⟩ := before_eq_final _ hrun
  obtain ⟨ops₁, _, -, hes, -⟩ := run_eq_append _ hrun
  have htidy : Tidy P e.before := by
    rw [hbefore, hes]
    refine final_of_step _ ?_ hstart
    intro x hx
    exact hstep x (by rw [hrun, hes]; exact List.mem_append_left _ hx)
  exact hstep e he hisStep htidy

/-- No slot leaks in a run whose opens all settle: when every open that derives a
    session derives it into empty tables and has it accepted, then after every
    call at most one slot of both tables is in use, and none without a session. -/
theorem settled_runs_leak_nothing (I : Inflater δ) (transport : τ) (backend : RustCryptoBackend P ρ)
    (hempty : occupiedSlots backend = 0) (ops : List (ManagerOp τ δ))
    (hsettles : ∀ e ∈ run (managerStep I) ops (CardManager.new transport backend),
      Settles P e.before e.op) :
    ∀ e ∈ run (managerStep I) ops (CardManager.new transport backend), NoLeak P e.after :=
  fun e he => (tidy_of_settled P I hempty hsettles e he).noLeak P

/-- The backend that such a run gives back has no slot in use. -/
theorem intoParts_of_settled (I : Inflater δ) {transport : τ} {backend : RustCryptoBackend P ρ}
    (hempty : occupiedSlots backend = 0) {ops : List (ManagerOp τ δ)}
    (hsettles : ∀ e ∈ run (managerStep I) ops (CardManager.new transport backend),
      Settles P e.before e.op) :
    ∀ e ∈ run (managerStep I) ops (CardManager.new transport backend),
      occupiedSlots e.after.intoParts.2 = 0 := by
  intro e he
  have hclosed := staysTidy_close P e.after (tidy_of_settled P I hempty hsettles e he)
  refine (hclosed.noLeak P).none ?_
  unfold CardManager.close
  cases hsession : e.after.session with
  | none => exact hsession
  | some session => rfl

/-- An open that succeeds was accepted. -/
theorem accepted_of_ok {args : OpenScpArgs} {report : OpenScpReport}
    {w w' : World τ (RustCryptoBackend P ρ)} (h : openScp args w = (.ok report, w')) :
    Accepted P args w := by
  rcases openScp_cases args w with
    ⟨e, w'', he, -⟩ | ⟨target, w₀, ea, opened, w₁, htarget, hbegun, hrun⟩
  · rw [h] at he
    cases he
  · rw [h] at hrun
    obtain ⟨opened', w₂, hfinish, -⟩ := Prog.bind_eq_ok.mp hrun.symm
    obtain ⟨_, w₃, hea, -⟩ := Prog.bind_eq_ok.mp hfinish
    exact ⟨target, w₀, ea, opened, w₁, w₃, htarget, hbegun, hea⟩

end manager

/-! ### Two runs -/

/-- A manager over the keyed backend and a card that answers EXTERNAL AUTHENTICATE
    with `sw`. -/
def managerOf (sw : UInt16) : CardManager Script (RustCryptoBackend Primitives.xorCipher Unit) :=
  .new ⟨[Rapdu.ofAnswer [] SW_OK, Rapdu.ofAnswer (echoing 0x60) SW_OK, Rapdu.ofAnswer [] sw]⟩
    Handles.keyedBackend

theorem keyedBackend_empty : occupiedSlots Handles.keyedBackend = 0 := by
  unfold occupiedSlots Handles.keyedBackend BackendState.new
  simp

/-- Open a channel, and close it. -/
def openAndClose : List (ManagerOp Script (Option ℕ)) := [.openScp fullArgs, .closeChannel]

theorem openScp_accepted : (openScp fullArgs (managerOf SW_OK).world).1.isOk = true := by
  decide +kernel

theorem settled_runs_leak_nothing_open_and_close :
    (run (managerStep storedInflater) openAndClose (managerOf SW_OK)).length = 2 ∧
      ∀ e ∈ run (managerStep storedInflater) openAndClose (managerOf SW_OK),
        NoLeak Primitives.xorCipher e.after := by
  refine ⟨rfl, settled_runs_leak_nothing Primitives.xorCipher storedInflater _ _
    keyedBackend_empty openAndClose ?_⟩
  simp only [openAndClose, run, List.forall_mem_cons, List.not_mem_nil, false_imp_iff,
    implies_true, and_true]
  refine ⟨fun _ => ⟨keyedBackend_empty, ?_⟩, trivial⟩
  have hok := openScp_accepted
  cases hrun : (openScp fullArgs (managerOf SW_OK).world).1 with
  | error e =>
    rw [hrun] at hok
    cases hok
  | ok report => exact accepted_of_ok Primitives.xorCipher (Prod.ext hrun rfl)

/-- An open whose EXTERNAL AUTHENTICATE is answered `6300` fails, and the session
    it derived stays in its slot. -/
theorem refused_open_leaks :
    ¬∀ (transport : Script) (backend : RustCryptoBackend Primitives.xorCipher Unit)
      (ops : List (ManagerOp Script (Option ℕ))), occupiedSlots backend = 0 →
      ∀ e ∈ run (managerStep storedInflater) ops (CardManager.new transport backend),
        NoLeak Primitives.xorCipher e.after := by
  intro hnone
  have hleak : occupiedSlots
      (managerStep storedInflater (.openScp fullArgs) (managerOf 0x6300)).2.world.backend = 1 := by
    decide +kernel
  have hsession : (managerStep storedInflater (.openScp fullArgs)
      (managerOf 0x6300)).2.session.isNone = true := by decide +kernel
  have hafter := hnone (managerOf 0x6300).world.transport Handles.keyedBackend
    [.openScp fullArgs] keyedBackend_empty
    ⟨.openScp fullArgs, managerOf 0x6300,
      (managerStep storedInflater (.openScp fullArgs) (managerOf 0x6300)).1,
      (managerStep storedInflater (.openScp fullArgs) (managerOf 0x6300)).2⟩ List.mem_cons_self
  rw [hafter.none (Option.isNone_iff_eq_none.mp hsession)] at hleak
  cases hleak

end SlotLeak

end Scll
