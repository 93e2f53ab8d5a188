import Scll.Framework.Guard
import Scll.Workflow.Frames
import Scll.Workflow.Paging

/-! # Refusals of the host

    A workflow refuses some of what it is asked for on its own account: an AID of
    the wrong length, a command that does not fit, a privilege it does not
    support, a CAP it cannot read, a life-cycle move that is not allowed. Such a
    refusal is to leave the card as it was. `Call.Checked` says which arguments
    are refused in time, and here it is shown to be enough.
-/

namespace Scll

/-- The errors with which the host refuses its arguments. -/
def ScllError.fromHost : ScllError → Bool
  | .invalidAid _ => true
  | .build _ => true
  | .unsupportedPrivilege => true
  | .cap _ => true
  | .loadTooLarge => true
  | _ => false

/-- The life-cycle refusals. The first is also made of a card's `6985`. -/
def ScllError.ofLifecycle : ScllError → Bool
  | .illegalLifecycleTransition => true
  | .terminateOutOfScope => true
  | _ => false

def ScllError.hostSide (e : ScllError) : Bool := e.fromHost || e.ofLifecycle

namespace Workflow

open Cap

section exchanges

variable {τ β : Type}

/-- What was sent changes nothing on the card. -/
def harmless : Prog.Frame (World τ β) where
  rel w w' := ∃ cmds, w'.sent = w.sent ++ cmds ∧ ∀ c ∈ cmds, Capdu.stateChanging c = false
  refl w := ⟨[], by simp⟩
  trans := by
    intro w₁ w₂ w₃ ⟨cmds, hsent, hcmds⟩ ⟨cmds', hsent', hcmds'⟩
    refine ⟨cmds ++ cmds', by rw [hsent', hsent, List.append_assoc], ?_⟩
    intro c hc
    rcases List.mem_append.mp hc with hc | hc
    · exact hcmds c hc
    · exact hcmds' c hc

variable [Transport τ] [Scp03Backend β] [Scp02Backend β]

/-- Commands and the answers to them, as they were exchanged. -/
inductive Exchanges (session : ScpSession) : List (Capdu × Answer) → World τ β → World τ β → Prop
    where
  | nil (w : World τ β) : Exchanges session [] w w
  | cons {c : Capdu} {a : Answer} {log : List (Capdu × Answer)} {w w₁ w' : World τ β}
      (exchanged : transmitInSession session c w = (.ok a, w₁))
      (rest : Exchanges session log w₁ w') : Exchanges session ((c, a) :: log) w w'

/-- The card has answered with this status word on the way. -/
def AnsweredWith (session : ScpSession) (sw : UInt16) (w w' : World τ β) : Prop :=
  ∃ log, Exchanges session log w w' ∧ ∃ x ∈ log, x.2.2 = sw

/-- A refusal of the host's own: not the word of the card, renamed. -/
def HostRefusal (session : ScpSession) (e : ScllError) (w w' : World τ β) : Prop :=
  e.fromHost = true ∨ e.ofLifecycle = true ∧ ¬AnsweredWith session SW_CONDITIONS w w'

theorem HostRefusal.hostSide {session : ScpSession} {e : ScllError} {w w' : World τ β}
    (h : HostRefusal session e w w') : e.hostSide = true := by
  unfold ScllError.hostSide
  rcases h with h | ⟨h, -⟩
  · rw [h, Bool.true_or]
  · rw [h, Bool.or_true]

end exchanges

/-! ### The calls -/

/-- A call of one of the workflows that change a card. -/
inductive Call (δ : Type) where
  | putSdKeys (args : PutSdKeysArgs)
  | deleteSdKeyset (kvn : UInt8) (targetSdAid : List UInt8)
  | createSsd (args : CreateSsdArgs) (privLen : Capdu.PrivLen)
  | installApplet (args : InstallAppletArgs) (privLen : Capdu.PrivLen)
  | loadPackage (args : LoadPackageArgs) (infl : InflateCtx δ)
  | deleteSsd (ssdAid : List UInt8) (requested : DeleteCascade)
  | deleteApplet (args : DeleteAppletArgs)
  | setCardStatus (args : SetCardStatusArgs)

variable {δ : Type} (I : Inflater δ)

/-- Make a call; its report is dropped. -/
def Call.run {τ β : Type} [Transport τ] [KeyBackend β] [Scp03Backend β] [Scp02Backend β]
    (session : ScpSession) : Call δ → Prog (World τ β) ScllError Unit
  | .putSdKeys args => do
      let _ ← Workflow.putSdKeys session args
      pure ()
  | .deleteSdKeyset kvn targetSdAid => do
      let _ ← Workflow.deleteSdKeyset session kvn targetSdAid
      pure ()
  | .createSsd args privLen => do
      let _ ← Workflow.createSsd session args privLen
      pure ()
  | .installApplet args privLen => do
      let _ ← Workflow.installApplet session args privLen
      pure ()
  | .loadPackage args infl => do
      let _ ← Workflow.loadPackage I session args infl
      pure ()
  | .deleteSsd ssdAid requested => do
      let _ ← Workflow.deleteSsd session ssdAid requested
      pure ()
  | .deleteApplet args => do
      let _ ← Workflow.deleteApplet session args
      pure ()
  | .setCardStatus args => do
      let _ ← Workflow.setCardStatus session args
      pure ()

/-- On every card and backend, from every state: when the call is refused by the
    host, nothing that changes the card was sent. -/
def NoCardEffect (session : ScpSession) (call : Call δ) : Prop :=
  ∀ (τ β : Type) [Transport τ] [KeyBackend β] [Scp03Backend β] [Scp02Backend β]
    (w w' : World τ β) (e : ScllError),
    call.run I session w = (.error e, w') → HostRefusal session e w w' → harmless.rel w w'

/-- The load loop can read all that it goes on to send. -/
def Streams (total : ℕ) : ℕ → LoadFileDataBlock → InflateCtx δ → (sent : ℕ) → Prop
  | 0, _, _, _ => True
  | fuel + 1, s, infl, sent =>
      match s.nextBlock I infl LOAD_BLOCK_DATA with
      | .error _ => False
      | .ok (out, s, infl) =>
          out = [] ∨ total ≤ sent + out.length ∨ Streams total fuel s infl (sent + out.length)

/-- The arguments with which a call is not refused after the first command that
    changes the card: that command does not fit, or what is looked at later is in
    order. -/
def Call.Checked : Call δ → Prop
  | .putSdKeys args => AidLength args.targetSdAid
  | .deleteSdKeyset _ targetSdAid => AidLength targetSdAid
  | .createSsd args privLen => (createSsdCommand args privLen).isOk →
      AidLength args.ssdAid ∧ AidLength args.parentSdAid ∧ AidLength args.elfAid ∧
        AidLength args.moduleAid
  | .installApplet args privLen => (installAppletCommand args privLen).isOk →
      AidLength args.instanceAid ∧ AidLength args.packageAid ∧ AidLength args.moduleAid ∧
        AidLength args.parentSdAid
  | .loadPackage args infl => ∀ cap infl', parse I args.capZip infl = .ok (cap, infl') →
      cap.lfdb.len ≤ MAX_LOAD_BYTES →
      (Capdu.installForLoad cap.packageAid.bytes args.targetSdAid args.lfdbHash).isOk →
        Streams I cap.lfdb.len (cap.lfdb.len + 1) cap.lfdb (infl'.reset I) 0 ∧
          args.lfdbHash.length ≤ HASH_MAX ∧ AidLength args.targetSdAid
  | .deleteSsd ssdAid requested => (Capdu.deleteObject ssdAid (cascadeFlag requested)).isOk →
      AidLength ssdAid
  | .deleteApplet args => (Capdu.deleteObject args.instanceAid false).isOk →
      AidLength args.instanceAid ∧ ∀ elf ∈ cascadeElf args, AidLength elf
  | .setCardStatus _ => True

/-! ### Errors that are not the host's -/

/-- Not a refusal. -/
abbrev Foreign (e : ScllError) : Prop := ¬e.hostSide = true

theorem foreign_general (sw : UInt16) : Foreign (.fromGeneralSw sw) := by
  unfold ScllError.fromGeneralSw
  split_ifs <;> exact Bool.false_ne_true

theorem extend_error {ε : Type} {cap : ℕ} {e e' : ε} {v src : List UInt8}
    (h : extend cap e v src = .error e') : e' = e := by
  unfold extend at h
  split at h
  · exact (Except.error.inj h).symm
  · cases h

theorem foreign_splitSw {rapdu : List UInt8} {e : ScllError} (h : splitSw rapdu = .error e) :
    Foreign e := by
  unfold splitSw at h
  split at h
  · rw [← Except.error.inj h]
    exact Bool.false_ne_true
  · dsimp only at h
    cases hdata : extend RAPDU_MAX (ScllError.card (statusWord rapdu)) []
        (rapdu.take (rapdu.length - 2)) with
    | ok data =>
      rw [hdata, ok_bind] at h
      cases h
    | error e' =>
      rw [hdata, error_bind] at h
      obtain rfl := Except.error.inj h
      rw [extend_error hdata]
      exact Bool.false_ne_true

/-- A status word that a workflow looks at is not made a refusal. -/
def ForeignOutcome (outcome : UInt16 → Except ScllError Unit) : Prop :=
  ∀ sw e, outcome sw = .error e → Foreign e

theorem foreign_requireSw : ForeignOutcome requireSw := by
  intro sw e h
  unfold requireSw at h
  split at h
  · cases h
  · rw [← Except.error.inj h]
    exact foreign_general sw

theorem foreign_installOutcome {notFound duplicate : ScllError} (h : Foreign notFound)
    (h' : Foreign duplicate) : ForeignOutcome (installOutcome notFound duplicate) := by
  intro sw e herr
  unfold installOutcome at herr
  split_ifs at herr
  · exact Except.error.inj herr ▸ h
  · exact Except.error.inj herr ▸ h'
  · exact Except.error.inj herr ▸ foreign_general sw

theorem foreign_deleteKeyOutcome : ForeignOutcome deleteKeyOutcome := by
  intro sw e herr
  unfold deleteKeyOutcome at herr
  split_ifs at herr
  · exact Except.error.inj herr ▸ Bool.false_ne_true
  · exact Except.error.inj herr ▸ foreign_general sw

theorem foreign_deleteSsdOutcome (requested : DeleteCascade) :
    ForeignOutcome (deleteSsdOutcome requested) := by
  intro sw e herr
  unfold deleteSsdOutcome at herr
  split_ifs at herr
  · exact Except.error.inj herr ▸ Bool.false_ne_true
  · exact Except.error.inj herr ▸ Bool.false_ne_true
  · exact Except.error.inj herr ▸ foreign_general sw

theorem foreign_deleteInstanceOutcome : ForeignOutcome deleteInstanceOutcome := by
  intro sw e herr
  unfold deleteInstanceOutcome at herr
  split_ifs at herr
  · exact Except.error.inj herr ▸ Bool.false_ne_true
  · exact Except.error.inj herr ▸ foreign_general sw

theorem foreign_deleteElfOutcome : ForeignOutcome deleteElfOutcome := by
  intro sw e herr
  unfold deleteElfOutcome at herr
  split_ifs at herr
  · exact Except.error.inj herr ▸ Bool.false_ne_true
  · exact Except.error.inj herr ▸ Bool.false_ne_true
  · exact Except.error.inj herr ▸ foreign_general sw

/-- What is returned cannot fail. -/
theorem raises_of_isOk {σ α : Type} {x : Except ScllError α} (h : x.isOk = true) :
    Prog.Raises Foreign (Prog.lift x : Prog σ ScllError α) := by
  intro s e s' hrun
  have hx : x = .error e := (Prod.mk.inj hrun).1
  rw [hx] at h
  cases h

section raises

variable {τ β : Type} [Transport τ] [Scp03Backend β] [Scp02Backend β]
  {session : ScpSession}

theorem ofBackend_raises {σ α : Type} (m : Prog σ BackendError α) :
    Prog.Raises Foreign (ofBackend m) := by
  apply Prog.Raises.mapErr
  intro e
  exact Bool.false_ne_true

theorem wrapCommand_raises (capdu : Capdu) :
    (wrapCommand session capdu : Prog β ScllError Capdu).Raises Foreign := by
  unfold wrapCommand
  split
  · exact ofBackend_raises _
  · exact ofBackend_raises _

theorem unwrapResponse_raises (rapdu : List UInt8) :
    (unwrapResponse session rapdu : Prog β ScllError (List UInt8)).Raises Foreign := by
  unfold unwrapResponse
  split
  · exact ofBackend_raises _
  · exact ofBackend_raises _

/-- Every error of an exchange is the backend's, the transport's or the card's. -/
theorem transmitInSession_raises (capdu : Capdu) :
    (transmitInSession session capdu : Prog (World τ β) ScllError _).Raises Foreign := by
  refine .bind (.zoom (wrapCommand_raises capdu)) fun wrapped => .bind ?_ fun rapdu => ?_
  · refine .bind (.update _) fun _ => .zoom (.mapErr (fun e => ?_) _)
    cases e <;> exact Bool.false_ne_true
  · exact .bind (.zoom (unwrapResponse_raises _)) fun _ => .lift fun _ => foreign_splitSw

theorem transmitInSession_harmless {capdu : Capdu} (h : Capdu.stateChanging capdu = false) :
    (transmitInSession session capdu : Prog (World τ β) ScllError _).Keeps harmless := by
  refine .bind (fun w => harmless.refl w) fun wrapped => .bind ?_ fun rapdu => ?_
  · refine .bind (.update fun w => ⟨[capdu], rfl, ?_⟩) fun _ w => ⟨[], by simp [Prog.zoom]⟩
    intro c hc
    rw [List.mem_singleton.mp hc]
    exact h
  · exact .bind (fun w => harmless.refl w) fun _ => .lift _

theorem command_raises {capdu : Except ScllError Capdu} {outcome : UInt16 → Except ScllError Unit}
    (hbuilt : capdu.isOk = true) (houtcome : ForeignOutcome outcome) :
    (command session capdu outcome : Prog (World τ β) ScllError Unit).Raises Foreign :=
  .bind (raises_of_isOk hbuilt) fun _ => .bind (transmitInSession_raises _) fun _ =>
    .lift fun _ => houtcome _ _

end raises

/-! ### Reports of arguments -/

theorem putKeysReport_isOk {session : ScpSession} {args : PutSdKeysArgs} {kcvs : List UInt8} :
    (putKeysReport session args kcvs).isOk = true ↔ AidLength args.targetSdAid := by
  simp only [putKeysReport, isOk_aid_bind, isOk_ok, exists_prop, and_true]

theorem deleteKeyReport_isOk {kvn : UInt8} {aid : List UInt8} :
    (deleteKeyReport kvn aid).isOk = true ↔ AidLength aid := by
  simp only [deleteKeyReport, isOk_aid_bind, isOk_ok, exists_prop, and_true]

theorem deleteSsdReport_isOk {aid : List UInt8} {requested : DeleteCascade} :
    (deleteSsdReport aid requested).isOk = true ↔ AidLength aid := by
  simp only [deleteSsdReport, isOk_aid_bind, isOk_ok, exists_prop, and_true]

theorem createSsdReport_isOk {args : CreateSsdArgs} :
    (createSsdReport args).isOk = true ↔ AidLength args.ssdAid ∧ AidLength args.parentSdAid ∧
      AidLength args.elfAid ∧ AidLength args.moduleAid ∧
      args.installParams.length ≤ INSTALL_PARAMS_MAX := by
  simp only [createSsdReport, isOk_aid_bind, isOk_copy_bind, isOk_ok, exists_prop, and_true]

theorem installAppletReport_isOk {args : InstallAppletArgs} :
    (installAppletReport args).isOk = true ↔ AidLength args.instanceAid ∧
      AidLength args.packageAid ∧ AidLength args.moduleAid ∧
      args.systemInstallParams.length ≤ INSTALL_PARAMS_MAX ∧
      args.appletInstallParams.length ≤ INSTALL_PARAMS_MAX ∧ AidLength args.parentSdAid := by
  simp only [installAppletReport, isOk_aid_bind, isOk_copy_bind, isOk_ok, exists_prop, and_true]

/-- The parameters that INSTALL carries fit the report. -/
theorem length_installParams {args : CreateSsdArgs} {privLen : Capdu.PrivLen}
    (h : (createSsdCommand args privLen).isOk = true) :
    args.installParams.length ≤ INSTALL_PARAMS_MAX := by
  obtain ⟨c, hc⟩ := isOk_iff.mp h
  obtain ⟨_, -, hc⟩ := bind_eq_ok.mp hc
  obtain ⟨_, -, hc⟩ := bind_eq_ok.mp (ofBuild_eq_ok.mp hc)
  obtain ⟨_, -, hc⟩ := bind_eq_ok.mp hc
  obtain ⟨_, -, hc⟩ := bind_eq_ok.mp hc
  obtain ⟨_, -, hc⟩ := bind_eq_ok.mp hc
  obtain ⟨_, hparams, -⟩ := bind_eq_ok.mp hc
  exact (Capdu.pushLv_eq_ok.mp hparams).2.1

theorem length_pushTlv {out out' value : List UInt8} {tag : UInt8}
    (h : pushTlv out tag value = .ok out') : value.length ≤ INSTALL_PARAMS_MAX := by
  obtain ⟨_, hlen, -⟩ := bind_eq_ok.mp h
  exact (Capdu.lenByte_eq_ok.mp (ofBuild_eq_ok.mp hlen)).1

theorem length_appletParams {args : InstallAppletArgs} {privLen : Capdu.PrivLen}
    (h : (installAppletCommand args privLen).isOk = true) :
    args.systemInstallParams.length ≤ INSTALL_PARAMS_MAX ∧
      args.appletInstallParams.length ≤ INSTALL_PARAMS_MAX := by
  obtain ⟨c, hc⟩ := isOk_iff.mp h
  obtain ⟨_, -, hc⟩ := bind_eq_ok.mp hc
  obtain ⟨_, hparams, -⟩ := bind_eq_ok.mp hc
  obtain ⟨_, happ, hsys⟩ := bind_eq_ok.mp hparams
  refine ⟨?_, length_pushTlv happ⟩
  split at hsys
  · next hempty =>
    rw [List.isEmpty_iff.mp hempty]
    exact Nat.zero_le _
  · exact length_pushTlv hsys

/-- An AID is short enough for DELETE. -/
theorem isOk_deleteObject {aid : List UInt8} (h : AidLength aid) (cascade : Bool) :
    (Capdu.deleteObject aid cascade).isOk = true := by
  have hlen : aid.length ≤ 16 := h.2
  unfold Capdu.deleteObject
  rw [show Capdu.push [] [0x4F] = .ok [0x4F] from rfl, ok_bind,
    Capdu.pushLv_eq_ok.mpr ⟨rfl, by omega, by simp [CAPDU_MAX]; omega⟩, ok_bind]
  exact isOk_iff.mpr ⟨_, Capdu.build_eq_ok.mpr ⟨by simp; omega, rfl⟩⟩

theorem isOk_loadBlock {blockNo : UInt8} {last : Bool} {chunk : List UInt8}
    (h : chunk.length ≤ LOAD_BLOCK_DATA) : (Capdu.loadBlock blockNo last chunk).isOk = true :=
  isOk_iff.mpr ⟨_, Capdu.build_eq_ok.mpr ⟨h.trans (by decide), rfl⟩⟩

theorem isOk_ofBuild {α : Type} {x : Except BuildError α} : (ofBuild x).isOk = x.isOk := by
  cases x <;> rfl

/-! ### In time -/

section guarded

variable {τ β : Type} [Transport τ] [Scp03Backend β] [Scp02Backend β]
  {session : ScpSession}

/-- A command, and a rest that does not refuse once the command was built. -/
theorem command_guarded {α : Type} {capdu : Except ScllError Capdu}
    {outcome : UInt16 → Except ScllError Unit} {rest : Unit → Prog (World τ β) ScllError α}
    (houtcome : ForeignOutcome outcome) (hrest : capdu.isOk = true → (rest ()).Raises Foreign) :
    (command session capdu outcome >>= rest).Guarded harmless (·.hostSide = true) := by
  cases capdu with
  | error e₁ =>
    intro w e w' hrun _
    obtain ⟨-, rfl⟩ := Prod.mk.inj hrun
    exact harmless.refl w
  | ok c => exact .bind_raises (command_raises rfl houtcome).guarded fun _ => hrest rfl

omit [Transport τ] [Scp03Backend β] [Scp02Backend β] in
theorem onBackend_keeps {α : Type} (m : Prog β ScllError α) :
    (onBackend m : Prog (World τ β) ScllError α).Keeps harmless :=
  fun w => harmless.refl w

/-- The load loop does not refuse what it can read: a block always fits. -/
theorem loadLoop_raises (I : Inflater δ) {total fuel : ℕ} {s : LoadFileDataBlock}
    {infl : InflateCtx δ} {sent : ℕ} {blockNo : UInt8} {blocks : UInt16}
    (h : Streams I total fuel s infl sent) :
    (loadLoop I session total fuel s infl sent blockNo blocks :
      Prog (World τ β) ScllError UInt16).Raises Foreign := by
  induction fuel generalizing s infl sent blockNo blocks with
  | zero => exact .pure _
  | succ fuel ih =>
    unfold Streams at h
    unfold loadLoop
    cases hblock : s.nextBlock I infl LOAD_BLOCK_DATA with
    | error e =>
      rw [hblock] at h
      exact h.elim
    | ok p =>
      obtain ⟨out, s₁, infl₁⟩ := p
      rw [hblock] at h
      rw [show ofCap (.ok (out, s₁, infl₁) : Except CapError _) = .ok (out, s₁, infl₁) from rfl,
        Prog.lift_ok_bind]
      dsimp only at h ⊢
      split
      · exact .pure _
      · next hsome =>
        refine .bind (command_raises ?_ foreign_requireSw) fun _ => ?_
        · rw [isOk_ofBuild]
          exact isOk_loadBlock (LoadFileDataBlock.length_nextBlock I hblock)
        · split
          · exact .pure _
          · next hmore =>
            rcases h with h | h | h
            · exact absurd h hsome
            · exact absurd (decide_eq_true h) hmore
            · exact ih h

end guarded

theorem noCardEffect_of_guarded {session : ScpSession} {call : Call δ}
    (h : ∀ (τ β : Type) [Transport τ] [KeyBackend β] [Scp03Backend β] [Scp02Backend β],
      (call.run I session : Prog (World τ β) ScllError Unit).Guarded harmless (·.hostSide = true)) :
    NoCardEffect I session call := by
  intro τ β _ _ _ _ w w' e hrun hrefusal
  exact h τ β w e w' hrun hrefusal.hostSide

/-! ### The calls, one by one -/

section calls

variable {τ β : Type} [Transport τ] [Scp03Backend β] [Scp02Backend β]
  {session : ScpSession}

theorem putSdKeys_guarded [KeyBackend β] {args : PutSdKeysArgs} (h : AidLength args.targetSdAid) :
    (putSdKeys session args : Prog (World τ β) ScllError _).Guarded harmless
      (·.hostSide = true) := by
  refine .bind (onBackend_keeps _) fun built => Prog.Raises.guarded ?_
  refine .bind (transmitInSession_raises _) fun answer => ?_
  refine .bind (.lift fun _ => foreign_requireSw _ _) fun _ => .bind (.lift ?_) fun kcvs => ?_
  · intro e herr
    unfold verifyKcvEcho at herr
    dsimp only at herr
    split at herr
    · exact Except.error.inj herr ▸ Bool.false_ne_true
    · cases herr
  · exact raises_of_isOk (putKeysReport_isOk.mpr h)

theorem deleteSdKeyset_guarded {kvn : UInt8} {aid : List UInt8} (h : AidLength aid) :
    (deleteSdKeyset session kvn aid : Prog (World τ β) ScllError _).Guarded harmless
      (·.hostSide = true) := by
  refine .lift_bind fun capdu _ => Prog.Raises.guarded ?_
  refine .bind (transmitInSession_raises _) fun answer => ?_
  refine .bind (.lift fun _ => foreign_deleteKeyOutcome _ _) fun _ => ?_
  exact raises_of_isOk (deleteKeyReport_isOk.mpr h)

theorem createSsd_guarded {args : CreateSsdArgs} {privLen : Capdu.PrivLen}
    (h : (Call.createSsd args privLen).Checked I) :
    (createSsd session args privLen : Prog (World τ β) ScllError _).Guarded harmless
      (·.hostSide = true) := by
  refine command_guarded
    (foreign_installOutcome Bool.false_ne_true Bool.false_ne_true) fun hbuilt => ?_
  obtain ⟨hssd, hparent, helf, hmodule⟩ := h hbuilt
  exact raises_of_isOk (createSsdReport_isOk.mpr
    ⟨hssd, hparent, helf, hmodule, length_installParams hbuilt⟩)

theorem installApplet_guarded {args : InstallAppletArgs} {privLen : Capdu.PrivLen}
    (h : (Call.installApplet args privLen).Checked I) :
    (installApplet session args privLen : Prog (World τ β) ScllError _).Guarded harmless
      (·.hostSide = true) := by
  refine command_guarded
    (foreign_installOutcome Bool.false_ne_true Bool.false_ne_true) fun hbuilt => ?_
  obtain ⟨hinstance, hpackage, hmodule, hparent⟩ := h hbuilt
  obtain ⟨hsys, happ⟩ := length_appletParams hbuilt
  exact raises_of_isOk (installAppletReport_isOk.mpr
    ⟨hinstance, hpackage, hmodule, hsys, happ, hparent⟩)

theorem loadPackage_guarded {args : LoadPackageArgs} {infl : InflateCtx δ}
    (h : (Call.loadPackage args infl).Checked I) :
    (loadPackage I session args infl : Prog (World τ β) ScllError _).Guarded harmless
      (·.hostSide = true) := by
  refine .lift_bind fun p hparse => .lift_bind fun _ hbudget => ?_
  obtain ⟨cap, infl'⟩ := p
  have hlen : cap.lfdb.len ≤ MAX_LOAD_BYTES := by
    unfold checkBudget at hbudget
    dsimp only at hbudget
    split at hbudget
    · cases hbudget
    · omega
  refine command_guarded
    (foreign_installOutcome Bool.false_ne_true Bool.false_ne_true) fun hbuilt => ?_
  rw [isOk_ofBuild] at hbuilt
  obtain ⟨hstreams, hhash, haid⟩ := h cap infl' (mapError_eq_ok.mp hparse) hlen hbuilt
  refine .bind (loadLoop_raises I hstreams) fun blocks => ?_
  exact raises_of_isOk (loadPackageReport_isOk.mpr ⟨hhash, haid⟩)

theorem deleteSsd_guarded {aid : List UInt8} {requested : DeleteCascade}
    (h : (Call.deleteSsd aid requested).Checked I) :
    (deleteSsd session aid requested : Prog (World τ β) ScllError _).Guarded harmless
      (·.hostSide = true) := by
  refine command_guarded (foreign_deleteSsdOutcome requested) fun hbuilt => ?_
  rw [isOk_ofBuild] at hbuilt
  exact raises_of_isOk (deleteSsdReport_isOk.mpr (h hbuilt))

theorem deleteElf_raises {elf : Option (List UInt8)} (h : ∀ aid ∈ elf, AidLength aid) :
    (deleteElf session elf : Prog (World τ β) ScllError _).Raises Foreign := by
  unfold deleteElf
  split
  · exact .pure _
  · next aid =>
    have hvalid : AidLength aid := h aid rfl
    refine .bind (command_raises ?_ foreign_deleteElfOutcome) fun _ => ?_
    · rw [isOk_ofBuild]
      exact isOk_deleteObject hvalid false
    · rw [Aid.new_of_valid hvalid]
      exact .pure _

theorem deleteApplet_guarded {args : DeleteAppletArgs}
    (h : (Call.deleteApplet args).Checked I) :
    (deleteApplet session args : Prog (World τ β) ScllError _).Guarded harmless
      (·.hostSide = true) := by
  refine command_guarded foreign_deleteInstanceOutcome fun hbuilt => ?_
  rw [isOk_ofBuild] at hbuilt
  obtain ⟨hinstance, helf⟩ := h hbuilt
  rw [Aid.new_of_valid hinstance, Prog.lift_ok_bind]
  exact .bind (deleteElf_raises helf) fun _ => .pure _

/-! ### SET STATUS -/

theorem readPages_keeps_harmless {p1 p2 : UInt8} {pages : ℕ} {scope : Scope} :
    (readPages session p1 pages p2 scope : Prog (World τ β) ScllError _).Keeps harmless := by
  induction pages generalizing p2 scope with
  | zero => exact .pure _
  | succ pages ih =>
    unfold readPages
    rw [getStatusP2_eq, Prog.lift_ok_bind]
    refine .bind (transmitInSession_harmless rfl) fun answer => .bind (.lift _) fun p => ?_
    cases p with
    | more scope => exact ih
    | stop scope done => exact .pure _
    | empty => exact .pure _

theorem currentState_keeps (session : ScpSession) (args : SetCardStatusArgs) :
    (currentState session args : Prog (World τ β) ScllError _).Keeps harmless := by
  unfold currentState
  split
  · exact .pure _
  · exact .bind (.bind readPages_keeps_harmless fun _ => .lift _) fun _ => .pure _

theorem Exchanges.of_reads {p1 p2 : UInt8} {as : List Answer} {w w' : World τ β}
    (h : Reads session p1 p2 as w w') : ∃ log, Exchanges session log w w' := by
  induction h with
  | done p2 w => exact ⟨[], .nil w⟩
  | next hexchanged _ ih =>
    obtain ⟨log, hlog⟩ := ih
    exact ⟨_, .cons hexchanged hlog⟩

theorem Exchanges.append {log log' : List (Capdu × Answer)} {w w₁ w' : World τ β}
    (h : Exchanges session log w w₁) (h' : Exchanges session log' w₁ w') :
    Exchanges session (log ++ log') w w' := by
  induction h with
  | nil w => exact h'
  | cons hexchanged _ ih => exact .cons hexchanged (ih h')

theorem currentState_exchanges {args : SetCardStatusArgs} {current : CardLifeCycle}
    {w w' : World τ β} (h : currentState session args w = (.ok current, w')) :
    ∃ log, Exchanges session log w w' := by
  unfold currentState at h
  cases hgiven : args.currentState with
  | some s =>
    simp only [hgiven] at h
    obtain ⟨-, rfl⟩ := Prod.mk.inj h
    exact ⟨[], .nil w⟩
  | none =>
    simp only [hgiven] at h
    obtain ⟨_, w₁, hstatus, h⟩ := Prog.bind_eq_ok.mp h
    obtain ⟨-, rfl⟩ := Prod.mk.inj h
    obtain ⟨_, w₂, hread, h⟩ := Prog.bind_eq_ok.mp hstatus
    obtain ⟨-, rfl⟩ := Prog.lift_eq_ok.mp h
    obtain ⟨as, hreads, -⟩ := reads_of_readPages hread
    exact Exchanges.of_reads hreads

/-- SET STATUS refuses before it is sent, or it says what the card has said. -/
theorem applyTransition_refused {aid : List UInt8} {plan : TransitionPlan} {e : ScllError}
    {w w' : World τ β} (h : applyTransition session aid plan w = (.error e, w'))
    (he : e.hostSide = true) : w' = w ∨
      e = .illegalLifecycleTransition ∧ ∃ c data,
        transmitInSession session c w = (.ok (data, SW_CONDITIONS), w') := by
  unfold applyTransition at h
  split at h
  · cases (Prod.mk.inj h).1
  · next p2 =>
    cases hbuilt : ofBuild (Capdu.setCardStatus p2 aid) with
    | error e₁ =>
      rw [hbuilt] at h
      exact .inl (Prod.mk.inj h).2.symm
    | ok c =>
      rw [hbuilt, Prog.lift_ok_bind, Prog.bind_run] at h
      split at h
      · next answer w₁ hexchanged =>
        obtain ⟨data, sw⟩ := answer
        obtain ⟨herr, rfl⟩ := Prod.mk.inj h
        have herr : setStatusOutcome sw = .error e := herr
        unfold setStatusOutcome at herr
        split_ifs at herr with _ hconditions
        · obtain rfl := Except.error.inj herr
          rw [hconditions] at hexchanged
          exact .inr ⟨rfl, c, data, hexchanged⟩
        · exact absurd he (Except.error.inj herr ▸ foreign_general sw)
      · next e₁ w₁ hexchanged =>
        obtain ⟨herr, -⟩ := Prod.mk.inj h
        obtain rfl := Except.error.inj herr
        exact absurd he (transmitInSession_raises c w _ _ hexchanged)

/-- Without a `6985` of the card a life-cycle refusal comes before SET STATUS. -/
theorem setCardStatus_noCardEffect (args : SetCardStatusArgs) :
    NoCardEffect I session (.setCardStatus args) := by
  intro τ β _ _ _ _ w w' e hrun hrefusal
  have hrun : ((do
      let current ← currentState session args
      let plan ← .lift (checkTransition current args.targetState args.force)
      applyTransition session args.isdAid plan
      pure (setCardStatusReport args current plan)) >>= fun _ => pure () :
        Prog (World τ β) ScllError Unit) w = (.error e, w') := hrun
  rw [Prog.bind_run] at hrun
  -- reading the state changes nothing on the card; SET STATUS is the only command that does
  have hread := currentState_keeps session args w
  cases hcurrent : currentState session args w with
  | mk r w₁ =>
    rw [hcurrent] at hread
    cases r with
    | error e₁ =>
      rw [Prog.bind_error hcurrent] at hrun
      obtain ⟨-, rfl⟩ := Prod.mk.inj hrun
      exact hread
    | ok current =>
      rw [Prog.bind_ok hcurrent] at hrun
      cases hplan : checkTransition current args.targetState args.force with
      | error e₁ =>
        rw [hplan] at hrun
        obtain ⟨-, rfl⟩ := Prod.mk.inj hrun
        exact hread
      | ok plan =>
        rw [hplan, Prog.lift_ok_bind, Prog.bind_run] at hrun
        cases happly : applyTransition session args.isdAid plan w₁ with
        | mk r w₂ =>
          rw [happly] at hrun
          cases r with
          | ok u => cases (Prod.mk.inj hrun).1
          | error e₁ =>
            obtain ⟨herr, rfl⟩ := Prod.mk.inj hrun
            obtain rfl := Except.error.inj herr
            rcases applyTransition_refused happly hrefusal.hostSide with rfl | ⟨rfl, c, data, hsent⟩
            · exact hread
            · -- the refusal is the card's word: then it is not the host's
              obtain ⟨log, hlog⟩ := currentState_exchanges hcurrent
              rcases hrefusal with hhost | ⟨-, hno⟩
              · cases hhost
              · have hmem : (c, data, SW_CONDITIONS) ∈ log ++ [(c, data, SW_CONDITIONS)] :=
                  List.mem_append_right _ (List.mem_singleton_self _)
                exact absurd ⟨_, hlog.append (.cons hsent (.nil _)), _, hmem, rfl⟩ hno

end calls

/-- A call whose arguments are in order is refused before it acts, if at all. -/
theorem noCardEffect_of_checked {session : ScpSession} {call : Call δ} (h : call.Checked I) :
    NoCardEffect I session call := by
  cases call with
  | putSdKeys args =>
    exact noCardEffect_of_guarded I fun _ _ _ _ _ _ =>
      .bind_raises (putSdKeys_guarded h) fun _ => .pure _
  | deleteSdKeyset kvn aid =>
    exact noCardEffect_of_guarded I fun _ _ _ _ _ _ =>
      .bind_raises (deleteSdKeyset_guarded h) fun _ => .pure _
  | createSsd args privLen =>
    exact noCardEffect_of_guarded I fun _ _ _ _ _ _ =>
      .bind_raises (createSsd_guarded I h) fun _ => .pure _
  | installApplet args privLen =>
    exact noCardEffect_of_guarded I fun _ _ _ _ _ _ =>
      .bind_raises (installApplet_guarded I h) fun _ => .pure _
  | loadPackage args infl =>
    exact noCardEffect_of_guarded I fun _ _ _ _ _ _ =>
      .bind_raises (loadPackage_guarded I h) fun _ => .pure _
  | deleteSsd aid requested =>
    exact noCardEffect_of_guarded I fun _ _ _ _ _ _ =>
      .bind_raises (deleteSsd_guarded I h) fun _ => .pure _
  | deleteApplet args =>
    exact noCardEffect_of_guarded I fun _ _ _ _ _ _ =>
      .bind_raises (deleteApplet_guarded I h) fun _ => .pure _
  | setCardStatus args => exact setCardStatus_noCardEffect I args

end Workflow

end Scll
