import Scll.Card.Registry
import Scll.Visits

/-! # Content management, call by call

    What each call does to the content of a card, as the caller is told it
    (`ContentCall.spec`), and that it does so: over the ideal channel to a card
    that manages its content, a workflow has the outcome of its specification
    and leaves the content that this leaves. The channel needs room for the
    commands of the call, and nothing else is asked of it.
-/

namespace Scll

open Cap LengthPrefix Listing Workflow

/-! ### What is called for -/

/-- A call that changes the content of a card, or lists it. -/
inductive ContentCall (δ : Type) where
  | createSsd (parent ssd file moduleAid : Aid) (privileges : Privileges) (params : List UInt8)
  | loadPackage (target : Aid) (zip hash : List UInt8) (infl : InflateCtx δ)
  | deleteSsd (ssd : Aid) (requested : DeleteCascade)
  | installApplet (parent package moduleAid inst : Aid) (privileges : Privileges)
      (appParams sysParams : List UInt8)
  | deleteApplet (inst : Aid) (elf : Option Aid) (requested : DeleteCascade)
  | getCardInventory

/-- What is shown of a report. -/
inductive Shown where
  | done
  | inventory (inv : CardInventory) (truncated : Bool)
  deriving DecidableEq

def SessionReport.shown : SessionReport → Shown
  | .inventory r => .inventory r.inventory r.effective.truncated
  | _ => .done

/-- The call of the manager. -/
def ContentCall.call {δ : Type} (isd : Aid) : ContentCall δ → SessionCall δ
  | createSsd parent ssd file moduleAid privileges params =>
      .createSsd ⟨parent.bytes, ssd.bytes, file.bytes, moduleAid.bytes, privileges, params⟩
  | loadPackage target zip hash infl => .loadPackage ⟨target.bytes, zip, hash⟩ infl
  | deleteSsd ssd requested => .deleteSsd ssd.bytes requested
  | installApplet parent package moduleAid inst privileges appParams sysParams =>
      .installApplet ⟨parent.bytes, package.bytes, moduleAid.bytes, inst.bytes, privileges,
        sysParams, appParams⟩
  | deleteApplet inst elf requested => .deleteApplet ⟨inst.bytes, elf.map Aid.bytes, requested⟩
  | getCardInventory => .getCardInventory isd.bytes

/-! ### What it does -/

/-- What a refused INSTALL is reported as. -/
def explainInstall (notFound duplicate : ScllError) : ContentRefusal → ScllError
  | .linkage .missing => notFound
  | .absent => notFound
  | .linkage .duplicate => duplicate
  | r => .fromGeneralSw r.sw

/-- What a refused DELETE is reported as. -/
def explainDelete (busy : ScllError) : ContentRefusal → ScllError
  | .linkage .missing => .targetNoLongerExists
  | .absent => .targetNoLongerExists
  | .linkage .inUse => busy
  | .broken => busy
  | r => .fromGeneralSw r.sw

/-- What a refused LOAD is reported as. -/
def explainLoad (r : ContentRefusal) : ScllError := .fromGeneralSw r.sw

/-- Change the content, or fail with the explanation. -/
def change {isd : Aid} (explain : ContentRefusal → ScllError)
    (op : Content isd → Except ContentRefusal (Content isd)) : Prog (Content isd) ScllError Unit :=
  fun c => ((op c).map (fun _ => ()) |>.mapError explain, after c (op c))

/-- The inventory of a content. -/
def CardProfile.inventory {P : Primitives} (p : CardProfile P) (c : Content p.isd) :
    CardInventory where
  securityDomains :=
    ⟨p.isd, p.state, p.isdPrivileges, none⟩ ::
      (c.instances.filter fun i => i.privileges.isSecurityDomain).map fun i =>
        ⟨i.aid, SELECTABLE, i.privileges, some i.domain⟩
  applets :=
    (c.instances.filter fun i => !i.privileges.isSecurityDomain).map fun i =>
      ⟨i.aid, SELECTABLE, i.privileges, i.domain, some i.file⟩
  elfs := c.loadFiles.map fun f => ⟨f.aid, LOADED, f.domain, f.modules⟩

/-- Delete a load file when a cascade names one. -/
def changeElf {isd : Aid} : Option Aid → Prog (Content isd) ScllError Unit
  | none => pure ()
  | some elf => change (explainDelete .elfHasOtherInstances) (Content.delete elf false)

/-- What a call does to the content, and what it shows. -/
def ContentCall.spec {P : Primitives} {δ : Type} (p : CardProfile P) (I : Inflater δ)
    (inflate : Deflate) :
    ContentCall δ → Prog (Content p.isd) ScllError Shown
  | createSsd _ ssd file moduleAid privileges _ => do
      .lift (checkPrivileges SSD_PRIV_REFUSED_MASK privileges)
      change (explainInstall .residentSdNotFound .aidAlreadyExists)
        (p.install file moduleAid ssd privileges)
      pure .done
  | loadPackage target zip _ infl => do
      let (cap, _) ← .lift (ofCap (parse I zip infl))
      .lift (checkBudget cap)
      change (explainInstall .residentSdNotFound .packageAidExists)
        (p.announce cap.packageAid target)
      change explainLoad (p.finish cap.packageAid target (loadFile inflate cap))
      pure .done
  | deleteSsd ssd requested => do
      change (explainDelete
          (if cascadeFlag requested then .conditionsNotSatisfied else .ssdHasApplets))
        (Content.delete ssd (cascadeFlag requested))
      pure .done
  | installApplet _ package moduleAid inst privileges _ _ => do
      .lift (checkPrivileges APPLET_PRIV_REFUSED_MASK privileges)
      change (explainInstall .packageNotFound .aidAlreadyExists)
        (p.install package moduleAid inst privileges)
      pure .done
  | deleteApplet inst elf requested => do
      change (explainDelete .conditionsNotSatisfied) (Content.delete inst false)
      changeElf (if requested = .always ∨ requested = .ifLastInstance then elf else none)
      pure .done
  | getCardInventory => fun c => (.ok (.inventory (p.inventory c) false), c)

/-! ### A world in which a content is held -/

section holding

variable {P : Primitives} {ρ : Type} {p : CardProfile P}

/-- The card holds the content, and `n` more commands fit through the channel. -/
structure Holding (p : CardProfile P) (n : ℕ)
    (w : World (IdealCard (Registry p)) (IdealBackend P ρ)) (c : Content p.isd) : Prop where
  content : w.transport.app.content = c
  room : w.backend.channel.RoomFor n

theorem Holding.mono {m n : ℕ} (hle : m ≤ n)
    (w : World (IdealCard (Registry p)) (IdealBackend P ρ)) (c : Content p.isd)
    (h : Holding p n w c) : Holding p m w c :=
  ⟨h.content, h.room.mono hle⟩

/-- A built command, and what the card does on it. -/
def Does (p : CardProfile P) (capdu : Except ScllError Capdu)
    (op : Content p.isd → Except ContentRefusal (Content p.isd)) : Prop :=
  ∃ cla ins p1 p2 data le,
    capdu = .ok (cla :: ins :: p1 :: p2 :: Capdu.tailOctets data le) ∧ data ≠ [] ∧
      data.length ≤ LOAD_BLOCK_DATA ∧
      ∀ reg : Registry p, ∃ reg', reg.perform ⟨ins, p1, p2, data⟩ =
        (.status (swOf (op reg.content)), reg') ∧ reg'.content = after reg.content (op reg.content)

/-- What the host makes of a status word is the explanation. -/
structure Explains (outcome : UInt16 → Except ScllError Unit)
    (explain : ContentRefusal → ScllError) : Prop where
  ok : outcome SW_OK = .ok ()
  error : ∀ r : ContentRefusal, outcome r.sw = .error (explain r)

theorem outcome_swOf {α : Type} {outcome : UInt16 → Except ScllError Unit}
    {explain : ContentRefusal → ScllError} (h : Explains outcome explain)
    (r : Except ContentRefusal α) :
    outcome (swOf r) = (r.map fun _ => ()).mapError explain := by
  cases r with
  | ok a => exact h.ok
  | error e => exact h.error e

/-- A command does at the card what its operation does to the content. -/
theorem command_simulates {session : ScpSession} {capdu : Except ScllError Capdu}
    {outcome : UInt16 → Except ScllError Unit} {explain : ContentRefusal → ScllError}
    {op : Content p.isd → Except ContentRefusal (Content p.isd)} (hdoes : Does p capdu op)
    (hexplains : Explains outcome explain) (n : ℕ) :
    Prog.Simulates (Holding (ρ := ρ) p (n + 1)) (Holding p n) (command session capdu outcome)
      (change explain op) := by
  obtain ⟨cla, ins, p1, p2, data, le, rfl, hne, hlen, hdoes⟩ := hdoes
  intro w c hw
  obtain ⟨reg, hperform, hreg⟩ := hdoes w.transport.app
  obtain ⟨w', hrun, happ, hroom⟩ :=
    exchange_admitted session hw.room cla ins p1 p2 hne hlen le hperform
  have hcommand : command session (.ok (cla :: ins :: p1 :: p2 :: Capdu.tailOctets data le)) outcome
      w = (outcome (swOf (op c)), w') := by
    unfold command
    rw [Prog.bind_ok (Prog.lift_run _ w), Prog.bind_ok hrun, hw.content]
    rfl
  rw [hcommand]
  refine ⟨outcome_swOf hexplains (op c), ?_, hroom⟩
  rw [happ, hreg, hw.content]
  rfl

/-! ### The commands -/

theorem explains_install (notFound duplicate : ScllError) :
    Explains (installOutcome notFound duplicate) (explainInstall notFound duplicate) := by
  refine ⟨rfl, ?_⟩
  intro r
  rcases r with (_ | _ | _) | _ | _ | _ <;> rfl

theorem explains_load : Explains requireSw explainLoad := by
  refine ⟨rfl, ?_⟩
  intro r
  rcases r with (_ | _ | _) | _ | _ | _ <;> rfl

theorem explains_deleteInstance :
    Explains deleteInstanceOutcome (explainDelete .conditionsNotSatisfied) := by
  refine ⟨rfl, ?_⟩
  intro r
  rcases r with (_ | _ | _) | _ | _ | _ <;> rfl

theorem explains_deleteElf :
    Explains deleteElfOutcome (explainDelete .elfHasOtherInstances) := by
  refine ⟨rfl, ?_⟩
  intro r
  rcases r with (_ | _ | _) | _ | _ | _ <;> rfl

theorem explains_deleteSsd (requested : DeleteCascade) :
    Explains (deleteSsdOutcome requested) (explainDelete
      (if cascadeFlag requested then .conditionsNotSatisfied else .ssdHasApplets)) := by
  refine ⟨rfl, ?_⟩
  intro r
  -- what is in use is a matter of the cascade, the rest is not
  cases requested <;> rcases r with (_ | _ | _) | _ | _ | _ <;> rfl

/-- What install parameters have room for beside three AIDs, in any channel. -/
def INSTALL_ROOM : ℕ := 166

theorem readPrivileges_field (privileges : Privileges) (privLen : Capdu.PrivLen) :
    readPrivileges (Install.privilegesField privileges privLen) = some privileges := by
  unfold readPrivileges
  rw [Install.zeroExtend_privilegesField]
  rfl

theorem ofOctets?_bytes (aid : Aid) : Aid.ofOctets? aid.bytes = some aid :=
  Aid.ofOctets?_eq_some.mpr rfl

theorem does_install (file moduleAid aid : Aid) (privileges : Privileges)
    (privLen : Capdu.PrivLen) {params : List UInt8} (hparams : params.length ≤ INSTALL_ROOM) :
    Does p (ofBuild (Capdu.installForInstallMakeSelectable file.bytes moduleAid.bytes aid.bytes
      privileges privLen params)) (p.install file moduleAid aid privileges) := by
  obtain ⟨a, ha⟩ : ∃ a : Install.SelectableArgs,
      a = ⟨file.bytes, moduleAid.bytes, aid.bytes, privileges, privLen, params⟩ := ⟨_, rfl⟩
  -- three AIDs, the privileges and the parameters fit into one block
  have hlength : (lvFields a.fields).length ≤ LOAD_BLOCK_DATA := by
    have hfile := file.valid.2
    have hmodule := moduleAid.valid.2
    have haid := aid.valid.2
    have haidMax : AID_MAX = 16 := rfl
    have hroom : INSTALL_ROOM = 166 := rfl
    have hblock : LOAD_BLOCK_DATA = 223 := rfl
    have hsize : Install.privilegesSize privileges privLen ≤ 3 := by
      unfold Install.privilegesSize
      split
      · omega
      · omega
    rw [a.length_fields, ha]
    unfold Install.SelectableArgs.size
    dsimp only
    omega
  have hbuilt : a.build = .ok (0x84 :: 0xE6 :: 0x0C :: 0x00 ::
      Capdu.tailOctets (lvFields a.fields) true) := by
    rw [a.build_eq]
    exact Install.command_eq_ok.mpr ⟨hlength.trans (by decide), rfl⟩
  -- the card reads back the fields that the builder wrote
  have hread : readInstallForInstall (lvFields a.fields) =
      some (file, moduleAid, aid, privileges) := by
    have hsplit : splitFields 6 (lvFields a.fields) = some a.fields :=
      splitFields_lvFields fun f hf =>
        (length_le_lvFields hf).trans (hlength.trans (by decide))
    unfold readInstallForInstall
    rw [hsplit, ha]
    dsimp only [Install.SelectableArgs.fields]
    rw [ofOctets?_bytes, ofOctets?_bytes, ofOctets?_bytes, readPrivileges_field]
    rfl
  refine ⟨0x84, 0xE6, 0x0C, 0x00, lvFields a.fields, true, ?_, ?_, hlength, ?_⟩
  · rw [ha] at hbuilt ⊢
    exact ofBuild_eq_ok.mpr hbuilt
  · simp [Install.SelectableArgs.fields, lvFields, lvField]
  · intro reg
    exact Registry.perform_install hread

theorem does_delete (aid : Aid) (related : Bool) :
    Does p (ofBuild (Capdu.deleteObject aid.bytes related)) (Content.delete aid related) := by
  have hvalid := aid.valid.2
  have hmax : AID_MAX = 16 := rfl
  have hbuilt : Capdu.deleteObject aid.bytes related =
      .ok (0x84 :: 0xE4 :: 0x00 :: (if related then 0x80 else 0x00) ::
        Capdu.tailOctets (0x4F :: lvField aid.bytes) true) := by
    have hpush : Capdu.pushLv [0x4F] aid.bytes = .ok (0x4F :: lvField aid.bytes) := by
      apply Capdu.pushLv_eq_ok.mpr
      refine ⟨rfl, by omega, ?_⟩
      simp [lvField]
      show _ ≤ 261
      omega
    unfold Capdu.deleteObject
    rw [show Capdu.push [] [0x4F] = .ok [0x4F] from rfl, ok_bind, hpush, ok_bind]
    apply Capdu.build_eq_ok.mpr
    refine ⟨?_, rfl⟩
    simp [lvField]
    omega
  have hread : readDelete (0x4F :: lvField aid.bytes) = some aid := by
    have htake : takeField (lvField aid.bytes ++ []) = some (aid.bytes, []) :=
      takeField_lvField (by omega)
    rw [List.append_nil] at htake
    unfold readDelete
    rw [List.head?_cons, if_pos rfl, List.tail_cons, htake]
    exact ofOctets?_bytes aid
  refine ⟨0x84, 0xE4, 0x00, _, _, true, ofBuild_eq_ok.mpr hbuilt, List.cons_ne_nil _ _, ?_, ?_⟩
  · simp [lvField]
    show _ ≤ 223
    omega
  · intro reg
    exact Registry.perform_delete hread related

/-! ### Installing and deleting -/

/-- The outcome of a workflow is done or an error. -/
abbrev showsDone {α : Type} : α → Shown := fun _ => .done

/-- A command that changes the content, and a report that is built after it. -/
theorem reported_shows {α : Type} {session : ScpSession} {capdu : Except ScllError Capdu}
    {outcome : UInt16 → Except ScllError Unit} {explain : ContentRefusal → ScllError}
    {op : Content p.isd → Except ContentRefusal (Content p.isd)} {report : Except ScllError α}
    {a : α} (hdoes : Does p capdu op) (hexplains : Explains outcome explain)
    (hreport : report = .ok a) (n : ℕ) :
    Prog.Shows showsDone (Holding (ρ := ρ) p (n + 1)) (Holding p n)
      (do command session capdu outcome; .lift report) (do change explain op; pure .done) :=
  .seq (.of_simulates (command_simulates hdoes hexplains n)) (fun _ => .lift hreport)
    fun _ _ h => h

/-- The same, when the arguments are checked before the command is built. -/
theorem checked_shows {α : Type} {session : ScpSession} {check : Except ScllError Unit}
    {capdu : Except ScllError Capdu} {outcome : UInt16 → Except ScllError Unit}
    {explain : ContentRefusal → ScllError}
    {op : Content p.isd → Except ContentRefusal (Content p.isd)} {report : Except ScllError α}
    {a : α} (hdoes : Does p capdu op) (hexplains : Explains outcome explain)
    (hreport : report = .ok a) (n : ℕ) :
    Prog.Shows showsDone (Holding (ρ := ρ) p (n + 1)) (Holding p n)
      (do command session (do check; capdu) outcome; .lift report)
      (do .lift check; change explain op; pure .done) := by
  cases check with
  | ok u => exact reported_shows hdoes hexplains hreport n
  | error e =>
    intro w c hw
    exact ⟨rfl, Holding.mono (Nat.le_succ n) w c hw⟩

theorem createSsd_shows (session : ScpSession) (parent ssd file moduleAid : Aid)
    (privileges : Privileges) (privLen : Capdu.PrivLen) {params : List UInt8}
    (hparams : params.length ≤ INSTALL_ROOM) (n : ℕ) :
    Prog.Shows showsDone (Holding (ρ := ρ) p (n + 1)) (Holding p n)
      (createSsd session
        ⟨parent.bytes, ssd.bytes, file.bytes, moduleAid.bytes, privileges, params⟩ privLen)
      (do .lift (checkPrivileges SSD_PRIV_REFUSED_MASK privileges)
          change (explainInstall .residentSdNotFound .aidAlreadyExists)
            (p.install file moduleAid ssd privileges)
          pure .done) := by
  have hcopied : copyBounded INSTALL_PARAMS_MAX params = .ok params := by
    have hroom : INSTALL_ROOM = 166 := rfl
    have hmax : INSTALL_PARAMS_MAX = 255 := rfl
    exact extend_eq_ok.mpr ⟨rfl, by omega⟩
  have hreport : ∃ report, createSsdReport
      ⟨parent.bytes, ssd.bytes, file.bytes, moduleAid.bytes, privileges, params⟩ = .ok report := by
    unfold createSsdReport
    dsimp only
    rw [Aid.new_of_valid ssd.valid, Aid.new_of_valid parent.valid, Aid.new_of_valid file.valid,
      Aid.new_of_valid moduleAid.valid, hcopied]
    exact ⟨_, rfl⟩
  obtain ⟨report, hreport⟩ := hreport
  exact checked_shows (does_install file moduleAid ssd privileges privLen hparams)
    (explains_install _ _) hreport n

theorem length_of_buildInstallParams {appParams sysParams params : List UInt8}
    (h : buildInstallParams appParams sysParams = .ok params) :
    appParams.length ≤ INSTALL_PARAMS_MAX ∧ sysParams.length ≤ INSTALL_PARAMS_MAX := by
  obtain ⟨_, happ, hsys⟩ := bind_eq_ok.mp h
  refine ⟨length_pushTlv happ, ?_⟩
  split at hsys
  · next hempty =>
    rw [List.isEmpty_iff.mp hempty]
    exact Nat.zero_le _
  · exact length_pushTlv hsys

theorem installApplet_shows (session : ScpSession) (parent package moduleAid inst : Aid)
    (privileges : Privileges) (privLen : Capdu.PrivLen) {appParams sysParams params : List UInt8}
    (hbuilt : buildInstallParams appParams sysParams = .ok params)
    (hparams : params.length ≤ INSTALL_ROOM) (n : ℕ) :
    Prog.Shows showsDone (Holding (ρ := ρ) p (n + 1)) (Holding p n)
      (installApplet session ⟨parent.bytes, package.bytes, moduleAid.bytes, inst.bytes, privileges,
        sysParams, appParams⟩ privLen)
      (do .lift (checkPrivileges APPLET_PRIV_REFUSED_MASK privileges)
          change (explainInstall .packageNotFound .aidAlreadyExists)
            (p.install package moduleAid inst privileges)
          pure .done) := by
  obtain ⟨happ, hsys⟩ := length_of_buildInstallParams hbuilt
  have hcopiedApp : copyBounded INSTALL_PARAMS_MAX appParams = .ok appParams :=
    extend_eq_ok.mpr ⟨rfl, happ⟩
  have hcopiedSys : copyBounded INSTALL_PARAMS_MAX sysParams = .ok sysParams :=
    extend_eq_ok.mpr ⟨rfl, hsys⟩
  have hreport : ∃ report, installAppletReport ⟨parent.bytes, package.bytes, moduleAid.bytes,
      inst.bytes, privileges, sysParams, appParams⟩ = .ok report := by
    unfold installAppletReport
    dsimp only
    rw [Aid.new_of_valid inst.valid, Aid.new_of_valid package.valid,
      Aid.new_of_valid moduleAid.valid, hcopiedSys, hcopiedApp, Aid.new_of_valid parent.valid]
    exact ⟨_, rfl⟩
  obtain ⟨report, hreport⟩ := hreport
  unfold installApplet installAppletCommand
  dsimp only
  rw [hbuilt]
  exact checked_shows (does_install package moduleAid inst privileges privLen hparams)
    (explains_install _ _) hreport n

theorem deleteSsd_shows (session : ScpSession) (ssd : Aid) (requested : DeleteCascade) (n : ℕ) :
    Prog.Shows showsDone (Holding (ρ := ρ) p (n + 1)) (Holding p n)
      (deleteSsd session ssd.bytes requested)
      (do change (explainDelete
            (if cascadeFlag requested then .conditionsNotSatisfied else .ssdHasApplets))
            (Content.delete ssd (cascadeFlag requested))
          pure .done) := by
  have hreport : ∃ report, deleteSsdReport ssd.bytes requested = .ok report := by
    unfold deleteSsdReport
    rw [Aid.new_of_valid ssd.valid]
    exact ⟨_, rfl⟩
  obtain ⟨report, hreport⟩ := hreport
  exact reported_shows (does_delete ssd _) (explains_deleteSsd requested) hreport n

theorem deleteElf_shows (session : ScpSession) (elf : Option Aid) (n : ℕ) :
    Prog.Shows (fun _ => ()) (Holding (ρ := ρ) p (n + 1)) (Holding p n)
      (deleteElf session (elf.map Aid.bytes)) (changeElf elf) := by
  cases elf with
  | none =>
    intro w c hw
    exact ⟨rfl, Holding.mono (Nat.le_succ n) w c hw⟩
  | some elf =>
    have hdelete : Prog.Shows id (Holding (ρ := ρ) p (n + 1)) (Holding p n)
        (command session (ofBuild (Capdu.deleteObject elf.bytes false)) deleteElfOutcome)
        (changeElf (some elf)) :=
      .of_simulates (command_simulates (does_delete elf false) explains_deleteElf n)
    apply hdelete.then_ok
    intro u w
    refine ⟨some elf, ?_, rfl⟩
    rw [Aid.new_of_valid elf.valid]
    rfl

/-- The ELF that a delete goes on to. -/
theorem cascadeElf_eq (inst : Aid) (elf : Option Aid) (requested : DeleteCascade) :
    cascadeElf ⟨inst.bytes, elf.map Aid.bytes, requested⟩ =
      (if requested = .always ∨ requested = .ifLastInstance then elf else none).map Aid.bytes := by
  cases requested <;> rfl

/-- The instance may be gone when the file is refused. -/
theorem deleteApplet_shows (session : ScpSession) (inst : Aid) (elf : Option Aid)
    (requested : DeleteCascade) (n : ℕ) :
    Prog.Shows showsDone (Holding (ρ := ρ) p (n + 2)) (Holding p n)
      (deleteApplet session ⟨inst.bytes, elf.map Aid.bytes, requested⟩)
      (do change (explainDelete .conditionsNotSatisfied) (Content.delete inst false)
          changeElf (if requested = .always ∨ requested = .ifLastInstance then elf else none)
          pure .done) := by
  unfold deleteApplet
  dsimp only
  rw [Aid.new_of_valid inst.valid, cascadeElf_eq]
  refine .seq (.of_simulates (command_simulates (does_delete inst false)
    explains_deleteInstance (n + 1))) ?_ (Holding.mono (Nat.le_succ n))
  intro _
  rw [Prog.lift_ok_bind]
  refine .seq (deleteElf_shows session _ n) ?_ fun _ _ h => h
  intro _ w c hw
  exact ⟨rfl, hw⟩

end holding

end Scll
