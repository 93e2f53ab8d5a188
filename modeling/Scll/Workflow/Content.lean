import Scll.Workflow.Keys

/-! # Security Domains and applets

    INSTALL and DELETE of the objects on a card. The arguments that only the
    report mentions are validated when the report is built, after the card has
    answered.
-/

namespace Scll

namespace Workflow

/-- Copy a slice into a bounded buffer. -/
def copyBounded (cap : ℕ) (src : List UInt8) : Except ScllError (List UInt8) :=
  extend cap (.build .overflow) [] src

/-! ### The arguments of reports -/

theorem isOk_aid_bind {α : Type} {aid : List UInt8} {f : Aid → Except ScllError α} :
    (Aid.new aid >>= f).isOk = true ↔ ∃ h : AidLength aid, (f ⟨aid, h⟩).isOk = true := by
  by_cases h : AidLength aid
  · rw [Aid.new_of_valid h, ok_bind]
    exact ⟨fun hf => ⟨h, hf⟩, fun ⟨_, hf⟩ => hf⟩
  · rw [Aid.new_of_invalid h, error_bind]
    exact ⟨fun hf => absurd hf Bool.false_ne_true, fun ⟨h', _⟩ => absurd h' h⟩

theorem isOk_copy_bind {α : Type} {cap : ℕ} {src : List UInt8}
    {f : List UInt8 → Except ScllError α} :
    (copyBounded cap src >>= f).isOk = true ↔ src.length ≤ cap ∧ (f src).isOk = true := by
  unfold copyBounded extend
  rw [List.length_nil, Nat.zero_add, List.nil_append]
  split
  · next h =>
    rw [error_bind]
    exact ⟨fun hf => absurd hf Bool.false_ne_true, fun ⟨h', _⟩ => absurd h' (by omega)⟩
  · next h =>
    rw [ok_bind]
    exact ⟨fun hf => ⟨by omega, hf⟩, fun ⟨_, hf⟩ => hf⟩

/-! ### Supplementary Security Domains -/

/-- DAP verification, delegated management and mandated DAP. -/
def SSD_PRIV_REFUSED_MASK : UInt8 := 0x40 ||| 0x20 ||| 0x01

structure CreateSsdArgs where
  parentSdAid : List UInt8
  ssdAid : List UInt8
  elfAid : List UInt8
  moduleAid : List UInt8
  privileges : Privileges
  /-- The complete field value, with its mandatory `'C9'`. -/
  installParams : List UInt8

/-- A privilege octet with no refused bit. -/
def checkPrivileges (mask : UInt8) (privileges : Privileges) : Except ScllError Unit :=
  if privileges.byte0 &&& mask ≠ 0 then .error .unsupportedPrivilege else .ok ()

/-- INSTALL on its status word, with the error of a missing reference. -/
def installOutcome (notFound duplicate : ScllError) (sw : UInt16) : Except ScllError Unit :=
  if sw = SW_OK then .ok ()
  else if sw = SW_REF_NOT_FOUND then .error notFound
  else if sw = SW_WRONG_DATA then .error duplicate
  else .error (.fromGeneralSw sw)

def createSsdCommand (args : CreateSsdArgs) (privLen : Capdu.PrivLen) :
    Except ScllError Capdu := do
  checkPrivileges SSD_PRIV_REFUSED_MASK args.privileges
  ofBuild (Capdu.installForInstallMakeSelectable args.elfAid args.moduleAid args.ssdAid
    args.privileges privLen args.installParams)

def createSsdReport (args : CreateSsdArgs) : Except ScllError (Report CreateSsdParams) := do
  let ssdAidEffective ← Aid.new args.ssdAid
  let parentSdAid ← Aid.new args.parentSdAid
  let elfAidUsed ← Aid.new args.elfAid
  let moduleAidUsed ← Aid.new args.moduleAid
  let installParamsUsed ← copyBounded INSTALL_PARAMS_MAX args.installParams
  .ok
    { effective :=
        { ssdAidEffective
          aidWasGenerated := false
          parentSdAid
          privilegesUsed := args.privileges
          elfAidUsed
          moduleAidUsed
          installParamsUsed }
      warnings := [] }

/-- Does a cascade extend to related objects? -/
def cascadeFlag : DeleteCascade → Bool
  | .cascade => true
  | .always => true
  | .never => false
  | .onlyIfEmpty => false
  | .ifLastInstance => false

/-- `delete_ssd` on its status word. -/
def deleteSsdOutcome (requested : DeleteCascade) (sw : UInt16) : Except ScllError Unit :=
  if sw = SW_OK then .ok ()
  else if sw = SW_REF_NOT_FOUND then .error .targetNoLongerExists
  else if sw = SW_CONDITIONS ∧ ¬cascadeFlag requested then .error .ssdHasApplets
  else .error (.fromGeneralSw sw)

def deleteSsdReport (ssdAid : List UInt8) (requested : DeleteCascade) :
    Except ScllError (Report DeleteObjectParams) := do
  let targetAid ← Aid.new ssdAid
  .ok
    { effective :=
        { targetAid
          targetKind := .ssd
          cascadeRequested := requested
          cascadeUsed := cascadeFlag requested
          instancesRemoved := []
          elfsRemoved := [] }
      warnings := [] }

/-! ### Applets -/

def TAG_C9_APP_PARAMS : UInt8 := 0xC9
def TAG_EF_SYS_PARAMS : UInt8 := 0xEF

/-- Security Domain, DAP verification, delegated management and mandated DAP. -/
def APPLET_PRIV_REFUSED_MASK : UInt8 := 0x80 ||| 0x40 ||| 0x20 ||| 0x01

structure InstallAppletArgs where
  parentSdAid : List UInt8
  packageAid : List UInt8
  moduleAid : List UInt8
  instanceAid : List UInt8
  privileges : Privileges
  systemInstallParams : List UInt8
  appletInstallParams : List UInt8

/-- Push a one-octet-length TLV. -/
def pushTlv (out : List UInt8) (tag : UInt8) (value : List UInt8) :
    Except ScllError (List UInt8) := do
  let len ← ofBuild (Capdu.lenByte value)
  let out ← extend INSTALL_PARAMS_MAX (.build .overflow) out [tag]
  let out ← extend INSTALL_PARAMS_MAX (.build .overflow) out [len]
  extend INSTALL_PARAMS_MAX (.build .overflow) out value

/-- `'C9' La app_params [ 'EF' Ls sys_params ]`. -/
def buildInstallParams (appParams sysParams : List UInt8) : Except ScllError (List UInt8) := do
  let out ← pushTlv [] TAG_C9_APP_PARAMS appParams
  if sysParams.isEmpty then .ok out else pushTlv out TAG_EF_SYS_PARAMS sysParams

def installAppletCommand (args : InstallAppletArgs) (privLen : Capdu.PrivLen) :
    Except ScllError Capdu := do
  checkPrivileges APPLET_PRIV_REFUSED_MASK args.privileges
  let params ← buildInstallParams args.appletInstallParams args.systemInstallParams
  ofBuild (Capdu.installForInstallMakeSelectable args.packageAid args.moduleAid args.instanceAid
    args.privileges privLen params)

def installAppletReport (args : InstallAppletArgs) :
    Except ScllError (Report InstallAppletParams) := do
  let instanceAid ← Aid.new args.instanceAid
  let packageAidUsed ← Aid.new args.packageAid
  let moduleAidUsed ← Aid.new args.moduleAid
  let systemInstallParams ← copyBounded INSTALL_PARAMS_MAX args.systemInstallParams
  let appletInstallParams ← copyBounded INSTALL_PARAMS_MAX args.appletInstallParams
  let parentSdAid ← Aid.new args.parentSdAid
  .ok
    { effective :=
        { instanceAid
          packageAidUsed
          moduleAidUsed
          privilegesUsed := args.privileges
          systemInstallParams
          appletInstallParams
          parentSdAid }
      warnings := [] }

structure DeleteAppletArgs where
  instanceAid : List UInt8
  /-- Required to cascade to the ELF. -/
  elfAid : Option (List UInt8)
  cascadeElf : DeleteCascade

/-- The ELF that a delete goes on to, if any. -/
def cascadeElf (args : DeleteAppletArgs) : Option (List UInt8) :=
  match args.cascadeElf with
  | .always => args.elfAid
  | .ifLastInstance => args.elfAid
  | .never => none
  | .onlyIfEmpty => none
  | .cascade => none

/-- The instance DELETE on its status word. -/
def deleteInstanceOutcome (sw : UInt16) : Except ScllError Unit :=
  if sw = SW_OK then .ok ()
  else if sw = SW_REF_NOT_FOUND then .error .targetNoLongerExists
  else .error (.fromGeneralSw sw)

/-- The ELF DELETE on its status word. -/
def deleteElfOutcome (sw : UInt16) : Except ScllError Unit :=
  if sw = SW_OK then .ok ()
  else if sw = SW_CONDITIONS then .error .elfHasOtherInstances
  else if sw = SW_REF_NOT_FOUND then .error .targetNoLongerExists
  else .error (.fromGeneralSw sw)

def deleteAppletReport (args : DeleteAppletArgs) (instanceAid : Aid) (elf : Option Aid) :
    Report DeleteObjectParams where
  effective :=
    { targetAid := instanceAid
      targetKind := .appletInstance
      cascadeRequested := args.cascadeElf
      cascadeUsed := elf.isSome
      instancesRemoved := (tryPush MAX_REMOVED_OBJECTS [] instanceAid).1
      elfsRemoved := elf.toList }
  warnings := []

section content

variable {τ β : Type} [Transport τ] [Scp03Backend β] [Scp02Backend β]

/-- Send a built command over the session and read its status word. -/
def command (session : ScpSession) (capdu : Except ScllError Capdu)
    (outcome : UInt16 → Except ScllError Unit) : Prog (World τ β) ScllError Unit := do
  let capdu ← .lift capdu
  let (_, sw) ← transmitInSession session capdu
  .lift (outcome sw)

/-- Create a Supplementary Security Domain under a parent. -/
def createSsd (session : ScpSession) (args : CreateSsdArgs) (privLen : Capdu.PrivLen) :
    Prog (World τ β) ScllError (Report CreateSsdParams) := do
  command session (createSsdCommand args privLen)
    (installOutcome .residentSdNotFound .aidAlreadyExists)
  .lift (createSsdReport args)

/-- Delete a Security Domain, with its contents if asked. -/
def deleteSsd (session : ScpSession) (ssdAid : List UInt8) (requested : DeleteCascade) :
    Prog (World τ β) ScllError (Report DeleteObjectParams) := do
  command session (ofBuild (Capdu.deleteObject ssdAid (cascadeFlag requested)))
    (deleteSsdOutcome requested)
  .lift (deleteSsdReport ssdAid requested)

/-- Instantiate an applet from a loaded ELF. -/
def installApplet (session : ScpSession) (args : InstallAppletArgs) (privLen : Capdu.PrivLen) :
    Prog (World τ β) ScllError (Report InstallAppletParams) := do
  command session (installAppletCommand args privLen)
    (installOutcome .packageNotFound .aidAlreadyExists)
  .lift (installAppletReport args)

/-- Delete the ELF of an applet, when a cascade names one. -/
def deleteElf (session : ScpSession) (elf : Option (List UInt8)) :
    Prog (World τ β) ScllError (Option Aid) :=
  match elf with
  | none => pure none
  | some elf => do
      command session (ofBuild (Capdu.deleteObject elf false)) deleteElfOutcome
      let aid ← .lift (Aid.new elf)
      pure (some aid)

/-- Delete an applet instance, and its ELF if asked. -/
def deleteApplet (session : ScpSession) (args : DeleteAppletArgs) :
    Prog (World τ β) ScllError (Report DeleteObjectParams) := do
  command session (ofBuild (Capdu.deleteObject args.instanceAid false)) deleteInstanceOutcome
  let instanceAid ← .lift (Aid.new args.instanceAid)
  let elf ← deleteElf session (cascadeElf args)
  pure (deleteAppletReport args instanceAid elf)

end content

end Workflow

end Scll
