import Scll.Workflow.Session

/-! # Opening a secure channel

    The version is selected over the advertised variants, the target is
    SELECTed, INITIALIZE UPDATE is answered, `begin` derives and checks, and
    EXTERNAL AUTHENTICATE must be accepted. There is no retry.
-/

namespace Scll

namespace Workflow

open BlockMode

/-! ### Version selection -/

/-- The `i` of a supported SCP03 variant. -/
def supportedI : ScpVariant → Option UInt8
  | .scp03 i => if Scp03.iSupported i then some i else none
  | .scp02 _ => none

/-- The first SCP02 variant. -/
def firstScp02 : List ScpVariant → Option ScpVariant
  | [] => none
  | .scp02 i :: _ => some (.scp02 i)
  | .scp03 _ :: rest => firstScp02 rest

/-- `scp::select`: a forced variant wins; else the highest supported SCP03; else
    the first SCP02. -/
def selectVariant (advertised : List ScpVariant) (force : Option ScpVariant) :
    Option ScpVariant :=
  match force with
  | some forced => some forced
  | none =>
      match (advertised.filterMap supportedI).max? with
      | some i => some (.scp03 i)
      | none => firstScp02 advertised

/-! ### The open -/

/-- The three static keys of a Security Domain, as handles. -/
structure SdKeys where
  enc : KeyHandle
  mac : KeyHandle
  dek : KeyHandle

structure OpenScpArgs where
  targetAid : List UInt8
  targetKind : ScpTargetKind
  sdKeys : SdKeys
  advertised : List ScpVariant
  forceScp : Option ScpVariant
  /-- `00` lets the card pick. -/
  kvn : UInt8
  requestedLevel : UInt8

/-- SCP02 INITIALIZE UPDATE key identifier. -/
def SCP02_KEY_ID : UInt8 := 0x00

/-- The target as selected: the variant to open, its AID and the invoker's. -/
structure OpenTarget where
  variant : ScpVariant
  targetAid : Aid
  /-- The DF name of the FCI when there is a valid one. -/
  invokerAid : Aid

/-- The AID the card derives its challenge over: the DF name the FCI echoes, or
    what was SELECTed. A malformed FCI only falls back. -/
def invokerAid (fci : List UInt8) (targetAid : Aid) : Aid :=
  (((fciDfName fci).toOption.join).bind Aid.ofOctets?).getD targetAid

/-- What a status word other than `9000` makes of a response. -/
def requireOk (data : List UInt8) (sw : UInt16) : Except ScllError (List UInt8) :=
  if sw = SW_OK then .ok data else .error (.fromGeneralSw sw)

/-- EXTERNAL AUTHENTICATE is accepted or the open fails. -/
def requireAuth (sw : UInt16) : Except ScllError Unit :=
  if sw = SW_OK then .ok () else .error (.externalAuthFail sw)

section opening

variable {τ β : Type} [Transport τ] [KeyBackend β] [Scp03Backend β] [Scp02Backend β]

/-- Select the version and the target. -/
def selectTarget (args : OpenScpArgs) : Prog (World τ β) ScllError OpenTarget := do
  let variant ← .lift (okOr (selectVariant args.advertised args.forceScp) .scpProtocolUnsupported)
  let fci ← select args.targetAid
  let targetAid ← .lift (Aid.new args.targetAid)
  pure ⟨variant, targetAid, invokerAid fci targetAid⟩

/-- Send INITIALIZE UPDATE; the response data on `9000`. -/
def initializeUpdate (iuCapdu : Except ScllError Capdu) :
    Prog (World τ β) ScllError (List UInt8) := do
  let capdu ← .lift iuCapdu
  let (data, sw) ← transmitPlain capdu
  .lift (requireOk data sw)

/-- Send the wrapped EXTERNAL AUTHENTICATE. -/
def externalAuthenticate (ea : Capdu) : Prog (World τ β) ScllError Unit := do
  let (_, sw) ← transmitPlain ea
  .lift (requireAuth sw)

/-- The channel as opened: the session, and what the card chose. -/
structure Opened where
  session : ScpSession
  kvn : UInt8
  iParam : UInt8
  level : UInt8

/-- The SCP03 challenge and what the card answers to it. -/
def challenge03 (args : OpenScpArgs) (iParam : UInt8) :
    Prog (World τ β) ScllError (List UInt8 × List UInt8) := do
  -- the mode fixes the length of the host challenge
  let hostChallenge ← onBackend
    (ofBackend (KeyBackend.randomBytes (ScpMode.fromI iParam).fieldLen))
  let iuData ← initializeUpdate (Scp03.iuCommand args.kvn hostChallenge.val)
  pure (hostChallenge.val, iuData)

/-- From the INITIALIZE UPDATE response to an accepted EXTERNAL AUTHENTICATE. -/
def authenticate03 (args : OpenScpArgs) (invoker : Aid) (hostChallenge iuData : List UInt8) :
    Prog (World τ β) ScllError Opened := do
  let iu ← .lift (Scp03.parseIuResponse iuData)
  let (state, ea) ← onBackend
    (Scp03.begin args.sdKeys.enc args.sdKeys.mac args.kvn args.requestedLevel hostChallenge
      invoker.bytes iuData)
  externalAuthenticate ea
  pure ⟨.scp03 state, iu.kvn, iu.iParam, state.securityLevel⟩

/-- The SCP02 challenge, always 8 octets, and what the card answers to it. -/
def challenge02 (args : OpenScpArgs) : Prog (World τ β) ScllError (Block 8 × List UInt8) := do
  let hostChallenge ← onBackend (ofBackend (KeyBackend.randomBytes 8))
  let iuData ← initializeUpdate (Scp02.iuCommand args.kvn SCP02_KEY_ID hostChallenge)
  pure (hostChallenge, iuData)

def authenticate02 (args : OpenScpArgs) (iParam : UInt8) (hostChallenge : Block 8)
    (iuData : List UInt8) : Prog (World τ β) ScllError Opened := do
  let iu ← .lift (Scp02.parseIuResponse iuData)
  let (state, ea) ← onBackend
    (Scp02.begin args.sdKeys.enc args.sdKeys.mac args.sdKeys.dek iParam args.kvn
      args.requestedLevel hostChallenge iuData)
  externalAuthenticate ea
  pure ⟨.scp02 state, iu.kvn, iParam, state.securityLevel⟩

/-- The handshake of the selected variant. -/
def handshake (args : OpenScpArgs) (target : OpenTarget) : Prog (World τ β) ScllError Opened :=
  match target.variant with
  | .scp03 iParam => do
      let (hostChallenge, iuData) ← challenge03 args iParam
      authenticate03 args target.invokerAid hostChallenge iuData
  | .scp02 iParam => do
      let (hostChallenge, iuData) ← challenge02 args
      authenticate02 args iParam hostChallenge iuData

/-- The report of an open channel. -/
def openReport (args : OpenScpArgs) (target : OpenTarget) (opened : Opened) : OpenScpReport where
  session := opened.session
  effective :=
    { targetAid := target.targetAid
      targetKind := args.targetKind
      sdAidUsedForKeys := target.targetAid
      scpProtocolEffective := opened.session.protocol
      kvnRequested := args.kvn
      kvnEffective := opened.kvn
      iParamEffective := opened.iParam
      securityLevelRequested := args.requestedLevel
      securityLevelEffective := opened.level
      sessionId := opened.session.sessionId
      invokerAidUsed := target.invokerAid }
  warnings := []

/-- Open an SCP03 or SCP02 channel. -/
def openScp (args : OpenScpArgs) : Prog (World τ β) ScllError OpenScpReport := do
  let target ← selectTarget args
  let opened ← handshake args target
  pure (openReport args target opened)

end opening

end Workflow

end Scll
