import GreenPower.FrameBuild

set_option autoImplicit false

/-!
`gpdBuildCommissioningCommand` of `gpd-apps-commission.c`. The C code completes an option
byte in several assignments; here the finished byte is stored.
-/
namespace GreenPower.CommissioningCommand
open MemoryArray ByteWord BuildOptions DeviceState Security FrameBuild

def flag (present : Bool) (mask : UInt8) : UInt8 := if present then mask else 0

/-- No key request for a shared key, without bidirectional operation or without security. -/
def withoutKeyRequest (b : Build) (keyType : UInt8) : Bool :=
  keyType = securityKeyTypeNwk ∨ keyType = securityKeyTypeGroup ∨
    keyType = securityKeyTypeGroupDerived ∨ b.bidirCapable = false ∨
    b.securityLevel = securityLevelNone

def optionsField (b : Build) (keyType : UInt8) : UInt8 :=
  flag (b.macSeq = .incremental) comOptMacSeqNbrCapMask ||| flag b.bidirCapable comOptRxCapMask |||
    flag b.appInfo comOptAppInfoMask ||| flag b.panIdRequest comOptPanIdReqMask |||
    (if withoutKeyRequest b keyType then 0 else flag b.keyRequest comOptKeyReqMask) |||
    flag b.fixedLocation comOptFixedLocMask |||
    flag (b.securityLevel > securityLevelNone) comOptExtOptMask

def extendedOptionsField (b : Build) (keyPresentInComRequest : Bool) (keyType : UInt8) : UInt8 :=
  (extComOptSecurityLevelCapMask &&& b.securityLevel) ||| (keyType <<< extComOptKeyTypeOffset) |||
    flag keyPresentInComRequest extComOptKeyPresentMask |||
    flag b.keyEncrypt extComOptKeyEncryptMask ||| extComOptOutCounterPresentMask

def appInfoField (b : Build) : UInt8 :=
  flag b.manufactureId.isSome appInfoComMsIdMask ||| flag b.modelId.isSome appInfoComModelIdMask |||
    flag (b.cmdList.length > 0) appInfoComCmdListMask |||
    flag (b.inClusList.length > 0 ∨ b.outClusList.length > 0) appInfoComClusterListMask |||
    flag b.switchInfo.isSome appInfoComSwitchInformationPresentMask |||
    flag b.appDescriptionFollows appInfoComAppDescriptionFollowsMask

def uint16Bytes (v : UInt16) : List UInt8 := [loUint16 v.toNat, hiUint16 v.toNat]

/-- The stub of the application's contact status. -/
def emberGpdAfPluginGetSwitchContactStutusCallback : UInt8 := 0

def clusterLists (b : Build) : List UInt8 :=
  if b.inClusList.length > 0 ∨ b.outClusList.length > 0 then
    UInt8.ofNat (b.inClusList.length + b.outClusList.length * 16) ::
      b.inClusList.flatMap uint16Bytes ++ b.outClusList.flatMap uint16Bytes
  else []

def appInformation (b : Build) : List UInt8 :=
  (b.manufactureId.map uint16Bytes).getD [] ++ (b.modelId.map uint16Bytes).getD [] ++
    (if b.cmdList.length > 0 then UInt8.ofNat b.cmdList.length :: b.cmdList else []) ++
    clusterLists b ++
    (b.switchInfo.map (fun info => [2, info, emberGpdAfPluginGetSwitchContactStutusCallback])).getD []

def put (bytes : List UInt8) (cmd : ℕ × Mem UInt8) : ℕ × Mem UInt8 :=
  (cmd.1 + bytes.length, cmd.2.store cmd.1 bytes)

/-- The key in the request. An unencrypted key is stored without moving the index. -/
def putKey (b : Build) (key : Key) (cmd : ℕ × Mem UInt8) (s : Device) : (ℕ × Mem UInt8) × Device :=
  if b.keyEncrypt then
    let (protectedKey, mic, s) := emberGpdSecurityEncryptKey b s.gpdNode.addr key s
    (put mic (put protectedKey cmd), s)
  else ((cmd.1, cmd.2.store cmd.1 s.gpdNode.securityKey.toList), s)

def gpdBuildCommissioningCommand (b : Build) (keyPresentInComRequest : Bool) (keyType : UInt8)
    (key : Key) (frameCounter : UInt32) (cmd : Mem UInt8) (s : Device) :
    (ℕ × Mem UInt8) × Device :=
  let cmd := put [cmdCommissioning, b.appDeviceId] (0, cmd)
  -- the index stays at the options unless extended options follow
  let cmd := (cmd.1, cmd.2.store cmd.1 [optionsField b keyType])
  let (cmd, s) :=
    if b.securityLevel > securityLevelNone then
      let cmd := put [extendedOptionsField b keyPresentInComRequest keyType] (cmd.1 + 1, cmd.2)
      let (cmd, s) := if keyPresentInComRequest then putKey b key cmd s else (cmd, s)
      (put (copy4Bytes frameCounter) cmd, s)
    else (cmd, s)
  let cmd := if b.appInfo then put (appInformation b) (put [appInfoField b] cmd) else cmd
  ((uint8 cmd.1, cmd.2), s)

end GreenPower.CommissioningCommand
