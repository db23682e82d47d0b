import GreenPower.FieldReader
import GreenPower.RequestPayload

set_option autoImplicit false

/-!
The commissioning command as a receiver reads it: each option announces what comes later.
-/
namespace GreenPower.RequestGrammar
open MemoryArray ByteWord BuildOptions DeviceState Security FrameBuild CommissioningCommand
  RequestPayload FieldReader

def extComOptKeyTypeMask : UInt8 := 0x1C

structure Options where
  macSeqNbrCap : Bool
  rxCap : Bool
  appInfo : Bool
  panIdReq : Bool
  keyReq : Bool
  fixedLoc : Bool
  extOpt : Bool
  deriving DecidableEq

structure ExtendedOptions where
  securityLevelCap : UInt8
  keyType : UInt8
  keyPresent : Bool
  keyEncrypt : Bool
  outCounterPresent : Bool
  deriving DecidableEq

structure AppInfo where
  msId : Option UInt16
  modelId : Option UInt16
  cmdList : Option (List UInt8)
  clusterLists : Option (List UInt16 × List UInt16)
  switchInformation : Option (List UInt8)
  appDescriptionFollows : Bool
  deriving DecidableEq

structure Request where
  command : UInt8
  deviceId : UInt8
  options : Options
  extendedOptions : Option ExtendedOptions
  key : Option (List UInt8)
  keyMic : Option (List UInt8)
  outCounter : Option UInt32
  appInfo : Option AppInfo
  deriving DecidableEq

def has (field mask : UInt8) : Bool := field &&& mask ≠ 0

def Options.ofOctet (o : UInt8) : Options where
  macSeqNbrCap := has o comOptMacSeqNbrCapMask
  rxCap := has o comOptRxCapMask
  appInfo := has o comOptAppInfoMask
  panIdReq := has o comOptPanIdReqMask
  keyReq := has o comOptKeyReqMask
  fixedLoc := has o comOptFixedLocMask
  extOpt := has o comOptExtOptMask

def ExtendedOptions.ofOctet (o : UInt8) : ExtendedOptions where
  securityLevelCap := o &&& extComOptSecurityLevelCapMask
  keyType := (o &&& extComOptKeyTypeMask) >>> extComOptKeyTypeOffset
  keyPresent := has o extComOptKeyPresentMask
  keyEncrypt := has o extComOptKeyEncryptMask
  outCounterPresent := has o extComOptOutCounterPresentMask

def readUint16 : Reader UInt16 := do
  let bytes ← octets 2
  pure (UInt16.ofNat (ofBytes bytes))

def readUint32 : Reader UInt32 := do
  let bytes ← octets 4
  pure (word32 bytes)

def readCounted : Reader (List UInt8) := do
  let length ← octet
  octets length.toNat

def readClusterLists : Reader (List UInt16 × List UInt16) := do
  let lengths ← octet
  let inClusters ← many readUint16 (lengths.toNat % 16)
  let outClusters ← many readUint16 (lengths.toNat / 16)
  pure (inClusters, outClusters)

def readAppInfo : Reader AppInfo := do
  let flags ← octet
  let msId ← announced (has flags appInfoComMsIdMask) readUint16
  let modelId ← announced (has flags appInfoComModelIdMask) readUint16
  let cmdList ← announced (has flags appInfoComCmdListMask) readCounted
  let clusterLists ← announced (has flags appInfoComClusterListMask) readClusterLists
  let switchInformation ←
    announced (has flags appInfoComSwitchInformationPresentMask) readCounted
  pure
    { msId := msId
      modelId := modelId
      cmdList := cmdList
      clusterLists := clusterLists
      switchInformation := switchInformation
      appDescriptionFollows := has flags appInfoComAppDescriptionFollowsMask }

def announces (ext : Option ExtendedOptions) (field : ExtendedOptions → Bool) : Bool :=
  ext.any field

def readRequest : Reader Request := do
  let command ← octet
  let deviceId ← octet
  let options ← octet
  let ext ← announced (Options.ofOctet options).extOpt (do
    let o ← octet
    pure (ExtendedOptions.ofOctet o))
  let key ← announced (announces ext (fun e => e.keyPresent)) (octets keyLength)
  let keyMic ← announced (announces ext (fun e => e.keyPresent && e.keyEncrypt))
    (octets micLengthBytes)
  let outCounter ← announced (announces ext (fun e => e.outCounterPresent)) readUint32
  let appInfo ← announced (Options.ofOctet options).appInfo readAppInfo
  pure
    { command := command
      deviceId := deviceId
      options := Options.ofOctet options
      extendedOptions := ext
      key := key
      keyMic := keyMic
      outCounter := outCounter
      appInfo := appInfo }

def configuredOptions (b : Build) (keyType : UInt8) : Options where
  macSeqNbrCap := b.macSeq = .incremental
  rxCap := b.bidirCapable
  appInfo := b.appInfo
  panIdReq := b.panIdRequest
  keyReq := !withoutKeyRequest b keyType && b.keyRequest
  fixedLoc := b.fixedLocation
  extOpt := Extended b

def configuredExtension (b : Build) (present : Bool) (keyType : UInt8) : ExtendedOptions where
  securityLevelCap := b.securityLevel
  keyType := keyType
  keyPresent := present
  keyEncrypt := b.keyEncrypt
  outCounterPresent := true

def configuredAppInfo (b : Build) : AppInfo where
  msId := b.manufactureId
  modelId := b.modelId
  cmdList := if b.cmdList.length > 0 then some b.cmdList else none
  clusterLists :=
    if b.inClusList.length > 0 ∨ b.outClusList.length > 0 then some (b.inClusList, b.outClusList)
    else none
  switchInformation :=
    b.switchInfo.map (fun info => [info, emberGpdAfPluginGetSwitchContactStutusCallback])
  appDescriptionFollows := b.appDescriptionFollows

/-- The key as it should stand in the request: encrypted if that is configured. -/
def configuredKey (b : Build) (key : Key) (s : Device) : List UInt8 :=
  if b.keyEncrypt then (emberGpdSecurityEncryptKey b s.gpdNode.addr key s).1 else key.toList

def configured (b : Build) (present : Bool) (keyType : UInt8) (key : Key) (frameCounter : UInt32)
    (s : Device) : Request where
  command := cmdCommissioning
  deviceId := b.appDeviceId
  options := configuredOptions b keyType
  extendedOptions := if Extended b then some (configuredExtension b present keyType) else none
  key := if Extended b ∧ present = true then some (configuredKey b key s) else none
  keyMic :=
    if Extended b ∧ present = true ∧ b.keyEncrypt = true then
      some (emberGpdSecurityEncryptKey b s.gpdNode.addr key s).2.1
    else none
  outCounter := if Extended b then some frameCounter else none
  appInfo := if b.appInfo = true then some (configuredAppInfo b) else none

def AppInfo.size (info : AppInfo) : ℕ :=
  1 + info.msId.elim 0 (fun _ => 2) + info.modelId.elim 0 (fun _ => 2) +
    info.cmdList.elim 0 (fun l => 1 + l.length) +
    info.clusterLists.elim 0 (fun l => 1 + 2 * l.1.length + 2 * l.2.length) +
    info.switchInformation.elim 0 (fun l => 1 + l.length)

def Request.size (r : Request) : ℕ :=
  3 + r.extendedOptions.elim 0 (fun _ => 1) + r.key.elim 0 List.length +
    r.keyMic.elim 0 List.length + r.outCounter.elim 0 (fun _ => 4) +
    r.appInfo.elim 0 AppInfo.size

/-- The bytes below the returned length are a request, and the one that was configured. -/
def Parseable (b : Build) (present : Bool) (keyType : UInt8) (key : Key) (frameCounter : UInt32)
    (cmd : Mem UInt8) (s : Device) : Prop :=
  let out := (gpdBuildCommissioningCommand b present keyType key frameCounter cmd s).1
  readRequest (load out.2.cell 0 out.1) =
    some (configured b present keyType key frameCounter s, [])

theorem takes_readUint16 : Takes readUint16 0 (fun _ => 2) (fun _ => True) :=
  (takes_octets 2).bind (fun _ length => takes_pure (by rw [length]) trivial)

theorem takes_readUint32 : Takes readUint32 0 (fun _ => 4) (fun _ => True) :=
  (takes_octets 4).bind (fun _ length => takes_pure (by rw [length]) trivial)

theorem takes_readCounted : Takes readCounted 0 (fun l => 1 + l.length) (fun _ => True) := by
  refine takes_octet.bind (fun length _ => ?_)
  intro xs x rest read
  obtain ⟨took, -⟩ := takes_octets length.toNat xs x rest read
  refine ⟨?_, trivial⟩
  change 0 + 1 + xs.length = 1 + x.length + rest.length
  omega

theorem takes_readClusterLists :
    Takes readClusterLists 0 (fun l => 1 + 2 * l.1.length + 2 * l.2.length) (fun _ => True) := by
  refine takes_octet.bind (fun lengths _ => ?_)
  refine (takes_many takes_readUint16 _).bind (fun inClusters _ => ?_)
  refine (takes_many takes_readUint16 _).bind (fun outClusters _ => ?_)
  exact takes_pure (by rw [Nat.zero_add]) trivial

theorem takes_readAppInfo : Takes readAppInfo 0 AppInfo.size (fun _ => True) := by
  refine takes_octet.bind (fun flags _ => ?_)
  refine (takes_announced _ takes_readUint16).bind (fun msId _ => ?_)
  refine (takes_announced _ takes_readUint16).bind (fun modelId _ => ?_)
  refine (takes_announced _ takes_readCounted).bind (fun cmdList _ => ?_)
  refine (takes_announced _ takes_readClusterLists).bind (fun clusterLists _ => ?_)
  refine (takes_announced _ takes_readCounted).bind (fun switchInformation _ => ?_)
  exact takes_pure (by rw [Nat.zero_add]; rfl) trivial

def ExtendedOptions.InRange (e : ExtendedOptions) : Prop :=
  e.securityLevelCap ≤ 3 ∧ e.keyType < 8

theorem ExtendedOptions.ofOctet_inRange : ∀ o, (ofOctet o).InRange :=
  forall_uint8 (by unfold InRange; decide +kernel)

theorem takes_readRequest :
    Takes readRequest 0 Request.size (fun r => ∀ e ∈ r.extendedOptions, e.InRange) := by
  have extension : Takes (do let o ← octet; pure (ExtendedOptions.ofOctet o)) 0 (fun _ => 1)
      ExtendedOptions.InRange :=
    takes_octet.map (fun _ => rfl) (fun o _ => ExtendedOptions.ofOctet_inRange o)
  refine takes_octet.bind (fun command _ => ?_)
  refine takes_octet.bind (fun deviceId _ => ?_)
  refine takes_octet.bind (fun options _ => ?_)
  refine (takes_announced _ extension).bind (fun ext inRange => ?_)
  refine (takes_announced _ (takes_octets _)).bind (fun key _ => ?_)
  refine (takes_announced _ (takes_octets _)).bind (fun keyMic _ => ?_)
  refine (takes_announced _ takes_readUint32).bind (fun outCounter _ => ?_)
  refine (takes_announced _ takes_readAppInfo).bind (fun appInfo _ => ?_)
  exact takes_pure (by rw [Nat.zero_add]; rfl) inRange

end GreenPower.RequestGrammar
