import GreenPower.AuthenticatedCipher

set_option autoImplicit false

/-!
Compile-time values: the protocol constants of `gpd-components-common.h` and, as a record,
the user options of `gpd-configuration.h` for a build with source-id addressing. A build
also fixes the CCM engine that is linked in.
-/
namespace GreenPower.BuildOptions
open AuthenticatedCipher

abbrev Key := Vector UInt8 16

def txMpduSize : ℕ := 128
def rxMpduSize : ℕ := 128
def tempDataOutSize : ℕ := 80
def tagSize : ℕ := 4
def micLengthBytes : ℕ := 4
def keyLength : ℕ := 16
def nonceSize : ℕ := 13
def nvDataSize : ℕ := 32
def srcIdMaxPayloadSize : ℕ := 59
def cmdMaxPayloadSize : ℕ := 40

def securityKeyTypeIndicationMask : UInt8 := 0x04

def appIdSrcId : UInt8 := 0
def appIdIeeeId : UInt8 := 2

def nwkFcOffsetForLongAddress : ℕ := 14
def nwkFcOffsetForShortAddress : ℕ := 8

def securityLevelNone : UInt8 := 0
def securityLevelLongAuthOnly : UInt8 := 2
def securityLevelLongFull : UInt8 := 3

def securityKeyTypeNoKey : UInt8 := 0
def securityKeyTypeNwk : UInt8 := 1
def securityKeyTypeGroup : UInt8 := 2
def securityKeyTypeGroupDerived : UInt8 := 3
def securityKeyTypeOob : UInt8 := 4

def nvDataFrameCounterIndex : ℕ := 0
def nvDataKeyIndex : ℕ := 4
def nvDataSecLevelIndex : ℕ := 20
def nvDataSecKeyTypeIndex : ℕ := 21
def nvDataChannelIndex : ℕ := 22
def nvDataStateIndex : ℕ := 23

def cmdCommissioning : UInt8 := 0xE0
def cmdDecommissioning : UInt8 := 0xE1
def cmdCommissioningSuccess : UInt8 := 0xE2
def cmdChannelRqst : UInt8 := 0xE3
def cmdCommissioningAppDescr : UInt8 := 0xE4
def cmdCommissioningReply : UInt8 := 0xF0
def cmdChannelConfig : UInt8 := 0xF3
def cmdToggle : UInt8 := 0x22

def macFcWord : ℕ := 0x0801
def macFcIeeeWordIncoming : ℕ := 0x0C01
def macFooterSize : ℕ := 2
def macHeaderSize : ℕ := 8

def authFixedLenSrcId : ℕ := 10
def authStartSrcId : ℕ := 8

def nwkFcFrameTypeData : UInt8 := 0x00
def nwkFcFrameTypeMaint : UInt8 := 0x01
def nwkFcFrameTypeMask : UInt8 := 0x03
def nwkFcZigbeeVer : UInt8 := 0x03
def nwkFcZigbeeVerMask : UInt8 := 0x1C
def nwkFcZigbeeVerOffset : UInt8 := 2
def nwkFcAutocomMask : UInt8 := 0x40
def nwkFcExtFcMask : UInt8 := 0x80

def extNwkFcAppIdMask : UInt8 := 0x07
def extNwkFcSecurityLevelMask : UInt8 := 0x18
def extNwkFcSecurityLevelOffset : UInt8 := 3
def extNwkFcSecKeyTypeMask : UInt8 := 0x20
def extNwkFcRxAfterTxMask : UInt8 := 0x40
def extNwkFcDirectionMask : UInt8 := 0x80

def comOptMacSeqNbrCapMask : UInt8 := 0x01
def comOptRxCapMask : UInt8 := 0x02
def comOptAppInfoMask : UInt8 := 0x04
def comOptPanIdReqMask : UInt8 := 0x10
def comOptKeyReqMask : UInt8 := 0x20
def comOptFixedLocMask : UInt8 := 0x40
def comOptExtOptMask : UInt8 := 0x80

def extComOptSecurityLevelCapMask : UInt8 := 0x03
def extComOptKeyTypeOffset : UInt8 := 2
def extComOptKeyPresentMask : UInt8 := 0x20
def extComOptKeyEncryptMask : UInt8 := 0x40
def extComOptOutCounterPresentMask : UInt8 := 0x80

def appInfoComMsIdMask : UInt8 := 0x01
def appInfoComModelIdMask : UInt8 := 0x02
def appInfoComCmdListMask : UInt8 := 0x04
def appInfoComClusterListMask : UInt8 := 0x08
def appInfoComSwitchInformationPresentMask : UInt8 := 0x10
def appInfoComAppDescriptionFollowsMask : UInt8 := 0x20

def comRepOptPanIdPresentMask : UInt8 := 0x01
def comRepOptKeyPresentMask : UInt8 := 0x02
def comRepOptKeyEncryptMask : UInt8 := 0x04
def comRepOptSecurityLevelMask : UInt8 := 0x18
def comRepOptSecurityLevelOffset : UInt8 := 3
def comRepOptKeyTypeMask : UInt8 := 0xE0
def comRepOptKeyTypeOffset : UInt8 := 5

def nextRxChannel : UInt8 := 11
def secondNextRxChannel : UInt8 := 11
def cmdResendNumber : ℕ := 1

/-- `EmberGpdApplicationState_t` is a byte and is reloaded from flash unchecked. -/
abbrev ApplicationState := UInt8

def appStateNotCommissioned : ApplicationState := 0
def appStateChannelRequest : ApplicationState := 1
def appStateChannelReceived : ApplicationState := 2
def appStateCommissioningRequest : ApplicationState := 3
def appStateCommissioningReplyReceived : ApplicationState := 4
def appStateCommissioningSuccessRequest : ApplicationState := 5
def appStateOperational : ApplicationState := 6
def appStateOperationalCommandRequest : ApplicationState := 7
def appStateOperationalCommandReceived : ApplicationState := 8
def appStateInvalid : ApplicationState := 9

inductive MacSeq where
  | random
  | incremental
  deriving DecidableEq

/-- `mbedtls_ccm` with the tag size used throughout. -/
abbrev Ccm := Aead Key UInt8 tagSize

structure Build where
  ccm : Ccm
  appDeviceId : UInt8
  appChannelSet : List UInt8
  srcId : UInt32
  gpdEndpoint : UInt8
  macSeq : MacSeq
  bidirCapable : Bool
  rxOffset : UInt8
  rxWindow : UInt8
  rxCapability : Bool
  panIdRequest : Bool
  securityLevel : UInt8
  securityKeyType : UInt8
  key : Key
  keyRequest : Bool
  keyEncrypt : Bool
  fixedLocation : Bool
  appInfo : Bool
  manufactureId : Option UInt16
  modelId : Option UInt16
  cmdList : List UInt8
  inClusList : List UInt16
  outClusList : List UInt16
  switchInfo : Option UInt8
  appDescriptionFollows : Bool
  numberOfChannelRequestPerChannelWithAcSet : ℕ
  numberOfChannelRequestPerChannel : ℕ
  numberOfCommissioningRequest : UInt8

def shipped (ccm : Ccm) : Build where
  ccm := ccm
  appDeviceId := 2
  appChannelSet := [11, 15, 20, 24, 25, 12, 13, 14, 16, 17, 18, 19, 21, 22, 23, 26]
  srcId := 305419896
  gpdEndpoint := 99
  macSeq := .incremental
  bidirCapable := true
  rxOffset := 20
  rxWindow := 100
  rxCapability := true
  panIdRequest := false
  securityLevel := securityLevelLongFull
  securityKeyType := securityKeyTypeOob
  key := #v[0x00, 0x11, 0x22, 0x33, 0x44, 0x55, 0x66, 0x77,
    0x88, 0x99, 0xaa, 0xbb, 0xcc, 0xdd, 0xee, 0xff]
  keyRequest := true
  keyEncrypt := true
  fixedLocation := true
  appInfo := false
  manufactureId := none
  modelId := none
  cmdList := []
  inClusList := []
  outClusList := []
  switchInfo := none
  appDescriptionFollows := false
  numberOfChannelRequestPerChannelWithAcSet := 4
  numberOfChannelRequestPerChannel := 4
  numberOfCommissioningRequest := 4

end GreenPower.BuildOptions
