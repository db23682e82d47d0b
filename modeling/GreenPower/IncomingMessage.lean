import GreenPower.FrameBuild
import GreenPower.IncomingCommand

set_option autoImplicit false

/-!
The receive half of `gpd-nwk.c` for source-id addressing. Each local variable of
`emberGpdIncomingMessageHandler` is a function of the buffer under its own name; the handler
itself keeps the order of the tests and of the buffer reads.
-/
namespace GreenPower.IncomingMessage
open MemoryArray ByteWord BuildOptions DeviceState Security FrameBuild IncomingCommand

def emberGpdUtilityAddrMatch (a1 a2 : EmberGpdAddr) : Bool :=
  if a1.appId = appIdSrcId ∧ a2.appId = appIdSrcId then a1.srcId = a2.srcId
  else if a1.appId = appIdIeeeId ∧ a2.appId = appIdIeeeId then
    (a1.srcId = a2.srcId ∧ a1.ieeeHigh = a2.ieeeHigh) ∧
      (a1.gpdEndpoint = a2.gpdEndpoint ∨ a1.gpdEndpoint = 0xff ∨ a2.gpdEndpoint = 0xff ∨
        a1.gpdEndpoint = 0x00 ∨ a2.gpdEndpoint = 0x00)
  else false

section
variable (buffer : Cells UInt8)

def nwkPayloadLength : ℕ := uint8 ((buffer 0).toNat - macFooterSize)

def mFc : ℕ := (buffer 2).toNat * 256 + (buffer 1).toNat

def nwkFcOffset : ℕ :=
  if mFc buffer = macFcIeeeWordIncoming then nwkFcOffsetForLongAddress
  else if mFc buffer = macFcWord then nwkFcOffsetForShortAddress
  else 0

def nwkFc : UInt8 := buffer (nwkFcOffset buffer)

def zigbeeVersion : UInt8 := (nwkFc buffer &&& nwkFcZigbeeVerMask) >>> nwkFcZigbeeVerOffset

def frameType : UInt8 := nwkFc buffer &&& nwkFcFrameTypeMask

def autoCommissioning : Bool := nwkFc buffer &&& nwkFcAutocomMask ≠ 0

def nwkFcExtnPresent : Bool := nwkFc buffer &&& nwkFcExtFcMask ≠ 0

def nwkFcExtn : UInt8 := if nwkFcExtnPresent buffer then buffer (nwkFcOffset buffer + 1) else 0

def direction : UInt8 := if nwkFcExtn buffer &&& extNwkFcDirectionMask ≠ 0 then 1 else 0

def rxAfterTx : Bool := nwkFcExtn buffer &&& extNwkFcRxAfterTxMask ≠ 0

def securityLevel : UInt8 :=
  (nwkFcExtn buffer &&& extNwkFcSecurityLevelMask) >>> extNwkFcSecurityLevelOffset

def appId : UInt8 := nwkFcExtn buffer &&& extNwkFcAppIdMask

def srcIdPresent : Bool :=
  nwkFcExtnPresent buffer ∧ appId buffer = appIdSrcId ∧ frameType buffer = nwkFcFrameTypeData

def srcIdFinger : ℕ := nwkFcOffset buffer + 1 + (if nwkFcExtnPresent buffer then 1 else 0)

def addr : EmberGpdAddr :=
  if srcIdPresent buffer then
    { zeroAddr with appId := appId buffer, srcId := readWord buffer (srcIdFinger buffer) }
  else zeroAddr

def frameCounterFinger : ℕ := srcIdFinger buffer + (if srcIdPresent buffer then 4 else 0)

def micLength : ℕ := if Secured (securityLevel buffer) then tagSize else 0

def payloadFinger : ℕ := frameCounterFinger buffer + (if Secured (securityLevel buffer) then 4 else 0)

def gpdfAppPayloadLength : ℕ :=
  if nwkPayloadLength buffer > payloadFinger buffer + micLength buffer - 1 then
    uint8 (nwkPayloadLength buffer - (payloadFinger buffer + micLength buffer - 1))
  else 0

def authLengthAuthOnly : ℕ :=
  uint8 (nwkPayloadLength buffer - authStartSrcId + 1 - micLengthBytes)

def encrLengthFull : ℕ :=
  uint8 (nwkPayloadLength buffer - authStartSrcId + 1 - authFixedLenSrcId - micLengthBytes)

end

/-- Data frame security processing; the caller has no use for the returned status. -/
def dataFrameSecurity (b : Build) (s : Device) : Device :=
  let buffer := s.rxMpdu.cell
  if appId buffer = appIdSrcId ∧ frameType buffer = nwkFcFrameTypeData then
    if securityLevel buffer = securityLevelLongAuthOnly then
      (emberDecryptRxBuffer b (authStartSrcId - 1) 0 (authLengthAuthOnly buffer) s).2
    else if securityLevel buffer = securityLevelLongFull then
      (emberDecryptRxBuffer b authStartSrcId (encrLengthFull buffer) authFixedLenSrcId s).2
    else s
  else s

def acceptedFrame (b : Build) (s : Device) : Device :=
  let buffer := s.rxMpdu.cell
  let s :=
    if Secured (securityLevel buffer) then
      (s.touchRx (frameCounterFinger buffer) 4).touchRx (nwkPayloadLength buffer - tagSize) 4
    else s
  let s := dataFrameSecurity b s
  if gpdfAppPayloadLength buffer ≠ 0 then
    emberGpdIncomingCommandHandler b (payloadFinger buffer) (gpdfAppPayloadLength buffer) s
  else s

def emberGpdIncomingMessageHandler (b : Build) (s : Device) : Device :=
  let buffer := s.rxMpdu.cell
  let s := s.touchRx 0 1
  if nwkPayloadLength buffer < 8 then s
  else
    let s := s.touchRx 1 2
    if nwkFcOffset buffer = 0 then s
    else
      let s := s.touchRx (nwkFcOffset buffer) 1
      if zigbeeVersion buffer ≠ nwkFcZigbeeVer ∨ frameType buffer > nwkFcFrameTypeMaint then s
      else
        let s := if nwkFcExtnPresent buffer then s.touchRx (nwkFcOffset buffer + 1) 1 else s
        if nwkFcExtnPresent buffer ∧ direction buffer ≠ 1 then s
        else if (nwkFcExtnPresent buffer ∧ rxAfterTx buffer) ∧ autoCommissioning buffer then s
        else
          let s := if srcIdPresent buffer then s.touchRx (srcIdFinger buffer) 4 else s
          if frameType buffer = nwkFcFrameTypeData ∧
              ¬ emberGpdUtilityAddrMatch (addr buffer) s.gpdNode.addr then s
          else acceptedFrame b s

/-- `RAILCb_Generic` on a received packet, and the link-layer task it wakes. -/
def railCbGeneric (b : Build) (packet : List UInt8) (s : Device) : Device :=
  emberGpdIncomingMessageHandler b { s with rxMpdu := s.rxMpdu.store 0 packet }

end GreenPower.IncomingMessage
