import GreenPower.SendReceive
import GreenPower.CommissioningCommand

set_option autoImplicit false

/-!
The sends and state machines of `gpd-apps-commission.c`, and from `gpd-apps-node.c` the
default configuration and the start of the device. `bidirCapable` selects the code compiled
for bidirectional operation and `appDescriptionFollows` that for application descriptions.
-/
namespace GreenPower.Commissioning
open MemoryArray ByteWord BuildOptions DeviceState Security NonVolatile IncomingCommand
  SendReceive CommissioningCommand

def emberGpdLoadGpdDefaultConfiguration (b : Build) (s : Device) : Device :=
  { s with gpdNode :=
    { s.gpdNode with
      addr := { s.gpdNode.addr with appId := appIdSrcId, srcId := b.srcId }
      channel := b.appChannelSet.headD 0
      minRxWindow := b.rxWindow
      rxAfterTx := if b.rxCapability then 1 else 0
      rxOffset := b.rxOffset
      skipCca := true
      securityKey := b.key
      securityKeyType := b.securityKeyType
      securityLevel := b.securityLevel
      gpdState := appStateNotCommissioned } }

def emberGpdInit (b : Build) (s : Device) : Device :=
  let s := emberGpdLoadGpdDefaultConfiguration b s
  let s := emberGpdLoadSecDataFromNV s
  let s := emberGpdSecurityInit s.gpdNode.addr s.gpdNode.securityKey
    s.gpdNode.securityFrameCounter s
  s.record (.booted s.gpdNode.securityKey)

/-- Local arrays of the send functions are filled before they are read. -/
def command : Mem UInt8 := .untouched (fun _ => 0)

def sendCommissioningRequest (b : Build) (s : Device) : Device :=
  let s := { s with gpdNode.securityLevel := securityLevelNone }
  let ((commandLength, command), s) := gpdBuildCommissioningCommand b true b.securityKeyType b.key
    s.gpdNode.securityFrameCounter command s
  emberAfGpdfSend b nwkFcFrameTypeData (load command.cell 0 commandLength) cmdResendNumber s

def sendSuccess (b : Build) (s : Device) : Device :=
  emberAfGpdfSend b nwkFcFrameTypeData [cmdCommissioningSuccess] cmdResendNumber s

def sendChannelRequest (b : Build) (nextChannel secondNextChannel : UInt8) (s : Device) : Device :=
  emberAfGpdfSend b nwkFcFrameTypeMaint
    [cmdChannelRqst, (nextChannel - 11) + ((secondNextChannel - 11) <<< (4 : UInt8))] cmdResendNumber s

def appDescStepSendCommissioningReq : UInt8 := 0
def appDescStepSendAppDescriptionReq : UInt8 := 1
def appDescStepSendAppDescriptionFinalReq : UInt8 := 2

def stubDescription : List UInt8 × Bool :=
  ([0x01, 0x01, 0x00, 0x00, 0x07, 0x08, 0x06, 0x04, 0x00, 0x00, 0x18, 0x10, 0x00], true)

def emberGpdAfPluginGetApplicationDescriptionCallback (s : Device) :
    List UInt8 × Bool × Device :=
  let (messagePayload, last) := s.descriptions.headD stubDescription
  (messagePayload, last, { s with descriptions := s.descriptions.tail })

def gpdBuildCommissioningApplicationDescriptionCommand (cmd : Mem UInt8) (s : Device) :
    (ℕ × Mem UInt8) × Bool × Device :=
  let cmd := put [cmdCommissioningAppDescr] (0, cmd)
  let (messagePayload, last, s) := emberGpdAfPluginGetApplicationDescriptionCallback s
  let cmd := put messagePayload cmd
  ((uint8 cmd.1, cmd.2), last, s)

def sendApplicationDescriptionCommand (b : Build) (s : Device) : Bool × Device :=
  let ((commandLength, command), last, s) :=
    gpdBuildCommissioningApplicationDescriptionCommand command s
  let s := if b.bidirCapable then { s with gpdNode.rxAfterTx := if last then 1 else 0 } else s
  (last, emberAfGpdfSend b nwkFcFrameTypeData (load command.cell 0 commandLength) cmdResendNumber s)

/-- The final requests: `true` when the loop was left on a received reply. -/
def finalRequests (b : Build) : ℕ → Device → Bool × Device
  | 0, s => (false, s)
  | n + 1, s =>
    if s.gpdNode.gpdState = appStateCommissioningReplyReceived then (true, s)
    else finalRequests b n (sendApplicationDescriptionCommand b s).2

def gpdCommissioningStateMachineWithAppDescription (b : Build) (s : Device) : Device :=
  if s.applicationDescriptionState = appDescStepSendCommissioningReq then
    let s := { s with gpdNode.rxAfterTx := 0 }
    let s := (sendCommissioningRequest b)^[b.numberOfCommissioningRequest.toNat] s
    { s with applicationDescriptionState := appDescStepSendAppDescriptionReq }
  else if s.applicationDescriptionState = appDescStepSendAppDescriptionReq then
    let (last, s) := sendApplicationDescriptionCommand b s
    if last then { s with applicationDescriptionState := appDescStepSendAppDescriptionFinalReq }
    else s
  else if s.applicationDescriptionState = appDescStepSendAppDescriptionFinalReq then
    let (replied, s) := finalRequests b b.numberOfCommissioningRequest.toNat s
    let s := if replied then s else { s with gpdNode.gpdState := appStateNotCommissioned }
    { s with applicationDescriptionState := appDescStepSendCommissioningReq }
  else { s with applicationDescriptionState := appDescStepSendCommissioningReq }

def chReqOnAllChannels : UInt8 := 0
def chReqOnRxChannel : UInt8 := 1

def requestOnChannel (b : Build) (channel : UInt8) (s : Device) : Device :=
  sendChannelRequest b nextRxChannel secondNextRxChannel { s with gpdNode.channel := channel }

def gpdCommissioningChannelRequestStateOnAllChannel (b : Build) (s : Device) : Device :=
  let s := { s with gpdNode := { s.gpdNode with rxAfterTx := 0, autoCommissioning := true } }
  (fun s => b.appChannelSet.foldl (fun s channel => requestOnChannel b channel s) s)^[
    b.numberOfChannelRequestPerChannelWithAcSet] s

/-- The request loop; a received channel leaves it before the state is reset. -/
def rxChannelRequests (b : Build) : ℕ → Device → Device
  | 0, s => { s with gpdNode.gpdState := appStateChannelRequest }
  | n + 1, s =>
    if s.gpdNode.gpdState = appStateChannelReceived then s
    else rxChannelRequests b n (requestOnChannel b nextRxChannel s)

def gpdCommissioningChannelRequestOnRxChannel (b : Build) (s : Device) : Device :=
  let s := { s with gpdNode := { s.gpdNode with rxAfterTx := 1, autoCommissioning := false } }
  rxChannelRequests b b.numberOfChannelRequestPerChannel s

def gpdCommissioningChannelRequestStateMachine (b : Build) (s : Device) : Device :=
  let s := { s with gpdNode :=
    { s.gpdNode with
      securityLevel := securityLevelNone
      securityKeyType := securityKeyTypeNoKey
      skipCca := true } }
  if s.chReqSubstate = chReqOnAllChannels then
    { gpdCommissioningChannelRequestStateOnAllChannel b s with chReqSubstate := chReqOnRxChannel }
  else if s.chReqSubstate = chReqOnRxChannel then
    { gpdCommissioningChannelRequestOnRxChannel b s with chReqSubstate := chReqOnAllChannels }
  else s

/-- The body of the `while` loop always returns, so the loop is a single test. -/
def gpdBidirCommissioningStateMachine (b : Build) (s : Device) : Device :=
  if b.appDescriptionFollows then gpdCommissioningStateMachineWithAppDescription b s
  else if s.gpdNode.currentCommReq < b.numberOfCommissioningRequest then
    if s.gpdNode.gpdState = appStateCommissioningReplyReceived then
      { s with gpdNode.currentCommReq := 0 }
    else
      let s := sendCommissioningRequest b s
      { s with gpdNode.currentCommReq := s.gpdNode.currentCommReq + 1 }
  else { s with gpdNode.gpdState := appStateNotCommissioned }

def sendUndirCommissioningRequest (b : Build) (s : Device) : Device :=
  let securityLevel := s.gpdNode.securityLevel
  let s :=
    if b.appDescriptionFollows then gpdCommissioningStateMachineWithAppDescription b s
    else sendCommissioningRequest b s
  let s := { s with gpdNode.securityLevel := securityLevel }
  emberGpdMbedtlsCcmSetkeyWraper s.gpdNode.securityKey s

def emberGpdAfPluginDeCommission (b : Build) (s : Device) : Device :=
  let s := emberAfGpdfSend b nwkFcFrameTypeData [cmdDecommissioning] cmdResendNumber s
  let s := emberGpdLoadGpdDefaultConfiguration b s
  emberGpdStoreSecDataToNV (s.record .decommissioned)

def emberGpdAfPluginCommission (b : Build) (s : Device) : Device :=
  if b.bidirCapable then
    if s.gpdNode.gpdState = appStateChannelRequest then
      gpdCommissioningChannelRequestStateMachine b s
    else if s.gpdNode.gpdState = appStateChannelReceived then gpdBidirCommissioningStateMachine b s
    else if s.gpdNode.gpdState = appStateCommissioningReplyReceived then
      sendSuccess b (emberGpdSetState appStateCommissioningSuccessRequest s)
    else s
  else sendUndirCommissioningRequest b s

end GreenPower.Commissioning
