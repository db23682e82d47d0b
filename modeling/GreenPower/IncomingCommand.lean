import GreenPower.Security

set_option autoImplicit false

/-!
`emberGpdIncomingCommandHandler` with the callbacks it dispatches to and
`emberGpdProcessCommissioningReply`. A pointer into the receive buffer is its index there.
-/
namespace GreenPower.IncomingCommand
open MemoryArray ByteWord BuildOptions DeviceState Security

/-- The stub of the application's own command hook: nothing is handled there. -/
def emberGpdAfPluginIncomingCommandCallback (_gpdCommand : UInt8) : Bool := false

def emberGpdSetChannel (channel : UInt8) (s : Device) : Device :=
  { s with gpdNode.channel := channel }

/-- Also posts `GPD_EVENT_FLAG_STACK`, which the recorded event stands for. -/
def emberGpdSetState (gpdState : ApplicationState) (s : Device) : Device :=
  { s with gpdNode.gpdState := gpdState }.record (.setState gpdState)

/-- The end of a successful reply: the security fields, then the CCM key. -/
def finishReply (newKey : Option Key) (securityLevel securityKeyType : UInt8) (s : Device) :
    Status × Device :=
  let s := { s with gpdNode.securityKeyType := securityKeyType }
  let s := { s with gpdNode.securityLevel := securityLevel }
  let s := emberGpdMbedtlsCcmSetkeyWraper s.gpdNode.securityKey s
  (.success, s.record (.replyAccepted newKey))

def panIdPresent (options : UInt8) : Bool := options &&& comRepOptPanIdPresentMask ≠ 0
def keyPresent (options : UInt8) : Bool := options &&& comRepOptKeyPresentMask ≠ 0
def keyEncrypted (options : UInt8) : Bool := options &&& comRepOptKeyEncryptMask ≠ 0

def replySecurityLevel (options : UInt8) : UInt8 :=
  (options &&& comRepOptSecurityLevelMask) >>> comRepOptSecurityLevelOffset

def replySecurityKeyType (options : UInt8) : UInt8 :=
  (options &&& comRepOptKeyTypeMask) >>> comRepOptKeyTypeOffset

/-- Where the key of a reply starts: after the options and the PAN id, if present. -/
def keyIndex (pRxbuffer : ℕ) (options : UInt8) : ℕ :=
  pRxbuffer + 1 + (if panIdPresent options then 2 else 0)

/-- `emberGpdProcessCommissioningReply`; the payload size is passed to it and not used. The
decryptor's output buffer is `gpd->securityKey` itself. -/
def emberGpdProcessCommissioningReply (b : Build) (pRxbuffer : ℕ) (s : Device) :
    Status × Device :=
  let cell := s.rxMpdu.cell
  let options := cell pRxbuffer
  let securityLevel := replySecurityLevel options
  let securityKeyType := replySecurityKeyType options
  let index := keyIndex pRxbuffer options
  let s := s.touchRx pRxbuffer 1
  let s := if panIdPresent options then s.touchRx (pRxbuffer + 1) 1 else s
  if keyPresent options then
    if keyEncrypted options then
      if b.keyEncrypt then
        let s := s.touchRx index (keyLength + micLengthBytes + 4)
        let (status, decryptedKey, s) := emberGpdSecurityDecryptKey b s.gpdNode.addr
          (load cell index keyLength) (load cell (index + keyLength) micLengthBytes)
          (readWord cell (index + keyLength + micLengthBytes)) s
        let s := { s with gpdNode.securityKey := decryptedKey }
        if status = .success then finishReply (some decryptedKey) securityLevel securityKeyType s
        else (.failed, s.record .replyRejected)
      else finishReply none securityLevel securityKeyType s
    else
      let s := s.touchRx index keyLength
      let key := keyOfBytes (load cell index keyLength)
      finishReply (some key) securityLevel securityKeyType { s with gpdNode.securityKey := key }
  else finishReply none securityLevel securityKeyType s

def emberGpdAfPluginCommissioningChannelConfigCallback (channel : UInt8) (s : Device) : Device :=
  emberGpdSetState appStateChannelReceived (emberGpdSetChannel channel s)

def emberGpdAfPluginCommissioningReplyCallback (b : Build) (commReplyPayload : ℕ) (s : Device) :
    Device :=
  let (status, s) := emberGpdProcessCommissioningReply b commReplyPayload s
  if status = .success then emberGpdSetState appStateCommissioningReplyReceived s else s

def configuredChannel (payload : UInt8) : UInt8 := (payload &&& 0x0F) + 11

def emberGpdIncomingCommandHandler (b : Build) (gpdCommandBuffer length : ℕ) (s : Device) :
    Device :=
  let s := s.record (.incomingCommand gpdCommandBuffer length
    (load s.rxMpdu.cell gpdCommandBuffer length))
  if length = 0 then s
  else
    let gpdCommand := s.rxMpdu.cell gpdCommandBuffer
    let s := s.touchRx gpdCommandBuffer 1
    let finger := gpdCommandBuffer + 1
    if emberGpdAfPluginIncomingCommandCallback gpdCommand then s
    else if gpdCommand = cmdChannelConfig then
      let channel := configuredChannel (s.rxMpdu.cell finger)
      emberGpdAfPluginCommissioningChannelConfigCallback channel (s.touchRx finger 1)
    else if gpdCommand = cmdCommissioningReply then
      emberGpdAfPluginCommissioningReplyCallback b finger s
    else s

theorem replySecurityLevel_le : ∀ options, replySecurityLevel options ≤ 3 :=
  forall_uint8 (by decide +kernel)

theorem replySecurityKeyType_le : ∀ options, replySecurityKeyType options ≤ 7 :=
  forall_uint8 (by decide +kernel)

theorem configuredChannel_range : ∀ payload,
    11 ≤ configuredChannel payload ∧ configuredChannel payload ≤ 26 :=
  forall_uint8 (by decide +kernel)

end GreenPower.IncomingCommand
