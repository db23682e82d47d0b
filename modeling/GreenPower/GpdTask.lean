import GreenPower.Commissioning

set_option autoImplicit false

/-!
`GpdTask` of `rtos_gpd.c` as the two branches of its loop, the steps of a powered device and
its whole history: lives that end in a power cut at any point of their log.
-/
namespace GreenPower.GpdTask
open BuildOptions DeviceState NonVolatile IncomingCommand IncomingMessage SendReceive Commissioning

inductive CmdId where
  | commission
  | decommission
  | send
  deriving DecidableEq

def commandBranch (id : CmdId) (s : Device) : Device :=
  match id with
  | .commission => emberGpdSetState appStateChannelRequest s
  | .send => emberGpdSetState appStateOperationalCommandRequest s
  | .decommission => s

def sendToggle (b : Build) (s : Device) : Device :=
  emberAfGpdfSend b nwkFcFrameTypeData [cmdToggle] cmdResendNumber s

def stateSwitch (b : Build) (s : Device) : Device :=
  let gpdState := s.gpdNode.gpdState
  if gpdState = appStateChannelRequest ∨ gpdState = appStateChannelReceived ∨
      gpdState = appStateCommissioningRequest ∨ gpdState = appStateCommissioningReplyReceived then
    emberGpdAfPluginCommission b s
  else if gpdState = appStateCommissioningSuccessRequest then
    emberGpdSetState appStateOperational s
  else if gpdState = appStateOperationalCommandRequest then
    emberGpdSetState appStateOperational (sendToggle b s)
  else if gpdState = appStateInvalid then emberGpdAfPluginDeCommission b s
  else s

/-- The branch under `GPD_EVENT_FLAG_STACK`. -/
def stackBranch (b : Build) (s : Device) : Device := emberGpdStoreSecDataToNV (stateSwitch b s)

/-- A step of a powered device. `receive` is a packet handled outside a receive window; the
windows of a step take their packets from the `air` it is given. `transmit` is a frame sent by
the application itself. -/
inductive Action where
  | command (id : CmdId)
  | stack (air : List (List (List UInt8))) (randoms : List UInt32)
      (descriptions : List (List UInt8 × Bool))
  | transmit (air : List (List (List UInt8))) (randoms : List UInt32) (frameType : UInt8)
      (payload : List UInt8) (repeatNumber : ℕ)
  | receive (packet : List UInt8)
  | store

def perform (b : Build) (s : Device) : Action → Device
  | .command id => commandBranch id s
  | .stack air randoms descriptions =>
    stackBranch b { s with air := air, randoms := randoms, descriptions := descriptions }
  | .transmit air randoms frameType payload repeatNumber =>
    emberAfGpdfSend b frameType payload repeatNumber { s with air := air, randoms := randoms }
  | .receive packet => railCbGeneric b packet s
  | .store => emberGpdStoreSecDataToNV s

def powerUp (b : Build) (log : List Event) : Device := emberGpdInit b (ramCleared log)

def life (b : Build) (log : List Event) (actions : List Action) : Device :=
  actions.foldl (perform b) (powerUp b log)

/-- The history of a chip that was blank or held an image at first: lives that ended in a power
cut at any event. -/
inductive Chip (b : Build) : List Event → Prop
  | fresh : Chip b []
  | written (image : NvImage) : Chip b [.flashSave .earlierLife image]
  | life {log log' : List Event} (actions : List Action) (chip : Chip b log)
      (since : log <:+ log') (cut : log' <:+ (life b log actions).log) : Chip b log'

end GreenPower.GpdTask
