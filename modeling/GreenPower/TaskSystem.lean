import GreenPower.EventFlags
import GreenPower.GpdTask
import GreenPower.Runs

set_option autoImplicit false

/-!
The tasks around `gpd_event_flags`: `GpdTask`, `GpdLinklayerTask`, `gpdAppTask` and the tasks
that call `gpd_cmd_*`, each as the points at which another task or the radio's interrupt may
come in between. `step` lets one of them move.
-/
namespace GreenPower.TaskSystem
open BuildOptions DeviceState NonVolatile IncomingMessage GpdTask EventFlags

inductive Flag where
  | stack
  | ll
  | cmdWaiting
  | rspWaiting
  | evtWaiting
  | evtHandled
  deriving DecidableEq

inductive EvtId where
  | none
  | commissioned
  deriving DecidableEq

inductive TaskId (κ : Type) where
  | gpdTask
  | gpdLinklayerTask
  | gpdAppTask
  | client (k : κ)
  deriving DecidableEq

inductive GpdTaskPoint where
  | top
  | respond
  | postResponse
  | update
  | store
  | postEvent
  | pend
  | waiting
  deriving DecidableEq

inductive LinklayerPoint where
  | pend
  | waiting
  | handle
  deriving DecidableEq

inductive AppPoint where
  | pend
  | waiting
  | handle
  | postHandled
  deriving DecidableEq

/-- Where a client is in `gpd_cmd_*`, between `GpdPend` and `GpdPost` when it uses them. -/
inductive ClientPoint where
  | outside
  | store
  | postCommand
  | pend
  | waiting
  | readResponse
  | leave
  deriving DecidableEq

structure Rsp where
  id : CmdId
  result : UInt16
  deriving DecidableEq

inductive TaskEvent (κ : Type) where
  | called (k : κ) (id : CmdId)
  | executed (id : CmdId)
  | returned (k : κ) (rsp : Rsp)
  | woken (found : Finset Flag)
  | expired
  | round (gpdState : ApplicationState)
  | announced
  | noticed
  | handled (id : EvtId)
  | answered
  | received
  | device (e : Event)
  deriving DecidableEq

structure Sys (κ : Type) where
  device : Device
  gpdEventFlags : FlagGroup (TaskId κ) Flag
  gpdMutex : Option κ
  gpdCmdId : CmdId
  gpdRsp : Rsp
  gpdEvtId : EvtId
  gpdTask : GpdTaskPoint
  flags : Finset Flag
  taskTimeoutTicks : ℕ
  gpdLinklayerTask : LinklayerPoint
  gpdAppTask : AppPoint
  client : κ → ClientPoint
  trace : List (TaskEvent κ)

def gpdTaskMask : Finset Flag := {.stack, .evtHandled, .cmdWaiting}
def linklayerMask : Finset Flag := {.ll}
def appMask : Finset Flag := {.evtWaiting}
def clientMask : Finset Flag := {.rspWaiting}

def taskMask {κ : Type} : TaskId κ → Finset Flag
  | .gpdTask => gpdTaskMask
  | .gpdLinklayerTask => linklayerMask
  | .gpdAppTask => appMask
  | .client _ => clientMask

/-- The tasks as `gpd_start` creates them, on a chip with history `log`. -/
def start (κ : Type) (b : Build) (log : List Event) : Sys κ where
  device := powerUp b log
  gpdEventFlags := ⟨∅, fun _ => .running⟩
  gpdMutex := none
  gpdCmdId := .commission
  gpdRsp := ⟨.commission, 0⟩
  gpdEvtId := .none
  gpdTask := .top
  flags := {.evtHandled}
  taskTimeoutTicks := 0
  gpdLinklayerTask := .pend
  gpdAppTask := .pend
  client := fun _ => .outside
  trace := []

def since (d d' : Device) : List Event := d'.log.take (d'.log.length - d.log.length)

def isSetState : Event → Bool
  | .setState _ => true
  | _ => false

/-- What the radio and the application bring in the course of a round. -/
structure Surroundings where
  air : List (List (List UInt8))
  randoms : List UInt32
  descriptions : List (List UInt8 × Bool)

def Surroundings.set (i : Surroundings) (d : Device) : Device :=
  { d with air := i.air, randoms := i.randoms, descriptions := i.descriptions }

def stateSwitchIn (b : Build) (i : Surroundings) (d : Device) : Device := stateSwitch b (i.set d)

@[simp] theorem Surroundings.set_gpdNode (i : Surroundings) (d : Device) :
    (i.set d).gpdNode = d.gpdNode := rfl

@[simp] theorem Surroundings.set_log (i : Surroundings) (d : Device) : (i.set d).log = d.log := rfl

def setClient {κ : Type} [DecidableEq κ] (k : κ) (p : ClientPoint) (s : Sys κ) : Sys κ :=
  { s with client := Function.update s.client k p }

section
variable {κ : Type} [DecidableEq κ]

def note (e : TaskEvent κ) (s : Sys κ) : Sys κ := { s with trace := e :: s.trace }

def post (flag : Flag) (s : Sys κ) : Sys κ :=
  { s with gpdEventFlags := s.gpdEventFlags.post {flag} }

/-- Every `emberGpdSetState` calls `GpdUpdate`. -/
def gpdUpdates (new : List Event) (g : FlagGroup (TaskId κ) Flag) : FlagGroup (TaskId κ) Flag :=
  if new.any isSetState then g.post {.stack} else g

def act (f : Device → Device) (s : Sys κ) : Sys κ :=
  { s with
    device := f s.device
    gpdEventFlags := gpdUpdates (since s.device (f s.device)) s.gpdEventFlags
    trace := (since s.device (f s.device)).map .device ++ s.trace }

def taskTimeout (gpdState : ApplicationState) (taskTimeoutTicks : ℕ) : ℕ :=
  if gpdState = appStateNotCommissioned ∨ gpdState = appStateOperational ∨
      gpdState = appStateOperationalCommandRequest then 0
  else if gpdState = appStateChannelRequest ∨ gpdState = appStateChannelReceived ∨
      gpdState = appStateCommissioningRequest ∨ gpdState = appStateCommissioningReplyReceived then
    900
  else taskTimeoutTicks

/-- The branch under `GPD_EVENT_FLAG_STACK` up to the end of the switch. -/
def updateRound (b : Build) (i : Surroundings) (s : Sys κ) : Sys κ :=
  let gpdState := s.device.gpdNode.gpdState
  let s := note (.round gpdState)
    { s with
      taskTimeoutTicks := taskTimeout gpdState s.taskTimeoutTicks
      gpdEvtId :=
        if gpdState = appStateCommissioningSuccessRequest then .commissioned else s.gpdEvtId }
  act (stateSwitchIn b i) s

def takeFlags (found : Finset Flag) (g : FlagGroup (TaskId κ) Flag) (s : Sys κ) : Sys κ :=
  note (.woken found) { s with gpdEventFlags := g, flags := s.flags ∪ found, gpdTask := .top }

def gpdTaskStep (b : Build) (i : Surroundings) (s : Sys κ) : Option (Sys κ) :=
  match s.gpdTask with
  | .top =>
    if .cmdWaiting ∈ s.flags then
      some { act (commandBranch s.gpdCmdId) (note (.executed s.gpdCmdId) s) with
        gpdTask := .respond }
    else some { s with gpdTask := .update }
  | .respond =>
    some { s with
      gpdRsp := ⟨s.gpdCmdId, 0⟩
      flags := s.flags.erase .cmdWaiting
      gpdTask := .postResponse }
  | .postResponse => some { post .rspWaiting s with gpdTask := .update }
  | .update =>
    if .stack ∈ s.flags then
      some { updateRound b i s with gpdTask := .store }
    else some { s with gpdTask := .pend }
  | .store => some { act emberGpdStoreSecDataToNV s with gpdTask := .postEvent }
  | .postEvent =>
    some { note .announced (post .evtWaiting s) with
      flags := s.flags.erase .evtHandled
      gpdTask := .pend }
  | .pend =>
    match s.gpdEventFlags.pend .gpdTask gpdTaskMask with
    | (some found, g) => some (takeFlags found g s)
    | (none, g) => some { s with gpdEventFlags := g, gpdTask := .waiting }
  | .waiting =>
    match s.gpdEventFlags.resume .gpdTask with
    | some (found, g) => some (takeFlags found g s)
    | none => none

/-- The timeout of the pend of `GpdTask`; zero ticks mean to wait for ever. -/
def timeoutStep (s : Sys κ) : Option (Sys κ) :=
  if s.gpdTask = .waiting ∧ s.taskTimeoutTicks ≠ 0 then
    match s.gpdEventFlags.expire .gpdTask with
    | some g => some (note .expired { s with gpdEventFlags := g, gpdTask := .top })
    | none => none
  else none

def linklayerStep (b : Build) (s : Sys κ) : Option (Sys κ) :=
  match s.gpdLinklayerTask with
  | .pend =>
    match s.gpdEventFlags.pend .gpdLinklayerTask linklayerMask with
    | (some _, g) => some { s with gpdEventFlags := g, gpdLinklayerTask := .handle }
    | (none, g) => some { s with gpdEventFlags := g, gpdLinklayerTask := .waiting }
  | .waiting =>
    match s.gpdEventFlags.resume .gpdLinklayerTask with
    | some (_, g) => some { s with gpdEventFlags := g, gpdLinklayerTask := .handle }
    | none => none
  | .handle =>
    some { act (emberGpdIncomingMessageHandler b) (note .received s) with
      gpdLinklayerTask := .pend }

def packetStep (packet : List UInt8) (s : Sys κ) : Sys κ :=
  post .ll { s with device := { s.device with rxMpdu := s.device.rxMpdu.store 0 packet } }

def gpdAppStep (s : Sys κ) : Option (Sys κ) :=
  match s.gpdAppTask with
  | .pend =>
    match s.gpdEventFlags.pend .gpdAppTask appMask with
    | (some _, g) => some (note .noticed { s with gpdEventFlags := g, gpdAppTask := .handle })
    | (none, g) => some { s with gpdEventFlags := g, gpdAppTask := .waiting }
  | .waiting =>
    match s.gpdEventFlags.resume .gpdAppTask with
    | some (_, g) => some (note .noticed { s with gpdEventFlags := g, gpdAppTask := .handle })
    | none => none
  | .handle => some { note (.handled s.gpdEvtId) s with gpdAppTask := .postHandled }
  | .postHandled => some { note .answered (post .evtHandled s) with gpdAppTask := .pend }

/-- `locks`: the clients call `GpdPend` before and `GpdPost` after their `gpd_cmd_*`. -/
def clientStep (locks : Bool) (k : κ) (id : CmdId) (s : Sys κ) : Option (Sys κ) :=
  match s.client k with
  | .outside =>
    if locks = true ∧ s.gpdMutex ≠ none then none
    else
      some (setClient k .store { s with gpdMutex := if locks then some k else s.gpdMutex })
  | .store => some (setClient k .postCommand (note (.called k id) { s with gpdCmdId := id }))
  | .postCommand => some (setClient k .pend (post .cmdWaiting s))
  | .pend =>
    match s.gpdEventFlags.pend (.client k) clientMask with
    | (some _, g) => some (setClient k .readResponse { s with gpdEventFlags := g })
    | (none, g) => some (setClient k .waiting { s with gpdEventFlags := g })
  | .waiting =>
    match s.gpdEventFlags.resume (.client k) with
    | some (_, g) => some (setClient k .readResponse { s with gpdEventFlags := g })
    | none => none
  | .readResponse => some (setClient k .leave (note (.returned k s.gpdRsp) s))
  | .leave =>
    some (setClient k .outside { s with gpdMutex := if locks then none else s.gpdMutex })

omit [DecidableEq κ] in
@[simp] theorem takeFlags_group (found : Finset Flag) (g : FlagGroup (TaskId κ) Flag) (s : Sys κ) :
    (takeFlags found g s).gpdEventFlags = g := rfl

omit [DecidableEq κ] in
@[simp] theorem takeFlags_flags (found : Finset Flag) (g : FlagGroup (TaskId κ) Flag) (s : Sys κ) :
    (takeFlags found g s).flags = s.flags ∪ found := rfl

inductive Move (κ : Type) where
  | gpdTask (i : Surroundings)
  | timeout
  | gpdLinklayerTask
  | packet (packet : List UInt8)
  | gpdAppTask
  | client (k : κ) (id : CmdId)

def step (b : Build) (locks : Bool) (s : Sys κ) : Move κ → Option (Sys κ)
  | .gpdTask i => gpdTaskStep b i s
  | .timeout => timeoutStep s
  | .gpdLinklayerTask => linklayerStep b s
  | .packet packet => some (packetStep packet s)
  | .gpdAppTask => gpdAppStep s
  | .client k id => clientStep locks k id s

abbrev RunOf (b : Build) (locks : Bool) (ok : Sys κ → Move κ → Prop) : Sys κ → Sys κ → Prop :=
  Runs.RunOf (step b locks) ok

abbrev Run (b : Build) (locks : Bool) : Sys κ → Sys κ → Prop := RunOf b locks (fun _ _ => True)

abbrev follow (b : Build) (locks : Bool) (ok : Sys κ → Move κ → Prop)
    [∀ s m, Decidable (ok s m)] : Sys κ → List (Move κ) → Option (Sys κ) :=
  Runs.follow (step b locks) ok

end

end GreenPower.TaskSystem
