import GreenPower.EventFlags
import GreenPower.MemoryArray
import GreenPower.Runs
import GreenPower.SlotServer

set_option autoImplicit false

/-!
The tasks around `bluetooth_event_flags`: `BluetoothTask`, its link-layer task and the two tasks
that call `gecko_cmd_*`, `GpdTask` from its NV callback and `bluetoothAppTask` from its events.
`command_data` always points to the payload of the one command buffer. What
`gecko_event_pending`, `gecko_can_sleep_ticks` and the interrupts say is left to the moves.
-/
namespace GreenPower.BgapiTasks
open MemoryArray EventFlags SlotServer

inductive Flag where
  | stack
  | ll
  | cmdWaiting
  | rspWaiting
  | evtWaiting
  | evtHandled
  deriving DecidableEq

inductive Handler where
  | flashPsSave
  | flashPsLoad
  | flashPsErase
  | leGapSetAdvertiseTiming
  | leGapStartAdvertising
  | gattServerSendUserWriteResponse
  | leConnectionClose
  | systemReset
  deriving DecidableEq

/-- A command as its `gecko_cmd_*` function has it; the length goes into free bits of the id. -/
structure GeckoCmd where
  id : UInt32
  handler : Handler
  payload : List UInt8
  free : id.toNat % 8 = 0 ∧ id.toNat / 256 % 256 = 0
  short : payload.length ≤ 256
  deriving DecidableEq

def GeckoCmd.header (cmd : GeckoCmd) : UInt32 :=
  cmd.id + UInt32.ofNat (cmd.payload.length % 256 * 256 + cmd.payload.length / 256 % 8)

/-- `BGLIB_MSG_LEN`. -/
def msgLen (header : UInt32) : ℕ := header.toNat % 8 * 256 + header.toNat / 256 % 256

theorem GeckoCmd.msgLen_header (cmd : GeckoCmd) : msgLen cmd.header = cmd.payload.length := by
  obtain ⟨low, second⟩ := cmd.free
  have short := cmd.short
  have limit := cmd.id.toNat_lt
  obtain ⟨a, b, low, id⟩ : ∃ a b, b < 32 ∧ cmd.id.toNat = 65536 * a + 8 * b :=
    ⟨cmd.id.toNat / 65536, cmd.id.toNat % 256 / 8, by omega, by omega⟩
  obtain ⟨front, back, few, less, length⟩ : ∃ front back, front ≤ 1 ∧ back < 256 ∧
      cmd.payload.length = 256 * front + back :=
    ⟨cmd.payload.length / 256, cmd.payload.length % 256, by omega, by omega, by omega⟩
  have added : cmd.payload.length % 256 * 256 + cmd.payload.length / 256 % 8 =
      back * 256 + front := by omega
  have sum : cmd.header.toNat = 65536 * a + 256 * back + 8 * b + front := by
    unfold GeckoCmd.header
    rw [UInt32.toNat_add, UInt32.toNat_ofNat', added, id,
      Nat.mod_eq_of_lt (show back * 256 + front < 2 ^ 32 by omega), Nat.mod_eq_of_lt (by omega)]
    omega
  have low8 : cmd.header.toNat % 8 = front := by
    clear limit added id
    omega
  have second8 : cmd.header.toNat / 256 % 256 = back := by
    have quotient : cmd.header.toNat / 256 = 256 * a + back := by
      clear limit added id low8
      omega
    rw [quotient]
    omega
  unfold msgLen
  rw [low8, second8, length]
  exact congrArg (· + back) (Nat.mul_comm front 256)

def geckoCmdFlashPsSave (key : UInt16) (value : List UInt8) (fits : value.length ≤ 253) :
    GeckoCmd where
  id := 0x020d0020
  handler := .flashPsSave
  payload := [key.toUInt8, (key >>> 8).toUInt8, UInt8.ofNat value.length] ++ value
  free := by decide
  short := by
    simp only [List.length_append, List.length_cons, List.length_nil]
    omega

def geckoCmdFlashPsLoad (key : UInt16) : GeckoCmd where
  id := 0x030d0020
  handler := .flashPsLoad
  payload := [key.toUInt8, (key >>> 8).toUInt8]
  free := by decide
  short := by simp

def geckoCmdFlashPsErase (key : UInt16) : GeckoCmd where
  id := 0x040d0020
  handler := .flashPsErase
  payload := [key.toUInt8, (key >>> 8).toUInt8]
  free := by decide
  short := by simp

def geckoCmdLeGapStartAdvertising (handle discover connect : UInt8) : GeckoCmd where
  id := 0x14030020
  handler := .leGapStartAdvertising
  payload := [handle, discover, connect]
  free := by decide
  short := by simp

structure Order where
  header : UInt32
  handler : Option Handler
  payload : List UInt8
  deriving DecidableEq

def GeckoCmd.order (cmd : GeckoCmd) : Order := ⟨cmd.header, some cmd.handler, cmd.payload⟩

inductive Caller where
  | gpdTask
  | bluetoothAppTask
  deriving DecidableEq

instance : Fintype Caller where
  elems := {.gpdTask, .bluetoothAppTask}
  complete k := by cases k <;> decide

inductive Waiter where
  | bluetoothTask
  | linklayerTask
  | event
  | response (k : Caller)
  deriving DecidableEq

inductive BluetoothTaskPoint where
  | top
  | readHandler
  | execute
  | clearHandler
  | postResponse
  | events
  | sleep
  | pend
  | waiting
  deriving DecidableEq

inductive LinklayerPoint where
  | pend
  | waiting
  deriving DecidableEq

inductive AppPoint where
  | pend
  | waiting
  | handle
  deriving DecidableEq

/-- Where a caller is in a `gecko_cmd_*` function and in `sli_bt_cmd_handler_rtos_delegate`. -/
inductive CallerPoint where
  | outside
  | payload (cmd : GeckoCmd) (written : ℕ)
  | readHeader (cmd : GeckoCmd)
  | storeHeader (cmd : GeckoCmd) (header : UInt32)
  | storeHandler (cmd : GeckoCmd)
  | postCommand
  | pend
  | waiting
  deriving DecidableEq

structure Sys where
  bluetoothEventFlags : FlagGroup Waiter Flag
  /-- `gecko_cmd_msg_buf`. -/
  msgHeader : UInt32
  msgPayload : Cells UInt8
  commandHeader : UInt32
  commandHandlerFunc : Option Handler
  bluetoothTask : BluetoothTaskPoint
  flags : Finset Flag
  header : UInt32
  cmdHandler : Option Handler
  timeout : UInt32
  linklayerTask : LinklayerPoint
  bluetoothAppTask : AppPoint
  caller : Caller → CallerPoint
  trace : List (Happening Caller Order Unit)

def bluetoothTaskMask : Finset Flag := {.stack, .evtHandled, .cmdWaiting}

def waiterMask : Waiter → Finset Flag
  | .bluetoothTask => bluetoothTaskMask
  | .linklayerTask => {.ll}
  | .event => {.evtWaiting}
  | .response _ => {.rspWaiting}

/-- After `bluetooth_start`. -/
def start : Sys where
  bluetoothEventFlags := ⟨∅, fun _ => .running⟩
  msgHeader := 0
  msgPayload := fun _ => 0
  commandHeader := 0
  commandHandlerFunc := none
  bluetoothTask := .top
  flags := {.evtHandled}
  header := 0
  cmdHandler := none
  timeout := 0
  linklayerTask := .pend
  bluetoothAppTask := .pend
  caller := fun _ => .outside
  trace := []

def post (flag : Flag) (s : Sys) : Sys :=
  { s with bluetoothEventFlags := s.bluetoothEventFlags.post {flag} }

def setCaller (k : Caller) (p : CallerPoint) (s : Sys) : Sys :=
  { s with caller := Function.update s.caller k p }

/-- Zero means to wait for ever; `osTick` is the length of a tick of the kernel. -/
def pendTimeout (osTick ticks : UInt32) : UInt32 :=
  if ticks = 0xffffffff then 0 else (ticks + osTick - 1) / osTick

def takeFlags (found : Finset Flag) (g : FlagGroup Waiter Flag) (s : Sys) : Sys :=
  { s with bluetoothEventFlags := g, flags := s.flags ∪ found, bluetoothTask := .top }

def bluetoothTaskStep (osTick : UInt32) (pending : Bool) (ticks : UInt32) (s : Sys) : Option Sys :=
  match s.bluetoothTask with
  | .top =>
    if .cmdWaiting ∈ s.flags then
      some { s with header := s.commandHeader, bluetoothTask := .readHandler }
    else some { s with bluetoothTask := .events }
  | .readHandler => some { s with cmdHandler := s.commandHandlerFunc, bluetoothTask := .execute }
  | .execute =>
    some { s with
      trace := .executed ⟨s.header, s.cmdHandler, load s.msgPayload 0 (msgLen s.header)⟩ :: s.trace
      bluetoothTask := .clearHandler }
  | .clearHandler => some { s with commandHandlerFunc := none, bluetoothTask := .postResponse }
  | .postResponse =>
    some { post .rspWaiting s with flags := s.flags.erase .cmdWaiting, bluetoothTask := .events }
  | .events =>
    if pending = true ∧ .evtHandled ∈ s.flags then
      some { post .evtWaiting s with flags := s.flags.erase .evtHandled, bluetoothTask := .sleep }
    else some { s with bluetoothTask := .sleep }
  | .sleep =>
    if ticks = 0 ∧ .evtHandled ∈ s.flags then some { s with bluetoothTask := .top }
    else some { s with timeout := pendTimeout osTick ticks, bluetoothTask := .pend }
  | .pend =>
    match s.bluetoothEventFlags.pend .bluetoothTask bluetoothTaskMask with
    | (some found, g) => some (takeFlags found g s)
    | (none, g) => some { s with bluetoothEventFlags := g, bluetoothTask := .waiting }
  | .waiting =>
    match s.bluetoothEventFlags.resume .bluetoothTask with
    | some (found, g) => some (takeFlags found g s)
    | none => none

def timeoutStep (s : Sys) : Option Sys :=
  if s.bluetoothTask = .waiting ∧ s.timeout ≠ 0 then
    match s.bluetoothEventFlags.expire .bluetoothTask with
    | some g => some { s with bluetoothEventFlags := g, bluetoothTask := .top }
    | none => none
  else none

/-- `gecko_priority_handle` does not touch what is modelled. -/
def linklayerStep (s : Sys) : Option Sys :=
  match s.linklayerTask with
  | .pend =>
    match s.bluetoothEventFlags.pend .linklayerTask {.ll} with
    | (some _, g) => some { s with bluetoothEventFlags := g }
    | (none, g) => some { s with bluetoothEventFlags := g, linklayerTask := .waiting }
  | .waiting =>
    match s.bluetoothEventFlags.resume .linklayerTask with
    | some (_, g) => some { s with bluetoothEventFlags := g, linklayerTask := .pend }
    | none => none

/-- The loop of `bluetoothAppTask`; while it handles an event it may call commands. -/
def bluetoothAppStep (s : Sys) : Option Sys :=
  match s.bluetoothAppTask with
  | .pend =>
    match s.bluetoothEventFlags.pend .event {.evtWaiting} with
    | (some _, g) => some { s with bluetoothEventFlags := g, bluetoothAppTask := .handle }
    | (none, g) => some { s with bluetoothEventFlags := g, bluetoothAppTask := .waiting }
  | .waiting =>
    match s.bluetoothEventFlags.resume .event with
    | some (_, g) => some { s with bluetoothEventFlags := g, bluetoothAppTask := .handle }
    | none => none
  | .handle =>
    if s.caller .bluetoothAppTask = .outside then
      some { post .evtHandled s with bluetoothAppTask := .pend }
    else none

def callerStep (k : Caller) (cmd : GeckoCmd) (s : Sys) : Option Sys :=
  match s.caller k with
  | .outside =>
    if k = .bluetoothAppTask → s.bluetoothAppTask = .handle then
      some (setCaller k (.payload cmd 0) s)
    else none
  | .payload cmd written =>
    match cmd.payload[written]? with
    | some byte =>
      some (setCaller k (.payload cmd (written + 1))
        { s with msgPayload := store s.msgPayload written [byte] })
    | none => some (setCaller k (.readHeader cmd) { s with msgHeader := cmd.header })
  | .readHeader cmd => some (setCaller k (.storeHeader cmd s.msgHeader) s)
  | .storeHeader cmd header =>
    some (setCaller k (.storeHandler cmd) { s with commandHeader := header })
  | .storeHandler cmd =>
    some (setCaller k .postCommand
      { s with commandHandlerFunc := some cmd.handler, trace := .called k cmd.order :: s.trace })
  | .postCommand => some (setCaller k .pend (post .cmdWaiting s))
  | .pend =>
    match s.bluetoothEventFlags.pend (.response k) {.rspWaiting} with
    | (some _, g) => some (setCaller k .outside
        { s with bluetoothEventFlags := g, trace := .returned k () :: s.trace })
    | (none, g) => some (setCaller k .waiting { s with bluetoothEventFlags := g })
  | .waiting =>
    match s.bluetoothEventFlags.resume (.response k) with
    | some (_, g) => some (setCaller k .outside
        { s with bluetoothEventFlags := g, trace := .returned k () :: s.trace })
    | none => none

inductive Move where
  | bluetoothTask (pending : Bool) (ticks : UInt32)
  | timeout
  | linklayerTask
  | bluetoothLLCallback
  | bluetoothUpdate
  | bluetoothAppTask
  | caller (k : Caller) (cmd : GeckoCmd)

def step (osTick : UInt32) (s : Sys) : Move → Option Sys
  | .bluetoothTask pending ticks => bluetoothTaskStep osTick pending ticks s
  | .timeout => timeoutStep s
  | .linklayerTask => linklayerStep s
  | .bluetoothLLCallback => some (post .ll s)
  | .bluetoothUpdate => some (post .stack s)
  | .bluetoothAppTask => bluetoothAppStep s
  | .caller k cmd => callerStep k cmd s

end GreenPower.BgapiTasks
