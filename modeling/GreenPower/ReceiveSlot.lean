import GreenPower.LeTimer
import GreenPower.TaskSteps
import GreenPower.TransmitCompletion

set_option autoImplicit false

/-!
The one receive buffer between the radio's interrupt, `GpdLinklayerTask` and `GpdTask`. The
interrupt may come between any two statements of the tasks. `GpdTask` moves only while
`GpdLinklayerTask` is blocked.
-/
namespace GreenPower.ReceiveSlot
open MemoryArray BuildOptions DeviceState IncomingMessage EventFlags FlagGroup LeTimer Runs
open TransmitCompletion (RailCall)
open TaskSteps (turn_gpdUpdates taskMask_apart)
open TaskSystem (Flag TaskId taskMask gpdTaskMask linklayerMask gpdUpdates since)

inductive GpdLlEventType where
  | packetReceived
  | failure
  deriving DecidableEq

inductive DataPointer where
  | null
  | rxMpdu
  deriving DecidableEq

structure GpdLlEvent where
  type : GpdLlEventType
  data : DataPointer
  dataSize : UInt16
  deriving DecidableEq

inductive Instr where
  | rail (call : RailCall)
  | timer (instr : LeTimer.Instr)
  deriving DecidableEq

/-- The arguments of a call of `emberAfGpdfSend`, and for each of its transmissions the time that
`RAIL_StartTx` takes. -/
structure Send where
  gpd : EmberGpd
  txMpdu : List UInt8
  txRailDurationsUs : List UInt32

def transmission (gpd : EmberGpd) (txRailDurationUs : UInt32) : List Instr :=
  [.rail .idle, .rail (.startTx gpd.channel)] ++
    (if gpd.rxAfterTx ≠ 0 then
      (receiveAfterTx gpd txRailDurationUs).map .timer ++ [.rail .idle]
    else [])

def emberAfGpdfSend (send : Send) : List Instr :=
  .rail (.writeTxFifo send.txMpdu) :: send.txRailDurationsUs.flatMap (transmission send.gpd)

/-- Where `GpdTask` is: in a round with the statements that are left, or at `OSFlagPend`. -/
inductive StackPoint where
  | top
  | round (todo : List Instr)
  | pend
  | waiting
  deriving DecidableEq

inductive LinklayerPoint where
  | pend
  | waiting
  | switch
  | handler (data : DataPointer) (dataSize : UInt16)
  deriving DecidableEq

/-- What `emberGpdIncomingMessageHandler` is given: the bytes behind its pointer, and its length. -/
structure Call where
  bytes : List UInt8
  length : UInt16
  deriving DecidableEq

structure Sys where
  device : Device
  receiving : Bool
  gpdLlEvt : GpdLlEvent
  gpdEventFlags : FlagGroup (TaskId Empty) Flag
  gpdLinklayerTask : LinklayerPoint
  gpdTask : StackPoint
  leTimerRunning : Bool
  /-- The frames copied into `rxMpdu`, the newest first. -/
  copied : List (List UInt8)
  called : List Call
  returned : List Call
  /-- The device at the latest reception. -/
  before : Device
  /-- How often `GpdLinklayerTask` has moved. -/
  turns : ℕ

inductive Move where
  | packet (packet : List UInt8)
  | rxError
  | letimerIrq
  | post (flag : Flag)
  | timeout
  | gpdLinklayerTask
  | gpdTask (work : Device) (sends : List Send)

def bytesAt (data : DataPointer) (dataSize : UInt16) (d : Device) : List UInt8 :=
  match data with
  | .null => []
  | .rxMpdu => load d.rxMpdu.cell 0 dataSize.toNat

/-- The branch of `RAILCb_Generic` for `RAIL_EVENT_RX_PACKET_RECEIVED`, and the radio's
transition to idle. -/
def railCb (packet : List UInt8) (s : Sys) : Sys :=
  { s with
    device := { s.device with rxMpdu := s.device.rxMpdu.store 0 packet }
    gpdLlEvt := ⟨.packetReceived, .rxMpdu, UInt16.ofNat packet.length⟩
    gpdEventFlags := s.gpdEventFlags.post {.ll}
    receiving := false
    copied := packet :: s.copied
    before := s.device }

def handle (b : Build) (data : DataPointer) (d : Device) : Device :=
  match data with
  | .null => d
  | .rxMpdu => emberGpdIncomingMessageHandler b d

def linklayerStep (b : Build) (s : Sys) : Option Sys :=
  match s.gpdLinklayerTask with
  | .pend =>
    match s.gpdEventFlags.pend .gpdLinklayerTask linklayerMask with
    | (some _, g) => some { s with gpdEventFlags := g, gpdLinklayerTask := .switch }
    | (none, g) => some { s with gpdEventFlags := g, gpdLinklayerTask := .waiting }
  | .waiting =>
    match s.gpdEventFlags.resume .gpdLinklayerTask with
    | some (_, g) => some { s with gpdEventFlags := g, gpdLinklayerTask := .switch }
    | none => none
  | .switch =>
    match s.gpdLlEvt.type with
    | .packetReceived =>
      let data := s.gpdLlEvt.data
      let dataSize := s.gpdLlEvt.dataSize
      some { s with
        called := ⟨bytesAt data dataSize s.device, dataSize⟩ :: s.called
        gpdLinklayerTask := .handler data dataSize }
    | .failure => some { s with gpdLinklayerTask := .pend }
  | .handler data dataSize =>
    some { s with
      device := handle b data s.device
      gpdEventFlags := gpdUpdates (since s.device (handle b data s.device)) s.gpdEventFlags
      returned := ⟨bytesAt data dataSize s.device, dataSize⟩ :: s.returned
      gpdLinklayerTask := .pend }

/-- The rest of the program changes the device as it likes, but not the receive buffer. -/
def works (work : Device) (s : Sys) : Sys :=
  { s with device := { work with rxMpdu := s.device.rxMpdu } }

def execute (s : Sys) (rest : List Instr) : Instr → Sys
  | .rail (.writeTxFifo _) => { s with gpdTask := .round rest }
  | .rail .idle => { s with gpdTask := .round rest, receiving := false }
  | .rail (.startTx _) => { s with gpdTask := .round rest }
  | .timer (.startRx _) => { s with gpdTask := .round rest, receiving := true }
  | .timer .setLeTimerRunning => { s with gpdTask := .round rest, leTimerRunning := true }
  | .timer (.whileLeTimerRunning _) =>
    if s.leTimerRunning then s else { s with gpdTask := .round rest }
  | .timer _ => { s with gpdTask := .round rest }

def gpdTaskStep (sends : List Send) (s : Sys) : Option Sys :=
  match s.gpdTask with
  | .top => some { s with gpdTask := .round (sends.flatMap emberAfGpdfSend) }
  | .round [] => some { s with gpdTask := .pend }
  | .round (i :: rest) => some (execute s rest i)
  | .pend =>
    match s.gpdEventFlags.pend .gpdTask gpdTaskMask with
    | (some _, g) => some { s with gpdEventFlags := g, gpdTask := .top }
    | (none, g) => some { s with gpdEventFlags := g, gpdTask := .waiting }
  | .waiting =>
    match s.gpdEventFlags.resume .gpdTask with
    | some (_, g) => some { s with gpdEventFlags := g, gpdTask := .top }
    | none => none

/-- `RAIL_ReadRxFifo` counts the bytes in 16 bits. Only `GpdLLCallback` posts `GPD_EVENT_FLAG_LL`. -/
def step (b : Build) (s : Sys) : Move → Option Sys
  | .packet packet =>
    if s.receiving = true ∧ packet.length < 2 ^ 16 then some (railCb packet s) else none
  | .rxError => if s.receiving = true then some { s with receiving := false } else none
  | .letimerIrq => some { s with leTimerRunning := false }
  | .post flag =>
    if flag ≠ .ll then some { s with gpdEventFlags := s.gpdEventFlags.post {flag} } else none
  | .timeout =>
    if s.gpdTask = .waiting then
      (s.gpdEventFlags.expire .gpdTask).map
        (fun g => { s with gpdEventFlags := g, gpdTask := .top })
    else none
  | .gpdLinklayerTask => (linklayerStep b s).map (fun s' => { s' with turns := s.turns + 1 })
  | .gpdTask work sends => (gpdTaskStep sends s).map (works work)

/-- `GpdLinklayerTask` could run. -/
def linklayerReady (s : Sys) : Bool :=
  match s.gpdLinklayerTask with
  | .waiting =>
    match s.gpdEventFlags.wait .gpdLinklayerTask with
    | .running => true
    | .pending _ => false
    | .ready _ => true
  | .pend => true
  | .switch => true
  | .handler _ _ => true

/-- `APP_CFG_TASK_GPD_LL_PRIO` stands above `APP_CFG_TASK_GPD_STACK_PRIO`. -/
def ByPriority (s : Sys) : Move → Prop
  | .gpdTask _ _ => linklayerReady s = false
  | _ => True

instance (s : Sys) (m : Move) : Decidable (ByPriority s m) := by
  cases m <;> unfold ByPriority <;> infer_instance

/-- `gpd_start` has created both tasks: `GpdTask` ran up to its first pend before
`GpdLinklayerTask` was there. -/
def initial (d : Device) : Sys where
  device := d
  receiving := false
  gpdLlEvt := ⟨.packetReceived, .null, 0⟩
  gpdEventFlags := (⟨∅, fun _ => .running⟩ : FlagGroup (TaskId Empty) Flag).setWait .gpdTask
    (.pending gpdTaskMask)
  gpdLinklayerTask := .pend
  gpdTask := .waiting
  leTimerRunning := false
  copied := []
  called := []
  returned := []
  before := d
  turns := 0

abbrev Run (b : Build) : Sys → Sys → Prop := RunOf (step b) ByPriority

inductive Tick (b : Build) (s : Sys) : Move → Sys → Prop
  | packet (packet : List UInt8) (receiving : s.receiving = true)
      (short : packet.length < 2 ^ 16) : Tick b s (.packet packet) (railCb packet s)
  | rxError : Tick b s .rxError { s with receiving := false }
  | letimerIrq : Tick b s .letimerIrq { s with leTimerRunning := false }
  | post (flag : Flag) (other : flag ≠ .ll) :
      Tick b s (.post flag) { s with gpdEventFlags := s.gpdEventFlags.post {flag} }
  | timeout (point : s.gpdTask = .waiting) :
      Tick b s .timeout
        { s with gpdEventFlags := s.gpdEventFlags.setWait .gpdTask .running, gpdTask := .top }
  | wake {found : Finset Flag} {g : FlagGroup (TaskId Empty) Flag}
      (got : Obtains (s.gpdLinklayerTask = .pend) (s.gpdLinklayerTask = .waiting)
        .gpdLinklayerTask linklayerMask s.gpdEventFlags found g) :
      Tick b s .gpdLinklayerTask
        { s with gpdEventFlags := g, gpdLinklayerTask := .switch, turns := s.turns + 1 }
  | block (point : s.gpdLinklayerTask = .pend)
      (apart : Disjoint s.gpdEventFlags.flags linklayerMask) :
      Tick b s .gpdLinklayerTask
        { s with
          gpdEventFlags := s.gpdEventFlags.setWait .gpdLinklayerTask (.pending linklayerMask)
          gpdLinklayerTask := .waiting
          turns := s.turns + 1 }
  | call (point : s.gpdLinklayerTask = .switch) (type : s.gpdLlEvt.type = .packetReceived) :
      Tick b s .gpdLinklayerTask
        { s with
          called := ⟨bytesAt s.gpdLlEvt.data s.gpdLlEvt.dataSize s.device, s.gpdLlEvt.dataSize⟩ ::
            s.called
          gpdLinklayerTask := .handler s.gpdLlEvt.data s.gpdLlEvt.dataSize
          turns := s.turns + 1 }
  | skip (point : s.gpdLinklayerTask = .switch) (type : s.gpdLlEvt.type = .failure) :
      Tick b s .gpdLinklayerTask { s with gpdLinklayerTask := .pend, turns := s.turns + 1 }
  | comeBack (data : DataPointer) (dataSize : UInt16)
      (point : s.gpdLinklayerTask = .handler data dataSize) :
      Tick b s .gpdLinklayerTask
        { s with
          device := handle b data s.device
          gpdEventFlags := gpdUpdates (since s.device (handle b data s.device)) s.gpdEventFlags
          returned := ⟨bytesAt data dataSize s.device, dataSize⟩ :: s.returned
          gpdLinklayerTask := .pend
          turns := s.turns + 1 }
  | stack (work : Device) (sends : List Send) (point : s.gpdTask ≠ .waiting) (p : StackPoint)
      (stays : p ≠ .waiting) (receiving leTimerRunning : Bool) :
      Tick b s (.gpdTask work sends)
        (works work { s with
          gpdTask := p
          receiving := receiving
          leTimerRunning := leTimerRunning })
  | stackWake (work : Device) (sends : List Send) {found : Finset Flag}
      {g : FlagGroup (TaskId Empty) Flag}
      (got : Obtains (s.gpdTask = .pend) (s.gpdTask = .waiting) .gpdTask gpdTaskMask
        s.gpdEventFlags found g) :
      Tick b s (.gpdTask work sends) (works work { s with gpdEventFlags := g, gpdTask := .top })
  | stackBlock (work : Device) (sends : List Send) (point : s.gpdTask = .pend)
      (apart : Disjoint s.gpdEventFlags.flags gpdTaskMask) :
      Tick b s (.gpdTask work sends)
        (works work { s with
          gpdEventFlags := s.gpdEventFlags.setWait .gpdTask (.pending gpdTaskMask)
          gpdTask := .waiting })

variable {b : Build} {s s' : Sys} {m : Move}

theorem linklayerStep_tick {t : Sys} (h : linklayerStep b s = some t) :
    Tick b s .gpdLinklayerTask { t with turns := s.turns + 1 } := by
  unfold linklayerStep at h
  cases point : s.gpdLinklayerTask with
  | pend =>
    simp only [point] at h
    split at h
    · rename_i found g got
      exact Option.some.inj h ▸ .wake (pend_some point got)
    · rename_i g none
      obtain ⟨apart, rfl⟩ := pend_none none
      exact Option.some.inj h ▸ .block point apart
  | waiting =>
    simp only [point] at h
    split at h
    · rename_i found g got
      exact Option.some.inj h ▸ .wake (resume_some point got _)
    · cases h
  | switch =>
    simp only [point] at h
    split at h
    · rename_i type
      exact Option.some.inj h ▸ .call point type
    · rename_i type
      exact Option.some.inj h ▸ .skip point type
  | handler data dataSize =>
    simp only [point] at h
    exact Option.some.inj h ▸ .comeBack data dataSize point

theorem execute_tick {work : Device} {sends : List Send} {rest : List Instr} (i : Instr)
    (point : s.gpdTask = .round (i :: rest)) :
    Tick b s (.gpdTask work sends) (works work (execute s rest i)) := by
  have out : s.gpdTask ≠ .waiting := by simp [point]
  have next (receiving leTimerRunning : Bool) :=
    Tick.stack (b := b) work sends out (.round rest) (by simp) receiving leTimerRunning
  cases i with
  | rail call =>
    cases call with
    | idle => exact next false s.leTimerRunning
    | writeTxFifo | startTx => exact next s.receiving s.leTimerRunning
  | timer instr =>
    cases instr with
    | startRx => exact next true s.leTimerRunning
    | setLeTimerRunning => exact next s.receiving true
    | whileLeTimerRunning =>
      change Tick b s _ (works work (if s.leTimerRunning = true then s else _))
      split_ifs with running
      · exact .stack work sends out s.gpdTask out s.receiving s.leTimerRunning
      · exact next s.receiving s.leTimerRunning
    | letimerEnable | letimerRepeatSet | letimerCompareSet | letimerIntClear =>
      exact next s.receiving s.leTimerRunning

theorem gpdTaskStep_tick {work : Device} {sends : List Send} {t : Sys}
    (h : gpdTaskStep sends s = some t) : Tick b s (.gpdTask work sends) (works work t) := by
  unfold gpdTaskStep at h
  cases point : s.gpdTask with
  | top =>
    simp only [point] at h
    exact Option.some.inj h ▸ .stack work sends (by simp [point]) _ (by simp) _ _
  | round todo =>
    cases todo with
    | nil =>
      simp only [point] at h
      exact Option.some.inj h ▸ .stack work sends (by simp [point]) _ (by simp) _ _
    | cons i rest =>
      simp only [point] at h
      exact Option.some.inj h ▸ execute_tick i point
  | pend =>
    simp only [point] at h
    split at h
    · rename_i found g got
      exact Option.some.inj h ▸ .stackWake work sends (pend_some point got)
    · rename_i g none
      obtain ⟨apart, rfl⟩ := pend_none none
      exact Option.some.inj h ▸ .stackBlock work sends point apart
  | waiting =>
    simp only [point] at h
    split at h
    · rename_i found g got
      exact Option.some.inj h ▸ .stackWake work sends (resume_some point got _)
    · cases h

theorem step_tick (h : step b s m = some s') : Tick b s m s' := by
  cases m with
  | packet packet =>
    obtain ⟨⟨receiving, short⟩, next⟩ := Option.ite_none_right_eq_some.mp h
    exact Option.some.inj next ▸ .packet packet receiving short
  | rxError =>
    obtain ⟨-, next⟩ := Option.ite_none_right_eq_some.mp h
    exact Option.some.inj next ▸ .rxError
  | letimerIrq => exact Option.some.inj h ▸ .letimerIrq
  | post flag =>
    obtain ⟨other, next⟩ := Option.ite_none_right_eq_some.mp h
    exact Option.some.inj next ▸ .post flag other
  | timeout =>
    obtain ⟨point, expired⟩ := Option.ite_none_right_eq_some.mp h
    obtain ⟨g, gone, rfl⟩ := Option.map_eq_some_iff.mp expired
    obtain ⟨-, rfl⟩ := expire_some gone
    exact .timeout point
  | gpdLinklayerTask =>
    obtain ⟨t, moved, rfl⟩ := Option.map_eq_some_iff.mp h
    exact linklayerStep_tick moved
  | gpdTask work sends =>
    obtain ⟨t, moved, rfl⟩ := Option.map_eq_some_iff.mp h
    exact gpdTaskStep_tick moved

def Waits (s : Sys) : TaskId Empty → Prop
  | .gpdTask => s.gpdTask = .waiting
  | .gpdLinklayerTask => s.gpdLinklayerTask = .waiting
  | .gpdAppTask => False
  | .client _ => False

def actor : Move → Option (TaskId Empty)
  | .gpdTask _ _ => some .gpdTask
  | .timeout => some .gpdTask
  | .gpdLinklayerTask => some .gpdLinklayerTask
  | .packet _ => none
  | .rxError => none
  | .letimerIrq => none
  | .post _ => none

theorem Tick.others (h : Tick b s m s') (u : TaskId Empty) (other : actor m ≠ some u) :
    Waits s' u ↔ Waits s u := by
  cases h with
  | packet | rxError | letimerIrq | post => cases u <;> exact Iff.rfl
  | wake | block | call | skip | comeBack =>
    cases u with
    | gpdLinklayerTask => exact absurd rfl other
    | gpdTask | gpdAppTask | client => exact Iff.rfl
  | stack | stackWake | stackBlock | timeout =>
    cases u with
    | gpdTask => exact absurd rfl other
    | gpdLinklayerTask | gpdAppTask | client => exact Iff.rfl

theorem Tick.turn (h : Tick b s m s') :
    Turn taskMask (Waits s) (Waits s') s.gpdEventFlags (actor m) s'.gpdEventFlags := by
  have out {t : TaskId Empty} {w w' : TaskId Empty → Prop} (before : ¬ w t) (after : ¬ w' t) :
      ∀ u, some t = some u → ¬ w u ∧ ¬ w' u := by
    rintro u ⟨⟩
    exact ⟨before, after⟩
  cases h with
  | packet => exact .post _ _ (fun _ same => nomatch same)
  | rxError | letimerIrq => exact .still _ (fun _ same => nomatch same)
  | post flag other => exact .post _ _ (fun _ same => nomatch same)
  | timeout point => exact Turn.expire TaskId.gpdTask (fun w => nomatch w)
  | wake got =>
    refine Turn.obtain TaskId.gpdLinklayerTask ?_ got (fun w => nomatch w)
    exact fun point w => nomatch point.symm.trans w
  | block point apart => exact Turn.block TaskId.gpdLinklayerTask apart rfl
  | call point | skip point =>
    exact .still _ (out (fun w => nomatch point.symm.trans w) (fun w => nomatch w))
  | comeBack data dataSize point =>
    exact turn_gpdUpdates _ _ (out (fun w => nomatch point.symm.trans w) (fun w => nomatch w))
  | stack work sends point p stays => exact .still _ (out point stays)
  | stackWake work sends got =>
    refine Turn.obtain TaskId.gpdTask ?_ got (fun w => nomatch w)
    exact fun point w => nomatch point.symm.trans w
  | stackBlock work sends point apart => exact Turn.block TaskId.gpdTask apart rfl

structure GroupSound (s : Sys) : Prop where
  sound : Sound taskMask (Waits s) s.gpdEventFlags
  held : Held .gpdLinklayerTask s.gpdEventFlags
  parked : s.gpdLinklayerTask = .waiting → s.gpdEventFlags.wait .gpdLinklayerTask ≠ .running

theorem Tick.parked (h : Tick b s m s') (group : GroupSound s) :
    s'.gpdLinklayerTask = .waiting → s'.gpdEventFlags.wait .gpdLinklayerTask ≠ .running := by
  intro waiting
  have apart : TaskId.gpdLinklayerTask ≠ (TaskId.gpdTask : TaskId Empty) := by simp
  cases h with
  | packet | post =>
    exact fun running => group.parked waiting ((signal_running _).mp running)
  | rxError | letimerIrq | stack => exact group.parked waiting
  | timeout | stackBlock =>
    change (setWait _ _ _).wait _ ≠ _
    rw [setWait_other _ _ apart]
    exact group.parked waiting
  | @stackWake work sends found g got =>
    change g.wait _ ≠ _
    rw [got.wait_other apart]
    exact group.parked waiting
  | block =>
    change (setWait _ _ _).wait _ ≠ _
    rw [setWait_self]
    simp
  | wake | call | skip | comeBack => cases waiting

theorem Tick.group (h : Tick b s m s') (group : GroupSound s) : GroupSound s' where
  sound := group.sound.turn h.turn h.others
  held := group.held.turn group.sound h.turn
    (fun _ _ other => taskMask_apart other (fun _ same => nomatch same))
  parked := h.parked group

theorem GroupSound.blocked (group : GroupSound s) (idle : linklayerReady s = false) :
    s.gpdLinklayerTask = .waiting ∧ .ll ∉ s.gpdEventFlags.flags := by
  unfold linklayerReady at idle
  split at idle
  · rename_i point
    split at idle
    · cases idle
    · rename_i mask pending
      obtain ⟨rfl, apart⟩ := group.sound.disciplined.pending _ _ pending
      exact ⟨point, fun here => Finset.disjoint_left.mp apart here (Finset.mem_singleton_self _)⟩
    · cases idle
  all_goals cases idle

/-- The link-layer task only ever gets its own flag. -/
theorem GroupSound.took (group : GroupSound s) {found : Finset Flag}
    {g : FlagGroup (TaskId Empty) Flag}
    (got : Obtains (s.gpdLinklayerTask = .pend) (s.gpdLinklayerTask = .waiting)
      .gpdLinklayerTask linklayerMask s.gpdEventFlags found g) :
    .ll ∈ s.gpdEventFlags.flags ∧ .ll ∉ g.flags := by
  obtain ⟨inside, some⟩ := group.sound.disciplined.found_spec got
  obtain rfl : found = {.ll} := (Finset.Nonempty.subset_singleton_iff some).mp inside
  refine ⟨got.found_subset group.held (Finset.mem_singleton_self _), ?_⟩
  rw [got.flags]
  simp

end GreenPower.ReceiveSlot
