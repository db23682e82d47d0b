import GreenPower.LinkedList

set_option autoImplicit false

/-!
The kernel as far as event flags need it: the table of priorities, the ready lists, the pend lists,
the scheduler, and the services of a flag group. The links in the control blocks are kept apart from
the rest of these. A failed critical assertion and the use of a null pointer give `none`.
-/
namespace GreenPower.KernelServices
open LinkedList

inductive TaskState where
  | rdy
  | dly
  | pend
  | pendTimeout
  | suspended
  | dlySuspended
  | pendSuspended
  | pendTimeoutSuspended
  | del
  deriving DecidableEq

inductive PendStatus where
  | ok
  | abort
  | del
  | timeout
  deriving DecidableEq

inductive PendOn where
  | nothing
  | flag
  deriving DecidableEq

/-- Those that wait for cleared flags are not compiled in. -/
inductive FlagMode where
  | clrAll
  | clrAny
  | setAll
  | setAny
  deriving DecidableEq

structure PendOpt where
  mode : FlagMode
  consume : Bool
  nonBlocking : Bool
  deriving DecidableEq

inductive PostOpt where
  | flagSet
  | flagClr
  deriving DecidableEq

abbrev Prio : Type := Fin 32

def osCfgPrioMax : ℕ := 32

structure Tcb (γ : Type) where
  prio : Prio
  taskState : TaskState
  pendStatus : PendStatus
  pendOn : PendOn
  pendObjPtr : Option γ
  flagsPend : UInt32
  flagsRdy : UInt32
  flagsOpt : PendOpt
  /-- `TimerHandle` is in the list of the sleeptimer. -/
  timer : Bool

/-- `OSRdyList` with the `NextPtr` and `PrevPtr` of all tasks, and `OSPrioTbl`. -/
structure Ready (τ : Type) where
  links : Links τ
  osRdyList : Prio → Ends τ
  osPrioTbl : UInt32

/-- The `PendList` of every group with the `PendNextPtr` and `PendPrevPtr` of all tasks. -/
structure Pending (τ γ : Type) where
  links : Links τ
  pendList : γ → Ends τ

structure Kernel (τ γ : Type) where
  tcb : τ → Tcb γ
  ready : Ready τ
  pending : Pending τ γ
  flags : γ → UInt32
  osPrioCur : ℕ
  osPrioHighRdy : ℕ
  osTCBCurPtr : Option τ
  osTCBHighRdyPtr : Option τ
  osSchedLockNestingCtr : ℕ
  osRunning : Bool

section
variable {τ γ : Type} [DecidableEq τ] [DecidableEq γ]

def prioBit (prio : Prio) : UInt32 := 1 <<< (31 - prio.val).toUInt32

/-- The instruction `CLZ`. -/
def cpuCntLeadZeros (val : UInt32) : ℕ := 32 - val.toNat.size

def osPrioInsert (prio : Prio) (r : Ready τ) : Ready τ :=
  { r with osPrioTbl := r.osPrioTbl ||| prioBit prio }

def osPrioRemove (prio : Prio) (r : Ready τ) : Ready τ :=
  { r with osPrioTbl := r.osPrioTbl &&& ~~~prioBit prio }

def osPrioGetHighest (r : Ready τ) : ℕ := cpuCntLeadZeros r.osPrioTbl

def setRdyList (prio : Prio) (ends : Ends τ) (links : Links τ) (r : Ready τ) : Ready τ :=
  { r with links := links, osRdyList := Function.update r.osRdyList prio ends }

def osRdyListInsertHead (prio : Prio) (t : τ) (r : Ready τ) : Ready τ :=
  match (r.osRdyList prio).head with
  | none => setRdyList prio ⟨some t, some t⟩ ((r.links.setNext t none).setPrev t none) r
  | some tcb2 =>
    setRdyList prio ⟨some t, (r.osRdyList prio).tail⟩
      (((r.links.setNext t (some tcb2)).setPrev t none).setPrev tcb2 (some t)) r

def osRdyListInsertTail (prio : Prio) (t : τ) (r : Ready τ) : Option (Ready τ) :=
  match (r.osRdyList prio).head with
  | none => some (setRdyList prio ⟨some t, some t⟩ ((r.links.setNext t none).setPrev t none) r)
  | some _ =>
    match (r.osRdyList prio).tail with
    | none => none
    | some tcb2 =>
      some (setRdyList prio ⟨(r.osRdyList prio).head, some t⟩
        (((r.links.setNext t none).setPrev t (some tcb2)).setNext tcb2 (some t)) r)

def osRdyListRemove (prio : Prio) (t : τ) (r : Ready τ) : Ready τ :=
  let ends := r.osRdyList prio
  let removed :=
    match r.links.prev t with
    | none =>
      match r.links.next t with
      | none => osPrioRemove prio (setRdyList prio Ends.empty r.links r)
      | some tcb2 => setRdyList prio ⟨some tcb2, ends.tail⟩ (r.links.setPrev tcb2 none) r
    | some tcb1 =>
      let links := r.links.setNext tcb1 (r.links.next t)
      match r.links.next t with
      | none => setRdyList prio ⟨ends.head, some tcb1⟩ links r
      | some tcb2 => setRdyList prio ends (links.setPrev tcb2 (some tcb1)) r
  { removed with links := (removed.links.setPrev t none).setNext t none }

def setPendList (g : γ) (ends : Ends τ) (links : Links τ) (p : Pending τ γ) : Pending τ γ :=
  { p with links := links, pendList := Function.update p.pendList g ends }

/-- The loop of `OS_PendListInsertPrio`. -/
def findLower (prioOf : τ → Prio) (prio : Prio) (links : Links τ) :
    ℕ → Option τ → Option (Option τ)
  | _, none => some none
  | 0, some _ => none
  | n + 1, some next =>
    if prio < prioOf next then some (some next)
    else findLower prioOf prio links n (links.next next)

def osPendListInsertPrio [Fintype τ] (prioOf : τ → Prio) (g : γ) (t : τ) (p : Pending τ γ) :
    Option (Pending τ γ) :=
  let ends := p.pendList g
  match ends.head with
  | none => some (setPendList g ⟨some t, some t⟩ ((p.links.setNext t none).setPrev t none) p)
  | some head =>
    match findLower prioOf (prioOf t) p.links (Fintype.card τ) (some head) with
    | none => none
    | some none =>
      match ends.tail with
      | none => none
      | some tail =>
        some (setPendList g ⟨ends.head, some t⟩
          (((p.links.setNext t none).setPrev t (some tail)).setNext tail (some t)) p)
    | some (some next) =>
      match p.links.prev next with
      | none =>
        some (setPendList g ⟨some t, ends.tail⟩
          (((p.links.setNext t (some next)).setPrev t none).setPrev next (some t)) p)
      | some prev =>
        some (setPendList g ends
          ((((p.links.setNext t (some next)).setPrev t (some prev)).setNext prev
            (some t)).setPrev next (some t)) p)

/-- `OS_PendListRemove` for a task that pends on `g`. -/
def unlink (g : γ) (t : τ) (p : Pending τ γ) : Option (Pending τ γ) :=
  let ends := p.pendList g
  match ends.head with
  | none => none
  | some head =>
    let removed :=
      if p.links.next head = none then some (setPendList g Ends.empty p.links p)
      else
        match p.links.prev t with
        | none =>
          match p.links.next t with
          | none => none
          | some next => some (setPendList g ⟨some next, ends.tail⟩ (p.links.setPrev next none) p)
        | some prev =>
          match p.links.next t with
          | none => some (setPendList g ⟨ends.head, some prev⟩ (p.links.setNext prev none) p)
          | some next =>
            some (setPendList g ends
              ((p.links.setNext prev (some next)).setPrev next (some prev)) p)
    removed.map (fun p => { p with links := (p.links.setNext t none).setPrev t none })

/-- After `OSInit` and the creation of the flag groups. -/
def osInit : Kernel τ γ where
  tcb := fun _ => ⟨0, .del, .ok, .nothing, none, 0, 0, ⟨.clrAll, false, false⟩, false⟩
  ready := ⟨⟨fun _ => none, fun _ => none⟩, fun _ => Ends.empty, 0⟩
  pending := ⟨⟨fun _ => none, fun _ => none⟩, fun _ => Ends.empty⟩
  flags := fun _ => 0
  osPrioCur := 0
  osPrioHighRdy := 0
  osTCBCurPtr := none
  osTCBHighRdyPtr := none
  osSchedLockNestingCtr := 0
  osRunning := false

def setTcb (t : τ) (f : Tcb γ → Tcb γ) (k : Kernel τ γ) : Kernel τ γ :=
  { k with tcb := Function.update k.tcb t (f (k.tcb t)) }

def osRdyListInsert (t : τ) (k : Kernel τ γ) : Option (Kernel τ γ) :=
  let prio := (k.tcb t).prio
  let ready := osPrioInsert prio k.ready
  if prio.val = k.osPrioCur then
    (osRdyListInsertTail prio t ready).map (fun ready => { k with ready := ready })
  else some { k with ready := osRdyListInsertHead prio t ready }

def osPendListRemove (t : τ) (k : Kernel τ γ) : Option (Kernel τ γ) :=
  match (k.tcb t).pendObjPtr with
  | none => some k
  | some g =>
    (unlink g t k.pending).map (fun pending =>
      setTcb t (fun tcb => { tcb with pendObjPtr := none }) { k with pending := pending })

/-- Before it calls `OSSched`; the timer of `t` is out of the list. -/
def osTimerCallback (t : τ) (k : Kernel τ γ) : Option (Kernel τ γ) :=
  let k := setTcb t (fun tcb => { tcb with timer := false }) k
  let timedOut := setTcb t (fun tcb => { tcb with pendStatus := .timeout, pendOn := .nothing })
  match (k.tcb t).taskState with
  | .pendTimeout =>
    ((osPendListRemove t k).bind (osRdyListInsert t)).map (fun k =>
      timedOut (setTcb t (fun tcb => { tcb with taskState := .rdy }) k))
  | .pendTimeoutSuspended =>
    (osPendListRemove t k).map (fun k =>
      timedOut (setTcb t (fun tcb => { tcb with taskState := .suspended }) k))
  | .dly => osRdyListInsert t (setTcb t (fun tcb => { tcb with taskState := .rdy }) k)
  | .dlySuspended => some (setTcb t (fun tcb => { tcb with taskState := .suspended }) k)
  | _ => some k

/-- `sl_sleeptimer_get_timer_frequency()`: 32768 Hz by `SL_SLEEPTIMER_FREQ_DIVIDER`. -/
def slSleeptimerGetTimerFrequency : UInt64 := 32768 / 32

def osCfgTickRateHz : UInt64 := 1000

/-- The ticks of the sleeptimer for a timeout, as a `uint32_t`. -/
def delayOf (timeout : UInt32) : UInt32 :=
  ((timeout.toUInt64 * slSleeptimerGetTimerFrequency + (osCfgTickRateHz - 1)) /
    osCfgTickRateHz).toUInt32

/-- `sl_sleeptimer_start_timer` and the assertion on its status: a timer that runs is not started. -/
def startTimer (t : τ) (delay : UInt32) (k : Kernel τ γ) : Option (Kernel τ γ) :=
  if (k.tcb t).timer then none
  -- `create_timer` calls back at once
  else if delay = 0 then osTimerCallback t k
  else some (setTcb t (fun tcb => { tcb with timer := true }) k)

def osTaskBlock (t : τ) (timeout : UInt32) (k : Kernel τ γ) : Option (Kernel τ γ) :=
  let block (taskState : TaskState) (k : Kernel τ γ) : Kernel τ γ :=
    setTcb t (fun tcb => { tcb with taskState := taskState })
      { k with ready := osRdyListRemove (k.tcb t).prio t k.ready }
  if timeout > 0 then (startTimer t (delayOf timeout) k).map (block .pendTimeout)
  else some (block .pend k)

/-- `sl_sleeptimer_stop_timer` and the assertion on its status. -/
def stopTimer (t : τ) (k : Kernel τ γ) : Option (Kernel τ γ) :=
  if (k.tcb t).timer then some (setTcb t (fun tcb => { tcb with timer := false }) k) else none

def osPend [Fintype τ] (t : τ) (g : γ) (pendingOn : PendOn) (timeout : UInt32)
    (k : Kernel τ γ) : Option (Kernel τ γ) :=
  let k := setTcb t (fun tcb => { tcb with pendOn := pendingOn, pendStatus := .ok }) k
  (osTaskBlock t timeout k).bind (fun k =>
    let k := setTcb t (fun tcb => { tcb with pendObjPtr := some g }) k
    (osPendListInsertPrio (fun u => (k.tcb u).prio) g t k.pending).map
      (fun pending => { k with pending := pending }))

def osFlagBlock [Fintype τ] (t : τ) (g : γ) (flags : UInt32) (opt : PendOpt)
    (timeout : UInt32) (k : Kernel τ γ) : Option (Kernel τ γ) :=
  osPend t g .flag timeout
    (setTcb t (fun tcb => { tcb with flagsPend := flags, flagsOpt := opt, flagsRdy := 0 }) k)

/-- The flags that satisfy a wait, for the modes that are compiled in. -/
def flagsReady (mode : FlagMode) (present wanted : UInt32) : Option (Option UInt32) :=
  match mode with
  | .setAll => some (if present &&& wanted = wanted then some (present &&& wanted) else none)
  | .setAny => some (if present &&& wanted ≠ 0 then some (present &&& wanted) else none)
  | .clrAll => none
  | .clrAny => none

def osFlagTaskRdy (t : τ) (flagsRdy : UInt32) (k : Kernel τ γ) : Option (Kernel τ γ) :=
  let k := setTcb t
    (fun tcb => { tcb with flagsRdy := flagsRdy, pendStatus := .ok, pendOn := .nothing }) k
  let woken :=
    match (k.tcb t).taskState with
    | .pend | .pendTimeout =>
      let stopped := if (k.tcb t).taskState = TaskState.pendTimeout then stopTimer t k else some k
      (stopped.bind (osRdyListInsert t)).map
        (setTcb t (fun tcb => { tcb with taskState := .rdy }))
    | .pendSuspended | .pendTimeoutSuspended =>
      some (setTcb t (fun tcb => { tcb with taskState := .suspended }) k)
    | .rdy | .dly | .dlySuspended | .suspended => some k
    | .del => none
  woken.bind (osPendListRemove t)

/-- How the part of `OSFlagPend` before the call of the scheduler ends. -/
inductive FlagPend where
  | got (flagsRdy : UInt32)
  | wouldBlock
  | schedLocked
  | blocked
  deriving DecidableEq

def osFlagPend [Fintype τ] (t : τ) (g : γ) (flags : UInt32) (timeout : UInt32)
    (opt : PendOpt) (k : Kernel τ γ) : Option (FlagPend × Kernel τ γ) :=
  match flagsReady opt.mode (k.flags g) flags with
  | none => none
  | some (some flagsRdy) =>
    let left := if opt.consume then k.flags g &&& ~~~flagsRdy else k.flags g
    some (.got flagsRdy, setTcb t (fun tcb => { tcb with flagsRdy := flagsRdy })
      { k with flags := Function.update k.flags g left })
  | some none =>
    if opt.nonBlocking then some (.wouldBlock, k)
    else if k.osSchedLockNestingCtr > 0 then some (.schedLocked, k)
    else (osFlagBlock t g flags opt timeout k).map (fun k => (.blocked, k))

/-- The rest of `OSFlagPend`; an aborted pend or a deleted group gives no flags. -/
def osFlagPendResume (t : τ) (g : γ) (opt : PendOpt) (k : Kernel τ γ) : UInt32 × Kernel τ γ :=
  if (k.tcb t).pendStatus = .ok then
    let flagsRdy := (k.tcb t).flagsRdy
    let left := if opt.consume then k.flags g &&& ~~~flagsRdy else k.flags g
    (flagsRdy, { k with flags := Function.update k.flags g left })
  else (0, k)

def readyWaiters (g : γ) : ℕ → Option τ → Kernel τ γ → Option (Kernel τ γ)
  | _, none, k => some k
  | 0, some _, _ => none
  | n + 1, some t, k =>
    let next := k.pending.links.next t
    match flagsReady (k.tcb t).flagsOpt.mode (k.flags g) (k.tcb t).flagsPend with
    | none => none
    | some none => readyWaiters g n next k
    | some (some flagsRdy) => (osFlagTaskRdy t flagsRdy k).bind (readyWaiters g n next)

def osFlagPost [Fintype τ] (g : γ) (flags : UInt32) (opt : PostOpt) (k : Kernel τ γ) :
    Option (Kernel τ γ) :=
  let changed :=
    match opt with
    | .flagSet => k.flags g ||| flags
    | .flagClr => k.flags g &&& ~~~flags
  readyWaiters g (Fintype.card τ) (k.pending.pendList g).head
    { k with flags := Function.update k.flags g changed }

/-- What `OS_TaskInitTCB` and `OSTaskCreate` write, as far as it is modelled. -/
def osTaskCreate (t : τ) (prio : Prio) (k : Kernel τ γ) : Option (Kernel τ γ) :=
  let k :=
    { k with
      tcb := Function.update k.tcb t
        ⟨prio, .rdy, .ok, .nothing, none, 0, 0, ⟨.clrAll, false, false⟩, false⟩
      ready.links := (k.ready.links.setNext t none).setPrev t none
      pending.links := (k.pending.links.setNext t none).setPrev t none }
  (osRdyListInsertTail prio t (osPrioInsert prio k.ready)).map
    (fun ready => { k with ready := ready })

/-- The head of the ready list of a priority; there is none to the idle priority. -/
def highRdy (prio : ℕ) (r : Ready τ) : Option τ :=
  if h : prio < 32 then (r.osRdyList ⟨prio, h⟩).head else none

def osStart (k : Kernel τ γ) : Kernel τ γ :=
  let prio := osPrioGetHighest k.ready
  { k with
    osPrioHighRdy := prio
    osPrioCur := prio
    osTCBHighRdyPtr := highRdy prio k.ready
    osTCBCurPtr := highRdy prio k.ready
    osRunning := true }

/-- `OSSched` and the switch of the context by `PendSV_Handler`. -/
def osSched (k : Kernel τ γ) : Kernel τ γ :=
  if k.osSchedLockNestingCtr > 0 then k
  else
    let prio := osPrioGetHighest k.ready
    let high := highRdy prio k.ready
    let k := { k with osPrioHighRdy := prio, osTCBHighRdyPtr := high }
    if prio ≠ osCfgPrioMax ∧ high = k.osTCBCurPtr then k
    else { k with osTCBCurPtr := high, osPrioCur := prio }

def osSchedLock (k : Kernel τ γ) : Kernel τ γ :=
  if k.osSchedLockNestingCtr ≥ 250 then k
  else { k with osSchedLockNestingCtr := k.osSchedLockNestingCtr + 1 }

/-- Before it calls `OSSched`. -/
def osSchedUnlock (k : Kernel τ γ) : Kernel τ γ :=
  { k with osSchedLockNestingCtr := k.osSchedLockNestingCtr - 1 }

end

end GreenPower.KernelServices
