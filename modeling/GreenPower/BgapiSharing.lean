import GreenPower.BgapiTasks

set_option autoImplicit false

/-!
The command buffer, the command slot and the response flag of BGAPI as two tasks share them.
-/
namespace GreenPower.BgapiSharing
open MemoryArray EventFlags FlagGroup SlotServer Runs BgapiTasks

inductive Tick (osTick : UInt32) (s : Sys) : Move → Sys → Prop
  | readHeader (pending : Bool) (ticks : UInt32) (point : s.bluetoothTask = .top)
      (asked : .cmdWaiting ∈ s.flags) :
      Tick osTick s (.bluetoothTask pending ticks)
        { s with header := s.commandHeader, bluetoothTask := .readHandler }
  | noCommand (pending : Bool) (ticks : UInt32) (point : s.bluetoothTask = .top) :
      Tick osTick s (.bluetoothTask pending ticks) { s with bluetoothTask := .events }
  | readHandler (pending : Bool) (ticks : UInt32) (point : s.bluetoothTask = .readHandler) :
      Tick osTick s (.bluetoothTask pending ticks)
        { s with cmdHandler := s.commandHandlerFunc, bluetoothTask := .execute }
  | execute (pending : Bool) (ticks : UInt32) (point : s.bluetoothTask = .execute) :
      Tick osTick s (.bluetoothTask pending ticks)
        { s with
          trace := .executed ⟨s.header, s.cmdHandler, load s.msgPayload 0 (msgLen s.header)⟩ ::
            s.trace
          bluetoothTask := .clearHandler }
  | clearHandler (pending : Bool) (ticks : UInt32) (point : s.bluetoothTask = .clearHandler) :
      Tick osTick s (.bluetoothTask pending ticks)
        { s with commandHandlerFunc := none, bluetoothTask := .postResponse }
  | postResponse (pending : Bool) (ticks : UInt32) (point : s.bluetoothTask = .postResponse) :
      Tick osTick s (.bluetoothTask pending ticks)
        { post .rspWaiting s with flags := s.flags.erase .cmdWaiting, bluetoothTask := .events }
  | event (pending : Bool) (ticks : UInt32) (point : s.bluetoothTask = .events) :
      Tick osTick s (.bluetoothTask pending ticks)
        { post .evtWaiting s with flags := s.flags.erase .evtHandled, bluetoothTask := .sleep }
  | loop (pending : Bool) (ticks : UInt32) (point : s.bluetoothTask = .events ∨ s.bluetoothTask = .sleep)
      (timeout : UInt32) (next : BluetoothTaskPoint)
      (free : next = .sleep ∨ next = .top ∨ next = .pend) :
      Tick osTick s (.bluetoothTask pending ticks)
        { s with timeout := timeout, bluetoothTask := next }
  | wake (pending : Bool) (ticks : UInt32) {found : Finset Flag} {g : FlagGroup Waiter Flag}
      (got : Obtains (s.bluetoothTask = .pend) (s.bluetoothTask = .waiting) .bluetoothTask
        bluetoothTaskMask s.bluetoothEventFlags found g) :
      Tick osTick s (.bluetoothTask pending ticks) (takeFlags found g s)
  | block (pending : Bool) (ticks : UInt32) (point : s.bluetoothTask = .pend)
      (apart : Disjoint s.bluetoothEventFlags.flags bluetoothTaskMask) :
      Tick osTick s (.bluetoothTask pending ticks)
        { s with
          bluetoothEventFlags :=
            s.bluetoothEventFlags.setWait .bluetoothTask (.pending bluetoothTaskMask)
          bluetoothTask := .waiting }
  | timeout (point : s.bluetoothTask = .waiting) :
      Tick osTick s .timeout
        { s with
          bluetoothEventFlags := s.bluetoothEventFlags.setWait .bluetoothTask .running
          bluetoothTask := .top }
  | linklayerWake {found : Finset Flag} {g : FlagGroup Waiter Flag}
      (got : Obtains (s.linklayerTask = .pend) (s.linklayerTask = .waiting) .linklayerTask {.ll}
        s.bluetoothEventFlags found g) :
      Tick osTick s .linklayerTask { s with bluetoothEventFlags := g, linklayerTask := .pend }
  | linklayerBlock (apart : Disjoint s.bluetoothEventFlags.flags {.ll}) :
      Tick osTick s .linklayerTask
        { s with
          bluetoothEventFlags := s.bluetoothEventFlags.setWait .linklayerTask (.pending {.ll})
          linklayerTask := .waiting }
  | linklayerCallback : Tick osTick s .bluetoothLLCallback (post .ll s)
  | update : Tick osTick s .bluetoothUpdate (post .stack s)
  | appWake {found : Finset Flag} {g : FlagGroup Waiter Flag}
      (got : Obtains (s.bluetoothAppTask = .pend) (s.bluetoothAppTask = .waiting) .event
        {.evtWaiting} s.bluetoothEventFlags found g) :
      Tick osTick s .bluetoothAppTask
        { s with bluetoothEventFlags := g, bluetoothAppTask := .handle }
  | appBlock (apart : Disjoint s.bluetoothEventFlags.flags {.evtWaiting}) :
      Tick osTick s .bluetoothAppTask
        { s with
          bluetoothEventFlags := s.bluetoothEventFlags.setWait .event (.pending {.evtWaiting})
          bluetoothAppTask := .waiting }
  | appHandled (point : s.bluetoothAppTask = .handle) :
      Tick osTick s .bluetoothAppTask { post .evtHandled s with bluetoothAppTask := .pend }
  | enter (k : Caller) (cmd : GeckoCmd) (point : s.caller k = .outside) :
      Tick osTick s (.caller k cmd) (setCaller k (.payload cmd 0) s)
  | writeByte (k : Caller) (cmd' cmd : GeckoCmd) (written : ℕ) (byte : UInt8)
      (point : s.caller k = .payload cmd written) (next : cmd.payload[written]? = some byte) :
      Tick osTick s (.caller k cmd')
        (setCaller k (.payload cmd (written + 1))
          { s with msgPayload := store s.msgPayload written [byte] })
  | writeHeader (k : Caller) (cmd' cmd : GeckoCmd) (written : ℕ)
      (point : s.caller k = .payload cmd written) (all : cmd.payload[written]? = none) :
      Tick osTick s (.caller k cmd')
        (setCaller k (.readHeader cmd) { s with msgHeader := cmd.header })
  | readMsgHeader (k : Caller) (cmd' cmd : GeckoCmd) (point : s.caller k = .readHeader cmd) :
      Tick osTick s (.caller k cmd') (setCaller k (.storeHeader cmd s.msgHeader) s)
  | storeHeader (k : Caller) (cmd' cmd : GeckoCmd) (header : UInt32)
      (point : s.caller k = .storeHeader cmd header) :
      Tick osTick s (.caller k cmd')
        (setCaller k (.storeHandler cmd) { s with commandHeader := header })
  | storeHandler (k : Caller) (cmd' cmd : GeckoCmd) (point : s.caller k = .storeHandler cmd) :
      Tick osTick s (.caller k cmd')
        (setCaller k .postCommand
          { s with commandHandlerFunc := some cmd.handler, trace := .called k cmd.order :: s.trace })
  | postCommand (k : Caller) (cmd' : GeckoCmd) (point : s.caller k = .postCommand) :
      Tick osTick s (.caller k cmd') (setCaller k .pend (post .cmdWaiting s))
  | respond (k : Caller) (cmd' : GeckoCmd) {found : Finset Flag} {g : FlagGroup Waiter Flag}
      (got : Obtains (s.caller k = .pend) (s.caller k = .waiting) (.response k) {.rspWaiting}
        s.bluetoothEventFlags found g) :
      Tick osTick s (.caller k cmd')
        (setCaller k .outside
          { s with bluetoothEventFlags := g, trace := .returned k () :: s.trace })
  | await (k : Caller) (cmd' : GeckoCmd) (point : s.caller k = .pend)
      (apart : Disjoint s.bluetoothEventFlags.flags {.rspWaiting}) :
      Tick osTick s (.caller k cmd')
        (setCaller k .waiting
          { s with bluetoothEventFlags :=
            s.bluetoothEventFlags.setWait (.response k) (.pending {.rspWaiting}) })

variable {osTick : UInt32} {s s' : Sys}

theorem bluetoothTaskStep_tick {pending : Bool} {ticks : UInt32}
    (h : bluetoothTaskStep osTick pending ticks s = some s') :
    Tick osTick s (.bluetoothTask pending ticks) s' := by
  unfold bluetoothTaskStep at h
  cases point : s.bluetoothTask with
  | top =>
    simp only [point] at h
    split_ifs at h with asked
    · exact Option.some.inj h ▸ .readHeader _ _ point asked
    · exact Option.some.inj h ▸ .noCommand _ _ point
  | readHandler =>
    simp only [point] at h
    exact Option.some.inj h ▸ .readHandler _ _ point
  | execute =>
    simp only [point] at h
    exact Option.some.inj h ▸ .execute _ _ point
  | clearHandler =>
    simp only [point] at h
    exact Option.some.inj h ▸ .clearHandler _ _ point
  | postResponse =>
    simp only [point] at h
    exact Option.some.inj h ▸ .postResponse _ _ point
  | events =>
    simp only [point] at h
    split_ifs at h
    · exact Option.some.inj h ▸ .event _ _ point
    · exact Option.some.inj h ▸ .loop _ _ (Or.inl point) s.timeout .sleep (Or.inl rfl)
  | sleep =>
    simp only [point] at h
    split_ifs at h
    · exact Option.some.inj h ▸ .loop _ _ (Or.inr point) s.timeout .top (Or.inr (Or.inl rfl))
    · exact Option.some.inj h ▸ .loop _ _ (Or.inr point) _ .pend (Or.inr (Or.inr rfl))
  | pend =>
    simp only [point] at h
    split at h
    · rename_i found g got
      exact Option.some.inj h ▸ .wake _ _ (pend_some point got)
    · rename_i g none
      obtain ⟨apart, rfl⟩ := pend_none none
      exact Option.some.inj h ▸ .block _ _ point apart
  | waiting =>
    simp only [point] at h
    split at h
    · rename_i found g got
      exact Option.some.inj h ▸ .wake _ _ (resume_some point got _)
    · simp at h

theorem timeoutStep_tick (h : timeoutStep s = some s') : Tick osTick s .timeout s' := by
  unfold timeoutStep at h
  split_ifs at h with waits
  split at h
  · rename_i g expired
    obtain ⟨-, rfl⟩ := expire_some expired
    exact Option.some.inj h ▸ .timeout waits.1
  · simp at h

theorem linklayerStep_tick (h : linklayerStep s = some s') : Tick osTick s .linklayerTask s' := by
  unfold linklayerStep at h
  cases point : s.linklayerTask with
  | pend =>
    simp only [point] at h
    split at h
    · rename_i found g got
      exact Option.some.inj h ▸ .linklayerWake (pend_some point got)
    · rename_i g none
      obtain ⟨apart, rfl⟩ := pend_none none
      exact Option.some.inj h ▸ .linklayerBlock apart
  | waiting =>
    simp only [point] at h
    split at h
    · rename_i found g got
      exact Option.some.inj h ▸ .linklayerWake (resume_some point got _)
    · simp at h

theorem bluetoothAppStep_tick (h : bluetoothAppStep s = some s') :
    Tick osTick s .bluetoothAppTask s' := by
  unfold bluetoothAppStep at h
  cases point : s.bluetoothAppTask with
  | pend =>
    simp only [point] at h
    split at h
    · rename_i found g got
      exact Option.some.inj h ▸ .appWake (pend_some point got)
    · rename_i g none
      obtain ⟨apart, rfl⟩ := pend_none none
      exact Option.some.inj h ▸ .appBlock apart
  | waiting =>
    simp only [point] at h
    split at h
    · rename_i found g got
      exact Option.some.inj h ▸ .appWake (resume_some point got _)
    · simp at h
  | handle =>
    simp only [point] at h
    split_ifs at h
    exact Option.some.inj h ▸ .appHandled point

theorem callerStep_tick {k : Caller} {cmd : GeckoCmd} (h : callerStep k cmd s = some s') :
    Tick osTick s (.caller k cmd) s' := by
  unfold callerStep at h
  cases point : s.caller k with
  | outside =>
    simp only [point] at h
    split_ifs at h
    exact Option.some.inj h ▸ .enter k cmd point
  | payload cmd' written =>
    simp only [point] at h
    split at h
    · rename_i byte next
      exact Option.some.inj h ▸ .writeByte k cmd cmd' written byte point next
    · rename_i all
      exact Option.some.inj h ▸ .writeHeader k cmd cmd' written point all
  | readHeader cmd' =>
    simp only [point] at h
    exact Option.some.inj h ▸ .readMsgHeader k cmd cmd' point
  | storeHeader cmd' header =>
    simp only [point] at h
    exact Option.some.inj h ▸ .storeHeader k cmd cmd' header point
  | storeHandler cmd' =>
    simp only [point] at h
    exact Option.some.inj h ▸ .storeHandler k cmd cmd' point
  | postCommand =>
    simp only [point] at h
    exact Option.some.inj h ▸ .postCommand k cmd point
  | pend =>
    simp only [point] at h
    split at h
    · rename_i found g got
      exact Option.some.inj h ▸ .respond k cmd (pend_some point got)
    · rename_i g none
      obtain ⟨apart, rfl⟩ := pend_none none
      exact Option.some.inj h ▸ .await k cmd point apart
  | waiting =>
    simp only [point] at h
    split at h
    · rename_i found g got
      exact Option.some.inj h ▸ .respond k cmd (resume_some point got _)
    · simp at h

theorem step_tick {m : Move} (h : step osTick s m = some s') : Tick osTick s m s' := by
  cases m with
  | bluetoothTask => exact bluetoothTaskStep_tick h
  | timeout => exact timeoutStep_tick h
  | linklayerTask => exact linklayerStep_tick h
  | bluetoothLLCallback => exact Option.some.inj h ▸ .linklayerCallback
  | bluetoothUpdate => exact Option.some.inj h ▸ .update
  | bluetoothAppTask => exact bluetoothAppStep_tick h
  | caller => exact callerStep_tick h

def Waits (s : Sys) : Waiter → Prop
  | .bluetoothTask => s.bluetoothTask = .waiting
  | .linklayerTask => s.linklayerTask = .waiting
  | .event => s.bluetoothAppTask = .waiting
  | .response k => s.caller k = .waiting

/-- The place where the task that moves may wait; an interrupt belongs to none. -/
def actor : Move → Option Waiter
  | .bluetoothTask _ _ => some .bluetoothTask
  | .timeout => some .bluetoothTask
  | .linklayerTask => some .linklayerTask
  | .bluetoothLLCallback => none
  | .bluetoothUpdate => none
  | .bluetoothAppTask => some .event
  | .caller k _ => some (.response k)

theorem setCaller_self (k : Caller) (p : CallerPoint) (s : Sys) : (setCaller k p s).caller k = p := by
  change Function.update s.caller k p k = p
  rw [Function.update_self]

theorem setCaller_other (k : Caller) (p : CallerPoint) (s : Sys) {j : Caller} (other : j ≠ k) :
    (setCaller k p s).caller j = s.caller j := by
  change Function.update s.caller k p j = s.caller j
  rw [Function.update_of_ne other]

theorem Tick.others {m : Move} (h : Tick osTick s m s') (u : Waiter) (other : actor m ≠ some u) :
    Waits s' u ↔ Waits s u := by
  cases h with
  | enter k | writeByte k | writeHeader k | readMsgHeader k | storeHeader k | storeHandler k
  | postCommand k | respond k | await k =>
    cases u with
    | bluetoothTask | linklayerTask | event => exact Iff.rfl
    | response j =>
      have different : j ≠ k := fun same => other (same ▸ rfl)
      exact iff_of_eq (congrArg (· = CallerPoint.waiting) (setCaller_other k _ _ different))
  | linklayerCallback | update => exact Iff.rfl
  | linklayerWake | linklayerBlock =>
    cases u with
    | linklayerTask => exact absurd rfl other
    | bluetoothTask | event | response => exact Iff.rfl
  | appWake | appBlock | appHandled =>
    cases u with
    | event => exact absurd rfl other
    | bluetoothTask | linklayerTask | response => exact Iff.rfl
  | readHeader | noCommand | readHandler | execute | clearHandler | postResponse | event | loop | wake
  | block | timeout =>
    cases u with
    | bluetoothTask => exact absurd rfl other
    | linklayerTask | event | response => exact Iff.rfl

theorem Tick.turn {m : Move} (h : Tick osTick s m s') :
    Turn waiterMask (Waits s) (Waits s') s.bluetoothEventFlags (actor m) s'.bluetoothEventFlags := by
  have out {t : Waiter} {w w' : Waiter → Prop} (before : ¬ w t) (after : ¬ w' t) :
      ∀ u, some t = some u → ¬ w u ∧ ¬ w' u := by
    rintro u ⟨⟩
    exact ⟨before, after⟩
  have moved {k : Caller} {p : CallerPoint} {r : Sys} (other : p ≠ .waiting) :
      ¬ Waits (setCaller k p r) (.response k) :=
    fun w => other ((setCaller_self k p r).symm.trans w)
  cases h with
  | readHeader _ _ point | noCommand _ _ point | readHandler _ _ point | execute _ _ point
  | clearHandler _ _ point =>
    exact .still _ (out (fun w => nomatch point.symm.trans w) (fun w => nomatch w))
  | postResponse _ _ point | event _ _ point | appHandled point =>
    exact .post _ _ (out (fun w => nomatch point.symm.trans w) (fun w => nomatch w))
  | loop _ _ point timeout next free =>
    refine .still _ (out (fun w => ?_) (fun w => ?_))
    · rcases point with point | point <;> exact nomatch point.symm.trans w
    · rcases free with rfl | rfl | rfl <;> cases w
  | wake _ _ got =>
    refine Turn.obtain Waiter.bluetoothTask ?_ got (fun w => nomatch w)
    exact fun point w => nomatch point.symm.trans w
  | block _ _ point apart => exact Turn.block Waiter.bluetoothTask apart rfl
  | timeout point => exact Turn.expire Waiter.bluetoothTask (fun w => nomatch w)
  | linklayerWake got =>
    refine Turn.obtain Waiter.linklayerTask ?_ got (fun w => nomatch w)
    exact fun point w => nomatch point.symm.trans w
  | linklayerBlock apart => exact Turn.block Waiter.linklayerTask apart rfl
  | linklayerCallback | update => exact .post _ _ (fun _ same => nomatch same)
  | appWake got =>
    refine Turn.obtain Waiter.event ?_ got (fun w => nomatch w)
    exact fun point w => nomatch point.symm.trans w
  | appBlock apart => exact Turn.block Waiter.event apart rfl
  | enter k _ point | writeByte k _ _ _ _ point | writeHeader k _ _ _ point
  | readMsgHeader k _ _ point | storeHeader k _ _ _ point | storeHandler k _ _ point =>
    exact .still _ (out (fun w => nomatch point.symm.trans w) (moved (fun same => nomatch same)))
  | postCommand k _ point =>
    exact .post _ _ (out (fun w => nomatch point.symm.trans w) (moved (by decide)))
  | respond k _ got =>
    refine Turn.obtain (Waiter.response k) ?_ got (moved (by decide))
    exact fun point w => nomatch point.symm.trans w
  | await k _ point apart => exact Turn.block (Waiter.response k) apart (setCaller_self k _ _)

def Alone (s : Sys) : Move → Prop
  | .caller k _ => s.caller k = .outside → ∀ j, j ≠ k → s.caller j = .outside
  | _ => True

def callPoint : CallerPoint → CallPoint
  | .outside => .out
  | .payload _ _ => .preparing
  | .readHeader _ => .preparing
  | .storeHeader _ _ => .preparing
  | .storeHandler _ => .preparing
  | .postCommand => .stored
  | .pend => .asking
  | .waiting => .asking

def serverPoint : BluetoothTaskPoint → ServerPoint
  | .clearHandler => .answering
  | .postResponse => .answering
  | _ => .idle

/-- `CMD_WAITING` is in the group, or with `BluetoothTask` and not acted on. -/
def Asked (s : Sys) : Prop :=
  .cmdWaiting ∈ s.bluetoothEventFlags.flags ∨
    .cmdWaiting ∈ s.flags ∧ serverPoint s.bluetoothTask = .idle

instance (s : Sys) : Decidable (Asked s) := by
  unfold Asked
  infer_instance

def stored (s : Sys) : Order :=
  ⟨s.commandHeader, s.commandHandlerFunc, load s.msgPayload 0 (msgLen s.commandHeader)⟩

def view (s : Sys) : State Caller Order Unit where
  caller k := callPoint (s.caller k)
  slot := stored s
  asked := decide (Asked s)
  server := serverPoint s.bluetoothTask
  answer := ()
  answered := decide (.rspWaiting ∈ s.bluetoothEventFlags.flags)
  history := s.trace

def Prepared (s : Sys) : CallerPoint → Prop
  | .payload cmd written =>
    written ≤ cmd.payload.length ∧ load s.msgPayload 0 written = cmd.payload.take written
  | .readHeader cmd =>
    load s.msgPayload 0 cmd.payload.length = cmd.payload ∧ s.msgHeader = cmd.header
  | .storeHeader cmd header =>
    load s.msgPayload 0 cmd.payload.length = cmd.payload ∧ header = cmd.header
  | .storeHandler cmd =>
    load s.msgPayload 0 cmd.payload.length = cmd.payload ∧ s.commandHeader = cmd.header
  | _ => True

structure Shared (s : Sys) : Prop where
  sound : Sound waiterMask (Waits s) s.bluetoothEventFlags
  held : ∀ t, Held t s.bluetoothEventFlags
  once : .cmdWaiting ∈ s.bluetoothEventFlags.flags → .cmdWaiting ∉ s.flags
  working : s.bluetoothTask = .readHandler ∨ s.bluetoothTask = .execute → .cmdWaiting ∈ s.flags
  readHeader : s.bluetoothTask = .readHandler → s.header = s.commandHeader
  readHandler : s.bluetoothTask = .execute →
    s.header = s.commandHeader ∧ s.cmdHandler = s.commandHandlerFunc
  prepared : ∀ k, Prepared s (s.caller k)
  orderly : Orderly (fun _ => ()) (view s)

theorem callPoint_out {p : CallerPoint} (h : callPoint p = .out) : p = .outside := by
  cases p <;> first | rfl | cases h

theorem waiterMask_apart {t u : Waiter} (different : u ≠ t)
    (one : (∀ k, t ≠ .response k) ∨ ∀ k, u ≠ .response k) :
    Disjoint (waiterMask t) (waiterMask u) := by
  cases t <;> cases u <;> simp only [waiterMask] <;> first
    | exact absurd rfl different
    | exact one.elim (fun h => absurd rfl (h _)) (fun h => absurd rfl (h _))
    | decide

/-- While a task is in a command, no other is. -/
theorem Shared.alone (h : Shared s) {j k : Caller} {cmd : GeckoCmd} (alone : Alone s (.caller j cmd))
    (other : k ≠ j) : s.caller k = .outside := by
  by_cases point : s.caller j = .outside
  · exact alone point k other
  · exact callPoint_out (h.orderly.sole (k := j) (fun out => point (callPoint_out out)) other)

/-- `BluetoothTask` is not reading what a caller writes. -/
theorem Shared.unread (h : Shared s) {k : Caller} (point : callPoint (s.caller k) = .preparing) :
    s.bluetoothTask ≠ .readHandler ∧ s.bluetoothTask ≠ .execute := by
  obtain ⟨-, unasked, -⟩ := h.orderly.at_preparing (k := k) point
  have free : ¬ Asked s := of_decide_eq_false unasked
  refine ⟨fun reads => ?_, fun reads => ?_⟩
  · exact free (Or.inr ⟨h.working (Or.inl reads), congrArg serverPoint reads⟩)
  · exact free (Or.inr ⟨h.working (Or.inr reads), congrArg serverPoint reads⟩)

theorem Shared.tick_held (h : Shared s) {m : Move} (tick : Tick osTick s m s') (alone : Alone s m)
    (t : Waiter) : Held t s'.bluetoothEventFlags := by
  by_cases rival : ∃ k j, t = .response k ∧ actor m = some (.response j) ∧ j ≠ k
  · obtain ⟨k, j, rfl, acts, other⟩ := rival
    have outside : s.caller k = .outside := by
      cases m with
      | caller j' cmd =>
        obtain rfl : j' = j := by simpa [actor] using acts
        exact h.alone alone (Ne.symm other)
      | bluetoothTask | timeout | linklayerTask | bluetoothLLCallback | bluetoothUpdate
      | bluetoothAppTask => simp [actor] at acts
    have idle : ¬ Waits s' (.response k) := by
      rw [tick.others (.response k) (by simp [acts, other])]
      change s.caller k ≠ .waiting
      rw [outside]
      decide
    apply held_of_not_ready
    rw [(h.sound.turn tick.turn tick.others).running _ idle]
    exact fun found ready => nomatch ready
  · refine (h.held t).turn h.sound tick.turn ?_
    intro u acts different
    refine waiterMask_apart different ?_
    by_contra both
    obtain ⟨caller, rivals⟩ := not_or.mp both
    obtain ⟨k, response⟩ := not_forall.mp caller
    obtain ⟨j, response'⟩ := not_forall.mp rivals
    obtain rfl := not_not.mp response
    obtain rfl := not_not.mp response'
    exact rival ⟨k, j, rfl, acts, fun same => different (same ▸ rfl)⟩

theorem Shared.tick_once (h : Shared s) {m : Move} (tick : Tick osTick s m s')
    (group : .cmdWaiting ∈ s'.bluetoothEventFlags.flags) : .cmdWaiting ∉ s'.flags := by
  have disciplined := h.sound.disciplined
  cases tick with
  | readHeader | noCommand | readHandler | execute | clearHandler | loop | block | timeout
  | linklayerBlock | appBlock | enter | writeByte | writeHeader | readMsgHeader | storeHeader
  | storeHandler | await => exact h.once group
  | postResponse => exact Finset.notMem_erase _ _
  | event =>
    have before := h.once ((mem_post_other _ (by decide)).mp group)
    exact fun inside => before (Finset.mem_of_mem_erase inside)
  | wake _ _ got =>
    change _ ∉ s.flags ∪ _
    rw [show (takeFlags _ _ s).bluetoothEventFlags.flags = _ from got.flags,
      Finset.mem_sdiff] at group
    rw [Finset.mem_union, not_or]
    exact ⟨h.once group.1, group.2⟩
  | linklayerCallback | update | appHandled =>
    exact h.once ((mem_post_other _ (by decide)).mp group)
  | linklayerWake got =>
    exact h.once ((disciplined.mem_obtained got (by decide : Flag.cmdWaiting ∉ {Flag.ll})).mp group)
  | appWake got =>
    exact h.once ((disciplined.mem_obtained got
      (by decide : Flag.cmdWaiting ∉ {Flag.evtWaiting})).mp group)
  | respond k _ got =>
    exact h.once ((disciplined.mem_obtained got
      (by decide : Flag.cmdWaiting ∉ {Flag.rspWaiting})).mp group)
  | postCommand k _ point =>
    have stored : (view s).caller k = .stored := congrArg callPoint point
    obtain ⟨-, unasked, idle, -⟩ := h.orderly.at_stored stored
    exact fun inside => of_decide_eq_false unasked (Or.inr ⟨inside, idle⟩)

theorem Shared.tick_working (h : Shared s) {m : Move} (tick : Tick osTick s m s')
    (point : s'.bluetoothTask = .readHandler ∨ s'.bluetoothTask = .execute) :
    .cmdWaiting ∈ s'.flags := by
  cases tick with
  | readHeader _ _ _ asked => exact asked
  | readHandler _ _ before => exact h.working (Or.inl before)
  | noCommand | execute | clearHandler | postResponse | event | wake | block | timeout =>
    rcases point with point | point <;> cases point
  | loop _ _ _ _ _ free =>
    rcases free with rfl | rfl | rfl <;> rcases point with point | point <;> cases point
  | linklayerWake | linklayerBlock | linklayerCallback | update | appWake | appBlock | appHandled
  | enter | writeByte | writeHeader | readMsgHeader | storeHeader | storeHandler | postCommand
  | respond | await => exact h.working point

theorem Shared.tick_readHeader (h : Shared s) {m : Move} (tick : Tick osTick s m s')
    (point : s'.bluetoothTask = .readHandler) : s'.header = s'.commandHeader := by
  cases tick with
  | readHeader => rfl
  | noCommand | readHandler | execute | clearHandler | postResponse | event | wake | block
  | timeout => cases point
  | loop _ _ _ _ _ free => rcases free with rfl | rfl | rfl <;> cases point
  | storeHeader k _ _ _ writes =>
    exact absurd point (h.unread (congrArg callPoint writes)).1
  | linklayerWake | linklayerBlock | linklayerCallback | update | appWake | appBlock | appHandled
  | enter | writeByte | writeHeader | readMsgHeader | storeHandler | postCommand | respond
  | await => exact h.readHeader point

theorem Shared.tick_readHandler (h : Shared s) {m : Move} (tick : Tick osTick s m s')
    (point : s'.bluetoothTask = .execute) :
    s'.header = s'.commandHeader ∧ s'.cmdHandler = s'.commandHandlerFunc := by
  cases tick with
  | readHandler _ _ before => exact ⟨h.readHeader before, rfl⟩
  | readHeader | noCommand | execute | clearHandler | postResponse | event | wake | block
  | timeout => cases point
  | loop _ _ _ _ _ free => rcases free with rfl | rfl | rfl <;> cases point
  | storeHeader k _ _ _ writes => exact absurd point (h.unread (congrArg callPoint writes)).2
  | storeHandler k _ _ writes => exact absurd point (h.unread (congrArg callPoint writes)).2
  | linklayerWake | linklayerBlock | linklayerCallback | update | appWake | appBlock | appHandled
  | enter | writeByte | writeHeader | readMsgHeader | postCommand | respond | await =>
    exact h.readHandler point

theorem Shared.tick_prepared (h : Shared s) {m : Move} (tick : Tick osTick s m s')
    (alone : Alone s m) (k : Caller) : Prepared s' (s'.caller k) := by
  by_cases rival : ∃ j cmd, m = .caller j cmd ∧ k ≠ j
  · obtain ⟨j, cmd, rfl, other⟩ := rival
    have outside : s'.caller k = .outside := by
      rw [← h.alone alone other]
      cases tick with
      | enter | writeByte | writeHeader | readMsgHeader | storeHeader | storeHandler | postCommand
      | respond | await => exact setCaller_other _ _ _ other
    rw [outside]
    trivial
  have own {j : Caller} {cmd : GeckoCmd} (acts : m = .caller j cmd) : k = j := by
    by_contra other
    exact rival ⟨j, cmd, acts, other⟩
  have before := h.prepared k
  cases tick with
  | readHeader | noCommand | readHandler | execute | clearHandler | postResponse | event | loop
  | wake | block | timeout | linklayerWake | linklayerBlock | linklayerCallback | update | appWake
  | appBlock | appHandled => exact before
  | enter j cmd point =>
    obtain rfl := own rfl
    rw [setCaller_self]
    exact ⟨Nat.zero_le _, rfl⟩
  | writeByte j _ cmd written byte point next =>
    obtain rfl := own rfl
    rw [point] at before
    rw [setCaller_self]
    obtain ⟨some, rfl⟩ := List.getElem?_eq_some_iff.mp next
    refine ⟨some, ?_⟩
    change load (store s.msgPayload written [_]) 0 (written + 1) = _
    rw [load_add, load_store_apart _ _ _ _ _ (by omega), before.2, Nat.zero_add,
      List.take_succ_eq_append_getElem some]
    congr 1
    exact load_store_same _ _ _
  | writeHeader j _ cmd written point all =>
    obtain rfl := own rfl
    rw [point] at before
    rw [setCaller_self]
    have done : written = cmd.payload.length :=
      Nat.le_antisymm before.1 (List.getElem?_eq_none_iff.mp all)
    refine ⟨?_, rfl⟩
    change load s.msgPayload 0 _ = _
    rw [← done, before.2, done, List.take_length]
  | readMsgHeader j _ cmd point =>
    obtain rfl := own rfl
    rw [point] at before
    rw [setCaller_self]
    exact before
  | storeHeader j _ cmd header point =>
    obtain rfl := own rfl
    rw [point] at before
    rw [setCaller_self]
    exact before
  | storeHandler j | postCommand j | respond j | await j =>
    obtain rfl := own rfl
    rw [setCaller_self]
    trivial

/-- A step in which no command moves on. -/
theorem view_eq (caller : ∀ k, callPoint (s'.caller k) = callPoint (s.caller k))
    (slot : stored s' = stored s) (asked : Asked s' ↔ Asked s)
    (server : serverPoint s'.bluetoothTask = serverPoint s.bluetoothTask)
    (answered : .rspWaiting ∈ s'.bluetoothEventFlags.flags ↔
      .rspWaiting ∈ s.bluetoothEventFlags.flags)
    (trace : s'.trace = s.trace) : view s' = view s := by
  apply State.ext
  · exact funext caller
  · exact slot
  · exact decide_eq_decide.mpr asked
  · exact server
  · rfl
  · exact decide_eq_decide.mpr answered
  · exact trace

theorem callPoint_update (k : Caller) (p : CallerPoint) (s : Sys) :
    (fun j => callPoint ((setCaller k p s).caller j)) =
      Function.update (fun j => callPoint (s.caller j)) k (callPoint p) := by
  funext j
  by_cases same : j = k
  · subst same
    rw [setCaller_self, Function.update_self]
  · rw [setCaller_other k p s same, Function.update_of_ne same]

/-- A caller goes on without any effect on the calls. -/
theorem callPoint_kept {k : Caller} {p : CallerPoint} (same : callPoint p = callPoint (s.caller k))
    (j : Caller) : callPoint ((setCaller k p s).caller j) = callPoint (s.caller j) := by
  by_cases own : j = k
  · subst own
    rw [setCaller_self, same]
  · rw [setCaller_other k p s own]

/-- Both the task and the callers leave `CMD_WAITING` alone. -/
theorem asked_group
    (group : .cmdWaiting ∈ s'.bluetoothEventFlags.flags ↔
      .cmdWaiting ∈ s.bluetoothEventFlags.flags)
    (flags : s'.flags = s.flags)
    (server : serverPoint s'.bluetoothTask = serverPoint s.bluetoothTask) : Asked s' ↔ Asked s := by
  unfold Asked
  rw [group, flags, server]

theorem Shared.execute_orderly (h : Shared s) (point : s.bluetoothTask = .execute) :
    Orderly (fun _ => ()) (view { s with
      trace := .executed ⟨s.header, s.cmdHandler, load s.msgPayload 0 (msgLen s.header)⟩ :: s.trace
      bluetoothTask := .clearHandler }) := by
  have idle : (view s).server = .idle := congrArg serverPoint point
  have taken := h.working (Or.inr point)
  have asked : Asked s := Or.inr ⟨taken, congrArg serverPoint point⟩
  have order : (⟨s.header, s.cmdHandler, load s.msgPayload 0 (msgLen s.header)⟩ : Order) =
      stored s := by
    obtain ⟨header, handler⟩ := h.readHandler point
    rw [header, handler]
    rfl
  have next := (h.orderly.step (.execute idle (decide_eq_true asked))).step (.respond rfl)
  convert next using 1
  apply State.ext
  · rfl
  · rfl
  · refine decide_eq_false ?_
    rintro (group | ⟨-, serving⟩)
    · exact h.once group taken
    · cases serving
  · rfl
  · rfl
  · rfl
  · exact congrArg (fun order => Happening.executed order :: s.trace) order

theorem Shared.postResponse_orderly (h : Shared s) (point : s.bluetoothTask = .postResponse) :
    Orderly (fun _ => ()) (view
      { post .rspWaiting s with flags := s.flags.erase .cmdWaiting, bluetoothTask := .events }) := by
  have answering : (view s).server = .answering := congrArg serverPoint point
  have next := h.orderly.step (.postAnswer answering)
  convert next using 1
  apply State.ext
  · rfl
  · rfl
  · refine decide_eq_decide.mpr (or_congr (mem_post_other _ (by decide)) (iff_of_false ?_ ?_))
    · exact fun inside => Finset.notMem_erase _ _ inside.1
    · rw [point]
      exact fun idle => nomatch idle.2
  · rfl
  · rfl
  · exact decide_eq_true (Finset.mem_union_right _ (Finset.mem_singleton_self _))
  · rfl

theorem Shared.wake_orderly (h : Shared s) {found : Finset Flag} {g : FlagGroup Waiter Flag}
    (got : Obtains (s.bluetoothTask = .pend) (s.bluetoothTask = .waiting) .bluetoothTask
      bluetoothTaskMask s.bluetoothEventFlags found g) :
    Orderly (fun _ => ()) (view (takeFlags found g s)) := by
  have idle : serverPoint s.bluetoothTask = .idle := by
    cases got with
    | atOnce point => rw [point]; rfl
    | readied point => rw [point]; rfl
  have held := got.found_subset (h.held .bluetoothTask)
  have same : view (takeFlags found g s) = view s := by
    refine view_eq (fun _ => rfl) rfl ?_ idle.symm
      (h.sound.disciplined.mem_obtained got (by decide : Flag.rspWaiting ∉ bluetoothTaskMask)) rfl
    change _ ∈ g.flags ∨ _ ∈ s.flags ∪ found ∧ serverPoint .top = .idle ↔ Asked s
    unfold Asked
    rw [got.flags, Finset.mem_sdiff, Finset.mem_union, idle]
    constructor
    · rintro (⟨group, -⟩ | ⟨here | inside, -⟩)
      · exact Or.inl group
      · exact Or.inr ⟨here, rfl⟩
      · exact Or.inl (held inside)
    · rintro (group | ⟨here, -⟩)
      · by_cases inside : Flag.cmdWaiting ∈ found
        · exact Or.inr ⟨Or.inr inside, rfl⟩
        · exact Or.inl ⟨group, inside⟩
      · exact Or.inr ⟨Or.inl here, rfl⟩
  rw [same]
  exact h.orderly

theorem Shared.respond_orderly (h : Shared s) {k : Caller} {found : Finset Flag}
    {g : FlagGroup Waiter Flag}
    (got : Obtains (s.caller k = .pend) (s.caller k = .waiting) (.response k) {.rspWaiting}
      s.bluetoothEventFlags found g) :
    Orderly (fun _ => ()) (view (setCaller k .outside
      { s with bluetoothEventFlags := g, trace := .returned k () :: s.trace })) := by
  have disciplined := h.sound.disciplined
  have caller : (view s).caller k = .asking := by
    cases got with
    | atOnce point => exact congrArg callPoint point
    | readied point => exact congrArg callPoint point
  have rsp : .rspWaiting ∈ found := by
    obtain ⟨inside, flag, mem⟩ := disciplined.found_spec got
    rwa [Finset.mem_singleton.mp (inside mem)] at mem
  have answered := got.found_subset (h.held (.response k)) rsp
  have next := (h.orderly.step (.release k caller (decide_eq_true answered))).step
    (.giveBack k (Function.update_self _ _ _))
  convert next using 1
  refine State.ext ?_ rfl ?_ rfl rfl ?_ rfl
  · exact (callPoint_update k .outside _).trans (Function.update_idem _ _ _).symm
  · exact decide_eq_decide.mpr (asked_group (disciplined.mem_obtained got
      (by decide : Flag.cmdWaiting ∉ {Flag.rspWaiting})) rfl rfl)
  · refine decide_eq_false ?_
    change _ ∉ g.flags
    rw [got.flags]
    exact fun left => (Finset.mem_sdiff.mp left).2 rsp

theorem Shared.tick_orderly (h : Shared s) {m : Move} (tick : Tick osTick s m s')
    (alone : Alone s m) : Orderly (fun _ => ()) (view s') := by
  have disciplined := h.sound.disciplined
  have quiet (same : view s' = view s) : Orderly (fun _ => ()) (view s') := same ▸ h.orderly
  cases tick with
  | execute _ _ point => exact h.execute_orderly point
  | postResponse _ _ point => exact h.postResponse_orderly point
  | wake _ _ got => exact h.wake_orderly got
  | respond k _ got => exact h.respond_orderly got
  | clearHandler _ _ point =>
    have answering : (view s).server = .answering := congrArg serverPoint point
    have next := h.orderly.step (.overwrite (stored { s with commandHandlerFunc := none }) answering)
    convert next using 1
    refine State.ext rfl rfl ?_ (congrArg serverPoint point).symm rfl rfl rfl
    exact decide_eq_decide.mpr (asked_group Iff.rfl rfl (congrArg serverPoint point).symm)
  | readHeader _ _ point | noCommand _ _ point | readHandler _ _ point =>
    have server := (congrArg serverPoint point).symm
    exact quiet (view_eq (fun _ => rfl) rfl (asked_group Iff.rfl rfl server) server Iff.rfl rfl)
  | event _ _ point =>
    have server := (congrArg serverPoint point).symm
    refine quiet (view_eq (fun _ => rfl) rfl ?_ server (mem_post_other _ (by decide)) rfl)
    refine or_congr (mem_post_other _ (by decide)) (and_congr ?_ (iff_of_eq ?_))
    · exact Finset.mem_erase.trans (and_iff_right (by decide))
    · exact congrArg (· = ServerPoint.idle) server
  | loop _ _ point timeout next free =>
    have server : serverPoint next = serverPoint s.bluetoothTask := by
      rcases free with rfl | rfl | rfl <;> rcases point with point | point <;> rw [point] <;> rfl
    exact quiet (view_eq (fun _ => rfl) rfl (asked_group Iff.rfl rfl server) server Iff.rfl rfl)
  | block _ _ point =>
    have server := (congrArg serverPoint point).symm
    exact quiet (view_eq (fun _ => rfl) rfl (asked_group Iff.rfl rfl server) server Iff.rfl rfl)
  | timeout point =>
    have server := (congrArg serverPoint point).symm
    exact quiet (view_eq (fun _ => rfl) rfl (asked_group Iff.rfl rfl server) server Iff.rfl rfl)
  | linklayerCallback | update | appHandled =>
    exact quiet (view_eq (fun _ => rfl) rfl (asked_group (mem_post_other _ (by decide)) rfl rfl) rfl
      (mem_post_other _ (by decide)) rfl)
  | linklayerWake got =>
    exact quiet (view_eq (fun _ => rfl) rfl (asked_group (disciplined.mem_obtained got
      (by decide : Flag.cmdWaiting ∉ {Flag.ll})) rfl rfl) rfl
      (disciplined.mem_obtained got (by decide : Flag.rspWaiting ∉ {Flag.ll})) rfl)
  | appWake got =>
    exact quiet (view_eq (fun _ => rfl) rfl (asked_group (disciplined.mem_obtained got
      (by decide : Flag.cmdWaiting ∉ {Flag.evtWaiting})) rfl rfl) rfl
      (disciplined.mem_obtained got (by decide : Flag.rspWaiting ∉ {Flag.evtWaiting})) rfl)
  | linklayerBlock | appBlock =>
    exact quiet (view_eq (fun _ => rfl) rfl Iff.rfl rfl Iff.rfl rfl)
  | enter k cmd point =>
    have outside (j : Caller) : (view s).caller j = .out := by
      by_cases own : j = k
      · exact own ▸ congrArg callPoint point
      · exact congrArg callPoint (alone point j own)
    have next := h.orderly.step (.enter k outside)
    convert next using 1
    exact State.ext (callPoint_update k _ _) rfl rfl rfl rfl rfl rfl
  | writeByte k _ cmd written byte point next =>
    have caller : (view s).caller k = .preparing := congrArg callPoint point
    have step := h.orderly.step (.write k
      (stored { s with msgPayload := store s.msgPayload written [byte] }) caller)
    convert step using 1
    exact State.ext (funext (callPoint_kept caller.symm)) rfl rfl rfl rfl rfl rfl
  | storeHeader k _ cmd header point =>
    have caller : (view s).caller k = .preparing := congrArg callPoint point
    have step := h.orderly.step (.write k (stored { s with commandHeader := header }) caller)
    convert step using 1
    exact State.ext (funext (callPoint_kept caller.symm)) rfl rfl rfl rfl rfl rfl
  | writeHeader k _ cmd written point | readMsgHeader k _ cmd point =>
    have same := (congrArg callPoint point).symm
    exact quiet (view_eq (callPoint_kept same) rfl Iff.rfl rfl Iff.rfl rfl)
  | await k _ point =>
    have same := (congrArg callPoint point).symm
    exact quiet (view_eq (callPoint_kept same) rfl Iff.rfl rfl Iff.rfl rfl)
  | storeHandler k _ cmd point =>
    have caller : (view s).caller k = .preparing := congrArg callPoint point
    have order : stored { s with commandHandlerFunc := some cmd.handler } = cmd.order := by
      have prepared := h.prepared k
      rw [point] at prepared
      obtain ⟨payload, header⟩ := prepared
      unfold stored GeckoCmd.order
      simp only [header, cmd.msgLen_header, payload]
    have step := h.orderly.step (.call k cmd.order caller)
    convert step using 1
    exact State.ext (callPoint_update k _ _) order rfl rfl rfl rfl rfl
  | postCommand k _ point =>
    have caller : (view s).caller k = .stored := congrArg callPoint point
    have next := h.orderly.step (.ask k caller)
    convert next using 1
    refine State.ext (callPoint_update k .pend _) rfl ?_ rfl rfl ?_ rfl
    · exact decide_eq_true (Or.inl (Finset.mem_union_right _ (Finset.mem_singleton_self _)))
    · exact decide_eq_decide.mpr (mem_post_other _ (by decide))

theorem Shared.tick (h : Shared s) {m : Move} (tick : Tick osTick s m s') (alone : Alone s m) :
    Shared s' where
  sound := h.sound.turn tick.turn tick.others
  held := h.tick_held tick alone
  once := h.tick_once tick
  working := h.tick_working tick
  readHeader := h.tick_readHeader tick
  readHandler := h.tick_readHandler tick
  prepared := h.tick_prepared tick alone
  orderly := h.tick_orderly tick alone

theorem shared_start : Shared start where
  sound :=
    { disciplined :=
        { pending := fun _ _ waits => nomatch waits
          ready := fun _ _ ready => nomatch ready }
      running := fun _ _ => rfl }
  held := fun _ _ ready => nomatch ready
  once := fun group => nomatch group
  working := fun point => by rcases point with point | point <;> cases point
  readHeader := fun point => nomatch point
  readHandler := fun point => nomatch point
  prepared := fun _ => trivial
  orderly := .idle _ _ .nil

/-- Whole calls, each executed once as its own caller stored it before it returns, and perhaps
the start of one more. -/
def ExecutedWhole (trace : List (Happening Caller Order Unit)) : Prop :=
  ∃ done, Complete (fun _ => ()) done ∧ (trace = done ∨ ∃ k order,
    trace = .called k order :: done ∨ trace = .executed order :: .called k order :: done)

theorem ExecutedWhole.called {trace : List (Happening Caller Order Unit)} (h : ExecutedWhole trace)
    {order : Order} (executed : .executed order ∈ trace) : ∃ k, .called k order ∈ trace := by
  obtain ⟨done, whole, rfl | ⟨k, order', rfl | rfl⟩⟩ := h
  · exact whole.called executed
  · obtain ⟨j, called⟩ := whole.called (by simpa using executed)
    exact ⟨j, List.mem_cons_of_mem _ called⟩
  · simp only [List.mem_cons, reduceCtorEq, false_or, Happening.executed.injEq] at executed
    obtain rfl | before := executed
    · exact ⟨k, by simp⟩
    · obtain ⟨j, called⟩ := whole.called before
      exact ⟨j, by simp [called]⟩

theorem commands_executed_whole (osTick : UInt32) {s : Sys}
    (run : RunOf (step osTick) Alone start s) : ExecutedWhole s.trace := by
  have shared : Shared s := run.preserves
    (fun _ _ _ next alone h => h.tick (step_tick next) alone) shared_start
  exact shared.orderly.history_shape

instance (s : Sys) (m : Move) : Decidable (Alone s m) := by
  unfold Alone
  split <;> infer_instance

/-- The image of a device whose every byte is zero, under `GREEN_POWER_PSSTORE_CONTEXT_KEY`. -/
def saveImage : GeckoCmd := geckoCmdFlashPsSave 0x4051 (List.replicate 32 0) (by decide)

def startAdvertising : GeckoCmd := geckoCmdLeGapStartAdvertising 0 2 2

def bluetoothTaskMoves (n : ℕ) : List Move :=
  List.replicate n (.bluetoothTask false 0xffffffff)

theorem save_executed_whole : ∃ s : Sys, ExecutedWhole s.trace ∧
    s.trace = [.returned .gpdTask (), .executed saveImage.order,
      .called .gpdTask saveImage.order] := by
  have seen : (follow (step 1) Alone start (List.replicate 42 (.caller .gpdTask saveImage) ++
      bluetoothTaskMoves 9 ++ [.caller .gpdTask saveImage])).map (fun s => s.trace) =
      some [.returned .gpdTask (), .executed saveImage.order, .called .gpdTask saveImage.order] := by
    decide +kernel
  obtain ⟨s, run, trace⟩ := Option.map_eq_some_iff.mp seen
  exact ⟨s, commands_executed_whole 1 (run_of_follow _ run), trace⟩

def preemptedSave : List Move :=
  [.bluetoothTask false 0xffffffff, .bluetoothTask true 0xffffffff, .bluetoothAppTask] ++
    List.replicate 39 (.caller .gpdTask saveImage) ++
    List.replicate 10 (.caller .bluetoothAppTask startAdvertising) ++
    [.caller .gpdTask saveImage] ++ bluetoothTaskMoves 5

/-- The flash handler runs on the header and the payload of the advertising command. -/
theorem mixed_command_executed :
    ¬ ∀ s : Sys, RunOf (step 1) (fun _ _ => True) start s → ExecutedWhole s.trace := by
  intro claimed
  have seen : (follow (step 1) (fun _ _ => True) start preemptedSave).map (fun s => s.trace) =
      some [.executed ⟨startAdvertising.header, some .flashPsSave, startAdvertising.payload⟩,
        .called .gpdTask saveImage.order,
        .called .bluetoothAppTask startAdvertising.order] := by
    decide +kernel
  obtain ⟨s, run, trace⟩ := Option.map_eq_some_iff.mp seen
  have whole := claimed s (run_of_follow _ run)
  obtain ⟨k, called⟩ := whole.called (trace ▸ List.mem_cons_self)
  rw [trace] at called
  revert called
  cases k <;> decide

end GreenPower.BgapiSharing
