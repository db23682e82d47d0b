import GreenPower.BluetoothEvents

set_option autoImplicit false

/-!
Every event of the Bluetooth stack is handled once and in order. `BluetoothTask` fills the slot only
while it holds `EVT_HANDLED`, so there is one permission to go round: with that task, in the group
as either flag, or with `bluetoothAppTask` while it handles the event.
-/
namespace GreenPower.BluetoothDelivery
open EventFlags FlagGroup Runs BgapiTasks BgapiSharing BluetoothEvents GpdTask

def handled (t : BgapiTasks.Sys) : ℕ :=
  (if .evtHandled ∈ t.flags then 1 else 0) +
    if .evtHandled ∈ t.bluetoothEventFlags.flags then 1 else 0

def waiting (t : BgapiTasks.Sys) : ℕ := if .evtWaiting ∈ t.bluetoothEventFlags.flags then 1 else 0

structure Grouped (t : BgapiTasks.Sys) : Prop where
  sound : Sound waiterMask (Waits t) t.bluetoothEventFlags
  task : Held .bluetoothTask t.bluetoothEventFlags
  app : Held .event t.bluetoothEventFlags

section
variable {osTick : UInt32} {t t' : BgapiTasks.Sys}

theorem Grouped.tick (h : Grouped t) {m : BgapiTasks.Move} (tick : Tick osTick t m t') :
    Grouped t' where
  sound := h.sound.turn tick.turn tick.others
  task := h.task.turn h.sound tick.turn (fun _ _ different =>
    waiterMask_apart different (Or.inl (fun _ same => nomatch same)))
  app := h.app.turn h.sound tick.turn (fun _ _ different =>
    waiterMask_apart different (Or.inl (fun _ same => nomatch same)))

theorem grouped_start : Grouped BgapiTasks.start where
  sound :=
    { disciplined :=
        { pending := fun _ _ waits => nomatch waits
          ready := fun _ _ ready => nomatch ready }
      running := fun _ _ => rfl }
  task := fun _ ready => nomatch ready
  app := fun _ ready => nomatch ready

structure Kept (t t' : BgapiTasks.Sys) : Prop where
  handled : handled t ≤ 1 → handled t' = handled t
  waiting : waiting t' = waiting t
  app : t'.bluetoothAppTask = .handle ↔ t.bluetoothAppTask = .handle

theorem kept_of_flags (group : ∀ flag, flag = .evtHandled ∨ flag = .evtWaiting →
      (flag ∈ t'.bluetoothEventFlags.flags ↔ flag ∈ t.bluetoothEventFlags.flags))
    (own : .evtHandled ∈ t'.flags ↔ .evtHandled ∈ t.flags)
    (app : t'.bluetoothAppTask = .handle ↔ t.bluetoothAppTask = .handle) : Kept t t' where
  handled := by
    intro _
    unfold BluetoothDelivery.handled
    simp only [group .evtHandled (Or.inl rfl), own]
  waiting := by
    unfold BluetoothDelivery.waiting
    simp only [group .evtWaiting (Or.inr rfl)]
  app := app

/-- What `BluetoothTask` gets from the group it has from then on. -/
theorem kept_wake (h : Grouped t) {found : Finset Flag} {g : FlagGroup Waiter Flag}
    (got : Obtains (t.bluetoothTask = .pend) (t.bluetoothTask = .waiting) .bluetoothTask
      bluetoothTaskMask t.bluetoothEventFlags found g) : Kept t (takeFlags found g t) where
  handled := by
    intro once
    have inside := got.found_subset h.task
    unfold BluetoothDelivery.handled at once ⊢
    change (if .evtHandled ∈ t.flags ∪ found then 1 else 0) +
      (if .evtHandled ∈ g.flags then 1 else 0) = _
    rw [got.flags]
    by_cases taken : .evtHandled ∈ found
    · have here := inside taken
      by_cases own : .evtHandled ∈ t.flags
      · simp [own, here] at once
      · simp [own, here, taken]
    · simp [taken]
  waiting := by
    have other : .evtWaiting ∉ bluetoothTaskMask := by decide
    have same := h.sound.disciplined.mem_obtained got other
    unfold BluetoothDelivery.waiting
    change (if .evtWaiting ∈ g.flags then 1 else 0) = _
    simp only [same]
  app := Iff.rfl

theorem kept_tick (h : Grouped t) {m : BgapiTasks.Move} (tick : Tick osTick t m t')
    (quiet : t.bluetoothTask = .events → ∀ pending ticks, m ≠ .bluetoothTask pending ticks)
    (own : m ≠ .bluetoothAppTask) : Kept t t' := by
  have posts {posted : Flag} (other : posted ≠ .evtHandled ∧ posted ≠ .evtWaiting) (flag : Flag)
      (event : flag = .evtHandled ∨ flag = .evtWaiting) :
      flag ∈ (t.bluetoothEventFlags.post {posted}).flags ↔ flag ∈ t.bluetoothEventFlags.flags := by
    apply mem_post_other
    rcases event with rfl | rfl
    · exact other.1.symm
    · exact other.2.symm
  cases tick with
  | readHeader | noCommand | readHandler | execute | clearHandler | loop | block | timeout
  | linklayerBlock | enter | writeByte | writeHeader | readMsgHeader | storeHeader | storeHandler
  | await => exact kept_of_flags (fun _ _ => Iff.rfl) Iff.rfl Iff.rfl
  | event pending ticks point => exact absurd rfl (quiet point pending ticks)
  | appWake | appBlock | appHandled => exact absurd rfl own
  | wake pending ticks got => exact kept_wake h got
  | postResponse =>
    refine kept_of_flags (posts (by decide)) ?_ Iff.rfl
    simp
  | linklayerCallback | update | postCommand =>
    exact kept_of_flags (posts (by decide)) Iff.rfl Iff.rfl
  | linklayerWake got =>
    refine kept_of_flags (fun flag event => h.sound.disciplined.mem_obtained got ?_) Iff.rfl Iff.rfl
    rcases event with rfl | rfl <;> decide
  | respond k cmd got =>
    refine kept_of_flags (fun flag event => h.sound.disciplined.mem_obtained got ?_) Iff.rfl Iff.rfl
    change flag ∉ ({.rspWaiting} : Finset Flag)
    rcases event with rfl | rfl <;> decide

end

/-- Where the event in the slot is, and what the application has done so far. -/
inductive Stage (s : BluetoothEvents.Sys) : Prop
  | idle (free : handled s.tasks = 1) (unposted : waiting s.tasks = 0)
      (out : s.tasks.bluetoothAppTask ≠ .handle) (calls : s.app.calls = reactions s.given)
      (bootToDfu : s.app.bootToDfu = bootToDfuAfter s.given)
  | posted (taken : handled s.tasks = 0) (posted : waiting s.tasks = 1)
      (out : s.tasks.bluetoothAppTask ≠ .handle) (older : List Evt)
      (given : s.given = s.bluetoothEvt :: older) (calls : s.app.calls = reactions older)
      (bootToDfu : s.app.bootToDfu = bootToDfuAfter older)
  | handling (taken : handled s.tasks = 0) (unposted : waiting s.tasks = 0)
      (point : s.tasks.bluetoothAppTask = .handle) (older : List Evt)
      (given : s.given = s.bluetoothEvt :: older) (since : reactions older <:+ s.app.calls)
      (rest : finish s.bluetoothEvt s.app = ⟨bootToDfuAfter s.given, reactions s.given, []⟩)

section
variable {osTick : UInt32} {s s' : BluetoothEvents.Sys} {t : BgapiTasks.Sys}

theorem Stage.kept (h : Stage s) (kept : Kept s.tasks t) : Stage { s with tasks := t } := by
  have out (point : s.tasks.bluetoothAppTask ≠ .handle) : t.bluetoothAppTask ≠ .handle :=
    fun now => point (kept.app.mp now)
  cases h with
  | idle free unposted point calls bootToDfu =>
    exact .idle ((kept.handled (le_of_eq free)).trans free) (kept.waiting.trans unposted) (out point)
      calls bootToDfu
  | posted taken posted point older given calls bootToDfu =>
    exact .posted ((kept.handled (by omega)).trans taken) (kept.waiting.trans posted) (out point)
      older given calls bootToDfu
  | handling taken unposted point older given since rest =>
    exact .handling ((kept.handled (by omega)).trans taken) (kept.waiting.trans unposted)
      (kept.app.mpr point) older given since rest

theorem Stage.perform (h : Stage s) {op : Op} {rest : List Op}
    (point : s.tasks.bluetoothAppTask = .handle) (todo : s.app.todo = op :: rest) :
    Stage { s with app := BluetoothEvents.perform s.bluetoothEvt op rest s.app } := by
  cases h with
  | idle _ _ out => exact absurd point out
  | posted _ _ out => exact absurd point out
  | handling taken unposted point older given since runs =>
    refine .handling taken unposted point older given ?_ ?_
    · exact since.trans (List.suffix_append (call s.bluetoothEvt op).toList _)
    · exact (finish_perform todo).trans runs

/-- `BluetoothTask` takes the next event. -/
theorem Stage.take (h : Stage s) (own : .evtHandled ∈ s.tasks.flags) (evt : Evt) :
    Stage { s with
      tasks :=
        { BgapiTasks.post .evtWaiting s.tasks with
          flags := s.tasks.flags.erase .evtHandled
          bluetoothTask := .sleep }
      bluetoothEvt := evt
      given := evt :: s.given } := by
  have some : 1 ≤ handled s.tasks := by
    unfold handled
    rw [if_pos own]
    omega
  cases h with
  | idle free unposted out calls bootToDfu =>
    have away : .evtHandled ∉ s.tasks.bluetoothEventFlags.flags := by
      intro here
      unfold handled at free
      rw [if_pos own, if_pos here] at free
      omega
    refine .posted ?_ ?_ out s.given rfl calls bootToDfu
    · simp [handled, BgapiTasks.post, away]
    · simp [waiting, BgapiTasks.post]
  | posted taken => omega
  | handling taken => omega

/-- `bluetoothAppTask` is woken and has the event to handle. -/
theorem Stage.notice (h : Stage s) (grouped : Grouped s.tasks) {found : Finset Flag}
    {g : FlagGroup Waiter Flag} {pends waits : Prop}
    (got : Obtains pends waits .event {.evtWaiting} s.tasks.bluetoothEventFlags found g) :
    Stage { s with
      tasks := { s.tasks with bluetoothEventFlags := g, bluetoothAppTask := .handle }
      app.todo := [.switch] } := by
  obtain ⟨own, some⟩ := grouped.sound.disciplined.found_spec (t := .event) got
  have inside := got.found_subset grouped.app
  have all : found = {.evtWaiting} := (Finset.subset_singleton_iff.mp own).resolve_left some.ne_empty
  have here : .evtWaiting ∈ s.tasks.bluetoothEventFlags.flags := by
    rw [all] at inside
    exact inside (Finset.mem_singleton_self _)
  have posted : waiting s.tasks = 1 := if_pos here
  cases h with
  | idle _ unposted => omega
  | posted taken _ out older given calls bootToDfu =>
    refine .handling ?_ ?_ rfl older given (calls ▸ List.suffix_rfl) ?_
    · have away : .evtHandled ∉ s.tasks.flags ∧ .evtHandled ∉ s.tasks.bluetoothEventFlags.flags := by
        unfold handled at taken
        constructor <;> intro here <;> simp [here] at taken
      simp [handled, got.flags, all, away]
    · simp [waiting, got.flags, all]
    · change finish s.bluetoothEvt ⟨s.app.bootToDfu, s.app.calls, [.switch]⟩ = _
      rw [finish_switch, given, calls, bootToDfu, Bool.or_comm]
      rfl
  | handling _ unposted => omega

/-- The handler is done. -/
theorem Stage.done (h : Stage s) (point : s.tasks.bluetoothAppTask = .handle)
    (todo : s.app.todo = []) :
    Stage { s with
      tasks := { BgapiTasks.post .evtHandled s.tasks with bluetoothAppTask := .pend } } := by
  cases h with
  | idle _ _ out => exact absurd point out
  | posted _ _ out => exact absurd point out
  | handling taken unposted _ older given since rest =>
    have ended : s.app = ⟨bootToDfuAfter s.given, reactions s.given, []⟩ := by
      rw [← rest]
      cases app : s.app with
      | mk bootToDfu calls todo' =>
        rw [app] at todo
        obtain rfl : todo' = [] := todo
        exact (finish_nil s.bluetoothEvt bootToDfu calls).symm
    have away : .evtHandled ∉ s.tasks.flags := by
      intro here
      simp [handled, here] at taken
    refine .idle ?_ ?_ (by simp) (congrArg App.calls ended) (congrArg App.bootToDfu ended)
    · simp [handled, BgapiTasks.post, away]
    · exact unposted ▸ by simp [waiting, BgapiTasks.post]

theorem stage_bluetoothTask (grouped : Grouped s.tasks) (h : Stage s) {pending : Bool}
    {ticks : UInt32} (evt : Evt) (made : bluetoothTaskStep osTick pending ticks s.tasks = some t) :
    Stage (if Takes pending s.tasks then
        { s with tasks := t, bluetoothEvt := evt, given := evt :: s.given }
      else { s with tasks := t }) := by
  by_cases takes : Takes pending s.tasks
  · obtain ⟨point, some, own⟩ := takes
    have turn : t = { BgapiTasks.post .evtWaiting s.tasks with
        flags := s.tasks.flags.erase .evtHandled, bluetoothTask := .sleep } := by
      unfold bluetoothTaskStep at made
      simp only [point, some, own, and_self, if_true] at made
      exact (Option.some.inj made).symm
    rw [if_pos ⟨point, some, own⟩, turn]
    exact h.take own evt
  · rw [if_neg takes]
    apply h.kept
    by_cases point : s.tasks.bluetoothTask = .events
    · have none : ¬(pending = true ∧ .evtHandled ∈ s.tasks.flags) := fun both => takes ⟨point, both⟩
      unfold bluetoothTaskStep at made
      simp only [point, if_neg none] at made
      rw [← Option.some.inj made]
      exact kept_of_flags (fun _ _ => Iff.rfl) Iff.rfl Iff.rfl
    · exact kept_tick grouped (bluetoothTaskStep_tick made) (fun here => absurd here point)
        (fun same => nomatch same)

theorem stage_bluetoothApp (grouped : Grouped s.tasks) (h : Stage s)
    (out : s.tasks.bluetoothAppTask ≠ .handle)
    (made : bluetoothAppStep s.tasks = some t) :
    Stage (if t.bluetoothAppTask = .handle then { s with tasks := t, app.todo := [.switch] }
      else { s with tasks := t }) := by
  have tick : Tick 1 s.tasks .bluetoothAppTask t := bluetoothAppStep_tick made
  cases tick with
  | appWake got =>
    rw [if_pos rfl]
    exact h.notice grouped got
  | appBlock apart =>
    rw [if_neg (fun same => nomatch same)]
    refine h.kept (kept_of_flags (fun _ _ => Iff.rfl) Iff.rfl ?_)
    constructor
    · intro same
      cases same
    · exact fun same => absurd same out
  | appHandled point => exact absurd point out

theorem handlerStep_spec (point : s.tasks.bluetoothAppTask = .handle)
    (made : handlerStep s = some s') :
    (s.app.todo = [] ∧ s' = { s with
      tasks := { BgapiTasks.post .evtHandled s.tasks with bluetoothAppTask := .pend } }) ∨
    ∃ op rest, s.app.todo = op :: rest ∧ ∃ t, (t = s.tasks ∨
        ∃ cmd, callerStep .bluetoothAppTask cmd s.tasks = some t) ∧
      s' = { s with tasks := t, app := perform s.bluetoothEvt op rest s.app } := by
  unfold handlerStep at made
  split_ifs at made with out
  cases todo : s.app.todo with
  | nil =>
    simp only [todo, bluetoothAppStep, point, out, if_true, Option.map_some] at made
    exact Or.inl ⟨rfl, (Option.some.inj made).symm⟩
  | cons op rest =>
    simp only [todo] at made
    refine Or.inr ⟨op, rest, rfl, ?_⟩
    split at made
    · rename_i cmd _
      obtain ⟨t, entered, same⟩ := Option.map_eq_some_iff.mp made
      exact ⟨t, Or.inr ⟨cmd, entered⟩, same.symm⟩
    · exact ⟨s.tasks, Or.inl rfl, (Option.some.inj made).symm⟩

theorem stage_handler (grouped : Grouped s.tasks) (h : Stage s)
    (point : s.tasks.bluetoothAppTask = .handle) (made : handlerStep s = some s') :
    Grouped s'.tasks ∧ Stage s' := by
  rcases handlerStep_spec point made with ⟨todo, rfl⟩ | ⟨op, rest, todo, t, entered, rfl⟩
  · have tick : Tick 1 s.tasks .bluetoothAppTask
        { BgapiTasks.post .evtHandled s.tasks with bluetoothAppTask := .pend } := .appHandled point
    exact ⟨grouped.tick tick, h.done point todo⟩
  · have performed := h.perform point todo
    rcases entered with rfl | ⟨cmd, entered⟩
    · exact ⟨grouped, performed⟩
    · have tick : Tick 1 s.tasks (.caller .bluetoothAppTask cmd) t := callerStep_tick entered
      have kept := kept_tick grouped tick (fun _ _ _ same => nomatch same) (fun same => nomatch same)
      exact ⟨grouped.tick tick, performed.kept kept⟩

theorem stage_step (grouped : Grouped s.tasks) (h : Stage s) {m : BluetoothEvents.Move}
    (next : BluetoothEvents.step osTick s m = some s') : Grouped s'.tasks ∧ Stage s' := by
  cases m with
  | bluetoothTask pending ticks evt =>
    obtain ⟨t, made, rfl⟩ := Option.map_eq_some_iff.mp next
    refine ⟨?_, stage_bluetoothTask grouped h evt made⟩
    split_ifs
    · exact grouped.tick (bluetoothTaskStep_tick made)
    · exact grouped.tick (bluetoothTaskStep_tick made)
  | bluetoothAppTask =>
    simp only [BluetoothEvents.step] at next
    split_ifs at next with point
    · exact stage_handler grouped h point next
    · obtain ⟨t, made, rfl⟩ := Option.map_eq_some_iff.mp next
      have tick : Tick osTick s.tasks .bluetoothAppTask t := bluetoothAppStep_tick made
      refine ⟨?_, stage_bluetoothApp grouped h point made⟩
      split_ifs
      · exact grouped.tick tick
      · exact grouped.tick tick
  | other m =>
    simp only [BluetoothEvents.step] at next
    split_ifs at next with other
    obtain ⟨t, made, rfl⟩ := Option.map_eq_some_iff.mp next
    have tick := step_tick made
    refine ⟨grouped.tick tick, h.kept (kept_tick grouped tick ?_ ?_)⟩
    · rintro _ pending ticks rfl
      exact other
    · rintro rfl
      exact other

end

theorem run_stage {osTick : UInt32} {s : BluetoothEvents.Sys}
    (run : RunOf (BluetoothEvents.step osTick) (fun _ _ => True) BluetoothEvents.start s) :
    Stage s := by
  have begin : Grouped BluetoothEvents.start.tasks ∧ Stage BluetoothEvents.start :=
    ⟨grouped_start, .idle (by decide) (by decide) (by decide) rfl rfl⟩
  exact (run.preserves (I := fun s => Grouped s.tasks ∧ Stage s)
    (fun _ _ _ next _ h => stage_step h.1 h.2 next) begin).2

/-- `EVT_HANDLED` is set: in the event flags, or in the flags `BluetoothTask` has taken from there. -/
def AllHandled (s : BluetoothEvents.Sys) : Prop :=
  .evtHandled ∈ s.tasks.flags ∨ .evtHandled ∈ s.tasks.bluetoothEventFlags.flags

theorem reactions_tail (given : List Evt) : reactions given.tail <:+ reactions given := by
  cases given with
  | nil => exact List.suffix_rfl
  | cons evt older => exact List.suffix_append _ _

section
variable {s : BluetoothEvents.Sys}

theorem Stage.older_done (h : Stage s) : reactions s.given.tail <:+ s.app.calls := by
  cases h with
  | idle _ _ _ calls =>
    rw [calls]
    exact reactions_tail s.given
  | posted _ _ _ older given calls =>
    rw [given, calls]
    exact List.suffix_rfl
  | handling _ _ _ older given since =>
    rw [given]
    exact since

theorem Stage.only_reactions (h : Stage s) : s.app.calls <:+ reactions s.given := by
  cases h with
  | idle _ _ _ calls =>
    rw [calls]
  | posted _ _ _ older given calls =>
    rw [given, calls]
    exact reactions_tail (s.bluetoothEvt :: older)
  | handling _ _ _ _ _ _ rest =>
    have part := finish_calls s.bluetoothEvt s.app
    rw [rest] at part
    exact part

theorem Stage.all_done (h : Stage s) (here : AllHandled s) :
    s.app.calls = reactions s.given := by
  have some : handled s.tasks ≠ 0 := by
    unfold handled
    rcases here with own | group
    · rw [if_pos own]
      omega
    · rw [if_pos group]
      omega
  cases h with
  | idle _ _ _ calls => exact calls
  | posted taken => exact absurd taken some
  | handling taken => exact absurd taken some

theorem Stage.slot (h : Stage s) (point : s.tasks.bluetoothAppTask = .handle) :
    s.given.head? = some s.bluetoothEvt := by
  cases h with
  | idle _ _ out => exact absurd point out
  | posted _ _ out => exact absurd point out
  | handling _ _ _ older given =>
    rw [given]
    rfl

end

def bluetoothTaskMoves (evt : Evt) (n : ℕ) : List BluetoothEvents.Move :=
  List.replicate n (.bluetoothTask true 0xffffffff evt)

/-- `bluetoothAppTask` as far as its next command, which then is served. -/
def appMoves (evt : Evt) (own bytes : ℕ) : List BluetoothEvents.Move :=
  let inside : BluetoothEvents.Move :=
    .other (.caller .bluetoothAppTask BgapiSharing.startAdvertising)
  List.replicate own .bluetoothAppTask ++ List.replicate (bytes + 6) inside ++
    bluetoothTaskMoves evt 8 ++ [inside]

def toggleWrite : Evt := ⟨0x020a08a0, 1, gattdbGpdToggle⟩
def otaControlWrite : Evt := ⟨0x020a08a0, 1, gattdbOtaControl⟩
def connectionClosed : Evt := ⟨0x010803a0, 1, 0⟩

def upgrade : List BluetoothEvents.Move :=
  bluetoothTaskMoves toggleWrite 2 ++ appMoves toggleWrite 7 4 ++
    List.replicate 2 .bluetoothAppTask ++ bluetoothTaskMoves otaControlWrite 4 ++
    appMoves otaControlWrite 8 4 ++ appMoves otaControlWrite 1 1 ++
    List.replicate 2 .bluetoothAppTask ++ bluetoothTaskMoves connectionClosed 4 ++
    List.replicate 4 .bluetoothAppTask

def upgradeCalls : List Call :=
  [.gecko (geckoCmdSystemReset 2), .gecko (geckoCmdLeConnectionClose 1), response otaControlWrite,
    response toggleWrite, .gpd .send]

theorem upgrade_run : ∃ s : BluetoothEvents.Sys,
    RunOf (BluetoothEvents.step 1) (fun _ _ => True) BluetoothEvents.start s ∧
      s.given = [connectionClosed, otaControlWrite, toggleWrite] ∧ s.app.calls = upgradeCalls := by
  have seen : (follow (BluetoothEvents.step 1) (fun _ _ => True) BluetoothEvents.start
      upgrade).map (fun s => (s.given, s.app.calls)) =
      some ([connectionClosed, otaControlWrite, toggleWrite], upgradeCalls) := by
    decide +kernel
  obtain ⟨s, run, same⟩ := Option.map_eq_some_iff.mp seen
  exact ⟨s, run_of_follow _ run, congrArg Prod.fst same, congrArg Prod.snd same⟩

/-- The calls made are those of the events before the last one and the first of the last one's. -/
theorem events_reacted_once (osTick : UInt32) {s : BluetoothEvents.Sys}
    (run : RunOf (BluetoothEvents.step osTick) (fun _ _ => True) BluetoothEvents.start s) :
    reactions s.given.tail <:+ s.app.calls ∧ s.app.calls <:+ reactions s.given ∧
      (AllHandled s → s.app.calls = reactions s.given) ∧
      (s.tasks.bluetoothAppTask = .handle → s.given.head? = some s.bluetoothEvt) :=
  have stage := run_stage run
  ⟨stage.older_done, stage.only_reactions, stage.all_done, stage.slot⟩

theorem upgrade_reacted_once : ∃ s : BluetoothEvents.Sys, s.app.calls = upgradeCalls ∧
    reactions s.given.tail <:+ s.app.calls ∧ s.app.calls <:+ reactions s.given := by
  obtain ⟨s, run, -, calls⟩ := upgrade_run
  have reacted := events_reacted_once 1 run
  exact ⟨s, calls, reacted.1, reacted.2.1⟩

def gattdbOf : CmdId → UInt16
  | .commission => gattdbGpdCommissioning
  | .send => gattdbGpdToggle
  | .decommission => gattdbGpdDecommissioning

def asks (id : CmdId) (evt : Evt) : Bool :=
  msgId evt.header = geckoEvtGattServerUserWriteRequestId ∧ evt.characteristic = gattdbOf id

theorem writtenReaction_count {id : CmdId} (given : id ≠ .decommission) (evt : Evt) :
    (writtenReaction evt).count (.gpd id) = if evt.characteristic = gattdbOf id then 1 else 0 := by
  unfold writtenReaction
  split_ifs with commissioning asked decommissioning asked toggle asked ota asked asked
  all_goals
    cases id <;> simp_all [gattdbOf, response, gattdbGpdCommissioning, gattdbGpdDecommissioning,
      gattdbGpdToggle, gattdbOtaControl]

theorem reaction_count {id : CmdId} (given : id ≠ .decommission) (evt : Evt) (bootToDfu : Bool) :
    (reaction evt bootToDfu).count (.gpd id) = if asks id evt then 1 else 0 := by
  have other {header : UInt32} (same : msgId evt.header = header)
      (different : header ≠ geckoEvtGattServerUserWriteRequestId) : asks id evt = false := by
    unfold asks
    exact decide_eq_false (fun both => different (same.symm.trans both.1))
  unfold reaction
  by_cases boot : msgId evt.header = geckoEvtSystemBootId
  · rw [if_pos boot, other boot (by decide)]
    rfl
  by_cases closed : msgId evt.header = geckoEvtLeConnectionClosedId
  · rw [if_neg boot, if_pos closed, other closed (by decide)]
    rfl
  by_cases write : msgId evt.header = geckoEvtGattServerUserWriteRequestId
  · rw [if_neg boot, if_neg closed, if_pos write, writtenReaction_count given]
    simp [asks, write]
  · rw [if_neg boot, if_neg closed, if_neg write, other rfl write]
    rfl

theorem reactions_count {id : CmdId} (given : id ≠ .decommission) (evts : List Evt) :
    (reactions evts).count (.gpd id) = evts.countP (asks id) := by
  induction evts with
  | nil => rfl
  | cons evt older ih =>
    rw [reactions, List.count_append, reaction_count given, ih, List.countP_cons, Nat.add_comm]

/-- No event makes the application give `gpd_cmd_decommission`. -/
theorem decommission_reaction (evt : Evt) (bootToDfu : Bool) :
    .gpd .decommission ∉ reaction evt bootToDfu := by
  unfold reaction writtenReaction
  split_ifs <;> simp [response]

theorem decommission_reactions (evts : List Evt) : .gpd .decommission ∉ reactions evts := by
  induction evts with
  | nil => exact List.not_mem_nil
  | cons evt older ih =>
    rw [reactions, List.mem_append, not_or]
    exact ⟨decommission_reaction evt _, ih⟩

theorem decommission_answered {evt : Evt} (asked : asks .decommission evt = true)
    (bootToDfu : Bool) : response evt ∈ reaction evt bootToDfu := by
  obtain ⟨write, written⟩ := of_decide_eq_true asked
  have other : gattdbGpdDecommissioning ≠ gattdbGpdCommissioning := by decide
  have boot : geckoEvtGattServerUserWriteRequestId ≠ geckoEvtSystemBootId := by decide
  have closed : geckoEvtGattServerUserWriteRequestId ≠ geckoEvtLeConnectionClosedId := by decide
  unfold reaction writtenReaction
  rw [write, if_neg boot, if_neg closed, if_pos rfl, written]
  change response evt ∈ if gattdbGpdDecommissioning = gattdbGpdCommissioning then _ else _
  rw [if_neg other]
  exact List.mem_singleton_self _

theorem reactions_answer {evts : List Evt} {evt : Evt} (given : evt ∈ evts)
    (asked : asks .decommission evt = true) : response evt ∈ reactions evts := by
  induction evts with
  | nil => cases given
  | cons evt' older ih =>
    rw [reactions, List.mem_append]
    rcases List.mem_cons.mp given with rfl | earlier
    · exact Or.inl (decommission_answered asked _)
    · exact Or.inr (ih earlier)

/-- Commissioning and toggle commands are neither lost nor given twice on their way from the client
to `GpdTask`. A decommissioning write is answered with success and gives no command. -/
theorem commands_counted (osTick : UInt32) {s : BluetoothEvents.Sys}
    (run : RunOf (BluetoothEvents.step osTick) (fun _ _ => True) BluetoothEvents.start s) :
    (∀ id, id ≠ .decommission →
      s.given.tail.countP (asks id) ≤ s.app.calls.count (.gpd id) ∧
      s.app.calls.count (.gpd id) ≤ s.given.countP (asks id) ∧
      (AllHandled s → s.app.calls.count (.gpd id) = s.given.countP (asks id))) ∧
    .gpd .decommission ∉ s.app.calls ∧
    ∀ evt ∈ s.given.tail, asks .decommission evt → response evt ∈ s.app.calls := by
  have stage := run_stage run
  refine ⟨fun id given => ⟨?_, ?_, fun here => ?_⟩, ?_, ?_⟩
  · rw [← reactions_count given]
    exact stage.older_done.sublist.count_le _
  · rw [← reactions_count given]
    exact stage.only_reactions.sublist.count_le _
  · rw [stage.all_done here, reactions_count given]
  · exact fun called => decommission_reactions s.given (stage.only_reactions.subset called)
  · exact fun evt given asked => stage.older_done.subset (reactions_answer given asked)

theorem upgrade_commands_counted : ∃ s : BluetoothEvents.Sys, s.app.calls = upgradeCalls ∧
    s.app.calls.count (.gpd .send) ≤ s.given.countP (asks .send) ∧
    .gpd .decommission ∉ s.app.calls := by
  obtain ⟨s, run, -, calls⟩ := upgrade_run
  have counted := commands_counted 1 run
  exact ⟨s, calls, (counted.1 .send (by decide)).2.1, counted.2.1⟩

def systemReset : Call := .gecko (geckoCmdSystemReset 2)

/-- A connection was closed after a write of the OTA control characteristic. -/
def DfuDue (given : List Evt) : Prop :=
  ∃ newer closed older, given = newer ++ closed :: older ∧
    msgId closed.header = geckoEvtLeConnectionClosedId ∧ bootToDfuAfter older = true

theorem systemReset_reaction (evt : Evt) (bootToDfu : Bool) :
    systemReset ∈ reaction evt bootToDfu ↔
      msgId evt.header = geckoEvtLeConnectionClosedId ∧ bootToDfu = true := by
  have different {cmd : GeckoCmd} (other : cmd.id ≠ 0x01010020) : systemReset ≠ .gecko cmd :=
    fun same => other (congrArg GeckoCmd.id (Call.gecko.inj same)).symm
  have command (id : CmdId) : systemReset ≠ .gpd id := nofun
  have advertising : systemReset ≠ .gecko (geckoCmdLeGapStartAdvertising 0 2 2) :=
    different (by decide)
  have timing : systemReset ≠ .gecko (geckoCmdLeGapSetAdvertiseTiming 0 1600 1600 0 0) :=
    different (by decide)
  have closing : systemReset ≠ .gecko (geckoCmdLeConnectionClose evt.connection) :=
    different (by simp [geckoCmdLeConnectionClose])
  have answer : systemReset ≠ response evt :=
    different (by simp [geckoCmdGattServerSendUserWriteResponse])
  unfold reaction
  by_cases boot : msgId evt.header = geckoEvtSystemBootId
  · have not : msgId evt.header ≠ geckoEvtLeConnectionClosedId := by
      rw [boot]
      decide
    rw [if_pos boot]
    simp [advertising, timing, not]
  by_cases closed : msgId evt.header = geckoEvtLeConnectionClosedId
  · rw [if_neg boot, if_pos closed]
    cases bootToDfu with
    | true => simp [closed, systemReset]
    | false => simp [closed, advertising]
  rw [if_neg boot, if_neg closed]
  unfold writtenReaction
  split_ifs <;> simp [closed, answer, closing, command]

theorem dfuDue_cons (evt : Evt) (older : List Evt) : DfuDue (evt :: older) ↔
    (msgId evt.header = geckoEvtLeConnectionClosedId ∧ bootToDfuAfter older = true) ∨
      DfuDue older := by
  constructor
  · rintro ⟨newer, closed, before, same, is, written⟩
    cases newer with
    | nil =>
      obtain ⟨rfl, rfl⟩ := List.cons.inj same
      exact Or.inl ⟨is, written⟩
    | cons _ newer =>
      exact Or.inr ⟨newer, closed, before, (List.cons.inj same).2, is, written⟩
  · rintro (⟨is, written⟩ | ⟨newer, closed, before, rfl, is, written⟩)
    · exact ⟨[], evt, older, rfl, is, written⟩
    · exact ⟨evt :: newer, closed, before, rfl, is, written⟩

theorem systemReset_reactions (given : List Evt) : systemReset ∈ reactions given ↔ DfuDue given := by
  induction given with
  | nil =>
    constructor
    · exact fun here => absurd here List.not_mem_nil
    · rintro ⟨newer, _, _, same, _⟩
      cases newer <;> cases same
  | cons evt older ih =>
    rw [reactions, List.mem_append, systemReset_reaction, ih, dfuDue_cons]

/-- The device goes to the bootloader for a client that wrote the OTA control, and then it does. -/
theorem reset_for_upgrade (osTick : UInt32) {s : BluetoothEvents.Sys}
    (run : RunOf (BluetoothEvents.step osTick) (fun _ _ => True) BluetoothEvents.start s) :
    (systemReset ∈ s.app.calls → DfuDue s.given) ∧
      (AllHandled s → DfuDue s.given → systemReset ∈ s.app.calls) := by
  have stage := run_stage run
  constructor
  · exact fun called => (systemReset_reactions s.given).mp (stage.only_reactions.subset called)
  · intro here due
    rw [stage.all_done here]
    exact (systemReset_reactions s.given).mpr due

theorem upgrade_reset : ∃ s : BluetoothEvents.Sys,
    s.given = [connectionClosed, otaControlWrite, toggleWrite] ∧ DfuDue s.given := by
  obtain ⟨s, run, given, calls⟩ := upgrade_run
  exact ⟨s, given, (reset_for_upgrade 1 run).1 (calls ▸ List.mem_cons_self)⟩

end GreenPower.BluetoothDelivery
