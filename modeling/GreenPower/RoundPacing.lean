import GreenPower.AesCipher
import GreenPower.DeviceSteps
import GreenPower.TaskSteps

set_option autoImplicit false

/-!
What makes `GpdTask` go through the branch under `GPD_EVENT_FLAG_STACK` once more.
-/
namespace GreenPower.RoundPacing
open BuildOptions DeviceState NonVolatile IncomingMessage GpdTask EventFlags FlagGroup TaskSystem
  TaskSteps EventLog IncomingCommand

section
variable {κ : Type}

def IsRound : TaskEvent κ → Prop
  | .round _ => True
  | _ => False

instance : DecidablePred (IsRound (κ := κ))
  | .round _ => inferInstanceAs (Decidable True)
  | .called _ _ | .executed _ | .returned _ _ | .woken _ | .expired | .announced | .noticed
  | .handled _ | .answered | .received | .device _ => inferInstanceAs (Decidable False)

def IsCause : TaskEvent κ → Prop
  | .executed _ => True
  | .expired => True
  | .device (.setState _) => True
  | _ => False

def rounds (trace : List (TaskEvent κ)) : ℕ := trace.countP (fun e => IsRound e)

/-- `GpdTask`, which keeps `STACK` among its own flags, is about to be given `EVT_HANDLED` and
nothing else. -/
def OnlyHandled (s : Sys κ) : Prop :=
  .stack ∈ s.flags ∧
    (s.gpdTask = .pend ∧ s.gpdEventFlags.flags ∩ gpdTaskMask = {.evtHandled} ∨
      s.gpdTask = .waiting ∧ s.gpdEventFlags.wait .gpdTask = .ready {.evtHandled})

/-- A round is about to begin that does not call `GpdUpdate` itself while an earlier call of
it has yet to be taken up. -/
def UpdateLeft (s : Sys κ) : Prop :=
  s.gpdTask = .update ∧ .stack ∈ s.flags ∧ .stack ∈ s.gpdEventFlags.flags ∧
    s.device.gpdNode.gpdState ≠ appStateCommissioningSuccessRequest ∧
    s.device.gpdNode.gpdState ≠ appStateOperationalCommandRequest

def Paced (s : Sys κ) : Move κ → Prop
  | .gpdTask _ => ¬ OnlyHandled s ∧ ¬ UpdateLeft s
  | _ => True

instance (s : Sys κ) [DecidableEq κ] : Decidable (OnlyHandled s) := by
  unfold OnlyHandled
  infer_instance

instance (s : Sys κ) : Decidable (UpdateLeft s) := by
  unfold UpdateLeft
  infer_instance

instance (s : Sys κ) [DecidableEq κ] (m : Move κ) : Decidable (Paced s m) :=
  match m with
  | .gpdTask _ => inferInstanceAs (Decidable (¬ OnlyHandled s ∧ ¬ UpdateLeft s))
  | .timeout | .gpdLinklayerTask | .packet _ | .gpdAppTask | .client _ _ =>
    inferInstanceAs (Decidable True)

def isCause : TaskEvent κ → Bool
  | .executed _ => true
  | .expired => true
  | .device (.setState _) => true
  | _ => false

theorem isCause_iff (e : TaskEvent κ) : isCause e = true ↔ IsCause e := by
  unfold isCause IsCause
  split <;> simp

instance : DecidablePred (IsCause (κ := κ)) := fun e => decidable_of_iff _ (isCause_iff e)

def HasRound (trace : List (TaskEvent κ)) : Prop := ∃ e ∈ trace, IsRound e

abbrev Called (trace : List (TaskEvent κ)) : Prop := Due IsRound IsCause trace

/-- Where `GpdTask` is on its way to a round, there is a cause for it. -/
def Owed (s : Sys κ) : Prop :=
  match s.gpdTask with
  | .top => .cmdWaiting ∈ s.flags ∨ Called s.trace
  | .respond => Called s.trace
  | .postResponse => Called s.trace
  | .update => Called s.trace
  | .store => True
  | .postEvent => True
  | .pend => True
  | .waiting => True

variable {s s' : Sys κ}

structure Accounted (s : Sys κ) : Prop where
  flags : FlagsSound s
  separated : Separated IsRound IsCause s.trace
  kept : HasRound s.trace → .stack ∈ s.flags
  group : HasRound s.trace → .stack ∈ s.gpdEventFlags.flags → Called s.trace
  owed : HasRound s.trace → Owed s

theorem hasRound_append {new trace : List (TaskEvent κ)} (quiet : ∀ e ∈ new, ¬ IsRound e) :
    HasRound (new ++ trace) ↔ HasRound trace := by
  constructor
  · rintro ⟨e, he, round⟩
    rcases List.mem_append.mp he with new | old
    · exact absurd round (quiet e new)
    · exact ⟨e, old, round⟩
  · rintro ⟨e, he, round⟩
    exact ⟨e, List.mem_append_right _ he, round⟩

/-- A step that is no round. -/
theorem Accounted.quiet (h : Accounted s) (new : List (TaskEvent κ)) (flags : FlagsSound s')
    (trace : s'.trace = new ++ s.trace) (quiet : ∀ e ∈ new, ¬ IsRound e)
    (kept : .stack ∈ s.flags → .stack ∈ s'.flags)
    (group : .stack ∈ s'.gpdEventFlags.flags →
      .stack ∈ s.gpdEventFlags.flags ∨ ∃ e ∈ new, IsCause e)
    (owed : (.stack ∈ s.gpdEventFlags.flags → Called s.trace) → .stack ∈ s.flags → Owed s →
      Owed s') : Accounted s' := by
  have before (later : HasRound s'.trace) : HasRound s.trace :=
    (hasRound_append quiet).mp (trace ▸ later)
  refine ⟨flags, ?_, ?_, ?_, ?_⟩
  · rw [trace]
    exact h.separated.append quiet
  · exact fun later => kept (h.kept (before later))
  · intro later set
    rw [trace]
    rcases group set with set | causes
    · exact (h.group (before later) set).append quiet
    · exact due_append quiet s.trace causes
  · intro later
    exact owed (h.group (before later)) (h.kept (before later)) (h.owed (before later))

/-- A task other than `GpdTask` moved. -/
theorem Accounted.elsewhere (h : Accounted s) (new : List (TaskEvent κ)) (flags : FlagsSound s')
    (trace : s'.trace = new ++ s.trace) (quiet : ∀ e ∈ new, ¬ IsRound e)
    (group : .stack ∈ s'.gpdEventFlags.flags →
      .stack ∈ s.gpdEventFlags.flags ∨ ∃ e ∈ new, IsCause e)
    (point : s'.gpdTask = s.gpdTask) (same : s'.flags = s.flags) : Accounted s' := by
  refine h.quiet new flags trace quiet (fun set => same ▸ set) group ?_
  intro _ _ owed
  unfold Owed at owed ⊢
  rw [point, same, trace]
  cases task : s.gpdTask with
  | top =>
    simp only [task] at owed ⊢
    exact owed.imp_right (fun due => due.append quiet)
  | respond | postResponse | update =>
    simp only [task] at owed ⊢
    exact owed.append quiet
  | store | postEvent | pend | waiting => trivial

theorem device_quiet (events : List Event) :
    ∀ e ∈ events.map (TaskEvent.device (κ := κ)), ¬ IsRound e := by
  intro e he
  obtain ⟨_, -, rfl⟩ := List.mem_map.mp he
  exact id

theorem stack_gpdUpdates {events : List Event} {g : FlagGroup (TaskId κ) TaskSystem.Flag}
    (set : .stack ∈ (gpdUpdates events g).flags) :
    .stack ∈ g.flags ∨ ∃ e ∈ events.map (TaskEvent.device (κ := κ)), IsCause e := by
  rcases gpdUpdates_cases events g with ⟨⟨st, posts⟩, -⟩ | ⟨-, same⟩
  · exact Or.inr ⟨.device (.setState st), List.mem_map_of_mem posts, trivial⟩
  · exact Or.inl (same ▸ set)

/-- The rounds that call `GpdUpdate` whatever is received. -/
theorem round_updates (b : Build) (i : Surroundings) (d : Device)
    (state : d.gpdNode.gpdState = appStateCommissioningSuccessRequest ∨
      d.gpdNode.gpdState = appStateOperationalCommandRequest) :
    .setState appStateOperational ∈ since d (stateSwitchIn b i d) := by
  have logged (s : Device) (grown : d.log <:+ s.log) :
      .setState appStateOperational ∈ since d (emberGpdSetState appStateOperational s) := by
    obtain ⟨new, grown⟩ := grown
    have longer : (emberGpdSetState appStateOperational s).log =
        (.setState appStateOperational :: new) ++ d.log := by
      rw [List.cons_append, grown]
      rfl
    rw [since_eq longer]
    exact List.mem_cons_self
  have given : (i.set d).gpdNode = d.gpdNode := rfl
  have toggled : d.log <:+ (sendToggle b (i.set d)).log :=
    star_preserves (I := fun s => d.log <:+ s.log)
      (fun _ _ step h => h.trans (step.log_suffix b (i.set d)))
      (DeviceSteps.send_steps b (i.set d) _ _ _ (i.set d)) List.suffix_rfl
  unfold stateSwitchIn stateSwitch
  rw [given]
  rcases state with success | request
  · rw [success]
    exact logged _ List.suffix_rfl
  · rw [request]
    exact logged _ toggled

variable [DecidableEq κ] {b : Build} {locks : Bool}

omit [DecidableEq κ] in
theorem Accounted.round (h : Accounted s) (i : Surroundings) (flags : FlagsSound s')
    (point : s.gpdTask = .update) (due : .stack ∈ s.flags) (fresh : ¬ UpdateLeft s)
    (next : s' = { updateRound b i s with gpdTask := .store }) : Accounted s' := by
  have owed (has : HasRound s.trace) : Called s.trace := by
    have := h.owed has
    unfold Owed at this
    rwa [point] at this
  subst next
  refine ⟨flags, ?_, fun _ => due, ?_, fun _ => trivial⟩
  · exact (h.separated.push owed).append (device_quiet _)
  · intro _ set
    rcases stack_gpdUpdates set with left | causes
    · have state : s.device.gpdNode.gpdState = appStateCommissioningSuccessRequest ∨
          s.device.gpdNode.gpdState = appStateOperationalCommandRequest := by
        by_contra other
        exact fresh ⟨point, due, left, not_or.mp other⟩
      exact due_append (device_quiet _) _
        ⟨_, List.mem_map_of_mem (round_updates b i s.device state), trivial⟩
    · exact due_append (device_quiet _) _ causes

/-- What wakes `GpdTask` after a round is a command or a cause. -/
theorem Accounted.wake (h : Accounted s) {found : Finset TaskSystem.Flag}
    {g : FlagGroup (TaskId κ) TaskSystem.Flag}
    (got : Obtains (s.gpdTask = .pend) (s.gpdTask = .waiting) .gpdTask gpdTaskMask
      s.gpdEventFlags found g)
    (flags : FlagsSound (takeFlags found g s)) (more : ¬ OnlyHandled s) :
    Accounted (takeFlags found g s) := by
  have held := got.found_subset (h.flags.2 .gpdTask (fun _ same => nomatch same))
  refine h.quiet [.woken found] flags rfl (by simp [IsRound])
    (fun set => Finset.mem_union_left _ set) ?_ ?_
  · intro set
    rw [takeFlags_group, got.flags] at set
    exact Or.inl (Finset.mem_sdiff.mp set).1
  · intro group stack _
    by_cases command : .cmdWaiting ∈ found
    · exact Or.inl (Finset.mem_union_right _ command)
    · by_cases update : .stack ∈ found
      · exact Or.inr ((group (held update)).cons id)
      · obtain ⟨inside, some⟩ := h.flags.1.disciplined.found_spec got
        have only : found = {.evtHandled} := by
          refine Finset.eq_singleton_iff_nonempty_unique_mem.mpr ⟨some, ?_⟩
          intro flag mem
          have := inside mem
          simp only [taskMask, gpdTaskMask, Finset.mem_insert, Finset.mem_singleton] at this
          rcases this with rfl | rfl | rfl
          · exact absurd mem update
          · rfl
          · exact absurd mem command
        refine absurd ⟨stack, ?_⟩ more
        cases got with
        | atOnce point here => exact Or.inl ⟨point, here ▸ only⟩
        | readied point wait => exact Or.inr ⟨point, wait.trans (congrArg Wait.ready only)⟩

theorem Accounted.tick (h : Accounted s) {m : Move κ} (tick : Tick b locks s m s')
    (paced : Paced s m) : Accounted s' := by
  have flags := h.flags.tick tick
  have none : ∀ e ∈ ([] : List (TaskEvent κ)), ¬ IsRound e := by simp
  have disciplined := h.flags.1.disciplined
  cases tick with
  | command i point =>
    refine h.quiet _ flags (act_note_trace _ _ s) ?_ id ?_ ?_
    · intro e he
      rcases List.mem_append.mp he with device | executed
      · exact device_quiet _ e device
      · rw [List.mem_singleton.mp executed]
        exact id
    · exact fun _ => Or.inr ⟨.executed s.gpdCmdId, by simp, trivial⟩
    · intro _ _ _
      exact (due_cons (e := .executed s.gpdCmdId) trivial id s.trace).append (device_quiet _)
  | noCommand i point free =>
    refine h.quiet [] flags rfl none id Or.inl ?_
    intro _ _ owed
    unfold Owed at owed
    rw [point] at owed
    exact owed.resolve_left free
  | respond i point =>
    refine h.quiet [] flags rfl none ?_ Or.inl ?_
    · exact fun set => Finset.mem_erase.mpr ⟨by decide, set⟩
    · intro _ _ owed
      unfold Owed at owed
      rwa [point] at owed
  | postResponse i point =>
    refine h.quiet [] flags rfl none id ?_ ?_
    · exact fun set => Or.inl ((mem_post_other _ (by decide)).mp set)
    · intro _ _ owed
      unfold Owed at owed
      rwa [point] at owed
  | round i point due => exact h.round i flags point due paced.2 rfl
  | noRound i point => exact h.quiet [] flags rfl none id Or.inl (fun _ _ _ => trivial)
  | store i point =>
    exact h.quiet _ flags rfl (device_quiet _) id stack_gpdUpdates (fun _ _ _ => trivial)
  | postEvent i point =>
    refine h.quiet [.announced] flags rfl (by simp [IsRound]) ?_ ?_ (fun _ _ _ => trivial)
    · exact fun set => Finset.mem_erase.mpr ⟨by decide, set⟩
    · exact fun set => Or.inl ((mem_post_other _ (by decide)).mp set)
  | wake i got => exact h.wake got flags paced.1
  | block i point =>
    exact h.quiet [] flags rfl none id Or.inl (fun _ _ _ => trivial)
  | timeout point ticks =>
    refine h.quiet [.expired] flags rfl (by simp [IsRound]) id Or.inl ?_
    exact fun _ _ _ => Or.inr (due_cons trivial id s.trace)
  | packet =>
    exact h.elsewhere [] flags rfl none
      (fun set => Or.inl ((mem_post_other _ (by decide)).mp set)) rfl rfl
  | linklayerWake got =>
    refine h.elsewhere [] flags rfl none ?_ rfl rfl
    exact fun set => Or.inl ((disciplined.mem_obtained got
      (by decide : TaskSystem.Flag.stack ∉ linklayerMask)).mp set)
  | appWake got =>
    refine h.elsewhere [.noticed] flags rfl (by simp [IsRound]) ?_ rfl rfl
    exact fun set => Or.inl ((disciplined.mem_obtained got
      (by decide : TaskSystem.Flag.stack ∉ appMask)).mp set)
  | clientWake k id got =>
    refine h.elsewhere [] flags rfl none ?_ rfl rfl
    exact fun set => Or.inl ((disciplined.mem_obtained got
      (by decide : TaskSystem.Flag.stack ∉ clientMask)).mp set)
  | linklayerBlock | appBlock | enter | clientBlock | leave =>
    exact h.elsewhere [] flags rfl none Or.inl rfl rfl
  | handlePacket =>
    refine h.elsewhere _ flags (act_note_trace _ _ s) ?_ ?_ rfl rfl
    · intro e he
      rcases List.mem_append.mp he with device | received
      · exact device_quiet _ e device
      · rw [List.mem_singleton.mp received]
        exact id
    · intro set
      rcases stack_gpdUpdates set with left | ⟨e, he, causes⟩
      · exact Or.inl left
      · exact Or.inr ⟨e, List.mem_append_left _ he, causes⟩
  | handleEvent =>
    exact h.elsewhere [.handled s.gpdEvtId] flags rfl (by simp [IsRound]) Or.inl rfl rfl
  | postHandled =>
    exact h.elsewhere [.answered] flags rfl (by simp [IsRound])
      (fun set => Or.inl ((mem_post_other _ (by decide)).mp set)) rfl rfl
  | call k id =>
    exact h.elsewhere [.called k id] flags rfl (by simp [IsRound]) Or.inl rfl rfl
  | postCommand =>
    exact h.elsewhere [] flags rfl none
      (fun set => Or.inl ((mem_post_other _ (by decide)).mp set)) rfl rfl
  | readResponse k id =>
    exact h.elsewhere [.returned k s.gpdRsp] flags rfl (by simp [IsRound]) Or.inl rfl rfl

theorem accounted_start (log : List Event) : Accounted (start κ b log) where
  flags := flagsSound_start κ b log
  separated := separated_nil
  kept := fun ⟨_, nowhere, _⟩ => nomatch nowhere
  group := fun ⟨_, nowhere, _⟩ => nomatch nowhere
  owed := fun ⟨_, nowhere, _⟩ => nomatch nowhere

def IsDisturbance : TaskEvent κ → Prop
  | .executed _ => True
  | .received => True
  | _ => False

instance : DecidablePred (IsDisturbance (κ := κ))
  | .executed _ | .received => inferInstanceAs (Decidable True)
  | .called _ _ | .returned _ _ | .woken _ | .expired | .round _ | .announced | .noticed
  | .handled _ | .answered | .device _ => inferInstanceAs (Decidable False)

def disturbances (trace : List (TaskEvent κ)) : ℕ := trace.countP (fun e => IsDisturbance e)

def AtRest (d : Device) : Prop :=
  d.gpdNode.gpdState = appStateNotCommissioned ∨ d.gpdNode.gpdState = appStateOperational

/-- At most one round since `s`, after which nothing calls for another. -/
def Resting (s s' : Sys κ) : Prop :=
  AtRest s'.device ∧ (rounds s'.trace = rounds s.trace ∨
    rounds s'.trace = rounds s.trace + 1 ∧ s'.taskTimeoutTicks = 0 ∧ ¬ Called s'.trace)

theorem stateSwitch_atRest {d : Device} (rest : AtRest d) (b : Build) : stateSwitch b d = d := by
  unfold stateSwitch
  rcases rest with state | state <;> rw [state] <;> rfl

omit [DecidableEq κ] in
theorem rounds_append {new trace : List (TaskEvent κ)} (quiet : ∀ e ∈ new, ¬ IsRound e) :
    rounds (new ++ trace) = rounds trace := by
  unfold rounds
  rw [List.countP_append, List.countP_eq_zero.mpr (fun e he => by simpa using quiet e he),
    Nat.zero_add]

omit [DecidableEq κ] in
/-- A step that neither is a round nor calls for one. -/
theorem Resting.quiet {t : Sys κ} (h : Resting s t) (new : List (TaskEvent κ))
    (state : s'.device.gpdNode.gpdState = t.device.gpdNode.gpdState)
    (trace : s'.trace = new ++ t.trace) (quiet : ∀ e ∈ new, ¬ IsRound e)
    (idle : ∀ e ∈ new, ¬ IsCause e) (ticks : s'.taskTimeoutTicks = t.taskTimeoutTicks) :
    Resting s s' := by
  obtain ⟨rest, count⟩ := h
  refine ⟨?_, ?_⟩
  · unfold AtRest
    rwa [state]
  · rw [trace, rounds_append quiet, ticks]
    exact count.imp_right (fun ⟨one, zero, free⟩ => ⟨one, zero, not_due_append quiet idle free⟩)

theorem Resting.tick {t : Sys κ} (h : Resting s t) {m : Move κ} (tick : Tick b locks t m s')
    (accounted : Accounted t) (still : disturbances s'.trace = disturbances t.trace) :
    Resting s s' := by
  have disturbed {e : TaskEvent κ} {f : Device → Device} (disturbs : IsDisturbance e) :
      disturbances (act f (note e t)).trace ≠ disturbances t.trace := by
    rw [act_note_trace]
    unfold disturbances
    simp only [List.countP_append, List.countP_singleton, decide_eq_true disturbs, if_true]
    omega
  have none : ∀ e ∈ ([] : List (TaskEvent κ)), ¬ IsRound e := by simp
  have idle : ∀ e ∈ ([] : List (TaskEvent κ)), ¬ IsCause e := by simp
  cases tick with
  | command => exact absurd still (disturbed trivial)
  | handlePacket => exact absurd still (disturbed trivial)
  | round i point =>
    have rest : AtRest (i.set t.device) := by
      unfold AtRest
      rw [Surroundings.set_gpdNode]
      exact h.1
    have same : stateSwitch b (i.set t.device) = i.set t.device := stateSwitch_atRest rest b
    have untold : (stateSwitchIn b i t.device).log = [] ++ t.device.log := by
      unfold stateSwitchIn
      rw [same]
      rfl
    have trace : (updateRound b i t).trace = .round t.device.gpdNode.gpdState :: t.trace := by
      rw [updateRound_trace, told_eq untold]
      rfl
    have free : rounds t.trace = rounds s.trace := by
      refine h.2.resolve_right ?_
      rintro ⟨one, -, uncalled⟩
      have has : HasRound t.trace := by
        have some : 0 < rounds t.trace := by omega
        obtain ⟨e, he, round⟩ := List.countP_pos_iff.mp some
        exact ⟨e, he, of_decide_eq_true round⟩
      have owed := accounted.owed has
      unfold Owed at owed
      rw [point] at owed
      exact uncalled owed
    refine ⟨?_, Or.inr ⟨?_, ?_, ?_⟩⟩
    · change AtRest (stateSwitch b (i.set t.device))
      rw [same]
      exact rest
    · change rounds (updateRound b i t).trace = _
      rw [trace, ← free]
      exact List.countP_cons_of_pos (decide_eq_true trivial)
    · change taskTimeout t.device.gpdNode.gpdState t.taskTimeoutTicks = 0
      rcases h.1 with state | state <;> rw [state] <;> rfl
    · change ¬ Called (updateRound b i t).trace
      rw [trace]
      rintro ⟨e, he, -⟩
      rw [sinceLast_mark trivial] at he
      cases he
  | store i =>
    have saved : (emberGpdStoreSecDataToNV t.device).log =
        [.flashSave (.secData t.device.gpdNode) _] ++ t.device.log := rfl
    refine h.quiet _ rfl (act_trace _ t) (device_quiet _) ?_ rfl
    rw [told_eq saved]
    simp [IsCause]
  | timeout point ticks =>
    refine ⟨h.1, h.2.elim (fun same => Or.inl ?_) (fun ⟨_, zero, _⟩ => absurd zero ticks)⟩
    exact (rounds_append (by simp [IsRound] : ∀ e ∈ [TaskEvent.expired], ¬ IsRound e)).trans same
  | postEvent => exact h.quiet [.announced] rfl rfl (by simp [IsRound]) (by simp [IsCause]) rfl
  | @wake i found =>
    exact h.quiet [.woken found] rfl rfl (by simp [IsRound]) (by simp [IsCause]) rfl
  | appWake => exact h.quiet [.noticed] rfl rfl (by simp [IsRound]) (by simp [IsCause]) rfl
  | handleEvent =>
    exact h.quiet [.handled t.gpdEvtId] rfl rfl (by simp [IsRound]) (by simp [IsCause]) rfl
  | postHandled => exact h.quiet [.answered] rfl rfl (by simp [IsRound]) (by simp [IsCause]) rfl
  | call k id =>
    exact h.quiet [.called k id] rfl rfl (by simp [IsRound]) (by simp [IsCause]) rfl
  | readResponse k =>
    exact h.quiet [.returned k t.gpdRsp] rfl rfl (by simp [IsRound]) (by simp [IsCause]) rfl
  | noCommand | respond | postResponse | noRound | block | packet | linklayerWake | linklayerBlock
  | appBlock | enter | postCommand | clientWake | clientBlock | leave =>
    exact h.quiet [] rfl rfl none idle rfl

/-- In every run in which `GpdTask` is neither woken by `EVT_HANDLED` alone nor begins a round on
top of a call of `GpdUpdate` that it has yet to take up: between two rounds there is a cause, and
from a device at rest that nothing disturbs at most one more round comes. -/
theorem paced_rounds (b : Build) (locks : Bool) (log : List Event) {s : Sys κ}
    (run : RunOf b locks Paced (start κ b log) s) :
    Separated IsRound IsCause s.trace ∧
    (AtRest s.device → ∀ s', RunOf b locks Paced s s' →
      disturbances s'.trace = disturbances s.trace → rounds s'.trace ≤ rounds s.trace + 1) := by
  have accounted : Accounted s :=
    run_preserves (fun _ _ _ tick paced h => h.tick tick paced) run (accounted_start log)
  refine ⟨accounted.separated, ?_⟩
  intro rest s' more still
  have follows : Accounted s' ∧ disturbances s.trace ≤ disturbances s'.trace ∧
      (disturbances s'.trace = disturbances s.trace → Resting s s') := by
    refine run_preserves (I := fun t => Accounted t ∧ disturbances s.trace ≤ disturbances t.trace ∧
      (disturbances t.trace = disturbances s.trace → Resting s t)) ?_ more
      ⟨accounted, le_rfl, fun _ => ⟨rest, Or.inl rfl⟩⟩
    rintro t m t' tick paced ⟨ready, more, resting⟩
    have grown : disturbances t.trace ≤ disturbances t'.trace :=
      tick.trace_suffix.sublist.countP_le
    refine ⟨ready.tick tick paced, more.trans grown, ?_⟩
    intro same
    exact (resting (by omega)).tick tick ready (by omega)
  rcases (follows.2.2 still).2 with same | ⟨one, -⟩ <;> omega

end

def sendMoves : List (Move Unit) :=
  List.replicate 4 (.client () .send) ++ List.replicate 18 (.gpdTask ⟨[], [], []⟩)

/-- `gpdAppTask` handles an event, and `GpdTask` moves as far as its next round. -/
def handleMoves : List (Move Unit) :=
  List.replicate 3 .gpdAppTask ++ List.replicate 3 (.gpdTask ⟨[], [], []⟩)

theorem sent_rounds_paced : ∃ s : Sys Unit, rounds s.trace = 2 ∧
    Separated IsRound IsCause s.trace ∧
    ∀ s', RunOf (shipped (AesCipher.aesCcm tagSize)) false Paced s s' →
      disturbances s'.trace = disturbances s.trace → rounds s'.trace ≤ 3 := by
  have seen : (follow (shipped (AesCipher.aesCcm tagSize)) false Paced
      (start Unit (shipped (AesCipher.aesCcm tagSize)) []) sendMoves).map
      (fun s => (rounds s.trace, s.device.gpdNode.gpdState)) = some (2, appStateOperational) := by
    decide +kernel
  obtain ⟨s, run, same⟩ := Option.map_eq_some_iff.mp seen
  obtain ⟨two, state⟩ := Prod.mk.inj same
  obtain ⟨separated, resting⟩ := paced_rounds _ false [] (Runs.run_of_follow sendMoves run)
  refine ⟨s, two, separated, ?_⟩
  intro s' more still
  have most := resting (Or.inr state) s' more still
  omega

/-- Without the condition: an operational device goes through the branch again because its own
event was handled. -/
theorem handled_event_makes_round : ¬ ∀ s : Sys Unit,
    Run (shipped (AesCipher.aesCcm tagSize)) false
      (start Unit (shipped (AesCipher.aesCcm tagSize)) []) s →
    Separated IsRound IsCause s.trace ∧
    (AtRest s.device → ∃ most, ∀ s', Run (shipped (AesCipher.aesCcm tagSize)) false s s' →
      disturbances s'.trace = disturbances s.trace → rounds s'.trace ≤ most) := by
  intro claimed
  have seen : (follow (shipped (AesCipher.aesCcm tagSize)) false (fun _ _ => True)
      (start Unit (shipped (AesCipher.aesCcm tagSize)) []) (sendMoves ++ handleMoves)).map
      (fun s => (decide (∃ e ∈ s.trace.head?, IsRound e), decide (∃ e ∈ s.trace.tail, IsRound e),
        decide (∃ e ∈ sinceLast IsRound s.trace.tail, IsCause e))) = some (true, true, false) := by
    decide +kernel
  obtain ⟨s, run, same⟩ := Option.map_eq_some_iff.mp seen
  obtain ⟨head, rest⟩ := Prod.mk.inj same
  obtain ⟨earlier, uncalled⟩ := Prod.mk.inj rest
  obtain ⟨separated, -⟩ := claimed s (Runs.run_of_follow _ run)
  cases trace : s.trace with
  | nil => simp [trace] at head
  | cons e older =>
    rw [trace] at head earlier uncalled separated
    obtain ⟨e', he, round⟩ := of_decide_eq_true head
    obtain rfl : e = e' := Option.some.inj he
    exact of_decide_eq_false uncalled (separated.due round (of_decide_eq_true earlier))

end GreenPower.RoundPacing
