import GreenPower.AttemptIndependence
import GreenPower.CommandHandshake
import GreenPower.FramesOnAir

set_option autoImplicit false

/-!
What becomes of a command once it was acknowledged. `commandBranch` only stores it in `gpdState`;
it is served by the next round, unless something else is stored there first.
-/
namespace GreenPower.CommandService
open BuildOptions DeviceState NonVolatile IncomingCommand IncomingMessage ReceiveOutcome
  ReceptionRecord Commissioning GpdTask EventLog DeviceSteps AttemptProgress FramesOnAir EventFlags FlagGroup
  TaskSystem TaskSteps SlotServer CommandHandshake

section
variable {κ : Type}

def executedId : TaskEvent κ → Option CmdId
  | .executed id => some id
  | _ => none

def IsExecuted (e : TaskEvent κ) : Prop := executedId e ≠ none

instance : DecidablePred (IsExecuted (κ := κ)) := fun e => by
  unfold IsExecuted
  infer_instance

def IsWakeup : TaskEvent κ → Prop
  | .woken _ => True
  | .expired => True
  | _ => False

instance : DecidablePred (IsWakeup (κ := κ))
  | .woken _ | .expired => inferInstanceAs (Decidable True)
  | .called _ _ | .executed _ | .returned _ _ | .round _ | .announced | .noticed | .handled _
  | .answered | .received | .device _ => inferInstanceAs (Decidable False)

def deviceEvent : TaskEvent κ → Option Event
  | .device e => some e
  | _ => none

def framesIn (trace : List (TaskEvent κ)) : List (UInt8 × List UInt8) :=
  onAir (trace.filterMap deviceEvent)

def latest (trace : List (TaskEvent κ)) : Option CmdId := trace.findSome? executedId

def outstanding : List (TaskEvent κ) → Option CmdId
  | [] => none
  | .executed id :: _ => some id
  | .round _ :: _ => none
  | _ :: older => outstanding older

/-- A command with an effect of its own is executed and no round has followed. -/
def Outstanding (trace : List (TaskEvent κ)) : Prop :=
  outstanding trace = some .commission ∨ outstanding trace = some .send

instance (trace : List (TaskEvent κ)) : Decidable (Outstanding trace) := by
  unfold Outstanding
  infer_instance

/-- What each command stands for, in terms of the frames that follow it. -/
def Served (frames : List (UInt8 × List UInt8)) : CmdId → Prop
  | .commission => ∃ frame ∈ frames, IsChannelRequest frame
  | .decommission => True
  | .send => frames.count toggleFrame = 1

def EachServed (trace : List (TaskEvent κ)) : Prop :=
  ∀ newer mid older id id', trace = newer ++ .executed id' :: (mid ++ .executed id :: older) →
    (∀ e ∈ mid, ¬ IsExecuted e) → Served (framesIn mid) id

def wakeups (trace : List (TaskEvent κ)) : ℕ :=
  (sinceLast IsExecuted trace).countP (fun e => IsWakeup e)

/-- The last command was served, as soon as `GpdTask` waits or was woken twice since. -/
def LastServed (s : Sys κ) : Prop :=
  s.gpdTask = .waiting ∨ 2 ≤ wakeups s.trace → ∀ id, latest s.trace = some id →
    Served (framesIn (sinceLast IsExecuted s.trace)) id

def SetsState : Reaction → Prop
  | .ignored => False
  | .channelConfig _ => True
  | .replyAccepted _ _ _ => True
  | .replyRejected => False

instance : DecidablePred SetsState
  | .channelConfig _ | .replyAccepted _ _ _ => inferInstanceAs (Decidable True)
  | .ignored | .replyRejected => inferInstanceAs (Decidable False)

/-- While a command is outstanding, no other is executed and no command is received that sets
the state. -/
def Attended (b : Build) (s : Sys κ) : Move κ → Prop
  | .gpdTask _ => s.gpdTask = .top → .cmdWaiting ∈ s.flags → ¬ Outstanding s.trace
  | .gpdLinklayerTask =>
    s.gpdLinklayerTask = .handle → Outstanding s.trace → ¬ SetsState (frameReaction b s.device)
  | _ => True

instance (b : Build) (s : Sys κ) (m : Move κ) : Decidable (Attended b s m) :=
  match m with
  | .gpdTask _ | .gpdLinklayerTask => by
    unfold Attended
    infer_instance
  | .timeout | .packet _ | .gpdAppTask | .client _ _ => inferInstanceAs (Decidable True)

def Due (s : Sys κ) : Prop :=
  wakeups s.trace = 0 ∧ .stack ∈ s.gpdEventFlags.flags ∧
    (s.gpdTask = .respond ∨ s.gpdTask = .postResponse ∨ s.gpdTask = .update ∨ s.gpdTask = .pend) ∨
  wakeups s.trace ≤ 1 ∧ .stack ∈ s.flags ∧
    (s.gpdTask = .top ∨ s.gpdTask = .respond ∨ s.gpdTask = .postResponse ∨ s.gpdTask = .update)

structure Owing (s : Sys κ) : Prop where
  unsent : framesIn (sinceLast IsExecuted s.trace) = []
  commission : outstanding s.trace = some .commission →
    s.device.gpdNode.gpdState = appStateChannelRequest
  send : outstanding s.trace = some .send →
    s.device.gpdNode.gpdState = appStateOperationalCommandRequest
  due : Due s

structure Serving (s : Sys κ) : Prop where
  substate : s.device.chReqSubstate ≤ chReqOnRxChannel
  each : EachServed s.trace
  owing : Outstanding s.trace → Owing s
  served : ∀ id, latest s.trace = some id → ¬ Outstanding s.trace →
    Served (framesIn (sinceLast IsExecuted s.trace)) id ∧
      (outstanding s.trace = none →
        s.device.gpdNode.gpdState ≠ appStateOperationalCommandRequest)

def IsQuiet : TaskEvent κ → Prop
  | .executed _ => False
  | .round _ => False
  | .device e => IsSilent e
  | _ => True

variable {s s' : Sys κ} {new trace : List (TaskEvent κ)} {e : TaskEvent κ} {id : CmdId}

theorem IsQuiet.not_executed (h : IsQuiet e) : ¬ IsExecuted e := by
  cases e <;> first | exact h.elim | exact fun executed => executed rfl

theorem outstanding_append (free : ∀ e ∈ new, ¬ IsExecuted e ∧ ∀ st, e ≠ .round st) :
    outstanding (new ++ trace) = outstanding trace := by
  induction new with
  | nil => rfl
  | cons e new ih =>
    obtain ⟨unexecuted, other⟩ := free e List.mem_cons_self
    have rest := ih (fun x hx => free x (List.mem_cons_of_mem _ hx))
    cases e with
    | executed id => exact absurd (fun none => nomatch none) unexecuted
    | round st => exact absurd rfl (other st)
    | called | returned | woken | expired | announced | noticed | handled | answered | received
    | device => exact rest

theorem outstanding_quiet (quiet : ∀ e ∈ new, IsQuiet e) :
    outstanding (new ++ trace) = outstanding trace := by
  refine outstanding_append (fun e he => ⟨(quiet e he).not_executed, ?_⟩)
  rintro st rfl
  exact quiet _ he

theorem latest_append (free : ∀ e ∈ new, ¬ IsExecuted e) : latest (new ++ trace) = latest trace :=
  findSome_append_none executedId new trace (fun e he => not_not.mp (free e he))

theorem framesIn_append {events : List Event} {frames : List (UInt8 × List UInt8)}
    (puts : Puts events frames) (trace : List (TaskEvent κ)) :
    framesIn (events.map .device ++ trace) = frames ++ framesIn trace := by
  unfold framesIn
  rw [List.filterMap_append, List.filterMap_map]
  have same : events.filterMap (deviceEvent ∘ TaskEvent.device (κ := κ)) = events :=
    List.filterMap_some
  rw [same]
  exact puts _

theorem framesIn_quiet (quiet : ∀ e ∈ new, IsQuiet e) :
    framesIn (new ++ trace) = framesIn trace := by
  unfold framesIn
  rw [List.filterMap_append]
  refine puts_silent ?_ _
  intro e he
  obtain ⟨x, hx, same⟩ := List.mem_filterMap.mp he
  have := quiet x hx
  cases x with
  | device e' => exact Option.some.inj same ▸ this
  | called | executed | returned | woken | expired | round | announced | noticed | handled
  | answered | received => cases same

theorem EachServed.cons (h : EachServed trace) (free : ¬ IsExecuted e) :
    EachServed (e :: trace) := by
  intro newer mid older id id' eq
  cases newer with
  | nil =>
    obtain ⟨rfl, -⟩ := List.cons.inj eq
    exact absurd (fun none => nomatch none) free
  | cons x newer => exact h newer mid older id id' (List.cons.inj eq).2

theorem EachServed.append (h : EachServed trace) (free : ∀ e ∈ new, ¬ IsExecuted e) :
    EachServed (new ++ trace) := by
  induction new with
  | nil => exact h
  | cons e new ih =>
    exact (ih (fun x hx => free x (List.mem_cons_of_mem _ hx))).cons (free e List.mem_cons_self)

/-- The next command is executed once the last one is served. -/
theorem EachServed.execute (h : EachServed trace)
    (served : ∀ id, latest trace = some id →
      Served (framesIn (sinceLast IsExecuted trace)) id) (id' : CmdId) :
    EachServed (.executed id' :: trace) := by
  intro newer mid older id id'' eq between
  cases newer with
  | nil =>
    obtain ⟨-, rfl⟩ := List.cons.inj eq
    have marks : IsExecuted (.executed id : TaskEvent κ) := fun none => nomatch none
    have here : sinceLast IsExecuted (mid ++ .executed id :: older) = mid := by
      rw [sinceLast_append between, sinceLast_mark marks, List.append_nil]
    have last := served id (by rw [latest_append between]; rfl)
    rwa [here] at last
  | cons x newer => exact h newer mid older id id'' (List.cons.inj eq).2 between

theorem told_quiet {f : Device → Device} {d : Device} {events : List Event}
    (log : (f d).log = events ++ d.log) (silent : ∀ e ∈ events, IsSilent e) :
    ∀ e ∈ told κ f d, IsQuiet e := by
  rw [told_eq log]
  intro e he
  obtain ⟨event, mem, rfl⟩ := List.mem_map.mp he
  exact silent event mem

theorem Serving.quiet (h : Serving s) (new : List (TaskEvent κ)) (quiet : ∀ e ∈ new, IsQuiet e)
    (trace : s'.trace = new ++ s.trace) (substate : s'.device.chReqSubstate = s.device.chReqSubstate)
    (kept : Outstanding s.trace → s'.device.gpdNode.gpdState = s.device.gpdNode.gpdState)
    (other : s.device.gpdNode.gpdState ≠ appStateOperationalCommandRequest →
      s'.device.gpdNode.gpdState ≠ appStateOperationalCommandRequest)
    (due : Due s → Due s') : Serving s' := by
  have unexecuted : ∀ e ∈ new, ¬ IsExecuted e := fun e he => (quiet e he).not_executed
  have same : outstanding s'.trace = outstanding s.trace := by rw [trace, outstanding_quiet quiet]
  have frames : framesIn (sinceLast IsExecuted s'.trace) =
      framesIn (sinceLast IsExecuted s.trace) := by
    rw [trace, sinceLast_append unexecuted, framesIn_quiet quiet]
  have before : Outstanding s'.trace ↔ Outstanding s.trace := by
    unfold Outstanding
    rw [same]
  refine ⟨substate ▸ h.substate, ?_, ?_, ?_⟩
  · rw [trace]
    exact h.each.append unexecuted
  · intro later
    have out := before.mp later
    obtain ⟨unsent, commission, send, ahead⟩ := h.owing out
    exact ⟨frames.trans unsent, fun id => (kept out).trans (commission (same ▸ id)),
      fun id => (kept out).trans (send (same ▸ id)), due ahead⟩
  · intro id last done
    rw [trace, latest_append unexecuted] at last
    obtain ⟨served, state⟩ := h.served id last (fun out => done (before.mpr out))
    rw [frames, same]
    exact ⟨served, fun none => other (state none)⟩

/-- No device is involved. -/
theorem Serving.aside (h : Serving s) (new : List (TaskEvent κ)) (quiet : ∀ e ∈ new, IsQuiet e)
    (trace : s'.trace = new ++ s.trace) (device : s'.device = s.device) (due : Due s → Due s') :
    Serving s' :=
  h.quiet new quiet trace (by rw [device]) (fun _ => by rw [device]) (by rw [device]; exact id) due

theorem commandBranch_log (id : CmdId) (d : Device) :
    ∃ new, (commandBranch id d).log = new ++ d.log ∧ ∀ e ∈ new, IsSilent e := by
  cases id with
  | commission => exact ⟨[_], rfl, by simp [IsSilent]⟩
  | decommission => exact ⟨[], rfl, by simp⟩
  | send => exact ⟨[_], rfl, by simp [IsSilent]⟩

theorem commandBranch_updates (id : CmdId) (effect : id = .commission ∨ id = .send) (d : Device)
    (g : FlagGroup (TaskId κ) TaskSystem.Flag) :
    .stack ∈ (gpdUpdates (since d (commandBranch id d)) g).flags := by
  have grown {st : ApplicationState} :
      (emberGpdSetState st d).log = [.setState st] ++ d.log := rfl
  have posts {st : ApplicationState} (set : commandBranch id d = emberGpdSetState st d) :
      gpdUpdates (since d (commandBranch id d)) g = g.post {.stack} := by
    rw [set, since_eq grown]
    rfl
  have stack : TaskSystem.Flag.stack ∈ (g.post {.stack}).flags :=
    Finset.mem_union_right _ (Finset.mem_singleton_self _)
  rcases effect with rfl | rfl
  · have posted := posts (rfl : _ = emberGpdSetState appStateChannelRequest d)
    rw [posted]
    exact stack
  · have posted := posts (rfl : _ = emberGpdSetState appStateOperationalCommandRequest d)
    rw [posted]
    exact stack

theorem told_no_wakeup (f : Device → Device) (d : Device) :
    (told κ f d).countP (fun e => IsWakeup e) = 0 := by
  rw [List.countP_eq_zero]
  intro e he wakes
  obtain ⟨_, -, rfl⟩ := List.mem_map.mp he
  exact of_decide_eq_true wakes

/-- The command branch. -/
theorem Serving.command (h : Serving s) (attended : ¬ Outstanding s.trace) :
    Serving { act (commandBranch s.gpdCmdId) (note (.executed s.gpdCmdId) s) with
      gpdTask := .respond } := by
  obtain ⟨events, log, silent⟩ := commandBranch_log s.gpdCmdId s.device
  have quiet := told_quiet (κ := κ) log silent
  have unexecuted : ∀ e ∈ told κ (commandBranch s.gpdCmdId) s.device, ¬ IsExecuted e :=
    fun e he => (quiet e he).not_executed
  have marks : IsExecuted (.executed s.gpdCmdId : TaskEvent κ) := fun none => nomatch none
  have trace : (act (commandBranch s.gpdCmdId) (note (.executed s.gpdCmdId) s)).trace =
      told κ (commandBranch s.gpdCmdId) s.device ++ .executed s.gpdCmdId :: s.trace := rfl
  have segment : sinceLast IsExecuted
      (act (commandBranch s.gpdCmdId) (note (.executed s.gpdCmdId) s)).trace =
        told κ (commandBranch s.gpdCmdId) s.device := by
    rw [trace, sinceLast_append unexecuted, sinceLast_mark marks, List.append_nil]
  have out : outstanding (act (commandBranch s.gpdCmdId) (note (.executed s.gpdCmdId) s)).trace =
      some s.gpdCmdId := by
    rw [trace, outstanding_quiet quiet]
    rfl
  refine ⟨?_, ?_, ?_, ?_⟩
  · have kept : (commandBranch s.gpdCmdId s.device).chReqSubstate = s.device.chReqSubstate := by
      cases s.gpdCmdId <;> rfl
    exact kept ▸ h.substate
  · have served : ∀ id, latest s.trace = some id →
        Served (framesIn (sinceLast IsExecuted s.trace)) id :=
      fun id last => (h.served id last attended).1
    exact (h.each.execute served s.gpdCmdId).append unexecuted
  · intro later
    have effect : s.gpdCmdId = .commission ∨ s.gpdCmdId = .send := by
      rcases later with id | id
      · exact Or.inl (Option.some.inj (out.symm.trans id))
      · exact Or.inr (Option.some.inj (out.symm.trans id))
    refine ⟨?_, fun id => ?_, fun id => ?_, Or.inl ⟨?_, ?_, Or.inl rfl⟩⟩
    · refine (congrArg framesIn segment).trans ?_
      rw [← List.append_nil (told κ (commandBranch s.gpdCmdId) s.device), framesIn_quiet quiet]
      rfl
    · have commission : s.gpdCmdId = .commission := Option.some.inj (out.symm.trans id)
      change (commandBranch s.gpdCmdId s.device).gpdNode.gpdState = _
      rw [commission]
      rfl
    · have send : s.gpdCmdId = .send := Option.some.inj (out.symm.trans id)
      change (commandBranch s.gpdCmdId s.device).gpdNode.gpdState = _
      rw [send]
      rfl
    · exact (congrArg (List.countP fun e => decide (IsWakeup e)) segment).trans (told_no_wakeup _ _)
    · exact commandBranch_updates s.gpdCmdId effect s.device s.gpdEventFlags
  · intro id last done
    have same : id = s.gpdCmdId := by
      have found : latest (act (commandBranch s.gpdCmdId) (note (.executed s.gpdCmdId) s)).trace =
          some s.gpdCmdId := by
        rw [trace, latest_append unexecuted]
        rfl
      exact Option.some.inj (last.symm.trans found)
    refine ⟨?_, fun none => nomatch out.symm.trans none⟩
    cases cmd : id with
    | decommission => trivial
    | commission => exact absurd (Or.inl (out.trans (congrArg some (same.symm.trans cmd)))) done
    | send => exact absurd (Or.inr (out.trans (congrArg some (same.symm.trans cmd)))) done

theorem latest_of_outstanding (out : outstanding trace = some id) : latest trace = some id := by
  induction trace with
  | nil => cases out
  | cons e trace ih =>
    cases e with
    | executed id' => exact out
    | round => cases out
    | called | returned | woken | expired | announced | noticed | handled | answered | received
    | device => exact ih out

theorem substate_kept {b : Build} {d s s' : Device} (steps : Steps b d s s')
    (bound : s.chReqSubstate ≤ chReqOnRxChannel) : s'.chReqSubstate ≤ chReqOnRxChannel := by
  refine star_preserves (I := fun t => t.chReqSubstate ≤ chReqOnRxChannel) ?_ steps bound
  intro t t' step h
  cases step with
  | radio step =>
    cases step with
    | arrival quiet =>
      obtain ⟨_, _, _, _, _, rfl⟩ := quiet
      exact h
    | startTx | startRx | nextWindow | reaction => exact h
  | channelSubstate sub bound => exact bound
  | compose frameType payload =>
    obtain ⟨mpdu, frame, eq⟩ := writeTxFifo_eq b frameType payload (SendReceive.updateFrameCounter b t)
    rw [eq]
    change (SendReceive.updateFrameCounter b t).chReqSubstate ≤ _
    unfold SendReceive.updateFrameCounter
    cases b.macSeq <;> exact h
  | _ => exact h

theorem Served.more {frames sent : List (UInt8 × List UInt8)} (h : Served frames id)
    (other : toggleFrame ∉ sent) : Served (sent ++ frames) id := by
  cases id with
  | commission =>
    obtain ⟨frame, mem, request⟩ := h
    exact ⟨frame, List.mem_append_right _ mem, request⟩
  | decommission => trivial
  | send =>
    change (sent ++ frames).count toggleFrame = 1
    rw [List.count_append, List.count_eq_zero_of_not_mem other, Nat.zero_add]
    exact h

/-- The round. -/
theorem Serving.round {b : Build} (requesting : Requesting b) (fits : RequestFits b)
    (h : Serving s) (i : Surroundings) :
    Serving { updateRound b i s with gpdTask := .store } := by
  obtain ⟨events, sent, log, puts, toggled, untoggled, requested⟩ :=
    round_frames (s := i.set s.device) requesting fits h.substate
  have state := round_state (s := i.set s.device) fits
  have tell : told κ (stateSwitchIn b i) s.device = events.map .device := told_eq log
  have trace : (updateRound b i s).trace =
      events.map .device ++ .round s.device.gpdNode.gpdState :: s.trace := by
    rw [updateRound_trace, tell]
  have unexecuted : ∀ e ∈ events.map (TaskEvent.device (κ := κ)), ¬ IsExecuted e ∧
      ∀ st, e ≠ .round st := by
    intro e he
    obtain ⟨_, -, rfl⟩ := List.mem_map.mp he
    exact ⟨fun executed => executed rfl, fun _ same => nomatch same⟩
  have free : ¬ IsExecuted (.round s.device.gpdNode.gpdState : TaskEvent κ) :=
    fun executed => executed rfl
  have ended : outstanding (updateRound b i s).trace = none := by
    rw [trace, outstanding_append unexecuted]
    rfl
  have frames : framesIn (sinceLast IsExecuted (updateRound b i s).trace) =
      sent ++ framesIn (sinceLast IsExecuted s.trace) := by
    rw [trace, sinceLast_append (fun e he => (unexecuted e he).1), sinceLast_cons free,
      framesIn_append puts]
    rfl
  have last : latest (updateRound b i s).trace = latest s.trace := by
    rw [trace, latest_append (fun e he => (unexecuted e he).1)]
    rfl
  refine ⟨?_, ?_, ?_, ?_⟩
  · exact substate_kept (stateSwitch_steps b (i.set s.device) (i.set s.device) rfl) h.substate
  · change EachServed (updateRound b i s).trace
    rw [trace]
    exact (h.each.cons free).append (fun e he => (unexecuted e he).1)
  · rintro (id | id)
    · cases ended.symm.trans id
    · cases ended.symm.trans id
  · intro id executed _
    refine ⟨?_, fun _ => state⟩
    change Served (framesIn (sinceLast IsExecuted (updateRound b i s).trace)) id
    rw [frames]
    have executed : latest s.trace = some id := last.symm.trans executed
    by_cases out : Outstanding s.trace
    · obtain ⟨unsent, commission, send, -⟩ := h.owing out
      rw [unsent, List.append_nil]
      rcases out with asked | asked
      · obtain rfl := Option.some.inj (executed.symm.trans (latest_of_outstanding asked))
        exact requested (commission asked)
      · obtain rfl := Option.some.inj (executed.symm.trans (latest_of_outstanding asked))
        rw [toggled (send asked)]
        exact List.count_singleton_self
    · obtain ⟨served, other⟩ := h.served id executed out
      cases cmd : outstanding s.trace with
      | none => exact served.more (untoggled (other cmd))
      | some id' =>
        obtain rfl := Option.some.inj (executed.symm.trans (latest_of_outstanding cmd))
        cases id with
        | commission => exact absurd (Or.inl cmd) out
        | decommission => trivial
        | send => exact absurd (Or.inr cmd) out

theorem reaction_kept {r : Reaction} (unset : ¬ SetsState r) (gpd : EmberGpd) :
    (r.gpdNode gpd).gpdState = gpd.gpdState := by
  cases r with
  | ignored => rfl
  | channelConfig => exact absurd trivial unset
  | replyAccepted => exact absurd trivial unset
  | replyRejected => rfl

theorem wakeups_append (free : ∀ e ∈ new, ¬ IsExecuted e ∧ ¬ IsWakeup e) :
    wakeups (new ++ trace) = wakeups trace := by
  have none : new.countP (fun e => IsWakeup e) = 0 := by
    rw [List.countP_eq_zero]
    exact fun e he wakes => (free e he).2 (of_decide_eq_true wakes)
  unfold wakeups
  rw [sinceLast_append (fun e he => (free e he).1), List.countP_append, none, Nat.zero_add]

theorem Due.kept (h : Due s) (same : wakeups s'.trace = wakeups s.trace)
    (group : .stack ∈ s.gpdEventFlags.flags → .stack ∈ s'.gpdEventFlags.flags)
    (flags : .stack ∈ s.flags → .stack ∈ s'.flags) (point : s'.gpdTask = s.gpdTask) : Due s' := by
  unfold Due
  rw [same, point]
  rcases h with ⟨none, stack, ahead⟩ | ⟨few, stack, ahead⟩
  · exact Or.inl ⟨none, group stack, ahead⟩
  · exact Or.inr ⟨few, flags stack, ahead⟩

theorem stack_gpdUpdates (events : List Event) {g : FlagGroup (TaskId κ) TaskSystem.Flag}
    (set : .stack ∈ g.flags) : .stack ∈ (gpdUpdates events g).flags := by
  unfold gpdUpdates
  split_ifs
  · exact Finset.mem_union_left _ set
  · exact set

/-- The link-layer task handles a packet. -/
theorem Serving.handlePacket (h : Serving s) (b : Build)
    (attended : Outstanding s.trace → ¬ SetsState (frameReaction b s.device)) :
    Serving { act (emberGpdIncomingMessageHandler b) (note .received s) with
      gpdLinklayerTask := .pend } := by
  obtain ⟨events, log, heard⟩ := handler_heard b s.device
  have node := handler_gpdNode b s.device
  have substate : (emberGpdIncomingMessageHandler b s.device).chReqSubstate =
      s.device.chReqSubstate := by
    obtain ⟨t, quiet, eq⟩ := emberGpdIncomingMessageHandler_react b s.device
    obtain ⟨_, _, _, _, _, rfl⟩ := quiet
    rw [eq]
    rfl
  have quiet : ∀ e ∈ told κ (emberGpdIncomingMessageHandler b) s.device ++ [.received],
      IsQuiet e := by
    intro e he
    rcases List.mem_append.mp he with he | he
    · exact told_quiet log (fun e he => (heard e he).silent) e he
    · rw [List.mem_singleton.mp he]
      trivial
  refine h.quiet _ quiet (act_note_trace _ _ s) substate (fun out => ?_) (fun other => ?_) ?_
  · change (emberGpdIncomingMessageHandler b s.device).gpdNode.gpdState = _
    rw [node]
    exact reaction_kept (attended out) _
  · change (emberGpdIncomingMessageHandler b s.device).gpdNode.gpdState ≠ _
    rw [node]
    cases frameReaction b s.device with
    | ignored => exact other
    | channelConfig => exact show appStateChannelReceived ≠ _ by decide
    | replyAccepted => exact show appStateCommissioningReplyReceived ≠ _ by decide
    | replyRejected => exact other
  · intro ahead
    refine ahead.kept ?_ (stack_gpdUpdates _) id rfl
    refine (congrArg wakeups (act_note_trace _ _ s)).trans (wakeups_append ?_)
    intro e he
    refine ⟨(quiet e he).not_executed, ?_⟩
    rcases List.mem_append.mp he with he | he
    · obtain ⟨_, -, rfl⟩ := List.mem_map.mp he
      exact id
    · rw [List.mem_singleton.mp he]
      exact id

/-- A task other than `GpdTask` moved, and no device is involved. -/
theorem Serving.elsewhere (h : Serving s) (new : List (TaskEvent κ))
    (quiet : ∀ e ∈ new, IsQuiet e ∧ ¬ IsWakeup e) (trace : s'.trace = new ++ s.trace)
    (device : s'.device = s.device)
    (group : .stack ∈ s.gpdEventFlags.flags → .stack ∈ s'.gpdEventFlags.flags)
    (flags : s'.flags = s.flags) (point : s'.gpdTask = s.gpdTask) : Serving s' := by
  refine h.aside new (fun e he => (quiet e he).1) trace device (fun due => ?_)
  refine due.kept ?_ group (fun set => flags ▸ set) point
  rw [trace]
  exact wakeups_append (fun e he => ⟨(quiet e he).1.not_executed, (quiet e he).2⟩)

variable [DecidableEq κ] {locks : Bool}

theorem Serving.tick {b : Build} (requesting : Requesting b) (fits : RequestFits b)
    (h : Serving s) (flags : FlagsSound s) {m : Move κ} (tick : Tick b locks s m s') (attended : Attended b s m) :
    Serving s' := by
  have disciplined := flags.1.disciplined
  have nothing : ∀ e ∈ ([] : List (TaskEvent κ)), IsQuiet e := by simp
  have none : ∀ e ∈ ([] : List (TaskEvent κ)), IsQuiet e ∧ ¬ IsWakeup e := by simp
  have away {p : GpdTaskPoint} (point : s.gpdTask = p)
      (elsewhere : p = .store ∨ p = .postEvent ∨ p = .waiting) : ¬ Due s := by
    rintro (⟨-, -, at' | at' | at' | at'⟩ | ⟨-, -, at' | at' | at' | at'⟩) <;>
      rcases elsewhere with rfl | rfl | rfl <;> cases point.symm.trans at'
  cases tick with
  | command i point asked => exact h.command (attended point asked)
  | noCommand i point =>
    refine h.aside [] nothing rfl rfl ?_
    rintro (⟨-, -, at' | at' | at' | at'⟩ | ⟨few, stack, -⟩)
    · cases point.symm.trans at'
    · cases point.symm.trans at'
    · cases point.symm.trans at'
    · cases point.symm.trans at'
    · exact Or.inr ⟨few, stack, Or.inr (Or.inr (Or.inr rfl))⟩
  | respond i point =>
    refine h.aside [] nothing rfl rfl ?_
    rintro (⟨none, stack, -⟩ | ⟨few, stack, -⟩)
    · exact Or.inl ⟨none, stack, Or.inr (Or.inl rfl)⟩
    · exact Or.inr ⟨few, Finset.mem_erase.mpr ⟨by decide, stack⟩, Or.inr (Or.inr (Or.inl rfl))⟩
  | postResponse i point =>
    refine h.aside [] nothing rfl rfl ?_
    rintro (⟨none, stack, -⟩ | ⟨few, stack, -⟩)
    · exact Or.inl ⟨none, Finset.mem_union_left _ stack, Or.inr (Or.inr (Or.inl rfl))⟩
    · exact Or.inr ⟨few, stack, Or.inr (Or.inr (Or.inr rfl))⟩
  | round i point due => exact h.round requesting fits i
  | noRound i point free =>
    refine h.aside [] nothing rfl rfl ?_
    rintro (⟨none, stack, -⟩ | ⟨-, stack, -⟩)
    · exact Or.inl ⟨none, stack, Or.inr (Or.inr (Or.inr rfl))⟩
    · exact absurd stack free
  | store i point =>
    have saved : ∀ e ∈ told κ emberGpdStoreSecDataToNV s.device, IsQuiet e :=
      told_quiet (rfl : _ = [_] ++ s.device.log) (by simp [IsSilent])
    exact h.quiet _ saved (act_trace _ s) rfl (fun _ => rfl) id
      (fun due => absurd due (away point (Or.inl rfl)))
  | postEvent i point =>
    exact h.aside [.announced] (by simp [IsQuiet]) rfl rfl
      (fun due => absurd due (away point (Or.inr (Or.inl rfl))))
  | @wake i found g got =>
    refine h.aside [.woken found] (by simp [IsQuiet]) rfl rfl ?_
    intro due
    cases got with
    | atOnce point here =>
      rcases due with ⟨none, stack, -⟩ | ⟨-, -, at' | at' | at' | at'⟩
      · have taken : .stack ∈ found := by
          rw [here]
          exact Finset.mem_inter.mpr ⟨stack, by decide⟩
        have once : wakeups (.woken found :: s.trace) = wakeups s.trace + 1 := by
          unfold wakeups
          rw [sinceLast_cons (fun executed => executed rfl)]
          exact List.countP_cons_of_pos (decide_eq_true trivial)
        refine Or.inr ⟨?_, Finset.mem_union_right _ taken, Or.inl rfl⟩
        change wakeups (.woken found :: s.trace) ≤ 1
        omega
      all_goals cases point.symm.trans at'
    | readied point => exact absurd due (away point (Or.inr (Or.inr rfl)))
  | block i point apart =>
    refine h.aside [] nothing rfl rfl ?_
    rintro (⟨-, stack, -⟩ | ⟨-, -, at' | at' | at' | at'⟩)
    · exact absurd (by decide : TaskSystem.Flag.stack ∈ gpdTaskMask)
        (Finset.disjoint_left.mp apart stack)
    all_goals cases point.symm.trans at'
  | timeout point =>
    exact h.aside [.expired] (by simp [IsQuiet]) rfl rfl
      (fun due => absurd due (away point (Or.inr (Or.inr rfl))))
  | handlePacket point => exact h.handlePacket b (attended point)
  | packet =>
    exact h.quiet [] nothing rfl rfl (fun _ => rfl) id
      (fun due => due.kept rfl (Finset.mem_union_left _) id rfl)
  | linklayerWake got =>
    exact h.elsewhere [] none rfl rfl (disciplined.mem_obtained got
      (by decide : TaskSystem.Flag.stack ∉ linklayerMask)).mpr rfl rfl
  | appWake got =>
    exact h.elsewhere [.noticed] (by simp [IsQuiet, IsWakeup]) rfl rfl
      (disciplined.mem_obtained got (by decide : TaskSystem.Flag.stack ∉ appMask)).mpr rfl rfl
  | clientWake k id got =>
    exact h.elsewhere [] none rfl rfl (disciplined.mem_obtained got
      (by decide : TaskSystem.Flag.stack ∉ clientMask)).mpr rfl rfl
  | linklayerBlock | appBlock | enter | clientBlock | leave =>
    exact h.elsewhere [] none rfl rfl id rfl rfl
  | handleEvent =>
    exact h.elsewhere [.handled s.gpdEvtId] (by simp [IsQuiet, IsWakeup]) rfl rfl id rfl rfl
  | call k cmd =>
    exact h.elsewhere [.called k cmd] (by simp [IsQuiet, IsWakeup]) rfl rfl id rfl rfl
  | readResponse k =>
    exact h.elsewhere [.returned k s.gpdRsp] (by simp [IsQuiet, IsWakeup]) rfl rfl id rfl rfl
  | postHandled =>
    exact h.elsewhere [.answered] (by simp [IsQuiet, IsWakeup]) rfl rfl (Finset.mem_union_left _)
      rfl rfl
  | postCommand => exact h.elsewhere [] none rfl rfl (Finset.mem_union_left _) rfl rfl

theorem serving_start (κ : Type) (b : Build) (log : List Event) : Serving (start κ b log) := by
  have booted := (AttemptIndependence.powerUp_fresh b log).sweeps
  refine ⟨?_, ?_, ?_, ?_⟩
  · change (powerUp b log).chReqSubstate ≤ _
    rw [booted]
    decide
  · intro newer mid older id id' eq
    simp [start] at eq
  · rintro (out | out) <;> cases out
  · intro id last
    cases last

/-- In every run of one client in which no command is executed, and no command received that sets
the state, while one is outstanding: the calls are whole, each is acknowledged, and what it
stands for is on the air before the next one takes effect. -/
theorem commands_served (ccm : Ccm) (locks : Bool) (log : List Event) {s : Sys Unit}
    (run : RunOf (shipped ccm) locks (Attended (shipped ccm)) (start Unit (shipped ccm) log) s) :
    (∃ done, Complete reply done ∧ (calls s.trace = done ∨ ∃ k id,
      calls s.trace = .called k id :: done ∨
      calls s.trace = .executed id :: .called k id :: done)) ∧
    EachServed s.trace ∧ LastServed s := by
  have requesting : Requesting (shipped ccm) :=
    ⟨rfl, List.cons_ne_nil _ _, show 4 ≠ 0 by decide, show 4 ≠ 0 by decide⟩
  have fits : RequestFits (shipped ccm) := by
    have length : RequestPayload.requestLength (shipped ccm) = 28 := rfl
    unfold RequestFits
    rw [length]
    decide
  have holds : FlagsSound s ∧ Bracketed locks s ∧ Serving s := by
    refine run_preserves (I := fun t => FlagsSound t ∧ Bracketed locks t ∧ Serving t) ?_ run
      ⟨flagsSound_start Unit _ log, bracketed_start (Or.inr inferInstance) log,
        serving_start Unit _ log⟩
    rintro t m t' tick attended ⟨flags, bracketed, serving⟩
    exact ⟨flags.tick tick, bracketed.tick tick, serving.tick requesting fits flags tick attended⟩
  obtain ⟨-, bracketed, serving⟩ := holds
  refine ⟨bracketed.orderly.history_shape, serving.each, ?_⟩
  intro rests id last
  by_cases out : Outstanding s.trace
  · have due := (serving.owing out).due
    rcases rests with waits | woken
    · rcases due with ⟨-, -, at' | at' | at' | at'⟩ | ⟨-, -, at' | at' | at' | at'⟩
      all_goals exact nomatch waits.symm.trans at'
    · rcases due with ⟨never, -⟩ | ⟨once, -⟩ <;> omega
  · exact (serving.served id last out).1

end

def sendMoves : List (Move Unit) :=
  List.replicate 4 (.client () .send) ++ List.replicate 18 (.gpdTask ⟨[], [], []⟩)

/-- The client is back with its second send before `GpdTask` has got to the first. -/
def hastyMoves : List (Move Unit) :=
  let task := Move.gpdTask ⟨[], [], []⟩
  [task, task, task] ++ List.replicate 4 (.client () .send) ++ List.replicate 4 task ++
    List.replicate 7 (.client () .send) ++ List.replicate 4 task

theorem send_served : ∃ s : Sys Unit, latest s.trace = some .send ∧
    (framesIn (sinceLast IsExecuted s.trace)).count toggleFrame = 1 := by
  have seen : (follow (shipped (AesCipher.aesCcm tagSize)) false
      (Attended (shipped (AesCipher.aesCcm tagSize)))
      (start Unit (shipped (AesCipher.aesCcm tagSize)) []) sendMoves).map
      (fun s => (latest s.trace, s.gpdTask)) = some (some .send, .waiting) := by
    decide +kernel
  obtain ⟨s, run, same⟩ := Option.map_eq_some_iff.mp seen
  obtain ⟨last, waits⟩ := Prod.mk.inj same
  obtain ⟨-, -, served⟩ := commands_served _ false [] (Runs.run_of_follow _ run)
  exact ⟨s, last, served (Or.inl waits) .send last⟩

/-- Without the condition: both calls return, and the first is not followed by a toggle. -/
theorem hasty_send_lost : ¬ ∀ s : Sys Unit,
    Run (shipped (AesCipher.aesCcm tagSize)) false
      (start Unit (shipped (AesCipher.aesCcm tagSize)) []) s →
    (∃ done, Complete reply done ∧ (calls s.trace = done ∨ ∃ k id,
      calls s.trace = .called k id :: done ∨
      calls s.trace = .executed id :: .called k id :: done)) ∧
    EachServed s.trace ∧ LastServed s := by
  intro claimed
  have seen : (follow (shipped (AesCipher.aesCcm tagSize)) false (fun _ _ => True)
      (start Unit (shipped (AesCipher.aesCcm tagSize)) []) hastyMoves).map Sys.trace =
      some [.device (.setState appStateOperationalCommandRequest), .executed .send,
        .woken {.stack, .cmdWaiting}, .called () .send, .returned () ⟨.send, 0⟩,
        .device (.setState appStateOperationalCommandRequest), .executed .send,
        .woken {.cmdWaiting}, .called () .send] := by
    decide +kernel
  obtain ⟨s, run, trace⟩ := Option.map_eq_some_iff.mp seen
  obtain ⟨-, each, -⟩ := claimed s (Runs.run_of_follow _ run)
  have served := each [.device (.setState appStateOperationalCommandRequest)]
    [.woken {.stack, .cmdWaiting}, .called () .send, .returned () ⟨.send, 0⟩,
      .device (.setState appStateOperationalCommandRequest)]
    [.woken {.cmdWaiting}, .called () .send] .send .send
  have served := served trace (by simp [IsExecuted, executedId])
  change 0 = 1 at served
  omega

end GreenPower.CommandService
