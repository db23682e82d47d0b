import GreenPower.TaskSystem

set_option autoImplicit false

/-!
What one step of the task system can be. An invariant is proved per constructor of `Tick`; the
control flow of the tasks is looked at in `step_tick` only.
-/
namespace GreenPower.TaskSteps
open BuildOptions DeviceState NonVolatile IncomingMessage GpdTask EventFlags FlagGroup TaskSystem

section
variable {κ : Type} [DecidableEq κ]

inductive Tick (b : Build) (locks : Bool) (s : Sys κ) : Move κ → Sys κ → Prop
  | command (i : Surroundings) (point : s.gpdTask = .top)
      (asked : .cmdWaiting ∈ s.flags) :
      Tick b locks s (.gpdTask i)
        { act (commandBranch s.gpdCmdId) (note (.executed s.gpdCmdId) s) with gpdTask := .respond }
  | noCommand (i : Surroundings) (point : s.gpdTask = .top)
      (free : .cmdWaiting ∉ s.flags) :
      Tick b locks s (.gpdTask i) { s with gpdTask := .update }
  | respond (i : Surroundings) (point : s.gpdTask = .respond) :
      Tick b locks s (.gpdTask i)
        { s with
          gpdRsp := ⟨s.gpdCmdId, 0⟩
          flags := s.flags.erase .cmdWaiting
          gpdTask := .postResponse }
  | postResponse (i : Surroundings) (point : s.gpdTask = .postResponse) :
      Tick b locks s (.gpdTask i)
        { post .rspWaiting s with gpdTask := .update }
  | round (i : Surroundings) (point : s.gpdTask = .update)
      (due : .stack ∈ s.flags) :
      Tick b locks s (.gpdTask i)
        { updateRound b i s with gpdTask := .store }
  | noRound (i : Surroundings) (point : s.gpdTask = .update)
      (free : .stack ∉ s.flags) :
      Tick b locks s (.gpdTask i) { s with gpdTask := .pend }
  | store (i : Surroundings) (point : s.gpdTask = .store) :
      Tick b locks s (.gpdTask i)
        { act emberGpdStoreSecDataToNV s with gpdTask := .postEvent }
  | postEvent (i : Surroundings) (point : s.gpdTask = .postEvent) :
      Tick b locks s (.gpdTask i)
        { note .announced (post .evtWaiting s) with
          flags := s.flags.erase .evtHandled
          gpdTask := .pend }
  | wake (i : Surroundings) {found : Finset Flag}
      {g : FlagGroup (TaskId κ) Flag}
      (got : Obtains (s.gpdTask = .pend) (s.gpdTask = .waiting) .gpdTask gpdTaskMask
        s.gpdEventFlags found g) :
      Tick b locks s (.gpdTask i) (takeFlags found g s)
  | block (i : Surroundings) (point : s.gpdTask = .pend)
      (apart : Disjoint s.gpdEventFlags.flags gpdTaskMask) :
      Tick b locks s (.gpdTask i)
        { s with
          gpdEventFlags := s.gpdEventFlags.setWait .gpdTask (.pending gpdTaskMask)
          gpdTask := .waiting }
  | timeout (point : s.gpdTask = .waiting) (ticks : s.taskTimeoutTicks ≠ 0)
      (pending : ∃ m, s.gpdEventFlags.wait .gpdTask = .pending m) :
      Tick b locks s .timeout
        (note .expired
          { s with
            gpdEventFlags := s.gpdEventFlags.setWait .gpdTask .running
            gpdTask := .top })
  | packet (packet : List UInt8) : Tick b locks s (.packet packet) (packetStep packet s)
  | linklayerWake {found : Finset Flag} {g : FlagGroup (TaskId κ) Flag}
      (got : Obtains (s.gpdLinklayerTask = .pend) (s.gpdLinklayerTask = .waiting) .gpdLinklayerTask linklayerMask
        s.gpdEventFlags found g) :
      Tick b locks s .gpdLinklayerTask
        { s with gpdEventFlags := g, gpdLinklayerTask := .handle }
  | linklayerBlock (point : s.gpdLinklayerTask = .pend)
      (apart : Disjoint s.gpdEventFlags.flags linklayerMask) :
      Tick b locks s .gpdLinklayerTask
        { s with
          gpdEventFlags := s.gpdEventFlags.setWait .gpdLinklayerTask (.pending linklayerMask)
          gpdLinklayerTask := .waiting }
  | handlePacket (point : s.gpdLinklayerTask = .handle) :
      Tick b locks s .gpdLinklayerTask
        { act (emberGpdIncomingMessageHandler b) (note .received s) with
          gpdLinklayerTask := .pend }
  | appWake {found : Finset Flag} {g : FlagGroup (TaskId κ) Flag}
      (got : Obtains (s.gpdAppTask = .pend) (s.gpdAppTask = .waiting) .gpdAppTask appMask
        s.gpdEventFlags found g) :
      Tick b locks s .gpdAppTask
        (note .noticed { s with gpdEventFlags := g, gpdAppTask := .handle })
  | appBlock (point : s.gpdAppTask = .pend) (apart : Disjoint s.gpdEventFlags.flags appMask) :
      Tick b locks s .gpdAppTask
        { s with
          gpdEventFlags := s.gpdEventFlags.setWait .gpdAppTask (.pending appMask)
          gpdAppTask := .waiting }
  | handleEvent (point : s.gpdAppTask = .handle) :
      Tick b locks s .gpdAppTask
        { note (.handled s.gpdEvtId) s with gpdAppTask := .postHandled }
  | postHandled (point : s.gpdAppTask = .postHandled) :
      Tick b locks s .gpdAppTask
        { note .answered (post .evtHandled s) with gpdAppTask := .pend }
  | enter (k : κ) (id : CmdId) (point : s.client k = .outside)
      (free : locks = true → s.gpdMutex = none) :
      Tick b locks s (.client k id)
        (setClient k .store { s with gpdMutex := if locks then some k else s.gpdMutex })
  | call (k : κ) (id : CmdId) (point : s.client k = .store) :
      Tick b locks s (.client k id)
        (setClient k .postCommand (note (.called k id) { s with gpdCmdId := id }))
  | postCommand (k : κ) (id : CmdId) (point : s.client k = .postCommand) :
      Tick b locks s (.client k id) (setClient k .pend (post .cmdWaiting s))
  | clientWake (k : κ) (id : CmdId) {found : Finset Flag} {g : FlagGroup (TaskId κ) Flag}
      (got : Obtains (s.client k = .pend) (s.client k = .waiting) (.client k) clientMask
        s.gpdEventFlags found g) :
      Tick b locks s (.client k id) (setClient k .readResponse { s with gpdEventFlags := g })
  | clientBlock (k : κ) (id : CmdId) (point : s.client k = .pend)
      (apart : Disjoint s.gpdEventFlags.flags clientMask) :
      Tick b locks s (.client k id)
        (setClient k .waiting
          { s with gpdEventFlags := s.gpdEventFlags.setWait (.client k) (.pending clientMask) })
  | readResponse (k : κ) (id : CmdId) (point : s.client k = .readResponse) :
      Tick b locks s (.client k id) (setClient k .leave (note (.returned k s.gpdRsp) s))
  | leave (k : κ) (id : CmdId) (point : s.client k = .leave) :
      Tick b locks s (.client k id)
        (setClient k .outside { s with gpdMutex := if locks then none else s.gpdMutex })

variable {b : Build} {locks : Bool} {s s' : Sys κ}

theorem gpdTaskStep_tick {i : Surroundings} (h : gpdTaskStep b i s = some s') :
    Tick b locks s (.gpdTask i) s' := by
  unfold gpdTaskStep at h
  cases point : s.gpdTask with
  | top =>
    simp only [point] at h
    split_ifs at h with asked
    · exact Option.some.inj h ▸ .command _ point asked
    · exact Option.some.inj h ▸ .noCommand _ point asked
  | respond =>
    simp only [point] at h
    exact Option.some.inj h ▸ .respond _ point
  | postResponse =>
    simp only [point] at h
    exact Option.some.inj h ▸ .postResponse _ point
  | update =>
    simp only [point] at h
    split_ifs at h with due
    · exact Option.some.inj h ▸ .round _ point due
    · exact Option.some.inj h ▸ .noRound _ point due
  | store =>
    simp only [point] at h
    exact Option.some.inj h ▸ .store _ point
  | postEvent =>
    simp only [point] at h
    exact Option.some.inj h ▸ .postEvent _ point
  | pend =>
    simp only [point] at h
    split at h
    · rename_i found g got
      exact Option.some.inj h ▸ .wake _ (pend_some point got)
    · rename_i g none
      obtain ⟨apart, rfl⟩ := pend_none none
      exact Option.some.inj h ▸ .block _ point apart
  | waiting =>
    simp only [point] at h
    split at h
    · rename_i found g got
      exact Option.some.inj h ▸ .wake _ (resume_some point got _)
    · simp at h

theorem timeoutStep_tick (h : timeoutStep s = some s') : Tick b locks s .timeout s' := by
  unfold timeoutStep at h
  split_ifs at h with waits
  split at h
  · rename_i g expired
    obtain ⟨pending, rfl⟩ := expire_some expired
    exact Option.some.inj h ▸ .timeout waits.1 waits.2 pending
  · simp at h

theorem linklayerStep_tick (h : linklayerStep b s = some s') :
    Tick b locks s .gpdLinklayerTask s' := by
  unfold linklayerStep at h
  cases point : s.gpdLinklayerTask with
  | pend =>
    simp only [point] at h
    split at h
    · rename_i found g got
      exact Option.some.inj h ▸ .linklayerWake (pend_some point got)
    · rename_i g none
      obtain ⟨apart, rfl⟩ := pend_none none
      exact Option.some.inj h ▸ .linklayerBlock point apart
  | waiting =>
    simp only [point] at h
    split at h
    · rename_i found g got
      exact Option.some.inj h ▸ .linklayerWake (resume_some point got _)
    · simp at h
  | handle =>
    simp only [point] at h
    exact Option.some.inj h ▸ .handlePacket point

theorem gpdAppStep_tick (h : gpdAppStep s = some s') : Tick b locks s .gpdAppTask s' := by
  unfold gpdAppStep at h
  cases point : s.gpdAppTask with
  | pend =>
    simp only [point] at h
    split at h
    · rename_i found g got
      exact Option.some.inj h ▸ .appWake (pend_some point got)
    · rename_i g none
      obtain ⟨apart, rfl⟩ := pend_none none
      exact Option.some.inj h ▸ .appBlock point apart
  | waiting =>
    simp only [point] at h
    split at h
    · rename_i found g got
      exact Option.some.inj h ▸ .appWake (resume_some point got _)
    · simp at h
  | handle =>
    simp only [point] at h
    exact Option.some.inj h ▸ .handleEvent point
  | postHandled =>
    simp only [point] at h
    exact Option.some.inj h ▸ .postHandled point

theorem clientStep_tick {k : κ} {id : CmdId} (h : clientStep locks k id s = some s') :
    Tick b locks s (.client k id) s' := by
  unfold clientStep at h
  cases point : s.client k with
  | outside =>
    simp only [point] at h
    by_cases taken : locks = true ∧ s.gpdMutex ≠ none
    · rw [if_pos taken] at h
      simp at h
    · rw [if_neg taken] at h
      refine Option.some.inj h ▸ .enter k id point ?_
      intro locked
      by_contra held
      exact taken ⟨locked, held⟩
  | store =>
    simp only [point] at h
    exact Option.some.inj h ▸ .call k id point
  | postCommand =>
    simp only [point] at h
    exact Option.some.inj h ▸ .postCommand k id point
  | pend =>
    simp only [point] at h
    split at h
    · rename_i found g got
      exact Option.some.inj h ▸ .clientWake k id (pend_some point got)
    · rename_i g none
      obtain ⟨apart, rfl⟩ := pend_none none
      exact Option.some.inj h ▸ .clientBlock k id point apart
  | waiting =>
    simp only [point] at h
    split at h
    · rename_i found g got
      exact Option.some.inj h ▸ .clientWake k id (resume_some point got _)
    · simp at h
  | readResponse =>
    simp only [point] at h
    exact Option.some.inj h ▸ .readResponse k id point
  | leave =>
    simp only [point] at h
    exact Option.some.inj h ▸ .leave k id point

theorem step_tick {m : Move κ} (h : step b locks s m = some s') : Tick b locks s m s' := by
  cases m with
  | gpdTask i => exact gpdTaskStep_tick h
  | timeout => exact timeoutStep_tick h
  | gpdLinklayerTask => exact linklayerStep_tick h
  | packet packet => exact Option.some.inj h ▸ .packet packet
  | gpdAppTask => exact gpdAppStep_tick h
  | client k id => exact clientStep_tick h

def Waits (s : Sys κ) : TaskId κ → Prop
  | .gpdTask => s.gpdTask = .waiting
  | .gpdLinklayerTask => s.gpdLinklayerTask = .waiting
  | .gpdAppTask => s.gpdAppTask = .waiting
  | .client k => s.client k = .waiting

/-- The task a move belongs to; the radio's interrupt belongs to none. -/
def actor : Move κ → Option (TaskId κ)
  | .gpdTask _ => some .gpdTask
  | .timeout => some .gpdTask
  | .gpdLinklayerTask => some .gpdLinklayerTask
  | .packet _ => none
  | .gpdAppTask => some .gpdAppTask
  | .client k _ => some (.client k)

theorem setClient_other (k : κ) (p : ClientPoint) (s : Sys κ) {j : κ} (other : j ≠ k) :
    (setClient k p s).client j = s.client j := by
  change Function.update s.client k p j = s.client j
  rw [Function.update_of_ne other]

theorem setClient_self (k : κ) (p : ClientPoint) (s : Sys κ) : (setClient k p s).client k = p := by
  change Function.update s.client k p k = p
  rw [Function.update_self]

theorem Tick.others {m : Move κ} (h : Tick b locks s m s') (u : TaskId κ)
    (other : actor m ≠ some u) : Waits s' u ↔ Waits s u := by
  have client {k : κ} {p : ClientPoint} {r : Sys κ} (linklayer : r.gpdLinklayerTask = s.gpdLinklayerTask)
      (app : r.gpdAppTask = s.gpdAppTask) (task : r.gpdTask = s.gpdTask)
      (client : r.client = s.client) (other : u ≠ .client k) :
      Waits (setClient k p r) u ↔ Waits s u := by
    cases u with
    | gpdTask => exact iff_of_eq (congrArg (· = GpdTaskPoint.waiting) task)
    | gpdLinklayerTask => exact iff_of_eq (congrArg (· = LinklayerPoint.waiting) linklayer)
    | gpdAppTask => exact iff_of_eq (congrArg (· = AppPoint.waiting) app)
    | client j =>
      have different : j ≠ k := fun same => other (same ▸ rfl)
      change (setClient k p r).client j = .waiting ↔ _
      rw [setClient_other k p r different, client]
      rfl
  cases h with
  | enter k | call k | postCommand k | clientWake k | clientBlock k | readResponse k | leave k =>
    exact client rfl rfl rfl rfl (fun same => other (same ▸ rfl))
  | packet => exact Iff.rfl
  | linklayerWake | linklayerBlock | handlePacket =>
    cases u with
    | gpdLinklayerTask => exact absurd rfl other
    | gpdTask | gpdAppTask | client => exact Iff.rfl
  | appWake | appBlock | handleEvent | postHandled =>
    cases u with
    | gpdAppTask => exact absurd rfl other
    | gpdTask | gpdLinklayerTask | client => exact Iff.rfl
  | command | noCommand | respond | postResponse | round | noRound | store | postEvent | wake | block
      | timeout =>
    cases u with
    | gpdTask => exact absurd rfl other
    | gpdLinklayerTask | gpdAppTask | client => exact Iff.rfl

theorem turn_gpdUpdates {waits waits' : TaskId κ → Prop} {actor : Option (TaskId κ)}
    (new : List Event) (g : FlagGroup (TaskId κ) Flag)
    (out : ∀ t, actor = some t → ¬ waits t ∧ ¬ waits' t) :
    Turn taskMask waits waits' g actor (gpdUpdates new g) := by
  unfold gpdUpdates
  split_ifs
  · exact .post actor {Flag.stack} out
  · exact .still actor out

theorem Tick.turn {m : Move κ} (h : Tick b locks s m s') :
    Turn taskMask (Waits s) (Waits s') s.gpdEventFlags (actor m) s'.gpdEventFlags := by
  have out {t : TaskId κ} {w w' : TaskId κ → Prop} (before : ¬ w t) (after : ¬ w' t) :
      ∀ u, some t = some u → ¬ w u ∧ ¬ w' u := by
    rintro u ⟨⟩
    exact ⟨before, after⟩
  have moved {k : κ} {p : ClientPoint} {r : Sys κ} (other : p ≠ .waiting) :
      ¬ Waits (setClient k p r) (.client k) :=
    fun w => other ((setClient_self k p r).symm.trans w)
  cases h with
  | command i point =>
    exact turn_gpdUpdates _ _ (out (fun w => nomatch point.symm.trans w) (fun w => nomatch w))
  | noCommand i point | respond i point | noRound i point =>
    exact .still _ (out (fun w => nomatch point.symm.trans w) (fun w => nomatch w))
  | postResponse i point | postEvent i point =>
    exact .post _ _ (out (fun w => nomatch point.symm.trans w) (fun w => nomatch w))
  | round i point | store i point =>
    exact turn_gpdUpdates _ _ (out (fun w => nomatch point.symm.trans w) (fun w => nomatch w))
  | wake i got =>
    refine Turn.obtain TaskId.gpdTask ?_ got (fun w => nomatch w)
    exact fun point w => nomatch point.symm.trans w
  | block i point apart => exact Turn.block TaskId.gpdTask apart rfl
  | timeout point ticks pending => exact Turn.expire TaskId.gpdTask (fun w => nomatch w)
  | packet => exact .post _ _ (fun _ same => nomatch same)
  | linklayerWake got =>
    refine Turn.obtain TaskId.gpdLinklayerTask ?_ got (fun w => nomatch w)
    exact fun point w => nomatch point.symm.trans w
  | linklayerBlock point apart => exact Turn.block TaskId.gpdLinklayerTask apart rfl
  | handlePacket point =>
    exact turn_gpdUpdates _ _ (out (fun w => nomatch point.symm.trans w) (fun w => nomatch w))
  | appWake got =>
    refine Turn.obtain TaskId.gpdAppTask ?_ got (fun w => nomatch w)
    exact fun point w => nomatch point.symm.trans w
  | appBlock point apart => exact Turn.block TaskId.gpdAppTask apart rfl
  | handleEvent point =>
    exact .still _ (out (fun w => nomatch point.symm.trans w) (fun w => nomatch w))
  | postHandled point =>
    exact .post _ _ (out (fun w => nomatch point.symm.trans w) (fun w => nomatch w))
  | enter k id point | call k id point | readResponse k id point | leave k id point =>
    exact .still _ (out (fun w => nomatch point.symm.trans w) (moved (by decide)))
  | postCommand k id point =>
    exact .post _ _ (out (fun w => nomatch point.symm.trans w) (moved (by decide)))
  | clientWake k id got =>
    refine Turn.obtain (TaskId.client k) ?_ got (moved (by decide))
    exact fun point w => nomatch point.symm.trans w
  | clientBlock k id point apart => exact Turn.block (TaskId.client k) apart (setClient_self k _ _)

theorem sound_start (κ : Type) [DecidableEq κ] (b : Build) (log : List Event) :
    Sound taskMask (Waits (start κ b log)) (start κ b log).gpdEventFlags where
  disciplined :=
    { pending := fun _ _ waits => nomatch waits
      ready := fun _ _ ready => nomatch ready }
  running := fun _ _ => rfl

/-- What no step breaks holds throughout a run. -/
theorem run_preserves {ok : Sys κ → Move κ → Prop} {I : Sys κ → Prop}
    (keeps : ∀ s m s', Tick b locks s m s' → ok s m → I s → I s') (run : RunOf b locks ok s s')
    (h : I s) : I s' :=
  run.preserves (fun s m s' next => keeps s m s' (step_tick next)) h

def FlagsSound (s : Sys κ) : Prop :=
  Sound taskMask (Waits s) s.gpdEventFlags ∧
    ∀ t, (∀ k, t ≠ .client k) → Held t s.gpdEventFlags

omit [DecidableEq κ] in
theorem taskMask_apart {t u : TaskId κ} (different : u ≠ t) (own : ∀ k, t ≠ .client k) :
    Disjoint (taskMask t) (taskMask u) := by
  cases t with
  | client k => exact absurd rfl (own k)
  | gpdTask =>
    cases u with
    | gpdTask => exact absurd rfl different
    | gpdLinklayerTask => exact (by decide : Disjoint gpdTaskMask linklayerMask)
    | gpdAppTask => exact (by decide : Disjoint gpdTaskMask appMask)
    | client k => exact (by decide : Disjoint gpdTaskMask clientMask)
  | gpdLinklayerTask =>
    cases u with
    | gpdTask => exact (by decide : Disjoint linklayerMask gpdTaskMask)
    | gpdLinklayerTask => exact absurd rfl different
    | gpdAppTask => exact (by decide : Disjoint linklayerMask appMask)
    | client k => exact (by decide : Disjoint linklayerMask clientMask)
  | gpdAppTask =>
    cases u with
    | gpdTask => exact (by decide : Disjoint appMask gpdTaskMask)
    | gpdLinklayerTask => exact (by decide : Disjoint appMask linklayerMask)
    | gpdAppTask => exact absurd rfl different
    | client k => exact (by decide : Disjoint appMask clientMask)

theorem FlagsSound.tick {m : Move κ} (h : FlagsSound s) (tick : Tick b locks s m s') :
    FlagsSound s' :=
  ⟨h.1.turn tick.turn tick.others, fun t own => (h.2 t own).turn h.1 tick.turn
    (fun _ _ different => taskMask_apart different own)⟩

theorem flagsSound_start (κ : Type) [DecidableEq κ] (b : Build) (log : List Event) :
    FlagsSound (start κ b log) :=
  ⟨sound_start κ b log, fun _ _ _ ready => nomatch ready⟩

theorem since_eq {d d' : Device} {new : List Event} (h : d'.log = new ++ d.log) :
    since d d' = new := by
  unfold since
  rw [h, List.length_append, Nat.add_sub_cancel, List.take_left]

omit [DecidableEq κ] in
/-- `GpdUpdate` was called and the trace shows it, or the group is as before. -/
theorem gpdUpdates_cases (new : List Event) (g : FlagGroup (TaskId κ) Flag) :
    (∃ st, .setState st ∈ new) ∧ gpdUpdates new g = g.post {.stack} ∨
      (∀ st, .setState st ∉ new) ∧ gpdUpdates new g = g := by
  unfold gpdUpdates
  by_cases posts : new.any isSetState = true
  · obtain ⟨e, he, sets⟩ := List.any_eq_true.mp posts
    refine Or.inl ⟨?_, if_pos posts⟩
    cases e with
    | setState st => exact ⟨st, he⟩
    | _ => simp [isSetState] at sets
  · exact Or.inr ⟨fun st he => posts (List.any_eq_true.mpr ⟨_, he, rfl⟩), if_neg posts⟩

omit [DecidableEq κ] in
theorem mem_gpdUpdates {new : List Event} {g : FlagGroup (TaskId κ) Flag}
    {flag : Flag} (other : flag ≠ .stack) :
    flag ∈ (gpdUpdates new g).flags ↔ flag ∈ g.flags := by
  unfold gpdUpdates
  split_ifs <;> simp [other]

def told (κ : Type) (f : Device → Device) (d : Device) : List (TaskEvent κ) :=
  (since d (f d)).map .device

omit [DecidableEq κ] in
theorem told_eq {f : Device → Device} {d : Device} {new : List Event}
    (h : (f d).log = new ++ d.log) : told κ f d = new.map .device := by
  unfold told
  rw [since_eq h]

omit [DecidableEq κ] in
theorem act_trace (f : Device → Device) (s : Sys κ) :
    (act f s).trace = told κ f s.device ++ s.trace := rfl

omit [DecidableEq κ] in
theorem updateRound_trace (b : Build) (i : Surroundings) (s : Sys κ) :
    (updateRound b i s).trace = told κ (stateSwitchIn b i) s.device ++
      .round s.device.gpdNode.gpdState :: s.trace := rfl

omit [DecidableEq κ] in
theorem act_note_trace (f : Device → Device) (e : TaskEvent κ) (s : Sys κ) :
    (act f (note e s)).trace = (told κ f s.device ++ [e]) ++ s.trace :=
  List.append_cons _ _ _

/-- The trace only grows. -/
theorem Tick.trace_suffix {m : Move κ} (h : Tick b locks s m s') : s.trace <:+ s'.trace := by
  cases h with
  | command | handlePacket =>
    rw [act_note_trace]
    exact List.suffix_append _ _
  | round => exact (List.suffix_cons _ _).trans (List.suffix_append _ _)
  | store => exact List.suffix_append _ _
  | postEvent | wake | timeout | appWake | handleEvent | postHandled | call | readResponse =>
    exact List.suffix_cons _ _
  | noCommand | respond | postResponse | noRound | block | packet | linklayerWake | linklayerBlock
  | appBlock | enter | postCommand | clientWake | clientBlock | leave =>
    exact List.suffix_rfl

end

end GreenPower.TaskSteps
