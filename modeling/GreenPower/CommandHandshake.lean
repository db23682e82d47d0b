import GreenPower.AesCipher
import GreenPower.SlotServer
import GreenPower.TaskSteps

set_option autoImplicit false

/-!
Clients that hold the mutex around `gpd_cmd_*`, with `GpdTask` as the server of their commands.
-/
namespace GreenPower.CommandHandshake
open BuildOptions DeviceState NonVolatile IncomingMessage GpdTask EventFlags FlagGroup TaskSystem
  TaskSteps SlotServer

def reply (id : CmdId) : Rsp := ⟨id, 0⟩

def callPoint : ClientPoint → CallPoint
  | .outside => .out
  | .store => .preparing
  | .postCommand => .stored
  | .pend => .asking
  | .waiting => .asking
  | .readResponse => .released
  | .leave => .out

def serverPoint : GpdTaskPoint → ServerPoint
  | .top => .idle
  | .respond => .serving
  | .postResponse => .answering
  | .update => .idle
  | .store => .idle
  | .postEvent => .idle
  | .pend => .idle
  | .waiting => .idle

section
variable {κ : Type}

def happening : TaskEvent κ → Option (Happening κ CmdId Rsp)
  | .called k id => some (.called k id)
  | .executed id => some (.executed id)
  | .returned k rsp => some (.returned k rsp)
  | .woken _ => none
  | .expired => none
  | .round _ => none
  | .announced => none
  | .noticed => none
  | .handled _ => none
  | .answered => none
  | .received => none
  | .device _ => none

def calls (trace : List (TaskEvent κ)) : List (Happening κ CmdId Rsp) := trace.filterMap happening

def Asked (s : Sys κ) : Prop := .cmdWaiting ∈ s.gpdEventFlags.flags ∨ .cmdWaiting ∈ s.flags

instance (s : Sys κ) : Decidable (Asked s) := by
  unfold Asked
  infer_instance

def view (s : Sys κ) : State κ CmdId Rsp where
  caller k := callPoint (s.client k)
  slot := s.gpdCmdId
  asked := decide (Asked s)
  server := serverPoint s.gpdTask
  answer := s.gpdRsp
  answered := decide (.rspWaiting ∈ s.gpdEventFlags.flags)
  history := calls s.trace

theorem calls_device (events : List Event) (trace : List (TaskEvent κ)) :
    calls (events.map .device ++ trace) = calls trace := by
  unfold calls
  rw [List.filterMap_append]
  induction events with
  | nil => rfl
  | cons e events ih => exact ih

variable {s s' : Sys κ}

/-- A step in which no command moves on. -/
theorem view_eq (client : ∀ k, callPoint (s'.client k) = callPoint (s.client k))
    (cmdId : s'.gpdCmdId = s.gpdCmdId) (asked : Asked s' ↔ Asked s)
    (server : serverPoint s'.gpdTask = serverPoint s.gpdTask) (rsp : s'.gpdRsp = s.gpdRsp)
    (answered : .rspWaiting ∈ s'.gpdEventFlags.flags ↔ .rspWaiting ∈ s.gpdEventFlags.flags)
    (history : calls s'.trace = calls s.trace) : view s' = view s := by
  apply State.ext
  · exact funext client
  · exact cmdId
  · exact decide_eq_decide.mpr asked
  · exact server
  · exact rsp
  · exact decide_eq_decide.mpr answered
  · exact history

variable [DecidableEq κ] {b : Build} {locks : Bool}

/-- The state of calls that do not overlap: the clients lock, or there is only one. -/
structure Bracketed (locks : Bool) (s : Sys κ) : Prop where
  exclusive : locks = true ∨ Subsingleton κ
  sound : FlagsSound s
  clients : ∀ k, Held (.client k) s.gpdEventFlags
  mutex : locks = true → ∀ k, s.client k ≠ .outside → s.gpdMutex = some k
  once : .cmdWaiting ∈ s.gpdEventFlags.flags → .cmdWaiting ∉ s.flags
  responding : s.gpdTask = .respond → .cmdWaiting ∈ s.flags
  orderly : Orderly reply (view s)

/-- Inside the bracket a client is alone. -/
theorem Bracketed.alone (h : Bracketed locks s) {j k : κ} {id : CmdId}
    (tick : Tick b locks s (.client j id) s') (other : j ≠ k) : s.client k = .outside := by
  by_contra inside
  obtain locked | single := h.exclusive
  swap
  · exact other (Subsingleton.elim j k)
  have held := h.mutex locked k inside
  have mine (point : s.client j ≠ .outside) : False := by
    rw [h.mutex locked j point] at held
    exact other (Option.some.inj held)
  cases tick with
  | enter _ _ point free =>
    rw [free locked] at held
    cases held
  | call _ _ point | postCommand _ _ point | clientBlock _ _ point | readResponse _ _ point
  | leave _ _ point => exact mine (by rw [point]; decide)
  | clientWake _ _ got =>
    cases got with
    | atOnce point => exact mine (by rw [point]; decide)
    | readied point => exact mine (by rw [point]; decide)

theorem Bracketed.tick_clients (h : Bracketed locks s) {m : Move κ} (tick : Tick b locks s m s') (k : κ) :
    Held (.client k) s'.gpdEventFlags := by
  by_cases rival : ∃ j, actor m = some (.client j) ∧ j ≠ k
  · obtain ⟨j, acts, other⟩ := rival
    have outside : s.client k = .outside := by
      cases m with
      | client j' id =>
        obtain rfl : j' = j := by simpa [actor] using acts
        exact h.alone tick other
      | gpdTask | timeout | gpdLinklayerTask | packet | gpdAppTask => simp [actor] at acts
    have idle : ¬ Waits s' (.client k) := by
      rw [tick.others (.client k) (by simp [acts, other])]
      change s.client k ≠ .waiting
      rw [outside]
      decide
    apply held_of_not_ready
    rw [(h.sound.tick tick).1.running _ idle]
    exact fun found ready => nomatch ready
  · refine (h.clients k).turn h.sound.1 tick.turn ?_
    intro u acts different
    cases u with
    | client j => exact absurd ⟨j, acts, fun same => different (same ▸ rfl)⟩ rival
    | gpdTask => exact (by decide : Disjoint clientMask gpdTaskMask)
    | gpdLinklayerTask => exact (by decide : Disjoint clientMask linklayerMask)
    | gpdAppTask => exact (by decide : Disjoint clientMask appMask)

theorem Bracketed.tick_mutex (h : Bracketed locks s) {m : Move κ} (tick : Tick b locks s m s')
    (locked : locks = true) (k : κ) (inside : s'.client k ≠ .outside) : s'.gpdMutex = some k := by
  subst locked
  have moved {j : κ} {id : CmdId} (acts : m = .client j id) (other : k ≠ j) : False := by
    subst acts
    have out := h.alone tick (Ne.symm other)
    apply inside
    cases tick with
    | enter | call | postCommand | clientWake | clientBlock | readResponse | leave =>
      rw [setClient_other _ _ _ other]
      exact out
  have stays {j : κ} {id : CmdId} (acts : m = .client j id) (was : s.client j ≠ .outside)
      (mutex : s'.gpdMutex = s.gpdMutex) : s'.gpdMutex = some k := by
    by_cases same : k = j
    · rw [mutex, same]
      exact h.mutex rfl j was
    · exact (moved acts same).elim
  cases tick with
  | enter j id point free =>
    by_cases same : k = j
    · exact congrArg some same.symm
    · exact (moved rfl same).elim
  | call j id point | postCommand j id point | clientBlock j id point | readResponse j id point =>
    exact stays rfl (by rw [point]; decide) rfl
  | clientWake j id got =>
    refine stays rfl ?_ rfl
    cases got with
    | atOnce point => rw [point]; decide
    | readied point => rw [point]; decide
  | leave j id point =>
    by_cases same : k = j
    · subst same
      exact absurd (setClient_self k .outside _) inside
    · exact (moved rfl same).elim
  | command | noCommand | respond | postResponse | round | noRound | store | postEvent | wake | block
  | timeout | packet | linklayerWake | linklayerBlock | handlePacket | appWake | appBlock
  | handleEvent | postHandled => exact h.mutex rfl k inside

theorem Bracketed.tick_once (h : Bracketed locks s) {m : Move κ} (tick : Tick b locks s m s')
    (group : .cmdWaiting ∈ s'.gpdEventFlags.flags) : .cmdWaiting ∉ s'.flags := by
  have disciplined := h.sound.1.disciplined
  cases tick with
  | command | round | store | handlePacket => exact h.once ((mem_gpdUpdates (by decide)).mp group)
  | noCommand | noRound | block | linklayerBlock | appBlock | handleEvent | enter | call
  | clientBlock | readResponse | leave | timeout => exact h.once group
  | respond => exact Finset.notMem_erase _ _
  | postResponse | packet | postHandled =>
    exact h.once ((mem_post_other _ (by decide)).mp group)
  | postEvent =>
    have before := h.once ((mem_post_other _ (by decide)).mp group)
    exact fun inside => before (Finset.mem_of_mem_erase inside)
  | wake i got =>
    rw [takeFlags_group, got.flags, Finset.mem_sdiff] at group
    rw [takeFlags_flags, Finset.mem_union, not_or]
    exact ⟨h.once group.1, group.2⟩
  | linklayerWake got => exact h.once ((disciplined.mem_obtained got
    (by decide : TaskSystem.Flag.cmdWaiting ∉ linklayerMask)).mp group)
  | appWake got => exact h.once ((disciplined.mem_obtained got
    (by decide : TaskSystem.Flag.cmdWaiting ∉ appMask)).mp group)
  | clientWake k id got => exact h.once ((disciplined.mem_obtained got
    (by decide : TaskSystem.Flag.cmdWaiting ∉ clientMask)).mp group)
  | postCommand k id point =>
    have stored : (view s).caller k = .stored := congrArg callPoint point
    obtain ⟨-, unasked, -⟩ := h.orderly.at_stored stored
    exact fun inside => of_decide_eq_false unasked (Or.inr inside)

theorem Bracketed.tick_responding (h : Bracketed locks s) {m : Move κ} (tick : Tick b locks s m s')
    (point : s'.gpdTask = .respond) : .cmdWaiting ∈ s'.flags := by
  cases tick with
  | command i _ asked => exact asked
  | noCommand | respond | postResponse | round | noRound | store | postEvent | wake | block
  | timeout => cases point
  | packet | linklayerWake | linklayerBlock | handlePacket | appWake | appBlock | handleEvent
  | postHandled | enter | call | postCommand | clientWake | clientBlock | readResponse | leave =>
    exact h.responding point

theorem callPoint_update (k : κ) (p : ClientPoint) (s : Sys κ) :
    (fun j => callPoint ((setClient k p s).client j)) =
      Function.update (fun j => callPoint (s.client j)) k (callPoint p) := by
  funext j
  by_cases same : j = k
  · subst same
    rw [setClient_self, Function.update_self]
  · rw [setClient_other k p s same, Function.update_of_ne same]

/-- A client goes on without any effect on the calls. -/
theorem callPoint_kept {k : κ} {p : ClientPoint} (same : callPoint p = callPoint (s.client k)) :
    (fun j => callPoint ((setClient k p s).client j)) = fun j => callPoint (s.client j) := by
  rw [callPoint_update, same]
  exact Function.update_eq_self k _

/-- What `GpdTask` takes from the group it has. -/
theorem Bracketed.asked_takeFlags (h : Bracketed locks s) {found : Finset TaskSystem.Flag}
    {g : FlagGroup (TaskId κ) TaskSystem.Flag} (got : Obtains (s.gpdTask = .pend)
      (s.gpdTask = .waiting) .gpdTask gpdTaskMask s.gpdEventFlags found g) :
    Asked (takeFlags found g s) ↔ Asked s := by
  have held := got.found_subset (h.sound.2 .gpdTask (fun _ same => nomatch same))
  unfold Asked
  rw [takeFlags_group, takeFlags_flags, got.flags, Finset.mem_sdiff, Finset.mem_union]
  constructor
  · rintro (⟨group, -⟩ | here | inside)
    · exact Or.inl group
    · exact Or.inr here
    · exact Or.inl (held inside)
  · rintro (group | here)
    · by_cases inside : TaskSystem.Flag.cmdWaiting ∈ found
      · exact Or.inr (Or.inr inside)
      · exact Or.inl ⟨group, inside⟩
    · exact Or.inr (Or.inl here)

/-- A client that may enter finds no other in a call. -/
theorem Bracketed.callers_out (h : Bracketed locks s) {k : κ} (point : s.client k = .outside)
    (free : locks = true → s.gpdMutex = none) (j : κ) : (view s).caller j = .out := by
  obtain locked | single := h.exclusive
  · by_contra inside
    have mutex := h.mutex locked j (fun outside => inside (congrArg callPoint outside))
    rw [free locked] at mutex
    cases mutex
  · rw [Subsingleton.elim j k]
    exact congrArg callPoint point

/-- The wait of a client ends with the answer, which leaves the group. -/
theorem Bracketed.client_released (h : Bracketed locks s) {k : κ} {found : Finset TaskSystem.Flag}
    {g : FlagGroup (TaskId κ) TaskSystem.Flag} (got : Obtains (s.client k = .pend)
      (s.client k = .waiting) (.client k) clientMask s.gpdEventFlags found g) :
    (view s).caller k = .asking ∧ .rspWaiting ∈ s.gpdEventFlags.flags ∧ .rspWaiting ∉ g.flags := by
  have rsp : .rspWaiting ∈ found := by
    obtain ⟨inside, flag, mem⟩ := h.sound.1.disciplined.found_spec got
    rwa [Finset.mem_singleton.mp (inside mem)] at mem
  refine ⟨?_, got.found_subset (h.clients k) rsp, ?_⟩
  · cases got with
    | atOnce point => exact congrArg callPoint point
    | readied point => exact congrArg callPoint point
  · rw [got.flags]
    exact fun left => (Finset.mem_sdiff.mp left).2 rsp

theorem Bracketed.tick_orderly (h : Bracketed locks s) {m : Move κ} (tick : Tick b locks s m s') :
    Orderly reply (view s') := by
  have disciplined := h.sound.1.disciplined
  have quiet (same : view s' = view s) : Orderly reply (view s') := same ▸ h.orderly
  cases tick with
  | command i point asked =>
    have server : (view s).server = .idle := congrArg serverPoint point
    have next := h.orderly.step (.execute server (decide_eq_true (Or.inr asked)))
    convert next using 1
    apply State.ext
    · rfl
    · rfl
    · exact decide_eq_decide.mpr (or_congr (mem_gpdUpdates (by decide)) Iff.rfl)
    · rfl
    · rfl
    · exact decide_eq_decide.mpr (mem_gpdUpdates (by decide))
    · exact calls_device _ _
  | noCommand i point =>
    exact quiet (view_eq (fun _ => rfl) rfl Iff.rfl (congrArg serverPoint point).symm rfl Iff.rfl rfl)
  | respond i point =>
    have server : (view s).server = .serving := congrArg serverPoint point
    have next := h.orderly.step (.respond server)
    have local' := h.responding point
    convert next using 1
    apply State.ext
    · rfl
    · rfl
    · refine decide_eq_false ?_
      rintro (group | inside)
      · exact h.once group local'
      · exact Finset.notMem_erase _ _ inside
    · rfl
    · rfl
    · rfl
    · rfl
  | postResponse i point =>
    have server : (view s).server = .answering := congrArg serverPoint point
    have next := h.orderly.step (.postAnswer server)
    convert next using 1
    apply State.ext
    · rfl
    · rfl
    · exact decide_eq_decide.mpr (or_congr (mem_post_other _ (by decide)) Iff.rfl)
    · rfl
    · rfl
    · exact decide_eq_true (Finset.mem_union_right _ (Finset.mem_singleton_self _))
    · rfl
  | round i point =>
    exact quiet (view_eq (fun _ => rfl) rfl (or_congr (mem_gpdUpdates (by decide)) Iff.rfl)
      (congrArg serverPoint point).symm rfl (mem_gpdUpdates (by decide)) (calls_device _ _))
  | noRound i point =>
    exact quiet (view_eq (fun _ => rfl) rfl Iff.rfl (congrArg serverPoint point).symm rfl Iff.rfl rfl)
  | store i point =>
    exact quiet (view_eq (fun _ => rfl) rfl (or_congr (mem_gpdUpdates (by decide)) Iff.rfl)
      (congrArg serverPoint point).symm rfl (mem_gpdUpdates (by decide)) (calls_device _ _))
  | postEvent i point =>
    refine quiet (view_eq (fun _ => rfl) rfl (or_congr (mem_post_other _ (by decide)) ?_)
      (congrArg serverPoint point).symm rfl (mem_post_other _ (by decide)) rfl)
    exact Finset.mem_erase.trans (and_iff_right (by decide))
  | wake i got =>
    refine quiet (view_eq (fun _ => rfl) rfl (h.asked_takeFlags got) ?_ rfl
      (disciplined.mem_obtained got (by decide : TaskSystem.Flag.rspWaiting ∉ gpdTaskMask)) rfl)
    cases got with
    | atOnce point => rw [point]; rfl
    | readied point => rw [point]; rfl
  | block i point =>
    exact quiet (view_eq (fun _ => rfl) rfl Iff.rfl (congrArg serverPoint point).symm rfl Iff.rfl rfl)
  | timeout point =>
    exact quiet (view_eq (fun _ => rfl) rfl Iff.rfl (congrArg serverPoint point).symm rfl Iff.rfl rfl)
  | packet =>
    exact quiet (view_eq (fun _ => rfl) rfl (or_congr (mem_post_other _ (by decide)) Iff.rfl) rfl rfl
      (mem_post_other _ (by decide)) rfl)
  | linklayerWake got =>
    exact quiet (view_eq (fun _ => rfl) rfl (or_congr (disciplined.mem_obtained got
      (by decide : TaskSystem.Flag.cmdWaiting ∉ linklayerMask)) Iff.rfl) rfl rfl
      (disciplined.mem_obtained got (by decide : TaskSystem.Flag.rspWaiting ∉ linklayerMask)) rfl)
  | appWake got =>
    exact quiet (view_eq (fun _ => rfl) rfl (or_congr (disciplined.mem_obtained got
      (by decide : TaskSystem.Flag.cmdWaiting ∉ appMask)) Iff.rfl) rfl rfl
      (disciplined.mem_obtained got (by decide : TaskSystem.Flag.rspWaiting ∉ appMask)) rfl)
  | linklayerBlock | appBlock | handleEvent =>
    exact quiet (view_eq (fun _ => rfl) rfl Iff.rfl rfl rfl Iff.rfl rfl)
  | handlePacket =>
    exact quiet (view_eq (fun _ => rfl) rfl (or_congr (mem_gpdUpdates (by decide)) Iff.rfl)
      rfl rfl (mem_gpdUpdates (by decide)) (calls_device _ _))
  | postHandled =>
    exact quiet (view_eq (fun _ => rfl) rfl (or_congr (mem_post_other _ (by decide)) Iff.rfl) rfl rfl
      (mem_post_other _ (by decide)) rfl)
  | enter k id point free =>
    have next := h.orderly.step (.enter k (h.callers_out point free))
    convert next using 1
    exact State.ext (callPoint_update k .store _) rfl rfl rfl rfl rfl rfl
  | call k id point =>
    have caller : (view s).caller k = .preparing := congrArg callPoint point
    have next := h.orderly.step (.call k id caller)
    convert next using 1
    exact State.ext (callPoint_update k .postCommand _) rfl rfl rfl rfl rfl rfl
  | postCommand k id point =>
    have caller : (view s).caller k = .stored := congrArg callPoint point
    have next := h.orderly.step (.ask k caller)
    convert next using 1
    refine State.ext (callPoint_update k .pend _) rfl ?_ rfl rfl ?_ rfl
    · exact decide_eq_true (Or.inl (Finset.mem_union_right _ (Finset.mem_singleton_self _)))
    · exact decide_eq_decide.mpr (mem_post_other _ (by decide))
  | clientWake k id got =>
    obtain ⟨caller, answered, taken⟩ := h.client_released got
    have next := h.orderly.step (.release k caller (decide_eq_true answered))
    convert next using 1
    refine State.ext (callPoint_update k .readResponse _) rfl ?_ rfl rfl (decide_eq_false taken) rfl
    exact decide_eq_decide.mpr (or_congr (disciplined.mem_obtained got
      (by decide : TaskSystem.Flag.cmdWaiting ∉ clientMask)) Iff.rfl)
  | clientBlock k id point =>
    have same : callPoint .waiting = callPoint (s.client k) := (congrArg callPoint point).symm
    exact quiet (view_eq (congrFun (callPoint_kept same)) rfl Iff.rfl rfl rfl Iff.rfl rfl)
  | readResponse k id point =>
    have caller : (view s).caller k = .released := congrArg callPoint point
    have next := h.orderly.step (.giveBack k caller)
    convert next using 1
    exact State.ext (callPoint_update k .leave _) rfl rfl rfl rfl rfl rfl
  | leave k id point =>
    have same : callPoint .outside = callPoint (s.client k) := (congrArg callPoint point).symm
    exact quiet (view_eq (congrFun (callPoint_kept same)) rfl Iff.rfl rfl rfl Iff.rfl rfl)

theorem Bracketed.tick (h : Bracketed locks s) {m : Move κ} (tick : Tick b locks s m s') :
    Bracketed locks s' where
  exclusive := h.exclusive
  sound := h.sound.tick tick
  clients := h.tick_clients tick
  mutex := h.tick_mutex tick
  once := h.tick_once tick
  responding := h.tick_responding tick
  orderly := h.tick_orderly tick

theorem bracketed_start (exclusive : locks = true ∨ Subsingleton κ) (log : List Event) :
    Bracketed locks (start κ b log) where
  exclusive := exclusive
  sound := flagsSound_start κ b log
  clients := fun _ _ ready => nomatch ready
  mutex := fun _ _ inside => absurd rfl inside
  once := fun group => nomatch group
  responding := fun point => nomatch point
  orderly := .idle _ _ .nil

/-- No flag of a command is about: neither set, nor held by a readied task or by `GpdTask`,
nor still to be posted by it. -/
structure NothingLeft (s : Sys κ) : Prop where
  command : .cmdWaiting ∉ s.gpdEventFlags.flags ∧ .cmdWaiting ∉ s.flags
  response : .rspWaiting ∉ s.gpdEventFlags.flags ∧ s.gpdTask ≠ .respond ∧
    s.gpdTask ≠ .postResponse
  ready : ∀ t found, s.gpdEventFlags.wait t = .ready found →
    .cmdWaiting ∉ found ∧ .rspWaiting ∉ found

theorem Bracketed.nothing_left (h : Bracketed locks s)
    (between : ∀ k, s.client k = .outside ∨ s.client k = .store ∨ s.client k = .leave) :
    NothingLeft s := by
  have free : (view s).asked = false ∧ (view s).server = .idle ∧ (view s).answered = false := by
    by_cases entered : ∃ k, s.client k = .store
    · obtain ⟨k, point⟩ := entered
      have preparing : (view s).caller k = .preparing := congrArg callPoint point
      obtain ⟨-, asked, server, answered, -⟩ := h.orderly.at_preparing preparing
      exact ⟨asked, server, answered⟩
    · have alone (k : κ) : (view s).caller k = .out := by
        rcases between k with point | point | point
        · exact congrArg callPoint point
        · exact absurd ⟨k, point⟩ entered
        · exact congrArg callPoint point
      obtain ⟨-, asked, server, answered, -⟩ := h.orderly.alone alone
      exact ⟨asked, server, answered⟩
  obtain ⟨asked, server, answered⟩ := free
  have unasked := not_or.mp (of_decide_eq_false asked)
  have unanswered := of_decide_eq_false answered
  refine ⟨unasked, ⟨unanswered, ?_, ?_⟩, ?_⟩
  · intro point
    have serving : (view s).server = .serving := congrArg serverPoint point
    rw [server] at serving
    cases serving
  · intro point
    have answering : (view s).server = .answering := congrArg serverPoint point
    rw [server] at answering
    cases answering
  · intro t found ready
    have held : found ⊆ s.gpdEventFlags.flags := by
      by_cases own : ∃ k, t = .client k
      · obtain ⟨k, rfl⟩ := own
        exact h.clients k found ready
      · exact h.sound.2 t (fun k same => own ⟨k, same⟩) found ready
    exact ⟨fun inside => unasked.1 (held inside), fun inside => unanswered (held inside)⟩

/-- Clients that bracket their calls: the commands so far are whole calls, each executed once
as its own client stored it and answered with its own response, and perhaps the start of one
more; outside of a call no flag of a command is left. -/
theorem bracketed_commands (b : Build) (log : List Event) {s : Sys κ}
    (run : Run b true (start κ b log) s) :
    (∃ done, Complete reply done ∧ (calls s.trace = done ∨ ∃ k id,
      calls s.trace = .called k id :: done ∨
      calls s.trace = .executed id :: .called k id :: done)) ∧
    ((∀ k, s.client k = .outside ∨ s.client k = .store ∨ s.client k = .leave) →
      NothingLeft s) := by
  have bracketed : Bracketed true s :=
    run_preserves (fun _ _ _ tick _ h => h.tick tick) run (bracketed_start (Or.inl rfl) log)
  exact ⟨bracketed.orderly.history_shape, bracketed.nothing_left⟩

end

def twoCalls : List (Move Bool) :=
  let task := Move.gpdTask ⟨[], [], []⟩
  let first (id : CmdId) := Move.client true id
  let second (id : CmdId) := Move.client false id
  [task, task, task, first .commission, first .commission, first .commission, first .commission,
    task, task, task, task, first .commission, first .commission, first .commission,
    second .send, second .send, second .send, task, task, task, task, task, task,
    second .send, second .send, second .send]

/-- The calls seen on a run of a build along `moves`, and whether each client is outside. -/
def seenOn (b : Build) (moves : List (Move Bool)) : Option (List (Happening Bool CmdId Rsp) × Bool) :=
  (follow b true (fun _ _ => True) (start Bool b []) moves).map
    (fun s => (calls s.trace, decide (∀ k, s.client k = .outside)))

theorem two_bracketed_calls : ∃ s : Sys Bool, NothingLeft s ∧
    calls s.trace = [.returned false ⟨.send, 0⟩, .executed .send, .called false .send,
      .returned true ⟨.commission, 0⟩, .executed .commission, .called true .commission] := by
  have seen : seenOn (shipped (AesCipher.aesCcm tagSize)) twoCalls =
      some ([.returned false ⟨.send, 0⟩, .executed .send, .called false .send,
        .returned true ⟨.commission, 0⟩, .executed .commission, .called true .commission], true) := by
    decide +kernel
  obtain ⟨s, run, same⟩ := Option.map_eq_some_iff.mp seen
  obtain ⟨history, outside⟩ := Prod.mk.inj same
  have between := (bracketed_commands _ [] (Runs.run_of_follow twoCalls run)).2
  exact ⟨s, between (fun k => Or.inl (of_decide_eq_true outside k)), history⟩

end GreenPower.CommandHandshake
