import GreenPower.AddressGate
import GreenPower.EventLog
import GreenPower.TaskSteps

set_option autoImplicit false

/-!
The one event slot between `GpdTask`, which writes it when the device has been commissioned and
announces it after every round, and `gpdAppTask`, which reads it.
-/
namespace GreenPower.EventDelivery
open BuildOptions DeviceState NonVolatile IncomingMessage GpdTask EventFlags FlagGroup TaskSystem
  TaskSteps

section
variable {κ : Type}

def roundState : TaskEvent κ → Option ApplicationState
  | .round gpdState => some gpdState
  | _ => none

def IsRaise (e : TaskEvent κ) : Prop := roundState e = some appStateCommissioningSuccessRequest

instance : DecidablePred (IsRaise (κ := κ)) := fun e => by
  unfold IsRaise
  infer_instance

def IsDelivery : TaskEvent κ → Prop
  | .handled .commissioned => True
  | _ => False

def isDelivery : TaskEvent κ → Bool
  | .handled .commissioned => true
  | _ => false

theorem isDelivery_iff (e : TaskEvent κ) : isDelivery e = true ↔ IsDelivery e := by
  unfold isDelivery IsDelivery
  split <;> simp

instance : DecidablePred (IsDelivery (κ := κ)) := fun e => decidable_of_iff _ (isDelivery_iff e)

def raises (trace : List (TaskEvent κ)) : ℕ := trace.countP (fun e => IsRaise e)

def deliveries (trace : List (TaskEvent κ)) : ℕ := trace.countP (fun e => IsDelivery e)

def lastRound (trace : List (TaskEvent κ)) : Option ApplicationState := trace.findSome? roundState

def AfterAnnounced (P : List (TaskEvent κ) → Prop) (trace : List (TaskEvent κ)) : Prop :=
  ∀ mid older, trace = mid ++ .announced :: older → P mid

def Noticed : List (TaskEvent κ) → Prop := AfterAnnounced (.noticed ∈ ·)

/-- Every event posted was taken up by `gpdAppTask` and then answered. -/
def Answered : List (TaskEvent κ) → Prop := AfterAnnounced ([.answered, .noticed].Sublist ·)

def NotOverwritten (trace : List (TaskEvent κ)) : Prop :=
  ∀ newer older, trace = newer ++ .round appStateCommissioningSuccessRequest :: older →
    Answered older

def AppIdle (s : Sys κ) : Prop := s.gpdAppTask = .pend ∨ s.gpdAppTask = .waiting

structure NothingPending (s : Sys κ) : Prop where
  posted : .evtWaiting ∉ s.gpdEventFlags.flags
  taken : s.gpdAppTask ≠ .handle
  raised : s.gpdTask ≠ .store ∧ s.gpdTask ≠ .postEvent

/-- The event is raised only to an idle task, and what was raised once is announced by its own
round or while that announcement has yet to be taken up. -/
def Delivering (s : Sys κ) : Move κ → Prop
  | .gpdTask _ =>
    (s.gpdTask = .update → .stack ∈ s.flags →
      s.device.gpdNode.gpdState = appStateCommissioningSuccessRequest →
      .evtWaiting ∉ s.gpdEventFlags.flags ∧ AppIdle s) ∧
    (s.gpdTask = .postEvent → s.gpdEvtId = .commissioned →
      lastRound s.trace = some appStateCommissioningSuccessRequest ∨
        .evtWaiting ∈ s.gpdEventFlags.flags)
  | _ => True

def Raising (s : Sys κ) : Prop :=
  (s.gpdTask = .store ∨ s.gpdTask = .postEvent) ∧
    lastRound s.trace = some appStateCommissioningSuccessRequest

def Pending (s : Sys κ) : Prop :=
  Raising s ∨ s.gpdEvtId = .commissioned ∧
    (.evtWaiting ∈ s.gpdEventFlags.flags ∨ s.gpdAppTask = .handle)

structure Ledger (s : Sys κ) : Prop where
  raising : Raising s →
    s.gpdEvtId = .commissioned ∧ .evtWaiting ∉ s.gpdEventFlags.flags ∧ AppIdle s
  once : s.gpdEvtId = .commissioned → s.gpdAppTask = .handle →
    .evtWaiting ∉ s.gpdEventFlags.flags
  pending : Pending s → deliveries s.trace + 1 = raises s.trace
  settled : ¬ Pending s → deliveries s.trace = raises s.trace

def IsPlain : TaskEvent κ → Prop
  | .round _ => False
  | .announced => False
  | .handled _ => False
  | _ => True

variable {s s' : Sys κ} {new trace : List (TaskEvent κ)}

theorem lastRound_plain (plain : ∀ e ∈ new, IsPlain e) :
    lastRound (new ++ trace) = lastRound trace := by
  refine EventLog.findSome_append_none roundState new trace ?_
  intro e he
  have := plain e he
  cases e <;> first | rfl | exact this.elim

theorem raises_plain (plain : ∀ e ∈ new, IsPlain e) : raises (new ++ trace) = raises trace := by
  have free : new.countP (fun e => IsRaise e) = 0 := by
    rw [List.countP_eq_zero]
    intro e he raise
    have raise := of_decide_eq_true raise
    have := plain e he
    cases e <;> first | exact this.elim | cases raise
  unfold raises
  rw [List.countP_append, free, Nat.zero_add]

theorem deliveries_plain (plain : ∀ e ∈ new, IsPlain e) :
    deliveries (new ++ trace) = deliveries trace := by
  have free : new.countP (fun e => IsDelivery e) = 0 := by
    rw [List.countP_eq_zero]
    intro e he delivery
    have delivery := of_decide_eq_true delivery
    have := plain e he
    cases e <;> first | exact this.elim | exact delivery.elim
  unfold deliveries
  rw [List.countP_append, free, Nat.zero_add]

theorem told_plain (f : Device → Device) (d : Device) : ∀ e ∈ told κ f d, IsPlain e := by
  intro e he
  obtain ⟨_, -, rfl⟩ := List.mem_map.mp he
  trivial

/-- A step away from the slot, its flag and the two tasks' dealings with it. -/
structure Untouched (s s' : Sys κ) : Prop where
  trace : ∃ new, (∀ e ∈ new, IsPlain e) ∧ s'.trace = new ++ s.trace
  task : s'.gpdTask = .store ∨ s'.gpdTask = .postEvent ↔ s.gpdTask = .store ∨ s.gpdTask = .postEvent
  slot : s'.gpdEvtId = s.gpdEvtId
  flag : .evtWaiting ∈ s'.gpdEventFlags.flags ↔ .evtWaiting ∈ s.gpdEventFlags.flags
  handle : s'.gpdAppTask = .handle ↔ s.gpdAppTask = .handle
  idle : AppIdle s' ↔ AppIdle s

inductive SlotTick (b : Build) (s : Sys κ) : Move κ → Sys κ → Prop
  | untouched {m : Move κ} {s' : Sys κ} (same : Untouched s s') : SlotTick b s m s'
  | round (i : Surroundings) (point : s.gpdTask = .update) (due : .stack ∈ s.flags) :
      SlotTick b s (.gpdTask i) { updateRound b i s with gpdTask := .store }
  | postEvent (i : Surroundings) (point : s.gpdTask = .postEvent) :
      SlotTick b s (.gpdTask i)
        { note .announced (TaskSystem.post .evtWaiting s) with
          flags := s.flags.erase .evtHandled
          gpdTask := .pend }
  | appWake {g : FlagGroup (TaskId κ) TaskSystem.Flag} (set : .evtWaiting ∈ s.gpdEventFlags.flags)
      (cleared : .evtWaiting ∉ g.flags) :
      SlotTick b s .gpdAppTask
        (note .noticed { s with gpdEventFlags := g, gpdAppTask := .handle })
  | handleEvent (point : s.gpdAppTask = .handle) :
      SlotTick b s .gpdAppTask
        { note (.handled s.gpdEvtId) s with gpdAppTask := .postHandled }
  | postHandled (point : s.gpdAppTask = .postHandled) :
      SlotTick b s .gpdAppTask
        { note .answered (TaskSystem.post .evtHandled s) with gpdAppTask := .pend }

theorem untouched_of (new : List (TaskEvent κ)) (plain : ∀ e ∈ new, IsPlain e)
    (trace : s'.trace = new ++ s.trace)
    (task : s'.gpdTask = .store ∨ s'.gpdTask = .postEvent ↔
      s.gpdTask = .store ∨ s.gpdTask = .postEvent)
    (slot : s'.gpdEvtId = s.gpdEvtId)
    (flag : .evtWaiting ∈ s'.gpdEventFlags.flags ↔ .evtWaiting ∈ s.gpdEventFlags.flags)
    (app : s'.gpdAppTask = s.gpdAppTask) : Untouched s s' := by
  refine ⟨⟨new, plain, trace⟩, task, slot, flag, by rw [app], ?_⟩
  unfold AppIdle
  rw [app]

theorem Ledger.untouched (h : Ledger s) (same : Untouched s s') : Ledger s' := by
  obtain ⟨new, plain, trace⟩ := same.trace
  have raising : Raising s' ↔ Raising s := by
    unfold Raising
    rw [same.task, trace, lastRound_plain plain]
  have pending : Pending s' ↔ Pending s := by
    unfold Pending
    rw [raising, same.slot, same.flag, same.handle]
  refine ⟨?_, ?_, ?_, ?_⟩
  · intro up
    obtain ⟨commissioned, clear, free⟩ := h.raising (raising.mp up)
    exact ⟨same.slot.trans commissioned, fun set => clear (same.flag.mp set), same.idle.mpr free⟩
  · intro commissioned reading set
    exact h.once (same.slot ▸ commissioned) (same.handle.mp reading) (same.flag.mp set)
  · intro up
    rw [trace, deliveries_plain plain, raises_plain plain]
    exact h.pending (pending.mp up)
  · intro down
    rw [trace, deliveries_plain plain, raises_plain plain]
    exact h.settled (fun up => down (pending.mpr up))

/-- The slot is written, or a round goes by that leaves it. -/
theorem Ledger.round (h : Ledger s) (b : Build) (i : Surroundings) (point : s.gpdTask = .update)
    (idle : s.device.gpdNode.gpdState = appStateCommissioningSuccessRequest →
      .evtWaiting ∉ s.gpdEventFlags.flags ∧ AppIdle s) :
    Ledger { updateRound b i s with gpdTask := .store } := by
  have lowered : ¬ Raising s := by
    rintro ⟨at_store | at_post, -⟩
    · exact nomatch point.symm.trans at_store
    · exact nomatch point.symm.trans at_post
  have plain := told_plain (κ := κ) (stateSwitchIn b i) s.device
  have last : lastRound (updateRound b i s).trace = some s.device.gpdNode.gpdState := by
    rw [updateRound_trace, lastRound_plain plain]
    rfl
  have delivered : deliveries (updateRound b i s).trace = deliveries s.trace := by
    rw [updateRound_trace, deliveries_plain plain]
    exact List.countP_cons_of_neg (fun delivery => (of_decide_eq_true delivery : False))
  have raised : raises (updateRound b i s).trace = raises s.trace +
      if s.device.gpdNode.gpdState = appStateCommissioningSuccessRequest then 1 else 0 := by
    rw [updateRound_trace, raises_plain plain]
    unfold raises
    rw [List.countP_cons]
    simp [IsRaise, roundState]
  have flag : .evtWaiting ∈ (updateRound b i s).gpdEventFlags.flags ↔
      .evtWaiting ∈ s.gpdEventFlags.flags := mem_gpdUpdates (by decide)
  by_cases success : s.device.gpdNode.gpdState = appStateCommissioningSuccessRequest
  · obtain ⟨clear, free⟩ := idle success
    have unread : s.gpdAppTask ≠ .handle := by
      rcases free with app | app <;> rw [app] <;> decide
    have before := h.settled (by
      rintro (up | ⟨-, set | reading⟩)
      · exact lowered up
      · exact clear set
      · exact unread reading)
    refine ⟨fun _ => ⟨if_pos success, fun set => clear (flag.mp set), free⟩,
      fun _ reading => absurd reading unread, ?_, ?_⟩
    · intro _
      change deliveries (updateRound b i s).trace + 1 = raises (updateRound b i s).trace
      rw [delivered, raised, if_pos success, before]
    · exact fun down => absurd (Or.inl ⟨Or.inl rfl, last.trans (congrArg some success)⟩) down
  · have slot : (updateRound b i s).gpdEvtId = s.gpdEvtId := if_neg success
    have still : ¬ Raising { updateRound b i s with gpdTask := .store } := by
      rintro ⟨-, again⟩
      exact success (Option.some.inj (last.symm.trans again))
    have pending : Pending { updateRound b i s with gpdTask := .store } ↔ Pending s := by
      constructor
      · rintro (up | ⟨commissioned, set | reading⟩)
        · exact absurd up still
        · exact Or.inr ⟨slot.symm.trans commissioned, Or.inl (flag.mp set)⟩
        · exact Or.inr ⟨slot.symm.trans commissioned, Or.inr reading⟩
      · rintro (up | ⟨commissioned, set | reading⟩)
        · exact absurd up lowered
        · exact Or.inr ⟨slot.trans commissioned, Or.inl (flag.mpr set)⟩
        · exact Or.inr ⟨slot.trans commissioned, Or.inr reading⟩
    have counts : raises (updateRound b i s).trace = raises s.trace := by
      rw [raised, if_neg success, Nat.add_zero]
    refine ⟨fun up => absurd up still, ?_, ?_, ?_⟩
    · intro commissioned reading set
      exact h.once (slot.symm.trans commissioned) reading (flag.mp set)
    · intro up
      change deliveries (updateRound b i s).trace + 1 = raises (updateRound b i s).trace
      rw [delivered, counts]
      exact h.pending (pending.mp up)
    · intro down
      change deliveries (updateRound b i s).trace = raises (updateRound b i s).trace
      rw [delivered, counts]
      exact h.settled (fun up => down (pending.mpr up))

/-- The slot is announced. -/
theorem Ledger.postEvent (h : Ledger s) (point : s.gpdTask = .postEvent)
    (fresh : s.gpdEvtId = .commissioned →
      lastRound s.trace = some appStateCommissioningSuccessRequest ∨
        .evtWaiting ∈ s.gpdEventFlags.flags) (flags : Finset TaskSystem.Flag) :
    Ledger { note .announced (TaskSystem.post .evtWaiting s) with
      flags := flags
      gpdTask := .pend } := by
  have set : .evtWaiting ∈ (TaskSystem.post .evtWaiting s).gpdEventFlags.flags :=
    Finset.mem_union_right _ (Finset.mem_singleton_self _)
  have before (commissioned : s.gpdEvtId = .commissioned) : Pending s := by
    rcases fresh commissioned with last | set
    · exact Or.inl ⟨Or.inr point, last⟩
    · exact Or.inr ⟨commissioned, Or.inl set⟩
  refine ⟨?_, ?_, ?_, ?_⟩
  · rintro ⟨at_store | at_post, -⟩
    · cases at_store
    · cases at_post
  · intro commissioned reading
    rcases fresh commissioned with last | set
    · obtain ⟨-, -, idle⟩ := h.raising ⟨Or.inr point, last⟩
      rcases idle with app | app
      · exact nomatch app.symm.trans reading
      · exact nomatch app.symm.trans reading
    · exact absurd set (h.once commissioned reading)
  · rintro (⟨at_store | at_post, -⟩ | ⟨commissioned, -⟩)
    · cases at_store
    · cases at_post
    · exact h.pending (before commissioned)
  · intro down
    refine h.settled ?_
    rintro (up | ⟨commissioned, -⟩)
    · exact down (Or.inr ⟨(h.raising up).1, Or.inl set⟩)
    · exact down (Or.inr ⟨commissioned, Or.inl set⟩)

/-- What is read is no longer on its way. -/
theorem Ledger.handleEvent (h : Ledger s) (point : s.gpdAppTask = .handle) :
    Ledger { note (.handled s.gpdEvtId) s with gpdAppTask := .postHandled } := by
  have busy : ¬ AppIdle s := by
    rintro (app | app)
    · exact nomatch app.symm.trans point
    · exact nomatch app.symm.trans point
  have lowered : ¬ Raising s := fun up => busy (h.raising up).2.2
  have raised : raises (.handled s.gpdEvtId :: s.trace) = raises s.trace :=
    List.countP_cons_of_neg (fun raise => nomatch (of_decide_eq_true raise))
  refine ⟨fun up => absurd up lowered, fun _ reading => ?_, ?_, ?_⟩
  · cases reading
  · rintro (up | ⟨commissioned, set | reading⟩)
    · exact absurd up lowered
    · exact absurd set (h.once commissioned point)
    · cases reading
  · intro _
    change deliveries (.handled s.gpdEvtId :: s.trace) = raises (.handled s.gpdEvtId :: s.trace)
    rw [raised]
    cases slot : s.gpdEvtId with
    | none =>
      have same : deliveries (.handled .none :: s.trace) = deliveries s.trace :=
        List.countP_cons_of_neg (fun delivery => (of_decide_eq_true delivery : False))
      rw [same]
      refine h.settled ?_
      rintro (up | ⟨commissioned, -⟩)
      · exact lowered up
      · exact nomatch commissioned.symm.trans slot
    | commissioned =>
      have more : deliveries (.handled .commissioned :: s.trace) = deliveries s.trace + 1 :=
        List.countP_cons_of_pos (decide_eq_true trivial)
      rw [more]
      exact h.pending (Or.inr ⟨slot, Or.inr point⟩)

/-- What is taken up is read next. -/
theorem Ledger.appWake (h : Ledger s) {g : FlagGroup (TaskId κ) TaskSystem.Flag}
    (set : .evtWaiting ∈ s.gpdEventFlags.flags) (cleared : .evtWaiting ∉ g.flags) :
    Ledger (note .noticed { s with gpdEventFlags := g, gpdAppTask := .handle }) := by
  have lowered : ¬ Raising s := fun up => (h.raising up).2.1 set
  refine ⟨fun up => absurd up lowered, fun _ _ => cleared, ?_, ?_⟩
  · rintro (up | ⟨commissioned, -⟩)
    · exact absurd up lowered
    · exact h.pending (Or.inr ⟨commissioned, Or.inl set⟩)
  · intro down
    refine h.settled ?_
    rintro (up | ⟨commissioned, -⟩)
    · exact lowered up
    · exact down (Or.inr ⟨commissioned, Or.inr rfl⟩)

theorem Ledger.postHandled (h : Ledger s) (point : s.gpdAppTask = .postHandled) :
    Ledger { note .answered (TaskSystem.post .evtHandled s) with gpdAppTask := .pend } := by
  have lowered : ¬ Raising s := by
    intro up
    rcases (h.raising up).2.2 with app | app
    · exact nomatch app.symm.trans point
    · exact nomatch app.symm.trans point
  have flag : .evtWaiting ∈ (TaskSystem.post .evtHandled s).gpdEventFlags.flags ↔
      .evtWaiting ∈ s.gpdEventFlags.flags := mem_post_other _ (by decide)
  refine ⟨fun up => absurd up lowered, fun _ reading => ?_, ?_, ?_⟩
  · cases reading
  · rintro (up | ⟨commissioned, set | reading⟩)
    · exact absurd up lowered
    · exact h.pending (Or.inr ⟨commissioned, Or.inl (flag.mp set)⟩)
    · cases reading
  · intro down
    refine h.settled ?_
    rintro (up | ⟨commissioned, set | reading⟩)
    · exact lowered up
    · exact down (Or.inr ⟨commissioned, Or.inl (flag.mpr set)⟩)
    · exact nomatch reading.symm.trans point

theorem Ledger.tick {b : Build} {m : Move κ} (h : Ledger s) (tick : SlotTick b s m s')
    (delivering : Delivering s m) : Ledger s' := by
  cases tick with
  | untouched same => exact h.untouched same
  | round i point due => exact h.round b i point (delivering.1 point due)
  | postEvent i point => exact h.postEvent point (delivering.2 point) _
  | appWake set cleared => exact h.appWake set cleared
  | handleEvent point => exact h.handleEvent point
  | postHandled point => exact h.postHandled point

theorem AfterAnnounced.cons {P Q : List (TaskEvent κ) → Prop} {e : TaskEvent κ}
    (h : AfterAnnounced P trace) (other : e ≠ .announced) (next : ∀ mid, P mid → Q (e :: mid)) :
    AfterAnnounced Q (e :: trace) := by
  intro mid older eq
  cases mid with
  | nil => exact absurd (List.cons.inj eq).1 other
  | cons x mid =>
    obtain ⟨rfl, rest⟩ := List.cons.inj eq
    exact next mid (h mid older rest)

theorem AfterAnnounced.append {P : List (TaskEvent κ) → Prop} (h : AfterAnnounced P trace)
    (plain : ∀ e ∈ new, IsPlain e) (next : ∀ e mid, P mid → P (e :: mid)) :
    AfterAnnounced P (new ++ trace) := by
  induction new with
  | nil => exact h
  | cons e new ih =>
    refine (ih (fun x hx => plain x (List.mem_cons_of_mem _ hx))).cons ?_ (next e)
    rintro rfl
    exact plain .announced List.mem_cons_self

theorem Noticed.append (h : Noticed trace) (plain : ∀ e ∈ new, IsPlain e) :
    Noticed (new ++ trace) :=
  AfterAnnounced.append h plain (fun _ _ mem => List.mem_cons_of_mem _ mem)

theorem Answered.append (h : Answered trace) (plain : ∀ e ∈ new, IsPlain e) :
    Answered (new ++ trace) :=
  AfterAnnounced.append h plain (fun e _ sub => sub.cons e)

theorem NotOverwritten.cons {e : TaskEvent κ} (h : NotOverwritten trace)
    (free : IsRaise e → Answered trace) : NotOverwritten (e :: trace) := by
  intro newer older eq
  cases newer with
  | nil =>
    obtain ⟨rfl, rfl⟩ := List.cons.inj eq
    exact free rfl
  | cons x newer => exact h newer older (List.cons.inj eq).2

theorem NotOverwritten.append (h : NotOverwritten trace) (plain : ∀ e ∈ new, IsPlain e) :
    NotOverwritten (new ++ trace) := by
  induction new with
  | nil => exact h
  | cons e new ih =>
    refine (ih (fun x hx => plain x (List.mem_cons_of_mem _ hx))).cons ?_
    intro raise
    have := plain e List.mem_cons_self
    cases e <;> first | exact this.elim | cases raise

/-- While the flag is clear, what was announced is with `gpdAppTask` or was answered by it. -/
structure Custody (s : Sys κ) : Prop where
  noticed : .evtWaiting ∉ s.gpdEventFlags.flags → Noticed s.trace
  answered : .evtWaiting ∉ s.gpdEventFlags.flags → AppIdle s → Answered s.trace
  kept : NotOverwritten s.trace

theorem Custody.untouched (h : Custody s) (same : Untouched s s') : Custody s' := by
  obtain ⟨new, plain, trace⟩ := same.trace
  refine ⟨?_, ?_, ?_⟩
  · intro clear
    rw [trace]
    exact (h.noticed (fun set => clear (same.flag.mpr set))).append plain
  · intro clear idle
    rw [trace]
    exact (h.answered (fun set => clear (same.flag.mpr set)) (same.idle.mp idle)).append plain
  · rw [trace]
    exact h.kept.append plain

theorem Custody.tick {b : Build} {m : Move κ} (h : Custody s) (tick : SlotTick b s m s')
    (delivering : Delivering s m) : Custody s' := by
  cases tick with
  | untouched same => exact h.untouched same
  | round i point due =>
    have plain := told_plain (κ := κ) (stateSwitchIn b i) s.device
    have flag : .evtWaiting ∈ (updateRound b i s).gpdEventFlags.flags ↔
        .evtWaiting ∈ s.gpdEventFlags.flags := mem_gpdUpdates (by decide)
    refine ⟨?_, ?_, ?_⟩
    · intro clear
      have before := h.noticed (fun set => clear (flag.mpr set))
      exact Noticed.append (AfterAnnounced.cons before (fun same => nomatch same)
        (fun _ mem => List.mem_cons_of_mem _ mem)) plain
    · intro clear idle
      have before := h.answered (fun set => clear (flag.mpr set)) idle
      exact Answered.append (AfterAnnounced.cons before (fun same => nomatch same)
        (fun _ sub => sub.cons _)) plain
    · refine NotOverwritten.append (h.kept.cons ?_) plain
      intro raise
      obtain ⟨clear, idle⟩ := delivering.1 point due (Option.some.inj raise)
      exact h.answered clear idle
  | postEvent i point =>
    have set : .evtWaiting ∈ (TaskSystem.post .evtWaiting s).gpdEventFlags.flags :=
      Finset.mem_union_right _ (Finset.mem_singleton_self _)
    exact ⟨fun clear => absurd set clear, fun clear => absurd set clear,
      h.kept.cons (fun raise => nomatch raise)⟩
  | appWake set cleared =>
    refine ⟨fun _ => ?_, fun _ idle => ?_, h.kept.cons (fun raise => nomatch raise)⟩
    · intro mid older eq
      cases mid with
      | nil => exact nomatch (List.cons.inj eq).1
      | cons x mid =>
        obtain ⟨rfl, -⟩ := List.cons.inj eq
        exact List.mem_cons_self
    · rcases idle with app | app <;> cases app
  | handleEvent point =>
    refine ⟨fun clear => ?_, fun _ idle => ?_, h.kept.cons (fun raise => nomatch raise)⟩
    · exact AfterAnnounced.cons (h.noticed clear) (fun same => nomatch same)
        (fun _ mem => List.mem_cons_of_mem _ mem)
    · rcases idle with app | app <;> cases app
  | postHandled point =>
    have flag : .evtWaiting ∈ (TaskSystem.post .evtHandled s).gpdEventFlags.flags ↔
        .evtWaiting ∈ s.gpdEventFlags.flags := mem_post_other _ (by decide)
    refine ⟨fun clear => ?_, fun clear _ => ?_, h.kept.cons (fun raise => nomatch raise)⟩
    · exact AfterAnnounced.cons (h.noticed (fun set => clear (flag.mpr set)))
        (fun same => nomatch same) (fun _ mem => List.mem_cons_of_mem _ mem)
    · exact AfterAnnounced.cons (h.noticed (fun set => clear (flag.mpr set)))
        (fun same => nomatch same) (fun _ mem => (List.singleton_sublist.mpr mem).cons_cons _)

variable [DecidableEq κ] {b : Build} {locks : Bool}

theorem slotTick_of {m : Move κ} (flags : FlagsSound s) (tick : Tick b locks s m s') :
    SlotTick b s m s' := by
  have disciplined := flags.1.disciplined
  have nothing : ∀ e ∈ ([] : List (TaskEvent κ)), IsPlain e := by simp
  have away {p : GpdTaskPoint} (q : GpdTaskPoint) (point : s.gpdTask = p)
      (elsewhere : ¬ (p = .store ∨ p = .postEvent)) (next : ¬ (q = .store ∨ q = .postEvent)) :
      q = .store ∨ q = .postEvent ↔ s.gpdTask = .store ∨ s.gpdTask = .postEvent := by
    rw [point]
    exact iff_of_false next elsewhere
  have ran (e : TaskEvent κ) (f : Device → Device) (plain : IsPlain e) :
      ∀ x ∈ told κ f s.device ++ [e], IsPlain x := by
    intro x hx
    rcases List.mem_append.mp hx with told | single
    · exact told_plain _ _ x told
    · exact List.mem_singleton.mp single ▸ plain
  cases tick with
  | round i point due => exact .round i point due
  | postEvent i point => exact .postEvent i point
  | handleEvent point => exact .handleEvent point
  | postHandled point => exact .postHandled point
  | @appWake found g got =>
    have taken : .evtWaiting ∈ found := by
      obtain ⟨inside, flag, mem⟩ := disciplined.found_spec got
      rwa [Finset.mem_singleton.mp (inside mem)] at mem
    have held := got.found_subset (flags.2 .gpdAppTask (fun _ same => nomatch same))
    refine .appWake (held taken) ?_
    rw [got.flags]
    exact fun left => (Finset.mem_sdiff.mp left).2 taken
  | appBlock point =>
    refine .untouched ⟨⟨[], nothing, rfl⟩, Iff.rfl, rfl, Iff.rfl, ?_, ?_⟩
    · rw [point]
      simp
    · exact iff_of_true (Or.inr rfl) (Or.inl point)
  | command i point =>
    exact .untouched (untouched_of _ (ran (.executed s.gpdCmdId) _ trivial) (act_note_trace _ _ s)
      (away .respond point (by decide) (by decide)) rfl (mem_gpdUpdates (by decide)) rfl)
  | noCommand i point =>
    exact .untouched (untouched_of [] nothing rfl (away .update point (by decide) (by decide)) rfl
      Iff.rfl rfl)
  | noRound i point =>
    exact .untouched (untouched_of [] nothing rfl (away .pend point (by decide) (by decide)) rfl
      Iff.rfl rfl)
  | respond i point =>
    exact .untouched (untouched_of [] nothing rfl
      (away .postResponse point (by decide) (by decide)) rfl Iff.rfl rfl)
  | postResponse i point =>
    exact .untouched (untouched_of [] nothing rfl (away .update point (by decide) (by decide)) rfl
      (mem_post_other _ (by decide)) rfl)
  | store i point =>
    refine .untouched (untouched_of _ (told_plain _ _) (act_trace _ s) ?_ rfl
      (mem_gpdUpdates (by decide)) rfl)
    rw [point]
    simp
  | @wake i found g got =>
    refine .untouched (untouched_of [.woken found] (by simp [IsPlain]) rfl ?_ rfl
      (disciplined.mem_obtained got (by decide : TaskSystem.Flag.evtWaiting ∉ gpdTaskMask)) rfl)
    cases got with
    | atOnce point => exact away .top point (by decide) (by decide)
    | readied point => exact away .top point (by decide) (by decide)
  | block i point =>
    exact .untouched (untouched_of [] nothing rfl (away .waiting point (by decide) (by decide)) rfl
      Iff.rfl rfl)
  | timeout point =>
    exact .untouched (untouched_of [.expired] (by simp [IsPlain]) rfl
      (away .top point (by decide) (by decide)) rfl Iff.rfl rfl)
  | packet =>
    exact .untouched (untouched_of [] nothing rfl Iff.rfl rfl (mem_post_other _ (by decide)) rfl)
  | linklayerWake got =>
    exact .untouched (untouched_of [] nothing rfl Iff.rfl rfl (disciplined.mem_obtained got
      (by decide : TaskSystem.Flag.evtWaiting ∉ linklayerMask)) rfl)
  | clientWake k cmd got =>
    exact .untouched (untouched_of [] nothing rfl Iff.rfl rfl (disciplined.mem_obtained got
      (by decide : TaskSystem.Flag.evtWaiting ∉ clientMask)) rfl)
  | linklayerBlock | enter | clientBlock | leave =>
    exact .untouched (untouched_of [] nothing rfl Iff.rfl rfl Iff.rfl rfl)
  | handlePacket =>
    exact .untouched (untouched_of _ (ran .received _ trivial) (act_note_trace _ _ s) Iff.rfl rfl
      (mem_gpdUpdates (by decide)) rfl)
  | call k cmd =>
    exact .untouched (untouched_of [.called k cmd] (by simp [IsPlain]) rfl Iff.rfl rfl Iff.rfl rfl)
  | postCommand =>
    exact .untouched (untouched_of [] nothing rfl Iff.rfl rfl (mem_post_other _ (by decide)) rfl)
  | readResponse k =>
    exact .untouched
      (untouched_of [.returned k s.gpdRsp] (by simp [IsPlain]) rfl Iff.rfl rfl Iff.rfl rfl)

omit [DecidableEq κ] in
theorem ledger_start (log : List Event) : Ledger (start κ b log) := by
  have idle : ¬ Pending (start κ b log) := by
    rintro (⟨at_store | at_post, -⟩ | ⟨commissioned, -⟩)
    · cases at_store
    · cases at_post
    · cases commissioned
  exact ⟨fun up => absurd (Or.inl up) idle, (fun commissioned => nomatch commissioned),
    fun up => absurd up idle, fun _ => rfl⟩

omit [DecidableEq κ] in
theorem custody_start (log : List Event) : Custody (start κ b log) := by
  refine ⟨?_, ?_, ?_⟩
  · intro _ mid older eq
    simp [start] at eq
  · intro _ _ mid older eq
    simp [start] at eq
  · intro newer older eq
    simp [start] at eq

/-- In every run in which `GpdTask` writes the slot only while `gpdAppTask` waits with nothing
announced to it, and announces what it wrote once, the event is handled once each time it is
raised. -/
theorem events_delivered_once (b : Build) (locks : Bool) (log : List Event) {s : Sys κ}
    (run : RunOf b locks Delivering (start κ b log) s) :
    deliveries s.trace ≤ raises s.trace ∧
    (NothingPending s → deliveries s.trace = raises s.trace) ∧ NotOverwritten s.trace := by
  have holds : FlagsSound s ∧ Ledger s ∧ Custody s := by
    refine run_preserves (I := fun t => FlagsSound t ∧ Ledger t ∧ Custody t) ?_ run
      ⟨flagsSound_start κ b log, ledger_start log, custody_start log⟩
    rintro t m t' tick delivering ⟨flags, ledger, custody⟩
    have slot := slotTick_of flags tick
    exact ⟨flags.tick tick, ledger.tick slot delivering, custody.tick slot delivering⟩
  obtain ⟨-, ledger, custody⟩ := holds
  refine ⟨?_, ?_, custody.kept⟩
  · by_cases pending : Pending s
    · have := ledger.pending pending
      omega
    · exact (ledger.settled pending).le
  · intro nothing
    refine ledger.settled ?_
    rintro (⟨at_store | at_post, -⟩ | ⟨-, set | reading⟩)
    · exact nothing.raised.1 at_store
    · exact nothing.raised.2 at_post
    · exact nothing.posted set
    · exact nothing.taken reading

end

instance {κ : Type} (s : Sys κ) : Decidable (AppIdle s) := by
  unfold AppIdle
  infer_instance

instance {κ : Type} (s : Sys κ) (m : Move κ) : Decidable (Delivering s m) :=
  match m with
  | .gpdTask _ => by
    unfold Delivering
    infer_instance
  | .timeout | .gpdLinklayerTask | .packet _ | .gpdAppTask | .client _ _ =>
    inferInstanceAs (Decidable True)

def commissionedMoves : List (Move Unit) :=
  [.packet AddressGate.maintenanceReplyFrame, .gpdLinklayerTask, .gpdLinklayerTask] ++
    List.replicate 7 (.gpdTask ⟨[], [], []⟩) ++ List.replicate 3 .gpdAppTask ++
    List.replicate 5 (.gpdTask ⟨[], [], []⟩) ++ List.replicate 2 .gpdAppTask

/-- `gpdAppTask` answers, `GpdTask` goes round in the next state, and `gpdAppTask` reads the slot
again. -/
def nextRoundMoves : List (Move Unit) :=
  [.gpdAppTask] ++ List.replicate 5 (.gpdTask ⟨[], [], []⟩) ++ List.replicate 2 .gpdAppTask

theorem raised_event_handled : ∃ s : Sys Unit, raises s.trace = 1 ∧ deliveries s.trace = 1 ∧
    NotOverwritten s.trace := by
  have seen : (follow (shipped (AesCipher.aesCcm tagSize)) false Delivering
      (start Unit (shipped (AesCipher.aesCcm tagSize)) []) commissionedMoves).map
      (fun s => (raises s.trace, decide (.evtWaiting ∉ s.gpdEventFlags.flags), s.gpdAppTask,
        s.gpdTask)) = some (1, true, .postHandled, .pend) := by
    decide +kernel
  obtain ⟨s, run, same⟩ := Option.map_eq_some_iff.mp seen
  obtain ⟨one, rest⟩ := Prod.mk.inj same
  obtain ⟨clear, rest⟩ := Prod.mk.inj rest
  obtain ⟨app, task⟩ := Prod.mk.inj rest
  obtain ⟨-, equal, kept⟩ := events_delivered_once _ false [] (Runs.run_of_follow _ run)
  have nothing : NothingPending s := by
    refine ⟨of_decide_eq_true clear, ?_, ?_⟩
    · rw [app]
      decide
    · rw [task]
      decide
  exact ⟨s, one, (equal nothing).trans one, kept⟩

/-- Without the condition: the slot is announced again in the round after, and read again. -/
theorem handled_again : ¬ ∀ s : Sys Unit,
    Run (shipped (AesCipher.aesCcm tagSize)) false
      (start Unit (shipped (AesCipher.aesCcm tagSize)) []) s →
    deliveries s.trace ≤ raises s.trace ∧
    (NothingPending s → deliveries s.trace = raises s.trace) ∧ NotOverwritten s.trace := by
  intro claimed
  have seen : (follow (shipped (AesCipher.aesCcm tagSize)) false (fun _ _ => True)
      (start Unit (shipped (AesCipher.aesCcm tagSize)) [])
      (commissionedMoves ++ nextRoundMoves)).map
      (fun s => (raises s.trace, deliveries s.trace)) = some (1, 2) := by
    decide +kernel
  obtain ⟨s, run, same⟩ := Option.map_eq_some_iff.mp seen
  obtain ⟨one, two⟩ := Prod.mk.inj same
  have most := (claimed s (Runs.run_of_follow _ run)).1
  omega

end GreenPower.EventDelivery
