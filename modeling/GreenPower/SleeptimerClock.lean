import GreenPower.CompareChannel
import GreenPower.Runs
import GreenPower.SleeptimerLists

set_option autoImplicit false

/-!
The sleeptimer against a clock on which each running timer has a time. All timers have one
priority, as those of the kernel have. Calls come while no timer is overdue, and the counter does
not come round while one runs.
-/
namespace GreenPower.SleeptimerClock
open Runs Sleeptimer SleeptimerLists CompareChannel

structure Clock (τ : Type) where
  now : ℕ
  due : τ → Option ℕ
  /-- 0 for a timer that runs off once. -/
  period : τ → ℕ
  /-- The timers whose callbacks were called, newest first. -/
  calls : List τ

inductive ClockMove (τ : Type) where
  | pass (n : ℕ)
  | start (t : τ) (timeout period : ℕ)
  | stop (t : τ)
  | fire (t : τ)

section
variable {τ : Type} [DecidableEq τ]

def clockStart : Clock τ := ⟨0, fun _ => none, fun _ => 0, []⟩

/-- A timer never fires before it is due, and a period counts from when it was due. -/
def clockStep (c : Clock τ) : ClockMove τ → Option (Clock τ)
  | .pass n => some { c with now := c.now + n }
  | .start t timeout period =>
    if c.due t = none then
      let set := { c with period := Function.update c.period t period }
      if timeout = 0 then some { set with calls := t :: c.calls }
      else some { set with due := Function.update c.due t (some (c.now + timeout)) }
    else none
  | .stop t => some { c with due := Function.update c.due t none }
  | .fire t =>
    match c.due t with
    | none => none
    | some d =>
      if d ≤ c.now then
        some { c with
          due := Function.update c.due t (if c.period t = 0 then none else some (d + c.period t))
          calls := t :: c.calls }
      else none

def Serving : ClockMove τ → Prop
  | .pass _ | .fire _ => True
  | .start _ _ _ | .stop _ => False

instance : DecidablePred (Serving : ClockMove τ → Prop)
  | .pass _ | .fire _ => isTrue trivial
  | .start _ _ _ | .stop _ => isFalse id

abbrev ServingRun (c c' : Clock τ) : Prop := RunOf clockStep (fun _ m => Serving m) c c'

def runOffsOf (due : Option ℕ) (period time : ℕ) : ℕ :=
  match due with
  | none => 0
  | some d => if time < d then 0 else if period = 0 then 1 else (time - d) / period + 1

def runOffs (c : Clock τ) (l : List τ) (time : ℕ) : ℕ :=
  (l.map (fun t => runOffsOf (c.due t) (c.period t) time)).sum

variable {c c' : Clock τ} {t : τ} {l : List τ} {d time : ℕ}

theorem clockStep_fire (next : clockStep c (.fire t) = some c') : ∃ d, c.due t = some d ∧
    d ≤ c.now ∧ c' = { c with
      due := Function.update c.due t (if c.period t = 0 then none else some (d + c.period t))
      calls := t :: c.calls } := by
  simp only [clockStep] at next
  split at next
  · cases next
  · rename_i d due
    by_cases reached : d ≤ c.now
    · rw [if_pos reached] at next
      exact ⟨d, due, reached, (Option.some.inj next).symm⟩
    · rw [if_neg reached] at next
      cases next

/-- A timer keeps its time until its callback is called. -/
theorem serving_kept (run : ServingRun c c') :
    c.now ≤ c'.now ∧ ∃ new, c'.calls = new ++ c.calls ∧ ∀ t ∉ new, c'.due t = c.due t := by
  induction run with
  | refl => exact ⟨le_rfl, [], rfl, fun _ _ => rfl⟩
  | @tail before after run m serving next ih =>
    obtain ⟨later, new, calls, kept⟩ := ih
    cases m with
    | pass n =>
      obtain rfl := Option.some.inj next
      exact ⟨later.trans (Nat.le_add_right _ n), new, calls, kept⟩
    | start => cases serving
    | stop => cases serving
    | fire t =>
      obtain ⟨d, due, reached, rfl⟩ := clockStep_fire next
      refine ⟨later, t :: new, congrArg (t :: ·) calls, fun u out => ?_⟩
      rw [List.mem_cons, not_or] at out
      change Function.update before.due t _ u = _
      rw [Function.update_of_ne out.1]
      exact kept u out.2

theorem runOffsOf_fire (period : ℕ) (reached : d ≤ time) :
    runOffsOf (if period = 0 then none else some (d + period)) period time + 1 =
      runOffsOf (some d) period time := by
  unfold runOffsOf
  by_cases once : period = 0
  · simp [once, Nat.not_lt.mpr reached]
  · have some : 0 < period := Nat.pos_of_ne_zero once
    simp only [if_neg once, if_neg (Nat.not_lt.mpr reached)]
    by_cases last : time < d + period
    · have short : (time - d) / period = 0 := Nat.div_eq_of_lt (by omega)
      rw [if_pos last, short]
    · have again : (time - d) / period = (time - (d + period)) / period + 1 := by
        rw [Nat.div_eq_sub_div some (by omega), Nat.sub_sub]
      rw [if_neg last, again]

theorem runOffs_fire (next : clockStep c (.fire t) = some c') (nodup : l.Nodup) (here : t ∈ l)
    (later : c.now ≤ time) : runOffs c' l time + 1 = runOffs c l time := by
  obtain ⟨d, due, reached, rfl⟩ := clockStep_fire next
  have others : (l.erase t).map (fun u => runOffsOf (Function.update c.due t
      (if c.period t = 0 then none else some (d + c.period t)) u) (c.period u) time) =
      (l.erase t).map (fun u => runOffsOf (c.due u) (c.period u) time) := by
    apply List.map_congr_left
    intro u there
    have other : u ≠ t := (nodup.mem_erase_iff.mp there).1
    rw [Function.update_of_ne other]
  have own := runOffsOf_fire (c.period t) (reached.trans later)
  unfold runOffs
  rw [← List.sum_map_erase _ here, ← List.sum_map_erase _ here, others]
  simp only [Function.update_self, due]
  omega

omit [DecidableEq τ] in
theorem runOffs_pos (here : t ∈ l) (due : c.due t = some d) (reached : d ≤ time) :
    0 < runOffs c l time := by
  have own : 0 < runOffsOf (c.due t) (c.period t) time := by
    unfold runOffsOf
    rw [due]
    simp only [if_neg (Nat.not_lt.mpr reached)]
    split_ifs
    · exact Nat.one_pos
    · exact Nat.succ_pos _
  exact lt_of_lt_of_le own (List.single_le_sum (fun _ _ => Nat.zero_le _) _
    (List.mem_map_of_mem here))

end

structure Sys (τ : Type) where
  timers : Timers τ
  now : ℕ
  calls : List τ

inductive Move (τ : Type) where
  | pass (n : ℕ)
  | start (periodic : Bool) (t : τ) (timeout : UInt32)
  | restart (periodic : Bool) (t : τ) (timeout : UInt32)
  | stop (t : τ)
  /-- Also with an overflow of the counter; `passes` are the ticks that pass in each callback. -/
  | interrupt (of : Bool) (passes : List ℕ)

def readings : ℕ → Channel → List ℕ → List (UInt32 × Bool)
  | _, _, [] => []
  | now, c, n :: passes =>
    (counter (now + n), (passTicks now n c).flag) :: readings (now + n) (passTicks now n c) passes

section
variable {τ : Type} [DecidableEq τ]

def start : Sys τ := ⟨slSleeptimerInit, 0, []⟩

def called (t : τ) (s : Sys τ) (r : Timers τ × Bool) : Sys τ :=
  { s with timers := r.1, calls := if r.2 then t :: s.calls else s.calls }

def step (priority : UInt8) (s : Sys τ) : Move τ → Option (Sys τ)
  | .pass n => some { s with
      timers.channel := passTicks s.now n s.timers.channel
      now := s.now + n }
  | .start periodic t timeout =>
    match slSleeptimerStart periodic t timeout priority (counter s.now) s.timers with
    | none => some s
    | some r => some (called t s r)
  | .restart periodic t timeout =>
    some (called t s (slSleeptimerRestart periodic t timeout priority (counter s.now)
      (counter s.now) s.timers))
  | .stop t => some { s with timers := (slSleeptimerStopTimer t (counter s.now) s.timers).1 }
  | .interrupt of passes =>
    (rtccIrqHandler of (fun c => readings s.now c passes) (counter s.now) s.timers).map (fun r =>
      ⟨r.1, s.now + (passes.take r.2.length).sum, r.2.reverse ++ s.calls⟩)

def elapsed (s : Sys τ) : ℕ := (counter s.now - s.timers.lastDeltaUpdateCount).toNat

def Allowed (s : Sys τ) : Move τ → Prop
  | .pass n => s.timers.list = [] ∨ elapsed s + n < 2 ^ 32
  | .start _ _ _ | .restart _ _ _ | .stop _ => Prompt (counter s.now) s.timers
  | .interrupt of passes => (of = true → Prompt (counter s.now) s.timers) ∧
      (s.timers.list = [] ∨ elapsed s + passes.sum < 2 ^ 32)

abbrev Run (priority : UInt8) (s : Sys τ) : Prop := RunOf (step priority) Allowed start s

def view (s : Sys τ) : Clock τ where
  now := s.now
  due := fun t => DeltaList.due t (s.now - elapsed s) (timesOf s.timers)
  period := fun t => (s.timers.timer t).timeoutPeriodic.toNat
  calls := s.calls

/-- When the first timer of the list is due. -/
def firstDue (s : Sys τ) : Option ℕ :=
  (timesOf s.timers).head?.map (fun e => s.now - elapsed s + e.2)

/-- The interrupt is off, or set for the first timer. -/
def Armed (s : Sys τ) : Prop :=
  match firstDue s with
  | none => s.timers.channel.enabled = false
  | some d => Watch s.now d s.timers.channel

/-- What also holds between the rounds of a loop. -/
structure Lists (priority : UInt8) (timers : Timers τ) : Prop where
  nodup : timers.list.Nodup
  priority : ∀ t ∈ timers.list, (timers.timer t).priority = priority
  short : DeltaList.total (timesOf timers) < 2 ^ 32

structure Inv (priority : UInt8) (s : Sys τ) : Prop where
  lists : Lists priority s.timers
  past : s.timers.list ≠ [] → elapsed s ≤ s.now

/-- What a call that updates the list at `cnt` does to the comparator. -/
inductive Compares (cnt : UInt32) (before : Timers τ) : Timers τ → Prop
  | off (r : Timers τ) (list : r.list = []) (off : r.channel.enabled = false) :
      Compares cnt before r
  | set (r : Timers τ) (some : r.list ≠ []) :
      Compares cnt before (setComparatorForNextTimer cnt r)
  | kept (r : Timers τ) (same : r.channel = before.channel) (first : (timesOf r).head? =
      (DeltaList.advance (cnt - before.lastDeltaUpdateCount).toNat (timesOf before)).head?) :
      Compares cnt before r

variable {priority : UInt8} {s s' : Sys τ} {t : τ}

omit [DecidableEq τ] in
theorem timesOf_nil {timers : Timers τ} : timesOf timers = [] ↔ timers.list = [] := by
  unfold timesOf deltas
  exact List.map_eq_nil_iff

omit [DecidableEq τ] in
theorem elapsed_pass {n : ℕ} {c : Channel} (short : elapsed s + n < 2 ^ 32) :
    elapsed { s with timers.channel := c, now := s.now + n } = elapsed s + n := by
  unfold elapsed at short ⊢
  have moved : counter (s.now + n) - s.timers.lastDeltaUpdateCount =
      counter s.now - s.timers.lastDeltaUpdateCount + counter n := by
    rw [counter_add, UInt32.sub_eq_add_neg, UInt32.sub_eq_add_neg, UInt32.add_assoc,
      UInt32.add_assoc, UInt32.add_comm (counter n)]
  simp only [moved]
  rw [UInt32.toNat_add, counter_toNat (by omega), Nat.mod_eq_of_lt short]

omit [DecidableEq τ] in
theorem setComparatorForNextTimer_same (cnt : UInt32) (timers : Timers τ) :
    ∃ c, setComparatorForNextTimer cnt timers = { timers with channel := c } := by
  unfold setComparatorForNextTimer
  split
  · exact ⟨timers.channel, rfl⟩
  · exact ⟨_, rfl⟩

omit [DecidableEq τ] in
theorem head_insert (t : τ) (n : ℕ) (times : List (τ × ℕ)) :
    (DeltaList.insert t n times).head? = some (t, n) ∨
      times ≠ [] ∧ (DeltaList.insert t n times).head? = times.head? := by
  cases times with
  | nil => exact Or.inl rfl
  | cons e times =>
    by_cases before : e.2 ≤ n
    · have made : DeltaList.insert t n (e :: times) = e :: DeltaList.insert t (n - e.2) times :=
        if_pos before
      rw [made]
      exact Or.inr ⟨List.cons_ne_nil _ _, rfl⟩
    · have made : DeltaList.insert t n (e :: times) = (t, n) :: (e.1, e.2 - n) :: times :=
        if_neg before
      rw [made]
      exact Or.inl rfl

theorem head_remove {times : List (τ × ℕ)} (other : ∀ e ∈ times.head?, e.1 ≠ t) :
    (DeltaList.remove t times).head? = times.head? := by
  cases times with
  | nil => rfl
  | cons e times =>
    have made : DeltaList.remove t (e :: times) = e :: DeltaList.remove t times :=
      if_neg (other e rfl)
    rw [made]
    rfl

omit [DecidableEq τ] in
theorem head_timesOf (timers : Timers τ) :
    (timesOf timers).head? = timers.list.head?.map (fun t => (t, (timers.timer t).delta.toNat)) :=
  List.head?_map

omit [DecidableEq τ] in
theorem prompt_first {timers : Timers τ} {cnt : UInt32} (prompt : Prompt cnt timers) :
    ∀ e ∈ (timesOf timers).head?, (cnt - timers.lastDeltaUpdateCount).toNat ≤ e.2 := by
  intro e here
  rw [head_timesOf, Option.mem_def, Option.map_eq_some_iff] at here
  obtain ⟨head, first, rfl⟩ := here
  exact UInt32.le_iff_toNat_le.mp (prompt head first)

variable {timers : Timers τ} {cnt : UInt32}

omit [DecidableEq τ] in
theorem Lists.channel (h : Lists priority timers) (c : Channel) :
    Lists priority { timers with channel := c } :=
  ⟨h.nodup, h.priority, h.short⟩

omit [DecidableEq τ] in
theorem Compares.before {timers' r : Timers τ} (h : Compares cnt timers' r)
    (times : timesOf timers' = timesOf timers)
    (last : timers'.lastDeltaUpdateCount = timers.lastDeltaUpdateCount)
    (channel : timers'.channel = timers.channel) : Compares cnt timers r := by
  cases h with
  | off _ list off => exact .off r list off
  | set r some => exact .set r some
  | kept _ same first =>
    rw [times, last] at first
    exact .kept r (same.trans channel) first

theorem Lists.update (h : Lists priority timers) (prompt : Prompt cnt timers) :
    Lists priority (updateFirstTimerDelta cnt timers) := by
  obtain ⟨times, list, -, -, same⟩ := updateFirstTimerDelta_spec prompt h.nodup
  refine ⟨?_, fun u here => ?_, ?_⟩
  · rw [list]
    exact h.nodup
  · rw [list] at here
    exact (same u).1.trans (h.priority u here)
  · rw [times]
    exact lt_of_le_of_lt DeltaList.total_advance h.short

theorem list_insert (nodup : timers.list.Nodup) (new : t ∉ timers.list) (timeout : UInt32) :
    (deltaListInsertTimer t timeout timers).list.Perm (t :: timers.list) := by
  obtain ⟨times, -⟩ := deltaListInsertTimer_spec nodup new timeout
  have keys := DeltaList.keys_insert (x := t) (n := timeout.toNat) (l := timesOf timers)
  rw [← times] at keys
  simpa [timesOf] using keys

theorem Lists.insert (h : Lists priority timers) (new : t ∉ timers.list)
    (own : (timers.timer t).priority = priority) (timeout : UInt32) :
    Lists priority (deltaListInsertTimer t timeout timers) := by
  obtain ⟨times, -, -, same⟩ := deltaListInsertTimer_spec h.nodup new timeout
  have perm := list_insert h.nodup new timeout
  refine ⟨?_, fun u here => ?_, ?_⟩
  · exact perm.nodup_iff.mpr (List.nodup_cons.mpr ⟨new, h.nodup⟩)
  · rw [(same u).1]
    rcases List.mem_cons.mp (perm.mem_iff.mp here) with rfl | old
    · exact own
    · exact h.priority u old
  · rw [times, DeltaList.total_insert]
    exact max_lt h.short timeout.toNat_lt

theorem Lists.remove (h : Lists priority timers) (here : t ∈ timers.list) :
    ∃ removed, deltaListRemoveTimer t timers = some removed ∧ Lists priority removed ∧
      removed.list = timers.list.erase t ∧
      timesOf removed = DeltaList.remove t (timesOf timers) ∧
      removed.lastDeltaUpdateCount = timers.lastDeltaUpdateCount ∧
      removed.channel = timers.channel ∧ SameTimers timers removed := by
  obtain ⟨removed, made, times, last, channel, same⟩ :=
    deltaListRemoveTimer_spec h.nodup here h.short
  have list : removed.list = timers.list.erase t := by
    have keys := DeltaList.keys_remove (x := t) (l := timesOf timers)
    rw [← times] at keys
    simpa [timesOf] using keys
  refine ⟨removed, made, ⟨?_, fun u still => ?_, ?_⟩, list, times, last, channel, same⟩
  · rw [list]
    exact h.nodup.erase t
  · rw [list] at still
    exact (same u).1.trans (h.priority u (List.mem_of_mem_erase still))
  · rw [times]
    exact lt_of_le_of_lt DeltaList.total_remove h.short

/-- The fields that `create_timer` writes first. -/
def prepare (t : τ) (priority : UInt8) (periodic delta : UInt32) (timers : Timers τ) : Timers τ :=
  { timers with timer := Function.update timers.timer t ⟨priority, periodic, delta⟩ }

theorem prepare_other {u : τ} (other : u ≠ t) (periodic delta : UInt32) :
    (prepare t priority periodic delta timers).timer u = timers.timer u :=
  Function.update_of_ne other _ _

theorem timesOf_prepare (new : t ∉ timers.list) (periodic delta : UInt32) :
    timesOf (prepare t priority periodic delta timers) = timesOf timers := by
  apply deltas_congr
  intro u here
  have other : u ≠ t := by
    rintro rfl
    exact new here
  rw [prepare_other other]

theorem Lists.prepare (h : Lists priority timers) (new : t ∉ timers.list) (periodic delta : UInt32) :
    Lists priority (prepare t priority periodic delta timers) := by
  refine ⟨h.nodup, fun u here => ?_, ?_⟩
  · have other : u ≠ t := by
      rintro rfl
      exact new here
    rw [prepare_other other]
    exact h.priority u here
  · rw [timesOf_prepare new]
    exact h.short

theorem prompt_prepare (prompt : Prompt cnt timers) (new : t ∉ timers.list)
    (periodic delta : UInt32) : Prompt cnt (prepare t priority periodic delta timers) := by
  intro head first
  have other : head ≠ t := by
    rintro rfl
    exact new (List.mem_of_mem_head? first)
  rw [prepare_other other]
  exact prompt head first

theorem periods_prepare {timers' : Timers τ} {periodic delta : UInt32}
    (same : SameTimers (prepare t priority periodic delta timers) timers') (u : τ) :
    (timers'.timer u).timeoutPeriodic =
      Function.update (fun u => (timers.timer u).timeoutPeriodic) t periodic u := by
  rw [(same u).2]
  by_cases own : u = t
  · subst own
    simp [prepare]
  · rw [prepare_other own, Function.update_of_ne own]

/-- `update_first_timer_delta` and `delta_list_insert_timer`, and the comparator if the new timer is
the first. -/
theorem insertFirst_spec (h : Lists priority timers) (prompt : Prompt cnt timers)
    (new : t ∉ timers.list) (own : (timers.timer t).priority = priority) (timeout : UInt32)
    {r : Timers τ} (made : r =
      let inserted := deltaListInsertTimer t timeout (updateFirstTimerDelta cnt timers)
      if inserted.list.head? = some t then setComparatorForNextTimer cnt inserted else inserted) :
    Lists priority r ∧ r.lastDeltaUpdateCount = cnt ∧ Compares cnt timers r ∧
      timesOf r = DeltaList.insert t timeout.toNat
        (DeltaList.advance (cnt - timers.lastDeltaUpdateCount).toNat (timesOf timers)) ∧
      SameTimers timers r := by
  obtain ⟨times, list, last, channel, same⟩ := updateFirstTimerDelta_spec prompt h.nodup
  have updated := h.update prompt
  rw [← list] at new
  have own' : ((updateFirstTimerDelta cnt timers).timer t).priority = priority :=
    (same t).1.trans own
  obtain ⟨times', last', channel', same'⟩ :=
    deltaListInsertTimer_spec updated.nodup new timeout
  have after := updated.insert new own' timeout
  rw [times] at times'
  generalize deltaListInsertTimer t timeout (updateFirstTimerDelta cnt timers) = inserted
    at made times' last' channel' same' after
  simp only at made
  by_cases first : inserted.list.head? = some t
  · have some : inserted.list ≠ [] := by
      rintro none
      rw [none] at first
      cases first
    rw [if_pos first] at made
    have set : Compares cnt timers _ := .set inserted some
    obtain ⟨c, comparator⟩ := setComparatorForNextTimer_same cnt inserted
    rw [comparator] at made set
    subst made
    exact ⟨after.channel c, last'.trans last, set, times', same.trans same'⟩
  · rw [if_neg first] at made
    subst made
    refine ⟨after, last'.trans last, .kept r (channel'.trans channel) ?_, times', same.trans same'⟩
    rw [times']
    rcases head_insert t timeout.toNat
      (DeltaList.advance (cnt - timers.lastDeltaUpdateCount).toNat (timesOf timers)) with
      head | ⟨-, head⟩
    · rw [← times', head_timesOf, Option.map_eq_some_iff] at head
      obtain ⟨u, here, pair⟩ := head
      exact absurd (here.trans (congrArg some (congrArg Prod.fst pair))) first
    · exact head

/-- A timer with a timeout goes into the list. -/
theorem createTimer_spec (h : Lists priority timers) (prompt : Prompt cnt timers)
    (new : t ∉ timers.list) {timeout : UInt32} (some : timeout ≠ 0) (periodic : UInt32) :
    ∃ r, createTimer t timeout periodic priority cnt timers = (r, false) ∧
      Lists priority r ∧ r.lastDeltaUpdateCount = cnt ∧ Compares cnt timers r ∧
      timesOf r = DeltaList.insert t timeout.toNat
        (DeltaList.advance (cnt - timers.lastDeltaUpdateCount).toNat (timesOf timers)) ∧
      ∀ u, (r.timer u).timeoutPeriodic =
        Function.update (fun u => (timers.timer u).timeoutPeriodic) t periodic u := by
  have times : timesOf (prepare t priority periodic (timers.timer t).delta timers) =
      timesOf timers := timesOf_prepare new periodic _
  have own : ((prepare t priority periodic (timers.timer t).delta timers).timer t).priority =
      priority := by
    simp [prepare]
  obtain ⟨lists, last, compares, times', same⟩ := insertFirst_spec
    (h.prepare new periodic (timers.timer t).delta)
    (prompt_prepare prompt new periodic (timers.timer t).delta) new own timeout rfl
  rw [times] at times'
  have compares' : Compares cnt timers _ := compares.before times rfl rfl
  exact ⟨_, if_neg some, lists, last, compares', times', periods_prepare same⟩

theorem slSleeptimerStopTimer_spec (h : Lists priority timers) (prompt : Prompt cnt timers)
    {r : Timers τ} (made : r = (slSleeptimerStopTimer t cnt timers).1) :
    Lists priority r ∧ r.lastDeltaUpdateCount = cnt ∧ Compares cnt timers r ∧
      timesOf r = DeltaList.remove t
        (DeltaList.advance (cnt - timers.lastDeltaUpdateCount).toNat (timesOf timers)) ∧
      SameTimers timers r := by
  obtain ⟨times, list, last, channel, same⟩ := updateFirstTimerDelta_spec prompt h.nodup
  have updated := h.update prompt
  unfold slSleeptimerStopTimer at made
  generalize updateFirstTimerDelta cnt timers = s at times list last channel same updated made
  by_cases here : t ∈ s.list
  · obtain ⟨removed, out, lists, rest, times', last', channel', same'⟩ := updated.remove here
    have cnt' : removed.lastDeltaUpdateCount = cnt := last'.trans last
    simp only [out] at made
    by_cases none : removed.list = []
    · have off : r = { removed with channel := sleeptimerHalDisableInt removed.channel } := by
        rw [made]
        split_ifs with first
        · exact absurd none first.2
        · rfl
      subst off
      rw [← times]
      exact ⟨lists.channel _, cnt', .off _ none rfl, times', same.trans same'⟩
    · by_cases first : s.list.head? = some t
      · rw [if_pos ⟨first, none⟩] at made
        have set : Compares cnt timers _ := .set removed none
        obtain ⟨c, comparator⟩ := setComparatorForNextTimer_same cnt removed
        rw [comparator] at made set
        subst made
        rw [← times]
        exact ⟨lists.channel c, cnt', set, times', same.trans same'⟩
      · rw [if_neg (fun both => first both.1), if_neg none] at made
        subst made
        have head : (timesOf r).head? = (timesOf s).head? := by
          rw [times']
          apply head_remove
          rintro e there rfl
          rw [head_timesOf, Option.mem_def, Option.map_eq_some_iff] at there
          obtain ⟨u, top, pair⟩ := there
          exact first (top.trans (congrArg some (congrArg Prod.fst pair)))
        rw [← times]
        exact ⟨lists, cnt', .kept r (channel'.trans channel) (times ▸ head), times',
          same.trans same'⟩
  · simp only [deltaListRemoveTimer_none here] at made
    subst made
    have out : t ∉ DeltaList.keys (timesOf r) := by simpa [timesOf] using here
    rw [← times, DeltaList.remove_none out]
    exact ⟨updated, last, .kept r channel (congrArg List.head? times), rfl, same⟩

theorem overflowIrq_spec (h : Lists priority timers) (prompt : Prompt cnt timers) {r : Timers τ}
    (made : r = overflowIrq cnt timers) :
    Lists priority r ∧ r.lastDeltaUpdateCount = cnt ∧ Compares cnt timers r ∧
      timesOf r =
        DeltaList.advance (cnt - timers.lastDeltaUpdateCount).toNat (timesOf timers) ∧
      SameTimers timers r := by
  obtain ⟨times, list, last, channel, same⟩ := updateFirstTimerDelta_spec prompt h.nodup
  have updated := h.update prompt
  unfold overflowIrq at made
  generalize updateFirstTimerDelta cnt timers = s at times list last channel same updated made
  by_cases none : s.list = []
  · have off : setComparatorForNextTimer cnt s = s := by
      unfold setComparatorForNextTimer
      rw [none]
    rw [off] at made
    subst made
    exact ⟨updated, last, .kept r channel (congrArg List.head? times), times, same⟩
  · have set : Compares cnt timers _ := .set s none
    obtain ⟨c, comparator⟩ := setComparatorForNextTimer_same cnt s
    rw [comparator] at made set
    subst made
    exact ⟨updated.channel c, last, set, times, same⟩

theorem clock_eq {c : Clock τ} (now : s.now = c.now)
    (due : ∀ t, DeltaList.due t (s.now - elapsed s) (timesOf s.timers) = c.due t)
    (period : ∀ t, (s.timers.timer t).timeoutPeriodic.toNat = c.period t)
    (calls : s.calls = c.calls) : view s = c := by
  unfold view
  rw [now, calls]
  rw [now] at due
  rw [funext due, funext period]

theorem due_advanced (h : Inv priority s) (prompt : Prompt (counter s.now) s.timers) (u : τ) :
    DeltaList.due u s.now (DeltaList.advance (elapsed s) (timesOf s.timers)) = (view s).due u := by
  by_cases none : s.timers.list = []
  · unfold view
    rw [timesOf_nil.mpr none]
    rfl
  · have known := h.past none
    have base : s.now - elapsed s + elapsed s = s.now := by omega
    have moved : DeltaList.due u (s.now - elapsed s + elapsed s)
        (DeltaList.advance (elapsed s) (timesOf s.timers)) =
        DeltaList.due u (s.now - elapsed s) (timesOf s.timers) :=
      DeltaList.due_advance (prompt_first prompt)
    rw [base] at moved
    exact moved

theorem view_due_none : (view s).due t = none ↔ t ∉ s.timers.list := by
  have keys : DeltaList.keys (timesOf s.timers) = s.timers.list := keys_deltas
  unfold view
  rw [DeltaList.due_none, keys]

omit [DecidableEq τ] in
theorem elapsed_updated {time : ℕ} {r : Timers τ} {calls : List τ}
    (last : r.lastDeltaUpdateCount = counter time) : elapsed ⟨r, time, calls⟩ = 0 := by
  unfold elapsed
  simp only [last, UInt32.sub_self]
  rfl

omit [DecidableEq τ] in
theorem inv_updated {r : Timers τ} {calls : List τ} (lists : Lists priority r)
    (last : r.lastDeltaUpdateCount = counter s.now) : Inv priority ⟨r, s.now, calls⟩ := by
  refine ⟨lists, fun _ => ?_⟩
  rw [elapsed_updated last]
  exact Nat.zero_le _

omit [DecidableEq τ] in
theorem armed_set {time : ℕ} {r : Timers τ} {calls : List τ} (some : r.list ≠ [])
    (last : r.lastDeltaUpdateCount = counter time) :
    Armed ⟨setComparatorForNextTimer (counter time) r, time, calls⟩ := by
  obtain ⟨head, rest, list⟩ := List.exists_cons_of_ne_nil some
  have value : counter time + (r.timer head).delta =
      counter (time + (r.timer head).delta.toNat) := by
    rw [counter_add]
    exact congrArg (counter time + ·) UInt32.ofNat_toNat.symm
  have made : setComparatorForNextTimer (counter time) r = { r with
      channel := sleeptimerHalSetCompare (counter (time + (r.timer head).delta.toNat))
        (counter time) (sleeptimerHalEnableInt r.channel) } := by
    unfold setComparatorForNextTimer
    rw [list, last, ← value]
  have first (c : Channel) : firstDue ⟨{ r with channel := c }, time, calls⟩ =
      Option.some (time + (r.timer head).delta.toNat) := by
    unfold firstDue
    rw [elapsed_updated (r := { r with channel := c }) last, head_timesOf]
    simp only [list]
    rfl
  unfold Armed
  rw [made, first]
  have small := (r.timer head).delta.toNat_lt
  exact watch_set (Nat.le_add_right _ _) (by omega) r.channel

omit [DecidableEq τ] in
/-- The comparator after a call that updated the list. -/
theorem Armed.call {r : Timers τ} {calls : List τ} (armed : Armed s) (h : Inv priority s)
    (prompt : Prompt (counter s.now) s.timers) (last : r.lastDeltaUpdateCount = counter s.now)
    (compares : Compares (counter s.now) s.timers r) : Armed ⟨r, s.now, calls⟩ := by
  cases compares with
  | off _ list off =>
    have none : firstDue ⟨r, s.now, calls⟩ = .none := by
      unfold firstDue
      rw [timesOf_nil.mpr list]
      rfl
    unfold Armed
    rw [none]
    exact off
  | set r some =>
    obtain ⟨c, comparator⟩ := setComparatorForNextTimer_same (counter s.now) r
    rw [comparator] at last
    exact armed_set some last
  | kept _ same first =>
    have due : firstDue ⟨r, s.now, calls⟩ = firstDue s := by
      have first' := prompt_first prompt
      have known := h.past
      unfold firstDue
      rw [elapsed_updated last, first]
      change Option.map _ (DeltaList.advance (elapsed s) (timesOf s.timers)).head? = _
      cases times : timesOf s.timers with
      | nil => rfl
      | cons e rest =>
        have some : s.timers.list ≠ [] := by
          intro none
          rw [timesOf_nil.mpr none] at times
          cases times
        rw [times] at first'
        have enough : elapsed s ≤ e.2 := first' e rfl
        have past := known some
        change Option.some (s.now - 0 + (e.2 - elapsed s)) = Option.some (s.now - elapsed s + e.2)
        congr 1
        omega
    unfold Armed
    rw [due, same]
    exact armed

/-- After a call that updated the list. -/
theorem view_updated {r : Timers τ} {calls : List τ} {c : Clock τ}
    (last : r.lastDeltaUpdateCount = counter s.now) (now : s.now = c.now)
    (due : ∀ t, DeltaList.due t s.now (timesOf r) = c.due t)
    (period : ∀ t, (r.timer t).timeoutPeriodic.toNat = c.period t) (called : calls = c.calls) :
    view ⟨r, s.now, calls⟩ = c := by
  refine clock_eq now (fun t => ?_) period called
  rw [elapsed_updated last]
  exact due t

theorem Inv.create (h : Inv priority s) (prompt : Prompt (counter s.now) s.timers)
    (new : t ∉ s.timers.list) (periodic : Bool) (timeout : UInt32) {r : Timers τ × Bool}
    (made : r = createTimer t timeout (if periodic then timeout else 0) priority (counter s.now)
      s.timers) :
    Inv priority (called t s r) ∧ (Armed s → Armed (called t s r)) ∧
      clockStep (view s) (.start t timeout.toNat (if periodic then timeout else 0).toNat) =
        some (view (called t s r)) := by
  have idle : (view s).due t = none := view_due_none.mpr new
  by_cases zero : timeout = 0
  · subst zero
    have now : r = (prepare t priority 0 0 s.timers, true) := by
      rw [made, ite_self]
      rfl
    have times : timesOf (prepare t priority 0 0 s.timers) = timesOf s.timers :=
      timesOf_prepare new 0 0
    subst now
    refine ⟨⟨h.lists.prepare new 0 0, h.past⟩, fun armed => ?_, ?_⟩
    · have due : firstDue (called t s (prepare t priority 0 0 s.timers, true)) = firstDue s := by
        unfold firstDue
        change Option.map _ (timesOf (prepare t priority 0 0 s.timers)).head? = _
        rw [times]
        rfl
      unfold Armed
      rw [due]
      exact armed
    · rw [ite_self]
      unfold clockStep
      simp only [if_pos idle]
      refine congrArg some (clock_eq rfl (fun u => ?_) (fun u => ?_) rfl).symm
      · change DeltaList.due u (s.now - elapsed s) (timesOf (prepare t priority 0 0 s.timers)) = _
        rw [times]
        rfl
      · change ((prepare t priority 0 0 s.timers).timer u).timeoutPeriodic.toNat = _
        rw [periods_prepare (SameTimers.refl _)]
        exact Function.apply_update (fun _ => UInt32.toNat) _ t 0 u
  · obtain ⟨q, out, lists, last, compares, times, periods⟩ :=
      createTimer_spec h.lists prompt new zero (if periodic then timeout else 0)
    rw [out] at made
    subst made
    have away : t ∉ DeltaList.keys (DeltaList.advance (elapsed s) (timesOf s.timers)) := by
      rw [DeltaList.keys_advance]
      simpa [timesOf] using new
    refine ⟨inv_updated lists last, fun armed => armed.call h prompt last compares, ?_⟩
    have some : timeout.toNat ≠ 0 := fun same => zero (UInt32.toNat_inj.mp same)
    unfold clockStep
    simp only [if_pos idle, if_neg some]
    refine congrArg Option.some (view_updated last rfl (fun u => ?_) (fun u => ?_) rfl).symm
    · rw [times]
      change DeltaList.due u s.now (DeltaList.insert t timeout.toNat
        (DeltaList.advance (elapsed s) (timesOf s.timers))) = _
      rw [DeltaList.due_insert away, due_advanced h prompt]
      exact (Function.update_apply _ t _ u).symm
    · rw [periods]
      exact Function.apply_update (fun _ => UInt32.toNat) _ t _ u

theorem Inv.stop (h : Inv priority s) (prompt : Prompt (counter s.now) s.timers) {r : Timers τ}
    (made : r = (slSleeptimerStopTimer t (counter s.now) s.timers).1) :
    Inv priority { s with timers := r } ∧ (Armed s → Armed { s with timers := r }) ∧
      t ∉ r.list ∧ Prompt (counter s.now) r ∧
      clockStep (view s) (.stop t) = some (view { s with timers := r }) := by
  obtain ⟨lists, last, compares, times, same⟩ := slSleeptimerStopTimer_spec h.lists prompt made
  change timesOf r = DeltaList.remove t (DeltaList.advance (elapsed s) (timesOf s.timers)) at times
  have nodup : (DeltaList.keys (DeltaList.advance (elapsed s) (timesOf s.timers))).Nodup := by
    rw [DeltaList.keys_advance]
    simpa [timesOf] using h.lists.nodup
  have due (u : τ) : DeltaList.due u s.now (timesOf r) =
      Function.update (view s).due t none u := by
    rw [times, DeltaList.due_remove nodup, due_advanced h prompt]
    by_cases own : u = t
    · subst own
      rw [if_pos rfl, Function.update_self]
    · rw [if_neg own, Function.update_of_ne own]
  refine ⟨inv_updated lists last, fun armed => armed.call h prompt last compares, ?_, ?_, ?_⟩
  · have gone := due t
    rw [Function.update_self, DeltaList.due_none] at gone
    simpa [timesOf] using gone
  · intro head first
    rw [last, UInt32.sub_self]
    exact UInt32.zero_le
  · refine congrArg some (view_updated last rfl due (fun u => ?_) rfl).symm
    rw [(same u).2]
    rfl

theorem Inv.overflow (h : Inv priority s) (prompt : Prompt (counter s.now) s.timers) {r : Timers τ}
    (made : r = overflowIrq (counter s.now) s.timers) :
    Inv priority { s with timers := r } ∧ (Armed s → Armed { s with timers := r }) ∧
      view { s with timers := r } = view s ∧ elapsed { s with timers := r } = 0 := by
  obtain ⟨lists, last, compares, times, same⟩ := overflowIrq_spec h.lists prompt made
  refine ⟨inv_updated lists last, fun armed => armed.call h prompt last compares,
    view_updated last rfl (fun u => ?_) (fun u => ?_) rfl, elapsed_updated last⟩
  · rw [times]
    exact due_advanced h prompt u
  · rw [(same u).2]
    rfl

/-- A call that comes while a timer is overdue moves the time of every timer by the same amount. -/
theorem update_late (h : Inv priority s) {head : τ} {rest : List τ}
    (list : s.timers.list = head :: rest)
    (late : (s.timers.timer head).delta.toNat < elapsed s) {u : τ} {d : ℕ}
    (due : (view s).due u = some d) :
    ∃ d', (view { s with timers := updateFirstTimerDelta (counter s.now) s.timers }).due u =
        some d' ∧ d' + 2 * (s.timers.timer head).delta.toNat = d + elapsed s := by
  have known := h.past (by simp [list])
  have past : ¬(s.timers.timer head).delta ≥ counter s.now - s.timers.lastDeltaUpdateCount := by
    rw [ge_iff_le, UInt32.le_iff_toNat_le]
    exact Nat.not_le.mpr late
  have made : updateFirstTimerDelta (counter s.now) s.timers = setDelta head 0
      { s.timers with lastDeltaUpdateCount := counter s.now - (s.timers.timer head).delta } := by
    unfold updateFirstTimerDelta
    split
    · rename_i none
      rw [list] at none
      cases none
    · rename_i head' rest' list'
      obtain ⟨rfl, -⟩ := List.cons.inj (list'.symm.trans list)
      exact if_neg past
  rw [made]
  have before := timesOf_cons list
  have after : timesOf (setDelta head 0 { s.timers with
      lastDeltaUpdateCount := counter s.now - (s.timers.timer head).delta }) =
      (head, 0) :: deltas s.timers.timer rest := timesOf_setDelta list h.lists.nodup 0
  have back : counter s.now - (counter s.now - (s.timers.timer head).delta) =
      (s.timers.timer head).delta := by grind
  have since : elapsed { s with timers := setDelta head 0 { s.timers with
      lastDeltaUpdateCount := counter s.now - (s.timers.timer head).delta } } =
      (s.timers.timer head).delta.toNat := congrArg UInt32.toNat back
  simp only [view, before] at due
  simp only [view, after, since]
  by_cases own : head = u
  · subst own
    have first : s.now - elapsed s + (s.timers.timer head).delta.toNat = d :=
      Option.some.inj ((if_pos rfl).symm.trans due)
    exact ⟨_, if_pos rfl, by omega⟩
  · have tail := (if_neg own).symm.trans due
    obtain ⟨r, same, all⟩ := DeltaList.due_base tail
    refine ⟨_, (if_neg own).trans (all _), ?_⟩
    omega

theorem Inv.pass (h : Inv priority s) {n : ℕ}
    (short : s.timers.list = [] ∨ elapsed s + n < 2 ^ 32) {c : Channel} {s' : Sys τ}
    (passed : s' = { s with timers.channel := c, now := s.now + n }) :
    Inv priority s' ∧ firstDue s' = firstDue s ∧ clockStep (view s) (.pass n) = some (view s') := by
  subst passed
  by_cases none : s.timers.list = []
  · have empty := timesOf_nil.mpr none
    refine ⟨⟨h.lists.channel c, fun some => absurd none some⟩, ?_, ?_⟩
    · unfold firstDue
      change Option.map _ (timesOf s.timers).head? = _
      rw [empty]
      rfl
    · refine congrArg some (clock_eq rfl (fun u => ?_) (fun _ => rfl) rfl).symm
      unfold view
      change DeltaList.due u _ (timesOf s.timers) = _
      rw [empty]
      rfl
  · have later := elapsed_pass (c := c) (short.resolve_left none)
    have known := h.past none
    have base : s.now + n - (elapsed s + n) = s.now - elapsed s := by omega
    refine ⟨⟨h.lists.channel c, fun _ => ?_⟩, ?_, ?_⟩
    · rw [later]
      exact Nat.add_le_add_right known n
    · unfold firstDue
      rw [later]
      simp only [base]
      rfl
    · refine congrArg some (clock_eq rfl (fun u => ?_) (fun _ => rfl) rfl).symm
      rw [later]
      simp only [base]
      rfl

omit [DecidableEq τ] in
theorem Armed.pass (armed : Armed s) (n : ℕ) {s' : Sys τ} (same : firstDue s' = firstDue s)
    (passed : s' = { s with
      timers.channel := passTicks s.now n s.timers.channel
      now := s.now + n }) : Armed s' := by
  subst passed
  unfold Armed at armed ⊢
  rw [same]
  cases first : firstDue s with
  | none =>
    rw [first] at armed
    exact armed
  | some d =>
    rw [first] at armed
    exact armed.pass n

end

end GreenPower.SleeptimerClock
