import GreenPower.SleeptimerClock

set_option autoImplicit false

/-!
The interrupt of the comparator, round by round, and whole runs: the calls and the interrupts of the
sleeptimer are those of the clock, the comparator is set for the first timer, and the interrupt ends
and leaves none that is due.
-/
namespace GreenPower.SleeptimerRuns
open Runs Sleeptimer SleeptimerLists SleeptimerClock CompareChannel

section
variable {τ : Type} [DecidableEq τ] {priority : UInt8} {s s' : Sys τ} {t : τ} {timers : Timers τ}

omit [DecidableEq τ] in
theorem mostUrgent_same {timer : τ → Timer} {current : τ} {l : List τ} {deltaTot : UInt32}
    (own : (timer current).priority = priority) (same : ∀ t ∈ l, (timer t).priority = priority) :
    mostUrgent timer current deltaTot l = current := by
  induction l generalizing deltaTot with
  | nil => rfl
  | cons t l ih =>
    have equal : ¬(timer current).priority > (timer t).priority := by
      rw [own, same t List.mem_cons_self]
      exact UInt8.lt_irrefl priority
    unfold mostUrgent
    rw [if_neg equal]
    split_ifs
    · exact ih (fun u here => same u (List.mem_cons_of_mem _ here))
    · rfl

theorem serve_spec (h : Lists priority timers) {head : τ} {rest : List τ}
    (list : timers.list = head :: rest) : Lists priority (serve head timers) ∧
      timesOf (serve head timers) =
        (if (timers.timer head).timeoutPeriodic ≠ 0 then
          DeltaList.insert head (timers.timer head).timeoutPeriodic.toNat (deltas timers.timer rest)
        else deltas timers.timer rest) ∧
      (serve head timers).channel = timers.channel ∧ SameTimers timers (serve head timers) := by
  have times : timesOf (setDelta head 0 timers) = (head, 0) :: deltas timers.timer rest :=
    timesOf_setDelta list h.nodup 0
  have whole := timesOf_cons list
  have zeroed : Lists priority (setDelta head 0 timers) := by
    refine ⟨h.nodup, fun t here => ?_, ?_⟩
    · rw [(sameTimers_setDelta 0 t).1]
      exact h.priority t here
    · have short := h.short
      rw [whole, DeltaList.total_cons] at short
      rw [times, DeltaList.total_cons]
      omega
  have here : head ∈ (setDelta head 0 timers).list := by
    change head ∈ timers.list
    rw [list]
    exact List.mem_cons_self
  obtain ⟨removed, made, lists, erased, times', -, channel, same⟩ := zeroed.remove here
  have first : SameTimers timers (setDelta head 0 timers) := sameTimers_setDelta 0
  have both := SameTimers.trans first same
  have tail : timesOf removed = deltas timers.timer rest := by
    rw [times', times]
    change (if head = head then DeltaList.delay 0 _ else _) = _
    rw [if_pos rfl, DeltaList.delay_zero]
  have gone : head ∉ removed.list := by
    rw [erased]
    exact zeroed.nodup.not_mem_erase
  have period : ((setDelta head 0 timers).timer head).timeoutPeriodic =
      (timers.timer head).timeoutPeriodic := (sameTimers_setDelta 0 head).2
  have own : (removed.timer head).priority = priority := by
    rw [(both head).1]
    exact h.priority head here
  unfold serve
  simp only [made, Option.getD_some, period]
  split_ifs with again
  · obtain ⟨times'', -, channel', same'⟩ :=
      deltaListInsertTimer_spec lists.nodup gone (timers.timer head).timeoutPeriodic
    rw [tail] at times''
    exact ⟨lists.insert gone own _, times'', channel'.trans channel, both.trans same'⟩
  · exact ⟨lists, tail, channel, both⟩

/-- The state between two rounds, as if the list had just been updated. -/
def settle (time : ℕ) (deltaTot : UInt32) (timers : Timers τ) : Timers τ :=
  { timers with lastDeltaUpdateCount := counter time - deltaTot }

omit [DecidableEq τ] in
theorem elapsed_settle {time : ℕ} {deltaTot : UInt32} {calls : List τ} :
    elapsed ⟨settle time deltaTot timers, time, calls⟩ = deltaTot.toNat := by
  have back : counter time - (counter time - deltaTot) = deltaTot := by grind
  unfold elapsed settle
  simp only [back]

omit [DecidableEq τ] in
theorem settle_self (timers : Timers τ) (now : ℕ) :
    settle now (counter now - timers.lastDeltaUpdateCount) timers = timers := by
  have back : counter now - (counter now - timers.lastDeltaUpdateCount) =
      timers.lastDeltaUpdateCount := by grind
  unfold settle
  rw [back]

theorem view_settle {time : ℕ} {deltaTot : UInt32} {calls : List τ} (u : τ) :
    (view ⟨settle time deltaTot timers, time, calls⟩).due u =
      DeltaList.due u (time - deltaTot.toNat) (timesOf timers) := by
  unfold view
  simp only [elapsed_settle]
  rfl

/-- The timer that is served is due again after its period, if it has one. -/
theorem serve_due (h : Lists priority timers) {head : τ} {rest : List τ}
    (list : timers.list = head :: rest) (base : ℕ) :
    (DeltaList.due · base (timesOf (serve head timers))) =
      Function.update (DeltaList.due · base (deltas timers.timer rest)) head
        (if (timers.timer head).timeoutPeriodic.toNat = 0 then none
        else some (base + (timers.timer head).timeoutPeriodic.toNat)) := by
  obtain ⟨-, times, -⟩ := serve_spec h list
  have nodup := h.nodup
  rw [list] at nodup
  have out : head ∉ DeltaList.keys (deltas timers.timer rest) := by
    rw [keys_deltas]
    exact (List.nodup_cons.mp nodup).1
  funext u
  rw [times, Function.update_apply]
  by_cases once : (timers.timer head).timeoutPeriodic = 0
  · have zero : (timers.timer head).timeoutPeriodic.toNat = 0 := congrArg UInt32.toNat once
    rw [if_neg (not_not_intro once), if_pos zero]
    split_ifs with own
    · rw [own]
      exact DeltaList.due_none.mpr out
    · rfl
  · have some : (timers.timer head).timeoutPeriodic.toNat ≠ 0 :=
      fun zero => once (UInt32.toNat_inj.mp zero)
    rw [if_pos once, if_neg some, DeltaList.due_insert out]

theorem fire_round {time : ℕ} {deltaTot : UInt32} {calls : List τ} {head : τ} {rest : List τ}
    (last : UInt32)
    (h : Inv priority ⟨settle time deltaTot timers, time, calls⟩)
    (list : timers.list = head :: rest) (expired : deltaTot ≥ (timers.timer head).delta)
    {left : UInt32} (rests : left = deltaTot - (timers.timer head).delta) {served : Timers τ}
    (made : served = serve head { timers with lastDeltaUpdateCount := last }) :
    Inv priority ⟨settle time left served, time, head :: calls⟩ ∧
      clockStep (view ⟨settle time deltaTot timers, time, calls⟩) (.fire head) =
        some (view ⟨settle time left served, time, head :: calls⟩) := by
  have before : Lists priority { timers with lastDeltaUpdateCount := last } :=
    ⟨h.lists.nodup, h.lists.priority, h.lists.short⟩
  obtain ⟨lists, -, -, same⟩ := serve_spec before list
  have again := serve_due before list
  rw [← made] at lists same again
  have known : deltaTot.toNat ≤ time := by
    have past := h.past (by simp [settle, list])
    rwa [elapsed_settle] at past
  have reached : (timers.timer head).delta.toNat ≤ deltaTot.toNat :=
    UInt32.le_iff_toNat_le.mp expired
  have less : left.toNat = deltaTot.toNat - (timers.timer head).delta.toNat := by
    rw [rests]
    exact UInt32.toNat_sub_of_le _ _ expired
  have base : time - left.toNat =
      time - deltaTot.toNat + (timers.timer head).delta.toNat := by omega
  have whole (u : τ) : (view ⟨settle time deltaTot timers, time, calls⟩).due u =
      if head = u then some (time - left.toNat)
      else DeltaList.due u (time - left.toNat) (deltas timers.timer rest) := by
    rw [view_settle, timesOf_cons list, base]
    rfl
  refine ⟨⟨⟨lists.nodup, lists.priority, lists.short⟩, fun _ => ?_⟩, ?_⟩
  · rw [elapsed_settle]
    change left.toNat ≤ time
    omega
  · have own := whole head
    rw [if_pos rfl] at own
    have now : time - left.toNat ≤ (view ⟨settle time deltaTot timers, time, calls⟩).now :=
      Nat.sub_le time left.toNat
    unfold clockStep
    simp only [own, if_pos now]
    refine congrArg some (clock_eq rfl (fun u => ?_) (fun u => ?_) rfl).symm
    · rw [elapsed_settle]
      refine (congrFun (again (time - left.toNat)) u).trans ?_
      by_cases mine : u = head
      · subst mine
        simp only [Function.update_self]
        rfl
      · simp only [Function.update_of_ne mine, whole u, if_neg (Ne.symm mine)]
    · exact congrArg UInt32.toNat (same u).2

def Served (s : Sys τ) : Prop := ∀ t d, (view s).due t = some d → s.now < d

inductive Ends (time : ℕ) (deltaTot : UInt32) (timers : Timers τ) : Timers τ → Prop
  | idle (list : timers.list = []) : Ends time deltaTot timers
      { timers with channel := sleeptimerHalDisableInt timers.channel }
  | waiting (head : τ) (rest : List τ) (list : timers.list = head :: rest)
      (left : ¬deltaTot ≥ (timers.timer head).delta) :
      Ends time deltaTot timers (setComparatorForNextTimer (counter time)
        (setDelta head ((timers.timer head).delta - deltaTot)
          { timers with lastDeltaUpdateCount := counter time }))

def RunOff (deltaTot : UInt32) (timers : Timers τ) (head : τ) (rest : List τ) : Prop :=
  timers.list = head :: rest ∧ deltaTot ≥ (timers.timer head).delta

theorem compareLoop_ends {time : ℕ} {deltaTot : UInt32} (readings : List (UInt32 × Bool))
    (none : ¬∃ head rest, RunOff deltaTot timers head rest) : ∃ r,
      compareLoop readings deltaTot (counter time) timers = some (r, []) ∧
        Ends time deltaTot timers r := by
  unfold compareLoop
  split
  · rename_i list
    exact ⟨_, rfl, .idle list⟩
  · rename_i head rest list
    have left : ¬deltaTot ≥ (timers.timer head).delta :=
      fun expired => none ⟨head, rest, list, expired⟩
    rw [if_neg left]
    exact ⟨_, rfl, .waiting head rest list left⟩

theorem end_round {time : ℕ} {deltaTot : UInt32} {calls : List τ} {r : Timers τ}
    (h : Inv priority ⟨settle time deltaTot timers, time, calls⟩)
    (ends : Ends time deltaTot timers r) :
    Inv priority ⟨r, time, calls⟩ ∧ Armed ⟨r, time, calls⟩ ∧
      view ⟨r, time, calls⟩ = view ⟨settle time deltaTot timers, time, calls⟩ ∧
      Served ⟨r, time, calls⟩ := by
  cases ends with
  | idle none =>
    have empty : deltas timers.timer timers.list = [] := by
      rw [none]
      rfl
    refine ⟨⟨⟨h.lists.nodup, h.lists.priority, h.lists.short⟩, fun some => absurd none some⟩, ?_,
      clock_eq rfl (fun u => ?_) (fun _ => rfl) rfl, fun u d here => ?_⟩
    · unfold Armed firstDue timesOf
      rw [empty]
      rfl
    · unfold view timesOf settle
      simp only [empty]
      rfl
    · unfold view timesOf at here
      rw [empty] at here
      cases here
  | waiting head rest list left =>
    have less : deltaTot.toNat < (timers.timer head).delta.toNat := by
      rw [ge_iff_le, UInt32.le_iff_toNat_le] at left
      omega
    have back : counter time - (settle time deltaTot timers).lastDeltaUpdateCount = deltaTot := by
      change counter time - (counter time - deltaTot) = deltaTot
      grind
    have prompt : Prompt (counter time) (settle time deltaTot timers) := by
      intro first here
      change timers.list.head? = some first at here
      rw [list] at here
      obtain rfl := Option.some.inj here
      rw [back, UInt32.le_iff_toNat_le]
      exact less.le
    have ends : setComparatorForNextTimer (counter time)
        (setDelta head ((timers.timer head).delta - deltaTot)
          { timers with lastDeltaUpdateCount := counter time }) =
        overflowIrq (counter time) (settle time deltaTot timers) := by
      unfold overflowIrq
      rw [updateFirstTimerDelta_eq prompt, back]
      unfold settle nearer
      simp only [list]
    have some : timers.list ≠ [] := by
      rw [list]
      exact List.cons_ne_nil head rest
    have armed : Armed ⟨setComparatorForNextTimer (counter time)
        (setDelta head ((timers.timer head).delta - deltaTot)
          { timers with lastDeltaUpdateCount := counter time }), time, calls⟩ :=
      armed_set some rfl
    obtain ⟨inv, -, same, -⟩ := h.overflow prompt ends
    refine ⟨inv, armed, same, fun u d here => ?_⟩
    obtain ⟨-, last, -, times, -⟩ := overflowIrq_spec h.lists prompt ends
    have whole : timesOf (settle time deltaTot timers) =
        (head, (timers.timer head).delta.toNat) :: deltas timers.timer rest := timesOf_cons list
    rw [back, whole] at times
    unfold view at here
    simp only [elapsed_updated last] at here
    rw [times] at here
    have later := DeltaList.first_due here
    change time < d
    simp only at later
    omega

/-- The list after a callback that took `n` ticks, and the time of the loop. -/
def afterCallback (time n : ℕ) (head : τ) (timers : Timers τ) : Timers τ :=
  { serve head { timers with lastDeltaUpdateCount := counter time } with
    channel := passTicks time n timers.channel }

def totalAfter (time n : ℕ) (deltaTot : UInt32) (head : τ) (timers : Timers τ) : UInt32 :=
  deltaTot - (timers.timer head).delta + (counter (time + n) - counter time)

theorem compareLoop_cons (h : Lists priority timers) {time : ℕ} {deltaTot : UInt32} {head : τ}
    {rest : List τ} (off : RunOff deltaTot timers head rest) (n : ℕ) (passes : List ℕ) :
    compareLoop (readings time timers.channel (n :: passes)) deltaTot (counter time) timers =
      (compareLoop (readings (time + n) (afterCallback time n head timers).channel passes)
        (totalAfter time n deltaTot head timers) (counter (time + n))
        (afterCallback time n head timers)).map (fun r => (r.1, head :: r.2)) := by
  obtain ⟨list, expired⟩ := off
  have first : mostUrgent timers.timer head deltaTot timers.list = head := by
    apply mostUrgent_same (h.priority head _) h.priority
    rw [list]
    exact List.mem_cons_self
  have before : Lists priority { timers with lastDeltaUpdateCount := counter time } :=
    ⟨h.nodup, h.priority, h.short⟩
  obtain ⟨-, -, channel, -⟩ := serve_spec before list
  have flagged : { serve head { timers with lastDeltaUpdateCount := counter time } with
      channel.flag := (passTicks time n timers.channel).flag } =
      afterCallback time n head timers := by
    unfold afterCallback
    generalize serve head { timers with lastDeltaUpdateCount := counter time } = served at channel
    obtain ⟨timer, list', last, c⟩ := served
    obtain rfl : c = timers.channel := channel
    rfl
  rw [readings, compareLoop]
  split
  · rename_i none
    rw [list] at none
    cases none
  · rename_i head' rest' list'
    obtain ⟨rfl, rfl⟩ := List.cons.inj (list'.symm.trans list)
    simp only [if_pos expired, first, flagged]
    rfl

theorem compareLoop_nil {time : ℕ} {deltaTot : UInt32} {head : τ} {rest : List τ}
    (off : RunOff deltaTot timers head rest) :
    compareLoop [] deltaTot (counter time) timers = none := by
  rw [compareLoop, off.1]
  simp only [if_pos off.2]

/-- A round: the first timer runs off, and its callback takes `n` ticks. -/
theorem round_spec {time n : ℕ} {deltaTot : UInt32} {calls : List τ} {head : τ} {rest : List τ}
    (h : Inv priority ⟨settle time deltaTot timers, time, calls⟩)
    (off : RunOff deltaTot timers head rest) (short : deltaTot.toNat + n < 2 ^ 32) :
    Inv priority ⟨settle (time + n) (totalAfter time n deltaTot head timers)
        (afterCallback time n head timers), time + n, head :: calls⟩ ∧
      (totalAfter time n deltaTot head timers).toNat ≤ deltaTot.toNat + n ∧
      ∃ c, clockStep (view ⟨settle time deltaTot timers, time, calls⟩) (.fire head) = some c ∧
        clockStep c (.pass n) = some (view ⟨settle (time + n)
          (totalAfter time n deltaTot head timers) (afterCallback time n head timers), time + n,
          head :: calls⟩) := by
  obtain ⟨list, expired⟩ := off
  obtain ⟨fired, fire⟩ := fire_round (counter time) h list expired rfl rfl
  have less : (deltaTot - (timers.timer head).delta).toNat ≤ deltaTot.toNat := by
    rw [UInt32.toNat_sub_of_le _ _ expired]
    exact Nat.sub_le _ _
  have ticks : counter (time + n) - counter time = counter n := by
    rw [counter_add]
    grind
  have later : (totalAfter time n deltaTot head timers).toNat =
      (deltaTot - (timers.timer head).delta).toNat + n := by
    unfold totalAfter
    rw [ticks, UInt32.toNat_add, counter_toNat (by omega)]
    exact Nat.mod_eq_of_lt (by omega)
  have back : counter (time + n) - totalAfter time n deltaTot head timers =
      counter time - (deltaTot - (timers.timer head).delta) := by
    unfold totalAfter
    grind
  obtain ⟨passed, -, pass⟩ := fired.pass (n := n) (c := passTicks time n timers.channel)
    (Or.inr (by rw [elapsed_settle]; omega)) rfl
  have settled : settle (time + n) (totalAfter time n deltaTot head timers)
      (afterCallback time n head timers) = { settle time (deltaTot - (timers.timer head).delta)
        (serve head { timers with lastDeltaUpdateCount := counter time }) with
        channel := passTicks time n timers.channel } := by
    unfold settle
    rw [back]
    rfl
  rw [settled]
  exact ⟨passed, by omega, _, fire, pass⟩

/-- What the interrupt is on the clock: callbacks, and the ticks that each takes. -/
def servings : List τ → List ℕ → List (ClockMove τ)
  | t :: calls, n :: passes => .fire t :: .pass n :: servings calls passes
  | _, _ => []

/-- From one look at the list to the end. -/
theorem compareLoop_spec {time : ℕ} {deltaTot : UInt32} {passes : List ℕ} {calls : List τ}
    {r : Timers τ × List τ} (h : Inv priority ⟨settle time deltaTot timers, time, calls⟩)
    (fits : timers.list = [] ∨ deltaTot.toNat + passes.sum < 2 ^ 32)
    (made : compareLoop (readings time timers.channel passes) deltaTot (counter time) timers =
      some r) :
    (let after : Sys τ := ⟨r.1, time + (passes.take r.2.length).sum, r.2.reverse ++ calls⟩
    Inv priority after ∧ Armed after ∧ Served after ∧
      follow clockStep (fun _ m => Serving m) (view ⟨settle time deltaTot timers, time, calls⟩)
        (servings r.2 passes) = some (view after)) := by
  induction passes generalizing time deltaTot timers calls r with
  | nil =>
    by_cases off : ∃ head rest, RunOff deltaTot timers head rest
    · obtain ⟨head, rest, off⟩ := off
      rw [readings, compareLoop_nil off] at made
      cases made
    · obtain ⟨timers', ended, ends⟩ := compareLoop_ends (readings time timers.channel []) off
      obtain rfl := Option.some.inj (ended.symm.trans made)
      obtain ⟨inv, armed, same, served⟩ := end_round h ends
      exact ⟨inv, armed, served, congrArg some same.symm⟩
  | cons n passes ih =>
    by_cases off : ∃ head rest, RunOff deltaTot timers head rest
    · obtain ⟨head, rest, off⟩ := off
      have short := fits.resolve_left (by simp [off.1])
      rw [List.sum_cons] at short
      obtain ⟨inv, later, c, fire, pass⟩ := round_spec h off (n := n) (by omega)
      have lists : Lists priority timers := ⟨h.lists.nodup, h.lists.priority, h.lists.short⟩
      rw [compareLoop_cons lists off] at made
      obtain ⟨r', rest', rfl⟩ := Option.map_eq_some_iff.mp made
      obtain ⟨inv', armed, served, run⟩ := ih inv (Or.inr (by omega)) rest'
      have time' : time + ((n :: passes).take (head :: r'.2).length).sum =
          time + n + (passes.take r'.2.length).sum := by
        rw [List.length_cons, List.take_succ_cons, List.sum_cons, Nat.add_assoc]
      have calls' : (head :: r'.2).reverse ++ calls = r'.2.reverse ++ head :: calls := by simp
      simp only [time', calls']
      refine ⟨inv', armed, served, ?_⟩
      rw [servings, follow_cons _ trivial fire, follow_cons _ trivial pass]
      exact run
    · obtain ⟨timers', ended, ends⟩ := compareLoop_ends (readings time timers.channel (n :: passes)) off
      obtain rfl := Option.some.inj (ended.symm.trans made)
      obtain ⟨inv, armed, same, served⟩ := end_round h ends
      exact ⟨inv, armed, served, congrArg some same.symm⟩

/-- The loop ends if there are as many callbacks as timers run off while they are called. -/
theorem compareLoop_total {time : ℕ} {deltaTot : UInt32} {passes : List ℕ} {calls l : List τ}
    (h : Inv priority ⟨settle time deltaTot timers, time, calls⟩)
    (fits : timers.list = [] ∨ deltaTot.toNat + passes.sum < 2 ^ 32) (nodup : l.Nodup)
    (inside : ∀ t d, (view ⟨settle time deltaTot timers, time, calls⟩).due t = some d → t ∈ l)
    (enough : runOffs (view ⟨settle time deltaTot timers, time, calls⟩) l (time + passes.sum) ≤
      passes.length) : ∃ r,
      compareLoop (readings time timers.channel passes) deltaTot (counter time) timers = some r := by
  induction passes generalizing time deltaTot timers calls with
  | nil =>
    by_cases off : ∃ head rest, RunOff deltaTot timers head rest
    · obtain ⟨head, rest, off⟩ := off
      obtain ⟨-, fire⟩ := fire_round (counter time) h off.1 off.2 rfl rfl
      obtain ⟨d, due, reached, -⟩ := clockStep_fire fire
      have some := runOffs_pos (inside head d due) due (reached.trans (Nat.le_add_right time 0))
      exact absurd enough (not_le.mpr some)
    · obtain ⟨r, ended, -⟩ := compareLoop_ends (readings time timers.channel []) off
      exact ⟨_, ended⟩
  | cons n passes ih =>
    by_cases off : ∃ head rest, RunOff deltaTot timers head rest
    · obtain ⟨head, rest, off⟩ := off
      have short := fits.resolve_left (by simp [off.1])
      rw [List.sum_cons] at short enough
      obtain ⟨inv, later, c, fire, pass⟩ := round_spec h off (n := n) (by omega)
      have lists : Lists priority timers := ⟨h.lists.nodup, h.lists.priority, h.lists.short⟩
      obtain ⟨d, due, reached, fired⟩ := clockStep_fire fire
      have later' : time ≤ time + (n + passes.sum) := Nat.le_add_right _ _
      have fewer := runOffs_fire fire nodup (inside head d due) later'
      have passed : (view ⟨settle (time + n) (totalAfter time n deltaTot head timers)
          (afterCallback time n head timers), time + n, head :: calls⟩) =
          { c with now := c.now + n } := (Option.some.inj pass).symm
      have total : time + (n + passes.sum) = time + n + passes.sum := (Nat.add_assoc _ _ _).symm
      have inside' (u : τ) (d' : ℕ) (due' : (view ⟨settle (time + n)
          (totalAfter time n deltaTot head timers) (afterCallback time n head timers), time + n,
          head :: calls⟩).due u = some d') : u ∈ l := by
        rw [passed, fired] at due'
        by_cases own : u = head
        · exact own ▸ inside head d due
        · exact inside u d' ((Function.update_of_ne own _ _).symm.trans due')
      have enough' : runOffs (view ⟨settle (time + n) (totalAfter time n deltaTot head timers)
          (afterCallback time n head timers), time + n, head :: calls⟩) l
          (time + n + passes.sum) ≤ passes.length := by
        rw [passed]
        rw [total] at fewer enough
        change runOffs c l _ ≤ _
        rw [List.length_cons] at enough
        omega
      obtain ⟨r, rest'⟩ := ih inv (Or.inr (by omega)) inside' enough'
      exact ⟨_, (compareLoop_cons lists off n passes).trans (congrArg (Option.map _) rest')⟩
    · obtain ⟨r, ended, -⟩ := compareLoop_ends (readings time timers.channel (n :: passes)) off
      exact ⟨_, ended⟩

variable {m : Move τ}

instance (s : Sys τ) (m : Move τ) : Decidable (Allowed s m) :=
  match m with
  | .pass _ => inferInstanceAs (Decidable (_ = _ ∨ _ < _))
  | .start _ _ _ | .restart _ _ _ | .stop _ =>
    inferInstanceAs (Decidable (∀ head ∈ s.timers.list.head?, _ ≤ _))
  | .interrupt _ _ => inferInstanceAs
    (Decidable ((_ → ∀ head ∈ s.timers.list.head?, _ ≤ _) ∧ (_ = _ ∨ _ < _)))

def clockMoves (s : Sys τ) : Move τ → List (ClockMove τ)
  | .pass n => [.pass n]
  | .start periodic t timeout =>
    if t ∈ s.timers.list then []
    else [.start t timeout.toNat (if periodic then timeout else 0).toNat]
  | .restart periodic t timeout =>
    [.stop t, .start t timeout.toNat (if periodic then timeout else 0).toNat]
  | .stop t => [.stop t]
  | .interrupt of passes =>
    match rtccIrqHandler of (fun c => readings s.now c passes) (counter s.now) s.timers with
    | none => []
    | some r => servings r.2 passes

def overflowed (of : Bool) (s : Sys τ) : Timers τ :=
  let cleared := { s.timers with channel.flag := false }
  if of then overflowIrq (counter s.now) cleared else cleared

theorem overflowed_spec (h : Inv priority s) {of : Bool}
    (prompt : of = true → Prompt (counter s.now) s.timers) :
    Inv priority { s with timers := overflowed of s } ∧
      view { s with timers := overflowed of s } = view s ∧
      elapsed { s with timers := overflowed of s } ≤ elapsed s ∧
      (s.timers.channel.flag = false → Armed s →
        Armed { s with timers := overflowed of s }) := by
  have cleared : Inv priority { s with timers.channel.flag := false } :=
    ⟨h.lists.channel _, h.past⟩
  have same (off : s.timers.channel.flag = false) : { s with timers.channel.flag := false } = s := by
    obtain ⟨⟨timer, list, last, ccv, ccDisabled, enabled, flag⟩, now, calls⟩ := s
    obtain rfl : flag = false := off
    rfl
  unfold overflowed
  cases of with
  | false =>
    refine ⟨cleared, rfl, le_rfl, fun off armed => ?_⟩
    change Armed { s with timers.channel.flag := false }
    rw [same off]
    exact armed
  | true =>
    obtain ⟨inv, kept, viewed, none⟩ := cleared.overflow (prompt rfl) rfl
    refine ⟨inv, viewed, ?_, fun off armed => kept ?_⟩
    · exact le_of_eq_of_le none (Nat.zero_le _)
    · rw [same off]
      exact armed

theorem overflowed_fits (h : Inv priority s) {of : Bool} {passes : List ℕ}
    (allowed : Allowed s (.interrupt of passes)) : (overflowed of s).list = [] ∨
      elapsed { s with timers := overflowed of s } + passes.sum < 2 ^ 32 := by
  obtain ⟨-, viewed, less, -⟩ := overflowed_spec h allowed.1
  rcases allowed.2 with none | short
  · left
    apply List.eq_nil_iff_forall_not_mem.mpr
    intro t here
    have idle : (view s).due t = .none := view_due_none.mpr (by simp [none])
    rw [← viewed] at idle
    exact view_due_none.mp idle here
  · right
    omega

theorem interrupt_spec (h : Inv priority s) {of : Bool} {passes : List ℕ}
    (allowed : Allowed s (.interrupt of passes))
    (next : step priority s (.interrupt of passes) = some s') :
    Inv priority s' ∧ (Armed s → Armed s') ∧ (s.timers.channel.flag = true → Served s') ∧
      follow clockStep (fun _ m => Serving m) (view s) (clockMoves s (.interrupt of passes)) =
        some (view s') := by
  obtain ⟨inv, viewed, -, armed⟩ := overflowed_spec h allowed.1
  obtain ⟨r, made, same⟩ := Option.map_eq_some_iff.mp next
  have moves : clockMoves s (.interrupt of passes) = servings r.2 passes := by
    simp only [clockMoves, made]
  rw [moves]
  by_cases comp : s.timers.channel.flag = true
  · have looped : compareLoop (readings s.now (overflowed of s).channel passes)
        (counter s.now - (overflowed of s).lastDeltaUpdateCount) (counter s.now)
        (overflowed of s) = some r := by
      rw [← made]
      unfold rtccIrqHandler processTimerIrq
      rw [comp]
      rfl
    have settled := settle_self (overflowed of s) s.now
    have before : (⟨overflowed of s, s.now, s.calls⟩ : Sys τ) = ⟨settle s.now (counter s.now -
        (overflowed of s).lastDeltaUpdateCount) (overflowed of s), s.now, s.calls⟩ := by
      rw [settled]
    rw [before] at inv
    obtain ⟨inv', armed', served, run⟩ := compareLoop_spec inv (overflowed_fits h allowed) looped
    rw [← before, viewed] at run
    rw [same] at inv' armed' served run
    exact ⟨inv', fun _ => armed', fun _ => served, run⟩
  · have off := Bool.eq_false_of_not_eq_true comp
    have alone : r = (overflowed of s, []) := by
      apply Option.some.inj
      rw [← made]
      unfold rtccIrqHandler processTimerIrq
      rw [off]
      rfl
    subst alone
    have last : s' = { s with timers := overflowed of s } := by
      rw [← same, List.length_nil, List.take_zero]
      rfl
    subst last
    exact ⟨inv, armed off, fun on => absurd on comp, congrArg some viewed.symm⟩

theorem step_spec (h : Inv priority s) (allowed : Allowed s m)
    (next : step priority s m = some s') : Inv priority s' ∧ (Armed s → Armed s') ∧
      follow clockStep (fun _ _ => True) (view s) (clockMoves s m) = some (view s') := by
  have one {c c' : Clock τ} {m : ClockMove τ} (moved : clockStep c m = some c') :
      follow clockStep (fun _ _ => True) c [m] = some c' := follow_cons [] trivial moved
  cases m with
  | pass n =>
    obtain rfl := Option.some.inj next
    obtain ⟨inv, due, pass⟩ := h.pass allowed rfl
    exact ⟨inv, fun armed => armed.pass n due rfl, one pass⟩
  | start periodic t timeout =>
    by_cases here : t ∈ s.timers.list
    · simp only [step, slSleeptimerStart, if_pos here] at next
      obtain rfl := Option.some.inj next
      have moves : clockMoves s (.start periodic t timeout) = [] := if_pos here
      rw [moves]
      exact ⟨h, id, rfl⟩
    · simp only [step, slSleeptimerStart, if_neg here] at next
      obtain rfl := Option.some.inj next
      obtain ⟨inv, armed, start⟩ := h.create allowed here periodic timeout rfl
      have moves : clockMoves s (.start periodic t timeout) =
        [.start t timeout.toNat (if periodic then timeout else 0).toNat] := if_neg here
      rw [moves]
      exact ⟨inv, armed, one start⟩
  | restart periodic t timeout =>
    obtain rfl := Option.some.inj next
    obtain ⟨stopped, armed, out, prompt, stop⟩ := h.stop (t := t) allowed rfl
    obtain ⟨inv, armed', start⟩ := stopped.create prompt out periodic timeout rfl
    exact ⟨inv, armed' ∘ armed, (follow_cons _ trivial stop).trans (one start)⟩
  | stop t =>
    obtain rfl := Option.some.inj next
    obtain ⟨inv, armed, -, -, stop⟩ := h.stop (t := t) allowed rfl
    exact ⟨inv, armed, one stop⟩
  | interrupt of passes =>
    obtain ⟨inv, armed, -, run⟩ := interrupt_spec h allowed next
    exact ⟨inv, armed, follow_mono (fun _ _ _ => trivial) _ run⟩

omit [DecidableEq τ] in
theorem inv_start (priority : UInt8) : Inv priority (start : Sys τ) where
  lists := ⟨List.nodup_nil, nofun, Nat.two_pow_pos 32⟩
  past := fun some => absurd rfl some

theorem run_inv (run : Run priority s) : Inv priority s ∧ Armed s := by
  apply run.preserves
  · rintro s m s' next allowed ⟨h, armed⟩
    obtain ⟨inv, kept, -⟩ := step_spec h allowed next
    exact ⟨inv, kept armed⟩
  · exact ⟨inv_start priority, rfl⟩

/-- The list of deltas keeps the time of each timer: along a run, the calls and the interrupts of the
sleeptimer are those of the clock, where a timer fires when it is due and not before. -/
theorem sleeptimer_refines (moves : List (Move τ))
    (run : follow (step priority) Allowed start moves = some s) :
    follow clockStep (fun _ _ => True) clockStart
      (observe (step priority) clockMoves start moves) = some (view s) := by
  have simulates (s : Sys τ) (m : Move τ) (s' : Sys τ) (next : step priority s m = some s')
      (allowed : Allowed s m) (h : Inv priority s) : Inv priority s' ∧
        follow clockStep (fun _ _ => True) (view s) (clockMoves s m) = some (view s') := by
    obtain ⟨inv, -, moved⟩ := step_spec h allowed next
    exact ⟨inv, moved⟩
  exact (follow_observe simulates moves (inv_start priority) run).2

/-- While a timer runs, the interrupt is on, and it comes at most 3 ticks after the first is due. -/
theorem compare_first (run : Run priority s) :
    (s.timers.list = [] ∧ s.timers.channel.enabled = false) ∨
      ∃ t d, (view s).due t = some d ∧ (∀ u d', (view s).due u = some d' → d ≤ d') ∧
        Watch s.now d s.timers.channel ∧ (d + 3 ≤ s.now → s.timers.channel.flag = true) := by
  obtain ⟨-, armed⟩ := run_inv run
  unfold Armed firstDue at armed
  cases list : s.timers.list with
  | nil =>
    rw [timesOf_nil.mpr list] at armed
    exact Or.inl ⟨rfl, armed⟩
  | cons head rest =>
    have times := timesOf_cons list
    rw [times] at armed
    have own : (view s).due head =
        some (s.now - elapsed s + (s.timers.timer head).delta.toNat) := by
      unfold view
      rw [times]
      exact if_pos rfl
    refine Or.inr ⟨head, _, own, fun u d' later => ?_, armed, armed.due⟩
    simp only [view, times] at later
    exact DeltaList.first_due later

/-- The pending interrupt of the comparator ends when it has called as many callbacks as timers run
off meanwhile; it calls back each timer that is due, and leaves none. -/
theorem compare_serves (run : Run priority s) (pending : s.timers.channel.flag = true) {of : Bool}
    {passes : List ℕ} (allowed : Allowed s (.interrupt of passes))
    (enough : runOffs (view s) s.timers.list (s.now + passes.sum) ≤ passes.length) :
    ∃ s', step priority s (.interrupt of passes) = some s' ∧ ∃ new, s'.calls = new ++ s.calls ∧
      (∀ t d, (view s).due t = some d → d ≤ s.now → t ∈ new) ∧
      ∀ t d, (view s').due t = some d → s'.now < d := by
  have h := (run_inv run).1
  obtain ⟨inv, viewed, -, -⟩ := overflowed_spec h allowed.1
  have settled := settle_self (overflowed of s) s.now
  have before : (⟨overflowed of s, s.now, s.calls⟩ : Sys τ) = ⟨settle s.now (counter s.now -
      (overflowed of s).lastDeltaUpdateCount) (overflowed of s), s.now, s.calls⟩ := by
    rw [settled]
  rw [before] at inv viewed
  have inside (t : τ) (d : ℕ) (due : (view s).due t = some d) : t ∈ s.timers.list := by
    by_contra out
    rw [view_due_none.mpr out] at due
    cases due
  rw [← viewed] at inside enough
  obtain ⟨r, looped⟩ := compareLoop_total inv (overflowed_fits h allowed) h.lists.nodup inside enough
  have made : step priority s (.interrupt of passes) =
      some ⟨r.1, s.now + (passes.take r.2.length).sum, r.2.reverse ++ s.calls⟩ := by
    unfold step rtccIrqHandler processTimerIrq
    rw [pending]
    exact congrArg (Option.map _) looped
  obtain ⟨-, -, served, serving⟩ := interrupt_spec h allowed made
  obtain ⟨later, new, calls, kept⟩ := serving_kept (run_of_follow _ serving)
  refine ⟨_, made, new, calls, fun t d due reached => ?_, served pending⟩
  by_contra out
  have still := served pending t d ((kept t out).trans due)
  have moved : s.now ≤ s.now + (passes.take r.2.length).sum := later
  change s.now + (passes.take r.2.length).sum < d at still
  omega

omit [DecidableEq τ] in
theorem sum_toNat {l : List UInt32} (short : (l.map UInt32.toNat).sum < 2 ^ 32) :
    l.sum.toNat = (l.map UInt32.toNat).sum := by
  induction l with
  | nil => rfl
  | cons x l ih =>
    rw [List.map_cons, List.sum_cons] at short
    rw [List.sum_cons, List.map_cons, List.sum_cons, UInt32.toNat_add, ih (by omega)]
    exact Nat.mod_eq_of_lt short

theorem due_deltas (timer : τ → Timer) {l : List τ} (here : t ∈ l) (base : ℕ) :
    DeltaList.due t base (deltas timer l) = some (base + (timer t).delta.toNat +
      ((l.takeWhile (· ≠ t)).map (fun u => (timer u).delta.toNat)).sum) := by
  induction l generalizing base with
  | nil => cases here
  | cons u l ih =>
    by_cases own : u = t
    · subst own
      have whole : DeltaList.due u base (deltas timer (u :: l)) =
          some (base + (timer u).delta.toNat) := if_pos rfl
      simp [whole]
    · have whole : DeltaList.due t base (deltas timer (u :: l)) =
          DeltaList.due t (base + (timer u).delta.toNat) (deltas timer l) := if_neg own
      rw [whole, ih (List.mem_of_ne_of_mem (Ne.symm own) here)]
      have taken : (u :: l).takeWhile (· ≠ t) = u :: l.takeWhile (· ≠ t) := by simp [own]
      rw [taken, List.map_cons, List.sum_cons]
      congr 1
      omega

/-- The time that is left of a running timer; the other two readings come `n` ticks later. -/
theorem timeRemaining_exact (run : Run priority s) (prompt : Prompt (counter s.now) s.timers)
    {n : ℕ} (soon : n < 2 ^ 32) :
    (slSleeptimerGetTimerTimeRemaining t (counter s.now) (counter (s.now + n))
      (counter (s.now + n)) s.timers).1.map UInt32.toNat =
      ((view s).due t).map (fun d => d - (s.now + n)) := by
  have h := (run_inv run).1
  obtain ⟨times, list, last, -, -⟩ := updateFirstTimerDelta_spec prompt h.lists.nodup
  have updated := h.lists.update prompt
  have due := due_advanced h prompt t
  change timesOf _ = DeltaList.advance (elapsed s) (timesOf s.timers) at times
  rw [← times] at due
  unfold slSleeptimerGetTimerTimeRemaining
  generalize updateFirstTimerDelta (counter s.now) s.timers = r at times list last updated due
  have ticks : counter (s.now + n) - r.lastDeltaUpdateCount = counter n := by
    rw [last, counter_add]
    grind
  have small : (counter n).toNat = n := UInt32.toNat_ofNat_of_lt' soon
  rw [← due]
  by_cases here : t ∈ r.list
  · have whole := due_deltas r.timer here s.now
    have inside := DeltaList.due_le whole
    have short := updated.short
    have sum := sum_toNat (l := (r.list.takeWhile (· ≠ t)).map (fun u => (r.timer u).delta))
    rw [List.map_map] at sum
    change _ ≤ s.now + DeltaList.total (timesOf r) at inside
    have before : ((r.list.takeWhile (· ≠ t)).map (fun u => (r.timer u).delta)).sum.toNat =
        ((r.list.takeWhile (· ≠ t)).map (fun u => (r.timer u).delta.toNat)).sum := by
      apply sum
      change ((r.list.takeWhile (· ≠ t)).map (fun u => (r.timer u).delta.toNat)).sum < 2 ^ 32
      omega
    have time : ((r.timer t).delta +
        ((r.list.takeWhile (· ≠ t)).map (fun u => (r.timer u).delta)).sum).toNat =
        (r.timer t).delta.toNat +
          ((r.list.takeWhile (· ≠ t)).map (fun u => (r.timer u).delta.toNat)).sum := by
      rw [UInt32.toNat_add, before]
      exact Nat.mod_eq_of_lt (by omega)
    change _ = Option.map _ (DeltaList.due t s.now (deltas r.timer r.list))
    rw [whole]
    simp only [ticks, if_pos here, Option.map_some]
    congr 1
    split_ifs with more
    · rw [gt_iff_lt, UInt32.lt_iff_toNat_lt] at more
      rw [UInt32.toNat_sub_of_le _ _ (UInt32.le_iff_toNat_le.mpr more.le), time, small]
      omega
    · rw [gt_iff_lt, UInt32.lt_iff_toNat_lt, time, small] at more
      change 0 = _
      omega
  · have none : DeltaList.due t s.now (timesOf r) = Option.none := by
      rw [DeltaList.due_none]
      simpa [timesOf] using here
    simp only [if_neg here, none, Option.map_none]

/-- While the first timer is overdue, a call that updates the list moves every timer: to a later
time, or to an earlier one if the first timer was far off at the last update. -/
theorem late_call_shifts (run : Run priority s) {head : τ} (first : s.timers.list.head? = some head)
    (late : (s.timers.timer head).delta.toNat < elapsed s) {d : ℕ} (due : (view s).due t = some d) :
    ∃ d', (view { s with timers := updateFirstTimerDelta (counter s.now) s.timers }).due t =
        some d' ∧ d' + 2 * (s.timers.timer head).delta.toNat = d + elapsed s := by
  obtain ⟨rest, list⟩ := List.head?_eq_some_iff.mp first
  exact update_late (run_inv run).1 list late due

end

def twoTimers {τ : Type} (once periodic : τ) : List (Move τ) :=
  [.start false once 5, .start true periodic 3, .pass 2]

theorem reach (moves : List (Move (Fin 2))) (P : Sys (Fin 2) → Prop) [DecidablePred P]
    (seen : (follow (step 0) Allowed start moves).map (fun s => decide (P s)) = some true) :
    ∃ s, follow (step 0) Allowed start moves = some s ∧ Run 0 s ∧ P s := by
  obtain ⟨s, run, holds⟩ := Option.map_eq_some_iff.mp seen
  exact ⟨s, run, run_of_follow _ run, of_decide_eq_true holds⟩

def twoRunOffs {τ : Type} (a b : τ) : List (Move τ) :=
  twoTimers a b ++ [.pass 2, .interrupt false [1, 1, 0]]

theorem twoTimers_refines : ∃ s : Sys (Fin 2), s.calls = [1, 0, 1] ∧
    follow clockStep (fun _ _ => True) clockStart (observe (step 0) clockMoves start (twoRunOffs 0 1)) =
      some (view s) := by
  obtain ⟨s, run, -, calls⟩ := reach (twoRunOffs 0 1) (fun s => s.calls = [1, 0, 1]) (by decide +kernel)
  exact ⟨s, calls, sleeptimer_refines (twoRunOffs 0 1) run⟩

theorem twoTimers_first : ∃ s : Sys (Fin 2), s.timers.list = [1, 0] ∧
    ((s.timers.list = [] ∧ s.timers.channel.enabled = false) ∨
      ∃ t d, (view s).due t = some d ∧ (∀ u d', (view s).due u = some d' → d ≤ d') ∧
        Watch s.now d s.timers.channel ∧ (d + 3 ≤ s.now → s.timers.channel.flag = true)) := by
  obtain ⟨s, -, run, list⟩ :=
    reach (twoTimers 0 1) (fun s => s.timers.list = [1, 0]) (by decide +kernel)
  exact ⟨s, list, compare_first run⟩

theorem twoTimers_serves : ∃ s s' : Sys (Fin 2), s.calls = [] ∧
    step 0 s (.interrupt false [1, 1, 0]) = some s' ∧ ∃ new, s'.calls = new ++ s.calls ∧
      (∀ t d, (view s).due t = some d → d ≤ s.now → t ∈ new) ∧
      ∀ t d, (view s').due t = some d → s'.now < d := by
  obtain ⟨s, -, run, calls, pending, allowed, enough⟩ := reach (twoTimers 0 1 ++ [.pass 2])
    (fun s => s.calls = [] ∧ s.timers.channel.flag = true ∧
      Allowed s (.interrupt false [1, 1, 0]) ∧
      runOffs (view s) s.timers.list (s.now + [1, 1, 0].sum) ≤ [1, 1, 0].length)
    (by decide +kernel)
  obtain ⟨s', next, served⟩ := compare_serves run pending allowed enough
  exact ⟨s, s', calls, next, served⟩

theorem twoTimers_remaining : ∃ s : Sys (Fin 2), (view s).due 0 = some 5 ∧ s.now = 2 ∧
    (slSleeptimerGetTimerTimeRemaining 0 (counter s.now) (counter (s.now + 1)) (counter (s.now + 1))
      s.timers).1.map UInt32.toNat = ((view s).due 0).map (fun d => d - (s.now + 1)) := by
  obtain ⟨s, -, run, due, now, prompt⟩ := reach (twoTimers 0 1)
    (fun s => (view s).due 0 = some 5 ∧ s.now = 2 ∧ Allowed s (.stop 0)) (by decide +kernel)
  exact ⟨s, due, now, timeRemaining_exact run prompt (by decide)⟩

theorem twoTimers_late : ∃ s : Sys (Fin 2), s.now = 4 ∧
    ∃ d', (view { s with timers := updateFirstTimerDelta (counter s.now) s.timers }).due 0 =
      some d' ∧ d' + 2 * (s.timers.timer 1).delta.toNat = 5 + elapsed s := by
  obtain ⟨s, -, run, now, first, late, due⟩ := reach (twoTimers 0 1 ++ [.pass 2])
    (fun s => s.now = 4 ∧ s.timers.list.head? = some 1 ∧
      (s.timers.timer 1).delta.toNat < elapsed s ∧ (view s).due 0 = some 5) (by decide +kernel)
  exact ⟨s, now, late_call_shifts run first late due⟩

end GreenPower.SleeptimerRuns
