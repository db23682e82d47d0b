import GreenPower.DeltaList
import GreenPower.Sleeptimer

set_option autoImplicit false

/-!
What the functions of the sleeptimer do to the list of its timers, as a list of times.
-/
namespace GreenPower.SleeptimerLists
open Sleeptimer

section
variable {τ : Type}

def deltas (timer : τ → Timer) (l : List τ) : List (τ × ℕ) :=
  l.map (fun t => (t, (timer t).delta.toNat))

def timesOf (s : Timers τ) : List (τ × ℕ) := deltas s.timer s.list

variable {timer timer' : τ → Timer} {l l' : List τ} {s : Timers τ} {t handle : τ}

theorem timesOf_cons (list : s.list = t :: l) :
    timesOf s = (t, (s.timer t).delta.toNat) :: deltas s.timer l := by
  unfold timesOf
  rw [list]
  rfl

@[simp] theorem keys_deltas : DeltaList.keys (deltas timer l) = l := by
  unfold DeltaList.keys deltas
  rw [List.map_map]
  exact List.map_id l

theorem deltas_append : deltas timer (l ++ l') = deltas timer l ++ deltas timer l' :=
  List.map_append

theorem deltas_congr (same : ∀ t ∈ l, (timer' t).delta = (timer t).delta) :
    deltas timer' l = deltas timer l := by
  apply List.map_congr_left
  intro t here
  rw [same t here]

variable (timer l handle) in
/-- Where `delta_list_insert_timer` puts a timer. -/
theorem findPlace_spec (priority : UInt8) (delta : UInt32) :
    (findPlace timer priority delta l).1 ++ (findPlace timer priority delta l).2.2 = l ∧
      DeltaList.insert handle delta.toNat (deltas timer l) =
        deltas timer (findPlace timer priority delta l).1 ++
          (handle, (findPlace timer priority delta l).2.1.toNat) ::
            DeltaList.advance (findPlace timer priority delta l).2.1.toNat
              (deltas timer (findPlace timer priority delta l).2.2) ∧
      ∀ next ∈ (findPlace timer priority delta l).2.2.head?,
        (findPlace timer priority delta l).2.1 ≤ (timer next).delta := by
  induction l generalizing delta with
  | nil => exact ⟨rfl, rfl, by simp [findPlace]⟩
  | cons current rest ih =>
    have goes : (delta ≥ (timer current).delta ∨ (timer current).delta = 0 ∨
        (delta - (timer current).delta = 0 ∧ priority > (timer current).priority)) ↔
        (timer current).delta.toNat ≤ delta.toNat := by
      rw [ge_iff_le, UInt32.le_iff_toNat_le]
      constructor
      · rintro (before | zero | ⟨same, -⟩)
        · exact before
        · simp [zero]
        · have equal : delta = (timer current).delta := by
            rw [← UInt32.sub_add_cancel delta (timer current).delta, same, UInt32.zero_add]
          rw [equal]
      · exact Or.inl
    unfold findPlace
    by_cases before : (timer current).delta.toNat ≤ delta.toNat
    · rw [if_pos (goes.mpr before)]
      obtain ⟨parts, inserted, next⟩ := ih (delta - (timer current).delta)
      have less : (delta - (timer current).delta).toNat =
          delta.toNat - (timer current).delta.toNat :=
        UInt32.toNat_sub_of_le _ _ (UInt32.le_iff_toNat_le.mpr before)
      refine ⟨congrArg (current :: ·) parts, ?_, next⟩
      have made : DeltaList.insert handle delta.toNat (deltas timer (current :: rest)) =
          (current, (timer current).delta.toNat) ::
            DeltaList.insert handle (delta.toNat - (timer current).delta.toNat)
              (deltas timer rest) := if_pos before
      rw [made, ← less, inserted]
      rfl
    · rw [if_neg (fun h => before (goes.mp h))]
      refine ⟨rfl, if_neg before, ?_⟩
      simp only [List.head?_cons, Option.mem_some_iff, forall_eq', UInt32.le_iff_toNat_le]
      omega

variable [DecidableEq τ]

def SameTimers (s s' : Timers τ) : Prop :=
  ∀ t, (s'.timer t).priority = (s.timer t).priority ∧
    (s'.timer t).timeoutPeriodic = (s.timer t).timeoutPeriodic

omit [DecidableEq τ] in
theorem SameTimers.refl (s : Timers τ) : SameTimers s s := fun _ => ⟨rfl, rfl⟩

omit [DecidableEq τ] in
theorem SameTimers.trans {s' s'' : Timers τ} (h : SameTimers s s') (h' : SameTimers s' s'') :
    SameTimers s s'' :=
  fun t => ⟨(h' t).1.trans (h t).1, (h' t).2.trans (h t).2⟩

theorem sameTimers_setDelta (delta : UInt32) : SameTimers s (setDelta handle delta s) := by
  intro t
  by_cases same : t = handle
  · subst same
    simp [setDelta]
  · simp [setDelta, same]

theorem setDelta_self (delta : UInt32) : ((setDelta handle delta s).timer handle).delta = delta := by
  simp [setDelta]

theorem setDelta_other (other : t ≠ handle) (delta : UInt32) :
    ((setDelta handle delta s).timer t).delta = (s.timer t).delta := by
  simp [setDelta, other]

theorem deltas_setDelta_other (out : handle ∉ l) (delta : UInt32) :
    deltas (setDelta handle delta s).timer l = deltas s.timer l := by
  apply deltas_congr
  intro t here
  have other : t ≠ handle := by
    rintro rfl
    exact out here
  exact setDelta_other other delta

theorem deltas_setDelta_cons (out : handle ∉ l) (delta : UInt32) :
    deltas (setDelta handle delta s).timer (handle :: l) =
      (handle, delta.toNat) :: deltas s.timer l := by
  have whole : deltas (setDelta handle delta s).timer (handle :: l) =
      (handle, ((setDelta handle delta s).timer handle).delta.toNat) ::
        deltas (setDelta handle delta s).timer l := rfl
  rw [whole, setDelta_self, deltas_setDelta_other out]

theorem timesOf_setDelta (list : s.list = handle :: l) (nodup : s.list.Nodup) (delta : UInt32) :
    timesOf (setDelta handle delta s) = (handle, delta.toNat) :: deltas s.timer l := by
  rw [list] at nodup
  unfold timesOf
  change deltas _ s.list = _
  rw [list]
  exact deltas_setDelta_cons (List.nodup_cons.mp nodup).1 delta

def nearer (n : UInt32) (l : List τ) (s : Timers τ) : Timers τ :=
  match l with
  | [] => s
  | next :: _ => setDelta next ((s.timer next).delta - n) s

theorem nearer_same (n : UInt32) : SameTimers s (nearer n l s) ∧ (nearer n l s).list = s.list ∧
    (nearer n l s).lastDeltaUpdateCount = s.lastDeltaUpdateCount ∧
    (nearer n l s).channel = s.channel := by
  cases l with
  | nil => exact ⟨SameTimers.refl s, rfl, rfl, rfl⟩
  | cons next rest => exact ⟨sameTimers_setDelta _, rfl, rfl, rfl⟩

theorem deltas_nearer (nodup : l.Nodup) {n : UInt32}
    (first : ∀ next ∈ l.head?, n ≤ (s.timer next).delta) :
    deltas (nearer n l s).timer l = DeltaList.advance n.toNat (deltas s.timer l) := by
  cases l with
  | nil => rfl
  | cons next rest =>
    have less : ((s.timer next).delta - n).toNat = (s.timer next).delta.toNat - n.toNat :=
      UInt32.toNat_sub_of_le _ _ (first next rfl)
    unfold nearer
    rw [deltas_setDelta_cons (List.nodup_cons.mp nodup).1, less]
    rfl

theorem deltas_nearer_other {n : UInt32} (apart : ∀ t ∈ l', t ∉ l) :
    deltas (nearer n l s).timer l' = deltas s.timer l' := by
  cases l with
  | nil => rfl
  | cons next rest =>
    exact deltas_setDelta_other (fun here => apart next here List.mem_cons_self) _

def Prompt (cnt : UInt32) (s : Timers τ) : Prop :=
  ∀ head ∈ s.list.head?, cnt - s.lastDeltaUpdateCount ≤ (s.timer head).delta

theorem updateFirstTimerDelta_eq {cnt : UInt32} (prompt : Prompt cnt s) :
    updateFirstTimerDelta cnt s =
      nearer (cnt - s.lastDeltaUpdateCount) s.list { s with lastDeltaUpdateCount := cnt } := by
  unfold updateFirstTimerDelta nearer
  unfold Prompt at prompt
  cases list : s.list with
  | nil => rfl
  | cons head rest =>
    rw [list] at prompt
    exact if_pos (prompt head rfl)

theorem updateFirstTimerDelta_spec {cnt : UInt32} (prompt : Prompt cnt s) (nodup : s.list.Nodup) :
    timesOf (updateFirstTimerDelta cnt s) =
        DeltaList.advance (cnt - s.lastDeltaUpdateCount).toNat (timesOf s) ∧
      (updateFirstTimerDelta cnt s).list = s.list ∧
      (updateFirstTimerDelta cnt s).lastDeltaUpdateCount = cnt ∧
      (updateFirstTimerDelta cnt s).channel = s.channel ∧
      SameTimers s (updateFirstTimerDelta cnt s) := by
  rw [updateFirstTimerDelta_eq prompt]
  obtain ⟨same, list, last, channel⟩ := nearer_same (s := { s with lastDeltaUpdateCount := cnt })
    (l := s.list) (cnt - s.lastDeltaUpdateCount)
  refine ⟨?_, list, last, channel, same⟩
  unfold timesOf
  rw [list]
  exact deltas_nearer nodup prompt

theorem deltaListInsertTimer_spec (nodup : s.list.Nodup) (new : handle ∉ s.list)
    (timeout : UInt32) :
    timesOf (deltaListInsertTimer handle timeout s) =
        DeltaList.insert handle timeout.toNat (timesOf s) ∧
      (deltaListInsertTimer handle timeout s).lastDeltaUpdateCount = s.lastDeltaUpdateCount ∧
      (deltaListInsertTimer handle timeout s).channel = s.channel ∧
      SameTimers s (deltaListInsertTimer handle timeout s) := by
  obtain ⟨parts, inserted, first⟩ :=
    findPlace_spec s.timer s.list handle (s.timer handle).priority timeout
  generalize place : findPlace s.timer (s.timer handle).priority timeout s.list = r
    at parts inserted first
  obtain ⟨before, delta, after⟩ := r
  simp only at parts inserted first
  rw [← parts] at nodup new
  obtain ⟨-, nodupAfter, apart⟩ := List.nodup_append.mp nodup
  rw [List.mem_append, not_or] at new
  have made : deltaListInsertTimer handle timeout s =
      nearer delta after (setDelta handle delta { s with list := before ++ handle :: after }) := by
    unfold deltaListInsertTimer nearer
    simp only [place]
    cases after with
    | nil => rfl
    | cons next rest =>
      have other : next ≠ handle := by
        rintro rfl
        exact new.2 List.mem_cons_self
      simp only [setDelta_other other]
  have near : ∀ next ∈ after.head?, delta ≤ ((setDelta handle delta
      { s with list := before ++ handle :: after }).timer next).delta := by
    intro next here
    have other : next ≠ handle := by
      rintro rfl
      exact new.2 (List.mem_of_mem_head? here)
    rw [setDelta_other other]
    exact first next here
  obtain ⟨same, list, last, channel⟩ := nearer_same (l := after)
    (s := setDelta handle delta { s with list := before ++ handle :: after }) delta
  rw [made]
  refine ⟨?_, last, channel, SameTimers.trans (sameTimers_setDelta delta) same⟩
  unfold timesOf
  rw [list, inserted]
  change deltas _ (before ++ handle :: after) = _
  rw [deltas_append]
  congr 1
  · rw [deltas_nearer_other (fun t here there => apart t here t there rfl)]
    exact deltas_setDelta_other new.1 delta
  · have tail := deltas_nearer nodupAfter near
    rw [deltas_setDelta_other new.2] at tail
    have own : deltas (nearer delta after
        (setDelta handle delta { s with list := before ++ handle :: after })).timer [handle] =
        [(handle, delta.toNat)] := by
      rw [deltas_nearer_other (by simpa using new.2), deltas_setDelta_cons (by simp)]
      rfl
    change deltas _ ([handle] ++ after) = _
    rw [deltas_append, own, tail]
    rfl

theorem remove_deltas {before after : List τ} (out : handle ∉ before) :
    DeltaList.remove handle (deltas timer (before ++ handle :: after)) =
      deltas timer before ++ DeltaList.delay (timer handle).delta.toNat (deltas timer after) := by
  induction before with
  | nil => exact if_pos rfl
  | cons t before ih =>
    rw [List.mem_cons, not_or] at out
    have made : DeltaList.remove handle (deltas timer (t :: before ++ handle :: after)) =
        (t, (timer t).delta.toNat) ::
          DeltaList.remove handle (deltas timer (before ++ handle :: after)) :=
      if_neg (Ne.symm out.1)
    rw [made, ih out.2]
    rfl

theorem deltaListRemoveTimer_none (out : handle ∉ s.list) : deltaListRemoveTimer handle s = none := by
  have all : s.list.dropWhile (· ≠ handle) = [] := by
    rw [List.dropWhile_eq_nil_iff]
    intro t here
    have other : t ≠ handle := by
      rintro rfl
      exact out here
    simpa using other
  unfold deltaListRemoveTimer
  rw [all]

theorem deltaListRemoveTimer_spec (nodup : s.list.Nodup) (here : handle ∈ s.list)
    (short : DeltaList.total (timesOf s) < 2 ^ 32) :
    ∃ s', deltaListRemoveTimer handle s = some s' ∧
      timesOf s' = DeltaList.remove handle (timesOf s) ∧
      s'.lastDeltaUpdateCount = s.lastDeltaUpdateCount ∧ s'.channel = s.channel ∧
      SameTimers s s' := by
  obtain ⟨before, after, list⟩ := List.append_of_mem here
  rw [list] at nodup
  obtain ⟨out, rest⟩ := List.nodup_cons.mp (List.nodup_middle.mp nodup)
  rw [List.mem_append, not_or] at out
  obtain ⟨-, nodupAfter, apart⟩ := List.nodup_append.mp rest
  have others : ∀ t ∈ before, decide (t ≠ handle) = true := by
    intro t there
    have other : t ≠ handle := by
      rintro rfl
      exact out.1 there
    simpa using other
  have taken : s.list.takeWhile (· ≠ handle) = before := by
    rw [list, List.takeWhile_append_of_pos others]
    simp
  have dropped : s.list.dropWhile (· ≠ handle) = handle :: after := by
    rw [list, List.dropWhile_append_of_pos others]
    simp
  have goal : timesOf s = deltas s.timer (before ++ handle :: after) := by
    unfold timesOf
    rw [list]
  unfold deltaListRemoveTimer
  rw [dropped, taken, goal, remove_deltas out.1]
  cases after with
  | nil => exact ⟨_, rfl, deltas_append, rfl, rfl, SameTimers.refl s⟩
  | cons next after =>
    have sum : (s.timer next).delta.toNat + (s.timer handle).delta.toNat < 2 ^ 32 := by
      rw [goal, deltas_append] at short
      simp only [DeltaList.total, deltas, List.map_append, List.map_cons, List.sum_append,
        List.sum_cons] at short
      omega
    have added : ((s.timer next).delta + (s.timer handle).delta).toNat =
        (s.timer handle).delta.toNat + (s.timer next).delta.toNat := by
      rw [UInt32.toNat_add, Nat.mod_eq_of_lt sum, Nat.add_comm]
    refine ⟨_, rfl, ?_, rfl, rfl, sameTimers_setDelta _⟩
    change deltas _ (before ++ next :: after) = _
    rw [deltas_append, deltas_setDelta_cons (List.nodup_cons.mp nodupAfter).1, added,
      deltas_setDelta_other (fun there => apart next there next List.mem_cons_self rfl)]
    rfl

end

end GreenPower.SleeptimerLists
