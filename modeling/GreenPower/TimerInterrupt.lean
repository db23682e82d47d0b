import GreenPower.LeTimer

set_option autoImplicit false

/-!
The receive windows against the underflow interrupt of the LE timer. A wait loop ends when its
interrupt comes. It comes, unless it came before the loop's flag was set.
-/
namespace GreenPower.TimerInterrupt
open LeTimer Runs

structure State where
  /-- What is left of the call of `emberAfGpdScheduledReceive` that is being executed. -/
  todo : List Instr
  enabled : Bool
  repeats : ℕ
  comp0 : UInt32
  underflowFlag : Bool
  leTimerRunning : Bool
  deriving DecidableEq

inductive Move where
  | call (startDelayInUs receiveWindowInUs : UInt32) (channel : UInt8) (sleepInDelay : Bool)
  | task
  | underflow
  | letimerIrq
  deriving DecidableEq

def Counting (s : State) : Prop := s.enabled = true ∧ 0 < s.repeats

instance (s : State) : Decidable (Counting s) := by
  unfold Counting
  infer_instance

def execute (s : State) (rest : List Instr) : Instr → State
  | .letimerEnable enable => { s with todo := rest, enabled := enable }
  | .letimerRepeatSet repeats => { s with todo := rest, repeats := repeats }
  | .letimerCompareSet value => { s with todo := rest, comp0 := value }
  | .letimerIntClear => { s with todo := rest, underflowFlag := false }
  | .setLeTimerRunning => { s with todo := rest, leTimerRunning := true }
  | .startRx _ => { s with todo := rest }
  | .whileLeTimerRunning _ => if s.leTimerRunning then s else { s with todo := rest }

def step (s : State) : Move → Option State
  | .call startDelayInUs receiveWindowInUs channel sleepInDelay =>
    if s.todo = [] then
      some { s with
        todo := emberAfGpdScheduledReceive startDelayInUs receiveWindowInUs channel sleepInDelay }
    else none
  | .task =>
    match s.todo with
    | [] => none
    | i :: rest => some (execute s rest i)
  | .underflow =>
    if Counting s then some { s with repeats := s.repeats - 1, underflowFlag := true } else none
  | .letimerIrq =>
    if s.underflowFlag then some { s with underflowFlag := false, leTimerRunning := false } else none

def initial : State where
  todo := []
  enabled := false
  repeats := 0
  comp0 := 0xFFFF
  underflowFlag := false
  leTimerRunning := false

def Waiting (s : State) : Prop := ∃ sleep, s.todo.head? = some (.whileLeTimerRunning sleep)

/-- The timer is still counting, or the handler of its interrupt has not run yet. -/
def InterruptToCome (s : State) : Prop := Counting s ∨ s.underflowFlag = true

/-- The handler does not run between the enabling of the timer and the setting of the flag. -/
def AfterFlag (s : State) (m : Move) : Prop :=
  m = .letimerIrq → s.todo.head? ≠ some .setLeTimerRunning

instance (s : State) (m : Move) : Decidable (AfterFlag s m) := by
  unfold AfterFlag
  infer_instance

inductive Follows : Instr → Option Instr → Prop
  | disabled : Follows (.letimerEnable false) (some (.letimerRepeatSet 1))
  | repeats (n : ℕ) (value : UInt32) :
      Follows (.letimerRepeatSet n) (some (.letimerCompareSet value))
  | compare (value : UInt32) : Follows (.letimerCompareSet value) (some .letimerIntClear)
  | cleared : Follows .letimerIntClear (some (.letimerEnable true))
  | enabled : Follows (.letimerEnable true) (some .setLeTimerRunning)
  | waits (sleep : Bool) : Follows .setLeTimerRunning (some (.whileLeTimerRunning sleep))
  | receives (channel : UInt8) : Follows .setLeTimerRunning (some (.startRx channel))
  | window (channel : UInt8) (sleep : Bool) :
      Follows (.startRx channel) (some (.whileLeTimerRunning sleep))
  | reload (sleep : Bool) : Follows (.whileLeTimerRunning sleep) (some (.letimerEnable false))
  | done (sleep : Bool) : Follows (.whileLeTimerRunning sleep) none

def Ordered : List Instr → Prop
  | [] => True
  | i :: rest => Follows i rest.head? ∧ Ordered rest

theorem ordered_load {rest : List Instr} (timeInUs : UInt32)
    (next : Follows .setLeTimerRunning rest.head?) (h : Ordered rest) :
    Ordered (emberGpdLoadLeTimer timeInUs ++ rest) :=
  ⟨.disabled, .repeats _ _, .compare _, .cleared, .enabled, next, h⟩

theorem ordered_receive (startDelayInUs receiveWindowInUs : UInt32) (channel : UInt8)
    (sleepInDelay : Bool) :
    Ordered (emberAfGpdScheduledReceive startDelayInUs receiveWindowInUs channel sleepInDelay) := by
  have window : Ordered (emberGpdLoadLeTimer receiveWindowInUs ++
      [.startRx channel, .whileLeTimerRunning false]) :=
    ordered_load _ (.receives _) ⟨.window _ _, .done _, trivial⟩
  unfold emberAfGpdScheduledReceive
  split_ifs
  · simp only [List.append_assoc]
    exact ordered_load _ (.waits _) ⟨.reload _, window⟩
  · exact window

def Before (s : State) : Option Instr → Prop
  | none => s.leTimerRunning = false
  | some (.letimerEnable false) => s.leTimerRunning = false
  | some (.letimerRepeatSet n) => s.leTimerRunning = false ∧ s.enabled = false ∧ 0 < n
  | some (.letimerCompareSet _) => s.leTimerRunning = false ∧ s.enabled = false ∧ 0 < s.repeats
  | some .letimerIntClear => s.leTimerRunning = false ∧ s.enabled = false ∧ 0 < s.repeats
  | some (.letimerEnable true) => s.leTimerRunning = false ∧ s.enabled = false ∧ 0 < s.repeats
  | some .setLeTimerRunning => s.leTimerRunning = false ∧ InterruptToCome s
  | some (.startRx _) => s.leTimerRunning = true → InterruptToCome s
  | some (.whileLeTimerRunning _) => s.leTimerRunning = true → InterruptToCome s

structure Inv (s : State) : Prop where
  ordered : Ordered s.todo
  before : Before s s.todo.head?

theorem execute_exit {s : State} {rest : List Instr} {sleep : Bool}
    (stopped : s.leTimerRunning = false) :
    execute s rest (.whileLeTimerRunning sleep) = { s with todo := rest } :=
  if_neg (by simp [stopped])

theorem before_execute {s : State} {i : Instr} {rest : List Instr} (follows : Follows i rest.head?)
    (left : ∀ sleep, i = .whileLeTimerRunning sleep → s.leTimerRunning = false)
    (h : Before s (some i)) : Before (execute s rest i) rest.head? := by
  generalize rest.head? = next at follows ⊢
  cases follows with
  | disabled => exact ⟨h, rfl, Nat.one_pos⟩
  | repeats n value => exact ⟨h.1, h.2.1, h.2.2⟩
  | compare value => exact h
  | cleared => exact h
  | enabled => exact ⟨h.1, Or.inl ⟨rfl, h.2.2⟩⟩
  | waits sleep => exact fun _ => h.2
  | receives channel => exact fun _ => h.2
  | window channel sleep => exact h
  | reload sleep =>
    rw [execute_exit (left sleep rfl)]
    exact left sleep rfl
  | done sleep =>
    rw [execute_exit (left sleep rfl)]
    exact left sleep rfl

theorem execute_todo {s : State} {i : Instr} (rest : List Instr)
    (left : ∀ sleep, i = .whileLeTimerRunning sleep → s.leTimerRunning = false) :
    (execute s rest i).todo = rest := by
  cases i with
  | whileLeTimerRunning sleep =>
    rw [execute_exit (left sleep rfl)]
  | _ => rfl

theorem inv_task {s s' : State} (h : Inv s) (next : step s .task = some s') : Inv s' := by
  obtain ⟨ordered, before⟩ := h
  unfold step at next
  cases todo : s.todo with
  | nil =>
    simp only [todo] at next
    cases next
  | cons i rest =>
    simp only [todo, Option.some.injEq] at next
    rw [todo] at ordered before
    obtain ⟨follows, ordered⟩ := ordered
    by_cases spins : ∃ sleep, i = .whileLeTimerRunning sleep ∧ s.leTimerRunning = true
    · obtain ⟨sleep, rfl, running⟩ := spins
      have same : s' = s := by
        rw [← next]
        exact if_pos running
      rw [same]
      exact ⟨todo ▸ ⟨follows, ordered⟩, todo ▸ before⟩
    · have left (sleep : Bool) (loop : i = .whileLeTimerRunning sleep) :
          s.leTimerRunning = false := by
        by_contra running
        exact spins ⟨sleep, loop, by simpa using running⟩
      obtain rfl := next
      refine ⟨?_, ?_⟩
      · rw [execute_todo rest left]
        exact ordered
      · rw [execute_todo rest left]
        exact before_execute follows left before

theorem before_underflow {s : State} (counting : Counting s) {next : Option Instr}
    (h : Before s next) :
    Before { s with repeats := s.repeats - 1, underflowFlag := true } next := by
  have stopped (off : s.enabled = false) : False := by
    rw [counting.1] at off
    cases off
  match next with
  | none => exact h
  | some (.letimerEnable false) => exact h
  | some (.letimerRepeatSet n) => exact h
  | some (.letimerCompareSet _) => exact (stopped h.2.1).elim
  | some .letimerIntClear => exact (stopped h.2.1).elim
  | some (.letimerEnable true) => exact (stopped h.2.1).elim
  | some .setLeTimerRunning => exact ⟨h.1, Or.inr rfl⟩
  | some (.startRx _) => exact fun _ => Or.inr rfl
  | some (.whileLeTimerRunning _) => exact fun _ => Or.inr rfl

theorem before_irq {s : State} {next : Option Instr} (after : next ≠ some .setLeTimerRunning)
    (h : Before s next) :
    Before { s with underflowFlag := false, leTimerRunning := false } next := by
  match next with
  | none => rfl
  | some (.letimerEnable false) => rfl
  | some (.letimerRepeatSet n) => exact ⟨rfl, h.2⟩
  | some (.letimerCompareSet _) => exact ⟨rfl, h.2⟩
  | some .letimerIntClear => exact ⟨rfl, h.2⟩
  | some (.letimerEnable true) => exact ⟨rfl, h.2⟩
  | some .setLeTimerRunning => exact absurd rfl after
  | some (.startRx _) => exact fun running => nomatch running
  | some (.whileLeTimerRunning _) => exact fun running => nomatch running

theorem inv_step {s : State} {m : Move} {s' : State} (next : step s m = some s')
    (after : AfterFlag s m) (h : Inv s) : Inv s' := by
  cases m with
  | call startDelayInUs receiveWindowInUs channel sleepInDelay =>
    obtain ⟨idle, moved⟩ := Option.ite_none_right_eq_some.mp next
    have stopped : s.leTimerRunning = false := by
      have before := h.before
      rwa [idle] at before
    obtain rfl := Option.some.inj moved
    refine ⟨ordered_receive _ _ _ _, ?_⟩
    unfold emberAfGpdScheduledReceive
    split_ifs
    · exact stopped
    · exact stopped
  | task => exact inv_task h next
  | underflow =>
    obtain ⟨counting, moved⟩ := Option.ite_none_right_eq_some.mp next
    obtain rfl := Option.some.inj moved
    exact ⟨h.ordered, before_underflow counting h.before⟩
  | letimerIrq =>
    obtain ⟨-, moved⟩ := Option.ite_none_right_eq_some.mp next
    obtain rfl := Option.some.inj moved
    exact ⟨h.ordered, before_irq (after rfl) h.before⟩

/-- As long as the handler runs after the flag was set, a wait loop waits for what comes. -/
theorem wait_loop_interrupt_to_come {s : State} (run : RunOf step AfterFlag initial s)
    (running : s.leTimerRunning = true) (waiting : Waiting s) : InterruptToCome s := by
  have inv : Inv s := run.preserves (fun _ _ _ next after h => inv_step next after h)
    ⟨trivial, rfl⟩
  obtain ⟨sleep, head⟩ := waiting
  have before := inv.before
  rw [head] at before
  exact before running

def preemptedLoad : List Move :=
  [.call 0 100000 11 true, .task, .task, .task, .task, .task, .underflow, .letimerIrq, .task, .task]

theorem preemptedLoad_hangs : ∃ s, RunOf step (fun _ _ => True) initial s ∧
    s.leTimerRunning = true ∧ Waiting s ∧ ¬ InterruptToCome s := by
  have run : RunOf step (fun _ _ => True) initial
      ⟨[.whileLeTimerRunning false], true, 0, 3276, false, true⟩ := run_of_follow preemptedLoad rfl
  refine ⟨_, run, rfl, ⟨false, rfl⟩, ?_⟩
  rintro (counting | pending)
  · exact absurd counting.2 (by decide)
  · cases pending

/-- A window of 100 ms that is opened without a preemption. -/
theorem openedWindow_interrupt_to_come :
    InterruptToCome ⟨[.whileLeTimerRunning false], true, 1, 3276, false, true⟩ := by
  have run : RunOf step AfterFlag initial
      ⟨[.whileLeTimerRunning false], true, 1, 3276, false, true⟩ :=
    run_of_follow
      [.call 0 100000 11 true, .task, .task, .task, .task, .task, .task, .task] rfl
  exact wait_loop_interrupt_to_come run rfl ⟨false, rfl⟩

end GreenPower.TimerInterrupt
