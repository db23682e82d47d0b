import GreenPower.KernelInvariant
import GreenPower.Runs

set_option autoImplicit false

/-!
Tasks and interrupts on the kernel. The running task calls services; `OSFlagPend` has three parts,
with the call of the scheduler between two critical sections. Posts, timers and the scheduler can
come at any moment. A step is `none` where the kernel fails.
-/
namespace GreenPower.KernelRuns
open Runs KernelServices KernelLists KernelInvariant

/-- Where a task is in `OSFlagPend`: before its call of the scheduler, or after. -/
inductive Call (γ : Type) where
  | out
  | blocked (g : γ) (opt : PendOpt)
  | resuming (g : γ) (opt : PendOpt)
  deriving DecidableEq

structure Sys (τ γ : Type) where
  kernel : Kernel τ γ
  call : τ → Call γ
  /-- The flags that `OSFlagPend` returned, newest first, but not those of a timeout. -/
  returned : List (τ × γ × UInt32)

inductive Move (τ γ : Type) where
  | create (t : τ) (prio : Prio)
  | start
  | pend (g : γ) (flags timeout : UInt32) (opt : PendOpt)
  | resched
  | resume
  | post (g : γ) (flags : UInt32) (opt : PostOpt)
  | timer (t : τ)
  | sched
  | lock
  | unlock

section
variable {τ γ : Type} [DecidableEq τ] [DecidableEq γ] [Fintype τ]

def start : Sys τ γ where
  kernel := osInit
  call := fun _ => .out
  returned := []

def At (s : Sys τ γ) (point : Call γ → Prop) : Prop :=
  ∃ t, s.kernel.osTCBCurPtr = some t ∧ point (s.call t)

/-- Who calls what when; a control block is created when it is not in use. -/
def Allowed (s : Sys τ γ) : Move τ γ → Prop
  | .create t _ => (s.kernel.tcb t).taskState = .del
  | .start => s.kernel.osRunning = false ∧ ∃ t, (s.kernel.tcb t).taskState = .rdy
  | .pend _ _ timeout opt => At s (· = .out) ∧ Compiled opt.mode ∧ Delayed timeout
  | .resched => At s (fun call => ∃ g opt, call = .blocked g opt)
  | .resume => At s (fun call => ∃ g opt, call = .resuming g opt)
  | .post _ _ _ => s.kernel.osRunning = true
  | .timer t => (s.kernel.tcb t).timer = true
  | .sched => s.kernel.osRunning = true
  | .lock => At s (· = .out)
  | .unlock => At s (· = .out)

instance (s : Sys τ γ) (point : Call γ → Prop) [DecidablePred point] : Decidable (At s point) :=
  match current : s.kernel.osTCBCurPtr with
  | none => isFalse (fun ⟨_, now, _⟩ => nomatch current.symm.trans now)
  | some t => decidable_of_iff (point (s.call t))
    ⟨fun here => ⟨t, current, here⟩, fun ⟨_, now, here⟩ =>
      (Option.some.inj (current.symm.trans now)) ▸ here⟩

instance : DecidablePred (fun call : Call γ => ∃ g opt, call = .blocked g opt)
  | .out => isFalse nofun
  | .blocked g opt => isTrue ⟨g, opt, rfl⟩
  | .resuming _ _ => isFalse nofun

instance : DecidablePred (fun call : Call γ => ∃ g opt, call = .resuming g opt)
  | .out => isFalse nofun
  | .blocked _ _ => isFalse nofun
  | .resuming g opt => isTrue ⟨g, opt, rfl⟩

instance (s : Sys τ γ) (m : Move τ γ) : Decidable (Allowed s m) :=
  match m with
  | .create _ _ => inferInstanceAs (Decidable (_ = _))
  | .start => inferInstanceAs (Decidable (_ ∧ ∃ _, _))
  | .pend _ _ _ _ => inferInstanceAs (Decidable (At s (· = .out) ∧ _ ∧ _))
  | .resched => inferInstanceAs (Decidable (At s (fun call => ∃ g opt, call = .blocked g opt)))
  | .resume => inferInstanceAs (Decidable (At s (fun call => ∃ g opt, call = .resuming g opt)))
  | .post _ _ _ => inferInstanceAs (Decidable (_ = _))
  | .timer _ => inferInstanceAs (Decidable (_ = _))
  | .sched => inferInstanceAs (Decidable (_ = _))
  | .lock => inferInstanceAs (Decidable (At s (· = .out)))
  | .unlock => inferInstanceAs (Decidable (At s (· = .out)))

def pendStep (t : τ) (g : γ) (opt : PendOpt) (s : Sys τ γ) (r : FlagPend × Kernel τ γ) : Sys τ γ :=
  match r.1 with
  | .got flagsRdy => { s with kernel := r.2, returned := (t, g, flagsRdy) :: s.returned }
  | .wouldBlock | .schedLocked => { s with kernel := r.2 }
  | .blocked => { s with kernel := r.2, call := Function.update s.call t (.blocked g opt) }

def resumeStep (t : τ) (g : γ) (opt : PendOpt) (s : Sys τ γ) : Sys τ γ where
  kernel := (osFlagPendResume t g opt s.kernel).2
  call := Function.update s.call t .out
  returned :=
    if (s.kernel.tcb t).pendStatus = .ok then
      (t, g, (osFlagPendResume t g opt s.kernel).1) :: s.returned
    else s.returned

def step (s : Sys τ γ) : Move τ γ → Option (Sys τ γ)
  | .create t prio => (osTaskCreate t prio s.kernel).map (fun k => { s with kernel := k })
  | .start => some { s with kernel := osStart s.kernel }
  | .pend g flags timeout opt =>
    match s.kernel.osTCBCurPtr with
    | none => none
    | some t => (osFlagPend t g flags timeout opt s.kernel).map (pendStep t g opt s)
  | .resched =>
    match s.kernel.osTCBCurPtr with
    | none => none
    | some t =>
      match s.call t with
      | .blocked g opt => some { s with
          kernel := osSched s.kernel
          call := Function.update s.call t (.resuming g opt) }
      | _ => none
  | .resume =>
    match s.kernel.osTCBCurPtr with
    | none => none
    | some t =>
      match s.call t with
      | .resuming g opt => some (resumeStep t g opt s)
      | _ => none
  | .post g flags opt => (osFlagPost g flags opt s.kernel).map (fun k => { s with kernel := k })
  | .timer t => (osTimerCallback t s.kernel).map (fun k => { s with kernel := k })
  | .sched => some { s with kernel := osSched s.kernel }
  | .lock => some { s with kernel := osSchedLock s.kernel }
  | .unlock => some { s with kernel := osSchedUnlock s.kernel }

def inCall (g : γ) (call : Call γ) : Prop :=
  ∃ opt, call = .blocked g opt ∨ call = .resuming g opt

structure Inv (s : Sys τ γ) : Prop where
  consistent : ∃ rdy waiting, Consistent s.kernel rdy waiting
  pends : ∀ t g, (s.kernel.tcb t).pendObjPtr = some g → inCall g (s.call t)
  deleted : ∀ t, (s.kernel.tcb t).taskState = .del → s.call t = .out
  current : ∀ t, s.kernel.osTCBCurPtr = some t →
    (s.kernel.tcb t).taskState = .rdy ∨ ∃ g opt, s.call t = .blocked g opt
  prio : ∀ t, s.kernel.osTCBCurPtr = some t → (s.kernel.tcb t).prio.val = s.kernel.osPrioCur
  /-- The running task is the first of its list, but for a moment when it blocks. -/
  first : ∀ t, s.kernel.osTCBCurPtr = some t → (∀ g opt, s.call t ≠ .blocked g opt) →
    (s.kernel.ready.osRdyList (s.kernel.tcb t).prio).head = some t
  locked : s.kernel.osSchedLockNestingCtr > 0 → At s (· = .out)
  stopped : s.kernel.osRunning = false → s.kernel.osTCBCurPtr = none
  unmet : ∀ t g, (s.kernel.tcb t).pendObjPtr = some g →
    flagsReady (s.kernel.tcb t).flagsOpt.mode (s.kernel.flags g) (s.kernel.tcb t).flagsPend =
      some none

end

section
variable {γ : Type} {g g' : γ}

theorem not_inCall_out : ¬inCall g (.out : Call γ) := by
  rintro ⟨opt, here | here⟩ <;> cases here

theorem inCall_blocked {opt : PendOpt} : inCall g (.blocked g' opt) ↔ g' = g := by
  constructor
  · rintro ⟨opt', here | here⟩
    · cases here
      rfl
    · cases here
  · rintro rfl
    exact ⟨opt, Or.inl rfl⟩

theorem inCall_resuming {opt : PendOpt} : inCall g (.resuming g' opt) ↔ g' = g := by
  constructor
  · rintro ⟨opt', here | here⟩
    · cases here
    · cases here
      rfl
  · rintro rfl
    exact ⟨opt, Or.inr rfl⟩

theorem inCall_group {call : Call γ} (here : inCall g call) (there : inCall g' call) : g = g' := by
  cases call with
  | out => exact absurd here not_inCall_out
  | blocked g'' opt => exact (inCall_blocked.mp here).symm.trans (inCall_blocked.mp there)
  | resuming g'' opt => exact (inCall_resuming.mp here).symm.trans (inCall_resuming.mp there)

end

theorem unmet_of_less {mode : FlagMode} (compiled : Compiled mode) {old new wanted : UInt32}
    (less : new &&& old = new) (unmet : flagsReady mode old wanted = some none) :
    flagsReady mode new wanted = some none := by
  rcases compiled with rfl | rfl
  · have before : old &&& wanted ≠ wanted := by
      intro all
      simp [flagsReady, all] at unmet
    have after : new &&& wanted ≠ wanted := by
      intro all
      apply before
      calc old &&& wanted = old &&& (new &&& wanted) := by rw [all]
        _ = (new &&& old) &&& wanted := by rw [← UInt32.and_assoc, UInt32.and_comm old new]
        _ = wanted := by rw [less, all]
    simp [flagsReady, after]
  · have before : old &&& wanted = 0 := by
      by_contra some
      simp [flagsReady, some] at unmet
    have after : new &&& wanted = 0 := by
      calc new &&& wanted = (new &&& old) &&& wanted := by rw [less]
        _ = new &&& (old &&& wanted) := UInt32.and_assoc _ _ _
        _ = 0 := by rw [before, UInt32.and_zero]
    simp [flagsReady, after]

theorem cleared_less (old taken : UInt32) : (old &&& ~~~taken) &&& old = old &&& ~~~taken := by
  rw [UInt32.and_comm old, UInt32.and_assoc, UInt32.and_self]

section
variable {τ γ : Type} {s s' : Sys τ γ} {k : Kernel τ γ} {rdy : Prio → List τ} {waiting : γ → List τ}

theorem highRdy_spec (h : Consistent k rdy waiting) {prio : ℕ} {t : τ}
    (high : highRdy prio k.ready = some t) :
    (k.tcb t).taskState = .rdy ∧ (k.tcb t).prio.val = prio ∧
      (k.ready.osRdyList (k.tcb t).prio).head = some t := by
  unfold highRdy at high
  split_ifs at high with inside
  have head := high
  rw [(h.ready.linked ⟨prio, inside⟩).head] at head
  obtain ⟨state, own⟩ := (h.ready_iff _).mp (List.mem_of_mem_head? head)
  exact ⟨state, congrArg Fin.val own, own ▸ high⟩

theorem Inv.unlocked (h : Inv s) {t : τ} {g : γ} {opt : PendOpt}
    (current : s.kernel.osTCBCurPtr = some t) (call : s.call t = .blocked g opt) :
    s.kernel.osSchedLockNestingCtr = 0 := by
  by_contra locked
  obtain ⟨u, now, out⟩ := h.locked (Nat.pos_of_ne_zero locked)
  obtain rfl : t = u := Option.some.inj (current.symm.trans now)
  rw [call] at out
  cases out

theorem Inv.running (h : Inv s) {t : τ} (current : s.kernel.osTCBCurPtr = some t)
    (past : ∀ g opt, s.call t ≠ .blocked g opt) : (s.kernel.tcb t).taskState = .rdy := by
  rcases h.current t current with ready | ⟨g, opt, blocked⟩
  · exact ready
  · exact absurd blocked (past g opt)

theorem Inv.unpending (h : Inv s) {t : τ} (ready : (s.kernel.tcb t).taskState = .rdy) :
    (s.kernel.tcb t).pendObjPtr = none := by
  obtain ⟨rdy, waiting, consistent⟩ := h.consistent
  by_contra pends
  have other := (consistent.sound t).pends.mp pends
  simp [ready] at other

variable [DecidableEq τ]

theorem osSched_locked (locked : k.osSchedLockNestingCtr > 0) : osSched k = k := by
  unfold osSched
  rw [if_pos locked]

theorem osSched_current (free : k.osSchedLockNestingCtr = 0) :
    (osSched k).osTCBCurPtr = highRdy (osPrioGetHighest k.ready) k.ready := by
  have unlocked : ¬k.osSchedLockNestingCtr > 0 := by omega
  unfold osSched
  rw [if_neg unlocked]
  simp only []
  split_ifs with same
  · exact same.2.symm
  · rfl

theorem osSched_prio (free : k.osSchedLockNestingCtr = 0) {t : τ}
    (old : k.osTCBCurPtr = some t → (k.tcb t).prio.val = k.osPrioCur)
    (high : highRdy (osPrioGetHighest k.ready) k.ready = some t)
    (own : (k.tcb t).prio.val = osPrioGetHighest k.ready) :
    (k.tcb t).prio.val = (osSched k).osPrioCur := by
  have unlocked : ¬k.osSchedLockNestingCtr > 0 := by omega
  unfold osSched
  rw [if_neg unlocked]
  simp only []
  split_ifs with same
  · exact old (same.2.symm.trans high)
  · exact own

/-- What is not the scheduler's own. -/
theorem osSched_same : (osSched k).tcb = k.tcb ∧ (osSched k).ready = k.ready ∧
    (osSched k).pending = k.pending ∧ (osSched k).flags = k.flags ∧
    (osSched k).osSchedLockNestingCtr = k.osSchedLockNestingCtr ∧
    (osSched k).osRunning = k.osRunning := by
  unfold osSched
  simp only []
  split_ifs <;> exact ⟨rfl, rfl, rfl, rfl, rfl, rfl⟩

theorem Consistent.osSched (h : Consistent k rdy waiting) :
    Consistent (KernelServices.osSched k) rdy waiting := by
  obtain ⟨tcb, ready, pending, -, -, -⟩ := osSched_same (k := k)
  refine ⟨?_, ?_, ?_, ?_⟩
  · rw [tcb, ready]
    exact h.ready
  · rw [tcb, pending]
    exact h.pend
  · rw [tcb]
    exact h.mem_ready
  · rw [tcb]
    exact h.sound

/-- `OSSched` from an interrupt or after a post. -/
theorem Inv.sched (h : Inv s) (running : s.kernel.osRunning = true) : Inv { s with kernel := osSched s.kernel } := by
  obtain ⟨rdy, waiting, consistent⟩ := h.consistent
  obtain ⟨tcb, ready, pending, flags, lock, runs⟩ := osSched_same (k := s.kernel)
  by_cases locked : s.kernel.osSchedLockNestingCtr > 0
  · rw [osSched_locked locked]
    exact h
  · have high := osSched_current (k := s.kernel) (by omega)
    refine ⟨⟨rdy, waiting, Consistent.osSched consistent⟩, ?_, ?_, ?_, ?_, ?_, ?_, ?_, ?_⟩
    · simp only [tcb]
      exact h.pends
    · simp only [tcb]
      exact h.deleted
    · intro t current
      rw [high] at current
      simp only [tcb]
      exact Or.inl (highRdy_spec consistent current).1
    · intro t current
      rw [high] at current
      simp only [tcb]
      exact osSched_prio (by omega) (h.prio t) current (highRdy_spec consistent current).2.1
    · intro t current past
      rw [high] at current
      simp only [tcb, ready]
      exact (highRdy_spec consistent current).2.2
    · intro now
      rw [lock] at now
      exact absurd now locked
    · intro idle
      rw [runs, running] at idle
      cases idle
    · simp only [tcb, flags]
      exact h.unmet

/-- The call of the scheduler in `OSFlagPend`. -/
theorem Inv.resched (h : Inv s) {t : τ} {g : γ} {opt : PendOpt}
    (current : s.kernel.osTCBCurPtr = some t) (call : s.call t = .blocked g opt) :
    Inv { s with
      kernel := KernelServices.osSched s.kernel
      call := Function.update s.call t (.resuming g opt) } := by
  have free := h.unlocked current call
  obtain ⟨rdy, waiting, consistent⟩ := h.consistent
  obtain ⟨tcb, ready, pending, flags, lock, runs⟩ := osSched_same (k := s.kernel)
  have high := osSched_current free
  refine ⟨⟨rdy, waiting, Consistent.osSched consistent⟩, ?_, ?_, ?_, ?_, ?_, ?_, ?_, ?_⟩
  · simp only [tcb]
    intro u g' pends
    by_cases same : u = t
    · subst same
      obtain ⟨_, blocked | resuming⟩ := h.pends u g' pends
      · rw [call] at blocked
        cases blocked
        rw [Function.update_self]
        exact ⟨opt, Or.inr rfl⟩
      · rw [call] at resuming
        cases resuming
    · rw [Function.update_of_ne same]
      exact h.pends u g' pends
  · simp only [tcb]
    intro u gone
    by_cases same : u = t
    · subst same
      have out := h.deleted u gone
      rw [call] at out
      cases out
    · rw [Function.update_of_ne same]
      exact h.deleted u gone
  · simp only [tcb]
    intro u now
    rw [high] at now
    exact Or.inl (highRdy_spec consistent now).1
  · simp only [tcb]
    intro u now
    rw [high] at now
    exact osSched_prio free (h.prio u) now (highRdy_spec consistent now).2.1
  · simp only [tcb, ready]
    intro u now past
    rw [high] at now
    exact (highRdy_spec consistent now).2.2
  · simp only [lock, free]
    exact fun now => absurd now (lt_irrefl 0)
  · intro idle
    rw [runs] at idle
    rw [h.stopped idle] at current
    cases current
  · simp only [tcb, flags]
    exact h.unmet

/-- A call that leaves the control blocks of waiting tasks alone and only clears flags. -/
theorem Inv.consume (h : Inv s) {t : τ} {g : γ} {x : Tcb γ} {left : UInt32} {call : τ → Call γ}
    (returned : List (τ × γ × UInt32)) (current : s.kernel.osTCBCurPtr = some t)
    (ready : (s.kernel.tcb t).taskState = .rdy) (prio : x.prio = (s.kernel.tcb t).prio)
    (state : x.taskState = (s.kernel.tcb t).taskState)
    (pends : x.pendObjPtr = (s.kernel.tcb t).pendObjPtr) (sound : Sound x)
    (less : left &&& s.kernel.flags g = left) [DecidableEq γ]
    (before : ∀ g opt, s.call t ≠ .blocked g opt) (calls : ∀ u, u ≠ t → call u = s.call u)
    (out : call t = .out) :
    Inv ⟨{ s.kernel with
      tcb := Function.update s.kernel.tcb t x
      flags := Function.update s.kernel.flags g left }, call, returned⟩ := by
  have unpending := h.unpending ready
  obtain ⟨rdy, waiting, consistent⟩ := h.consistent
  have touched := consistent.touch prio state pends sound
  have others {u : τ} (other : u ≠ t) : Function.update s.kernel.tcb t x u = s.kernel.tcb u :=
    Function.update_of_ne other _ _
  have pending {u : τ} {g' : γ} (here : (Function.update s.kernel.tcb t x u).pendObjPtr = some g') :
      u ≠ t := by
    rintro rfl
    rw [Function.update_self, pends, unpending] at here
    cases here
  refine ⟨⟨rdy, waiting, touched.ready, touched.pend, touched.mem_ready, touched.sound⟩,
    fun u g' here => ?_, fun u gone => ?_, fun u now => ?_, fun u now => ?_, fun u now past => ?_,
    fun locked => ?_, h.stopped, fun u g' here => ?_⟩
  · have other := pending here
    simp only [others other] at here
    change inCall g' (call u)
    rw [calls u other]
    exact h.pends u g' here
  · by_cases same : u = t
    · subst same
      exact out
    · simp only [others same] at gone
      change call u = .out
      rw [calls u same]
      exact h.deleted u gone
  · obtain rfl : t = u := Option.some.inj (current.symm.trans now)
    refine Or.inl ?_
    change (Function.update s.kernel.tcb t x t).taskState = .rdy
    rw [Function.update_self, state]
    exact ready
  · obtain rfl : t = u := Option.some.inj (current.symm.trans now)
    change (Function.update s.kernel.tcb t x t).prio.val = s.kernel.osPrioCur
    rw [Function.update_self, prio]
    exact h.prio t now
  · obtain rfl : t = u := Option.some.inj (current.symm.trans now)
    change (s.kernel.ready.osRdyList (Function.update s.kernel.tcb t x t).prio).head = some t
    rw [Function.update_self, prio]
    exact h.first t now before
  · exact ⟨t, current, out⟩
  · have other := pending here
    simp only [others other] at here ⊢
    have unmet := h.unmet u g' here
    by_cases same : g' = g
    · subst same
      rw [Function.update_self]
      exact unmet_of_less ((consistent.sound u).mode (by simp [here])) less unmet
    · rw [Function.update_of_ne same]
      exact unmet

variable [DecidableEq γ] {t : τ} {g : γ} {opt : PendOpt}

theorem consumed (consume : Bool) (old flagsRdy : UInt32) :
    (if consume then old &&& ~~~flagsRdy else old) &&& old =
      if consume then old &&& ~~~flagsRdy else old := by
  cases consume with
  | false => exact UInt32.and_self
  | true => exact cleared_less old flagsRdy

/-- A task that blocks; it has not called the scheduler yet. -/
theorem Inv.block [Fintype τ] (h : Inv s) (current : s.kernel.osTCBCurPtr = some t)
    (out : s.call t = .out) (free : s.kernel.osSchedLockNestingCtr = 0) {flags : UInt32}
    {timeout : UInt32} (compiled : Compiled opt.mode) (delayed : Delayed timeout)
    (unmet : flagsReady opt.mode (s.kernel.flags g) flags = some none) :
    ∃ k, osFlagBlock t g flags opt timeout s.kernel = some k ∧
      Inv { s with kernel := k, call := Function.update s.call t (.blocked g opt) } := by
  have state := h.running current (by simp [out])
  obtain ⟨rdy, waiting, consistent⟩ := h.consistent
  obtain ⟨ready, pending, rdy', waiting', made, after⟩ :=
    osFlagBlock_spec (g := g) consistent state flags compiled delayed
  refine ⟨_, made, ⟨rdy', waiting', after⟩, fun u g' pends => ?_, fun u gone => ?_,
    fun u now => ?_, fun u now => ?_, fun u now past => ?_, fun locked => ?_, h.stopped,
    fun u g' pends => ?_⟩
  · by_cases same : u = t
    · subst same
      obtain rfl : g = g' := by simpa [blocked] using pends
      change inCall g (Function.update s.call u (.blocked g opt) u)
      rw [Function.update_self]
      exact ⟨opt, Or.inl rfl⟩
    · simp only [Function.update_of_ne same] at pends ⊢
      exact h.pends u g' pends
  · by_cases same : u = t
    · subst same
      simp only [Function.update_self, blocked] at gone
      split_ifs at gone
    · simp only [Function.update_of_ne same] at gone ⊢
      exact h.deleted u gone
  · obtain rfl : t = u := Option.some.inj (current.symm.trans now)
    refine Or.inr ⟨g, opt, ?_⟩
    change Function.update s.call t (.blocked g opt) t = _
    rw [Function.update_self]
  · obtain rfl : t = u := Option.some.inj (current.symm.trans now)
    simp only [Function.update_self]
    exact h.prio t now
  · obtain rfl : t = u := Option.some.inj (current.symm.trans now)
    exact absurd (Function.update_self t (.blocked g opt) s.call) (past g opt)
  · change s.kernel.osSchedLockNestingCtr > 0 at locked
    omega
  · by_cases same : u = t
    · subst same
      obtain rfl : g = g' := by simpa [blocked] using pends
      simpa [blocked] using unmet
    · simp only [Function.update_of_ne same] at pends ⊢
      exact h.unmet u g' pends

/-- The first part of `OSFlagPend`. -/
theorem Inv.pend [Fintype τ] (h : Inv s) (current : s.kernel.osTCBCurPtr = some t)
    (out : s.call t = .out) (compiled : Compiled opt.mode) (flags : UInt32) {timeout : UInt32}
    (delayed : Delayed timeout) :
    ∃ r, osFlagPend t g flags timeout opt s.kernel = some r ∧ Inv (pendStep t g opt s r) := by
  obtain ⟨found, looked⟩ := flagsReady_compiled compiled (s.kernel.flags g) flags
  cases found with
  | some flagsRdy =>
    have state := h.running current (by simp [out])
    obtain ⟨rdy, waiting, consistent⟩ := h.consistent
    have sound := consistent.sound t
    have kept : Sound { s.kernel.tcb t with flagsRdy := flagsRdy } :=
      ⟨sound.state, sound.pends, sound.timer, sound.mode⟩
    refine ⟨_, by simp only [osFlagPend, looked]; rfl, ?_⟩
    exact h.consume (x := { s.kernel.tcb t with flagsRdy := flagsRdy }) _ current state rfl rfl rfl kept
      (consumed opt.consume (s.kernel.flags g) flagsRdy) (by simp [out]) (fun _ _ => rfl) out
  | none =>
    by_cases nonBlocking : opt.nonBlocking = true
    · refine ⟨(.wouldBlock, s.kernel), ?_, h⟩
      simp [osFlagPend, looked, nonBlocking]
    by_cases locked : s.kernel.osSchedLockNestingCtr > 0
    · refine ⟨(.schedLocked, s.kernel), ?_, h⟩
      simp [osFlagPend, looked, nonBlocking, locked]
    obtain ⟨k, made, after⟩ := h.block current out (by omega) compiled delayed looked
    refine ⟨(.blocked, k), ?_, after⟩
    simp [osFlagPend, looked, nonBlocking, locked, made]

/-- The last part of `OSFlagPend`. -/
theorem Inv.resume (h : Inv s) (current : s.kernel.osTCBCurPtr = some t)
    (call : s.call t = .resuming g opt) : Inv (resumeStep t g opt s) := by
  have state := h.running current (by simp [call])
  obtain ⟨rdy, waiting, consistent⟩ := h.consistent
  have others (u : τ) (other : u ≠ t) : Function.update s.call t .out u = s.call u :=
    Function.update_of_ne other _ _
  have out : Function.update s.call t .out t = .out := Function.update_self _ _ _
  have after {left : UInt32} (less : left &&& s.kernel.flags g = left)
      (returned : List (τ × γ × UInt32)) :=
    h.consume returned current state rfl rfl rfl (consistent.sound t) less
      (by simp [call]) others out
  rw [Function.update_eq_self] at after
  unfold resumeStep osFlagPendResume
  by_cases ok : (s.kernel.tcb t).pendStatus = .ok
  · simp only [if_pos ok]
    exact after (consumed opt.consume (s.kernel.flags g) (s.kernel.tcb t).flagsRdy) _
  · have same := after UInt32.and_self s.returned
    rw [Function.update_eq_self] at same
    simp only [if_neg ok]
    exact same

omit [DecidableEq τ] [DecidableEq γ] in
theorem afterPost_waiting {flags' : UInt32} {tcb : Tcb γ} (compiled : Compiled tcb.flagsOpt.mode)
    (pends : (afterPost flags' tcb).pendObjPtr = some g) :
    afterPost flags' tcb = tcb ∧ flagsReady tcb.flagsOpt.mode flags' tcb.flagsPend = some none := by
  obtain ⟨found, looked⟩ := flagsReady_compiled compiled flags' tcb.flagsPend
  unfold afterPost at pends ⊢
  rw [looked] at pends ⊢
  cases found with
  | none => exact ⟨rfl, rfl⟩
  | some flagsRdy => exact absurd pends nofun

omit [DecidableEq τ] [DecidableEq γ] in
theorem afterPost_state (flags' : UInt32) (tcb : Tcb γ) :
    (afterPost flags' tcb).taskState = .rdy ∨ afterPost flags' tcb = tcb := by
  unfold afterPost
  split
  · exact Or.inl rfl
  · exact Or.inr rfl

omit [DecidableEq τ] [DecidableEq γ] in
theorem afterPost_prio (flags' : UInt32) (tcb : Tcb γ) : (afterPost flags' tcb).prio = tcb.prio := by
  unfold afterPost
  split <;> rfl

theorem Inv.post [Fintype τ] (h : Inv s) (g : γ) (flags : UInt32) (opt : PostOpt) :
    ∃ k, osFlagPost g flags opt s.kernel = some k ∧ Inv { s with kernel := k } := by
  obtain ⟨rdy, waiting, consistent⟩ := h.consistent
  obtain ⟨ready, pending, rdy', waiting', made, after, heads⟩ := osFlagPost_spec consistent flags opt rfl
  generalize posted opt (s.kernel.flags g) flags = flags' at made after
  have compiled {t : τ} {g' : γ} (pends : (s.kernel.tcb t).pendObjPtr = some g') :
      Compiled (s.kernel.tcb t).flagsOpt.mode := (consistent.sound t).mode (by simp [pends])
  have prios (t : τ) : (if (s.kernel.tcb t).pendObjPtr = some g then
      afterPost flags' (s.kernel.tcb t) else s.kernel.tcb t).prio = (s.kernel.tcb t).prio := by
    split_ifs
    · exact afterPost_prio flags' _
    · rfl
  refine ⟨_, made, ⟨rdy', waiting', after⟩, fun t g' pends => ?_, fun t gone => ?_,
    fun t now => ?_, fun t now => ?_, fun t now past => ?_, h.locked, h.stopped,
    fun t g' pends => ?_⟩
  · by_cases here : (s.kernel.tcb t).pendObjPtr = some g
    · simp only [if_pos here] at pends
      rw [(afterPost_waiting (compiled here) pends).1] at pends
      exact h.pends t g' pends
    · simp only [if_neg here] at pends
      exact h.pends t g' pends
  · by_cases here : (s.kernel.tcb t).pendObjPtr = some g
    · simp only [if_pos here] at gone
      rcases afterPost_state flags' (s.kernel.tcb t) with ready | same
      · rw [ready] at gone
        cases gone
      · rw [same] at gone
        exact h.deleted t gone
    · simp only [if_neg here] at gone
      exact h.deleted t gone
  · rcases h.current t now with ready | blocked
    · refine Or.inl ?_
      by_cases here : (s.kernel.tcb t).pendObjPtr = some g
      · rw [h.unpending ready] at here
        cases here
      · simpa only [if_neg here] using ready
    · exact Or.inr blocked
  · simp only [prios]
    exact h.prio t now
  · simp only [prios]
    exact heads _ t (h.prio t now) (h.first t now past)
  · by_cases here : (s.kernel.tcb t).pendObjPtr = some g
    · simp only [if_pos here] at pends ⊢
      obtain ⟨same, unmet⟩ := afterPost_waiting (compiled here) pends
      rw [same] at pends ⊢
      obtain rfl : g = g' := Option.some.inj (here.symm.trans pends)
      rw [Function.update_self]
      exact unmet
    · simp only [if_neg here] at pends ⊢
      have other : g' ≠ g := by
        rintro rfl
        exact here pends
      rw [Function.update_of_ne other]
      exact h.unmet t g' pends

omit [DecidableEq γ] in
/-- A task that gets ready and waits for nothing. -/
theorem Inv.wake (h : Inv s) {x : Tcb γ} {k : Kernel τ γ} {rdy : Prio → List τ}
    {waiting : γ → List τ} (after : Consistent k rdy waiting)
    (tcb : k.tcb = Function.update s.kernel.tcb t x) (state : x.taskState = .rdy)
    (pends : x.pendObjPtr = none) (flags : k.flags = s.kernel.flags)
    (prio : x.prio = (s.kernel.tcb t).prio ∨ s.kernel.osTCBCurPtr ≠ some t)
    (heads : HeadsKept s.kernel k.ready) (current : k.osTCBCurPtr = s.kernel.osTCBCurPtr)
    (now : k.osPrioCur = s.kernel.osPrioCur)
    (lock : k.osSchedLockNestingCtr = s.kernel.osSchedLockNestingCtr)
    (runs : k.osRunning = s.kernel.osRunning) : Inv { s with kernel := k } := by
  have pending {u : τ} {g' : γ} (here : (Function.update s.kernel.tcb t x u).pendObjPtr = some g') :
      u ≠ t := by
    rintro rfl
    rw [Function.update_self, pends] at here
    cases here
  have prios (u : τ) (runs : s.kernel.osTCBCurPtr = some u) :
      (Function.update s.kernel.tcb t x u).prio = (s.kernel.tcb u).prio := by
    by_cases same : u = t
    · subst same
      rw [Function.update_self]
      exact prio.resolve_right (not_not_intro runs)
    · rw [Function.update_of_ne same]
  refine ⟨⟨rdy, waiting, after⟩, fun u g' here => ?_, fun u gone => ?_, fun u now => ?_,
    fun u runs => ?_, fun u runs past => ?_, fun locked => ?_, fun idle => ?_, fun u g' here => ?_⟩
  · simp only [tcb] at here
    rw [Function.update_of_ne (pending here)] at here
    exact h.pends u g' here
  · simp only [tcb] at gone
    by_cases same : u = t
    · subst same
      rw [Function.update_self, state] at gone
      cases gone
    · rw [Function.update_of_ne same] at gone
      exact h.deleted u gone
  · simp only [current] at now
    simp only [tcb]
    by_cases same : u = t
    · subst same
      rw [Function.update_self]
      exact Or.inl state
    · rw [Function.update_of_ne same]
      exact h.current u now
  · simp only [current] at runs
    simp only [tcb, now, prios u runs]
    exact h.prio u runs
  · simp only [current] at runs
    simp only [tcb, prios u runs]
    exact heads _ u (h.prio u runs) (h.first u runs past)
  · simp only [lock] at locked
    obtain ⟨u, now, out⟩ := h.locked locked
    exact ⟨u, current.trans now, out⟩
  · simp only [runs] at idle
    exact current.trans (h.stopped idle)
  · simp only [tcb] at here
    have other := pending here
    rw [Function.update_of_ne other] at here
    simp only [tcb, flags]
    rw [Function.update_of_ne other]
    exact h.unmet u g' here

theorem Inv.timer (h : Inv s) (running : (s.kernel.tcb t).timer = true) :
    ∃ k, osTimerCallback t s.kernel = some k ∧ Inv { s with kernel := k } := by
  obtain ⟨rdy, waiting, consistent⟩ := h.consistent
  have state := (consistent.sound t).timer.mp running
  obtain ⟨ready, pending, rdy', waiting', made, after, heads⟩ :=
    osTimerCallback_spec consistent state
  exact ⟨_, made, h.wake after rfl rfl rfl rfl (Or.inl rfl) heads rfl rfl rfl rfl⟩

omit [DecidableEq γ] in
theorem Inv.create (h : Inv s) (gone : (s.kernel.tcb t).taskState = .del) (prio : Prio) :
    ∃ k, osTaskCreate t prio s.kernel = some k ∧ Inv { s with kernel := k } := by
  obtain ⟨rdy, waiting, consistent⟩ := h.consistent
  obtain ⟨ready, pending, rdy', made, after, heads⟩ := osTaskCreate_spec consistent gone prio
  have idle : s.kernel.osTCBCurPtr ≠ some t := by
    intro current
    have ready := h.running current (by simp [h.deleted t gone])
    simp [gone] at ready
  exact ⟨_, made, h.wake after rfl rfl rfl rfl (Or.inr idle) heads rfl rfl rfl rfl⟩

omit [DecidableEq τ] [DecidableEq γ] in
theorem Inv.start (h : Inv s) (stopped : s.kernel.osRunning = false) :
    Inv { s with kernel := osStart s.kernel } := by
  obtain ⟨rdy, waiting, consistent⟩ := h.consistent
  refine ⟨⟨rdy, waiting, consistent.ready, consistent.pend, consistent.mem_ready, consistent.sound⟩,
    h.pends, h.deleted, fun t now => ?_, fun t now => ?_, fun t now past => ?_, fun locked => ?_,
    nofun, h.unmet⟩
  · exact Or.inl (highRdy_spec consistent now).1
  · exact (highRdy_spec consistent now).2.1
  · exact (highRdy_spec consistent now).2.2
  · obtain ⟨t, now, out⟩ := h.locked locked
    rw [h.stopped stopped] at now
    cases now

omit [DecidableEq τ] [DecidableEq γ] in
/-- The nesting counter of the locks, while no call of a service is open. -/
theorem Inv.setLock (h : Inv s) {lock : ℕ} (out : At s (· = .out)) :
    Inv { s with kernel := { s.kernel with osSchedLockNestingCtr := lock } } := by
  obtain ⟨rdy, waiting, consistent⟩ := h.consistent
  refine ⟨⟨rdy, waiting, consistent.ready, consistent.pend, consistent.mem_ready, consistent.sound⟩,
    h.pends, h.deleted, h.current, h.prio, h.first, fun _ => out, h.stopped, h.unmet⟩

omit [DecidableEq τ] [DecidableEq γ] in
theorem inv_start : Inv (start : Sys τ γ) where
  consistent := ⟨_, _, consistent_osInit⟩
  pends := nofun
  deleted := fun _ _ => rfl
  current := nofun
  prio := nofun
  first := nofun
  locked := nofun
  stopped := fun _ => rfl
  unmet := nofun

variable [Fintype τ] {m : Move τ γ}

/-- Every service that is allowed succeeds and keeps the invariant. -/
theorem Inv.step (h : Inv s) (allowed : Allowed s m) :
    ∃ s', KernelRuns.step s m = some s' ∧ Inv s' := by
  cases m with
  | create t prio =>
    obtain ⟨k, made, after⟩ := h.create allowed prio
    exact ⟨_, by simp only [KernelRuns.step, made, Option.map_some], after⟩
  | start => exact ⟨_, rfl, h.start allowed.1⟩
  | pend g flags timeout opt =>
    obtain ⟨⟨t, current, out⟩, compiled, delayed⟩ := allowed
    obtain ⟨r, made, after⟩ := h.pend (g := g) current out compiled flags delayed
    exact ⟨_, by simp only [KernelRuns.step, current, made, Option.map_some], after⟩
  | resched =>
    obtain ⟨t, current, g, opt, call⟩ := allowed
    exact ⟨_, by simp only [KernelRuns.step, current, call], h.resched current call⟩
  | resume =>
    obtain ⟨t, current, g, opt, call⟩ := allowed
    exact ⟨_, by simp only [KernelRuns.step, current, call], h.resume current call⟩
  | post g flags opt =>
    obtain ⟨k, made, after⟩ := h.post g flags opt
    exact ⟨_, by simp only [KernelRuns.step, made, Option.map_some], after⟩
  | timer t =>
    obtain ⟨k, made, after⟩ := h.timer allowed
    exact ⟨_, by simp only [KernelRuns.step, made, Option.map_some], after⟩
  | sched => exact ⟨_, rfl, h.sched allowed⟩
  | lock =>
    refine ⟨_, rfl, ?_⟩
    unfold osSchedLock
    split_ifs with full
    · exact h
    · exact h.setLock allowed
  | unlock => exact ⟨_, rfl, h.setLock allowed⟩

abbrev Run (s : Sys τ γ) : Prop := RunOf KernelRuns.step Allowed start s

theorem run_inv (run : Run s) : Inv s := by
  apply run.preserves
  · intro s m s' next allowed h
    obtain ⟨t, made, after⟩ := h.step allowed
    obtain rfl : t = s' := Option.some.inj (made.symm.trans next)
    exact after
  · exact inv_start

def leftOver (opt : PendOpt) (old flagsRdy : UInt32) : UInt32 :=
  if opt.consume then old &&& ~~~flagsRdy else old

/-- `OSFlagPend` finds no flags and may not block. -/
def Refused (k : Kernel τ γ) (g : γ) (flags : UInt32) (opt : PendOpt) : Prop :=
  flagsReady opt.mode (k.flags g) flags = some none ∧
    (opt.nonBlocking = true ∨ k.osSchedLockNestingCtr > 0)

instance (k : Kernel τ γ) (g : γ) (flags : UInt32) (opt : PendOpt) :
    Decidable (Refused k g flags opt) := inferInstanceAs (Decidable (_ ∧ (_ ∨ _)))

inductive Effect (s : Sys τ γ) : Move τ γ → Sys τ γ → Prop
  | create (t : τ) (prio : Prio) (ready : Ready τ) (pending : Pending τ γ)
      (gone : (s.kernel.tcb t).taskState = .del) :
      Effect s (.create t prio) { s with kernel := { s.kernel with
        tcb := Function.update s.kernel.tcb t (created prio)
        ready := ready
        pending := pending } }
  | start (stopped : s.kernel.osRunning = false) :
      Effect s .start { s with kernel := osStart s.kernel }
  | got (t : τ) (g : γ) (flags timeout : UInt32) (opt : PendOpt) (flagsRdy : UInt32)
      (current : s.kernel.osTCBCurPtr = some t) (out : s.call t = .out)
      (looked : flagsReady opt.mode (s.kernel.flags g) flags = some (some flagsRdy)) :
      Effect s (.pend g flags timeout opt) { s with
        kernel := { s.kernel with
          tcb := Function.update s.kernel.tcb t { s.kernel.tcb t with flagsRdy := flagsRdy }
          flags := Function.update s.kernel.flags g (leftOver opt (s.kernel.flags g) flagsRdy) }
        returned := (t, g, flagsRdy) :: s.returned }
  | refused (g : γ) (flags timeout : UInt32) (opt : PendOpt)
      (refused : Refused s.kernel g flags opt) : Effect s (.pend g flags timeout opt) s
  | block (t : τ) (g : γ) (flags timeout : UInt32) (opt : PendOpt) (ready : Ready τ)
      (pending : Pending τ γ) (current : s.kernel.osTCBCurPtr = some t) (out : s.call t = .out)
      (looked : flagsReady opt.mode (s.kernel.flags g) flags = some none)
      (free : ¬Refused s.kernel g flags opt) :
      Effect s (.pend g flags timeout opt) { s with
        kernel := { s.kernel with
          tcb := Function.update s.kernel.tcb t (blocked g flags opt timeout (s.kernel.tcb t))
          ready := ready
          pending := pending }
        call := Function.update s.call t (.blocked g opt) }
  | resched (t : τ) (g : γ) (opt : PendOpt) (current : s.kernel.osTCBCurPtr = some t)
      (call : s.call t = .blocked g opt) :
      Effect s .resched { s with
        kernel := osSched s.kernel
        call := Function.update s.call t (.resuming g opt) }
  | resume (t : τ) (g : γ) (opt : PendOpt) (current : s.kernel.osTCBCurPtr = some t)
      (call : s.call t = .resuming g opt) (ok : (s.kernel.tcb t).pendStatus = .ok) :
      Effect s .resume { s with
        kernel := { s.kernel with
          flags := Function.update s.kernel.flags g
            (leftOver opt (s.kernel.flags g) (s.kernel.tcb t).flagsRdy) }
        call := Function.update s.call t .out
        returned := (t, g, (s.kernel.tcb t).flagsRdy) :: s.returned }
  | late (t : τ) (g : γ) (opt : PendOpt) (current : s.kernel.osTCBCurPtr = some t)
      (call : s.call t = .resuming g opt) (late : (s.kernel.tcb t).pendStatus ≠ .ok) :
      Effect s .resume { s with call := Function.update s.call t .out }
  | post (g : γ) (flags : UInt32) (opt : PostOpt) (ready : Ready τ) (pending : Pending τ γ)
      (flags' : UInt32) (new : flags' = posted opt (s.kernel.flags g) flags) :
      Effect s (.post g flags opt) { s with kernel := { s.kernel with
        tcb := fun u =>
          if (s.kernel.tcb u).pendObjPtr = some g then afterPost flags' (s.kernel.tcb u)
          else s.kernel.tcb u
        flags := Function.update s.kernel.flags g flags'
        ready := ready
        pending := pending } }
  | timer (t : τ) (ready : Ready τ) (pending : Pending τ γ)
      (state : (s.kernel.tcb t).taskState = .pendTimeout) :
      Effect s (.timer t) { s with kernel := { s.kernel with
        tcb := Function.update s.kernel.tcb t (timedOut (s.kernel.tcb t))
        ready := ready
        pending := pending } }
  | sched : Effect s .sched { s with kernel := osSched s.kernel }
  | lock : Effect s .lock { s with kernel := osSchedLock s.kernel }
  | unlock : Effect s .unlock { s with kernel := osSchedUnlock s.kernel }

theorem Inv.pend_effect (h : Inv s) {flags timeout : UInt32} (current : s.kernel.osTCBCurPtr = some t)
    (out : s.call t = .out) (compiled : Compiled opt.mode) (delayed : Delayed timeout)
    (next : KernelRuns.step s (.pend g flags timeout opt) = some s') :
    Effect s (.pend g flags timeout opt) s' := by
  have state := h.running current (by simp [out])
  obtain ⟨rdy, waiting, consistent⟩ := h.consistent
  obtain ⟨found, looked⟩ := flagsReady_compiled compiled (s.kernel.flags g) flags
  simp only [KernelRuns.step, current] at next
  cases found with
  | some flagsRdy =>
    simp only [osFlagPend, looked, Option.map_some] at next
    obtain rfl := Option.some.inj next
    exact .got t g flags timeout opt flagsRdy current out looked
  | none =>
    simp only [osFlagPend, looked] at next
    split_ifs at next with nonBlocking locked
    · obtain rfl := Option.some.inj next
      exact .refused g flags timeout opt ⟨looked, Or.inl nonBlocking⟩
    · obtain rfl := Option.some.inj next
      exact .refused g flags timeout opt ⟨looked, Or.inr locked⟩
    · obtain ⟨ready, pending, rdy', waiting', made, -⟩ :=
        osFlagBlock_spec (g := g) consistent state flags compiled delayed
      simp only [made, Option.map_some] at next
      obtain rfl := Option.some.inj next
      exact .block t g flags timeout opt ready pending current out looked
        (fun refused => refused.2.elim nonBlocking locked)

omit [Fintype τ] in
theorem resume_effect (current : s.kernel.osTCBCurPtr = some t) (call : s.call t = .resuming g opt) :
    Effect s .resume (resumeStep t g opt s) := by
  unfold resumeStep osFlagPendResume
  by_cases ok : (s.kernel.tcb t).pendStatus = .ok
  · simp only [if_pos ok]
    exact .resume t g opt current call ok
  · simp only [if_neg ok]
    exact .late t g opt current call ok

theorem Inv.effect (h : Inv s) (allowed : Allowed s m) (next : KernelRuns.step s m = some s') :
    Effect s m s' := by
  obtain ⟨rdy, waiting, consistent⟩ := h.consistent
  cases m with
  | create t prio =>
    obtain ⟨ready, pending, rdy', made, -⟩ := osTaskCreate_spec consistent allowed prio
    simp only [KernelRuns.step, made, Option.map_some] at next
    obtain rfl := Option.some.inj next
    exact .create t prio ready pending allowed
  | start =>
    obtain rfl := Option.some.inj next
    exact .start allowed.1
  | pend g flags timeout opt =>
    obtain ⟨⟨t, current, out⟩, compiled, delayed⟩ := allowed
    exact h.pend_effect current out compiled delayed next
  | resched =>
    obtain ⟨t, current, g, opt, call⟩ := allowed
    simp only [KernelRuns.step, current, call] at next
    obtain rfl := Option.some.inj next
    exact .resched t g opt current call
  | resume =>
    obtain ⟨t, current, g, opt, call⟩ := allowed
    simp only [KernelRuns.step, current, call] at next
    obtain rfl := Option.some.inj next
    exact resume_effect current call
  | post g flags opt =>
    obtain ⟨ready, pending, rdy', waiting', made, -⟩ :=
      osFlagPost_spec (g := g) consistent flags opt rfl
    simp only [KernelRuns.step, made, Option.map_some] at next
    obtain rfl := Option.some.inj next
    exact .post g flags opt ready pending _ rfl
  | timer t =>
    have state := (consistent.sound t).timer.mp allowed
    obtain ⟨ready, pending, rdy', waiting', made, -⟩ := osTimerCallback_spec consistent state
    simp only [KernelRuns.step, made, Option.map_some] at next
    obtain rfl := Option.some.inj next
    exact .timer t ready pending state
  | sched =>
    obtain rfl := Option.some.inj next
    exact .sched
  | lock =>
    obtain rfl := Option.some.inj next
    exact .lock
  | unlock =>
    obtain rfl := Option.some.inj next
    exact .unlock

end

end GreenPower.KernelRuns
