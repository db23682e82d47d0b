import GreenPower.KernelLists

set_option autoImplicit false

/-!
The kernel is consistent: a task is in the ready list of its priority, or in the pend list of one
group, or deleted, as its state says, and its timer runs if it waits with a timeout. One lemma for
each service says what it does to the control blocks, and that nothing in it fails.
-/
namespace GreenPower.KernelInvariant
open LinkedList KernelServices KernelLists

def Compiled (mode : FlagMode) : Prop := mode = .setAll ∨ mode = .setAny

instance (mode : FlagMode) : Decidable (Compiled mode) := by
  unfold Compiled
  infer_instance

/-- A wait with a timeout starts its timer. -/
def Delayed (timeout : UInt32) : Prop := timeout > 0 → delayOf timeout ≠ 0

theorem delayOf_toNat (timeout : UInt32) :
    (delayOf timeout).toNat = (timeout.toNat * 1024 + 999) / 1000 % 2 ^ 32 := by
  have small := timeout.toNat_lt
  have product : (timeout.toUInt64 * slSleeptimerGetTimerFrequency).toNat = timeout.toNat * 1024 := by
    rw [UInt64.toNat_mul, UInt32.toNat_toUInt64]
    change timeout.toNat * 1024 % 2 ^ 64 = _
    omega
  have sum : (timeout.toUInt64 * slSleeptimerGetTimerFrequency + (osCfgTickRateHz - 1)).toNat =
      timeout.toNat * 1024 + 999 := by
    rw [UInt64.toNat_add, product]
    change (timeout.toNat * 1024 + 999) % 2 ^ 64 = _
    omega
  unfold delayOf
  rw [UInt64.toNat_toUInt32, UInt64.toNat_div, sum]
  rfl

/-- There is one timeout whose delay comes to 0. -/
theorem delayed_iff {timeout : UInt32} : Delayed timeout ↔ timeout ≠ 4194304000 := by
  have small := timeout.toNat_lt
  have value : timeout = 4194304000 ↔ timeout.toNat = 4194304000 := UInt32.toNat_inj.symm
  have zero : delayOf timeout = 0 ↔ (timeout.toNat * 1024 + 999) / 1000 % 2 ^ 32 = 0 := by
    rw [← UInt32.toNat_inj, delayOf_toNat]
    rfl
  have some : timeout > 0 ↔ 0 < timeout.toNat := UInt32.lt_iff_toNat_lt
  unfold Delayed
  rw [ne_eq, ne_eq, value, zero, some]
  omega

instance (timeout : UInt32) : Decidable (Delayed timeout) := decidable_of_iff _ delayed_iff.symm

structure Sound {γ : Type} (tcb : Tcb γ) : Prop where
  state : tcb.taskState = .rdy ∨ tcb.taskState = .pend ∨ tcb.taskState = .pendTimeout ∨
    tcb.taskState = .del
  pends : tcb.pendObjPtr ≠ none ↔ tcb.taskState = .pend ∨ tcb.taskState = .pendTimeout
  timer : tcb.timer = true ↔ tcb.taskState = .pendTimeout
  mode : tcb.pendObjPtr ≠ none → Compiled tcb.flagsOpt.mode

section
variable {τ γ : Type}

structure Consistent (k : Kernel τ γ) (rdy : Prio → List τ) (waiting : γ → List τ) : Prop where
  ready : ReadyLists (fun t => (k.tcb t).prio) k.ready rdy
  pend : PendLists (fun t => (k.tcb t).prio) (fun t => (k.tcb t).pendObjPtr) k.pending waiting
  mem_ready : ∀ t, t ∈ rdy (k.tcb t).prio ↔ (k.tcb t).taskState = .rdy
  sound : ∀ t, Sound (k.tcb t)

variable {k : Kernel τ γ} {rdy : Prio → List τ} {waiting : γ → List τ} {t : τ} {g : γ}

theorem Consistent.ready_iff (h : Consistent k rdy waiting) (p : Prio) :
    t ∈ rdy p ↔ (k.tcb t).taskState = .rdy ∧ (k.tcb t).prio = p := by
  constructor
  · intro here
    have own := h.ready.own p t here
    subst own
    exact ⟨(h.mem_ready t).mp here, rfl⟩
  · rintro ⟨state, rfl⟩
    exact (h.mem_ready t).mpr state

def readied (k : Kernel τ γ) (t : τ) (l : List τ) : List τ :=
  if (k.tcb t).prio.val = k.osPrioCur then l ++ [t] else t :: l

theorem mem_readied {u : τ} {l : List τ} : u ∈ readied k t l ↔ u = t ∨ u ∈ l := by
  unfold readied
  split_ifs
  · rw [List.mem_append, List.mem_singleton, or_comm]
  · rw [List.mem_cons]

variable [DecidableEq τ]

theorem field_update {β : Type} (f : Tcb γ → β) (tcb : τ → Tcb γ) (t : τ) (x : Tcb γ) :
    (fun u => f (Function.update tcb t x u)) = Function.update (fun u => f (tcb u)) t (f x) := by
  funext u
  exact Function.apply_update (fun _ => f) tcb t x u

theorem field_kept {β : Type} (f : Tcb γ → β) {tcb : τ → Tcb γ} {t : τ} {x : Tcb γ}
    (same : f x = f (tcb t)) : (fun u => f (Function.update tcb t x u)) = fun u => f (tcb u) := by
  rw [field_update, same, Function.update_eq_self]

theorem sound_update {x : Tcb γ} (h : ∀ u, Sound (k.tcb u)) (new : Sound x) (u : τ) :
    Sound (Function.update k.tcb t x u) := by
  by_cases same : u = t
  · subst same
    rw [Function.update_self]
    exact new
  · rw [Function.update_of_ne same]
    exact h u

/-- The first of the tasks with the current priority stays the first. -/
def HeadsKept (k : Kernel τ γ) (ready : Ready τ) : Prop :=
  ∀ p x, p.val = k.osPrioCur → (k.ready.osRdyList p).head = some x →
    (ready.osRdyList p).head = some x

omit [DecidableEq τ] in
theorem headsKept_append (h : ReadyLists (fun u => (k.tcb u).prio) k.ready rdy) {ready : Ready τ}
    {rdy' : Prio → List τ} {prioOf : τ → Prio} (after : ReadyLists prioOf ready rdy')
    (kept : ∀ p, p.val = k.osPrioCur → ∃ l, rdy' p = rdy p ++ l) : HeadsKept k ready := by
  intro p x now head
  obtain ⟨l, grown⟩ := kept p now
  rw [(h.linked p).head] at head
  rw [(after.linked p).head, grown, List.head?_append, head]
  rfl

theorem osRdyListInsert_spec (h : ReadyLists (fun u => (k.tcb u).prio) k.ready rdy)
    (new : t ∉ rdy (k.tcb t).prio) :
    ∃ ready, osRdyListInsert t k = some { k with ready := ready } ∧
      ReadyLists (fun u => (k.tcb u).prio) ready
        (Function.update rdy (k.tcb t).prio (readied k t (rdy (k.tcb t).prio))) ∧
      HeadsKept k ready := by
  have linked : Linked (osPrioInsert (k.tcb t).prio k.ready).links
      ((osPrioInsert (k.tcb t).prio k.ready).osRdyList (k.tcb t).prio) (rdy (k.tcb t).prio) :=
    h.linked (k.tcb t).prio
  have kept (p : Prio) (now : p.val = k.osPrioCur) : ∃ l,
      Function.update rdy (k.tcb t).prio (readied k t (rdy (k.tcb t).prio)) p = rdy p ++ l := by
    by_cases same : p = (k.tcb t).prio
    · rw [same, Function.update_self]
      unfold readied
      rw [if_pos (same ▸ now)]
      exact ⟨_, rfl⟩
    · rw [Function.update_of_ne same]
      exact ⟨[], (List.append_nil _).symm⟩
  unfold osRdyListInsert
  by_cases current : (k.tcb t).prio.val = k.osPrioCur
  · have here : rdy (k.tcb t).prio = rdy (k.tcb t).prio ++ [] := (List.append_nil _).symm
    have after := h.insert here (here ▸ new)
    simp only [if_pos current, osRdyListInsertTail_eq linked, Option.map_some]
    simp only [readied, if_pos current] at kept ⊢
    exact ⟨_, rfl, after, headsKept_append h after kept⟩
  · have after := h.insert (t := t) (u := []) rfl new
    simp only [if_neg current, osRdyListInsertHead_eq linked new]
    simp only [readied, if_neg current] at kept ⊢
    exact ⟨_, rfl, after, headsKept_append h after kept⟩

@[simp] theorem setTcb_self (f : Tcb γ → Tcb γ) : (setTcb t f k).tcb t = f (k.tcb t) := by
  change Function.update k.tcb t (f (k.tcb t)) t = _
  rw [Function.update_self]

theorem setTcb_setTcb (f f' : Tcb γ → Tcb γ) :
    setTcb t f' (setTcb t f k) = setTcb t (fun tcb => f' (f tcb)) k := by
  change ({ k with tcb := Function.update (Function.update k.tcb t _) t _ } : Kernel τ γ) = _
  rw [setTcb_self, Function.update_idem]
  rfl

theorem osRdyListInsert_same {k' : Kernel τ γ} {ready : Ready τ}
    (prio : (k'.tcb t).prio = (k.tcb t).prio) (lists : k'.ready = k.ready)
    (current : k'.osPrioCur = k.osPrioCur)
    (inserted : osRdyListInsert t k = some { k with ready := ready }) :
    osRdyListInsert t k' = some { k' with ready := ready } := by
  unfold osRdyListInsert at inserted ⊢
  rw [prio, lists, current]
  by_cases same : (k.tcb t).prio.val = k.osPrioCur
  · simp only [if_pos same] at inserted ⊢
    obtain ⟨r, tail, made⟩ := Option.map_eq_some_iff.mp inserted
    obtain rfl : r = ready := congrArg Kernel.ready made
    rw [tail]
    rfl
  · simp only [if_neg same] at inserted ⊢
    obtain rfl := congrArg Kernel.ready (Option.some.inj inserted)
    rfl

theorem osRdyListInsert_setTcb {f : Tcb γ → Tcb γ} {ready : Ready τ}
    (prio : (f (k.tcb t)).prio = (k.tcb t).prio)
    (inserted : osRdyListInsert t k = some { k with ready := ready }) :
    osRdyListInsert t (setTcb t f k) = some (setTcb t f { k with ready := ready }) :=
  osRdyListInsert_same ((congrArg Tcb.prio (setTcb_self f)).trans prio) rfl rfl inserted

/-- A control block whose links and state stay. -/
theorem Consistent.touch (h : Consistent k rdy waiting) {x : Tcb γ} (prio : x.prio = (k.tcb t).prio)
    (state : x.taskState = (k.tcb t).taskState) (pends : x.pendObjPtr = (k.tcb t).pendObjPtr)
    (sound : Sound x) : Consistent { k with tcb := Function.update k.tcb t x } rdy waiting where
  ready := by
    change ReadyLists (fun u => (Function.update k.tcb t x u).prio) k.ready rdy
    rw [field_kept Tcb.prio prio]
    exact h.ready
  pend := by
    change PendLists (fun u => (Function.update k.tcb t x u).prio)
      (fun u => (Function.update k.tcb t x u).pendObjPtr) k.pending waiting
    rw [field_kept Tcb.prio prio, field_kept Tcb.pendObjPtr pends]
    exact h.pend
  mem_ready := by
    intro u
    have prios := congrFun (field_kept Tcb.prio prio) u
    have states := congrFun (field_kept Tcb.taskState state) u
    change u ∈ rdy (Function.update k.tcb t x u).prio ↔ (Function.update k.tcb t x u).taskState = .rdy
    simp only [prios, states]
    exact h.mem_ready u
  sound := sound_update h.sound sound

/-- A task that gets ready and pends no more. -/
theorem Consistent.wake (h : Consistent k rdy waiting) {x : Tcb γ} {ready : Ready τ}
    {pending : Pending τ γ} {waiting' : γ → List τ} (prio : x.prio = (k.tcb t).prio)
    (state : x.taskState = .rdy) (sound : Sound x) (before : (k.tcb t).taskState ≠ .rdy)
    (lists : ReadyLists (fun u => (k.tcb u).prio) ready
      (Function.update rdy (k.tcb t).prio (readied k t (rdy (k.tcb t).prio))))
    (pend : PendLists (fun u => (k.tcb u).prio)
      (Function.update (fun u => (k.tcb u).pendObjPtr) t x.pendObjPtr) pending waiting') :
    Consistent { k with tcb := Function.update k.tcb t x, ready := ready, pending := pending }
      (Function.update rdy (k.tcb t).prio (readied k t (rdy (k.tcb t).prio))) waiting' where
  ready := by
    change ReadyLists (fun u => (Function.update k.tcb t x u).prio) ready _
    rw [field_kept Tcb.prio prio]
    exact lists
  pend := by
    change PendLists (fun u => (Function.update k.tcb t x u).prio)
      (fun u => (Function.update k.tcb t x u).pendObjPtr) pending _
    rw [field_kept Tcb.prio prio, field_update Tcb.pendObjPtr]
    exact pend
  mem_ready := by
    intro u
    change u ∈ Function.update rdy _ _ (Function.update k.tcb t x u).prio ↔
      (Function.update k.tcb t x u).taskState = .rdy
    by_cases same : u = t
    · subst same
      rw [Function.update_self, prio, Function.update_self, mem_readied]
      exact iff_of_true (Or.inl rfl) state
    · rw [Function.update_of_ne same, ← h.mem_ready]
      by_cases list : (k.tcb u).prio = (k.tcb t).prio
      · rw [list, Function.update_self, mem_readied]
        simp [same]
      · rw [Function.update_of_ne list]
  sound := sound_update h.sound sound

variable [DecidableEq γ]

def granted (flagsRdy : UInt32) (tcb : Tcb γ) : Tcb γ :=
  { tcb with
    flagsRdy := flagsRdy
    pendStatus := .ok
    pendOn := .nothing
    pendObjPtr := none
    taskState := .rdy
    timer := false }

omit [DecidableEq γ] in
theorem sound_rdy {x : Tcb γ} (state : x.taskState = .rdy) (pends : x.pendObjPtr = none)
    (timer : x.timer = false) : Sound x where
  state := Or.inl state
  pends := by simp [state, pends]
  timer := by simp [state, timer]
  mode := fun some => absurd pends some

theorem osPendListRemove_setTcb {f : Tcb γ → Tcb γ} {pending : Pending τ γ}
    (pends : (f (k.tcb t)).pendObjPtr = some g) (unlinked : unlink g t k.pending = some pending) :
    osPendListRemove t (setTcb t f k) =
      some (setTcb t (fun tcb => { f tcb with pendObjPtr := none })
        { k with pending := pending }) := by
  unfold osPendListRemove
  rw [setTcb_self, pends]
  change (unlink g t k.pending).map _ = _
  rw [unlinked]
  exact congrArg some (setTcb_setTcb (k := { k with pending := pending }) f
    (fun tcb => { tcb with pendObjPtr := none }))

theorem osFlagTaskRdy_spec (h : Consistent k rdy waiting) (pends : (k.tcb t).pendObjPtr = some g)
    (flagsRdy : UInt32) : ∃ ready pending rdy',
      osFlagTaskRdy t flagsRdy k = some { k with
        tcb := Function.update k.tcb t (granted flagsRdy (k.tcb t))
        ready := ready
        pending := pending } ∧
      Consistent { k with
        tcb := Function.update k.tcb t (granted flagsRdy (k.tcb t))
        ready := ready
        pending := pending } rdy' (Function.update waiting g ((waiting g).erase t)) ∧
      HeadsKept k ready := by
  have sound := h.sound t
  have state := sound.pends.mp (by simp [pends])
  have unready : (k.tcb t).taskState ≠ .rdy := by
    rcases state with state | state <;> simp [state]
  have out : t ∉ rdy (k.tcb t).prio := fun here => unready ((h.mem_ready t).mp here)
  obtain ⟨ready, inserted, lists, heads⟩ := osRdyListInsert_spec h.ready out
  obtain ⟨pending, unlinked, pend⟩ := h.pend.remove pends
  refine ⟨ready, pending, _, ?_, h.wake rfl rfl (sound_rdy rfl rfl rfl) unready lists pend, heads⟩
  unfold osFlagTaskRdy
  rcases state with state | state
  · have still : (k.tcb t).timer = false := by
      rw [← Bool.not_eq_true, sound.timer, state]
      simp
    simp only [setTcb_self, state, Option.bind_some, reduceCtorEq, if_false]
    rw [osRdyListInsert_setTcb (by rfl) inserted, Option.map_some, Option.bind_some, setTcb_setTcb]
    refine (osPendListRemove_setTcb (k := { k with ready := ready }) pends unlinked).trans ?_
    simp [setTcb, granted, still]
  · have running : (k.tcb t).timer = true := sound.timer.mpr state
    simp only [setTcb_self, state, if_true, stopTimer, running, Option.bind_some]
    rw [setTcb_setTcb, osRdyListInsert_setTcb (by rfl) inserted, Option.map_some, Option.bind_some,
      setTcb_setTcb]
    refine (osPendListRemove_setTcb (k := { k with ready := ready }) pends unlinked).trans ?_
    simp [setTcb, granted]

/-- What a post leaves of a control block whose task waits for flags of its group. -/
def afterPost (flags : UInt32) (tcb : Tcb γ) : Tcb γ :=
  match flagsReady tcb.flagsOpt.mode flags tcb.flagsPend with
  | some (some flagsRdy) => granted flagsRdy tcb
  | _ => tcb

def satisfied (flags : UInt32) (tcb : Tcb γ) : Bool :=
  match flagsReady tcb.flagsOpt.mode flags tcb.flagsPend with
  | some (some _) => true
  | _ => false

omit [DecidableEq γ] in
theorem flagsReady_compiled {mode : FlagMode} (compiled : Compiled mode) (present wanted : UInt32) :
    ∃ found, flagsReady mode present wanted = some found := by
  rcases compiled with rfl | rfl
  · exact ⟨_, rfl⟩
  · exact ⟨_, rfl⟩

def postTcb (flags : UInt32) (rest : List τ) (tcb : τ → Tcb γ) : τ → Tcb γ :=
  fun u => if u ∈ rest then afterPost flags (tcb u) else tcb u

def unsatisfied (flags : UInt32) (rest : List τ) (tcb : τ → Tcb γ) : List τ :=
  rest.filter (fun u => !satisfied flags (tcb u))

omit [DecidableEq γ] in
theorem postTcb_cons (flags : UInt32) {rest : List τ} (out : t ∉ rest) (tcb : τ → Tcb γ) :
    postTcb flags (t :: rest) tcb =
      postTcb flags rest (Function.update tcb t (afterPost flags (tcb t))) := by
  funext u
  unfold postTcb
  by_cases same : u = t
  · subst same
    simp [out]
  · simp [same]

omit [DecidableEq γ] in
theorem unsatisfied_update (flags : UInt32) {rest : List τ} (out : t ∉ rest) (tcb : τ → Tcb γ)
    (x : Tcb γ) : unsatisfied flags rest (Function.update tcb t x) = unsatisfied flags rest tcb := by
  apply List.filter_congr
  intro u here
  have other : u ≠ t := by
    rintro rfl
    exact out here
  rw [Function.update_of_ne other]

/-- The loop, with the tasks before it that stay, and those from it on. -/
theorem readyWaiters_spec {stay rest : List τ} {fuel : ℕ} (h : Consistent k rdy waiting)
    (list : waiting g = stay ++ rest) (enough : rest.length ≤ fuel) :
    ∃ ready pending rdy',
      readyWaiters g fuel rest.head? k = some
        { k with tcb := postTcb (k.flags g) rest k.tcb, ready := ready, pending := pending } ∧
      Consistent
        { k with tcb := postTcb (k.flags g) rest k.tcb, ready := ready, pending := pending } rdy'
        (Function.update waiting g (stay ++ unsatisfied (k.flags g) rest k.tcb)) ∧
      HeadsKept k ready := by
  induction rest generalizing k rdy waiting stay fuel with
  | nil =>
    have same : postTcb (k.flags g) [] k.tcb = k.tcb := by
      funext u
      simp [postTcb]
    refine ⟨k.ready, k.pending, rdy, ?_, ?_, fun _ _ _ head => head⟩
    · rw [same]
      cases fuel <;> rfl
    · rw [same]
      change Consistent k rdy (Function.update waiting g (stay ++ []))
      rw [← list, Function.update_eq_self]
      exact h
  | cons t rest ih =>
    cases fuel with
    | zero => simp at enough
    | succ fuel =>
      have linked := h.pend.linked g
      rw [list] at linked
      have next := linked.next
      have apart := (List.nodup_cons.mp (List.nodup_middle.mp linked.nodup)).1
      rw [List.mem_append, not_or] at apart
      have pends : (k.tcb t).pendObjPtr = some g := by
        rw [← h.pend.mem, list]
        simp
      obtain ⟨found, looked⟩ := flagsReady_compiled ((h.sound t).mode (by simp [pends]))
        (k.flags g) (k.tcb t).flagsPend
      have less : rest.length ≤ fuel := by simpa using enough
      rw [postTcb_cons _ apart.2]
      cases found with
      | none =>
        have same : afterPost (k.flags g) (k.tcb t) = k.tcb t := by
          simp [afterPost, looked]
        have stays : unsatisfied (k.flags g) (t :: rest) k.tcb =
            t :: unsatisfied (k.flags g) rest k.tcb := by
          simp [unsatisfied, satisfied, looked]
        have turn : readyWaiters g (fuel + 1) (t :: rest).head? k =
            readyWaiters g fuel rest.head? k := by
          simp only [List.head?_cons, readyWaiters, looked, next]
        have moved : waiting g = stay ++ [t] ++ rest := by simpa using list
        rw [same, Function.update_eq_self, stays, turn]
        simpa using ih h moved less
      | some flagsRdy =>
        have same : afterPost (k.flags g) (k.tcb t) = granted flagsRdy (k.tcb t) := by
          simp [afterPost, looked]
        have goes : unsatisfied (k.flags g) (t :: rest) k.tcb =
            unsatisfied (k.flags g) rest k.tcb := by
          simp [unsatisfied, satisfied, looked]
        obtain ⟨ready, pending, rdy', made, after, heads⟩ := osFlagTaskRdy_spec h pends flagsRdy
        have erased : (waiting g).erase t = stay ++ rest := by
          rw [list, List.erase_append_right _ apart.1, List.erase_cons_head]
        have list' : Function.update waiting g ((waiting g).erase t) g = stay ++ rest := by
          rw [Function.update_self, erased]
        obtain ⟨ready', pending', rdy'', loop, last, heads'⟩ := ih after list' less
        rw [Function.update_idem] at last
        have turn : readyWaiters g (fuel + 1) (t :: rest).head? k =
            (osFlagTaskRdy t flagsRdy k).bind (readyWaiters g fuel rest.head?) := by
          simp only [List.head?_cons, readyWaiters, looked, next]
        rw [same, goes, turn, made, Option.bind_some]
        rw [unsatisfied_update _ apart.2] at last
        exact ⟨ready', pending', rdy'', loop, last,
          fun p x now head => heads' p x now (heads p x now head)⟩

def posted (opt : PostOpt) (old flags : UInt32) : UInt32 :=
  match opt with
  | .flagSet => old ||| flags
  | .flagClr => old &&& ~~~flags

theorem osFlagPost_spec [Fintype τ] (h : Consistent k rdy waiting) (flags : UInt32)
    (opt : PostOpt) {flags' : UInt32} (new : flags' = posted opt (k.flags g) flags) :
    ∃ ready pending rdy' waiting',
      osFlagPost g flags opt k = some { k with
        tcb := fun u =>
          if (k.tcb u).pendObjPtr = some g then afterPost flags' (k.tcb u) else k.tcb u
        flags := Function.update k.flags g flags'
        ready := ready
        pending := pending } ∧
      Consistent { k with
        tcb := fun u =>
          if (k.tcb u).pendObjPtr = some g then afterPost flags' (k.tcb u) else k.tcb u
        flags := Function.update k.flags g flags'
        ready := ready
        pending := pending } rdy' waiting' ∧ HeadsKept k ready := by
  have changed : Consistent { k with flags := Function.update k.flags g flags' } rdy waiting :=
    ⟨h.ready, h.pend, h.mem_ready, h.sound⟩
  have linked := h.pend.linked g
  have parts : waiting g = [] ++ waiting g := rfl
  obtain ⟨ready, pending, rdy', loop, after, heads⟩ :=
    readyWaiters_spec changed parts linked.nodup.length_le_card
  have mem : postTcb (Function.update k.flags g flags' g) (waiting g) k.tcb = fun u =>
      if (k.tcb u).pendObjPtr = some g then afterPost flags' (k.tcb u) else k.tcb u := by
    funext u
    unfold postTcb
    rw [Function.update_self]
    simp only [h.pend.mem]
  have unfolded : osFlagPost g flags opt k = readyWaiters g (Fintype.card τ) (waiting g).head?
      { k with flags := Function.update k.flags g flags' } := by
    unfold osFlagPost
    rw [linked.head, new]
    rfl
  rw [← mem, unfolded]
  exact ⟨ready, pending, rdy', _, loop, after, heads⟩

def blocked (g : γ) (flags : UInt32) (opt : PendOpt) (timeout : UInt32) (tcb : Tcb γ) : Tcb γ :=
  { tcb with
    flagsPend := flags
    flagsOpt := opt
    flagsRdy := 0
    pendOn := .flag
    pendStatus := .ok
    pendObjPtr := some g
    taskState := if timeout > 0 then .pendTimeout else .pend
    timer := decide (timeout > 0) }

omit [DecidableEq γ] in
theorem sound_blocked (flags : UInt32) {opt : PendOpt} (compiled : Compiled opt.mode)
    (timeout : UInt32) (tcb : Tcb γ) : Sound (blocked g flags opt timeout tcb) := by
  unfold blocked
  by_cases some : timeout > 0
  · constructor <;> simp [some, compiled]
  · constructor <;> simp [some, compiled]

theorem startTimer_eq (still : (k.tcb t).timer = false) {delay : UInt32} (later : delay ≠ 0) :
    startTimer t delay k = some (setTcb t (fun tcb => { tcb with timer := true }) k) := by
  unfold startTimer
  rw [if_neg (by rw [still]; exact Bool.false_ne_true), if_neg later]

theorem osTaskBlock_eq (still : (k.tcb t).timer = false) {timeout : UInt32}
    (delayed : Delayed timeout) :
    osTaskBlock t timeout k = some (setTcb t (fun tcb =>
        { tcb with
          timer := decide (timeout > 0)
          taskState := if timeout > 0 then .pendTimeout else .pend })
      { k with ready := osRdyListRemove (k.tcb t).prio t k.ready }) := by
  unfold osTaskBlock
  by_cases some : timeout > 0
  · simp [some, startTimer_eq still (delayed some), setTcb]
  · simp [some, setTcb, still]

theorem osFlagBlock_eq [Fintype τ] {pending : Pending τ γ} (still : (k.tcb t).timer = false)
    (inserted : osPendListInsertPrio (fun u => (k.tcb u).prio) g t k.pending = some pending)
    (flags : UInt32) (opt : PendOpt) {timeout : UInt32} (delayed : Delayed timeout) :
    osFlagBlock t g flags opt timeout k = some { k with
      tcb := Function.update k.tcb t (blocked g flags opt timeout (k.tcb t))
      ready := osRdyListRemove (k.tcb t).prio t k.ready
      pending := pending } := by
  have late (k' : Kernel τ γ) (lists : k'.pending = k.pending)
      (prios : ∀ u, (k'.tcb u).prio = (k.tcb u).prio) :
      osPendListInsertPrio (fun u => (k'.tcb u).prio) g t k'.pending = some pending := by
    rw [funext prios, lists]
    exact inserted
  unfold osFlagBlock osPend
  rw [setTcb_setTcb]
  simp only []
  rw [osTaskBlock_eq (by rw [setTcb_self]; exact still) delayed, Option.bind_some, late]
  · simp [setTcb, blocked]
  · rfl
  · intro u
    by_cases same : u = t
    · subst same
      simp
    · simp [setTcb, same]

theorem osFlagBlock_spec [Fintype τ] (h : Consistent k rdy waiting)
    (state : (k.tcb t).taskState = .rdy) (flags : UInt32) {opt : PendOpt}
    (compiled : Compiled opt.mode) {timeout : UInt32} (delayed : Delayed timeout) :
    ∃ ready pending rdy' waiting',
      osFlagBlock t g flags opt timeout k = some { k with
        tcb := Function.update k.tcb t (blocked g flags opt timeout (k.tcb t))
        ready := ready
        pending := pending } ∧
      Consistent { k with
        tcb := Function.update k.tcb t (blocked g flags opt timeout (k.tcb t))
        ready := ready
        pending := pending } rdy' waiting' := by
  have sound := h.sound t
  have unpending : (k.tcb t).pendObjPtr = none := by
    by_contra pends
    have other := sound.pends.mp pends
    simp [state] at other
  have still : (k.tcb t).timer = false := by
    rw [← Bool.not_eq_true, sound.timer, state]
    simp
  obtain ⟨u, v, split⟩ := List.append_of_mem ((h.mem_ready t).mpr state)
  have lists := h.ready.remove split
  obtain ⟨pending, inserted, pend⟩ := h.pend.insert (g := g) unpending
  have linked := h.ready.linked (k.tcb t).prio
  rw [split] at linked
  have out := (List.nodup_cons.mp (List.nodup_middle.mp linked.nodup)).1
  have prios : (fun u => (Function.update k.tcb t
      (blocked g flags opt timeout (k.tcb t)) u).prio) = fun u => (k.tcb u).prio :=
    field_kept Tcb.prio rfl
  refine ⟨osRdyListRemove (k.tcb t).prio t k.ready, pending,
    Function.update rdy (k.tcb t).prio (u ++ v),
    Function.update waiting g (insertPrio (fun u => (k.tcb u).prio) t (waiting g)), ?_, ?_, ?_, ?_,
    sound_update h.sound (sound_blocked flags compiled timeout _)⟩
  · exact osFlagBlock_eq still inserted flags opt delayed
  · change ReadyLists (fun u => (Function.update k.tcb t _ u).prio) _ _
    rw [prios]
    exact lists
  · change PendLists (fun u => (Function.update k.tcb t _ u).prio)
      (fun u => (Function.update k.tcb t _ u).pendObjPtr) pending _
    rw [prios, field_update Tcb.pendObjPtr]
    exact pend
  · intro x
    change x ∈ Function.update rdy _ _ (Function.update k.tcb t _ x).prio ↔
      (Function.update k.tcb t _ x).taskState = .rdy
    by_cases same : x = t
    · subst same
      rw [Function.update_self]
      change x ∈ Function.update rdy (k.tcb x).prio _ (k.tcb x).prio ↔
        (if timeout > 0 then TaskState.pendTimeout else .pend) = .rdy
      rw [Function.update_self]
      refine iff_of_false out ?_
      split_ifs <;> simp
    · rw [Function.update_of_ne same, ← h.mem_ready]
      by_cases list : (k.tcb x).prio = (k.tcb t).prio
      · rw [list, Function.update_self, split]
        simp [same]
      · rw [Function.update_of_ne list]

def timedOut (tcb : Tcb γ) : Tcb γ :=
  { tcb with
    timer := false
    pendObjPtr := none
    taskState := .rdy
    pendStatus := .timeout
    pendOn := .nothing }

theorem osTimerCallback_spec (h : Consistent k rdy waiting)
    (state : (k.tcb t).taskState = .pendTimeout) : ∃ ready pending rdy' waiting',
      osTimerCallback t k = some { k with
        tcb := Function.update k.tcb t (timedOut (k.tcb t))
        ready := ready
        pending := pending } ∧
      Consistent { k with
        tcb := Function.update k.tcb t (timedOut (k.tcb t))
        ready := ready
        pending := pending } rdy' waiting' ∧ HeadsKept k ready := by
  have unready : (k.tcb t).taskState ≠ .rdy := by simp [state]
  have out : t ∉ rdy (k.tcb t).prio := fun here => unready ((h.mem_ready t).mp here)
  obtain ⟨g, pends⟩ := Option.ne_none_iff_exists'.mp ((h.sound t).pends.mpr (Or.inr state))
  obtain ⟨ready, inserted, lists, heads⟩ := osRdyListInsert_spec h.ready out
  obtain ⟨pending, unlinked, pend⟩ := h.pend.remove pends
  refine ⟨ready, pending, _, _, ?_, h.wake rfl rfl (sound_rdy rfl rfl rfl) unready lists pend, heads⟩
  have early : osRdyListInsert t { k with pending := pending } =
      some { k with pending := pending, ready := ready } :=
    osRdyListInsert_same (k := k) rfl rfl rfl inserted
  unfold osTimerCallback
  simp only [setTcb_self, state]
  rw [osPendListRemove_setTcb (by exact pends) unlinked, Option.bind_some,
    osRdyListInsert_setTcb (by rfl) early, Option.map_some, setTcb_setTcb, setTcb_setTcb]
  rfl

def created (prio : Prio) : Tcb γ :=
  ⟨prio, .rdy, .ok, .nothing, none, 0, 0, ⟨.clrAll, false, false⟩, false⟩

omit [DecidableEq γ] in
theorem osTaskCreate_spec (h : Consistent k rdy waiting) (state : (k.tcb t).taskState = .del)
    (prio : Prio) : ∃ ready pending rdy',
      osTaskCreate t prio k = some { k with
        tcb := Function.update k.tcb t (created prio)
        ready := ready
        pending := pending } ∧
      Consistent { k with
        tcb := Function.update k.tcb t (created prio)
        ready := ready
        pending := pending } rdy' waiting ∧ HeadsKept k ready := by
  have unready (p : Prio) : t ∉ rdy p := by
    intro here
    have ready := ((h.ready_iff p).mp here).1
    simp [state] at ready
  have unpending : (k.tcb t).pendObjPtr = none := by
    by_contra pends
    have other := (h.sound t).pends.mp pends
    simp [state] at other
  have out (g : γ) : t ∉ waiting g := by
    intro here
    rw [h.pend.mem, unpending] at here
    cases here
  have others (u : τ) (other : u ≠ t) : Function.update k.tcb t (created prio) u = k.tcb u :=
    Function.update_of_ne other _ _
  have ready : ReadyLists (fun u => (Function.update k.tcb t (created prio) u).prio)
      { k.ready with links := (k.ready.links.setNext t none).setPrev t none } rdy := by
    refine ⟨fun p => ?_, fun p u here => ?_, h.ready.table⟩
    · exact ((h.ready.linked p).setNext (unready p) none).setPrev (unready p) none
    · have other : u ≠ t := by
        rintro rfl
        exact unready p here
      rw [others u other]
      exact h.ready.own p u here
  have own : (Function.update k.tcb t (created prio) t).prio = prio := by
    rw [Function.update_self]
    rfl
  have linked := ready.linked prio
  have here : rdy prio = rdy prio ++ [] := (List.append_nil _).symm
  have lists := ready.insert (t := t) (by rw [own]; exact here) (here ▸ unready prio)
  rw [own] at lists
  have kept (p : Prio) (_ : p.val = k.osPrioCur) : ∃ l,
      Function.update rdy prio (rdy prio ++ [t]) p = rdy p ++ l := by
    by_cases same : p = prio
    · subst same
      rw [Function.update_self]
      exact ⟨_, rfl⟩
    · rw [Function.update_of_ne same]
      exact ⟨[], (List.append_nil _).symm⟩
  refine ⟨_, { k.pending with links := (k.pending.links.setNext t none).setPrev t none }, _, ?_,
    ⟨lists, ⟨fun g => ?_, fun g u => ?_, fun g => ?_⟩, fun u => ?_,
      sound_update h.sound (sound_rdy rfl rfl rfl)⟩, headsKept_append h.ready lists kept⟩
  · have tail := osRdyListInsertTail_eq (t := t) (r := osPrioInsert prio
      { k.ready with links := (k.ready.links.setNext t none).setPrev t none }) linked
    unfold osTaskCreate
    simp only [tail, Option.map_some]
    rfl
  · exact ((h.pend.linked g).setNext (out g) none).setPrev (out g) none
  · change u ∈ waiting g ↔ (Function.update k.tcb t (created prio) u).pendObjPtr = some g
    by_cases same : u = t
    · subst same
      rw [Function.update_self]
      exact iff_of_false (out g) nofun
    · rw [others u same]
      exact h.pend.mem g u
  · refine List.Pairwise.imp_of_mem (fun {u v} hu hv sorted => ?_) (h.pend.sorted g)
    have left : u ≠ t := by
      rintro rfl
      exact out g hu
    have right : v ≠ t := by
      rintro rfl
      exact out g hv
    change (Function.update k.tcb t _ u).prio ≤ (Function.update k.tcb t _ v).prio
    rw [others u left, others v right]
    exact sorted
  · change u ∈ Function.update rdy prio _ (Function.update k.tcb t (created prio) u).prio ↔
      (Function.update k.tcb t (created prio) u).taskState = .rdy
    by_cases same : u = t
    · subst same
      rw [own, Function.update_self, Function.update_self]
      exact iff_of_true (by simp) rfl
    · rw [others u same, ← h.mem_ready]
      by_cases list : (k.tcb u).prio = prio
      · rw [list, Function.update_self]
        simp [same]
      · rw [Function.update_of_ne list]

end

theorem consistent_osInit {τ γ : Type} :
    Consistent (osInit : Kernel τ γ) (fun _ => []) (fun _ => []) where
  ready := ⟨fun _ => linked_nil, by simp, by simp [osInit, marked]⟩
  pend := ⟨fun _ => linked_nil, by simp [osInit], by simp⟩
  mem_ready := by simp [osInit]
  sound := fun _ => ⟨by simp [osInit], by simp [osInit], by simp [osInit], by simp [osInit]⟩

end GreenPower.KernelInvariant
