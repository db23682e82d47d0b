import GreenPower.EventFlags
import GreenPower.KernelScheduling

set_option autoImplicit false

/-!
A group of the kernel whose tasks wait for any of their flags and consume them, and for which flags
are only set, is the abstract group of event flags: along each run, the posts, the pends, their
returns and the timeouts are those of the group, with the same flags returned.
-/
namespace GreenPower.KernelRefinement
open EventFlags Runs KernelServices KernelLists KernelInvariant KernelRuns KernelScheduling

structure Group (τ : Type) where
  group : FlagGroup τ (Fin 32)
  returned : List (τ × Finset (Fin 32))

inductive GroupMove (τ : Type) where
  | post (flags : Finset (Fin 32))
  | pend (t : τ) (mask : Finset (Fin 32))
  | resume (t : τ)
  | expire (t : τ)

section
variable {τ : Type} [DecidableEq τ]

def groupStart : Group τ := ⟨⟨∅, fun _ => .running⟩, []⟩

def groupStep (s : Group τ) : GroupMove τ → Option (Group τ)
  | .post flags => some { s with group := s.group.post flags }
  | .pend t mask =>
    match s.group.pend t mask with
    | (some found, group) => some ⟨group, (t, found) :: s.returned⟩
    | (none, group) => some { s with group := group }
  | .resume t => (s.group.resume t).map (fun r => ⟨r.2, (t, r.1) :: s.returned⟩)
  | .expire t => (s.group.expire t).map (fun group => { s with group := group })

def groupAllowed (s : Group τ) : GroupMove τ → Prop
  | .pend t _ => s.group.wait t = .running
  | _ => True

instance (s : Group τ) (m : GroupMove τ) : Decidable (groupAllowed s m) :=
  match m with
  | .pend t _ => inferInstanceAs (Decidable (s.group.wait t = .running))
  | .post _ | .resume _ | .expire _ => inferInstanceAs (Decidable True)

def Matches (a : Group τ) (moves : List (GroupMove τ)) (b : Group τ) : Prop :=
  follow groupStep groupAllowed a moves = some b

theorem Matches.none {a b : Group τ} (same : b = a) : Matches a [] b :=
  congrArg some same.symm

theorem Matches.one {a b : Group τ} {m : GroupMove τ} (allowed : groupAllowed a m)
    (next : groupStep a m = some b) : Matches a [m] b := by
  unfold Matches
  rw [follow_cons [] allowed next]
  rfl

end

def bits (x : UInt32) : Finset (Fin 32) :=
  Finset.univ.filter (fun i => x.toBitVec.getLsbD i = true)

theorem mem_bits {x : UInt32} {i : Fin 32} : i ∈ bits x ↔ x.toBitVec.getLsbD i = true := by
  simp [bits]

theorem bits_zero : bits 0 = ∅ := by
  ext i
  simp [mem_bits]

theorem bits_or (x y : UInt32) : bits (x ||| y) = bits x ∪ bits y := by
  ext i
  simp [mem_bits]

theorem bits_and (x y : UInt32) : bits (x &&& y) = bits x ∩ bits y := by
  ext i
  simp [mem_bits]

theorem bits_sdiff (x y : UInt32) : bits (x &&& ~~~y) = bits x \ bits y := by
  ext i
  simp [mem_bits]

theorem bits_nonempty {x : UInt32} : (bits x).Nonempty ↔ x ≠ 0 := by
  constructor
  · rintro some rfl
    rw [bits_zero] at some
    exact Finset.not_nonempty_empty some
  · intro some
    by_contra none
    apply some
    apply UInt32.toBitVec_inj.mp
    apply BitVec.eq_of_getLsbD_eq
    intro i inside
    have out : (⟨i, inside⟩ : Fin 32) ∉ bits x := by
      rw [Finset.not_nonempty_iff_eq_empty.mp none]
      simp
    rw [mem_bits, Bool.not_eq_true] at out
    rw [out]
    simp

section
variable {τ γ : Type} [DecidableEq γ]

instance (g : γ) : DecidablePred (inCall g)
  | .out => isFalse (by rintro ⟨_, here | here⟩ <;> cases here)
  | .blocked g' opt => decidable_of_iff (g' = g)
    ⟨fun same => ⟨opt, Or.inl (same ▸ rfl)⟩, by rintro ⟨_, here | here⟩ <;> cases here; rfl⟩
  | .resuming g' opt => decidable_of_iff (g' = g)
    ⟨fun same => ⟨opt, Or.inr (same ▸ rfl)⟩, by rintro ⟨_, here | here⟩ <;> cases here; rfl⟩

def waitOf (g : γ) (tcb : Tcb γ) (call : Call γ) : Wait (Fin 32) :=
  if tcb.pendObjPtr = some g then .pending (bits tcb.flagsPend)
  else if inCall g call ∧ tcb.pendStatus = .ok then .ready (bits tcb.flagsRdy)
  else .running

def returnedOf (g : γ) (returned : List (τ × γ × UInt32)) : List (τ × Finset (Fin 32)) :=
  (returned.filter (fun r => r.2.1 = g)).map (fun r => (r.1, bits r.2.2))

def view (g : γ) (s : Sys τ γ) : Group τ where
  group := ⟨bits (s.kernel.flags g), fun t => waitOf g (s.kernel.tcb t) (s.call t)⟩
  returned := returnedOf g s.returned

def Used (g : γ) : Move τ γ → Prop
  | .pend g' _ _ opt => g' = g → opt.mode = .setAny ∧ opt.consume = true
  | .post g' _ opt => g' = g → opt = .flagSet
  | _ => True

instance (g : γ) : DecidablePred (Used g : Move τ γ → Prop)
  | .pend _ _ _ _ => inferInstanceAs (Decidable (_ → _ ∧ _))
  | .post _ _ _ => inferInstanceAs (Decidable (_ → _))
  | .create _ _ | .start | .resched | .resume | .timer _ | .sched | .lock | .unlock =>
    inferInstanceAs (Decidable True)

structure Uses (g : γ) (s : Sys τ γ) : Prop where
  call : ∀ t opt, s.call t = .blocked g opt ∨ s.call t = .resuming g opt → opt.consume = true
  pend : ∀ t, (s.kernel.tcb t).pendObjPtr = some g → (s.kernel.tcb t).flagsOpt.mode = .setAny

variable {g g' : γ} {tcb : Tcb γ} {call : Call γ} {s s' : Sys τ γ} {m : Move τ γ} {t : τ}

theorem waitOf_pending (pends : tcb.pendObjPtr = some g) (call : Call γ) :
    waitOf g tcb call = .pending (bits tcb.flagsPend) := by
  unfold waitOf
  rw [if_pos pends]

theorem waitOf_ready (pends : tcb.pendObjPtr ≠ some g) (here : inCall g call)
    (ok : tcb.pendStatus = .ok) : waitOf g tcb call = .ready (bits tcb.flagsRdy) := by
  unfold waitOf
  rw [if_neg pends, if_pos ⟨here, ok⟩]

theorem waitOf_running (pends : tcb.pendObjPtr ≠ some g)
    (out : ¬(inCall g call ∧ tcb.pendStatus = .ok)) : waitOf g tcb call = .running := by
  unfold waitOf
  rw [if_neg pends, if_neg out]

theorem waitOf_out (pends : tcb.pendObjPtr ≠ some g) : waitOf g tcb .out = .running :=
  waitOf_running pends (fun here => not_inCall_out here.1)

theorem view_eq {a : Group τ} (flags : bits (s.kernel.flags g) = a.group.flags)
    (wait : ∀ u, waitOf g (s.kernel.tcb u) (s.call u) = a.group.wait u)
    (returned : returnedOf g s.returned = a.returned) : view g s = a := by
  unfold view
  rw [flags, funext wait, returned]

theorem returnedOf_own (t : τ) (flags : UInt32) (returned : List (τ × γ × UInt32)) :
    returnedOf g ((t, g, flags) :: returned) = (t, bits flags) :: returnedOf g returned := by
  simp [returnedOf]

theorem returnedOf_other (other : g' ≠ g) (t : τ) (flags : UInt32)
    (returned : List (τ × γ × UInt32)) :
    returnedOf g ((t, g', flags) :: returned) = returnedOf g returned := by
  simp [returnedOf, other]

theorem setAny_none {present wanted : UInt32}
    (looked : flagsReady .setAny present wanted = some none) :
    ¬(bits present ∩ bits wanted).Nonempty := by
  rw [← bits_and, bits_nonempty, not_not]
  by_contra some
  simp [flagsReady, some] at looked

theorem setAny_some {present wanted flagsRdy : UInt32}
    (looked : flagsReady .setAny present wanted = some (some flagsRdy)) :
    (bits present ∩ bits wanted).Nonempty ∧ bits flagsRdy = bits present ∩ bits wanted := by
  rw [← bits_and, bits_nonempty]
  simp only [flagsReady] at looked
  split_ifs at looked with some
  · obtain rfl : present &&& wanted = flagsRdy := by simpa using looked
    exact ⟨some, rfl⟩
  · simp at looked

theorem bits_leftOver {opt : PendOpt} (consume : opt.consume = true) (old flagsRdy : UInt32) :
    bits (leftOver opt old flagsRdy) = bits old \ bits flagsRdy := by
  unfold leftOver
  rw [if_pos consume, bits_sdiff]

variable [DecidableEq τ]

/-- What a move of the kernel is to the group `g`. -/
def groupMoves (g : γ) (s : Sys τ γ) : Move τ γ → List (GroupMove τ)
  | .pend g' flags _ opt =>
    match s.kernel.osTCBCurPtr with
    | none => []
    | some t => if g' = g ∧ ¬Refused s.kernel g' flags opt then [.pend t (bits flags)] else []
  | .resume =>
    match s.kernel.osTCBCurPtr with
    | none => []
    | some t =>
      match s.call t with
      | .resuming g' _ => if g' = g ∧ (s.kernel.tcb t).pendStatus = .ok then [.resume t] else []
      | _ => []
  | .post g' flags _ => if g' = g then [.post (bits flags)] else []
  | .timer t => if (s.kernel.tcb t).pendObjPtr = some g then [.expire t] else []
  | .create _ _ | .start | .resched | .sched | .lock | .unlock => []

omit [DecidableEq τ] in
theorem groupMoves_pend {flags timeout : UInt32} {opt : PendOpt}
    (current : s.kernel.osTCBCurPtr = some t) (free : ¬Refused s.kernel g' flags opt) :
    groupMoves g s (.pend g' flags timeout opt) =
      if g' = g then [.pend t (bits flags)] else [] := by
  unfold groupMoves
  simp only [current, free, not_false_eq_true, and_true]

omit [DecidableEq τ] in
theorem groupMoves_refused {flags : UInt32} {opt : PendOpt} (timeout : UInt32)
    (refused : Refused s.kernel g' flags opt) :
    groupMoves g s (.pend g' flags timeout opt) = [] := by
  unfold groupMoves
  simp only [refused, not_true_eq_false, and_false, if_false]
  split <;> rfl

omit [DecidableEq τ] in
theorem groupMoves_resume {opt : PendOpt} (current : s.kernel.osTCBCurPtr = some t)
    (call : s.call t = .resuming g' opt) : groupMoves g s .resume =
      if g' = g ∧ (s.kernel.tcb t).pendStatus = .ok then [.resume t] else [] := by
  unfold groupMoves
  simp only [current, call]

theorem matches_got {flags flagsRdy : UInt32} {opt : PendOpt} {x : Tcb γ}
    (unpending : (s.kernel.tcb t).pendObjPtr = none) (out : s.call t = .out)
    (pends : x.pendObjPtr = none)
    (used : g' = g → opt.mode = .setAny ∧ opt.consume = true)
    (looked : flagsReady opt.mode (s.kernel.flags g') flags = some (some flagsRdy)) :
    Matches (view g s) (if g' = g then [.pend t (bits flags)] else []) (view g { s with
      kernel := { s.kernel with
        tcb := Function.update s.kernel.tcb t x
        flags := Function.update s.kernel.flags g' (leftOver opt (s.kernel.flags g') flagsRdy) }
      returned := (t, g', flagsRdy) :: s.returned }) := by
  have running : waitOf g (s.kernel.tcb t) (s.call t) = .running := by
    rw [out]
    exact waitOf_out (by simp [unpending])
  have still : waitOf g x (s.call t) = .running := by
    rw [out]
    exact waitOf_out (by simp [pends])
  have waits (u : τ) : waitOf g (Function.update s.kernel.tcb t x u) (s.call u) =
      (view g s).group.wait u := by
    by_cases same : u = t
    · subst same
      rw [Function.update_self, still]
      exact running.symm
    · rw [Function.update_of_ne same]
      rfl
  by_cases own : g' = g
  · subst own
    obtain ⟨mode, consume⟩ := used rfl
    rw [mode] at looked
    obtain ⟨some, found⟩ := setAny_some looked
    rw [if_pos rfl]
    refine Matches.one running ?_
    have pend : (view g' s).group.pend t (bits flags) =
        (.some (bits flagsRdy), { (view g' s).group with
          flags := (view g' s).group.flags \ bits flagsRdy }) := by
      rw [found]
      unfold FlagGroup.pend
      rw [if_pos (show ((view g' s).group.flags ∩ bits flags).Nonempty from some)]
      rfl
    unfold groupStep
    simp only [pend]
    refine congrArg Option.some (view_eq ?_ waits (returnedOf_own t flagsRdy s.returned)).symm
    simp only [Function.update_self]
    exact bits_leftOver consume _ _
  · rw [if_neg own]
    refine Matches.none (view_eq ?_ waits (returnedOf_other own t flagsRdy s.returned))
    simp only [Function.update_of_ne (Ne.symm own)]
    rfl

theorem matches_block {flags timeout : UInt32} {opt : PendOpt} {ready : Ready τ}
    {pending : Pending τ γ} (unpending : (s.kernel.tcb t).pendObjPtr = none) (out : s.call t = .out)
    (used : g' = g → opt.mode = .setAny ∧ opt.consume = true)
    (looked : flagsReady opt.mode (s.kernel.flags g') flags = some none) :
    Matches (view g s) (if g' = g then [.pend t (bits flags)] else []) (view g { s with
      kernel := { s.kernel with
        tcb := Function.update s.kernel.tcb t (blocked g' flags opt timeout (s.kernel.tcb t))
        ready := ready
        pending := pending }
      call := Function.update s.call t (.blocked g' opt) }) := by
  have running : waitOf g (s.kernel.tcb t) (s.call t) = .running := by
    rw [out]
    exact waitOf_out (by simp [unpending])
  by_cases own : g' = g
  · subst own
    rw [(used rfl).1] at looked
    rw [if_pos rfl]
    refine Matches.one running ?_
    have pend : (view g' s).group.pend t (bits flags) =
        (none, (view g' s).group.setWait t (.pending (bits flags))) := by
      unfold FlagGroup.pend
      rw [if_neg (show ¬((view g' s).group.flags ∩ bits flags).Nonempty from setAny_none looked)]
    unfold groupStep
    simp only [pend]
    refine congrArg Option.some (view_eq rfl (fun u => ?_) rfl).symm
    by_cases same : u = t
    · subst same
      simp only [Function.update_self, FlagGroup.setWait_self]
      exact waitOf_pending rfl _
    · simp only [Function.update_of_ne same]
      exact (FlagGroup.setWait_other _ (view g' s).group same).symm
  · rw [if_neg own]
    refine Matches.none (view_eq rfl (fun u => ?_) rfl)
    by_cases same : u = t
    · subst same
      simp only [Function.update_self]
      refine (waitOf_running ?_ ?_).trans running.symm
      · simpa [blocked] using own
      · simp [inCall_blocked, own]
    · simp only [Function.update_of_ne same]
      rfl

theorem matches_resume {opt : PendOpt} (unpending : (s.kernel.tcb t).pendObjPtr = none)
    (call : s.call t = .resuming g' opt) (ok : (s.kernel.tcb t).pendStatus = .ok)
    (consume : g' = g → opt.consume = true) :
    Matches (view g s) (if g' = g then [.resume t] else []) (view g { s with
      kernel := { s.kernel with
        flags := Function.update s.kernel.flags g'
          (leftOver opt (s.kernel.flags g') (s.kernel.tcb t).flagsRdy) }
      call := Function.update s.call t .out
      returned := (t, g', (s.kernel.tcb t).flagsRdy) :: s.returned }) := by
  have unpending' : (s.kernel.tcb t).pendObjPtr ≠ some g := by simp [unpending]
  by_cases own : g' = g
  · subst own
    have waits : (view g' s).group.wait t = .ready (bits (s.kernel.tcb t).flagsRdy) :=
      waitOf_ready unpending' (by rw [call]; exact inCall_resuming.mpr rfl) ok
    rw [if_pos rfl]
    refine Matches.one trivial ?_
    unfold groupStep FlagGroup.resume
    simp only [waits, Option.map_some]
    refine congrArg Option.some (view_eq ?_ (fun u => ?_) (returnedOf_own t _ s.returned)).symm
    · simp only [Function.update_self]
      exact bits_leftOver (consume rfl) _ _
    · by_cases same : u = t
      · subst same
        simp only [Function.update_self, FlagGroup.setWait_self]
        exact waitOf_out unpending'
      · simp only [Function.update_of_ne same]
        exact (FlagGroup.setWait_other _ (view g' s).group same).symm
  · have running : waitOf g (s.kernel.tcb t) (s.call t) = .running := by
      apply waitOf_running unpending'
      simp [call, inCall_resuming, own]
    rw [if_neg own]
    refine Matches.none (view_eq ?_ (fun u => ?_) (returnedOf_other own t _ s.returned))
    · simp only [Function.update_of_ne (Ne.symm own)]
      rfl
    · by_cases same : u = t
      · subst same
        simp only [Function.update_self]
        exact (waitOf_out unpending').trans running.symm
      · simp only [Function.update_of_ne same]
        rfl

theorem view_late (unpending : (s.kernel.tcb t).pendObjPtr = none)
    (late : (s.kernel.tcb t).pendStatus ≠ .ok) :
    view g { s with call := Function.update s.call t .out } = view g s := by
  have unpending' : (s.kernel.tcb t).pendObjPtr ≠ some g := by simp [unpending]
  refine view_eq rfl (fun u => ?_) rfl
  by_cases same : u = t
  · subst same
    simp only [Function.update_self]
    exact (waitOf_out unpending').trans (waitOf_running unpending' (fun here => late here.2)).symm
  · simp only [Function.update_of_ne same]
    rfl

theorem view_resched {k : Kernel τ γ} {opt : PendOpt} (tcb : k.tcb = s.kernel.tcb)
    (flags : k.flags = s.kernel.flags) (call : s.call t = .blocked g' opt) :
    view g { s with kernel := k, call := Function.update s.call t (.resuming g' opt) } =
      view g s := by
  refine view_eq (by simp only [flags]; rfl) (fun u => ?_) rfl
  simp only [tcb]
  by_cases same : u = t
  · subst same
    change _ = waitOf g (s.kernel.tcb u) (s.call u)
    unfold waitOf
    simp only [Function.update_self, call, inCall_resuming, inCall_blocked]
  · simp only [Function.update_of_ne same]
    rfl

theorem matches_timer {ready : Ready τ} {pending : Pending τ γ}
    (pends : (s.kernel.tcb t).pendObjPtr = some g') (here : inCall g' (s.call t)) :
    Matches (view g s) (if g' = g then [.expire t] else []) (view g { s with kernel := { s.kernel with
      tcb := Function.update s.kernel.tcb t (timedOut (s.kernel.tcb t))
      ready := ready
      pending := pending } }) := by
  have after : waitOf g (timedOut (s.kernel.tcb t)) (s.call t) = .running :=
    waitOf_running nofun nofun
  by_cases own : g' = g
  · subst own
    have waits : (view g' s).group.wait t = .pending (bits (s.kernel.tcb t).flagsPend) :=
      waitOf_pending pends _
    rw [if_pos rfl]
    refine Matches.one trivial ?_
    unfold groupStep FlagGroup.expire
    simp only [waits, Option.map_some]
    refine congrArg Option.some (view_eq rfl (fun u => ?_) rfl).symm
    by_cases same : u = t
    · subst same
      simp only [Function.update_self, FlagGroup.setWait_self]
      exact after
    · simp only [Function.update_of_ne same]
      exact (FlagGroup.setWait_other _ (view g' s).group same).symm
  · have running : waitOf g (s.kernel.tcb t) (s.call t) = .running := by
      apply waitOf_running
      · simpa [pends] using own
      · rintro ⟨there, -⟩
        exact own (inCall_group here there)
    rw [if_neg own]
    refine Matches.none (view_eq rfl (fun u => ?_) rfl)
    by_cases same : u = t
    · subst same
      simp only [Function.update_self]
      exact after.trans running.symm
    · simp only [Function.update_of_ne same]
      rfl

theorem waitOf_posted {flags' : UInt32} (mode : tcb.flagsOpt.mode = .setAny)
    (pends : tcb.pendObjPtr = some g) (here : inCall g call) :
    waitOf g (afterPost flags' tcb) call =
      FlagGroup.signal (bits flags') (.pending (bits tcb.flagsPend)) := by
  have compiled : Compiled tcb.flagsOpt.mode := Or.inr mode
  obtain ⟨found, looked⟩ := flagsReady_compiled compiled flags' tcb.flagsPend
  unfold afterPost FlagGroup.signal
  rw [looked]
  rw [mode] at looked
  cases found with
  | none =>
    simp only [if_neg (setAny_none looked)]
    exact waitOf_pending pends call
  | some flagsRdy =>
    obtain ⟨some, same⟩ := setAny_some looked
    simp only [if_pos some]
    rw [← same]
    exact waitOf_ready nofun here rfl

theorem waitOf_other_post {flags' : UInt32} (pends : tcb.pendObjPtr = some g')
    (here : inCall g' call) (other : g' ≠ g) (compiled : Compiled tcb.flagsOpt.mode) :
    waitOf g (afterPost flags' tcb) call = waitOf g tcb call := by
  have out : ¬inCall g call := fun there => other (inCall_group here there)
  have before : waitOf g tcb call = .running :=
    waitOf_running (by simpa [pends] using other) (fun there => out there.1)
  rw [before]
  apply waitOf_running
  · intro now
    obtain ⟨same, -⟩ := afterPost_waiting compiled now
    rw [same, pends] at now
    exact other (Option.some.inj now)
  · exact fun there => out there.1

theorem matches_post {flags flags' : UInt32} {opt : PostOpt} {ready : Ready τ}
    {pending : Pending τ γ} (h : Inv s) (uses : Uses g s) (used : g' = g → opt = .flagSet)
    (new : flags' = posted opt (s.kernel.flags g') flags) :
    Matches (view g s) (if g' = g then [.post (bits flags)] else []) (view g { s with kernel := { s.kernel with
      tcb := fun u =>
        if (s.kernel.tcb u).pendObjPtr = some g' then afterPost flags' (s.kernel.tcb u)
        else s.kernel.tcb u
      flags := Function.update s.kernel.flags g' flags'
      ready := ready
      pending := pending } }) := by
  by_cases own : g' = g
  · subst own
    have all : bits flags' = (view g' s).group.flags ∪ bits flags := by
      rw [new, used rfl]
      exact bits_or _ _
    rw [if_pos rfl]
    refine Matches.one trivial ?_
    refine congrArg Option.some (view_eq ?_ (fun u => ?_) rfl).symm
    · simp only [Function.update_self]
      exact all
    · simp only [FlagGroup.post_wait, ← all]
      change _ = FlagGroup.signal (bits flags') (waitOf g' (s.kernel.tcb u) (s.call u))
      by_cases pends : (s.kernel.tcb u).pendObjPtr = some g'
      · rw [if_pos pends, waitOf_pending pends]
        exact waitOf_posted (uses.pend u pends) pends (h.pends u g' pends)
      · rw [if_neg pends]
        unfold waitOf
        rw [if_neg pends]
        split_ifs
        · rfl
        · rfl
  · rw [if_neg own]
    refine Matches.none (view_eq ?_ (fun u => ?_) rfl)
    · simp only [Function.update_of_ne (Ne.symm own)]
      rfl
    · change _ = waitOf g (s.kernel.tcb u) (s.call u)
      by_cases pends : (s.kernel.tcb u).pendObjPtr = some g'
      · obtain ⟨rdy, waiting, consistent⟩ := h.consistent
        have compiled := (consistent.sound u).mode (by simp [pends])
        simp only [if_pos pends]
        exact waitOf_other_post pends (h.pends u g' pends) own compiled
      · simp only [if_neg pends]

theorem matches_effect (h : Inv s) (uses : Uses g s) (used : Used g m) (effect : Effect s m s') :
    Matches (view g s) (groupMoves g s m) (view g s') := by
  cases effect with
  | create u prio ready pending gone =>
    obtain ⟨rdy, waiting, consistent⟩ := h.consistent
    have unpending : (s.kernel.tcb u).pendObjPtr ≠ some g := by
      intro pends
      have other := (consistent.sound u).pends.mp (by simp [pends])
      simp [gone] at other
    refine Matches.none (view_eq rfl (fun v => ?_) rfl)
    by_cases same : v = u
    · subst same
      simp only [Function.update_self]
      change _ = waitOf g (s.kernel.tcb v) (s.call v)
      rw [h.deleted v gone, waitOf_out unpending]
      exact waitOf_out nofun
    · simp only [Function.update_of_ne same]
      rfl
  | start stopped => exact Matches.none rfl
  | got u g' flags timeout opt flagsRdy current out looked =>
    have unpending := h.unpending (h.running current (by simp [out]))
    have free : ¬Refused s.kernel g' flags opt := by
      rintro ⟨none, -⟩
      rw [looked] at none
      cases none
    rw [groupMoves_pend current free]
    exact matches_got unpending out unpending used looked
  | refused g' flags timeout opt refused =>
    rw [groupMoves_refused timeout refused]
    exact Matches.none rfl
  | block u g' flags timeout opt ready pending current out looked free =>
    rw [groupMoves_pend current free]
    exact matches_block (h.unpending (h.running current (by simp [out]))) out used looked
  | resched u g' opt current call =>
    obtain ⟨tcb, -, -, flags, -⟩ := osSched_same (k := s.kernel)
    exact Matches.none (view_resched tcb flags call)
  | resume u g' opt current call ok =>
    rw [groupMoves_resume current call]
    simp only [ok, and_true]
    refine matches_resume (h.unpending (h.running current (by simp [call]))) call ok ?_
    rintro rfl
    exact uses.call u opt (Or.inr call)
  | late u g' opt current call late =>
    rw [groupMoves_resume current call, if_neg (fun here => late here.2)]
    exact Matches.none (view_late (h.unpending (h.running current (by simp [call]))) late)
  | post g' flags opt ready pending flags' new => exact matches_post h uses used new
  | timer u ready pending state =>
    obtain ⟨rdy, waiting, consistent⟩ := h.consistent
    obtain ⟨g', pends⟩ :=
      Option.ne_none_iff_exists'.mp ((consistent.sound u).pends.mpr (Or.inr state))
    have moves : groupMoves g s (.timer u) = if g' = g then [.expire u] else [] := by
      unfold groupMoves
      simp only [pends, Option.some.injEq]
    rw [moves]
    exact matches_timer pends (h.pends u g' pends)
  | sched =>
    obtain ⟨tcb, -, -, flags, -⟩ := osSched_same (k := s.kernel)
    exact Matches.none (view_eq (by simp only [flags]; rfl) (fun u => by simp only [tcb]; rfl) rfl)
  | lock =>
    unfold osSchedLock
    split_ifs
    · exact Matches.none rfl
    · exact Matches.none rfl
  | unlock => exact Matches.none rfl

omit [DecidableEq γ] in
theorem Uses.called (uses : Uses g s) (u : τ) {new : Call γ}
    (own : ∀ opt, new = .blocked g opt ∨ new = .resuming g opt → opt.consume = true) (v : τ)
    (opt : PendOpt) (call : Function.update s.call u new v = .blocked g opt ∨
      Function.update s.call u new v = .resuming g opt) : opt.consume = true := by
  by_cases same : v = u
  · subst same
    rw [Function.update_self] at call
    exact own opt call
  · rw [Function.update_of_ne same] at call
    exact uses.call v opt call

omit [DecidableEq γ] in
theorem Uses.returns (uses : Uses g s) (u v : τ) (opt : PendOpt)
    (call : Function.update s.call u .out v = .blocked g opt ∨
      Function.update s.call u .out v = .resuming g opt) : opt.consume = true := by
  refine uses.called u (fun opt called => ?_) v opt call
  rcases called with called | called <;> cases called

omit [DecidableEq γ] in
theorem Uses.pends (uses : Uses g s) (u : τ) {new : Tcb γ}
    (own : new.pendObjPtr = some g → new.flagsOpt.mode = .setAny) (v : τ)
    (pends : (Function.update s.kernel.tcb u new v).pendObjPtr = some g) :
    (Function.update s.kernel.tcb u new v).flagsOpt.mode = .setAny := by
  by_cases same : v = u
  · subst same
    rw [Function.update_self] at pends ⊢
    exact own pends
  · rw [Function.update_of_ne same] at pends ⊢
    exact uses.pend v pends

omit [DecidableEq τ] [DecidableEq γ] in
theorem afterPost_pends {flags' : UInt32} (pends : (afterPost flags' tcb).pendObjPtr = some g) :
    tcb.pendObjPtr = some g ∧ (afterPost flags' tcb).flagsOpt = tcb.flagsOpt := by
  unfold afterPost at pends ⊢
  split at pends
  · cases pends
  · exact ⟨pends, rfl⟩

theorem uses_effect (uses : Uses g s) (used : Used g m) (effect : Effect s m s') : Uses g s' := by
  cases effect with
  | create u prio ready pending gone => exact ⟨uses.call, uses.pends u nofun⟩
  | start stopped => exact ⟨uses.call, uses.pend⟩
  | got u g' flags timeout opt flagsRdy current out looked =>
    exact ⟨uses.call, uses.pends u (uses.pend u)⟩
  | refused => exact uses
  | block u g' flags timeout opt ready pending current out looked free =>
    refine ⟨uses.called u (fun opt' call => ?_), uses.pends u (fun own => ?_)⟩
    · rcases call with call | call
      · obtain ⟨here, rfl⟩ := Call.blocked.inj call
        exact (used here).2
      · cases call
    · exact (used (Option.some.inj own)).1
  | resched u g' opt current call =>
    obtain ⟨tcb, -⟩ := osSched_same (k := s.kernel)
    refine ⟨uses.called u (fun opt' call' => ?_), fun v pends => ?_⟩
    · rcases call' with call' | call'
      · cases call'
      · obtain ⟨rfl, rfl⟩ := Call.resuming.inj call'
        exact uses.call u opt (Or.inl call)
    · simp only [tcb] at pends ⊢
      exact uses.pend v pends
  | resume u g' opt current call ok => exact ⟨uses.returns u, uses.pend⟩
  | late u g' opt current call late => exact ⟨uses.returns u, uses.pend⟩
  | post g' flags opt ready pending flags' new =>
    refine ⟨uses.call, fun v pends => ?_⟩
    by_cases here : (s.kernel.tcb v).pendObjPtr = some g'
    · simp only [if_pos here] at pends ⊢
      obtain ⟨before, kept⟩ := afterPost_pends pends
      rw [kept]
      exact uses.pend v before
    · simp only [if_neg here] at pends ⊢
      exact uses.pend v pends
  | timer u ready pending state => exact ⟨uses.call, uses.pends u nofun⟩
  | sched =>
    obtain ⟨tcb, -⟩ := osSched_same (k := s.kernel)
    refine ⟨uses.call, fun v pends => ?_⟩
    simp only [tcb] at pends ⊢
    exact uses.pend v pends
  | lock =>
    unfold osSchedLock
    split_ifs
    · exact uses
    · exact ⟨uses.call, uses.pend⟩
  | unlock => exact ⟨uses.call, uses.pend⟩

omit [DecidableEq τ] [DecidableEq γ] in
theorem uses_start : Uses g (start : Sys τ γ) := ⟨nofun, nofun⟩

variable [Fintype τ]

/-- Along a run of the kernel, what its moves are to the group is a run of the abstract group. -/
theorem kernel_refines (g : γ) (moves : List (Move τ γ))
    (run : follow step (fun s m => Allowed s m ∧ Used g m) (start : Sys τ γ) moves = some s) :
    follow groupStep groupAllowed groupStart (observe step (groupMoves g) start moves) =
      some (view g s) := by
  have empty : view g (start : Sys τ γ) = groupStart :=
    view_eq bits_zero (fun _ => waitOf_out nofun) rfl
  have simulates (s : Sys τ γ) (m : Move τ γ) (s' : Sys τ γ) (next : step s m = some s')
      (allowed : Allowed s m ∧ Used g m) (before : Inv s ∧ Uses g s) :
      (Inv s' ∧ Uses g s') ∧
        follow groupStep groupAllowed (view g s) (groupMoves g s m) = some (view g s') := by
    obtain ⟨h, uses⟩ := before
    obtain ⟨t, made, after⟩ := h.step allowed.1
    obtain rfl : t = s' := Option.some.inj (made.symm.trans next)
    have effect := h.effect allowed.1 next
    exact ⟨⟨after, uses_effect uses allowed.2 effect⟩, matches_effect h uses allowed.2 effect⟩
  rw [← empty]
  exact (follow_observe simulates moves ⟨inv_start, uses_start⟩ run).2

end

def postedWait {τ : Type} (high low : τ) (upper lower : Prio) : List (Move τ Unit) :=
  toThePost high low upper lower ++ [.sched, .resume]

theorem waiter_refines : ∃ s : Sys (Fin 2) Unit, s.returned = [(0, (), 1)] ∧
    follow groupStep groupAllowed groupStart (observe step (groupMoves ()) start (postedWait 0 1 5 10)) =
      some (view () s) := by
  have seen : (follow step (fun s m => Allowed s m ∧ Used () m) start
      (postedWait (0 : Fin 2) 1 5 10)).map (fun s => s.returned) = some [(0, (), 1)] := by
    decide +kernel
  obtain ⟨s, run, returned⟩ := Option.map_eq_some_iff.mp seen
  exact ⟨s, returned, kernel_refines () (postedWait 0 1 5 10) run⟩

end GreenPower.KernelRefinement
