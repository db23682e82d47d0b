import Mathlib

set_option autoImplicit false

/-!
A group of event flags on which tasks wait for any flag of a mask and consume what they get.
A post readies every waiting task whose mask it meets, each with the flags found at that
moment; these are cleared only when the task runs again, so one post can release several.
-/
namespace GreenPower.EventFlags

inductive Wait (ι : Type) where
  | running
  | pending (mask : Finset ι)
  | ready (found : Finset ι)
  deriving DecidableEq

structure FlagGroup (τ ι : Type) where
  flags : Finset ι
  wait : τ → Wait ι

namespace FlagGroup
section
variable {τ ι : Type}

def setWait [DecidableEq τ] (t : τ) (w : Wait ι) (g : FlagGroup τ ι) : FlagGroup τ ι :=
  { g with wait := Function.update g.wait t w }

variable [DecidableEq ι]

def signal (flags : Finset ι) : Wait ι → Wait ι
  | .running => .running
  | .pending mask => if (flags ∩ mask).Nonempty then .ready (flags ∩ mask) else .pending mask
  | .ready found => .ready found

def post (posted : Finset ι) (g : FlagGroup τ ι) : FlagGroup τ ι where
  flags := g.flags ∪ posted
  wait := fun t => signal (g.flags ∪ posted) (g.wait t)

variable [DecidableEq τ]

/-- `some` flags when the call returns at once, `none` when the task blocks. -/
def pend (t : τ) (mask : Finset ι) (g : FlagGroup τ ι) : Option (Finset ι) × FlagGroup τ ι :=
  if (g.flags ∩ mask).Nonempty then
    (some (g.flags ∩ mask), { g with flags := g.flags \ (g.flags ∩ mask) })
  else (none, g.setWait t (.pending mask))

def resume (t : τ) (g : FlagGroup τ ι) : Option (Finset ι × FlagGroup τ ι) :=
  match g.wait t with
  | .running => none
  | .pending _ => none
  | .ready found => some (found, { g.setWait t .running with flags := g.flags \ found })

def expire (t : τ) (g : FlagGroup τ ι) : Option (FlagGroup τ ι) :=
  match g.wait t with
  | .running => none
  | .pending _ => some (g.setWait t .running)
  | .ready _ => none

end

section
variable {τ ι : Type} [DecidableEq ι] (posted flags : Finset ι) (g : FlagGroup τ ι) (t : τ)

@[simp] theorem post_flags : (g.post posted).flags = g.flags ∪ posted := rfl
@[simp] theorem post_wait : (g.post posted).wait t = signal (g.flags ∪ posted) (g.wait t) := rfl

theorem mem_post_other {i j : ι} (other : i ≠ j) : i ∈ (g.post {j}).flags ↔ i ∈ g.flags := by
  simp [other]

@[simp] theorem signal_running {w : Wait ι} : signal flags w = .running ↔ w = .running := by
  cases w with
  | running => exact Iff.rfl
  | pending mask =>
    change (if (flags ∩ mask).Nonempty then Wait.ready (flags ∩ mask) else .pending mask) = _ ↔ _
    split_ifs <;> simp
  | ready found => simp [signal]

theorem signal_pending {m : Finset ι} {w : Wait ι} (h : signal flags w = .pending m) :
    w = .pending m ∧ Disjoint flags m := by
  cases w with
  | running => simp [signal] at h
  | pending mask =>
    change (if (flags ∩ mask).Nonempty then Wait.ready (flags ∩ mask) else .pending mask) = _ at h
    split_ifs at h with found
    obtain rfl : mask = m := by simpa using h
    exact ⟨rfl, Finset.disjoint_iff_inter_eq_empty.mpr (Finset.not_nonempty_iff_eq_empty.mp found)⟩
  | ready found => simp [signal] at h

theorem signal_ready {found : Finset ι} {w : Wait ι} (h : signal flags w = .ready found) :
    w = .ready found ∨ ∃ m, w = .pending m ∧ found = flags ∩ m ∧ found.Nonempty := by
  cases w with
  | running => simp [signal] at h
  | pending mask =>
    change (if (flags ∩ mask).Nonempty then Wait.ready (flags ∩ mask) else .pending mask) = _ at h
    split_ifs at h with meets
    obtain rfl : flags ∩ mask = found := by simpa using h
    exact Or.inr ⟨mask, rfl, rfl, meets⟩
  | ready found' => exact Or.inl h

end

section
variable {τ ι : Type} [DecidableEq τ] {t u : τ}

@[simp] theorem setWait_flags (t : τ) (w : Wait ι) (g : FlagGroup τ ι) :
    (g.setWait t w).flags = g.flags := rfl

@[simp] theorem setWait_self (t : τ) (w : Wait ι) (g : FlagGroup τ ι) :
    (g.setWait t w).wait t = w := by
  change Function.update g.wait t w t = w
  rw [Function.update_self]

theorem setWait_other (w : Wait ι) (g : FlagGroup τ ι) (h : u ≠ t) :
    (g.setWait t w).wait u = g.wait u := by
  change Function.update g.wait t w u = g.wait u
  rw [Function.update_of_ne h]

end

section
variable {τ ι : Type} [DecidableEq τ] [DecidableEq ι] {mask : τ → Finset ι} {g g' : FlagGroup τ ι}
  {t u : τ} {m found : Finset ι}

/-- The task `t` gets `found`: at once where it `pends`, or on being readied where it `waits`. -/
inductive Obtains (pends waits : Prop) (t : τ) (m : Finset ι) (g : FlagGroup τ ι) :
    Finset ι → FlagGroup τ ι → Prop
  | atOnce (found : Finset ι) (point : pends) (here : found = g.flags ∩ m)
      (some : found.Nonempty) : Obtains pends waits t m g found { g with flags := g.flags \ found }
  | readied (found : Finset ι) (point : waits) (wait : g.wait t = .ready found) :
      Obtains pends waits t m g found { g.setWait t .running with flags := g.flags \ found }

variable {pends waits : Prop}

theorem pend_some (point : pends) (h : g.pend t m = (some found, g')) :
    Obtains pends waits t m g found g' := by
  unfold pend at h
  split_ifs at h with meets
  · obtain ⟨same, rest⟩ := Prod.mk.inj h
    obtain rfl : g.flags ∩ m = found := by simpa using same
    rw [← rest]
    exact .atOnce _ point rfl meets
  · simp at h

theorem pend_none (h : g.pend t m = (none, g')) :
    Disjoint g.flags m ∧ g' = g.setWait t (.pending m) := by
  unfold pend at h
  split_ifs at h with meets
  · simp at h
  · obtain rfl : _ = g' := by simpa using h
    exact ⟨Finset.disjoint_iff_inter_eq_empty.mpr (Finset.not_nonempty_iff_eq_empty.mp meets), rfl⟩

theorem resume_some (point : waits) (h : g.resume t = some (found, g')) (m : Finset ι) :
    Obtains pends waits t m g found g' := by
  unfold resume at h
  split at h
  · simp at h
  · simp at h
  · rename_i found' ready
    obtain ⟨rfl, rfl⟩ : found' = found ∧ _ = g' := by simpa using h
    exact .readied _ point ready

omit [DecidableEq ι] in
theorem expire_some (h : g.expire t = some g') :
    (∃ m, g.wait t = .pending m) ∧ g' = g.setWait t .running := by
  unfold expire at h
  split at h
  · simp at h
  · rename_i m pending
    exact ⟨⟨m, pending⟩, by simpa using h.symm⟩
  · simp at h

theorem Obtains.flags (h : Obtains pends waits t m g found g') : g'.flags = g.flags \ found := by
  cases h <;> rfl

theorem Obtains.wait_self (h : Obtains pends waits t m g found g')
    (running : pends → g.wait t = .running) : g'.wait t = .running := by
  cases h with
  | atOnce point here some => exact running point
  | readied => exact setWait_self t .running g

theorem Obtains.wait_other (h : Obtains pends waits t m g found g') (other : u ≠ t) :
    g'.wait u = g.wait u := by
  cases h with
  | atOnce => rfl
  | readied point wait => exact setWait_other .running g other

/-- Every task waits with its own mask, no waiting task has a flag to take, and a readied
task holds a nonempty part of its mask. -/
structure Disciplined (mask : τ → Finset ι) (g : FlagGroup τ ι) : Prop where
  pending : ∀ t m, g.wait t = .pending m → m = mask t ∧ Disjoint g.flags m
  ready : ∀ t found, g.wait t = .ready found → found ⊆ mask t ∧ found.Nonempty

omit [DecidableEq τ] in
theorem Disciplined.post (h : Disciplined mask g) (posted : Finset ι) :
    Disciplined mask (g.post posted) where
  pending := by
    intro t m pending
    obtain ⟨before, apart⟩ := signal_pending _ pending
    exact ⟨(h.pending t m before).1, apart⟩
  ready := by
    intro t found ready
    rcases signal_ready _ ready with before | ⟨m, before, rfl, some⟩
    · exact h.ready t found before
    · rw [← (h.pending t m before).1]
      exact ⟨Finset.inter_subset_right, some⟩

omit [DecidableEq ι] in
theorem Disciplined.setWait_running (h : Disciplined mask g) (t : τ) :
    Disciplined mask (g.setWait t .running) where
  pending := by
    intro u m pending
    by_cases same : u = t
    · subst same
      simp at pending
    · rw [setWait_other _ _ same] at pending
      exact h.pending u m pending
  ready := by
    intro u found ready
    by_cases same : u = t
    · subst same
      simp at ready
    · rw [setWait_other _ _ same] at ready
      exact h.ready u found ready

omit [DecidableEq ι] in
theorem Disciplined.block (h : Disciplined mask g) (apart : Disjoint g.flags (mask t)) :
    Disciplined mask (g.setWait t (.pending (mask t))) where
  pending := by
    intro u m pending
    by_cases same : u = t
    · subst same
      obtain rfl : mask u = m := by simpa using pending
      exact ⟨rfl, apart⟩
    · rw [setWait_other _ _ same] at pending
      exact h.pending u m pending
  ready := by
    intro u found ready
    by_cases same : u = t
    · subst same
      simp at ready
    · rw [setWait_other _ _ same] at ready
      exact h.ready u found ready

omit [DecidableEq τ] in
theorem Disciplined.clear (h : Disciplined mask g) (taken : Finset ι) :
    Disciplined mask { g with flags := g.flags \ taken } where
  pending := by
    intro t m pending
    obtain ⟨own, apart⟩ := h.pending t m pending
    exact ⟨own, apart.mono_left Finset.sdiff_subset⟩
  ready := h.ready

theorem Disciplined.obtain (h : Disciplined mask g) (got : Obtains pends waits t m g found g') :
    Disciplined mask g' := by
  cases got with
  | atOnce => exact h.clear found
  | readied => exact (h.setWait_running t).clear found

theorem Disciplined.found_spec (h : Disciplined mask g) (got : Obtains pends waits t (mask t) g found g') :
    found ⊆ mask t ∧ found.Nonempty := by
  cases got with
  | atOnce point here some =>
    rw [here]
    exact ⟨Finset.inter_subset_right, here ▸ some⟩
  | readied point wait => exact h.ready t found wait

/-- Flags outside a task's mask stay as they are when it gets its own. -/
theorem Disciplined.mem_obtained (h : Disciplined mask g)
    (got : Obtains pends waits t (mask t) g found g') {i : ι} (other : i ∉ mask t) :
    i ∈ g'.flags ↔ i ∈ g.flags := by
  rw [got.flags, Finset.mem_sdiff, and_iff_left]
  exact fun inside => other ((h.found_spec got).1 inside)

def Held (t : τ) (g : FlagGroup τ ι) : Prop := ∀ found, g.wait t = .ready found → found ⊆ g.flags

omit [DecidableEq τ] in
theorem Held.post (h : Held t g) (posted : Finset ι) : Held t (g.post posted) := by
  intro found ready
  rcases signal_ready _ ready with before | ⟨m, -, rfl, -⟩
  · exact (h found before).trans Finset.subset_union_left
  · exact Finset.inter_subset_left

omit [DecidableEq τ] [DecidableEq ι] in
theorem held_of_not_ready (free : ∀ found, g.wait t ≠ .ready found) : Held t g :=
  fun found ready => absurd ready (free found)

omit [DecidableEq ι] in
theorem Held.setWait_other (h : Held t g) (other : t ≠ u) (w : Wait ι) : Held t (g.setWait u w) := by
  intro found ready
  rw [FlagGroup.setWait_other w g other] at ready
  exact h found ready

/-- Another task takes flags only of its own mask. -/
theorem Held.obtain_other (h : Held t g) (disciplined : Disciplined mask g)
    (got : Obtains pends waits u (mask u) g found g') (other : t ≠ u) (apart : Disjoint (mask t) (mask u)) :
    Held t g' := by
  intro found' ready
  rw [got.wait_other other] at ready
  rw [got.flags]
  have mine := (disciplined.ready t found' ready).1
  have theirs := (disciplined.found_spec got).1
  exact Finset.subset_sdiff.mpr ⟨h found' ready, Finset.disjoint_of_subset_left mine
    (Finset.disjoint_of_subset_right theirs apart)⟩

theorem Obtains.found_subset (got : Obtains pends waits t m g found g') (held : Held t g) : found ⊆ g.flags := by
  cases got with
  | atOnce point here some =>
    rw [here]
    exact Finset.inter_subset_left
  | readied point wait => exact held found wait

/-- What a step does to the group, `waits` telling which tasks are in their wait. Interrupts
have no actor. -/
inductive Turn (mask : τ → Finset ι) (waits waits' : τ → Prop) (g : FlagGroup τ ι) :
    Option τ → FlagGroup τ ι → Prop
  | still (actor : Option τ) (out : ∀ t, actor = some t → ¬ waits t ∧ ¬ waits' t) :
      Turn mask waits waits' g actor g
  | post (actor : Option τ) (posted : Finset ι)
      (out : ∀ t, actor = some t → ¬ waits t ∧ ¬ waits' t) :
      Turn mask waits waits' g actor (g.post posted)
  | obtain {pends : Prop} (t : τ) {found : Finset ι} {g' : FlagGroup τ ι}
      (free : pends → ¬ waits t) (got : Obtains pends (waits t) t (mask t) g found g')
      (left : ¬ waits' t) : Turn mask waits waits' g (some t) g'
  | block (t : τ) (apart : Disjoint g.flags (mask t)) (now : waits' t) :
      Turn mask waits waits' g (some t) (g.setWait t (.pending (mask t)))
  | expire (t : τ) (left : ¬ waits' t) :
      Turn mask waits waits' g (some t) (g.setWait t .running)

structure Sound (mask : τ → Finset ι) (waits : τ → Prop) (g : FlagGroup τ ι) : Prop where
  disciplined : Disciplined mask g
  running : ∀ t, ¬ waits t → g.wait t = .running

variable {waits' : τ → Prop} {waits : τ → Prop} {actor : Option τ}

theorem Sound.turn (h : Sound mask waits g) (turn : Turn mask waits waits' g actor g')
    (others : ∀ u, actor ≠ some u → (waits' u ↔ waits u)) : Sound mask waits' g' := by
  have kept (out : ∀ t, actor = some t → ¬ waits t ∧ ¬ waits' t) (u : τ) (free : ¬ waits' u) :
      g.wait u = .running := by
    by_cases acts : actor = some u
    · exact h.running u (out u acts).1
    · exact h.running u (fun w => free ((others u acts).mpr w))
  have other {t : τ} (acts : actor = some t) (u : τ) (different : u ≠ t) (free : ¬ waits' u) :
      g.wait u = .running :=
    h.running u (fun w => free ((others u (by simp [acts, Ne.symm different])).mpr w))
  cases turn with
  | still _ out => exact ⟨h.disciplined, kept out⟩
  | post _ posted out =>
    refine ⟨h.disciplined.post posted, ?_⟩
    intro u free
    exact (signal_running _).mpr (kept out u free)
  | obtain t idle got left =>
    refine ⟨h.disciplined.obtain got, ?_⟩
    intro u free
    by_cases same : u = t
    · subst same
      exact got.wait_self (fun point => h.running u (idle point))
    · rw [got.wait_other same]
      exact other rfl u same free
  | block t apart now =>
    refine ⟨h.disciplined.block apart, ?_⟩
    intro u free
    by_cases same : u = t
    · subst same
      exact absurd now free
    · rw [setWait_other _ g same]
      exact other rfl u same free
  | expire t left =>
    refine ⟨h.disciplined.setWait_running t, ?_⟩
    intro u free
    by_cases same : u = t
    · subst same
      exact setWait_self u .running g
    · rw [setWait_other _ g same]
      exact other rfl u same free

/-- No task that shares a flag with `t` acts while `t` may hold it. -/
theorem Held.turn (h : Held t g) (sound : Sound mask waits g)
    (turn : Turn mask waits waits' g actor g')
    (apart : ∀ u, actor = some u → u ≠ t → Disjoint (mask t) (mask u)) : Held t g' := by
  have unready (w : Wait ι) (free : ∀ found, w ≠ .ready found) : Held t (g.setWait t w) := by
    apply held_of_not_ready
    intro found
    rw [setWait_self]
    exact free found
  cases turn with
  | still => exact h
  | post _ posted => exact h.post posted
  | obtain u idle got =>
    by_cases same : t = u
    · subst same
      apply held_of_not_ready
      intro found
      rw [got.wait_self (fun point => sound.running t (idle point))]
      exact fun ready => nomatch ready
    · exact h.obtain_other sound.disciplined got same (apart u rfl (Ne.symm same))
  | block u =>
    by_cases same : t = u
    · subst same
      exact unready _ (fun found ready => nomatch ready)
    · exact h.setWait_other same _
  | expire u =>
    by_cases same : t = u
    · subst same
      exact unready _ (fun found ready => nomatch ready)
    · exact h.setWait_other same _

end
end FlagGroup
end GreenPower.EventFlags
