import GreenPower.KernelServices

set_option autoImplicit false

/-!
The ready lists with their table, and the pend lists, as lists of tasks: what the functions on the
links do to them.
-/
namespace GreenPower.KernelLists
open LinkedList KernelServices

def marked (tbl : UInt32) (prio : Prio) : Bool := tbl.toNat.testBit (31 - prio)

theorem prioBit_toNat (prio : Prio) : (prioBit prio).toNat = 2 ^ (31 - prio.val) := by
  revert prio
  decide

theorem marked_prioBit (prio p : Prio) : marked (prioBit prio) p = decide (p = prio) := by
  unfold marked
  rw [prioBit_toNat, Nat.testBit_two_pow]
  apply decide_eq_decide.mpr
  rw [Fin.ext_iff]
  omega

theorem marked_insert (tbl : UInt32) (prio p : Prio) :
    marked (tbl ||| prioBit prio) p = (marked tbl p || decide (p = prio)) := by
  rw [← marked_prioBit]
  unfold marked
  rw [UInt32.toNat_or, Nat.testBit_or]

theorem marked_remove (tbl : UInt32) (prio p : Prio) :
    marked (tbl &&& ~~~prioBit prio) p = (marked tbl p && !decide (p = prio)) := by
  have inside : 31 - p.val < 32 := by omega
  have flip : (~~~prioBit prio).toNat.testBit (31 - p.val) =
      !(prioBit prio).toNat.testBit (31 - p.val) := by
    rw [← UInt32.toNat_toBitVec, UInt32.toBitVec_not, BitVec.testBit_toNat, BitVec.getLsbD_not,
      decide_eq_true inside, Bool.true_and]
    rfl
  rw [← marked_prioBit]
  unfold marked
  rw [UInt32.toNat_and, Nat.testBit_and, flip]

/-- `CLZ` finds the first marked priority. -/
theorem marked_highest {tbl : UInt32} (prio : Prio) (here : marked tbl prio = true)
    (first : ∀ p < prio, marked tbl p = false) : cpuCntLeadZeros tbl = prio := by
  unfold marked at here
  have low : 2 ^ (31 - prio.val) ≤ tbl.toNat := Nat.ge_two_pow_of_testBit here
  have high : tbl.toNat < 2 ^ (32 - prio.val) := by
    apply Nat.lt_pow_two_of_testBit
    intro i above
    by_cases inside : i < 32
    · have before := first ⟨31 - i, by omega⟩ (by
        rw [Fin.lt_def]
        change 31 - i < prio.val
        omega)
      unfold marked at before
      have back : 31 - (31 - i) = i := by omega
      rwa [back] at before
    · exact Nat.testBit_lt_two_pow (lt_of_lt_of_le tbl.toNat_lt (Nat.pow_le_pow_right two_pos
        (not_lt.mp inside)))
  have size : tbl.toNat.size = 32 - prio.val := by
    have above := Nat.size_le.mpr high
    have below := Nat.lt_size.mpr low
    omega
  unfold cpuCntLeadZeros
  omega

theorem marked_none {tbl : UInt32} (none : ∀ p, marked tbl p = false) : cpuCntLeadZeros tbl = 32 := by
  have zero : tbl.toNat = 0 := by
    apply Nat.eq_of_testBit_eq
    intro i
    rw [Nat.zero_testBit]
    by_cases inside : i < 32
    · have here := none ⟨31 - i, by omega⟩
      unfold marked at here
      have back : 31 - (31 - i) = i := by omega
      rwa [back] at here
    · exact Nat.testBit_lt_two_pow (lt_of_lt_of_le tbl.toNat_lt (Nat.pow_le_pow_right two_pos
        (not_lt.mp inside)))
  unfold cpuCntLeadZeros
  rw [zero]
  rfl

section
variable {τ : Type}

/-- The ready lists are `rdy`, and the table marks those that are not empty. -/
structure ReadyLists (prioOf : τ → Prio) (r : Ready τ) (rdy : Prio → List τ) : Prop where
  linked : ∀ p, Linked r.links (r.osRdyList p) (rdy p)
  own : ∀ p, ∀ t ∈ rdy p, prioOf t = p
  table : ∀ p, marked r.osPrioTbl p = true ↔ rdy p ≠ []

variable {prioOf : τ → Prio} {r : Ready τ} {rdy : Prio → List τ} {prio : Prio} {t : τ}
  {l u v : List τ}

theorem ReadyLists.apart (h : ReadyLists prioOf r rdy) {p : Prio} (other : p ≠ prio)
    (sub : l ⊆ rdy prio) {x : τ} (here : x ∈ l) : x ∉ rdy p :=
  fun there => other ((h.own p x there).symm.trans (h.own prio x (sub here)))

/-- The scheduler looks at the head of the first list that is not empty. -/
theorem ReadyLists.highest (h : ReadyLists prioOf r rdy) {x : τ} (head : (rdy prio).head? = some x)
    (first : ∀ p < prio, rdy p = []) :
    osPrioGetHighest r = prio ∧ highRdy (osPrioGetHighest r) r = some x := by
  have some : rdy prio ≠ [] := by
    intro none
    rw [none] at head
    cases head
  have found : osPrioGetHighest r = prio := by
    apply marked_highest prio ((h.table prio).mpr some)
    intro p before
    rw [← Bool.not_eq_true, h.table p, first p before]
    simp
  refine ⟨found, ?_⟩
  rw [found]
  unfold highRdy
  rw [dif_pos prio.isLt, ← head]
  exact (h.linked prio).head

theorem ReadyLists.idle (h : ReadyLists prioOf r rdy) (none : ∀ p, rdy p = []) :
    osPrioGetHighest r = 32 ∧ highRdy (osPrioGetHighest r) r = .none := by
  have found : osPrioGetHighest r = 32 := by
    apply marked_none
    intro p
    rw [← Bool.not_eq_true, h.table p, none p]
    simp
  refine ⟨found, ?_⟩
  rw [found]
  rfl

variable [DecidableEq τ]

theorem osRdyListInsertHead_eq (h : Linked r.links (r.osRdyList prio) l) (new : t ∉ l) :
    osRdyListInsertHead prio t r =
      setRdyList prio ⟨(t :: l).head?, (t :: l).getLast?⟩ (r.links.insert none t l.head?) r := by
  cases l with
  | nil =>
    unfold osRdyListInsertHead
    rw [h.head]
    rfl
  | cons b l =>
    have different : b ≠ t := fun same => new (same ▸ List.mem_cons_self)
    unfold osRdyListInsertHead
    rw [h.head, h.tail]
    change setRdyList prio _ (((r.links.setNext t (some b)).setPrev t none).setPrev b (some t)) r = _
    rw [setPrev_comm different, List.getLast?_cons_cons]
    rfl

theorem osRdyListInsertTail_eq (h : Linked r.links (r.osRdyList prio) l) :
    osRdyListInsertTail prio t r =
      some (setRdyList prio ⟨(l ++ [t]).head?, (l ++ [t]).getLast?⟩
        (r.links.insert l.getLast? t none) r) := by
  rcases List.eq_nil_or_concat l with rfl | ⟨l, a, rfl⟩
  · unfold osRdyListInsertTail
    rw [h.head]
    rfl
  · rw [List.concat_eq_append] at h ⊢
    have tail : (l ++ [a]).getLast? = some a := by simp
    have head : ∃ b, (l ++ [a]).head? = some b := by
      cases l with
      | nil => exact ⟨a, rfl⟩
      | cons b l => exact ⟨b, rfl⟩
    obtain ⟨b, head⟩ := head
    have first : (l ++ [a] ++ [t]).head? = some b := by
      rw [List.head?_append, head, Option.some_or]
    unfold osRdyListInsertTail
    rw [h.head, h.tail, head, tail, first, List.getLast?_append]
    rfl

/-- A task comes anywhere into the list of its priority. -/
theorem ReadyLists.insert (h : ReadyLists prioOf r rdy) (here : rdy (prioOf t) = u ++ v)
    (new : t ∉ u ++ v) :
    ReadyLists prioOf (setRdyList (prioOf t) ⟨(u ++ t :: v).head?, (u ++ t :: v).getLast?⟩
      (r.links.insert u.getLast? t v.head?) (osPrioInsert (prioOf t) r))
      (Function.update rdy (prioOf t) (u ++ t :: v)) where
  linked := by
    intro p
    by_cases same : p = prioOf t
    · subst same
      have before := h.linked (prioOf t)
      rw [here] at before
      simpa [setRdyList] using before.insert new
    · have left : u ⊆ rdy (prioOf t) := here ▸ List.subset_append_left u v
      have right : v ⊆ rdy (prioOf t) := here ▸ List.subset_append_right u v
      have out : t ∉ rdy p := fun there => same (h.own p t there).symm
      have kept := (h.linked p).insert_other
        (fun y last => h.apart same left (List.mem_of_mem_getLast? last)) out
        (fun y first => h.apart same right (List.mem_of_mem_head? first))
      simpa [setRdyList, osPrioInsert, same] using kept
  own := by
    intro p x there
    by_cases same : p = prioOf t
    · subst same
      rw [Function.update_self] at there
      by_cases self : x = t
      · rw [self]
      · apply h.own
        rw [here]
        simpa [self] using there
    · rw [Function.update_of_ne same] at there
      exact h.own p x there
  table := by
    intro p
    change marked (r.osPrioTbl ||| prioBit (prioOf t)) p = true ↔ _
    rw [marked_insert]
    by_cases same : p = prioOf t
    · subst same
      simp
    · simp [same, h.table p]

theorem osRdyListRemove_eq (h : Linked r.links (r.osRdyList prio) (u ++ t :: v)) :
    osRdyListRemove prio t r =
      { setRdyList prio ⟨(u ++ v).head?, (u ++ v).getLast?⟩
          (((r.links.join u.getLast? v.head?).setPrev t none).setNext t none) r with
        osPrioTbl :=
          if u ++ v = [] then r.osPrioTbl &&& ~~~prioBit prio else r.osPrioTbl } := by
  have next := h.next
  have prev := h.prev
  have ends := h.ends_eq
  unfold osRdyListRemove
  rcases List.eq_nil_or_concat u with rfl | ⟨u, a, rfl⟩
  · cases v with
    | nil =>
      simp only [prev, next, ends]
      rfl
    | cons b v =>
      simp only [prev, next, ends, List.nil_append, List.getLast?_cons_cons]
      rfl
  · rw [List.concat_eq_append] at prev ends ⊢
    have last : (u ++ [a]).getLast? = some a := by simp
    have head (w : List τ) : (u ++ [a] ++ w).head? = (u ++ [a]).head? := by
      cases u <;> rfl
    have some (w : List τ) : u ++ [a] ++ w ≠ [] := by simp
    rw [last] at prev
    cases v with
    | nil =>
      simp only [prev, next, ends, last, head, if_neg (some []), List.getLast?_append]
      rfl
    | cons b v =>
      have tail : (u ++ [a] ++ t :: b :: v).getLast? = (u ++ [a] ++ b :: v).getLast? := by
        rw [List.getLast?_append, List.getLast?_cons_cons, ← List.getLast?_append]
      simp only [prev, next, ends, last, head, tail, if_neg (some (b :: v))]
      rfl

theorem ReadyLists.remove (h : ReadyLists prioOf r rdy) (here : rdy (prioOf t) = u ++ t :: v) :
    ReadyLists prioOf (osRdyListRemove (prioOf t) t r)
      (Function.update rdy (prioOf t) (u ++ v)) := by
  have whole := h.linked (prioOf t)
  rw [here] at whole
  have out : t ∉ u ++ v := (List.nodup_cons.mp (List.nodup_middle.mp whole.nodup)).1
  have inside : u ++ v ⊆ rdy (prioOf t) := by
    rw [here]
    exact (List.append_sublist_append_left u).mpr (List.sublist_cons_self t v) |>.subset
  rw [osRdyListRemove_eq whole]
  refine ⟨fun p => ?_, fun p x there => ?_, fun p => ?_⟩
  · by_cases same : p = prioOf t
    · subst same
      simpa [setRdyList] using (whole.remove.setPrev out none).setNext out none
    · have left : u ⊆ rdy (prioOf t) := List.Subset.trans (List.subset_append_left u v) inside
      have right : v ⊆ rdy (prioOf t) := List.Subset.trans (List.subset_append_right u v) inside
      have away : t ∉ rdy p := fun there => same (h.own p t there).symm
      have kept := (h.linked p).join
        (fun y last => h.apart same left (List.mem_of_mem_getLast? last))
        (fun y first => h.apart same right (List.mem_of_mem_head? first))
      simpa [setRdyList, same] using (kept.setPrev away none).setNext away none
  · by_cases same : p = prioOf t
    · subst same
      rw [Function.update_self] at there
      exact h.own _ x (inside there)
    · rw [Function.update_of_ne same] at there
      exact h.own p x there
  · change marked (if u ++ v = [] then r.osPrioTbl &&& ~~~prioBit (prioOf t) else r.osPrioTbl) p =
      true ↔ _
    by_cases same : p = prioOf t
    · subst same
      rw [Function.update_self]
      split_ifs with empty
      · simp [marked_remove, empty]
      · have before : rdy (prioOf t) ≠ [] := by simp [here]
        exact iff_of_true ((h.table _).mpr before) empty
    · rw [Function.update_of_ne same]
      split_ifs with empty
      · simp [marked_remove, same, h.table p]
      · exact h.table p

end

section
variable {τ γ : Type} {prioOf : τ → Prio} {prio : Prio} {k : Links τ} {ends : Ends τ} {t : τ}
  {l u v : List τ}

def insertPrio (prioOf : τ → Prio) (t : τ) (l : List τ) : List τ :=
  l.takeWhile (fun x => decide (prioOf x ≤ prioOf t)) ++
    t :: l.dropWhile (fun x => decide (prioOf x ≤ prioOf t))

theorem findLower_eq (h : Linked k ends (u ++ v)) {fuel : ℕ} (enough : v.length ≤ fuel) :
    findLower prioOf prio k fuel v.head? =
      some (v.dropWhile (fun x => decide (prioOf x ≤ prio))).head? := by
  induction v generalizing u fuel with
  | nil => cases fuel <;> rfl
  | cons x v ih =>
    cases fuel with
    | zero => simp at enough
    | succ fuel =>
      have next := h.next
      change (if prio < prioOf x then some (some x)
        else findLower prioOf prio k fuel (k.next x)) = _
      by_cases lower : prio < prioOf x
      · rw [if_pos lower, List.dropWhile_cons_of_neg (by simpa using lower)]
        rfl
      · have here : Linked k ends (u ++ [x] ++ v) := by simpa using h
        rw [if_neg lower, List.dropWhile_cons_of_pos (by simpa using lower), next,
          ih here (by simpa using enough)]

theorem mem_insertPrio {x : τ} : x ∈ insertPrio prioOf t l ↔ x = t ∨ x ∈ l := by
  unfold insertPrio
  rw [List.mem_append, List.mem_cons]
  have parts := List.takeWhile_append_dropWhile (p := fun x => decide (prioOf x ≤ prioOf t)) (l := l)
  conv_rhs => rw [← parts, List.mem_append]
  tauto

theorem insertPrio_sorted (h : l.Pairwise (fun x y => prioOf x ≤ prioOf y)) :
    (insertPrio prioOf t l).Pairwise (fun x y => prioOf x ≤ prioOf y) := by
  induction l with
  | nil => simp [insertPrio]
  | cons x l ih =>
    obtain ⟨first, rest⟩ := List.pairwise_cons.mp h
    by_cases before : prioOf x ≤ prioOf t
    · have unfolded : insertPrio prioOf t (x :: l) = x :: insertPrio prioOf t l := by
        unfold insertPrio
        rw [List.takeWhile_cons_of_pos (by simpa using before),
          List.dropWhile_cons_of_pos (by simpa using before)]
        rfl
      rw [unfolded]
      refine List.pairwise_cons.mpr ⟨fun y here => ?_, ih rest⟩
      rcases mem_insertPrio.mp here with rfl | here
      · exact before
      · exact first y here
    · have unfolded : insertPrio prioOf t (x :: l) = t :: x :: l := by
        unfold insertPrio
        rw [List.takeWhile_cons_of_neg (by simpa using before),
          List.dropWhile_cons_of_neg (by simpa using before)]
        rfl
      have above : prioOf t ≤ prioOf x := le_of_lt (not_le.mp before)
      rw [unfolded]
      refine List.pairwise_cons.mpr ⟨fun y here => ?_, h⟩
      rcases List.mem_cons.mp here with rfl | here
      · exact above
      · exact above.trans (first y here)

/-- The pend list of every group has the tasks that pend on it, the highest priority first. -/
structure PendLists (prioOf : τ → Prio) (pendsOn : τ → Option γ) (p : Pending τ γ)
    (waiting : γ → List τ) : Prop where
  linked : ∀ g, Linked p.links (p.pendList g) (waiting g)
  mem : ∀ g t, t ∈ waiting g ↔ pendsOn t = some g
  sorted : ∀ g, (waiting g).Pairwise (fun x y => prioOf x ≤ prioOf y)

variable {pendsOn : τ → Option γ} {p : Pending τ γ} {waiting : γ → List τ} {g : γ}

theorem PendLists.apart (h : PendLists prioOf pendsOn p waiting) {other : γ} (different : other ≠ g)
    (sub : l ⊆ waiting g) {x : τ} (here : x ∈ l) : x ∉ waiting other := by
  intro there
  have same := ((h.mem g x).mp (sub here)).symm.trans ((h.mem other x).mp there)
  exact different (Option.some.inj same).symm

variable [DecidableEq τ] [DecidableEq γ]

theorem osPendListInsertPrio_eq [Fintype τ] (h : Linked p.links (p.pendList g) l) (new : t ∉ l)
    (parts : u = l.takeWhile (fun x => decide (prioOf x ≤ prioOf t)) ∧
      v = l.dropWhile (fun x => decide (prioOf x ≤ prioOf t))) :
    osPendListInsertPrio prioOf g t p =
      some (setPendList g ⟨(u ++ t :: v).head?, (u ++ t :: v).getLast?⟩
        (p.links.insert u.getLast? t v.head?) p) := by
  have whole : u ++ v = l := by
    rw [parts.1, parts.2]
    exact List.takeWhile_append_dropWhile
  have find : findLower prioOf (prioOf t) p.links (Fintype.card τ) l.head? = _ :=
    findLower_eq (u := []) h h.nodup.length_le_card
  rw [← parts.2] at find
  have ends := h.ends_eq
  rw [← whole] at ends find
  unfold osPendListInsertPrio
  rcases List.eq_nil_or_concat u with rfl | ⟨u, a, rfl⟩
  · cases v with
    | nil =>
      simp only [ends]
      rfl
    | cons b v =>
      have first : p.links.prev b = none := by
        rw [← whole] at h
        exact h.prev
      have different : b ≠ t := by
        rintro rfl
        exact new (whole ▸ List.mem_cons_self)
      simp only [List.nil_append, List.head?_cons] at find
      simp only [ends, List.nil_append, List.head?_cons, find, first, List.getLast?_cons_cons]
      rw [setPrev_comm different]
      rfl
  · rw [List.concat_eq_append] at whole ends find ⊢
    have last : (u ++ [a]).getLast? = some a := by simp
    have head (w : List τ) : (u ++ [a] ++ w).head? = (u ++ [a]).head? := by
      cases u <;> rfl
    obtain ⟨c, first⟩ : ∃ c, (u ++ [a]).head? = some c := by
      cases u with
      | nil => exact ⟨a, rfl⟩
      | cons c u => exact ⟨c, rfl⟩
    simp only [head, first] at find ends
    cases v with
    | nil =>
      rw [List.append_nil, last] at ends
      simp only [ends, find, head, first, last, List.head?_nil]
      rw [List.getLast?_append]
      rfl
    | cons b v =>
      have before : p.links.prev b = some a := by
        rw [← whole] at h
        rw [h.prev, last]
      have different : b ≠ t := by
        rintro rfl
        exact new (whole ▸ by simp)
      have tail : (u ++ [a] ++ t :: b :: v).getLast? = (u ++ [a] ++ b :: v).getLast? := by
        rw [List.getLast?_append, List.getLast?_cons_cons, ← List.getLast?_append]
      have swap := setPrev_comm (k := (p.links.setNext t (some b)).setNext a (some t)) different
        (some a) (some t)
      simp only [ends, find, head, first, last, List.head?_cons, before, tail]
      exact congrArg (fun links => some (setPendList g _ links p)) swap

theorem PendLists.insert (h : PendLists prioOf pendsOn p waiting) (new : pendsOn t = none)
    [Fintype τ] : ∃ p', osPendListInsertPrio prioOf g t p = some p' ∧
      PendLists prioOf (Function.update pendsOn t (some g)) p'
        (Function.update waiting g (insertPrio prioOf t (waiting g))) := by
  have out (other : γ) : t ∉ waiting other := by
    intro here
    rw [h.mem, new] at here
    cases here
  have whole : (waiting g).takeWhile (fun x => decide (prioOf x ≤ prioOf t)) ++
      (waiting g).dropWhile (fun x => decide (prioOf x ≤ prioOf t)) = waiting g :=
    List.takeWhile_append_dropWhile
  refine ⟨_, osPendListInsertPrio_eq (h.linked g) (out g) ⟨rfl, rfl⟩, fun other => ?_,
    fun other x => ?_, fun other => ?_⟩
  · by_cases same : other = g
    · subst same
      have before := h.linked other
      rw [← whole] at before
      have after := before.insert (whole.symm ▸ out other)
      simpa [setPendList, insertPrio] using after
    · have inside := List.Subset.refl (waiting g)
      rw [← whole, List.append_subset] at inside
      rw [whole] at inside
      have kept := (h.linked other).insert_other
        (fun y last => h.apart same inside.1 (List.mem_of_mem_getLast? last)) (out other)
        (fun y first => h.apart same inside.2 (List.mem_of_mem_head? first))
      simpa [setPendList, same] using kept
  · by_cases same : other = g
    · subst same
      rw [Function.update_self, mem_insertPrio]
      by_cases self : x = t
      · simp [self]
      · simp [self, h.mem]
    · rw [Function.update_of_ne same, h.mem]
      by_cases self : x = t
      · subst self
        simp [new, Ne.symm same]
      · simp [self]
  · by_cases same : other = g
    · subst same
      rw [Function.update_self]
      exact insertPrio_sorted (h.sorted other)
    · rw [Function.update_of_ne same]
      exact h.sorted other

theorem unlink_eq (h : Linked p.links (p.pendList g) (u ++ t :: v)) :
    unlink g t p = some (setPendList g ⟨(u ++ v).head?, (u ++ v).getLast?⟩
      (((p.links.join u.getLast? v.head?).setNext t none).setPrev t none) p) := by
  have next := h.next
  have prev := h.prev
  have ends := h.ends_eq
  unfold unlink
  rcases List.eq_nil_or_concat u with rfl | ⟨u, a, rfl⟩
  · cases v with
    | nil =>
      simp only [ends, List.nil_append, List.head?_cons, next, List.head?_nil, if_true]
      rfl
    | cons b v =>
      have more : ¬(b :: v).head? = none := by simp
      simp only [ends, List.nil_append, List.head?_cons, next, prev, List.getLast?_nil,
        List.getLast?_cons_cons]
      rfl
  · rw [List.concat_eq_append] at h prev ends ⊢
    have last : (u ++ [a]).getLast? = some a := by simp
    have head (w : List τ) : (u ++ [a] ++ w).head? = (u ++ [a]).head? := by
      cases u <;> rfl
    obtain ⟨c, first, second⟩ : ∃ c, (u ++ [a]).head? = some c ∧ p.links.next c ≠ none := by
      cases u with
      | nil => exact ⟨a, rfl, by rw [Linked.next (u := []) h]; simp⟩
      | cons c u => exact ⟨c, rfl, by rw [Linked.next (u := []) h]; simp⟩
    rw [last] at prev
    cases v with
    | nil =>
      simp only [ends, head, first, if_neg second, prev, next, last, List.head?_nil,
        List.getLast?_append]
      rfl
    | cons b v =>
      have tail : (u ++ [a] ++ t :: b :: v).getLast? = (u ++ [a] ++ b :: v).getLast? := by
        rw [List.getLast?_append, List.getLast?_cons_cons, ← List.getLast?_append]
      simp only [ends, head, first, if_neg second, prev, next, last, List.head?_cons, tail]
      rfl

theorem PendLists.remove (h : PendLists prioOf pendsOn p waiting) (here : pendsOn t = some g) :
    ∃ p', unlink g t p = some p' ∧ PendLists prioOf (Function.update pendsOn t none) p'
      (Function.update waiting g ((waiting g).erase t)) := by
  obtain ⟨u, v, split⟩ := List.append_of_mem ((h.mem g t).mpr here)
  have whole := h.linked g
  rw [split] at whole
  have out : t ∉ u ++ v := (List.nodup_cons.mp (List.nodup_middle.mp whole.nodup)).1
  have erased : (waiting g).erase t = u ++ v := by
    rw [List.mem_append, not_or] at out
    rw [split, List.erase_append_right _ out.1, List.erase_cons_head]
  have inside : u ++ v ⊆ waiting g := by
    rw [split]
    exact ((List.append_sublist_append_left u).mpr (List.sublist_cons_self t v)).subset
  refine ⟨_, unlink_eq whole, fun other => ?_, fun other x => ?_, fun other => ?_⟩
  · by_cases same : other = g
    · subst same
      rw [Function.update_self, erased]
      simpa [setPendList] using (whole.remove.setNext out none).setPrev out none
    · have away : t ∉ waiting other := by
        intro there
        rw [h.mem, here] at there
        exact same (Option.some.inj there).symm
      obtain ⟨left, right⟩ := List.append_subset.mp inside
      have kept := (h.linked other).join
        (fun y last => h.apart same left (List.mem_of_mem_getLast? last))
        (fun y first => h.apart same right (List.mem_of_mem_head? first))
      simpa [setPendList, same] using (kept.setNext away none).setPrev away none
  · by_cases same : other = g
    · subst same
      rw [Function.update_self, (h.linked other).nodup.mem_erase_iff]
      by_cases self : x = t
      · simp [self]
      · simp [self, h.mem]
    · rw [Function.update_of_ne same, h.mem]
      by_cases self : x = t
      · subst self
        simp [here, Ne.symm same]
      · simp [self]
  · by_cases same : other = g
    · subst same
      rw [Function.update_self]
      exact (h.sorted other).sublist List.erase_sublist
    · rw [Function.update_of_ne same]
      exact h.sorted other

end

end GreenPower.KernelLists
