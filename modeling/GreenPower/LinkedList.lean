import Mathlib

set_option autoImplicit false

/-!
Doubly linked lists over nodes that hold the links. A segment says what the links of its nodes are,
given the neighbours at both ends; joining two segments writes one link on each side, and to insert
or to remove a node is to join.
-/
namespace GreenPower.LinkedList

structure Links (α : Type) where
  next : α → Option α
  prev : α → Option α

structure Ends (α : Type) where
  head : Option α
  tail : Option α
  deriving DecidableEq

def Ends.empty {α : Type} : Ends α := ⟨none, none⟩

section
variable {α : Type}

/-- The nodes `l` one after the other, the first after `p` and the last before `n`. -/
def Segment (k : Links α) : Option α → List α → Option α → Prop
  | _, [], _ => True
  | p, x :: l, n => k.prev x = p ∧ k.next x = l.head?.or n ∧ Segment k (some x) l n

structure Linked (k : Links α) (ends : Ends α) (l : List α) : Prop where
  head : ends.head = l.head?
  tail : ends.tail = l.getLast?
  nodup : l.Nodup
  segment : Segment k none l none

variable {k : Links α} {ends : Ends α} {p n : Option α} {u v : List α} {x : α}

theorem segment_append :
    Segment k p (u ++ v) n ↔ Segment k p u (v.head?.or n) ∧ Segment k (u.getLast?.or p) v n := by
  induction u generalizing p with
  | nil => simp [Segment]
  | cons x u ih =>
    rw [List.cons_append]
    simp only [Segment, ih]
    have last : (x :: u).getLast?.or p = u.getLast?.or (some x) := by
      cases u with
      | nil => rfl
      | cons y u => rw [List.getLast?_cons_cons, List.getLast?_eq_some_getLast (List.cons_ne_nil y u)]; rfl
    have first : (u ++ v).head?.or n = u.head?.or (v.head?.or n) := by
      cases u <;> rfl
    rw [last, first]
    tauto

theorem linked_nil : Linked k Ends.empty [] :=
  ⟨rfl, rfl, List.nodup_nil, trivial⟩

theorem Linked.next (h : Linked k ends (u ++ x :: v)) : k.next x = v.head? := by
  have part := (segment_append.mp h.segment).2
  rw [part.2.1, Option.or_none]

theorem Linked.prev (h : Linked k ends (u ++ x :: v)) : k.prev x = u.getLast? := by
  have part := (segment_append.mp h.segment).2
  rw [part.1, Option.or_none]

theorem Linked.ends_eq (h : Linked k ends u) : ends = ⟨u.head?, u.getLast?⟩ := by
  rw [← h.head, ← h.tail]

end

section
variable {α : Type} [DecidableEq α]

def Links.setNext (x : α) (y : Option α) (k : Links α) : Links α :=
  { k with next := Function.update k.next x y }

def Links.setPrev (x : α) (y : Option α) (k : Links α) : Links α :=
  { k with prev := Function.update k.prev x y }

def Links.join (a b : Option α) (k : Links α) : Links α :=
  let k := match a with
    | some a => k.setNext a b
    | none => k
  match b with
  | some b => k.setPrev b a
  | none => k

variable {k : Links α} {ends : Ends α} {p n q m : Option α} {u v : List α} {x : α}

@[simp] theorem setNext_self (x : α) (y : Option α) : (k.setNext x y).next x = y := by
  change Function.update k.next x y x = y
  rw [Function.update_self]

theorem setNext_other {z : α} (other : z ≠ x) (y : Option α) :
    (k.setNext x y).next z = k.next z := by
  change Function.update k.next x y z = k.next z
  rw [Function.update_of_ne other]

@[simp] theorem setPrev_self (x : α) (y : Option α) : (k.setPrev x y).prev x = y := by
  change Function.update k.prev x y x = y
  rw [Function.update_self]

theorem setPrev_other {z : α} (other : z ≠ x) (y : Option α) :
    (k.setPrev x y).prev z = k.prev z := by
  change Function.update k.prev x y z = k.prev z
  rw [Function.update_of_ne other]

theorem setPrev_comm {z : α} (other : z ≠ x) (y w : Option α) :
    (k.setPrev x y).setPrev z w = (k.setPrev z w).setPrev x y := by
  unfold Links.setPrev
  rw [Function.update_comm other.symm]

theorem segment_setNext (out : x ∉ u) (y : Option α) :
    Segment (k.setNext x y) p u n ↔ Segment k p u n := by
  induction u generalizing p with
  | nil => rfl
  | cons z u ih =>
    rw [List.mem_cons, not_or] at out
    simp only [Segment, ih out.2]
    rw [setNext_other (Ne.symm out.1)]
    rfl

theorem segment_setPrev (out : x ∉ u) (y : Option α) :
    Segment (k.setPrev x y) p u n ↔ Segment k p u n := by
  induction u generalizing p with
  | nil => rfl
  | cons z u ih =>
    rw [List.mem_cons, not_or] at out
    simp only [Segment, ih out.2]
    rw [setPrev_other (Ne.symm out.1)]
    rfl

theorem segment_join (a : ∀ x ∈ q, x ∉ u) (b : ∀ x ∈ m, x ∉ u) :
    Segment (k.join q m) p u n ↔ Segment k p u n := by
  unfold Links.join
  cases q with
  | none =>
    cases m with
    | none => rfl
    | some y => exact segment_setPrev (b y rfl) none
  | some x =>
    cases m with
    | none => exact segment_setNext (a x rfl) none
    | some y => rw [segment_setPrev (b y rfl), segment_setNext (a x rfl)]

/-- The last node of a segment gets another successor. -/
theorem Segment.setNext (h : Segment k p (u ++ [x]) n) (nodup : (u ++ [x]).Nodup) (y : Option α) :
    Segment (k.setNext x y) p (u ++ [x]) y := by
  obtain ⟨before, last⟩ := segment_append.mp h
  have out : x ∉ u := fun here =>
    (List.disjoint_of_nodup_append nodup) here (List.mem_singleton_self x)
  refine segment_append.mpr ⟨(segment_setNext out y).mpr before, last.1, ?_, trivial⟩
  exact setNext_self x y

/-- The first node of a segment gets another predecessor. -/
theorem Segment.setPrev (h : Segment k p (x :: v) n) (nodup : (x :: v).Nodup) (y : Option α) :
    Segment (k.setPrev x y) y (x :: v) n := by
  refine ⟨setPrev_self x y, h.2.1, ?_⟩
  exact (segment_setPrev (List.nodup_cons.mp nodup).1 y).mpr h.2.2

/-- Two segments become one; an empty one must already have the right neighbour. -/
theorem Segment.join (left : Segment k p u m) (right : Segment k q v n) (nodup : (u ++ v).Nodup)
    (first : u = [] → p = none) (last : v = [] → n = none) :
    Segment (k.join u.getLast? v.head?) p (u ++ v) n := by
  have apart := List.disjoint_of_nodup_append nodup
  have distinct := List.nodup_append.mp nodup
  rcases List.eq_nil_or_concat u with rfl | ⟨u, a, rfl⟩
  · cases v with
    | nil => trivial
    | cons b v =>
      rw [first rfl]
      exact right.setPrev distinct.2.1 none
  · rw [List.concat_eq_append] at left apart distinct ⊢
    rw [List.getLast?_append, List.getLast?_singleton, Option.some_or]
    cases v with
    | nil =>
      rw [List.append_nil, last rfl]
      exact left.setNext distinct.1 none
    | cons b v =>
      have outB : b ∉ u ++ [a] := fun here => apart here List.mem_cons_self
      have outA : a ∉ b :: v := fun here => apart (List.mem_append_right u List.mem_cons_self) here
      refine segment_append.mpr ⟨?_, ?_⟩
      · exact (segment_setPrev outB (some a)).mpr (left.setNext distinct.1 (some b))
      · have after := (segment_setNext outA (some b)).mpr right
        rw [List.getLast?_append, List.getLast?_singleton, Option.some_or]
        exact after.setPrev distinct.2.1 (some a)

def Links.insert (a : Option α) (x : α) (b : Option α) (k : Links α) : Links α :=
  (k.join (some x) b).join a (some x)

theorem Linked.insert (h : Linked k ends (u ++ v)) (new : x ∉ u ++ v) :
    Linked (k.insert u.getLast? x v.head?)
      ⟨(u ++ x :: v).head?, (u ++ x :: v).getLast?⟩ (u ++ x :: v) where
  head := rfl
  tail := rfl
  nodup := List.nodup_middle.mpr (List.nodup_cons.mpr ⟨new, h.nodup⟩)
  segment := by
    obtain ⟨left, right⟩ := segment_append.mp h.segment
    have apart := List.disjoint_of_nodup_append h.nodup
    have distinct := List.nodup_append.mp h.nodup
    rw [List.mem_append, not_or] at new
    have alone : Segment k (k.prev x) [x] (k.next x) := ⟨rfl, by simp, trivial⟩
    have tail := alone.join right (List.nodup_cons.mpr ⟨new.2, distinct.2.1⟩) (by simp)
      (fun _ => rfl)
    have before : Segment (k.join (some x) v.head?) none u (v.head?.or none) := by
      refine (segment_join (fun y same => ?_) (fun y first here => ?_)).mpr left
      · obtain rfl : x = y := Option.some.inj same
        exact new.1
      · exact apart here (List.mem_of_mem_head? first)
    exact before.join tail (List.nodup_middle.mpr (List.nodup_cons.mpr
      ⟨by rw [List.mem_append, not_or]; exact new, h.nodup⟩)) (fun _ => rfl) (by simp)

theorem Linked.remove (h : Linked k ends (u ++ x :: v)) :
    Linked (k.join u.getLast? v.head?) ⟨(u ++ v).head?, (u ++ v).getLast?⟩ (u ++ v) where
  head := rfl
  tail := rfl
  nodup := (List.nodup_cons.mp (List.nodup_middle.mp h.nodup)).2
  segment := by
    obtain ⟨left, -, -, right⟩ := segment_append.mp h.segment
    exact left.join right (List.nodup_cons.mp (List.nodup_middle.mp h.nodup)).2 (fun _ => rfl)
      (fun _ => rfl)

theorem Linked.setNext (h : Linked k ends u) (out : x ∉ u) (y : Option α) :
    Linked (k.setNext x y) ends u :=
  { h with segment := (segment_setNext out y).mpr h.segment }

theorem Linked.setPrev (h : Linked k ends u) (out : x ∉ u) (y : Option α) :
    Linked (k.setPrev x y) ends u :=
  { h with segment := (segment_setPrev out y).mpr h.segment }

/-- What lists of other nodes keep. -/
theorem Linked.join (h : Linked k ends u) (a : ∀ x ∈ q, x ∉ u) (b : ∀ x ∈ m, x ∉ u) :
    Linked (k.join q m) ends u :=
  { h with segment := (segment_join a b).mpr h.segment }

theorem Linked.insert_other (h : Linked k ends u) (a : ∀ y ∈ q, y ∉ u) (out : x ∉ u)
    (b : ∀ y ∈ m, y ∉ u) : Linked (k.insert q x m) ends u := by
  have self : ∀ y ∈ some x, y ∉ u := by
    rintro y ⟨⟩
    exact out
  exact (h.join self b).join a self

end

end GreenPower.LinkedList
