import Mathlib

set_option autoImplicit false

/-!
Arrays of a flat memory. An array is seen from its first cell; the cells past its end are
the memory behind it, so an access that leaves the array has a value and is not an error.
Whether every access stayed inside is a separate question, answered by the list of
ranges that were touched.
-/
namespace GreenPower.MemoryArray

abbrev Cells (β : Type) := ℕ → β

variable {β : Type}

def load (f : Cells β) (off n : ℕ) : List β := (List.range n).map (fun i => f (off + i))

def store (f : Cells β) (off : ℕ) (xs : List β) : Cells β :=
  fun i => if off ≤ i then xs.getD (i - off) (f i) else f i

@[simp] theorem load_length (f : Cells β) (off n : ℕ) : (load f off n).length = n := by
  simp [load]

@[simp] theorem load_zero (f : Cells β) (off : ℕ) : load f off 0 = [] := rfl

theorem load_succ (f : Cells β) (off n : ℕ) :
    load f off (n + 1) = f off :: load f (off + 1) n := by
  simp only [load, List.range_succ_eq_map, List.map_cons, List.map_map, Nat.add_zero]
  congr 2
  funext i
  change f (off + (i + 1)) = f (off + 1 + i)
  rw [Nat.add_right_comm, Nat.add_assoc]

theorem load_get (f : Cells β) (off n i : ℕ) (h : i < (load f off n).length) :
    (load f off n)[i] = f (off + i) := by
  simp [load]

theorem load_congr {f g : Cells β} {off n : ℕ}
    (h : ∀ i, off ≤ i → i < off + n → f i = g i) : load f off n = load g off n := by
  apply List.map_congr_left
  intro i hi
  have hn := List.mem_range.mp hi
  exact h (off + i) (by omega) (by omega)

theorem load_add (f : Cells β) (off m n : ℕ) :
    load f off (m + n) = load f off m ++ load f (off + m) n := by
  simp only [load, List.range_add, List.map_append, List.map_map]
  congr 2
  funext i
  change f (off + (m + i)) = f (off + m + i)
  rw [Nat.add_assoc]

theorem store_outside (f : Cells β) (off : ℕ) (xs : List β) (i : ℕ)
    (h : i < off ∨ off + xs.length ≤ i) : store f off xs i = f i := by
  unfold store
  split_ifs with low
  · exact List.getD_eq_default _ _ (by omega)
  · rfl

theorem store_inside (f : Cells β) (off : ℕ) (xs : List β) (i : ℕ) (h : i < xs.length) :
    store f off xs (off + i) = xs[i] := by
  unfold store
  rw [if_pos (Nat.le_add_right off i), Nat.add_sub_cancel_left, List.getD_eq_getElem _ _ h]

theorem store_at (f : Cells β) (off : ℕ) (xs : List β) (i j : ℕ) (hj : j < xs.length)
    (hi : i = off + j) : store f off xs i = xs[j] := by
  subst hi
  exact store_inside f off xs j hj

@[simp] theorem store_nil (f : Cells β) (off : ℕ) : store f off [] = f := by
  funext i
  exact store_outside f off [] i (by simp only [List.length_nil]; omega)

@[simp] theorem store_singleton (f : Cells β) (off : ℕ) (x : β) : store f off [x] off = x :=
  store_inside f off [x] 0 (by simp)

theorem load_store_same (f : Cells β) (off : ℕ) (xs : List β) :
    load (store f off xs) off xs.length = xs := by
  apply List.ext_getElem (by simp)
  intro i h _
  rw [load_get, store_inside f off xs i (by simpa using h)]

theorem load_store_apart (f : Cells β) (off n p : ℕ) (xs : List β)
    (h : off + n ≤ p ∨ p + xs.length ≤ off) : load (store f p xs) off n = load f off n :=
  load_congr (fun i lo hi => store_outside f p xs i (by omega))

/-- A slice of the stored list, read back at its own place. -/
theorem load_store_part (f : Cells β) (p off n : ℕ) (xs : List β)
    (lo : p ≤ off) (hi : off + n ≤ p + xs.length) :
    load (store f p xs) off n = (xs.drop (off - p)).take n := by
  apply List.ext_getElem
  · simp only [load_length, List.length_take, List.length_drop]
    omega
  · intro i h _
    have hn : i < n := by simpa using h
    rw [load_get, store_at f p xs (off + i) (off - p + i) (by omega) (by omega)]
    simp

/-- A segment of the stored list, between what stands before and behind it. -/
theorem load_store_segment (f : Cells β) (xs ys zs : List β) {off n : ℕ} (ho : off = xs.length)
    (hn : n = ys.length) : load (store f 0 (xs ++ ys ++ zs)) off n = ys := by
  subst ho hn
  rw [load_store_part f 0 xs.length ys.length _ (Nat.zero_le _) (by
    simp only [List.length_append]; omega), Nat.sub_zero, List.append_assoc, List.drop_left,
    List.take_left]

theorem store_append (f : Cells β) (off : ℕ) (xs ys : List β) :
    store (store f off xs) (off + xs.length) ys = store f off (xs ++ ys) := by
  funext i
  by_cases below : i < off
  · rw [store_outside _ _ _ _ (by omega), store_outside _ _ _ _ (by omega),
      store_outside _ _ _ _ (by omega)]
  · obtain ⟨j, rfl⟩ : ∃ j, i = off + j := ⟨i - off, by omega⟩
    by_cases first : j < xs.length
    · rw [store_outside _ _ _ _ (by omega), store_inside f off xs j first,
        store_inside f off (xs ++ ys) j (by simp only [List.length_append]; omega),
        List.getElem_append_left first]
    · by_cases second : j < xs.length + ys.length
      · rw [store_at _ _ ys (off + j) (j - xs.length) (by omega) (by omega),
          store_inside f off (xs ++ ys) j (by simp only [List.length_append]; omega),
          List.getElem_append_right (by omega)]
      · rw [store_outside _ _ _ _ (by omega), store_outside _ _ _ _ (by omega),
          store_outside _ _ _ _ (by simp only [List.length_append]; omega)]

theorem store_apply (f : Cells β) (off : ℕ) (xs : List β) (i : ℕ) :
    store f off xs i = if off ≤ i then (xs[i - off]?).getD (f i) else f i := by
  unfold store
  rw [List.getD_eq_getElem?_getD]

theorem store_cons (f : Cells β) (off : ℕ) (x : β) (xs : List β) :
    store (store f (off + 1) xs) off [x] = store f off (x :: xs) := by
  funext i
  simp only [store_apply]
  grind

theorem store_set (f : Cells β) (off : ℕ) (xs : List β) (j : ℕ) (x : β) (h : j < xs.length) :
    store (store f off xs) (off + j) [x] = store f off (xs.set j x) := by
  funext i
  simp only [store_apply, List.getElem?_set]
  grind

/-- Overwriting the middle of a stored list by as many values. -/
theorem store_middle (f : Cells β) (off : ℕ) (xs ys ys' zs : List β)
    (h : ys'.length = ys.length) :
    store (store f off (xs ++ ys ++ zs)) (off + xs.length) ys' = store f off (xs ++ ys' ++ zs) := by
  funext i
  simp only [store_apply]
  grind

def Placed (f : Cells β) (base size : ℕ) (cell : Cells β) : Prop := ∀ i < size, f (base + i) = cell i

section
variable {f cell : Cells β} {base size : ℕ}

theorem Placed.load (placed : Placed f base size cell) {off n : ℕ} (inside : off + n ≤ size) :
    load f (base + off) n = load cell off n := by
  apply List.map_congr_left
  intro i hi
  have less := List.mem_range.mp hi
  rw [Nat.add_assoc]
  exact placed (off + i) (by omega)

theorem Placed.store (placed : Placed f base size cell) (off : ℕ) (xs : List β) :
    Placed (store f (base + off) xs) base size (store cell off xs) := by
  intro i inside
  simp only [store_apply, Nat.add_le_add_iff_left, Nat.add_sub_add_left, placed i inside]

theorem Placed.apart (placed : Placed f base size cell) {p : ℕ} {xs : List β}
    (apart : base + size ≤ p ∨ p + xs.length ≤ base) : Placed (MemoryArray.store f p xs) base size cell := by
  intro i inside
  rw [store_outside f p xs (base + i) (by omega), placed i inside]

end

/-- An array of a program: its cells and the ranges accessed so far, latest first. -/
structure Mem (β : Type) where
  cell : Cells β
  touched : List (ℕ × ℕ)

namespace Mem

def untouched (f : Cells β) : Mem β := ⟨f, []⟩

def touch (m : Mem β) (off n : ℕ) : Mem β := { m with touched := (off, n) :: m.touched }

def store (m : Mem β) (off : ℕ) (xs : List β) : Mem β :=
  ⟨MemoryArray.store m.cell off xs, (off, xs.length) :: m.touched⟩

/-- Every access so far lay inside an array of `size` cells. -/
def Within (m : Mem β) (size : ℕ) : Prop := ∀ r ∈ m.touched, r.1 + r.2 ≤ size

@[simp] theorem touch_cell (m : Mem β) (off n : ℕ) : (m.touch off n).cell = m.cell := rfl

@[simp] theorem store_cell (m : Mem β) (off : ℕ) (xs : List β) :
    (m.store off xs).cell = MemoryArray.store m.cell off xs := rfl

@[simp] theorem untouched_cell (f : Cells β) : (untouched f).cell = f := rfl

@[simp] theorem untouched_within (f : Cells β) (size : ℕ) : (untouched f).Within size := by
  simp [Within, untouched]

@[simp] theorem touch_within (m : Mem β) (off n size : ℕ) :
    (m.touch off n).Within size ↔ off + n ≤ size ∧ m.Within size := by
  simp [Within, touch]

@[simp] theorem store_within (m : Mem β) (off size : ℕ) (xs : List β) :
    (m.store off xs).Within size ↔ off + xs.length ≤ size ∧ m.Within size := by
  simp [Within, store]

end Mem

end GreenPower.MemoryArray
