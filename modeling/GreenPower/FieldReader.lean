import Mathlib

set_option autoImplicit false

/-!
Readers of octet strings in which earlier fields announce the later ones. `Reads` says what a
reader makes of a string, `Takes` how many octets stand behind what it made.
-/
namespace GreenPower.FieldReader

abbrev Reader (α : Type) := StateT (List UInt8) Option α

def octet : Reader UInt8
  | [] => none
  | x :: rest => some (x, rest)

def many {α : Type} (r : Reader α) : ℕ → Reader (List α)
  | 0 => pure []
  | n + 1 => do
    let x ← r
    let xs ← many r n
    pure (x :: xs)

def octets (n : ℕ) : Reader (List UInt8) := many octet n

def announced {α : Type} (present : Bool) (r : Reader α) : Reader (Option α) :=
  if present then do
    let x ← r
    pure (some x)
  else pure none

variable {α β : Type}

def Reads (r : Reader α) (xs : List UInt8) (x : α) : Prop := ∀ rest, r (xs ++ rest) = some (x, rest)

/-- Behind a value of `r` stand `size` octets, less the `taken` ones, and the value is in `R`. -/
def Takes (r : Reader α) (taken : ℕ) (size : α → ℕ) (R : α → Prop) : Prop :=
  ∀ xs x rest, r xs = some (x, rest) → taken + xs.length = size x + rest.length ∧ R x

theorem Reads.all {r : Reader α} {xs : List UInt8} {x : α} (h : Reads r xs x) :
    r xs = some (x, []) := by
  rw [← List.append_nil xs]
  exact h []

theorem reads_pure (x : α) : Reads (pure x) [] x := fun _ => rfl

theorem Reads.bind {r : Reader α} {f : α → Reader β} {xs ys : List UInt8} {x : α} {y : β}
    (first : Reads r xs x) (next : Reads (f x) ys y) : Reads (r >>= f) (xs ++ ys) y := by
  intro rest
  change (r (xs ++ ys ++ rest)).bind (fun p => f p.1 p.2) = _
  rw [List.append_assoc, first]
  exact next rest

theorem reads_octet (x : UInt8) : Reads octet [x] x := fun _ => rfl

theorem Reads.map {r : Reader α} {f : α → β} {xs : List UInt8} {x : α} (h : Reads r xs x) :
    Reads (do let a ← r; pure (f a)) xs (f x) := by
  rw [← List.append_nil xs]
  exact h.bind (reads_pure _)

theorem reads_many {r : Reader α} {bytes : α → List UInt8} (each : ∀ x, Reads r (bytes x) x)
    (xs : List α) : Reads (many r xs.length) (xs.flatMap bytes) xs := by
  induction xs with
  | nil => exact reads_pure []
  | cons x xs ih => exact (each x).bind ih.map

theorem reads_octets (xs : List UInt8) : Reads (octets xs.length) xs xs := by
  have single := reads_many reads_octet xs
  rwa [List.flatMap_singleton' xs] at single

theorem reads_octets_of_length {n : ℕ} {xs : List UInt8} (length : xs.length = n) :
    Reads (octets n) xs xs :=
  length ▸ reads_octets xs

theorem reads_announced {r : Reader α} {bytes : α → List UInt8} {present : Bool} (x : Option α)
    (same : present = x.isSome) (there : ∀ a ∈ x, Reads r (bytes a) a) :
    Reads (announced present r) (x.elim [] bytes) x := by
  subst same
  cases x with
  | none => exact reads_pure none
  | some a => exact (there a rfl).map

theorem takes_pure {taken : ℕ} {size : α → ℕ} {R : α → Prop} {x : α} (all : taken = size x)
    (holds : R x) : Takes (pure x) taken size R := by
  intro xs x' rest read
  obtain ⟨rfl, rfl⟩ := Prod.mk.inj (Option.some.inj read)
  exact ⟨by rw [all], holds⟩

theorem Takes.bind {r : Reader α} {f : α → Reader β} {taken : ℕ} {size : α → ℕ} {size' : β → ℕ}
    {R : α → Prop} {S : β → Prop} (first : Takes r 0 size R)
    (next : ∀ x, R x → Takes (f x) (taken + size x) size' S) : Takes (r >>= f) taken size' S := by
  intro xs y rest read
  obtain ⟨⟨x, left⟩, got, went⟩ := Option.bind_eq_some_iff.mp read
  obtain ⟨length, holds⟩ := first xs x left got
  obtain ⟨length', holds'⟩ := next x holds left y rest went
  exact ⟨by omega, holds'⟩

theorem takes_octet : Takes octet 0 (fun _ => 1) (fun _ => True) := by
  intro xs x rest read
  cases xs with
  | nil => cases read
  | cons y ys =>
    obtain ⟨rfl, rfl⟩ := Prod.mk.inj (Option.some.inj read)
    refine ⟨?_, trivial⟩
    rw [Nat.zero_add, List.length_cons, Nat.add_comm]

theorem Takes.map {r : Reader α} {f : α → β} {size : α → ℕ} {size' : β → ℕ} {R : α → Prop}
    {S : β → Prop} (h : Takes r 0 size R) (same : ∀ x, size' (f x) = size x)
    (holds : ∀ x, R x → S (f x)) : Takes (do let a ← r; pure (f a)) 0 size' S :=
  h.bind (fun x meets => takes_pure (by rw [same, Nat.zero_add]) (holds x meets))

theorem takes_many {r : Reader α} {k : ℕ} (each : Takes r 0 (fun _ => k) (fun _ => True)) (n : ℕ) :
    Takes (many r n) 0 (fun xs => k * xs.length) (fun xs => xs.length = n) := by
  induction n with
  | zero => exact takes_pure rfl rfl
  | succ n ih =>
    refine each.bind (fun x _ => ih.bind (fun xs length => takes_pure ?_ ?_))
    · rw [List.length_cons, Nat.mul_succ]
      omega
    · rw [List.length_cons, length]

theorem takes_octets (n : ℕ) :
    Takes (octets n) 0 List.length (fun xs => xs.length = n) := by
  intro xs x rest read
  obtain ⟨length, holds⟩ := takes_many takes_octet n xs x rest read
  exact ⟨by simpa using length, holds⟩

theorem takes_announced {r : Reader α} {size : α → ℕ} {R : α → Prop} (present : Bool)
    (h : Takes r 0 size R) :
    Takes (announced present r) 0 (fun x => x.elim 0 size) (fun x => ∀ a ∈ x, R a) := by
  unfold announced
  split_ifs
  · refine h.map (fun x => rfl) ?_
    rintro x holds a ⟨⟩
    exact holds
  · refine takes_pure rfl ?_
    rintro a ⟨⟩

end GreenPower.FieldReader
