import Mathlib

set_option autoImplicit false

/-! Fixed-width words as bytes in memory, least significant byte first, and C's conversion
of an integer to eight bits. -/
namespace GreenPower.ByteWord

def toBytes : ℕ → ℕ → List UInt8
  | 0, _ => []
  | w + 1, n => UInt8.ofNat n :: toBytes w (n / 256)

def ofBytes : List UInt8 → ℕ
  | [] => 0
  | b :: bs => b.toNat + 256 * ofBytes bs

@[simp] theorem toBytes_length (w n : ℕ) : (toBytes w n).length = w := by
  induction w generalizing n with
  | zero => rfl
  | succ w ih => simp only [toBytes, List.length_cons, ih]

theorem ofBytes_toBytes (w n : ℕ) : ofBytes (toBytes w n) = n % 256 ^ w := by
  induction w generalizing n with
  | zero => simp [toBytes, ofBytes, Nat.mod_one]
  | succ w ih =>
    simp only [toBytes, ofBytes, ih, UInt8.toNat_ofNat']
    change n % 256 + 256 * (n / 256 % 256 ^ w) = n % 256 ^ (w + 1)
    rw [pow_succ', Nat.mod_mul]

theorem ofBytes_lt (bs : List UInt8) : ofBytes bs < 256 ^ bs.length := by
  induction bs with
  | nil => simp [ofBytes]
  | cons b bs ih =>
    have hb := b.toNat_lt
    simp only [ofBytes, List.length_cons, pow_succ]
    omega

theorem toBytes_ofBytes (bs : List UInt8) : toBytes bs.length (ofBytes bs) = bs := by
  induction bs with
  | nil => rfl
  | cons b bs ih =>
    have hb := b.toNat_lt
    have low : UInt8.ofNat (b.toNat + 256 * ofBytes bs) = b := by
      apply UInt8.toNat_inj.mp
      rw [UInt8.toNat_ofNat']
      omega
    have high : (b.toNat + 256 * ofBytes bs) / 256 = ofBytes bs := by omega
    simp only [List.length_cons, toBytes, ofBytes, low, high, ih]

def bytes32 (v : UInt32) : List UInt8 := toBytes 4 v.toNat

def word32 (bs : List UInt8) : UInt32 := UInt32.ofNat (ofBytes bs)

@[simp] theorem bytes32_length (v : UInt32) : (bytes32 v).length = 4 := toBytes_length 4 _

@[simp] theorem word32_bytes32 (v : UInt32) : word32 (bytes32 v) = v := by
  unfold word32 bytes32
  rw [ofBytes_toBytes, Nat.mod_eq_of_lt (by simpa using v.toNat_lt)]
  exact UInt32.ofNat_toNat

theorem bytes32_word32 (bs : List UInt8) (h : bs.length = 4) : bytes32 (word32 bs) = bs := by
  have hb := ofBytes_lt bs
  rw [h] at hb
  unfold bytes32 word32
  rw [UInt32.toNat_ofNat_of_lt' (by simpa using hb), ← h]
  exact toBytes_ofBytes bs

/-- The value an eight-bit variable holds after an integer was assigned to it. -/
def uint8 (x : ℤ) : ℕ := (x % 256).toNat

theorem uint8_lt (x : ℤ) : uint8 x < 256 := by
  unfold uint8
  omega

@[simp] theorem uint8_natCast_of_lt {n : ℕ} (h : n < 256) : uint8 n = n := by
  unfold uint8
  omega

/-- A property of all octets from its 256 instances. -/
theorem forall_uint8 {P : UInt8 → Prop} (all : ∀ n : Fin 256, P (UInt8.ofNat n)) (x : UInt8) :
    P x := by
  simpa using all ⟨x.toNat, x.toNat_lt⟩

def bitField (x : UInt8) (low width : ℕ) : ℕ := x.toNat / 2 ^ low % 2 ^ width

end GreenPower.ByteWord
