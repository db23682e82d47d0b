import GreenPower.AuthenticatedCipher

set_option autoImplicit false

/-!
CCM over an arbitrary block cipher: a CBC-MAC of the first block, the associated data and
the message, and counter mode from counter 1, with counter 0 masking the tag.
-/
namespace GreenPower.CounterCbcMac
open AuthenticatedCipher

variable {κ : Type}

abbrev BlockCipher (κ : Type) := κ → List UInt8 → List UInt8

def bigEndian (w n : ℕ) : List UInt8 :=
  (List.range w).map (fun i => UInt8.ofNat (n / 256 ^ (w - 1 - i)))

def blocks (xs : List UInt8) : List (List UInt8) :=
  (List.range ((xs.length + 15) / 16)).map
    (fun i => (List.range 16).map (fun j => xs.getD (16 * i + j) 0))

/-- Octets of the counter and of the length field: 15 less the nonce's length. -/
def lengthSize (nonce : List UInt8) : ℕ := 15 - nonce.length

def firstBlock (tagSize : ℕ) (nonce : List UInt8) (adLength length : ℕ) : List UInt8 :=
  UInt8.ofNat ((if 0 < adLength then 64 else 0) + (tagSize - 2) / 2 * 8 + (lengthSize nonce - 1)) ::
    (nonce ++ bigEndian (lengthSize nonce) length)

def adBlocks (ad : List UInt8) : List (List UInt8) :=
  if 0 < ad.length then blocks (bigEndian 2 ad.length ++ ad) else []

def counterBlock (nonce : List UInt8) (i : ℕ) : List UInt8 :=
  UInt8.ofNat (lengthSize nonce - 1) :: (nonce ++ bigEndian (lengthSize nonce) i)

def cbcMac (E : BlockCipher κ) (key : κ) (bs : List (List UInt8)) : List UInt8 :=
  bs.foldl (fun y b => E key (List.zipWith (· ^^^ ·) y b)) (List.replicate 16 0)

def keystream (E : BlockCipher κ) (key : κ) (nonce : List UInt8) (i : ℕ) : List UInt8 :=
  E key (counterBlock nonce i)

def crypt (E : BlockCipher κ) (key : κ) (nonce m : List UInt8) : List UInt8 :=
  m.mapIdx (fun i x => x ^^^ (keystream E key nonce (i / 16 + 1)).getD (i % 16) 0)

def ccmTag (E : BlockCipher κ) (tagSize : ℕ) (key : κ) (nonce ad m : List UInt8) : List UInt8 :=
  let y := cbcMac E key (firstBlock tagSize nonce ad.length m.length :: (adBlocks ad ++ blocks m))
  let mask := keystream E key nonce 0
  (List.range tagSize).map (fun i => y.getD i 0 ^^^ mask.getD i 0)

@[simp] theorem crypt_length (E : BlockCipher κ) (key : κ) (nonce m : List UInt8) :
    (crypt E key nonce m).length = m.length := List.length_mapIdx

/-- Counter mode is its own inverse. -/
theorem crypt_crypt (E : BlockCipher κ) (key : κ) (nonce m : List UInt8) :
    crypt E key nonce (crypt E key nonce m) = m := by
  apply List.ext_getElem (by simp)
  intro i _ _
  simp [crypt]

def padded (xs : List UInt8) : List UInt8 := xs ++ List.replicate (16 - xs.length) 0

theorem blocks_nil : blocks [] = [] := rfl

theorem blocks_step {xs : List UInt8} (some : 0 < xs.length) :
    blocks xs = padded (xs.take 16) :: blocks (xs.drop 16) := by
  have count : (xs.length + 15) / 16 = ((xs.drop 16).length + 15) / 16 + 1 := by
    simp only [List.length_drop]
    omega
  unfold blocks
  rw [count, List.range_succ_eq_map (n := ((xs.drop 16).length + 15) / 16), List.map_cons,
    List.map_map]
  congr 1
  · apply List.ext_getElem
    · simp [padded]
    · intro j hj _
      have small : j < 16 := by simpa using hj
      simp only [List.getElem_map, List.getElem_range, padded, List.getElem_append,
        List.getElem_take, List.getElem_replicate, List.length_take]
      by_cases inside : j < xs.length
      · simp [inside, small]
      · simp [inside, small]
  · apply List.map_congr_left
    intro i _
    apply List.map_congr_left
    intro j _
    simp only [List.getD_eq_getElem?_getD, List.getElem?_drop]
    congr 2
    change 16 * (i + 1) + j = 16 + (16 * i + j)
    omega

theorem blocks_append {xs ys : List UInt8} (some : 0 < xs.length) (short : xs.length ≤ 16)
    (whole : xs.length = 16 ∨ ys = []) : blocks (xs ++ ys) = padded xs :: blocks ys := by
  have first : (xs ++ ys).take 16 = xs := by
    rcases whole with whole | rfl
    · exact List.take_left' whole
    · rw [List.append_nil, List.take_of_length_le short]
  have rest : (xs ++ ys).drop 16 = ys := by
    rcases whole with whole | rfl
    · exact List.drop_left' whole
    · rw [List.append_nil, List.drop_of_length_le short]
  rw [blocks_step (by simp; omega), first, rest]

theorem blocks_length (xs : List UInt8) : ∀ b ∈ blocks xs, b.length = 16 := by
  intro b member
  unfold blocks at member
  obtain ⟨i, _, rfl⟩ := List.mem_map.mp member
  simp

def cryptFrom (E : BlockCipher κ) (key : κ) (nonce : List UInt8) (n : ℕ) (m : List UInt8) :
    List UInt8 :=
  m.mapIdx (fun i x => x ^^^ (keystream E key nonce (i / 16 + n)).getD (i % 16) 0)

theorem crypt_eq_from (E : BlockCipher κ) (key : κ) (nonce m : List UInt8) :
    crypt E key nonce m = cryptFrom E key nonce 1 m := rfl

@[simp] theorem cryptFrom_length (E : BlockCipher κ) (key : κ) (nonce : List UInt8) (n : ℕ)
    (m : List UInt8) : (cryptFrom E key nonce n m).length = m.length := List.length_mapIdx

@[simp] theorem cryptFrom_nil (E : BlockCipher κ) (key : κ) (nonce : List UInt8) (n : ℕ) :
    cryptFrom E key nonce n [] = [] := rfl

theorem cryptFrom_append (E : BlockCipher κ) (key : κ) (nonce : List UInt8) (n : ℕ)
    {xs ys : List UInt8} (whole : xs.length = 16 ∨ ys = []) :
    cryptFrom E key nonce n (xs ++ ys) =
      cryptFrom E key nonce n xs ++ cryptFrom E key nonce (n + 1) ys := by
  rcases whole with whole | rfl
  · unfold cryptFrom
    rw [List.mapIdx_append, whole]
    congr 2
    funext i x
    have block : (i + 16) / 16 + n = i / 16 + (n + 1) := by omega
    rw [block, Nat.add_mod_right]
  · rw [List.append_nil, cryptFrom_nil, List.append_nil]

theorem cryptFrom_short (E : BlockCipher κ) (key : κ) (nonce : List UInt8) (n : ℕ)
    {xs : List UInt8} (short : xs.length ≤ 16) : cryptFrom E key nonce n xs =
      xs.mapIdx (fun i x => x ^^^ (keystream E key nonce n).getD i 0) := by
  apply List.ext_getElem
  · simp
  · intro i hi _
    have small : i < 16 := by
      have inside : i < xs.length := by simpa using hi
      omega
    simp [cryptFrom, Nat.div_eq_of_lt small, Nat.mod_eq_of_lt small]

theorem bigEndian_succ (w n : ℕ) :
    bigEndian (w + 1) n = bigEndian w (n / 256) ++ [UInt8.ofNat n] := by
  unfold bigEndian
  rw [List.range_succ, List.map_append]
  congr 1
  · apply List.map_congr_left
    intro i hi
    have inside := List.mem_range.mp hi
    have power : w + 1 - 1 - i = w - 1 - i + 1 := by omega
    rw [power, pow_succ', ← Nat.div_div_eq_div_mul]
  · simp

@[simp] theorem bigEndian_length (w n : ℕ) : (bigEndian w n).length = w := by
  simp [bigEndian]

def ccm (E : BlockCipher κ) (tagSize : ℕ) : Aead κ UInt8 tagSize where
  encipher := crypt E
  decipher := crypt E
  tag := ccmTag E tagSize
  decipher_encipher := crypt_crypt E
  encipher_length := crypt_length E
  decipher_length := crypt_length E
  tag_length := by
    intro key nonce ad m
    simp [ccmTag]

end GreenPower.CounterCbcMac
