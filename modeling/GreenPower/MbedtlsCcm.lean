import GreenPower.AesCipher
import GreenPower.MemoryArray

set_option autoImplicit false

/-!
`ccm.c` of mbedtls: the loops that run CBC-MAC and counter mode over the caller's memory, sixteen
octets at a time. `input`, `output` and `tag` are places in that memory; the nonce and the
additional data are read before anything is written and are given as octets. The block cipher of
the context is a parameter.
-/
namespace GreenPower.MbedtlsCcm
open MemoryArray AuthenticatedCipher CounterCbcMac AesCipher

inductive Ret where
  | ok
  | badInput
  | authFailed
  deriving DecidableEq

inductive Mode where
  | encrypt
  | decrypt
  deriving DecidableEq

/-- `b[15-i] = len_left & 0xFF` from `i` on: the block and what is left of the length. -/
def putLength : ℕ → ℕ → ℕ → List UInt8 → List UInt8 × ℕ
  | 0, _, lenLeft, b => (b, lenLeft)
  | n + 1, i, lenLeft, b =>
    putLength n (i + 1) (lenLeft >>> 8) (b.set (15 - i) (UInt8.ofNat (lenLeft &&& 0xFF)))

/-- `if( ++ctr[15-i] != 0 ) break;` from `i` on. -/
def incrementCounter : ℕ → ℕ → List UInt8 → List UInt8
  | 0, _, ctr => ctr
  | n + 1, i, ctr =>
    let octet := ctr.getD (15 - i) 0 + 1
    let ctr := ctr.set (15 - i) octet
    if octet ≠ 0 then ctr else incrementCounter n (i + 1) ctr

def resetCounter : ℕ → ℕ → List UInt8 → List UInt8
  | 0, _, ctr => ctr
  | n + 1, i, ctr => resetCounter n (i + 1) (ctr.set (15 - i) 0)

section
variable {κ : Type} (E : BlockCipher κ) (key : κ)

/-- `UPDATE_CBC_MAC`. -/
def updateCbcMac (y b : List UInt8) : List UInt8 := E key (List.zipWith (· ^^^ ·) y b)

/-- `CTR_CRYPT`, octet by octet. -/
def ctrCrypt (ctr : List UInt8) (dst src len : ℕ) (mem : Cells UInt8) : Cells UInt8 :=
  let b := E key ctr
  (List.range len).foldl (fun mem i => store mem (dst + i) [mem (src + i) ^^^ b.getD i 0]) mem

def addLoop (add y : List UInt8) : List UInt8 :=
  if add.length > 0 then
    let useLen := if add.length > 16 then 16 else add.length
    addLoop (add.drop useLen) (updateCbcMac E key y (padded (add.take useLen)))
  else y
termination_by add.length
decreasing_by
  simp only [List.length_drop]
  split_ifs <;> omega

def macAdd (add y : List UInt8) : List UInt8 :=
  if add.length > 0 then
    let useLen := if add.length < 16 - 2 then add.length else 16 - 2
    let b := padded ([UInt8.ofNat (add.length >>> 8 &&& 0xFF), UInt8.ofNat (add.length &&& 0xFF)] ++
      add.take useLen)
    addLoop E key (add.drop useLen) (updateCbcMac E key y b)
  else y

def cryptLoop (mode : Mode) (q lenLeft src dst : ℕ) (mem : Cells UInt8) (y ctr : List UInt8) :
    Cells UInt8 × List UInt8 × List UInt8 :=
  if lenLeft > 0 then
    let useLen := if lenLeft > 16 then 16 else lenLeft
    let y := if mode = .encrypt then updateCbcMac E key y (padded (load mem src useLen)) else y
    let mem := ctrCrypt E key ctr dst src useLen mem
    let y := if mode = .decrypt then updateCbcMac E key y (padded (load mem dst useLen)) else y
    cryptLoop mode q (lenLeft - useLen) (src + useLen) (dst + useLen) mem y
      (incrementCounter q 0 ctr)
  else (mem, y, ctr)
termination_by lenLeft
decreasing_by split_ifs <;> omega

/-- `ccm_auth_crypt`: the status, the memory and the tag before it is copied out. -/
def ccmAuthCrypt (mode : Mode) (length : ℕ) (iv add : List UInt8) (input output tagLen : ℕ)
    (mem : Cells UInt8) : Ret × Cells UInt8 × List UInt8 :=
  if tagLen < 4 ∨ tagLen > 16 ∨ tagLen % 2 ≠ 0 then (.badInput, mem, [])
  else if iv.length < 7 ∨ iv.length > 13 then (.badInput, mem, [])
  else if add.length > 0xFF00 then (.badInput, mem, [])
  else
    let q := 16 - 1 - iv.length
    let flags : UInt8 := (if add.length > 0 then (1 : UInt8) else 0) <<< 6 |||
      UInt8.ofNat ((tagLen - 2) / 2) <<< 3 ||| UInt8.ofNat (q - 1)
    let (b, lenLeft) := putLength q 0 length (flags :: (iv ++ List.replicate q 0))
    if lenLeft > 0 then (.badInput, mem, [])
    else
      let y := updateCbcMac E key (List.replicate 16 0) b
      let y := macAdd E key add y
      let ctr := (UInt8.ofNat (q - 1) :: (iv ++ List.replicate q 0)).set 15 1
      let (mem, y, ctr) := cryptLoop E key mode q length input output mem y ctr
      let ctr := resetCounter q 0 ctr
      let y := List.zipWith (· ^^^ ·) y (E key ctr)
      (.ok, mem, y.take tagLen)

def mbedtlsCcmEncryptAndTag (length : ℕ) (iv add : List UInt8) (input output tag tagLen : ℕ)
    (mem : Cells UInt8) : Ret × Cells UInt8 :=
  let (ret, mem, y) := ccmAuthCrypt E key .encrypt length iv add input output tagLen mem
  (ret, store mem tag y)

def mbedtlsCcmAuthDecrypt (length : ℕ) (iv add : List UInt8) (input output tag tagLen : ℕ)
    (mem : Cells UInt8) : Ret × Cells UInt8 :=
  let (ret, mem, checkTag) := ccmAuthCrypt E key .decrypt length iv add input output tagLen mem
  if ret ≠ .ok then (ret, mem)
  else
    let diff := (List.range tagLen).foldl
      (fun diff i => diff ||| (mem (tag + i) ^^^ checkTag.getD i 0)) 0
    if diff ≠ 0 then (.authFailed, store mem output (List.replicate length 0)) else (.ok, mem)

end

theorem low_octet (n : ℕ) : UInt8.ofNat (n &&& 0xFF) = UInt8.ofNat n := by
  rw [show n &&& 0xFF = n % 2 ^ 8 from Nat.and_two_pow_sub_one_eq_mod n 8, UInt8.ofNat_mod_size]

theorem set_behind (xs : List UInt8) (x y : UInt8) (ys : List UInt8) {i : ℕ} (h : i = xs.length) :
    (xs ++ x :: ys).set i y = xs ++ y :: ys := by
  subst h
  simp

theorem getD_behind (xs : List UInt8) (x y : UInt8) (ys : List UInt8) {i : ℕ} (h : i = xs.length) :
    (xs ++ x :: ys).getD i y = x := by
  subst h
  simp

theorem exists_last {n : ℕ} {xs : List UInt8} (length : xs.length = n + 1) :
    ∃ ys x, xs = ys ++ [x] := by
  rcases List.eq_nil_or_concat xs with rfl | ⟨ys, x, rfl⟩
  · cases length
  · exact ⟨ys, x, List.concat_eq_append⟩

theorem putLength_eq (n i lenLeft : ℕ) {front middle back : List UInt8} (middles : middle.length = n)
    (backs : back.length = i) (sixteen : front.length + n + i = 16) :
    putLength n i lenLeft (front ++ middle ++ back) =
      (front ++ bigEndian n lenLeft ++ back, lenLeft / 256 ^ n) := by
  induction n generalizing i lenLeft middle back with
  | zero =>
    obtain rfl := List.length_eq_zero_iff.mp middles
    simp [putLength, bigEndian]
  | succ n ih =>
    obtain ⟨middle, x, rfl⟩ := exists_last middles
    have middles : middle.length = n := by simpa using middles
    have place : 15 - i = (front ++ middle).length := by
      simp only [List.length_append]
      omega
    have written : (front ++ (middle ++ [x]) ++ back).set (15 - i) (UInt8.ofNat (lenLeft &&& 0xFF)) =
        front ++ middle ++ UInt8.ofNat lenLeft :: back := by
      rw [← set_behind (front ++ middle) x (UInt8.ofNat lenLeft) back place, low_octet]
      simp
    rw [putLength, written, ih (i + 1) (lenLeft >>> 8) middles (by simp [backs]) (by omega),
      Nat.shiftRight_eq_div_pow, bigEndian_succ, Nat.div_div_eq_div_mul, ← pow_succ']
    simp

theorem incrementCounter_eq (n i c : ℕ) {front back : List UInt8} (backs : back.length = i)
    (sixteen : front.length + n + i = 16) :
    incrementCounter n i (front ++ bigEndian n c ++ back) = front ++ bigEndian n (c + 1) ++ back := by
  induction n generalizing i c back with
  | zero => simp [incrementCounter, bigEndian]
  | succ n ih =>
    have place : 15 - i = (front ++ bigEndian n (c / 256)).length := by
      simp only [List.length_append, bigEndian_length]
      omega
    have split : front ++ bigEndian (n + 1) c ++ back =
        front ++ bigEndian n (c / 256) ++ UInt8.ofNat c :: back := by
      rw [bigEndian_succ]
      simp
    have octet : UInt8.ofNat c + 1 = UInt8.ofNat (c + 1) := by
      rw [UInt8.ofNat_add]
      rfl
    have stepped : incrementCounter (n + 1) i (front ++ bigEndian (n + 1) c ++ back) =
        if UInt8.ofNat (c + 1) ≠ 0 then
          front ++ bigEndian n (c / 256) ++ UInt8.ofNat (c + 1) :: back
        else incrementCounter n (i + 1)
          (front ++ bigEndian n (c / 256) ++ UInt8.ofNat (c + 1) :: back) := by
      rw [incrementCounter, split, getD_behind _ _ _ _ place, set_behind _ _ _ _ place, octet]
    have zero : UInt8.ofNat (c + 1) = 0 ↔ (c + 1) % 256 = 0 := by
      rw [← UInt8.toNat_inj, UInt8.toNat_ofNat']
      rfl
    rw [stepped]
    by_cases carry : UInt8.ofNat (c + 1) = 0
    · rw [if_neg (not_not.mpr carry), carry]
      -- the carry goes on into the next octet
      have next : (c + 1) / 256 = c / 256 + 1 := by
        have whole := zero.mp carry
        omega
      rw [ih (i + 1) (c / 256) (by simp [backs]) (by omega), bigEndian_succ, next, carry]
      simp
    · rw [if_pos carry]
      have same : (c + 1) / 256 = c / 256 := by
        have part : (c + 1) % 256 ≠ 0 := fun whole => carry (zero.mpr whole)
        omega
      rw [bigEndian_succ, same]
      simp

theorem bigEndian_zero (n : ℕ) : bigEndian n 0 = List.replicate n 0 := by
  induction n with
  | zero => rfl
  | succ n ih =>
    rw [bigEndian_succ, Nat.zero_div, ih, List.replicate_succ']
    rfl

theorem resetCounter_eq (n i : ℕ) {front middle back : List UInt8} (middles : middle.length = n)
    (backs : back.length = i) (sixteen : front.length + n + i = 16) :
    resetCounter n i (front ++ middle ++ back) = front ++ bigEndian n 0 ++ back := by
  induction n generalizing i middle back with
  | zero =>
    obtain rfl := List.length_eq_zero_iff.mp middles
    rfl
  | succ n ih =>
    obtain ⟨middle, x, rfl⟩ := exists_last middles
    have place : 15 - i = (front ++ middle).length := by
      simp at middles ⊢
      omega
    have written : (front ++ (middle ++ [x]) ++ back).set (15 - i) 0 =
        front ++ middle ++ 0 :: back := by
      rw [← set_behind (front ++ middle) x 0 back place]
      simp
    rw [resetCounter, written, ih (i + 1) (by simpa using middles) (by simp [backs]) (by omega),
      bigEndian_succ]
    simp

section
variable {κ : Type} {E : BlockCipher κ} {key : κ}

def Follows (input output length : ℕ) : Prop := output ≤ input ∨ input + length ≤ output

theorem ctrCrypt_eq (E : BlockCipher κ) (key : κ) (ctr : List UInt8) {dst src len : ℕ}
    (mem : Cells UInt8) (follows : Follows src dst len) : ctrCrypt E key ctr dst src len mem =
      store mem dst ((load mem src len).mapIdx (fun i x => x ^^^ (E key ctr).getD i 0)) := by
  unfold ctrCrypt
  simp only
  generalize E key ctr = b
  induction len with
  | zero => simp
  | succ len ih =>
    have before : Follows src dst len := by
      unfold Follows at *
      omega
    have unwritten : store mem dst ((load mem src len).mapIdx (fun i x => x ^^^ b.getD i 0))
        (src + len) = mem (src + len) := by
      apply store_outside
      unfold Follows at follows
      simp
      omega
    have more : load mem src (len + 1) = load mem src len ++ [mem (src + len)] := by
      rw [load_add]
      rfl
    have behind := store_append mem dst
      ((load mem src len).mapIdx (fun i x => x ^^^ b.getD i 0)) [mem (src + len) ^^^ b.getD len 0]
    rw [List.length_mapIdx, load_length] at behind
    rw [List.range_succ, List.foldl_append, ih before, List.foldl_cons, List.foldl_nil, unwritten,
      behind, more, List.mapIdx_append, load_length]
    simp

def macBlocks (E : BlockCipher κ) (key : κ) (y : List UInt8) (bs : List (List UInt8)) : List UInt8 :=
  bs.foldl (updateCbcMac E key) y

theorem addLoop_eq (E : BlockCipher κ) (key : κ) (add y : List UInt8) :
    addLoop E key add y = macBlocks E key y (blocks add) := by
  induction length : add.length using Nat.strong_induction_on generalizing add y with
  | h n ih =>
    subst length
    rw [addLoop]
    by_cases some : add.length > 0
    · rw [if_pos some]
      have use : (if add.length > 16 then 16 else add.length) = min 16 add.length := by
        split_ifs <;> omega
      have first : add.take (min 16 add.length) = add.take 16 := by simp
      have rest : add.drop (min 16 add.length) = add.drop 16 := by
        by_cases long : 16 ≤ add.length
        · rw [min_eq_left long]
        · rw [min_eq_right (by omega), List.drop_length, List.drop_of_length_le (by omega)]
      simp only [use]
      rw [first, rest, ih (add.drop 16).length (by simp; omega) _ _ rfl, blocks_step some]
      rfl
    · rw [if_neg some, List.length_eq_zero_iff.mp (Nat.eq_zero_of_not_pos some)]
      rfl

theorem macAdd_eq (E : BlockCipher κ) (key : κ) (add y : List UInt8) :
    macAdd E key add y = macBlocks E key y (adBlocks add) := by
  unfold macAdd adBlocks
  by_cases some : add.length > 0
  · rw [if_pos some, if_pos some]
    have use : (if add.length < 16 - 2 then add.length else 16 - 2) = min 14 add.length := by
      split_ifs <;> omega
    have field : bigEndian 2 add.length =
        [UInt8.ofNat (add.length >>> 8 &&& 0xFF), UInt8.ofNat (add.length &&& 0xFF)] := by
      rw [low_octet, low_octet, bigEndian_succ, bigEndian_succ, Nat.shiftRight_eq_div_pow]
      rfl
    simp only [use]
    rw [addLoop_eq, ← field]
    have whole : (bigEndian 2 add.length ++ add.take (min 14 add.length)).length = 16 ∨
        add.drop (min 14 add.length) = [] := by
      by_cases long : 14 ≤ add.length
      · left
        simp
        omega
      · right
        simp
        omega
    have joined := blocks_append (by simp) (by simp; omega) whole
    rw [List.append_assoc, List.take_append_drop] at joined
    rw [joined]
    rfl
  · rw [if_neg some, if_neg some]
    rfl

def Mode.clear (mode : Mode) (input output : List UInt8) : List UInt8 :=
  match mode with
  | .encrypt => input
  | .decrypt => output

theorem counterBlock_split (nonce : List UInt8) (n : ℕ) : counterBlock nonce n =
    UInt8.ofNat (lengthSize nonce - 1) :: nonce ++ bigEndian (lengthSize nonce) n ++ [] := by
  simp [counterBlock]

theorem incrementCounter_block {nonce : List UInt8} (bound : nonce.length ≤ 13) (n : ℕ) :
    incrementCounter (lengthSize nonce) 0 (counterBlock nonce n) = counterBlock nonce (n + 1) := by
  have sixteen : (UInt8.ofNat (lengthSize nonce - 1) :: nonce).length + lengthSize nonce + 0 = 16 := by
    simp [lengthSize]
    omega
  rw [counterBlock_split, counterBlock_split]
  exact incrementCounter_eq _ 0 n rfl sixteen

theorem cryptLoop_step (E : BlockCipher κ) (key : κ) (mode : Mode) {nonce : List UInt8}
    (bound : nonce.length ≤ 13) {lenLeft src dst n : ℕ} (mem : Cells UInt8) (y : List UInt8)
    (some : 0 < lenLeft) (follows : Follows src dst lenLeft) :
    let m := load mem src (min 16 lenLeft)
    let c := cryptFrom E key nonce n m
    cryptLoop E key mode (lengthSize nonce) lenLeft src dst mem y (counterBlock nonce n) =
      cryptLoop E key mode (lengthSize nonce) (lenLeft - min 16 lenLeft) (src + min 16 lenLeft)
        (dst + min 16 lenLeft) (store mem dst c)
        (updateCbcMac E key y (padded (mode.clear m c))) (counterBlock nonce (n + 1)) := by
  have use : (if lenLeft > 16 then 16 else lenLeft) = min 16 lenLeft := by split_ifs <;> omega
  have near : Follows src dst (min 16 lenLeft) := by
    unfold Follows at *
    omega
  have crypted : ctrCrypt E key (counterBlock nonce n) dst src (min 16 lenLeft) mem =
      store mem dst (cryptFrom E key nonce n (load mem src (min 16 lenLeft))) := by
    rw [ctrCrypt_eq E key _ mem near, cryptFrom_short E key nonce n (by simp)]
    rfl
  have back := load_store_same mem dst (cryptFrom E key nonce n (load mem src (min 16 lenLeft)))
  rw [cryptFrom_length, load_length] at back
  simp only
  rw [cryptLoop, if_pos some]
  simp only [use]
  rw [crypted, incrementCounter_block bound]
  cases mode with
  | encrypt => rfl
  | decrypt =>
    rw [back]
    rfl

theorem cryptLoop_eq (E : BlockCipher κ) (key : κ) (mode : Mode) {nonce : List UInt8}
    (bound : nonce.length ≤ 13) {lenLeft src dst : ℕ} (n : ℕ) (mem : Cells UInt8) (y : List UInt8)
    (follows : Follows src dst lenLeft) :
    let m := load mem src lenLeft
    let c := cryptFrom E key nonce n m
    ∃ k, cryptLoop E key mode (lengthSize nonce) lenLeft src dst mem y (counterBlock nonce n) =
      (store mem dst c, macBlocks E key y (blocks (mode.clear m c)), counterBlock nonce k) := by
  induction lenLeft using Nat.strong_induction_on generalizing src dst n mem y with
  | h lenLeft ih =>
    rcases Nat.eq_zero_or_pos lenLeft with rfl | some
    · refine ⟨n, ?_⟩
      rw [cryptLoop, if_neg (lt_irrefl 0)]
      cases mode <;> simp [Mode.clear, blocks_nil, macBlocks]
    · simp only
      rw [cryptLoop_step E key mode bound mem y some follows]
      set u := min 16 lenLeft with hu
      set m := load mem src u with hm
      set rest := load mem (src + u) (lenLeft - u) with hrest
      have split : load mem src lenLeft = m ++ rest := by
        rw [hm, hrest, ← load_add]
        congr 1
        omega
      have whole : m.length = 16 ∨ rest = [] := by
        by_cases long : 16 ≤ lenLeft
        · left
          simp [hm, hu, long]
        · right
          apply List.length_eq_zero_iff.mp
          simp [hrest, hu]
          omega
      have unwritten : load (store mem dst (cryptFrom E key nonce n m)) (src + u) (lenLeft - u) =
          rest := by
        apply load_store_apart
        unfold Follows at follows
        simp [hm]
        omega
      have after : Follows (src + u) (dst + u) (lenLeft - u) := by
        unfold Follows at *
        omega
      obtain ⟨k, run⟩ := ih (lenLeft - u) (by omega) (n + 1)
        (store mem dst (cryptFrom E key nonce n m))
        (updateCbcMac E key y (padded (mode.clear m (cryptFrom E key nonce n m)))) after
      have behind := store_append mem dst (cryptFrom E key nonce n m)
        (cryptFrom E key nonce (n + 1) rest)
      rw [cryptFrom_length, hm, load_length, ← hm, ← cryptFrom_append E key nonce n whole] at behind
      have clear : blocks (mode.clear (m ++ rest) (cryptFrom E key nonce n (m ++ rest))) =
          padded (mode.clear m (cryptFrom E key nonce n m)) ::
            blocks (mode.clear rest (cryptFrom E key nonce (n + 1) rest)) := by
        have some' : 0 < m.length := by
          simp [hm, hu]
          omega
        have short : m.length ≤ 16 := by simp [hm, hu]
        cases mode with
        | encrypt => exact blocks_append some' short whole
        | decrypt =>
          change blocks (cryptFrom E key nonce n (m ++ rest)) = _
          rw [cryptFrom_append E key nonce n whole]
          refine blocks_append (by simpa using some') (by simpa using short) ?_
          rcases whole with whole | nil
          · exact Or.inl (by simpa using whole)
          · exact Or.inr (by rw [nil, cryptFrom_nil])
      refine ⟨k, ?_⟩
      rw [run, unwritten, behind, split, clear]
      rfl

def Accepted (tagLen : ℕ) (iv add : List UInt8) (length : ℕ) : Prop :=
  (4 ≤ tagLen ∧ tagLen ≤ 16 ∧ tagLen % 2 = 0) ∧ (7 ≤ iv.length ∧ iv.length ≤ 13) ∧
    add.length ≤ 0xFF00 ∧ length < 256 ^ lengthSize iv

instance (tagLen : ℕ) (iv add : List UInt8) (length : ℕ) :
    Decidable (Accepted tagLen iv add length) := by
  unfold Accepted
  infer_instance

theorem flags_eq {present : Prop} [Decidable present] {k j : ℕ} (hk : k < 8) (hj : j < 8) :
    ((if present then (1 : UInt8) else 0) <<< 6 ||| UInt8.ofNat k <<< 3 ||| UInt8.ofNat j) =
      UInt8.ofNat ((if present then 64 else 0) + k * 8 + j) := by
  have all : ∀ b : Bool, ∀ k < 8, ∀ j < 8,
      ((if b then (1 : UInt8) else 0) <<< 6 ||| UInt8.ofNat k <<< 3 ||| UInt8.ofNat j) =
        UInt8.ofNat ((if b then 64 else 0) + k * 8 + j) := by decide +kernel
  simpa using all (decide present) k hk j hj

theorem macBlocks_length (sixteen : ∀ b, b.length = 16 → (E key b).length = 16) {y : List UInt8}
    {bs : List (List UInt8)} (whole : ∀ b ∈ bs, b.length = 16) (start : y.length = 16) :
    (macBlocks E key y bs).length = 16 := by
  induction bs generalizing y with
  | nil => exact start
  | cons b bs ih =>
    apply ih (fun b' member => whole b' (List.mem_cons_of_mem b member))
    apply sixteen
    simp [start, whole b List.mem_cons_self]

theorem adBlocks_length (ad : List UInt8) : ∀ b ∈ adBlocks ad, b.length = 16 := by
  unfold adBlocks
  split_ifs
  · exact blocks_length _
  · exact fun b member => nomatch member

theorem tag_eq {tagLen : ℕ} (few : tagLen ≤ 16) {y mask : List UInt8} (hy : y.length = 16)
    (hm : mask.length = 16) : (List.zipWith (· ^^^ ·) y mask).take tagLen =
      (List.range tagLen).map (fun i => y.getD i 0 ^^^ mask.getD i 0) := by
  apply List.ext_getElem
  · simp [hy, hm, few]
  · intro i hi _
    have small : i < 16 := by
      simp at hi
      omega
    simp [hy, hm, small]

/-- The first block as it is put together, and what is left of the length. -/
theorem putLength_first {tagLen : ℕ} {iv : List UInt8} (tags : tagLen ≤ 16)
    (nonces : 7 ≤ iv.length ∧ iv.length ≤ 13) (add : List UInt8) (length : ℕ) :
    putLength (lengthSize iv) 0 length
      (((if add.length > 0 then (1 : UInt8) else 0) <<< 6 ||| UInt8.ofNat ((tagLen - 2) / 2) <<< 3 |||
        UInt8.ofNat (lengthSize iv - 1)) :: (iv ++ List.replicate (lengthSize iv) 0)) =
      (firstBlock tagLen iv add.length length, length / 256 ^ lengthSize iv) := by
  have octets : lengthSize iv - 1 < 8 := by
    unfold lengthSize
    omega
  rw [flags_eq (by omega) octets, ← List.cons_append]
  have written : putLength (lengthSize iv) 0 length
      ((UInt8.ofNat ((if 0 < add.length then 64 else 0) + (tagLen - 2) / 2 * 8 +
        (lengthSize iv - 1)) :: iv) ++ List.replicate (lengthSize iv) 0 ++ []) = _ :=
    putLength_eq (lengthSize iv) 0 length (by simp) rfl (by simp [lengthSize]; omega)
  rw [List.append_nil, List.append_nil] at written
  exact written

theorem first_counter {iv : List UInt8} (bound : iv.length ≤ 13) :
    (UInt8.ofNat (lengthSize iv - 1) :: (iv ++ List.replicate (lengthSize iv) 0)).set 15 1 =
      counterBlock iv 1 := by
  obtain ⟨k, more⟩ : ∃ k, lengthSize iv = k + 1 := ⟨lengthSize iv - 1, by unfold lengthSize; omega⟩
  have place : 15 = (UInt8.ofNat (lengthSize iv - 1) :: iv ++ List.replicate k 0).length := by
    simp
    unfold lengthSize at more
    omega
  have one : bigEndian (lengthSize iv) 1 = List.replicate k 0 ++ [1] := by
    rw [more, bigEndian_succ, Nat.div_eq_of_lt (by decide : 1 < 256), bigEndian_zero]
    rfl
  have zeros : List.replicate (lengthSize iv) (0 : UInt8) = List.replicate k 0 ++ [0] := by
    rw [more, List.replicate_succ']
  have written := set_behind _ (0 : UInt8) 1 [] place
  rw [counterBlock, one, zeros]
  simpa using written

theorem resetCounter_block {iv : List UInt8} (bound : iv.length ≤ 13) (k : ℕ) :
    resetCounter (lengthSize iv) 0 (counterBlock iv k) = counterBlock iv 0 := by
  rw [counterBlock_split, counterBlock_split]
  exact resetCounter_eq _ 0 (by simp) rfl (by simp [lengthSize]; omega)

theorem ccmAuthCrypt_refused (E : BlockCipher κ) (key : κ) (mode : Mode) {length : ℕ}
    {iv add : List UInt8} (input output : ℕ) {tagLen : ℕ} (mem : Cells UInt8)
    (refused : ¬ Accepted tagLen iv add length) :
    ccmAuthCrypt E key mode length iv add input output tagLen mem = (.badInput, mem, []) := by
  unfold ccmAuthCrypt
  by_cases tags : tagLen < 4 ∨ tagLen > 16 ∨ tagLen % 2 ≠ 0
  · rw [if_pos tags]
  by_cases nonces : iv.length < 7 ∨ iv.length > 13
  · rw [if_neg tags, if_pos nonces]
  by_cases adds : add.length > 0xFF00
  · rw [if_neg tags, if_neg nonces, if_pos adds]
  have left : length / 256 ^ lengthSize iv > 0 := by
    have long : ¬ length < 256 ^ lengthSize iv :=
      fun fits => refused ⟨by omega, by omega, by omega, fits⟩
    exact Nat.div_pos (by omega) (by positivity)
  rw [if_neg tags, if_neg nonces, if_neg adds]
  simp only
  rw [show 16 - 1 - iv.length = lengthSize iv from rfl,
    putLength_first (by omega) (by omega) add length]
  simp only
  rw [if_pos left]

theorem counterBlock_length {nonce : List UInt8} (bound : nonce.length ≤ 13) (n : ℕ) :
    (counterBlock nonce n).length = 16 := by
  simp [counterBlock, lengthSize]
  omega

/-- The loops compute CCM. -/
theorem ccmAuthCrypt_accepted (sixteen : ∀ b, b.length = 16 → (E key b).length = 16) (mode : Mode)
    {length : ℕ} {iv add : List UInt8} {input output tagLen : ℕ} (mem : Cells UInt8)
    (accepted : Accepted tagLen iv add length) (follows : Follows input output length) :
    let m := load mem input length
    let c := crypt E key iv m
    ccmAuthCrypt E key mode length iv add input output tagLen mem =
      (.ok, store mem output c, ccmTag E tagLen key iv add (mode.clear m c)) := by
  obtain ⟨tags, nonces, adds, fits⟩ := accepted
  simp only
  set m := load mem input length with hm
  set clear := mode.clear m (crypt E key iv m) with hclear
  have clears : clear.length = length := by
    rw [hclear]
    cases mode <;> simp [Mode.clear, hm]
  unfold ccmAuthCrypt
  rw [if_neg (by omega), if_neg (by omega), if_neg (by omega)]
  simp only
  rw [show 16 - 1 - iv.length = lengthSize iv from rfl, putLength_first tags.2.1 nonces add length,
    first_counter nonces.2, macAdd_eq]
  simp only
  rw [if_neg (by rw [Nat.div_eq_of_lt fits]; omega)]
  obtain ⟨k, run⟩ := cryptLoop_eq E key mode nonces.2 1 mem
    (macBlocks E key (updateCbcMac E key (List.replicate 16 0)
      (firstBlock tagLen iv add.length length)) (adBlocks add)) follows
  simp only [← crypt_eq_from, ← hm, ← hclear] at run
  have mac : macBlocks E key (macBlocks E key (updateCbcMac E key (List.replicate 16 0)
      (firstBlock tagLen iv add.length length)) (adBlocks add)) (blocks clear) =
        cbcMac E key (firstBlock tagLen iv add.length clear.length ::
          (adBlocks add ++ blocks clear)) := by
    rw [clears]
    unfold macBlocks cbcMac
    rw [List.foldl_cons, List.foldl_append]
    rfl
  have firsts : (firstBlock tagLen iv add.length clear.length).length = 16 := by
    simp [firstBlock, lengthSize]
    omega
  have macs : (cbcMac E key (firstBlock tagLen iv add.length clear.length ::
      (adBlocks add ++ blocks clear))).length = 16 := by
    apply macBlocks_length sixteen (y := List.replicate 16 0)
    · intro b member
      rcases List.mem_cons.mp member with rfl | member
      · exact firsts
      · rcases List.mem_append.mp member with member | member
        · exact adBlocks_length add b member
        · exact blocks_length clear b member
    · simp
  rw [run]
  simp only
  rw [mac, resetCounter_block nonces.2,
    tag_eq tags.2.1 macs (sixteen _ (counterBlock_length nonces.2 0))]
  rfl

/-- Encryption writes the ciphertext and the tag of CCM, or nothing. -/
theorem mbedtlsCcmEncryptAndTag_eq (sixteen : ∀ b, b.length = 16 → (E key b).length = 16)
    (length : ℕ) (iv add : List UInt8) (input output tag tagLen : ℕ) (mem : Cells UInt8)
    (follows : Follows input output length) :
    let m := load mem input length
    mbedtlsCcmEncryptAndTag E key length iv add input output tag tagLen mem =
      if Accepted tagLen iv add length then
        (.ok, store (store mem output ((ccm E tagLen).encipher key iv m)) tag
          ((ccm E tagLen).tag key iv add m))
      else (.badInput, mem) := by
  simp only
  unfold mbedtlsCcmEncryptAndTag
  by_cases accepted : Accepted tagLen iv add length
  · rw [ccmAuthCrypt_accepted sixteen .encrypt mem accepted follows, if_pos accepted]
    rfl
  · rw [ccmAuthCrypt_refused E key .encrypt input output mem accepted, if_neg accepted]
    simp

def selfTestKey : Vector UInt8 16 :=
  #v[0x40, 0x41, 0x42, 0x43, 0x44, 0x45, 0x46, 0x47, 0x48, 0x49, 0x4a, 0x4b, 0x4c, 0x4d, 0x4e, 0x4f]

def selfTestIv : List UInt8 := [0x10, 0x11, 0x12, 0x13, 0x14, 0x15, 0x16]

def selfTestAd : List UInt8 := [0x00, 0x01, 0x02, 0x03, 0x04, 0x05, 0x06, 0x07]

theorem mbedtlsCcmEncryptAndTag_selfTest :
    let mem : Cells UInt8 := store (fun _ => 0) 0 [0x20, 0x21, 0x22, 0x23]
    mbedtlsCcmEncryptAndTag encryptBlock selfTestKey 4 selfTestIv selfTestAd 0 32 36 4 mem =
      (.ok, store (store mem 32 [0x71, 0x62, 0x01, 0x5b]) 36 [0x4d, 0xac, 0x25, 0x5d]) := by
  intro mem
  have run := mbedtlsCcmEncryptAndTag_eq (encryptBlock_length selfTestKey) 4 selfTestIv selfTestAd
    0 32 36 4 mem (by unfold Follows; omega)
  have accepted : Accepted 4 selfTestIv selfTestAd 4 := by decide
  have cipher : (ccm encryptBlock 4).encipher selfTestKey selfTestIv (load mem 0 4) =
      [0x71, 0x62, 0x01, 0x5b] := by decide +kernel
  have tag : (ccm encryptBlock 4).tag selfTestKey selfTestIv selfTestAd (load mem 0 4) =
      [0x4d, 0xac, 0x25, 0x5d] := by decide +kernel
  rw [run, if_pos accepted, cipher, tag]

theorem diff_eq_zero (f g : ℕ → UInt8) (n : ℕ) :
    (List.range n).foldl (fun diff i => diff ||| (f i ^^^ g i)) 0 = 0 ↔ ∀ i < n, f i = g i := by
  induction n with
  | zero => simp
  | succ n ih =>
    rw [List.range_succ, List.foldl_append, List.foldl_cons, List.foldl_nil, UInt8.or_eq_zero_iff,
      UInt8.xor_eq_zero_iff, ih]
    constructor
    · rintro ⟨before, last⟩ i less
      rcases Nat.lt_succ_iff_lt_or_eq.mp less with less | rfl
      · exact before i less
      · exact last
    · exact fun all => ⟨fun i less => all i (Nat.lt_succ_of_lt less), all n (Nat.lt_succ_self n)⟩

/-- The tags agree octet by octet. -/
theorem tags_agree_iff (mem : Cells UInt8) (tag : ℕ) {checkTag : List UInt8} {tagLen : ℕ}
    (length : checkTag.length = tagLen) :
    (List.range tagLen).foldl (fun diff i => diff ||| (mem (tag + i) ^^^ checkTag.getD i 0)) 0 = 0 ↔
      checkTag = load mem tag tagLen := by
  rw [diff_eq_zero (fun i => mem (tag + i)) (fun i => checkTag.getD i 0)]
  constructor
  · intro all
    apply List.ext_getElem
    · simp [length]
    · intro i hi hi'
      rw [load_get, all i (by omega)]
      simp [hi]
  · rintro same i less
    rw [same, List.getD_eq_getElem _ _ (by simpa using less), load_get]

/-- Decryption checks the tag before it lets the message out, or writes nothing. -/
theorem mbedtlsCcmAuthDecrypt_eq (sixteen : ∀ b, b.length = 16 → (E key b).length = 16)
    (length : ℕ) (iv add : List UInt8) (input output tag tagLen : ℕ) (mem : Cells UInt8)
    (follows : Follows input output length)
    (apart : tag + tagLen ≤ output ∨ output + length ≤ tag) :
    let plain := (ccm E tagLen).authDecrypt 0 key iv add (load mem input length)
      (load mem tag tagLen)
    mbedtlsCcmAuthDecrypt E key length iv add input output tag tagLen mem =
      if Accepted tagLen iv add length then
        (if plain.1 then .ok else .authFailed, store mem output plain.2)
      else (.badInput, mem) := by
  simp only
  unfold mbedtlsCcmAuthDecrypt
  by_cases accepted : Accepted tagLen iv add length
  · have run : ccmAuthCrypt E key .decrypt length iv add input output tagLen mem =
        (.ok, store mem output (crypt E key iv (load mem input length)),
          ccmTag E tagLen key iv add (crypt E key iv (load mem input length))) :=
      ccmAuthCrypt_accepted sixteen .decrypt mem accepted follows
    rw [run, if_pos accepted]
    simp only
    have sent : load (store mem output (crypt E key iv (load mem input length))) tag tagLen =
        load mem tag tagLen := by
      apply load_store_apart
      simpa using apart
    have tags : (ccmTag E tagLen key iv add (crypt E key iv (load mem input length))).length =
        tagLen := by
      simp [ccmTag]
    have agree := tags_agree_iff (store mem output (crypt E key iv (load mem input length))) tag tags
    rw [sent] at agree
    rw [if_neg (not_not.mpr rfl)]
    split
    · rename_i differs
      have refused : ¬ (ccm E tagLen).Verifies key iv add (load mem input length)
          (load mem tag tagLen) := fun verifies => differs (agree.mpr verifies)
      have cleared := store_middle mem output [] (crypt E key iv (load mem input length))
        (List.replicate length 0) [] (by simp)
      simp only [List.nil_append, List.append_nil, List.length_nil, Nat.add_zero] at cleared
      rw [(ccm E tagLen).authDecrypt_of_not_verifies 0 refused, cleared, load_length]
      rfl
    · rename_i same
      have verifies : (ccm E tagLen).Verifies key iv add (load mem input length)
          (load mem tag tagLen) := agree.mp (not_not.mp same)
      rw [(ccm E tagLen).authDecrypt_of_verifies 0 verifies]
      rfl
  · rw [ccmAuthCrypt_refused E key .decrypt input output mem accepted, if_neg accepted]
    rfl

theorem mbedtlsCcmAuthDecrypt_selfTest :
    let mem : Cells UInt8 :=
      store (fun _ => 0) 0 [0x71, 0x62, 0x01, 0x5b, 0x4d, 0xac, 0x25, 0x5d]
    mbedtlsCcmAuthDecrypt encryptBlock selfTestKey 4 selfTestIv selfTestAd 0 32 4 4 mem =
      (.ok, store mem 32 [0x20, 0x21, 0x22, 0x23]) := by
  intro mem
  have run := mbedtlsCcmAuthDecrypt_eq (encryptBlock_length selfTestKey) 4 selfTestIv selfTestAd
    0 32 4 4 mem (by unfold Follows; omega) (by omega)
  have accepted : Accepted 4 selfTestIv selfTestAd 4 := by decide
  have plain : (ccm encryptBlock 4).authDecrypt 0 selfTestKey selfTestIv selfTestAd (load mem 0 4)
      (load mem 4 4) = (true, [0x20, 0x21, 0x22, 0x23]) := by decide +kernel
  rw [run, if_pos accepted, plain]
  rfl

end

end GreenPower.MbedtlsCcm
