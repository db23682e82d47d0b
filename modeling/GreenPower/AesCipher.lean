import GreenPower.CounterCbcMac

set_option autoImplicit false

/-! AES with a 128-bit key on sixteen bytes in column order, and CCM over it. Bytes are
natural numbers below 256 here, so that a run on given bytes is arithmetic on numerals. -/
namespace GreenPower.AesCipher
open AuthenticatedCipher CounterCbcMac

def substitutionTable : ℕ :=
  0x16bb54b00f2d99416842e6bf0d89a18cdf2855cee9871e9b948ed9691198f8e19e1dc186b95735610ef6034866b53e708a8bbd4b1f74dde8c6b4a61c2e2578ba08ae7a65eaf4566ca94ed58d6d37c8e779e4959162acd3c25c2406490a3a32e0db0b5ede14b8ee4688902a22dc4f816073195d643d7ea7c41744975fec130ccdd2f3ff1021dab6bcf5389d928f40a351a89f3c507f02f94585334d43fbaaefd0cf584c4a39becb6a5bb1fc20ed00d153842fe329b3d63b52a05a6e1b1a2c830975b227ebe28012079a059618c323c7041531d871f1e5a534ccf73f362693fdb7c072a49cafa2d4adf04759fa7dc982ca76abd7fe2b670130c56f6bf27b777c63

def substitute (x : ℕ) : ℕ := (substitutionTable >>> (8 * x)) % 256

def double (x : ℕ) : ℕ := if x < 128 then 2 * x else (2 * x) ^^^ 0x11b

def addBytes (xs ys : List ℕ) : List ℕ := List.zipWith (· ^^^ ·) xs ys

def shiftRows (s : List ℕ) : List ℕ :=
  [0, 5, 10, 15, 4, 9, 14, 3, 8, 13, 2, 7, 12, 1, 6, 11].map (fun i => s.getD i 0)

def mixColumn (a b c d : ℕ) : List ℕ :=
  [double a ^^^ double b ^^^ b ^^^ c ^^^ d, a ^^^ double b ^^^ double c ^^^ c ^^^ d,
    a ^^^ b ^^^ double c ^^^ double d ^^^ d, double a ^^^ a ^^^ b ^^^ c ^^^ double d]

def mixColumns : List ℕ → List ℕ
  | a :: b :: c :: d :: s => mixColumn a b c d ++ mixColumns s
  | _ => []

def nextRoundKey (rcon : ℕ) (k : List ℕ) : List ℕ :=
  let core := [substitute (k.getD 13 0) ^^^ rcon, substitute (k.getD 14 0),
    substitute (k.getD 15 0), substitute (k.getD 12 0)]
  let w0 := addBytes (k.take 4) core
  let w1 := addBytes ((k.drop 4).take 4) w0
  let w2 := addBytes ((k.drop 8).take 4) w1
  w0 ++ w1 ++ w2 ++ addBytes (k.drop 12) w2

/-- The rounds after the first key addition; the last one mixes no columns. -/
def rounds : List ℕ → List ℕ → List ℕ → List ℕ
  | [], _, s => s
  | [rcon], k, s => addBytes (shiftRows (s.map substitute)) (nextRoundKey rcon k)
  | rcon :: rcons, k, s =>
    rounds rcons (nextRoundKey rcon k)
      (addBytes (mixColumns (shiftRows (s.map substitute))) (nextRoundKey rcon k))

def roundConstants : List ℕ := [1, 2, 4, 8, 16, 32, 64, 128, 27, 54]

def encryptBlock (key : Vector UInt8 16) (block : List UInt8) : List UInt8 :=
  let k := key.toList.map UInt8.toNat
  (rounds roundConstants k (addBytes (block.map UInt8.toNat) k)).map UInt8.ofNat

def aesCcm (tagSize : ℕ) : Aead (Vector UInt8 16) UInt8 tagSize := ccm encryptBlock tagSize

theorem addBytes_length {xs ys : List ℕ} (same : xs.length = ys.length) :
    (addBytes xs ys).length = xs.length := by
  simp [addBytes, same]

theorem nextRoundKey_length (rcon : ℕ) {k : List ℕ} (sixteen : k.length = 16) :
    (nextRoundKey rcon k).length = 16 := by
  simp [nextRoundKey, addBytes, sixteen]

theorem mixColumns_length {s : List ℕ} (n : ℕ) (columns : s.length = 4 * n) :
    (mixColumns s).length = 4 * n := by
  induction n generalizing s with
  | zero =>
    obtain rfl := List.length_eq_zero_iff.mp columns
    rfl
  | succ n ih =>
    match s, columns with
    | a :: b :: c :: d :: s, columns =>
      simp only [List.length_cons] at columns
      have rest := ih (s := s) (by omega)
      simp only [mixColumns, mixColumn, List.length_append, List.length_cons, List.length_nil, rest]
      omega

theorem rounds_length (rcons : List ℕ) {k s : List ℕ} (keys : k.length = 16)
    (sixteen : s.length = 16) : (rounds rcons k s).length = 16 := by
  induction rcons generalizing k s with
  | nil => exact sixteen
  | cons rcon rcons ih =>
    have next := nextRoundKey_length rcon keys
    cases rcons with
    | nil => exact addBytes_length (by simp [shiftRows, next])
    | cons rcon' rcons =>
      have mixed := mixColumns_length (s := shiftRows (s.map substitute)) 4 (by simp [shiftRows])
      apply ih next
      rw [addBytes_length (by rw [mixed, next]), mixed]

theorem encryptBlock_length (key : Vector UInt8 16) (block : List UInt8)
    (sixteen : block.length = 16) : (encryptBlock key block).length = 16 := by
  have keys : (key.toList.map UInt8.toNat).length = 16 := by simp
  unfold encryptBlock
  rw [List.length_map]
  apply rounds_length _ keys
  rw [addBytes_length (by simp [sixteen])]
  simp [sixteen]

example : encryptBlock #v[0, 1, 2, 3, 4, 5, 6, 7, 8, 9, 10, 11, 12, 13, 14, 15]
    [0x00, 0x11, 0x22, 0x33, 0x44, 0x55, 0x66, 0x77, 0x88, 0x99, 0xaa, 0xbb, 0xcc, 0xdd, 0xee,
      0xff] = [0x69, 0xc4, 0xe0, 0xd8, 0x6a, 0x7b, 0x04, 0x30, 0xd8, 0xcd, 0xb7, 0x80, 0x70,
      0xb4, 0xc5, 0x5a] := by decide +kernel

end GreenPower.AesCipher
