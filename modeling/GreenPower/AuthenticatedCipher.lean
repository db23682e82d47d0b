import Mathlib

set_option autoImplicit false

/-!
An authenticated cipher with associated data and a tag that travels beside the
ciphertext. The laws are those of counter-mode constructions such as CCM: the ciphertext
is as long as the message and deciphering inverts enciphering. `authDecrypt` checks the
tag last and, on a mismatch, returns a cleared output of the same length.
-/
namespace GreenPower.AuthenticatedCipher

structure Aead (κ β : Type) (tagSize : ℕ) where
  encipher : κ → List β → List β → List β
  decipher : κ → List β → List β → List β
  tag : κ → List β → List β → List β → List β
  decipher_encipher : ∀ key nonce m, decipher key nonce (encipher key nonce m) = m
  encipher_length : ∀ key nonce m, (encipher key nonce m).length = m.length
  decipher_length : ∀ key nonce c, (decipher key nonce c).length = c.length
  tag_length : ∀ key nonce ad m, (tag key nonce ad m).length = tagSize

namespace Aead

variable {κ β : Type} {tagSize : ℕ} [DecidableEq β] (A : Aead κ β tagSize)

attribute [simp] encipher_length decipher_length tag_length decipher_encipher

/-- The tag check alone: the transmitted tag is that of the deciphered message. -/
def Verifies (key : κ) (nonce ad c t : List β) : Prop :=
  A.tag key nonce ad (A.decipher key nonce c) = t

instance (key : κ) (nonce ad c t : List β) : Decidable (A.Verifies key nonce ad c t) := by
  unfold Verifies
  infer_instance

def authDecrypt (zero : β) (key : κ) (nonce ad c t : List β) : Bool × List β :=
  if A.Verifies key nonce ad c t then (true, A.decipher key nonce c)
  else (false, List.replicate c.length zero)

theorem authDecrypt_status (zero : β) (key : κ) (nonce ad c t : List β) :
    (A.authDecrypt zero key nonce ad c t).1 = true ↔ A.Verifies key nonce ad c t := by
  unfold authDecrypt
  split_ifs with h <;> simp [h]

theorem authDecrypt_of_verifies (zero : β) {key : κ} {nonce ad c t : List β}
    (h : A.Verifies key nonce ad c t) :
    A.authDecrypt zero key nonce ad c t = (true, A.decipher key nonce c) := if_pos h

theorem authDecrypt_of_not_verifies (zero : β) {key : κ} {nonce ad c t : List β}
    (h : ¬ A.Verifies key nonce ad c t) :
    A.authDecrypt zero key nonce ad c t = (false, List.replicate c.length zero) := if_neg h

@[simp] theorem authDecrypt_length (zero : β) (key : κ) (nonce ad c t : List β) :
    (A.authDecrypt zero key nonce ad c t).2.length = c.length := by
  unfold authDecrypt
  split_ifs <;> simp

omit [DecidableEq β] in
theorem verifies_encipher (key : κ) (nonce ad m : List β) :
    A.Verifies key nonce ad (A.encipher key nonce m) (A.tag key nonce ad m) := by
  unfold Verifies
  rw [A.decipher_encipher]

theorem authDecrypt_encipher (zero : β) (key : κ) (nonce ad m : List β) :
    A.authDecrypt zero key nonce ad (A.encipher key nonce m) (A.tag key nonce ad m) =
      (true, m) := by
  rw [A.authDecrypt_of_verifies zero (A.verifies_encipher key nonce ad m), A.decipher_encipher]

end Aead

end GreenPower.AuthenticatedCipher
