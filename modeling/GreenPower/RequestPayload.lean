import GreenPower.Commissioning

set_option autoImplicit false

/-!
The commissioning command as a list of octets: what `gpdBuildCommissioningCommand` leaves below
the index it returns. The frame counter is the only part of it that changes from one request to
the next.
-/
namespace GreenPower.RequestPayload
open MemoryArray ByteWord BuildOptions DeviceState Security FrameBuild CommissioningCommand

def sealedKey (b : Build) (key : Key) (s : Device) : List UInt8 :=
  (emberGpdSecurityEncryptKey b s.gpdNode.addr key s).1 ++
    (emberGpdSecurityEncryptKey b s.gpdNode.addr key s).2.1

/-- An unencrypted key is overwritten by what follows it, so nothing of it is sent. -/
def keyField (b : Build) (present : Bool) (key : Key) (s : Device) : List UInt8 :=
  if present = true ∧ b.keyEncrypt = true then sealedKey b key s else []

def Extended (b : Build) : Prop := b.securityLevel > securityLevelNone

instance (b : Build) : Decidable (Extended b) := by
  unfold Extended
  infer_instance

/-- What comes before the frame counter. Without security the options are overwritten too. -/
def requestFront (b : Build) (present : Bool) (keyType : UInt8) (key : Key) (s : Device) :
    List UInt8 :=
  [cmdCommissioning, b.appDeviceId] ++
    (if Extended b then
      optionsField b keyType :: extendedOptionsField b present keyType :: keyField b present key s
    else [])

def requestCounter (b : Build) (frameCounter : UInt32) : List UInt8 :=
  if Extended b then copy4Bytes frameCounter else []

def requestBack (b : Build) : List UInt8 :=
  if b.appInfo = true then appInfoField b :: appInformation b else []

def requestPayload (b : Build) (present : Bool) (keyType : UInt8) (key : Key)
    (frameCounter : UInt32) (s : Device) : List UInt8 :=
  requestFront b present keyType key s ++ requestCounter b frameCounter ++ requestBack b

def Filled (cmd : ℕ × Mem UInt8) (bytes : List UInt8) : Prop :=
  cmd.1 = bytes.length ∧ load cmd.2.cell 0 bytes.length = bytes

theorem filled_start (cmd : Mem UInt8) : Filled (0, cmd) [] := ⟨rfl, rfl⟩

theorem Filled.store {cmd : ℕ × Mem UInt8} {bytes : List UInt8} (h : Filled cmd bytes)
    (xs : List UInt8) : Filled (cmd.1, cmd.2.store cmd.1 xs) bytes := by
  refine ⟨h.1, ?_⟩
  rw [Mem.store_cell, load_store_apart _ _ _ _ _ (Or.inl (by rw [h.1, Nat.zero_add]))]
  exact h.2

theorem Filled.put {cmd : ℕ × Mem UInt8} {bytes : List UInt8} (h : Filled cmd bytes)
    (xs : List UInt8) : Filled (put xs cmd) (bytes ++ xs) := by
  have before := (h.store xs).2
  refine ⟨?_, ?_⟩
  · rw [List.length_append, ← h.1]
    rfl
  · rw [List.length_append, load_add, Nat.zero_add]
    refine congrArg₂ (· ++ ·) before ?_
    rw [← h.1]
    exact load_store_same _ _ _

theorem Filled.load {cmd : ℕ × Mem UInt8} {bytes : List UInt8} (h : Filled cmd bytes) {n : ℕ}
    (le : n ≤ bytes.length) : load cmd.2.cell 0 n = bytes.take n := by
  rw [← h.2]
  have split : bytes.length = n + (bytes.length - n) := by omega
  rw [split, load_add, List.take_left' (load_length _ _ _)]

section
variable (b : Build)

theorem putKey_filled {cmd : ℕ × Mem UInt8} {bytes : List UInt8} (h : Filled cmd bytes)
    (key : Key) (s : Device) :
    Filled (putKey b key cmd s).1 (bytes ++ if b.keyEncrypt = true then sealedKey b key s else []) := by
  unfold putKey
  split_ifs with encrypt
  · rw [sealedKey, ← List.append_assoc]
    exact (h.put _).put _
  · rw [List.append_nil]
    exact h.store _

theorem uint8_le (n : ℕ) : uint8 n ≤ n := by
  unfold uint8
  omega

def putInfo (cmd : ℕ × Mem UInt8) : ℕ × Mem UInt8 :=
  if b.appInfo = true then put (appInformation b) (put [appInfoField b] cmd) else cmd

theorem putInfo_filled {cmd : ℕ × Mem UInt8} {bytes : List UInt8} (h : Filled cmd bytes) :
    Filled (putInfo b cmd) (bytes ++ requestBack b) := by
  unfold putInfo requestBack
  split_ifs
  · have info := (h.put [appInfoField b]).put (appInformation b)
    rwa [List.append_assoc] at info
  · rwa [List.append_nil]

def putSecurity (present : Bool) (keyType : UInt8) (key : Key) (frameCounter : UInt32)
    (cmd : ℕ × Mem UInt8) (s : Device) : ℕ × Mem UInt8 :=
  let cmd := (cmd.1, cmd.2.store cmd.1 [optionsField b keyType])
  if b.securityLevel > securityLevelNone then
    let options := put [extendedOptionsField b present keyType] (cmd.1 + 1, cmd.2)
    put (copy4Bytes frameCounter) (if present = true then (putKey b key options s).1 else options)
  else cmd

theorem putSecurity_filled {cmd : ℕ × Mem UInt8} {bytes : List UInt8} (h : Filled cmd bytes)
    (present : Bool) (keyType : UInt8) (key : Key) (frameCounter : UInt32) (s : Device) :
    Filled (putSecurity b present keyType key frameCounter cmd s) (bytes ++
      (if Extended b then
        optionsField b keyType :: extendedOptionsField b present keyType :: keyField b present key s
      else []) ++ requestCounter b frameCounter) := by
  have options : Filled (put [extendedOptionsField b present keyType]
      (cmd.1 + 1, cmd.2.store cmd.1 [optionsField b keyType])) (bytes ++ [optionsField b keyType] ++
        [extendedOptionsField b present keyType]) :=
    (h.put [optionsField b keyType]).put [extendedOptionsField b present keyType]
  unfold putSecurity requestCounter keyField
  by_cases extended : Extended b
  · have level : b.securityLevel > securityLevelNone := extended
    rw [if_pos level, if_pos extended, if_pos extended]
    cases present with
    | true =>
      have counter := (putKey_filled b options key s).put (copy4Bytes frameCounter)
      simpa using counter
    | false =>
      have counter := options.put (copy4Bytes frameCounter)
      simpa using counter
  · have level : ¬ b.securityLevel > securityLevelNone := extended
    rw [if_neg level, if_neg extended, if_neg extended, List.append_nil, List.append_nil]
    exact h.store _

theorem gpdBuildCommissioningCommand_eq (present : Bool) (keyType : UInt8) (key : Key)
    (frameCounter : UInt32) (cmd : Mem UInt8) (s : Device) :
    let built := putInfo b (putSecurity b present keyType key frameCounter
      (put [cmdCommissioning, b.appDeviceId] (0, cmd)) s)
    (gpdBuildCommissioningCommand b present keyType key frameCounter cmd s).1 =
      (uint8 built.1, built.2) := by
  unfold gpdBuildCommissioningCommand putInfo putSecurity
  by_cases level : b.securityLevel > securityLevelNone
  · cases present <;> simp only [level, if_true, if_false, Bool.false_eq_true]
  · simp only [level, if_false]

/-- The command that is built, and the length returned for it. -/
theorem gpdBuildCommissioningCommand_filled (present : Bool) (keyType : UInt8) (key : Key)
    (frameCounter : UInt32) (cmd : Mem UInt8) (s : Device) :
    let bytes := requestPayload b present keyType key frameCounter s
    let out := (gpdBuildCommissioningCommand b present keyType key frameCounter cmd s).1
    out.1 = uint8 bytes.length ∧ load out.2.cell 0 out.1 = bytes.take out.1 := by
  have start := (filled_start cmd).put [cmdCommissioning, b.appDeviceId]
  have filled := putInfo_filled b (putSecurity_filled b start present keyType key frameCounter s)
  simp only [gpdBuildCommissioningCommand_eq]
  generalize putInfo b (putSecurity b present keyType key frameCounter
    (put [cmdCommissioning, b.appDeviceId] (0, cmd)) s) = built at filled
  have same : Filled built (requestPayload b present keyType key frameCounter s) := filled
  rw [← same.1]
  refine ⟨rfl, same.load ?_⟩
  rw [← same.1]
  exact uint8_le _

theorem sealedKey_length (key : Key) (s : Device) : (sealedKey b key s).length = 20 := by
  unfold sealedKey emberGpdSecurityEncryptKey
  simp only [List.length_append, AuthenticatedCipher.Aead.encipher_length,
    AuthenticatedCipher.Aead.tag_length, List.length_drop, copy4Bytes_length, Vector.length_toList]
  rfl

/-- Where the frame counter stands in a request with the key present. -/
def counterIndex : ℕ := if b.keyEncrypt = true then 24 else 4

theorem requestFront_length {b : Build} (extended : Extended b) (keyType : UInt8) (key : Key) (s : Device) :
    (requestFront b true keyType key s).length = counterIndex b := by
  unfold requestFront keyField counterIndex
  rw [if_pos extended]
  by_cases encrypt : b.keyEncrypt = true
  · simp [encrypt, sealedKey_length]
  · simp [encrypt]

def requestLength : ℕ :=
  2 + (if Extended b then counterIndex b + 2 else 0) + (requestBack b).length

theorem requestPayload_length (keyType : UInt8) (key : Key) (frameCounter : UInt32) (s : Device) :
    (requestPayload b true keyType key frameCounter s).length = requestLength b := by
  unfold requestPayload requestLength requestCounter
  by_cases extended : Extended b
  · simp only [List.length_append, requestFront_length extended, if_pos extended, copy4Bytes_length]
    omega
  · unfold requestFront
    simp only [if_neg extended, List.length_append, List.length_cons, List.length_nil]

end

end GreenPower.RequestPayload
