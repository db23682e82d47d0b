import GreenPower.DeviceState

set_option autoImplicit false

/-!
`gpd-security.c` for source-id addressing. The CCM calls of this file are never out of the
engine's length limits, so only a tag mismatch makes one fail. The functions on an outgoing
frame take the key and nonce of the context as arguments; those on device state change it.
-/
namespace GreenPower.Security
open MemoryArray ByteWord BuildOptions DeviceState

/-- `emberGpdUtilityCopy4Bytes`, and a 4-byte `memcpy` from a word. -/
def copy4Bytes (value : UInt32) : List UInt8 :=
  [(value &&& 0x000000FF).toUInt8, ((value >>> 8) &&& 0x000000FF).toUInt8,
    ((value >>> 16) &&& 0x000000FF).toUInt8, ((value >>> 24) &&& 0x000000FF).toUInt8]

def readWord (cell : Cells UInt8) (off : ℕ) : UInt32 := word32 (load cell off 4)

def zigbeeSecurityControl : UInt8 := 0x05

/-- The pre-configured TC link key, `ZigBeeAlliance09`. -/
def keyDefaultTCLink : Key :=
  #v[0x5a, 0x69, 0x67, 0x42, 0x65, 0x65, 0x41, 0x6c,
    0x6c, 0x69, 0x61, 0x6e, 0x63, 0x65, 0x30, 0x39]

def emberGpdSetFcIntoTxNonce (value : UInt32) (s : Device) : Device :=
  { s with nonceTx := store s.nonceTx 8 (copy4Bytes value) }

def emberGpdSetFcIntoRxNonce (value : UInt32) (s : Device) : Device :=
  { s with nonceRx := store s.nonceRx 8 (copy4Bytes value) }

def emberGpdMbedtlsCcmSetkeyWraper (key : Key) (s : Device) : Device := { s with ccmKey := key }

def nonce (cell : Cells UInt8) : List UInt8 := load cell 0 nonceSize

/-- An outgoing frame and the stack buffer its ciphertext passes through. -/
structure Pdu where
  mpdu : Mem UInt8
  tempDataOut : Mem UInt8

def emberTagTxBuff (ccm : Ccm) (key : Key) (nonce : List UInt8) (data : Pdu)
    (length authStart authLength : ℕ) : Pdu :=
  let mic := ccm.tag key nonce (load data.mpdu.cell authStart authLength) []
  { data with mpdu := (data.mpdu.touch authStart authLength).store length mic }

def emberEncryptAndTagTxBuff (ccm : Ccm) (key : Key) (nonce : List UInt8) (data : Pdu)
    (length payloadLength authStart authLength : ℕ) : Pdu :=
  let add := load data.mpdu.cell authStart authLength
  let input := load data.mpdu.cell (authStart + authLength) payloadLength
  let tempDataOut := data.tempDataOut.store 0 (ccm.encipher key nonce input)
  let mpdu := (data.mpdu.touch authStart (authLength + payloadLength)).store length
    (ccm.tag key nonce add input)
  { mpdu := mpdu.store (authStart + authLength) (load tempDataOut.cell 0 payloadLength),
    tempDataOut := tempDataOut }

/-- Encrypts `oobKey` under the TC link key, which stays in the context: the protected key,
its MIC and the device. -/
def emberGpdSecurityEncryptKey (b : Build) (addr : EmberGpdAddr) (oobKey : Key) (s : Device) :
    List UInt8 × List UInt8 × Device :=
  let data := copy4Bytes addr.srcId ++ oobKey.toList
  let frameCounter := addr.srcId
  let s := emberGpdSetFcIntoTxNonce frameCounter s
  let s := emberGpdMbedtlsCcmSetkeyWraper keyDefaultTCLink s
  let n := nonce s.nonceTx
  (b.ccm.encipher s.ccmKey n (data.drop 4), b.ccm.tag s.ccmKey n (data.take 4) (data.drop 4), s)

/-- Decrypts a delivered key under the TC link key, which stays in the context. On a tag
mismatch the output is cleared. -/
def emberGpdSecurityDecryptKey (b : Build) (addr : EmberGpdAddr)
    (keyEncrypted keyMic : List UInt8) (secCounter : UInt32) (s : Device) :
    Status × Key × Device :=
  let inData := copy4Bytes addr.srcId ++ keyEncrypted ++ keyMic
  let s := emberGpdSetFcIntoRxNonce secCounter s
  let s := emberGpdMbedtlsCcmSetkeyWraper keyDefaultTCLink s
  let (ok, decryptedOut) := b.ccm.authDecrypt 0 s.ccmKey (nonce s.nonceRx) (inData.take 4)
    ((inData.drop 4).take 16) (inData.drop 20)
  (if ok then .success else .failed, keyOfBytes decryptedOut, s)

/-- Deciphers a received frame in place; on a tag mismatch the region is cleared. -/
def emberDecryptRxBuffer (b : Build) (authStart encrLength authLength : ℕ) (s : Device) :
    Status × Device :=
  let cell := s.rxMpdu.cell
  let (ok, tempDataOut) := b.ccm.authDecrypt 0 s.ccmKey (nonce s.nonceRx)
    (load cell authStart authLength) (load cell (authStart + authLength) encrLength)
    (load cell (authStart + authLength + encrLength) tagSize)
  let status := if ok then Status.success else .failed
  let rxMpdu := (s.rxMpdu.touch authStart (authLength + encrLength + tagSize)).store
    (authStart + authLength) tempDataOut
  (status, { s with rxMpdu := rxMpdu }.record (.decrypt authStart encrLength authLength status))

def emberGpdSecurityInit (addr : EmberGpdAddr) (securityKey : Key) (frameCounter : UInt32)
    (s : Device) : Device :=
  let zeros := List.replicate nonceSize 0
  let s := { s with nonceRx := store s.nonceRx 0 zeros, nonceTx := store s.nonceTx 0 zeros }
  let s := { s with nonceTx := store s.nonceTx 0 (copy4Bytes addr.srcId) }
  let s := { s with nonceTx := store s.nonceTx 4 (copy4Bytes addr.srcId) }
  let s := { s with nonceTx := store s.nonceTx 12 [zigbeeSecurityControl] }
  let s := { s with nonceRx := store s.nonceRx 0 (copy4Bytes 0) }
  let s := { s with nonceRx := store s.nonceRx 4 (copy4Bytes addr.srcId) }
  let s := { s with nonceRx := store s.nonceRx 12 [zigbeeSecurityControl] }
  let s := emberGpdSetFcIntoTxNonce frameCounter s
  let s := emberGpdSetFcIntoRxNonce frameCounter s
  emberGpdMbedtlsCcmSetkeyWraper securityKey s

@[simp] theorem copy4Bytes_length (v : UInt32) : (copy4Bytes v).length = 4 := rfl

theorem copy4Bytes_eq (v : UInt32) : copy4Bytes v = bytes32 v := by
  have byte (w : UInt32) : (w &&& 0x000000FF).toUInt8 = UInt8.ofNat w.toNat := by
    apply UInt8.toNat_inj.mp
    simp only [UInt32.toNat_toUInt8, UInt32.toNat_and, UInt8.toNat_ofNat']
    exact congrArg (· % 256) (Nat.and_two_pow_sub_one_eq_mod w.toNat 8) |>.trans (Nat.mod_mod _ _)
  simp only [copy4Bytes, byte, bytes32, toBytes, UInt32.toNat_shiftRight, Nat.shiftRight_eq_div_pow,
    Nat.div_div_eq_div_mul]
  rfl

@[simp] theorem word32_copy4Bytes (v : UInt32) : word32 (copy4Bytes v) = v := by
  rw [copy4Bytes_eq, word32_bytes32]

theorem copy4Bytes_word32 (bs : List UInt8) (h : bs.length = 4) : copy4Bytes (word32 bs) = bs := by
  rw [copy4Bytes_eq, bytes32_word32 bs h]

section
variable (b : Build) (addr : EmberGpdAddr) {keyEncrypted : List UInt8} (keyMic : List UInt8)
  (secCounter : UInt32) (s : Device)

/-- The three parts of `inData` on the decryptor's side. -/
theorem inData_parts (srcId : UInt32) (hk : keyEncrypted.length = 16) :
    (copy4Bytes srcId ++ keyEncrypted ++ keyMic).take 4 = copy4Bytes srcId ∧
      ((copy4Bytes srcId ++ keyEncrypted ++ keyMic).drop 4).take 16 = keyEncrypted ∧
      (copy4Bytes srcId ++ keyEncrypted ++ keyMic).drop 20 = keyMic := by
  refine ⟨?_, ?_, ?_⟩
  · rw [List.append_assoc, List.take_left' (copy4Bytes_length _)]
  · rw [List.append_assoc, List.drop_left' (copy4Bytes_length _), List.take_left' hk]
  · rw [List.drop_left' (by simp [hk])]

theorem emberGpdSecurityDecryptKey_of_verifies (hk : keyEncrypted.length = 16)
    (h : b.ccm.Verifies keyDefaultTCLink (nonce (store s.nonceRx 8 (copy4Bytes secCounter)))
      (copy4Bytes addr.srcId) keyEncrypted keyMic) :
    emberGpdSecurityDecryptKey b addr keyEncrypted keyMic secCounter s =
      (.success, keyOfBytes (b.ccm.decipher keyDefaultTCLink
        (nonce (store s.nonceRx 8 (copy4Bytes secCounter))) keyEncrypted),
        { s with
          nonceRx := store s.nonceRx 8 (copy4Bytes secCounter), ccmKey := keyDefaultTCLink }) := by
  obtain ⟨ad, cipher, mic⟩ := inData_parts keyMic addr.srcId hk
  simp only [emberGpdSecurityDecryptKey, emberGpdSetFcIntoRxNonce, emberGpdMbedtlsCcmSetkeyWraper,
    ad, cipher, mic, b.ccm.authDecrypt_of_verifies 0 h, if_true]

theorem emberGpdSecurityDecryptKey_of_not_verifies (hk : keyEncrypted.length = 16)
    (h : ¬ b.ccm.Verifies keyDefaultTCLink (nonce (store s.nonceRx 8 (copy4Bytes secCounter)))
      (copy4Bytes addr.srcId) keyEncrypted keyMic) :
    emberGpdSecurityDecryptKey b addr keyEncrypted keyMic secCounter s =
      (.failed, zeroKey,
        { s with
          nonceRx := store s.nonceRx 8 (copy4Bytes secCounter), ccmKey := keyDefaultTCLink }) := by
  obtain ⟨ad, cipher, mic⟩ := inData_parts keyMic addr.srcId hk
  simp only [emberGpdSecurityDecryptKey, emberGpdSetFcIntoRxNonce, emberGpdMbedtlsCcmSetkeyWraper,
    ad, cipher, mic, b.ccm.authDecrypt_of_not_verifies 0 h, hk, keyOfBytes_zeros,
    Bool.false_eq_true, if_false]

end

end GreenPower.Security
