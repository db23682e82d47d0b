import GreenPower.MbedtlsCcm
import GreenPower.AesCipher
import GreenPower.ReceiveBounds

set_option autoImplicit false

/-!
The calls of `gpd-security.c` and `gpd-nwk.c` into `ccm.c` in the one memory they share: the frame
stands at `data`, the `tempDataOut` of the stack at `temp`.
-/
namespace GreenPower.EngineCalls
open MemoryArray ByteWord BuildOptions DeviceState Security FrameBuild IncomingMessage
  CounterCbcMac MbedtlsCcm AesCipher FrameAcceptance FrameAuthentication ReceiveBounds

def statusOf (ret : Ret) : Status := if ret = .ok then .success else .failed

section
variable (E : BlockCipher Key) (key : Key) (nonce : List UInt8)

/-- The engine is given no input and no output, only data to authenticate. -/
def emberTagTxBuff (data length authStart authLength : ℕ) (mem : Cells UInt8) :
    Status × Cells UInt8 :=
  let (ret, mem) := mbedtlsCcmEncryptAndTag E key 0 nonce (load mem (data + authStart) authLength)
    0 0 (data + length) tagSize mem
  (statusOf ret, mem)

def emberEncryptAndTagTxBuff (data temp length payloadLength authStart authLength : ℕ)
    (mem : Cells UInt8) : Status × Cells UInt8 :=
  let (ret, mem) := mbedtlsCcmEncryptAndTag E key payloadLength nonce
    (load mem (data + authStart) authLength) (data + (authStart + authLength)) temp (data + length)
    tagSize mem
  (statusOf ret, store mem (data + (authStart + authLength)) (load mem temp payloadLength))

def emberDecryptRxBuffer (rxMpdu temp authStart encrLength authLength : ℕ) (mem : Cells UInt8) :
    Status × Cells UInt8 :=
  let (ret, mem) := mbedtlsCcmAuthDecrypt E key encrLength nonce
    (load mem (rxMpdu + authStart) authLength) (rxMpdu + (authStart + authLength)) temp
    (rxMpdu + (authStart + authLength + encrLength)) tagSize mem
  (statusOf ret, store mem (rxMpdu + (authStart + authLength)) (load mem temp encrLength))

def emberGpdSecureOutgoingMPdu (mpdu temp mpduLength payloadLength : ℕ) (securityLevel : UInt8)
    (mem : Cells UInt8) : ℕ × Cells UInt8 :=
  if securityLevel = securityLevelNone then (mpduLength, mem)
  else if securityLevel = securityLevelLongAuthOnly then
    (uint8 (mpduLength + tagSize), (emberTagTxBuff E key nonce mpdu mpduLength authStartSrcId
      (uint8 (authFixedLenSrcId + payloadLength)) mem).2)
  else if securityLevel = securityLevelLongFull then
    (uint8 (mpduLength + tagSize), (emberEncryptAndTagTxBuff E key nonce mpdu temp mpduLength
      payloadLength authStartSrcId authFixedLenSrcId mem).2)
  else (mpduLength, mem)

def dataFrameSecurity (rxMpdu temp : ℕ) (mem : Cells UInt8) : Cells UInt8 :=
  let buffer : Cells UInt8 := fun i => mem (rxMpdu + i)
  if appId buffer = appIdSrcId ∧ frameType buffer = nwkFcFrameTypeData then
    if securityLevel buffer = securityLevelLongAuthOnly then
      (emberDecryptRxBuffer E key nonce rxMpdu temp (authStartSrcId - 1) 0
        (authLengthAuthOnly buffer) mem).2
    else if securityLevel buffer = securityLevelLongFull then
      (emberDecryptRxBuffer E key nonce rxMpdu temp authStartSrcId (encrLengthFull buffer)
        authFixedLenSrcId mem).2
    else mem
  else mem

end

def Apart (p n q m : ℕ) : Prop := p + n ≤ q ∨ q + m ≤ p

def OnlyIn (p n q m : ℕ) (mem mem' : Cells UInt8) : Prop :=
  ∀ i, (i < p ∨ p + n ≤ i) → (i < q ∨ q + m ≤ i) → mem' i = mem i

section
variable {E : BlockCipher Key} {key : Key} {nonce : List UInt8} {mem : Cells UInt8}

theorem accepted_call {add : List UInt8} {length : ℕ} (nonces : nonce.length = nonceSize)
    (adds : add.length < 256) (lengths : length < 256) : Accepted tagSize nonce add length := by
  have octets : lengthSize nonce = 2 := by
    rw [lengthSize, nonces]
    rfl
  refine ⟨by decide, ?_, by omega, ?_⟩
  · rw [nonces]
    decide
  · rw [octets]
    omega

theorem emberTagTxBuff_eq (sixteen : ∀ b, b.length = 16 → (E key b).length = 16)
    (nonces : nonce.length = nonceSize) {data size temp : ℕ} {pdu : Pdu}
    (frame : Placed mem data size pdu.mpdu.cell)
    (buffer : Placed mem temp tempDataOutSize pdu.tempDataOut.cell)
    (apart : Apart data size temp tempDataOutSize) (length authStart authLength : ℕ)
    (small : authLength < 256) (auth : authStart + authLength ≤ size)
    (tail : length + tagSize ≤ size) :
    let out := emberTagTxBuff E key nonce data length authStart authLength mem
    let pdu' := Security.emberTagTxBuff (ccm E tagSize) key nonce pdu length authStart authLength
    out.1 = .success ∧ Placed out.2 data size pdu'.mpdu.cell ∧
      Placed out.2 temp tempDataOutSize pdu'.tempDataOut.cell ∧
      OnlyIn data size temp tempDataOutSize mem out.2 := by
  have run := mbedtlsCcmEncryptAndTag_eq sixteen 0 nonce (load mem (data + authStart) authLength)
    0 0 (data + length) tagSize mem (Or.inl le_rfl)
  simp only [frame.load auth] at run
  rw [if_pos (accepted_call nonces (by simpa using small) (by decide)), load_zero,
    List.eq_nil_of_length_eq_zero ((ccm E tagSize).encipher_length key nonce []), store_nil] at run
  simp only [emberTagTxBuff, frame.load auth, run]
  have tags := (ccm E tagSize).tag_length key nonce (load pdu.mpdu.cell authStart authLength) []
  refine ⟨rfl, frame.store length _, buffer.apart ?_, ?_⟩
  · rw [tags]
    unfold Apart at apart
    omega
  · intro i out _
    apply store_outside
    rw [tags]
    omega

theorem emberEncryptAndTagTxBuff_eq (sixteen : ∀ b, b.length = 16 → (E key b).length = 16)
    (nonces : nonce.length = nonceSize) {data size temp : ℕ} {pdu : Pdu}
    (frame : Placed mem data size pdu.mpdu.cell)
    (buffer : Placed mem temp tempDataOutSize pdu.tempDataOut.cell)
    (apart : Apart data size temp tempDataOutSize) (length payloadLength authStart authLength : ℕ)
    (small : authLength < 256) (inside : authStart + authLength + payloadLength ≤ size)
    (tail : length + tagSize ≤ size) (fits : payloadLength ≤ tempDataOutSize) :
    let out := emberEncryptAndTagTxBuff E key nonce data temp length payloadLength authStart
      authLength mem
    let pdu' := Security.emberEncryptAndTagTxBuff (ccm E tagSize) key nonce pdu length payloadLength
      authStart authLength
    out.1 = .success ∧ Placed out.2 data size pdu'.mpdu.cell ∧
      Placed out.2 temp tempDataOutSize pdu'.tempDataOut.cell ∧
      OnlyIn data size temp tempDataOutSize mem out.2 := by
  have auth : authStart + authLength ≤ size := by omega
  set add := load pdu.mpdu.cell authStart authLength with hadd
  set input := load pdu.mpdu.cell (authStart + authLength) payloadLength with hinput
  set cipher := (ccm E tagSize).encipher key nonce input with hcipher
  set tag := (ccm E tagSize).tag key nonce add input with htag
  have ciphers : cipher.length = payloadLength := by simp [hcipher, hinput]
  have tags : tag.length = tagSize := by simp [htag]
  have room : payloadLength < 256 := by
    unfold tempDataOutSize at fits
    omega
  have run := mbedtlsCcmEncryptAndTag_eq sixteen payloadLength nonce
    (load mem (data + authStart) authLength) (data + (authStart + authLength)) temp (data + length)
    tagSize mem (by
      unfold Apart at apart
      unfold Follows
      omega)
  simp only [frame.load auth, frame.load inside, ← hadd, ← hinput, ← hcipher, ← htag] at run
  rw [if_pos (accepted_call nonces (by simpa [hadd] using small) room)] at run
  have buffer' : Placed (store (store mem temp cipher) (data + length) tag) temp tempDataOutSize
      (store pdu.tempDataOut.cell 0 cipher) := by
    apply Placed.apart
    · simpa using buffer.store 0 cipher
    · rw [tags]
      unfold Apart at apart
      omega
  have frame' : Placed (store (store mem temp cipher) (data + length) tag) data size
      (store pdu.mpdu.cell length tag) := by
    apply Placed.store
    apply frame.apart
    rw [ciphers]
    unfold Apart at apart
    omega
  have copied : load (store (store mem temp cipher) (data + length) tag) temp payloadLength =
      load (store pdu.tempDataOut.cell 0 cipher) 0 payloadLength := by
    simpa using buffer'.load (show 0 + payloadLength ≤ tempDataOutSize by omega)
  simp only [emberEncryptAndTagTxBuff, frame.load auth, ← hadd, run, copied]
  refine ⟨rfl, frame'.store _ _, buffer'.apart ?_, ?_⟩
  · rw [load_length]
    unfold Apart at apart
    omega
  · intro i out out'
    rw [store_outside _ _ _ _ (by simp; omega), store_outside _ _ _ _ (by rw [tags]; omega),
      store_outside _ _ _ _ (by rw [ciphers]; omega)]

/-- The frame and the verdict of the program's model, from the loops in memory. -/
theorem emberDecryptRxBuffer_eq (sixteen : ∀ b, b.length = 16 → (E key b).length = 16)
    (nonces : nonce.length = nonceSize) {rxMpdu temp : ℕ} {cell : Cells UInt8}
    (frame : Placed mem rxMpdu rxMpduSize cell)
    (apart : Apart rxMpdu rxMpduSize temp tempDataOutSize) (authStart encrLength authLength : ℕ)
    (small : authLength < 256)
    (inside : authStart + authLength + encrLength + tagSize ≤ rxMpduSize)
    (fits : encrLength ≤ tempDataOutSize) :
    let out := emberDecryptRxBuffer E key nonce rxMpdu temp authStart encrLength authLength mem
    let plain := (ccm E tagSize).authDecrypt 0 key nonce (load cell authStart authLength)
      (load cell (authStart + authLength) encrLength)
      (load cell (authStart + authLength + encrLength) tagSize)
    out.1 = (if plain.1 then .success else .failed) ∧
      Placed out.2 rxMpdu rxMpduSize (store cell (authStart + authLength) plain.2) ∧
      OnlyIn rxMpdu rxMpduSize temp tempDataOutSize mem out.2 := by
  have auth : authStart + authLength ≤ rxMpduSize := by omega
  have body : authStart + authLength + encrLength ≤ rxMpduSize := by omega
  have room : encrLength < 256 := by
    unfold tempDataOutSize at fits
    omega
  have run := mbedtlsCcmAuthDecrypt_eq sixteen encrLength nonce
    (load mem (rxMpdu + authStart) authLength) (rxMpdu + (authStart + authLength)) temp
    (rxMpdu + (authStart + authLength + encrLength)) tagSize mem
    (by
      unfold Apart at apart
      unfold Follows
      omega)
    (by
      unfold Apart at apart
      omega)
  simp only [frame.load auth, frame.load body, frame.load inside] at run
  rw [if_pos (accepted_call nonces (by simpa using small) room)] at run
  set plain := (ccm E tagSize).authDecrypt 0 key nonce (load cell authStart authLength)
    (load cell (authStart + authLength) encrLength)
    (load cell (authStart + authLength + encrLength) tagSize) with hplain
  have plains : plain.2.length = encrLength := by simp [hplain]
  have copied : load (store mem temp plain.2) temp encrLength = plain.2 := by
    rw [← plains]
    exact load_store_same mem temp plain.2
  simp only [emberDecryptRxBuffer, frame.load auth, run, copied]
  refine ⟨?_, ?_, ?_⟩
  · unfold statusOf
    cases plain.1 <;> simp
  · apply Placed.store
    apply frame.apart
    rw [plains]
    unfold Apart at apart
    omega
  · intro i out out'
    rw [store_outside _ _ _ _ (by rw [plains]; omega), store_outside _ _ _ _ (by rw [plains]; omega)]

/-- The fields are read from the first sixteen octets. -/
theorem header_same {f g : Cells UInt8} (same : ∀ i < 16, f i = g i) :
    nwkPayloadLength f = nwkPayloadLength g ∧ appId f = appId g ∧ frameType f = frameType g ∧
      securityLevel f = securityLevel g := by
  have offset : nwkFcOffset f = nwkFcOffset g := by
    unfold nwkFcOffset mFc
    rw [same 1 (by omega), same 2 (by omega)]
  have short : nwkFcOffset g + 1 < 16 := by
    unfold nwkFcOffset nwkFcOffsetForLongAddress nwkFcOffsetForShortAddress
    split_ifs <;> omega
  have fc : nwkFc f = nwkFc g := by
    unfold nwkFc
    rw [offset, same _ (by omega)]
  have ext : nwkFcExtn f = nwkFcExtn g := by
    unfold nwkFcExtn nwkFcExtnPresent
    rw [fc, offset, same _ short]
  refine ⟨?_, ?_, ?_, ?_⟩
  · unfold nwkPayloadLength
    rw [same 0 (by omega)]
  · unfold appId
    rw [ext]
  · unfold frameType
    rw [fc]
  · unfold securityLevel
    rw [ext]

/-- A frame with at most 59 octets of payload leaves the engine's loops as the model has it. -/
theorem emberGpdSecureOutgoingMPdu_eq (sixteen : ∀ b, b.length = 16 → (E key b).length = 16)
    (nonces : nonce.length = nonceSize) {mpdu temp : ℕ} {pdu : Pdu}
    (frame : Placed mem mpdu txMpduSize pdu.mpdu.cell)
    (buffer : Placed mem temp tempDataOutSize pdu.tempDataOut.cell)
    (apart : Apart mpdu txMpduSize temp tempDataOutSize) {payloadLength : ℕ}
    (limit : payloadLength ≤ srcIdMaxPayloadSize) (securityLevel : UInt8) :
    let out := emberGpdSecureOutgoingMPdu E key nonce mpdu temp (18 + payloadLength) payloadLength
      securityLevel mem
    let sent := FrameBuild.emberGpdSecureOutgoingMPdu (ccm E tagSize) key nonce pdu
      (18 + payloadLength : ℕ) payloadLength securityLevel
    out.1 = sent.1 ∧ Placed out.2 mpdu txMpduSize sent.2.mpdu.cell ∧
      Placed out.2 temp tempDataOutSize sent.2.tempDataOut.cell ∧
      OnlyIn mpdu txMpduSize temp tempDataOutSize mem out.2 := by
  unfold srcIdMaxPayloadSize at limit
  have authLength : uint8 ((authFixedLenSrcId : ℕ) + payloadLength) =
      authFixedLenSrcId + payloadLength := by
    unfold uint8 authFixedLenSrcId
    omega
  simp only
  unfold emberGpdSecureOutgoingMPdu FrameBuild.emberGpdSecureOutgoingMPdu
  by_cases none : securityLevel = securityLevelNone
  · rw [if_pos none, if_pos none]
    exact ⟨rfl, frame, buffer, fun _ _ _ => rfl⟩
  rw [if_neg none, if_neg none]
  by_cases auth : securityLevel = securityLevelLongAuthOnly
  · rw [if_pos auth, if_pos auth, authLength]
    obtain ⟨-, written⟩ := emberTagTxBuff_eq sixteen nonces frame buffer apart
      (18 + payloadLength) authStartSrcId (authFixedLenSrcId + payloadLength)
      (by unfold authFixedLenSrcId; omega)
      (by unfold authStartSrcId authFixedLenSrcId txMpduSize; omega)
      (by unfold tagSize txMpduSize; omega)
    exact ⟨rfl, written⟩
  rw [if_neg auth, if_neg auth]
  by_cases full : securityLevel = securityLevelLongFull
  · rw [if_pos full, if_pos full]
    obtain ⟨-, written⟩ := emberEncryptAndTagTxBuff_eq sixteen nonces frame buffer apart
      (18 + payloadLength) payloadLength authStartSrcId authFixedLenSrcId
      (by decide)
      (by unfold authStartSrcId authFixedLenSrcId txMpduSize; omega)
      (by unfold tagSize txMpduSize; omega)
      (by unfold tempDataOutSize; omega)
    exact ⟨rfl, written⟩
  · rw [if_neg full, if_neg full]
    exact ⟨rfl, frame, buffer, fun _ _ _ => rfl⟩

theorem emberGpdSecureOutgoingMPdu_toggle :
    let out := emberGpdSecureOutgoingMPdu encryptBlock selfTestKey (List.replicate 13 0) 0 128 19 1
      securityLevelLongFull (fun _ => 0)
    let sent := FrameBuild.emberGpdSecureOutgoingMPdu (ccm encryptBlock tagSize) selfTestKey
      (List.replicate 13 0) ⟨.untouched (fun _ => 0), .untouched (fun _ => 0)⟩ (18 + 1 : ℕ) 1
      securityLevelLongFull
    out.1 = sent.1 ∧ Placed out.2 0 128 sent.2.mpdu.cell ∧ Placed out.2 128 80 sent.2.tempDataOut.cell ∧
      OnlyIn 0 128 128 80 (fun _ => 0) out.2 :=
  emberGpdSecureOutgoingMPdu_eq (encryptBlock_length selfTestKey) rfl (fun _ _ => rfl)
    (fun _ _ => rfl) (Or.inl (by decide)) (show 1 ≤ srcIdMaxPayloadSize by decide) securityLevelLongFull

/-- A frame whose announced length is in range is deciphered as the model has it. -/
theorem dataFrameSecurity_eq {b : Build} {s : Device} (linked : b.ccm = ccm E tagSize)
    (sixteen : ∀ b, b.length = 16 → (E s.ccmKey b).length = 16) {rxMpdu temp : ℕ}
    (frame : Placed mem rxMpdu rxMpduSize s.rxMpdu.cell)
    (apart : Apart rxMpdu rxMpduSize temp tempDataOutSize) (short : (s.rxMpdu.cell 0).toNat ≤ 127)
    (range : Secured (securityLevel s.rxMpdu.cell) → LengthsInRange s.rxMpdu.cell) :
    let out := dataFrameSecurity E s.ccmKey (Security.nonce s.nonceRx) rxMpdu temp mem
    Placed out rxMpdu rxMpduSize (IncomingMessage.dataFrameSecurity b s).rxMpdu.cell ∧
      OnlyIn rxMpdu rxMpduSize temp tempDataOutSize mem out := by
  have header : ∀ i < 16, mem (rxMpdu + i) = s.rxMpdu.cell i := by
    intro i less
    apply frame i
    unfold rxMpduSize
    omega
  obtain ⟨length, app, type, level⟩ := header_same (f := fun i => mem (rxMpdu + i)) header
  have nonces : (Security.nonce s.nonceRx).length = nonceSize := load_length _ _ _
  simp only
  unfold dataFrameSecurity IncomingMessage.dataFrameSecurity
  simp only [app, type, level, authLengthAuthOnly, encrLengthFull, length]
  by_cases data : appId s.rxMpdu.cell = appIdSrcId ∧ frameType s.rxMpdu.cell = nwkFcFrameTypeData
  · rw [if_pos data, if_pos data]
    by_cases auth : securityLevel s.rxMpdu.cell = securityLevelLongAuthOnly
    · rw [if_pos auth, if_pos auth]
      have low := ((range (Or.inl auth)).2 data.1 data.2).1 auth
      have exact := authLengthAuthOnly_eq low
      obtain ⟨-, placed, only⟩ := emberDecryptRxBuffer_eq sixteen nonces frame apart
        (authStartSrcId - 1) 0 (authLengthAuthOnly s.rxMpdu.cell)
        (by omega)
        (by unfold authStartSrcId tagSize rxMpduSize; omega)
        (by decide)
      refine ⟨?_, only⟩
      simpa [Security.emberDecryptRxBuffer, linked, authLengthAuthOnly] using placed
    rw [if_neg auth, if_neg auth]
    by_cases full : securityLevel s.rxMpdu.cell = securityLevelLongFull
    · rw [if_pos full, if_pos full]
      obtain ⟨low, high⟩ := ((range (Or.inr full)).2 data.1 data.2).2 full
      have exact := encrLengthFull_eq low
      obtain ⟨-, placed, only⟩ := emberDecryptRxBuffer_eq sixteen nonces frame apart
        authStartSrcId (encrLengthFull s.rxMpdu.cell) authFixedLenSrcId
        (by decide)
        (by unfold authStartSrcId authFixedLenSrcId tagSize rxMpduSize; omega)
        (by unfold tempDataOutSize; omega)
      refine ⟨?_, only⟩
      simpa [Security.emberDecryptRxBuffer, linked, encrLengthFull] using placed
    · rw [if_neg full, if_neg full]
      exact ⟨frame, fun _ _ _ => rfl⟩
  · rw [if_neg data, if_neg data]
    exact ⟨frame, fun _ _ _ => rfl⟩

def fullFrame : Cells UInt8 :=
  store (fun _ => 0) 0 [24, 0x01, 0x08, 0, 0xff, 0xff, 0xff, 0xff, 0x8c, 0x98, 0x78, 0x56, 0x34,
    0x12, 1, 0, 0, 0, 0x22, 0xaa, 0xbb, 0xcc, 0xdd]

theorem dataFrameSecurity_fullFrame :
    let s := { receiving [] with rxMpdu := .untouched fullFrame }
    let out := dataFrameSecurity encryptBlock s.ccmKey (Security.nonce s.nonceRx) 0 128 fullFrame
    Placed out 0 128 (IncomingMessage.dataFrameSecurity (shipped (aesCcm tagSize)) s).rxMpdu.cell ∧
      OnlyIn 0 128 128 80 fullFrame out := by
  intro s
  apply dataFrameSecurity_eq (b := shipped (aesCcm tagSize)) (s := s) rfl
    (encryptBlock_length s.ccmKey)
  · intro i _
    rw [Nat.zero_add]
    rfl
  · exact Or.inl (by decide)
  · decide
  · intro _
    refine ⟨by decide, fun _ _ => ⟨fun _ => by decide, fun _ => by decide⟩⟩

end

end GreenPower.EngineCalls
