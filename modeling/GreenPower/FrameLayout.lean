import GreenPower.FrameBuild

set_option autoImplicit false

/-!
The frames `emberBuildOutGoingPdu` leaves in memory, as lists of octets from the length byte
on. `built` is the frame by the standard's field order; the rest of the file shows that the
stores of the code put exactly it into the buffer, from index 0.
-/
namespace GreenPower.FrameLayout
open MemoryArray ByteWord BuildOptions DeviceState Security FrameBuild

/-- The extended frame control that goes out: without `rxAfterTx` on Commissioning Success. -/
def sentExtNwkFc (gpd : EmberGpd) (payload : List UInt8) : UInt8 :=
  if payload.head? = some cmdCommissioningSuccess then extNwkFc gpd &&& ~~~extNwkFcRxAfterTxMask
  else extNwkFc gpd

def ExtFcPresent (gpd : EmberGpd) : Prop :=
  securityLevelNone < gpd.securityLevel ∨ gpd.rxAfterTx = 1

instance (gpd : EmberGpd) : Decidable (ExtFcPresent gpd) := by
  unfold ExtFcPresent
  infer_instance

def sequenceNumber (gpd : EmberGpd) : UInt8 := gpd.securityFrameCounter.toUInt8

def dataFields (gpd : EmberGpd) (ext : UInt8) : List UInt8 :=
  (if ExtFcPresent gpd then [ext] else []) ++ copy4Bytes gpd.addr.srcId ++
    (if Secured gpd.securityLevel then copy4Bytes gpd.securityFrameCounter else [])

def sentHeader (gpd : EmberGpd) (payload : List UInt8) : List UInt8 :=
  macHeader (sequenceNumber gpd) ++ (dataNwkFc gpd :: dataFields gpd (sentExtNwkFc gpd payload))

/-- The associated data of a secured frame starts behind the MAC header. -/
def authData (gpd : EmberGpd) (payload : List UInt8) : List UInt8 :=
  dataNwkFc gpd :: dataFields gpd (sentExtNwkFc gpd payload)

/-- Payload and MIC as they go out behind the associated data `auth`. -/
def securedPayload (ccm : Ccm) (key : Key) (nonce : List UInt8) (level : UInt8)
    (payload : List UInt8) : List UInt8 :=
  if level = securityLevelLongFull then ccm.encipher key nonce payload else payload

def securedMic (ccm : Ccm) (key : Key) (nonce : List UInt8) (level : UInt8)
    (auth payload : List UInt8) : List UInt8 :=
  if level = securityLevelLongAuthOnly then ccm.tag key nonce (auth ++ payload) []
  else if level = securityLevelLongFull then ccm.tag key nonce auth payload
  else []

def sentPayload (ccm : Ccm) (key : Key) (nonce : List UInt8) (payload : List UInt8)
    (gpd : EmberGpd) : List UInt8 :=
  securedPayload ccm key nonce gpd.securityLevel payload

def sentMic (ccm : Ccm) (key : Key) (nonce : List UInt8) (payload : List UInt8)
    (gpd : EmberGpd) : List UInt8 :=
  securedMic ccm key nonce gpd.securityLevel (authData gpd payload) payload

def dataBody (ccm : Ccm) (key : Key) (nonce : List UInt8) (payload : List UInt8)
    (gpd : EmberGpd) : List UInt8 :=
  sentHeader gpd payload ++ sentPayload ccm key nonce payload gpd ++
    sentMic ccm key nonce payload gpd

def maintBody (payload : List UInt8) (gpd : EmberGpd) : List UInt8 :=
  macHeader (sequenceNumber gpd) ++ [maintNwkFc (!gpd.autoCommissioning)] ++ payload

def withLength (body : List UInt8) : List UInt8 := UInt8.ofNat (body.length + 2) :: body

def built (ccm : Ccm) (key : Key) (nonce : List UInt8) (frameType : UInt8)
    (payload : List UInt8) (gpd : EmberGpd) : List UInt8 :=
  if frameType = nwkFcFrameTypeData then withLength (dataBody ccm key nonce payload gpd)
  else withLength (maintBody payload gpd)

@[simp] theorem macHeader_length (seqNo : UInt8) : (macHeader seqNo).length = 7 := rfl

theorem dataFields_length (gpd : EmberGpd) (ext : UInt8) : (dataFields gpd ext).length =
    4 + (if ExtFcPresent gpd then 1 else 0) + (if Secured gpd.securityLevel then 4 else 0) := by
  unfold dataFields
  split_ifs <;> rfl

theorem sentHeader_length (gpd : EmberGpd) (payload : List UInt8) :
    (sentHeader gpd payload).length = 12 + (if ExtFcPresent gpd then 1 else 0) +
      (if Secured gpd.securityLevel then 4 else 0) := by
  simp only [sentHeader, List.length_append, macHeader_length, List.length_cons, dataFields_length]
  omega

theorem extFcPresent_of_secured {gpd : EmberGpd} (h : Secured gpd.securityLevel) :
    ExtFcPresent gpd := by
  rcases h with h | h <;> exact Or.inl (by rw [h]; decide)

theorem secured_header_length {gpd : EmberGpd} (payload : List UInt8)
    (h : Secured gpd.securityLevel) : (sentHeader gpd payload).length = 17 := by
  rw [sentHeader_length, if_pos (extFcPresent_of_secured h), if_pos h]

theorem sentHeader_length_le (gpd : EmberGpd) (payload : List UInt8) :
    (sentHeader gpd payload).length ≤ 17 := by
  rw [sentHeader_length]
  split_ifs <;> omega

@[simp] theorem securedPayload_length (ccm : Ccm) (key : Key) (nonce : List UInt8)
    (level : UInt8) (payload : List UInt8) :
    (securedPayload ccm key nonce level payload).length = payload.length := by
  unfold securedPayload
  split_ifs <;> simp

theorem securedMic_length (ccm : Ccm) (key : Key) (nonce : List UInt8) (level : UInt8)
    (auth payload : List UInt8) :
    (securedMic ccm key nonce level auth payload).length = if Secured level then 4 else 0 := by
  unfold securedMic Secured
  by_cases authOnly : level = securityLevelLongAuthOnly
  · simp [authOnly, tagSize]
  · by_cases full : level = securityLevelLongFull
    · have other : securityLevelLongFull ≠ securityLevelLongAuthOnly := by decide
      simp [full, other, tagSize]
    · simp [authOnly, full]

@[simp] theorem sentPayload_length (ccm : Ccm) (key : Key) (nonce payload : List UInt8)
    (gpd : EmberGpd) : (sentPayload ccm key nonce payload gpd).length = payload.length :=
  securedPayload_length ccm key nonce _ payload

theorem sentMic_length (ccm : Ccm) (key : Key) (nonce payload : List UInt8) (gpd : EmberGpd) :
    (sentMic ccm key nonce payload gpd).length = if Secured gpd.securityLevel then 4 else 0 :=
  securedMic_length ccm key nonce _ _ payload

theorem dataBody_length (ccm : Ccm) (key : Key) (nonce payload : List UInt8) (gpd : EmberGpd) :
    (dataBody ccm key nonce payload gpd).length = (sentHeader gpd payload).length +
      payload.length + (if Secured gpd.securityLevel then 4 else 0) := by
  simp only [dataBody, List.length_append, sentPayload_length, sentMic_length]

theorem maintBody_length (payload : List UInt8) (gpd : EmberGpd) :
    (maintBody payload gpd).length = 8 + payload.length := by
  simp only [maintBody, List.length_append, macHeader_length, List.length_singleton]

/-- `m'` is `m` with `frame` in front, all accesses inside the array. -/
structure Wrote (m m' : Mem UInt8) (frame : List UInt8) : Prop where
  cell : m'.cell = store m.cell 0 frame
  within : m.Within txMpduSize → m'.Within txMpduSize

theorem sequenceNumber_eq (gpd : EmberGpd) :
    (gpd.securityFrameCounter &&& 0x000000FF).toUInt8 = sequenceNumber gpd := by
  apply UInt8.toNat_inj.mp
  simp only [sequenceNumber, UInt32.toNat_toUInt8, UInt32.toNat_and]
  exact congrArg (· % 256) (Nat.and_two_pow_sub_one_eq_mod _ 8) |>.trans (Nat.mod_mod _ _)

theorem dataHeader_eq (gpd : EmberGpd) : dataHeader gpd =
    macHeader (sequenceNumber gpd) ++ (dataNwkFc gpd :: dataFields gpd (extNwkFc gpd)) := by
  unfold dataHeader dataFields ExtFcPresent
  rw [sequenceNumber_eq]
  simp only [extFc_present_iff, List.append_assoc, List.cons_append, List.nil_append]

theorem sentHeader_of_other {gpd : EmberGpd} {payload : List UInt8}
    (h : ¬ (payload.head? = some cmdCommissioningSuccess ∧ ExtFcPresent gpd)) :
    sentHeader gpd payload = dataHeader gpd := by
  rw [dataHeader_eq]
  unfold sentHeader sentExtNwkFc dataFields
  by_cases ext : ExtFcPresent gpd
  · rw [if_neg (fun success => h ⟨success, ext⟩)]
  · simp only [if_neg ext]

theorem sentHeader_of_success {gpd : EmberGpd} {payload : List UInt8}
    (success : payload.head? = some cmdCommissioningSuccess) (ext : ExtFcPresent gpd) :
    sentHeader gpd payload = (dataHeader gpd).set 8 (extNwkFc gpd &&& ~~~extNwkFcRxAfterTxMask) := by
  rw [dataHeader_eq]
  unfold sentHeader sentExtNwkFc dataFields
  simp only [if_pos success, if_pos ext]
  rfl

theorem store_len (f : Cells UInt8) (x : UInt8) (xs : List UInt8) :
    store (store f 1 xs) 0 [x] = store f 0 (x :: xs) := store_cons f 0 x xs

theorem gpdBuildHeader_wrote (buffer : Mem UInt8) (n : ℕ) (gpd : EmberGpd) (hn : n ≤ 59) :
    (gpdBuildHeader buffer n gpd).1 = 1 + (dataHeader gpd).length ∧
      Wrote buffer (gpdBuildHeader buffer n gpd).2 (UInt8.ofNat ((dataHeader gpd).length + n +
        (if Secured gpd.securityLevel then 4 else 0) + 2) :: dataHeader gpd) := by
  have hle := dataHeader_length_le gpd
  have hmic : (if Secured gpd.securityLevel then tagSize else 0) =
      (if Secured gpd.securityLevel then 4 else 0) := rfl
  have hmic4 : (if Secured gpd.securityLevel then 4 else 0) ≤ 4 := by split_ifs <;> omega
  have hlen : uint8 ((1 + (dataHeader gpd).length : ℕ) + 1 + n +
      (if Secured gpd.securityLevel then tagSize else 0 : ℕ)) = (dataHeader gpd).length + n +
        (if Secured gpd.securityLevel then 4 else 0) + 2 := by
    rw [hmic]
    unfold uint8
    omega
  unfold gpdBuildHeader
  simp only [hlen]
  refine ⟨uint8_natCast_of_lt (by omega), ⟨store_len _ _ _, fun inside => ?_⟩⟩
  simp only [Mem.store_within, List.length_singleton, txMpduSize]
  exact ⟨by omega, by omega, inside⟩

theorem dataHeader_get_nwkFc (x : UInt8) (gpd : EmberGpd) (f : Cells UInt8) :
    store f 0 (x :: dataHeader gpd) macHeaderSize = dataNwkFc gpd := by
  rw [dataHeader_eq, store_apply]
  rfl

theorem dataHeader_get_ext (x : UInt8) {gpd : EmberGpd} (ext : ExtFcPresent gpd)
    (f : Cells UInt8) : store f 0 (x :: dataHeader gpd) (macHeaderSize + 1) = extNwkFc gpd := by
  rw [dataHeader_eq, store_apply]
  unfold dataFields
  rw [if_pos ext]
  rfl

theorem Wrote.append {m m' : Mem UInt8} {frame : List UInt8} (h : Wrote m m' frame)
    (xs : List UInt8) (bound : frame.length + xs.length ≤ txMpduSize) :
    Wrote m (m'.store frame.length xs) (frame ++ xs) := by
  refine ⟨?_, fun inside => ?_⟩
  · rw [Mem.store_cell, h.cell, ← store_append, Nat.zero_add]
  · rw [Mem.store_within]
    exact ⟨bound, h.within inside⟩

theorem Wrote.touch {m m' : Mem UInt8} {frame : List UInt8} (h : Wrote m m' frame) (off n : ℕ)
    (bound : off + n ≤ txMpduSize) : Wrote m (m'.touch off n) frame := by
  refine ⟨h.cell, fun inside => ?_⟩
  rw [Mem.touch_within]
  exact ⟨bound, h.within inside⟩

theorem Wrote.set {m m' : Mem UInt8} {frame : List UInt8} (h : Wrote m m' frame) {i : ℕ}
    (x : UInt8) (short : i < frame.length) (bound : i + 1 ≤ txMpduSize) :
    Wrote m (m'.store i [x]) (frame.set i x) := by
  refine ⟨?_, fun inside => ?_⟩
  · rw [Mem.store_cell, h.cell, ← store_set m.cell 0 frame i x short, Nat.zero_add]
  · rw [Mem.store_within]
    exact ⟨bound, h.within inside⟩

theorem Wrote.replace {m m' : Mem UInt8} {xs ys zs : List UInt8} (h : Wrote m m' (xs ++ ys ++ zs))
    (ys' : List UInt8) (same : ys'.length = ys.length) (bound : xs.length + ys.length ≤ txMpduSize) :
    Wrote m (m'.store xs.length ys') (xs ++ ys' ++ zs) := by
  refine ⟨?_, fun inside => ?_⟩
  · rw [Mem.store_cell, h.cell, ← store_middle m.cell 0 xs ys ys' zs same, Nat.zero_add]
  · rw [Mem.store_within, same]
    exact ⟨bound, h.within inside⟩

theorem emberGpdBuildMpdu_wrote (mpdu : Mem UInt8) (payload : List UInt8) (gpd : EmberGpd)
    (hp : payload.length ≤ 59) :
    (emberGpdBuildMpdu mpdu payload gpd).1 = 1 + (sentHeader gpd payload).length + payload.length ∧
      Wrote mpdu (emberGpdBuildMpdu mpdu payload gpd).2
        (UInt8.ofNat ((sentHeader gpd payload).length + payload.length +
          (if Secured gpd.securityLevel then 4 else 0) + 2) ::
          (sentHeader gpd payload ++ payload)) := by
  have hle := sentHeader_length_le gpd payload
  have same : (dataHeader gpd).length = (sentHeader gpd payload).length := by
    rw [dataHeader_length, sentHeader_length]
    rfl
  obtain ⟨hlen, wrote⟩ := gpdBuildHeader_wrote mpdu payload.length gpd hp
  unfold emberGpdBuildMpdu
  rw [same] at hlen wrote
  generalize gpdBuildHeader mpdu payload.length gpd = built at hlen wrote ⊢
  obtain ⟨hdrLength, m⟩ := built
  simp only at hlen wrote ⊢
  subst hlen
  generalize UInt8.ofNat ((sentHeader gpd payload).length + payload.length +
    (if Secured gpd.securityLevel then 4 else 0) + 2) = len at wrote ⊢
  have nwkFc : m.cell macHeaderSize = dataNwkFc gpd := by
    rw [wrote.cell]
    exact dataHeader_get_nwkFc len gpd mpdu.cell
  have patched : Wrote mpdu (if payload.head? = some cmdCommissioningSuccess ∧
      m.cell macHeaderSize &&& nwkFcExtFcMask = nwkFcExtFcMask then
        m.store (macHeaderSize + 1) [m.cell (macHeaderSize + 1) &&& ~~~extNwkFcRxAfterTxMask]
      else m) (len :: sentHeader gpd payload) := by
    have present : m.cell macHeaderSize &&& nwkFcExtFcMask = nwkFcExtFcMask ↔ ExtFcPresent gpd := by
      rw [nwkFc]
      exact extFc_present_iff gpd
    by_cases h : payload.head? = some cmdCommissioningSuccess ∧ ExtFcPresent gpd
    · have ext : m.cell (macHeaderSize + 1) = extNwkFc gpd := by
        rw [wrote.cell]
        exact dataHeader_get_ext len h.2 mpdu.cell
      have long : 9 < (len :: dataHeader gpd).length := by
        rw [List.length_cons, dataHeader_length]
        omega
      rw [if_pos ⟨h.1, present.mpr h.2⟩, ext, sentHeader_of_success h.1 h.2]
      exact wrote.set _ long (by decide)
    · rw [if_neg (fun hc => h ⟨hc.1, present.mp hc.2⟩), sentHeader_of_other h]
      exact wrote
  refine ⟨?_, ?_⟩
  · rw [← Nat.cast_add, uint8_natCast_of_lt (by omega)]
  · have front : 1 + (sentHeader gpd payload).length = (len :: sentHeader gpd payload).length :=
      Nat.add_comm _ _
    rw [front]
    exact patched.append payload (by simp only [List.length_cons, txMpduSize]; omega)

section
variable (ccm : Ccm) (key : Key) (nonce : List UInt8)

/-- The tag goes behind the frame and covers what follows `front`. -/
theorem emberTagTxBuff_wrote {m : Mem UInt8} {data : Pdu} {front auth payload : List UInt8}
    (wrote : Wrote m data.mpdu (front ++ auth ++ payload))
    (room : front.length + auth.length + payload.length + tagSize ≤ txMpduSize) :
    Wrote m (emberTagTxBuff ccm key nonce data (front.length + auth.length + payload.length)
        front.length (auth.length + payload.length)).mpdu
      (front ++ auth ++ payload ++ ccm.tag key nonce (auth ++ payload) []) := by
  have total : (front ++ auth ++ payload).length =
      front.length + auth.length + payload.length := by
    simp only [List.length_append]
  have covered : load data.mpdu.cell front.length (auth.length + payload.length) =
      auth ++ payload := by
    rw [wrote.cell, List.append_assoc, ← List.append_nil (front ++ (auth ++ payload))]
    exact load_store_segment m.cell front (auth ++ payload) [] rfl List.length_append.symm
  unfold emberTagTxBuff
  simp only [covered]
  rw [← total]
  refine (wrote.touch front.length _ ?_).append _ ?_
  · omega
  · rw [total, ccm.tag_length]
    exact room

/-- The ciphertext takes the place of the payload. -/
theorem emberEncryptAndTagTxBuff_wrote {m : Mem UInt8} {data : Pdu}
    {front auth payload : List UInt8} (wrote : Wrote m data.mpdu (front ++ auth ++ payload))
    (room : front.length + auth.length + payload.length + tagSize ≤ txMpduSize)
    (temp : data.tempDataOut.Within tempDataOutSize) (fits : payload.length ≤ tempDataOutSize) :
    let out := emberEncryptAndTagTxBuff ccm key nonce data
      (front.length + auth.length + payload.length) payload.length front.length auth.length
    Wrote m out.mpdu (front ++ auth ++ ccm.encipher key nonce payload ++
        ccm.tag key nonce auth payload) ∧ out.tempDataOut.Within tempDataOutSize := by
  have header : (front ++ auth).length = front.length + auth.length := List.length_append
  have total : (front ++ auth ++ payload).length =
      front.length + auth.length + payload.length := by
    rw [List.length_append, header]
  have authLoad : load data.mpdu.cell front.length auth.length = auth := by
    rw [wrote.cell]
    exact load_store_segment m.cell front auth payload rfl rfl
  have inputLoad : load data.mpdu.cell (front.length + auth.length) payload.length = payload := by
    rw [wrote.cell, ← List.append_nil (front ++ auth ++ payload)]
    exact load_store_segment m.cell (front ++ auth) payload [] header.symm rfl
  have cipher : load (data.tempDataOut.store 0 (ccm.encipher key nonce payload)).cell 0
      payload.length = ccm.encipher key nonce payload := by
    have same := load_store_same data.tempDataOut.cell 0 (ccm.encipher key nonce payload)
    rwa [ccm.encipher_length] at same
  unfold emberEncryptAndTagTxBuff
  simp only [authLoad, inputLoad]
  rw [cipher]
  refine ⟨?_, ?_⟩
  · rw [← total, ← header]
    refine Wrote.replace (?_ : Wrote _ _ ((front ++ auth) ++ payload ++ _)) _
      (ccm.encipher_length _ _ _) ?_
    · refine (wrote.touch front.length _ ?_).append _ ?_
      · omega
      · rw [total, ccm.tag_length]
        exact room
    · rw [header]
      omega
  · rw [Mem.store_within, ccm.encipher_length, Nat.zero_add]
    exact ⟨fits, temp⟩

theorem emberGpdSecureOutgoingMPdu_length (data : Pdu) {n : ℕ} (hn : n ≤ 59) {level : UInt8}
    (secured : Secured level) :
    (emberGpdSecureOutgoingMPdu ccm key nonce data (18 + n) n level).1 = 22 + n := by
  have mpduLength : uint8 ((18 + n : ℕ) + (tagSize : ℕ)) = 22 + n := by
    rw [← Nat.cast_add, uint8_natCast_of_lt]
    · simp only [tagSize]
      omega
    · simp only [tagSize]
      omega
  unfold emberGpdSecureOutgoingMPdu
  rcases secured with rfl | rfl
  · rw [if_neg (by decide), if_pos rfl]
    exact mpduLength
  · rw [if_neg (by decide), if_neg (by decide), if_pos rfl]
    exact mpduLength

/-- Tag and ciphertext stored behind the associated data, as `emberGpdSecureOutgoingMPdu` does. -/
theorem emberGpdSecureOutgoingMPdu_wrote {m : Mem UInt8} {data : Pdu} {level : UInt8}
    {front auth payload : List UInt8} (hp : payload.length ≤ 59) (hf : front.length = 8)
    (ha : auth.length = 10) (wrote : Wrote m data.mpdu (front ++ auth ++ payload))
    (temp : data.tempDataOut.Within tempDataOutSize) (secured : Secured level) :
    let out := emberGpdSecureOutgoingMPdu ccm key nonce data (18 + payload.length) payload.length
      level
    out.1 = 22 + payload.length ∧
      Wrote m out.2.mpdu (front ++ auth ++ securedPayload ccm key nonce level payload ++
        securedMic ccm key nonce level auth payload) ∧
      out.2.tempDataOut.Within tempDataOutSize := by
  have room : front.length + auth.length + payload.length + tagSize ≤ txMpduSize := by
    unfold tagSize txMpduSize
    omega
  have mpduLength := emberGpdSecureOutgoingMPdu_length ccm key nonce data hp secured
  refine ⟨mpduLength, ?_⟩
  unfold emberGpdSecureOutgoingMPdu securedPayload securedMic
  rcases secured with rfl | rfl
  · have notNone : securityLevelLongAuthOnly ≠ securityLevelNone := by decide
    have notFull : securityLevelLongAuthOnly ≠ securityLevelLongFull := by decide
    have authLength : uint8 ((authFixedLenSrcId : ℕ) + payload.length) =
        authFixedLenSrcId + payload.length := by
      rw [← Nat.cast_add, uint8_natCast_of_lt]
      simp only [authFixedLenSrcId]
      omega
    rw [if_neg notNone, if_pos rfl, if_neg notFull, if_pos rfl, authLength]
    have tagged := emberTagTxBuff_wrote ccm key nonce wrote room
    rw [hf, ha] at tagged
    exact ⟨tagged, temp⟩
  · have notNone : securityLevelLongFull ≠ securityLevelNone := by decide
    have notAuth : securityLevelLongFull ≠ securityLevelLongAuthOnly := by decide
    have fits : payload.length ≤ tempDataOutSize := by
      unfold tempDataOutSize
      omega
    rw [if_neg notNone, if_neg notAuth, if_pos rfl, if_pos rfl, if_neg notAuth, if_pos rfl]
    have enciphered := emberEncryptAndTagTxBuff_wrote ccm key nonce wrote room temp fits
    rw [hf, ha] at enciphered
    exact enciphered

theorem authData_length {gpd : EmberGpd} (payload : List UInt8)
    (secured : Secured gpd.securityLevel) : (authData gpd payload).length = 10 := by
  have h := secured_header_length payload secured
  simp only [sentHeader, List.length_append, macHeader_length] at h
  simp only [authData]
  omega

theorem emberGpdSecureOutgoingMPdu_of_not_secured {gpd : EmberGpd}
    (h : ¬ Secured gpd.securityLevel) (data : Pdu) (mpduLength payloadLength : ℕ) :
    emberGpdSecureOutgoingMPdu ccm key nonce data mpduLength payloadLength gpd.securityLevel =
      (mpduLength, data) := by
  unfold emberGpdSecureOutgoingMPdu
  rw [if_neg (fun auth => h (Or.inl auth)), if_neg (fun full => h (Or.inr full)), ite_self]

theorem dataBody_of_not_secured {gpd : EmberGpd} (h : ¬ Secured gpd.securityLevel)
    (payload : List UInt8) :
    dataBody ccm key nonce payload gpd = sentHeader gpd payload ++ payload := by
  unfold dataBody sentPayload sentMic securedPayload securedMic
  rw [if_neg (fun full => h (Or.inr full)), if_neg (fun auth => h (Or.inl auth)),
    if_neg (fun full => h (Or.inr full)), List.append_nil]

theorem dataPdu_wrote (data : Pdu) (payload : List UInt8) (gpd : EmberGpd)
    (hp : payload.length ≤ 59) (temp : data.tempDataOut.Within tempDataOutSize) :
    let out := emberBuildOutGoingPdu ccm key nonce nwkFcFrameTypeData data payload gpd
    out.1 = 1 + (dataBody ccm key nonce payload gpd).length ∧
      Wrote data.mpdu out.2.mpdu (withLength (dataBody ccm key nonce payload gpd)) ∧
      out.2.tempDataOut.Within tempDataOutSize := by
  obtain ⟨length, wrote⟩ := emberGpdBuildMpdu_wrote data.mpdu payload gpd hp
  unfold emberBuildOutGoingPdu withLength
  rw [if_pos rfl, dataBody_length]
  generalize emberGpdBuildMpdu data.mpdu payload gpd = built at length wrote ⊢
  obtain ⟨mpduLength, mpdu⟩ := built
  simp only at length wrote ⊢
  subst length
  by_cases secured : Secured gpd.securityLevel
  · have front : (UInt8.ofNat ((sentHeader gpd payload).length + payload.length +
        (if Secured gpd.securityLevel then 4 else 0) + 2) ::
          macHeader (sequenceNumber gpd)).length = 8 := rfl
    have frame (xs : List UInt8) (len : UInt8) : len :: (sentHeader gpd payload ++ xs) =
        len :: macHeader (sequenceNumber gpd) ++ authData gpd payload ++ xs := by
      simp only [sentHeader, authData, List.append_assoc, List.cons_append]
    have header := secured_header_length payload secured
    obtain ⟨length, wrote, temp⟩ := emberGpdSecureOutgoingMPdu_wrote ccm key nonce hp front
      (authData_length payload secured)
      (show Wrote data.mpdu (Pdu.mk mpdu data.tempDataOut).mpdu _ from frame payload _ ▸ wrote)
      temp secured
    have before : 1 + (sentHeader gpd payload).length + payload.length = 18 + payload.length := by
      rw [header]
    rw [before]
    refine ⟨?_, ?_, temp⟩
    · rw [length, header, if_pos secured]
      omega
    · rw [dataBody, List.append_assoc, frame, sentPayload, sentMic, ← List.append_assoc]
      exact wrote
  · rw [emberGpdSecureOutgoingMPdu_of_not_secured ccm key nonce secured,
      dataBody_of_not_secured ccm key nonce secured]
    refine ⟨?_, wrote, temp⟩
    rw [if_neg secured]
    omega

theorem buildMaintHeader_wrote (seqNo : UInt8) (buffer : Mem UInt8) (n : ℕ) (enterRx : Bool)
    (hn : n ≤ 59) : (buildMaintHeader seqNo buffer n enterRx).1 = 9 ∧
      Wrote buffer (buildMaintHeader seqNo buffer n enterRx).2
        (UInt8.ofNat (8 + n + 2) :: (macHeader seqNo ++ [maintNwkFc enterRx])) := by
  have header : (macHeader seqNo ++ [maintNwkFc enterRx]).length = 8 := rfl
  have len : uint8 ((1 + (macHeader seqNo ++ [maintNwkFc enterRx]).length : ℕ) + 1 + n) =
      8 + n + 2 := by
    rw [header]
    unfold uint8
    omega
  unfold buildMaintHeader
  simp only [len]
  refine ⟨rfl, ⟨store_len _ _ _, fun inside => ?_⟩⟩
  rw [Mem.store_within, Mem.store_within, header]
  exact ⟨(by decide : 0 + 1 ≤ 128), (by decide : 1 + 8 ≤ 128), inside⟩

theorem maintPdu_wrote (data : Pdu) (payload : List UInt8) (gpd : EmberGpd)
    (hp : payload.length ≤ 59) :
    let out := emberBuildOutGoingPdu ccm key nonce nwkFcFrameTypeMaint data payload gpd
    out.1 = 1 + (maintBody payload gpd).length ∧
      Wrote data.mpdu out.2.mpdu (withLength (maintBody payload gpd)) ∧
      out.2.tempDataOut = data.tempDataOut := by
  have other : nwkFcFrameTypeMaint ≠ nwkFcFrameTypeData := by decide
  obtain ⟨hdrLength, header⟩ := buildMaintHeader_wrote (sequenceNumber gpd) data.mpdu
    payload.length (!gpd.autoCommissioning) hp
  unfold emberBuildOutGoingPdu emberBuildMaintMpdu withLength
  rw [if_neg other, if_pos rfl, maintBody_length]
  change _ ∧ Wrote data.mpdu ((buildMaintHeader (sequenceNumber gpd) data.mpdu payload.length
    (!gpd.autoCommissioning)).2.store (buildMaintHeader (sequenceNumber gpd) data.mpdu
    payload.length (!gpd.autoCommissioning)).1 payload) _ ∧ _
  refine ⟨?_, ?_, rfl⟩
  · change uint8 (9 + payload.length) = _
    unfold uint8
    omega
  · rw [hdrLength]
    exact header.append payload (show 9 + payload.length ≤ 128 by omega)

end

end GreenPower.FrameLayout
