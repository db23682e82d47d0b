import GreenPower.IeeeAddressing

set_option autoImplicit false

/-!
The frames of a build with IEEE addressing in memory, by the standard's field order, and how a
receiver opens one that looks at its octets alone.
-/
namespace GreenPower.IeeeAddressing
open MemoryArray ByteWord BuildOptions DeviceState Security FrameBuild FrameLayout FrameReadBack

def ieeeFields (gpd : EmberGpd) (ext : UInt8) : List UInt8 :=
  [ieeeNwkFc gpd, ext, gpd.addr.gpdEndpoint] ++
    (if Secured gpd.securityLevel then copy4Bytes gpd.securityFrameCounter else [])

def ieeeSentHeader (gpd : EmberGpd) (payload : List UInt8) : List UInt8 :=
  ieeeMacHeader (sequenceNumber gpd) gpd.addr ++ ieeeFields gpd (sentExtNwkFc gpd payload)

def ieeeBody (ccm : Ccm) (key : Key) (nonce payload : List UInt8) (gpd : EmberGpd) : List UInt8 :=
  ieeeSentHeader gpd payload ++ securedPayload ccm key nonce gpd.securityLevel payload ++
    securedMic ccm key nonce gpd.securityLevel (ieeeFields gpd (sentExtNwkFc gpd payload)) payload

@[simp] theorem ieeeMacHeader_length (seqNo : UInt8) (addr : EmberGpdAddr) :
    (ieeeMacHeader seqNo addr).length = 15 := rfl

theorem ieeeFields_length (gpd : EmberGpd) (ext : UInt8) :
    (ieeeFields gpd ext).length = 3 + (if Secured gpd.securityLevel then 4 else 0) := by
  unfold ieeeFields
  split_ifs <;> rfl

theorem ieeeSentHeader_length (gpd : EmberGpd) (payload : List UInt8) :
    (ieeeSentHeader gpd payload).length = 18 + (if Secured gpd.securityLevel then 4 else 0) := by
  unfold ieeeSentHeader
  rw [List.length_append, ieeeMacHeader_length, ieeeFields_length]
  omega

theorem ieeeBody_length (ccm : Ccm) (key : Key) (nonce payload : List UInt8) (gpd : EmberGpd) :
    (ieeeBody ccm key nonce payload gpd).length = (ieeeSentHeader gpd payload).length +
      payload.length + (if Secured gpd.securityLevel then 4 else 0) := by
  unfold ieeeBody
  rw [List.length_append, List.length_append, securedPayload_length, securedMic_length]

theorem ieee_ext_present (gpd : EmberGpd) :
    ieeeNwkFc gpd &&& nwkFcExtFcMask = nwkFcExtFcMask := by
  unfold ieeeNwkFc
  split_ifs <;> decide

theorem ieeeHeader_eq (gpd : EmberGpd) : ieeeHeader gpd =
    ieeeMacHeader (sequenceNumber gpd) gpd.addr ++ ieeeFields gpd (extNwkFc gpd) := by
  unfold ieeeHeader ieeeFields
  rw [sequenceNumber_eq, if_pos (ieee_ext_present gpd)]
  simp only [List.append_assoc, List.cons_append, List.nil_append]

theorem ieeeHeader_length (gpd : EmberGpd) :
    (ieeeHeader gpd).length = 18 + (if Secured gpd.securityLevel then 4 else 0) := by
  rw [ieeeHeader_eq, List.length_append, ieeeMacHeader_length, ieeeFields_length]
  omega

theorem ieeeSentHeader_of_other {gpd : EmberGpd} {payload : List UInt8}
    (other : payload.head? ≠ some cmdCommissioningSuccess) :
    ieeeSentHeader gpd payload = ieeeHeader gpd := by
  unfold ieeeSentHeader sentExtNwkFc
  rw [if_neg other, ieeeHeader_eq]

theorem ieeeSentHeader_of_success {gpd : EmberGpd} {payload : List UInt8}
    (success : payload.head? = some cmdCommissioningSuccess) :
    ieeeSentHeader gpd payload =
      (ieeeHeader gpd).set 16 (extNwkFc gpd &&& ~~~extNwkFcRxAfterTxMask) := by
  unfold ieeeSentHeader sentExtNwkFc
  rw [if_pos success, ieeeHeader_eq]
  rfl

theorem ieee_gpdBuildHeader_wrote (buffer : Mem UInt8) {n : ℕ} (gpd : EmberGpd) (hn : n ≤ 54) :
    (gpdBuildHeader buffer n gpd).1 = 1 + (ieeeHeader gpd).length ∧
      Wrote buffer (gpdBuildHeader buffer n gpd).2 (UInt8.ofNat ((ieeeHeader gpd).length + n +
        (if Secured gpd.securityLevel then 4 else 0) + 2) :: ieeeHeader gpd) := by
  have header := ieeeHeader_length gpd
  have length : uint8 ((1 + (ieeeHeader gpd).length : ℕ) + 1 + n +
      (if Secured gpd.securityLevel then tagSize else 0 : ℕ)) = (ieeeHeader gpd).length + n +
        (if Secured gpd.securityLevel then 4 else 0) + 2 := by
    unfold uint8 tagSize
    split_ifs at header ⊢ <;> omega
  unfold gpdBuildHeader
  simp only [length]
  refine ⟨uint8_natCast_of_lt ?_, ⟨store_len _ _ _, fun inside => ?_⟩⟩
  · split_ifs at header <;> omega
  · rw [Mem.store_within, Mem.store_within]
    refine ⟨(by decide : 0 + 1 ≤ 128), ?_, inside⟩
    unfold txMpduSize
    split_ifs at header <;> omega

theorem ieee_emberGpdBuildMpdu_wrote (mpdu : Mem UInt8) (payload : List UInt8) (gpd : EmberGpd)
    (hp : payload.length ≤ 54) :
    (emberGpdBuildMpdu mpdu payload gpd).1 =
        1 + (ieeeSentHeader gpd payload).length + payload.length ∧
      Wrote mpdu (emberGpdBuildMpdu mpdu payload gpd).2
        (UInt8.ofNat ((ieeeSentHeader gpd payload).length + payload.length +
          (if Secured gpd.securityLevel then 4 else 0) + 2) ::
          (ieeeSentHeader gpd payload ++ payload)) := by
  have long := ieeeSentHeader_length gpd payload
  have same : (ieeeHeader gpd).length = (ieeeSentHeader gpd payload).length := by
    rw [ieeeHeader_length, long]
  have fits : (ieeeSentHeader gpd payload).length ≤ 22 := by
    rw [long]
    split_ifs <;> omega
  obtain ⟨length, wrote⟩ := ieee_gpdBuildHeader_wrote mpdu gpd hp
  unfold emberGpdBuildMpdu
  rw [same] at length wrote
  generalize gpdBuildHeader mpdu payload.length gpd = built at length wrote ⊢
  obtain ⟨hdrLength, m⟩ := built
  simp only at length wrote ⊢
  subst length
  generalize UInt8.ofNat ((ieeeSentHeader gpd payload).length + payload.length +
    (if Secured gpd.securityLevel then 4 else 0) + 2) = len at wrote ⊢
  have control : m.cell macHeaderSizeIeeeTx = ieeeNwkFc gpd := by
    rw [wrote.cell, ieeeHeader_eq]
    rfl
  have ext : m.cell (macHeaderSizeIeeeTx + 1) = extNwkFc gpd := by
    rw [wrote.cell, ieeeHeader_eq]
    rfl
  have patched : Wrote mpdu (if payload.head? = some cmdCommissioningSuccess ∧
      m.cell macHeaderSizeIeeeTx &&& nwkFcExtFcMask = nwkFcExtFcMask then
        m.store (macHeaderSizeIeeeTx + 1)
          [m.cell (macHeaderSizeIeeeTx + 1) &&& ~~~extNwkFcRxAfterTxMask]
      else m) (len :: ieeeSentHeader gpd payload) := by
    rw [control, ext]
    by_cases success : payload.head? = some cmdCommissioningSuccess
    · rw [if_pos ⟨success, ieee_ext_present gpd⟩, ieeeSentHeader_of_success success]
      have inside : 17 < (len :: ieeeHeader gpd).length := by
        rw [List.length_cons, ieeeHeader_length]
        omega
      exact wrote.set _ inside (by decide)
    · rw [if_neg (fun both => success both.1), ieeeSentHeader_of_other success]
      exact wrote
  refine ⟨?_, ?_⟩
  · rw [← Nat.cast_add, uint8_natCast_of_lt (by omega)]
  · have front : 1 + (ieeeSentHeader gpd payload).length =
        (len :: ieeeSentHeader gpd payload).length := Nat.add_comm _ _
    rw [front]
    exact patched.append payload (by simp only [List.length_cons, txMpduSize]; omega)

section
variable (ccm : Ccm) (key : Key) (nonce : List UInt8) {m : Mem UInt8} {data : Pdu}
  {front auth payload : List UInt8}

theorem ieee_emberGpdSecureOutgoingMPdu_wrote {level : UInt8} (hp : payload.length ≤ 54)
    (hf : front.length = 16) (ha : auth.length = 7)
    (wrote : Wrote m data.mpdu (front ++ auth ++ payload))
    (temp : data.tempDataOut.Within tempDataOutSize) (secured : Secured level) :
    let out := emberGpdSecureOutgoingMPdu ccm key nonce data (23 + payload.length) payload.length
      level
    out.1 = 27 + payload.length ∧
      Wrote m out.2.mpdu (front ++ auth ++ securedPayload ccm key nonce level payload ++
        securedMic ccm key nonce level auth payload) ∧
      out.2.tempDataOut.Within tempDataOutSize := by
  have room : front.length + auth.length + payload.length + tagSize ≤ txMpduSize := by
    unfold tagSize txMpduSize
    omega
  have length : uint8 ((23 + payload.length : ℕ) + (tagSize : ℕ)) = 27 + payload.length := by
    unfold uint8 tagSize
    omega
  have authLength : uint8 ((authFixedLenIeee : ℕ) + payload.length) =
      authFixedLenIeee + payload.length := by
    unfold uint8 authFixedLenIeee
    omega
  unfold emberGpdSecureOutgoingMPdu securedPayload securedMic
  rcases secured with rfl | rfl
  · have notNone : securityLevelLongAuthOnly ≠ securityLevelNone := by decide
    have notFull : securityLevelLongAuthOnly ≠ securityLevelLongFull := by decide
    rw [if_neg notNone, if_pos rfl, if_neg notFull, if_pos rfl, authLength]
    have tagged := emberTagTxBuff_wrote ccm key nonce wrote room
    rw [hf, ha] at tagged
    exact ⟨length, tagged, temp⟩
  · have notNone : securityLevelLongFull ≠ securityLevelNone := by decide
    have notAuth : securityLevelLongFull ≠ securityLevelLongAuthOnly := by decide
    have fits : payload.length ≤ tempDataOutSize := by
      unfold tempDataOutSize
      omega
    rw [if_neg notNone, if_neg notAuth, if_pos rfl, if_pos rfl, if_neg notAuth, if_pos rfl]
    have enciphered := emberEncryptAndTagTxBuff_wrote ccm key nonce wrote room temp fits
    rw [hf, ha] at enciphered
    exact ⟨length, enciphered⟩

theorem ieee_emberGpdSecureOutgoingMPdu_of_not_secured {level : UInt8} (h : ¬ Secured level)
    (data : Pdu) (mpduLength payloadLength : ℕ) :
    emberGpdSecureOutgoingMPdu ccm key nonce data mpduLength payloadLength level =
      (mpduLength, data) := by
  unfold emberGpdSecureOutgoingMPdu
  rw [if_neg (fun auth => h (Or.inl auth)), if_neg (fun full => h (Or.inr full)), ite_self]

theorem ieeeBody_of_not_secured {gpd : EmberGpd} (h : ¬ Secured gpd.securityLevel)
    (payload : List UInt8) :
    ieeeBody ccm key nonce payload gpd = ieeeSentHeader gpd payload ++ payload := by
  unfold ieeeBody securedPayload securedMic
  rw [if_neg (fun full => h (Or.inr full)), if_neg (fun auth => h (Or.inl auth)),
    if_neg (fun full => h (Or.inr full)), List.append_nil]

theorem ieeePdu_wrote (data : Pdu) (payload : List UInt8) (gpd : EmberGpd)
    (hp : payload.length ≤ 54) (temp : data.tempDataOut.Within tempDataOutSize) :
    let out := emberBuildOutGoingPdu ccm key nonce nwkFcFrameTypeData data payload gpd
    out.1 = 1 + (ieeeBody ccm key nonce payload gpd).length ∧
      Wrote data.mpdu out.2.mpdu (withLength (ieeeBody ccm key nonce payload gpd)) ∧
      out.2.tempDataOut.Within tempDataOutSize := by
  obtain ⟨length, wrote⟩ := ieee_emberGpdBuildMpdu_wrote data.mpdu payload gpd hp
  have header := ieeeSentHeader_length gpd payload
  unfold emberBuildOutGoingPdu withLength
  rw [if_pos rfl, ieeeBody_length]
  generalize emberGpdBuildMpdu data.mpdu payload gpd = built at length wrote ⊢
  obtain ⟨mpduLength, mpdu⟩ := built
  simp only at length wrote ⊢
  subst length
  by_cases secured : Secured gpd.securityLevel
  · generalize UInt8.ofNat ((ieeeSentHeader gpd payload).length + payload.length +
      (if Secured gpd.securityLevel then 4 else 0) + 2) = len at wrote ⊢
    rw [if_pos secured] at header ⊢
    have frame (xs : List UInt8) : len :: (ieeeSentHeader gpd payload ++ xs) =
        (len :: ieeeMacHeader (sequenceNumber gpd) gpd.addr) ++
          ieeeFields gpd (sentExtNwkFc gpd payload) ++ xs := by
      simp only [ieeeSentHeader, List.append_assoc, List.cons_append]
    have fields : (ieeeFields gpd (sentExtNwkFc gpd payload)).length = 7 := by
      rw [ieeeFields_length, if_pos secured]
    rw [frame] at wrote
    obtain ⟨length, wrote, temp⟩ := ieee_emberGpdSecureOutgoingMPdu_wrote ccm key nonce hp rfl
      fields (show Wrote data.mpdu (Pdu.mk mpdu data.tempDataOut).mpdu _ from wrote) temp secured
    have before : 1 + (ieeeSentHeader gpd payload).length + payload.length =
        23 + payload.length := by
      omega
    rw [before]
    refine ⟨?_, ?_, temp⟩
    · rw [length, header]
      omega
    · rw [ieeeBody, List.append_assoc, frame, ← List.append_assoc]
      exact wrote
  · rw [ieee_emberGpdSecureOutgoingMPdu_of_not_secured ccm key nonce secured,
      ieeeBody_of_not_secured ccm key nonce secured]
    refine ⟨?_, wrote, temp⟩
    rw [if_neg secured]
    omega

end

def opened (ccm : Ccm) (key : Key) (frame : Cells UInt8) : Option (List UInt8) :=
  let level := bitField (frame 17) 3 2
  let finish := FrameFields.frameEnd frame
  let nonce := load frame 8 8 ++ load frame 19 4 ++ [zigbeeSecurityControl]
  if level = 0 then some (load frame 19 (finish - 19))
  else if level = 2 then
    if ccm.Verifies key nonce (load frame 16 (finish - 20)) [] (load frame (finish - 4) 4) then
      some (load frame 23 (finish - 27))
    else none
  else if level = 3 then
    let (ok, payload) := ccm.authDecrypt 0 key nonce (load frame 16 7)
      (load frame 23 (finish - 27)) (load frame (finish - 4) 4)
    if ok then some payload else none
  else none

theorem sentExtNwkFc_level {gpd : EmberGpd} (app : gpd.addr.appId = appIdIeeeId)
    (level : gpd.securityLevel = securityLevelNone ∨ Secured gpd.securityLevel)
    (payload : List UInt8) : bitField (sentExtNwkFc gpd payload) 3 2 = gpd.securityLevel.toNat := by
  unfold sentExtNwkFc extNwkFc
  rcases level with level | level | level
  · simp only [app, level]
    split_ifs <;> decide
  · simp only [app, level]
    split_ifs <;> decide
  · simp only [app, level]
    split_ifs <;> decide

structure HeaderOctets (frame : Cells UInt8) (addr : EmberGpdAddr) (ext : UInt8) : Prop where
  control : FrameFields.macFrameControl frame = macFcIeeeWord
  address : load frame 8 8 = ieee addr
  ext : frame 17 = ext
  endpoint : frame 18 = addr.gpdEndpoint

theorem headerOctets (f : Cells UInt8) (len seqNo nwkFc ext : UInt8) (addr : EmberGpdAddr)
    (tail : List UInt8) : HeaderOctets
      (store f 0 (len :: (ieeeMacHeader seqNo addr ++ [nwkFc, ext, addr.gpdEndpoint] ++ tail)))
      addr ext where
  control := by
    unfold FrameFields.macFrameControl
    have low : store f 0 (len :: (ieeeMacHeader seqNo addr ++ [nwkFc, ext, addr.gpdEndpoint] ++
      tail)) 1 = loUint16 macFcIeeeWord := rfl
    have high : store f 0 (len :: (ieeeMacHeader seqNo addr ++ [nwkFc, ext, addr.gpdEndpoint] ++
      tail)) 2 = hiUint16 macFcIeeeWord := rfl
    rw [low, high]
    decide
  address := by
    have split : len :: (ieeeMacHeader seqNo addr ++ [nwkFc, ext, addr.gpdEndpoint] ++ tail) =
        [len, loUint16 macFcIeeeWord, hiUint16 macFcIeeeWord, seqNo, loUint16 0xFFFF,
          hiUint16 0xFFFF, loUint16 0xFFFF, hiUint16 0xFFFF] ++ ieee addr ++
          ([nwkFc, ext, addr.gpdEndpoint] ++ tail) := by
      simp only [ieeeMacHeader, List.append_assoc, List.cons_append, List.nil_append]
    rw [split]
    exact load_store_segment f _ (ieee addr) _ rfl rfl
  ext := rfl
  endpoint := rfl

theorem ieeeBody_octets (ccm : Ccm) (key : Key) (nonce payload : List UInt8) (f : Cells UInt8)
    (gpd : EmberGpd) : HeaderOctets (store f 0 (withLength (ieeeBody ccm key nonce payload gpd)))
      gpd.addr (sentExtNwkFc gpd payload) := by
  unfold withLength
  generalize UInt8.ofNat ((ieeeBody ccm key nonce payload gpd).length + 2) = len
  unfold ieeeBody ieeeSentHeader ieeeFields
  rw [← List.append_assoc (ieeeMacHeader _ _), List.append_assoc, List.append_assoc]
  exact headerOctets f len _ _ _ gpd.addr _

structure SecuredParts (frame : Cells UInt8) (gpd : EmberGpd) (auth cipher mic : List UInt8) :
    Prop where
  counter : load frame 19 4 = copy4Bytes gpd.securityFrameCounter
  fields : load frame 16 7 = auth
  payload : load frame 23 cipher.length = cipher
  tag : load frame (23 + cipher.length) 4 = mic

theorem securedParts (f : Cells UInt8) (len : UInt8) {gpd : EmberGpd} (ext : UInt8)
    (secured : Secured gpd.securityLevel) (cipher : List UInt8) {mic : List UInt8}
    (four : mic.length = 4) :
    SecuredParts (store f 0 (len :: (ieeeMacHeader (sequenceNumber gpd) gpd.addr ++
      ieeeFields gpd ext ++ cipher ++ mic))) gpd (ieeeFields gpd ext) cipher mic := by
  have fields : ieeeFields gpd ext = [ieeeNwkFc gpd, ext, gpd.addr.gpdEndpoint] ++
      copy4Bytes gpd.securityFrameCounter := by
    unfold ieeeFields
    rw [if_pos secured]
  have front : (len :: ieeeMacHeader (sequenceNumber gpd) gpd.addr).length = 16 := rfl
  have seven : (ieeeFields gpd ext).length = 7 := by
    rw [fields]
    rfl
  have whole : len :: (ieeeMacHeader (sequenceNumber gpd) gpd.addr ++ ieeeFields gpd ext ++
      cipher ++ mic) = len :: ieeeMacHeader (sequenceNumber gpd) gpd.addr ++ ieeeFields gpd ext ++
        cipher ++ mic ++ [] := by
    simp only [List.append_assoc, List.cons_append, List.append_nil]
  rw [whole]
  have header : (len :: ieeeMacHeader (sequenceNumber gpd) gpd.addr ++
      ieeeFields gpd ext).length = 23 := by
    rw [List.length_append, front, seven]
  refine ⟨?_, ?_, ?_, ?_⟩
  · have split : len :: ieeeMacHeader (sequenceNumber gpd) gpd.addr ++ ieeeFields gpd ext ++
        cipher ++ mic ++ [] = (len :: ieeeMacHeader (sequenceNumber gpd) gpd.addr ++
          [ieeeNwkFc gpd, ext, gpd.addr.gpdEndpoint]) ++ copy4Bytes gpd.securityFrameCounter ++
            (cipher ++ mic) := by
      rw [fields]
      simp only [List.append_assoc, List.append_nil]
    rw [split]
    exact load_store_segment f _ (copy4Bytes gpd.securityFrameCounter) _ rfl rfl
  · rw [List.append_assoc, List.append_assoc]
    exact load_store_segment f _ _ _ front.symm seven.symm
  · rw [List.append_assoc]
    exact load_store_segment f _ cipher _ header.symm rfl
  · refine load_store_segment f _ mic [] ?_ four.symm
    rw [List.length_append, header]

section
variable (ccm : Ccm) (key : Key) (f : Cells UInt8) {payload : List UInt8} {gpd : EmberGpd}

theorem opened_plain (nonce : List UInt8) (app : gpd.addr.appId = appIdIeeeId)
    (none : gpd.securityLevel = securityLevelNone) (fits : payload.length ≤ 54) :
    opened ccm key (store f 0 (withLength (ieeeBody ccm key nonce payload gpd))) = some payload := by
  have plain : ¬ Secured gpd.securityLevel := by
    rw [none]
    exact not_secured_none
  have level := sentExtNwkFc_level app (Or.inl none) payload
  have header := ieeeSentHeader_length gpd payload
  rw [if_neg plain] at header
  have body := ieeeBody_of_not_secured ccm key nonce plain payload
  have finish := withLength_end f (ieeeBody ccm key nonce payload gpd) (by
    rw [body, List.length_append]
    omega)
  have ext := (ieeeBody_octets ccm key nonce payload f gpd).ext
  unfold opened
  simp only [ext, level, finish]
  have zero : gpd.securityLevel.toNat = 0 := congrArg UInt8.toNat none
  rw [if_pos zero, body]
  have total : (withLength (ieeeSentHeader gpd payload ++ payload)).length - 19 =
      payload.length := by
    unfold withLength
    rw [List.length_cons, List.length_append]
    omega
  rw [total]
  unfold withLength
  rw [← List.cons_append, ← List.append_nil (_ ++ payload)]
  refine congrArg some (load_store_segment f _ payload [] ?_ rfl)
  rw [List.length_cons, header]

theorem opened_secured (app : gpd.addr.appId = appIdIeeeId) (secured : Secured gpd.securityLevel)
    (fits : payload.length ≤ 54) :
    opened ccm key (store f 0 (withLength (ieeeBody ccm key
      (ieeeNonce gpd.addr gpd.securityFrameCounter zigbeeSecurityControl) payload gpd))) =
      some payload := by
  generalize own : ieeeNonce gpd.addr gpd.securityFrameCounter zigbeeSecurityControl = nonce
  have level := sentExtNwkFc_level app (Or.inr secured) payload
  have header := ieeeSentHeader_length gpd payload
  have total := ieeeBody_length ccm key nonce payload gpd
  rw [if_pos secured] at header total
  have finish := withLength_end f (ieeeBody ccm key nonce payload gpd) (by omega)
  have octets := ieeeBody_octets ccm key nonce payload f gpd
  have four : (securedMic ccm key nonce gpd.securityLevel
      (ieeeFields gpd (sentExtNwkFc gpd payload)) payload).length = 4 := by
    rw [securedMic_length, if_pos secured]
  have parts := securedParts f (UInt8.ofNat ((ieeeBody ccm key nonce payload gpd).length + 2))
    (sentExtNwkFc gpd payload) secured (securedPayload ccm key nonce gpd.securityLevel payload) four
  change SecuredParts (store f 0 (withLength (ieeeBody ccm key nonce payload gpd))) _ _ _ _ at parts
  have nonces : load (store f 0 (withLength (ieeeBody ccm key nonce payload gpd))) 8 8 ++
      load (store f 0 (withLength (ieeeBody ccm key nonce payload gpd))) 19 4 ++
        [zigbeeSecurityControl] = nonce := by
    rw [octets.address, parts.counter]
    exact own
  have ends : (withLength (ieeeBody ccm key nonce payload gpd)).length = 27 + payload.length := by
    unfold withLength
    rw [List.length_cons]
    omega
  have cipherLoad := parts.payload
  have tagLoad := parts.tag
  rw [securedPayload_length] at cipherLoad tagLoad
  have mic : 27 + payload.length - 4 = 23 + payload.length := by omega
  have length : 27 + payload.length - 27 = payload.length := by omega
  have covered : 27 + payload.length - 20 = 7 + payload.length := by omega
  unfold opened
  simp only [octets.ext, level, finish, ends, nonces, mic, length, covered, load_add,
    parts.fields, cipherLoad, tagLoad]
  rcases secured with authOnly | full
  · have two : gpd.securityLevel.toNat = 2 := congrArg UInt8.toNat authOnly
    have notFull : gpd.securityLevel ≠ securityLevelLongFull := by
      rw [authOnly]
      decide
    have plain : securedPayload ccm key nonce gpd.securityLevel payload = payload :=
      if_neg notFull
    have mic : securedMic ccm key nonce gpd.securityLevel
        (ieeeFields gpd (sentExtNwkFc gpd payload)) payload =
        ccm.tag key nonce (ieeeFields gpd (sentExtNwkFc gpd payload) ++ payload) [] :=
      if_pos authOnly
    have nothing : ccm.decipher key nonce [] = [] :=
      List.length_eq_zero_iff.mp (ccm.decipher_length key nonce [])
    have verifies : ccm.Verifies key nonce
        (ieeeFields gpd (sentExtNwkFc gpd payload) ++ payload) []
        (ccm.tag key nonce (ieeeFields gpd (sentExtNwkFc gpd payload) ++ payload) []) := by
      unfold AuthenticatedCipher.Aead.Verifies
      rw [nothing]
    rw [plain, mic, two, if_neg (by decide), if_pos rfl, if_pos verifies]
  · have three : gpd.securityLevel.toNat = 3 := congrArg UInt8.toNat full
    have notAuth : gpd.securityLevel ≠ securityLevelLongAuthOnly := by
      rw [full]
      decide
    have cipher : securedPayload ccm key nonce gpd.securityLevel payload =
        ccm.encipher key nonce payload := if_pos full
    have mic : securedMic ccm key nonce gpd.securityLevel
        (ieeeFields gpd (sentExtNwkFc gpd payload)) payload =
        ccm.tag key nonce (ieeeFields gpd (sentExtNwkFc gpd payload)) payload := by
      unfold securedMic
      rw [if_neg notAuth, if_pos full]
    rw [cipher, mic, three, if_neg (by decide), if_neg (by decide), if_pos rfl,
      ccm.authDecrypt_encipher]
    rfl

end

end GreenPower.IeeeAddressing
