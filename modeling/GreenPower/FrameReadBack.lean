import GreenPower.AesCipher
import GreenPower.FrameFields
import GreenPower.FrameLayout

set_option autoImplicit false

/-!
Reading a sent frame back. The readers look at the frame's octets alone; the two structures
say which value each field has, and hold of every frame `emberBuildOutGoingPdu` builds.
-/
namespace GreenPower.FrameReadBack
open MemoryArray ByteWord BuildOptions DeviceState Security FrameBuild FrameFields FrameLayout

section
variable (frame : Cells UInt8)

/-- The source id stands behind the frame control of every data frame sent. -/
def counterStart : ℕ := srcIdStart frame + 4

def payloadStart : ℕ := counterStart frame + (if SecurityFields frame then 4 else 0)

def micStart : ℕ := frameEnd frame - (if SecurityFields frame then 4 else 0)

end

structure HeaderReads (frame : Cells UInt8) (gpd : EmberGpd) : Prop where
  mac : macFrameControl frame = macFcWord
  sequence : (frame 3).toNat = gpd.securityFrameCounter.toNat % 256
  version : protocolVersion frame = 3
  auto : bitField (nwkControl frame) 6 1 = 1 ↔ gpd.autoCommissioning = true

structure ExtControlReads (ext : UInt8) (gpd : EmberGpd) (payload : List UInt8) : Prop where
  appId : bitField ext 0 3 = appIdSrcId.toNat
  level : bitField ext 3 2 = gpd.securityLevel.toNat
  keyIndication : bitField ext 5 1 =
    if gpd.securityLevel = securityLevelNone then 0 else bitField gpd.securityKeyType 2 1
  rxAfterTx : bitField ext 6 1 = 1 ↔
    gpd.rxAfterTx ≠ 0 ∧ payload.head? ≠ some cmdCommissioningSuccess
  direction : bitField ext 7 1 = 0

structure DataFrameReads (frame : Cells UInt8) (gpd : EmberGpd) (payload cipher mic : List UInt8) :
    Prop extends HeaderReads frame gpd where
  frameType : DataFrame frame
  extended : Extended frame ↔ securityLevelNone < gpd.securityLevel ∨ gpd.rxAfterTx = 1
  ext : Extended frame → ExtControlReads (extControl frame) gpd payload
  srcId : word32 (load frame (srcIdStart frame) 4) = gpd.addr.srcId
  secured : SecurityFields frame ↔ gpd.securityLevel = 2 ∨ gpd.securityLevel = 3
  counter : SecurityFields frame →
    word32 (load frame (counterStart frame) 4) = gpd.securityFrameCounter
  payload : load frame (payloadStart frame) (micStart frame - payloadStart frame) = cipher
  mic : load frame (micStart frame) (frameEnd frame - micStart frame) = mic
  micLength : SecurityFields frame → micStart frame + 4 = frameEnd frame

structure MaintFrameReads (frame : Cells UInt8) (gpd : EmberGpd) (payload : List UInt8) :
    Prop extends HeaderReads frame gpd where
  frameType : MaintenanceFrame frame
  extended : ¬ Extended frame
  payload : load frame (nwkStart frame + 1) (frameEnd frame - (nwkStart frame + 1)) = payload

/-- The two buffers are accessed inside only, and the length byte counts the octets sent
behind it and the FCS. -/
structure InBounds (before : Mem UInt8) (out : ℕ × Pdu) : Prop where
  mpdu : before.Within txMpduSize → out.2.mpdu.Within txMpduSize
  temp : out.2.tempDataOut.Within tempDataOutSize
  length : (out.2.mpdu.cell 0).toNat - 1 = out.1
  onAir : (out.2.mpdu.cell 0).toNat =
    (load out.2.mpdu.cell 0 out.1).tail.length + macFooterSize

theorem dataNwkFc_fields (gpd : EmberGpd) :
    bitField (dataNwkFc gpd) 0 2 = 0 ∧ bitField (dataNwkFc gpd) 2 4 = 3 ∧
      (bitField (dataNwkFc gpd) 6 1 = 1 ↔ gpd.autoCommissioning = true) ∧
      (bitField (dataNwkFc gpd) 7 1 = 1 ↔ ExtFcPresent gpd) := by
  unfold dataNwkFc ExtFcPresent
  split_ifs with auto ext ext <;> simp only [auto, ext, iff_true, iff_false] <;> decide

theorem maintNwkFc_fields (enterRx : Bool) :
    bitField (maintNwkFc enterRx) 0 2 = 1 ∧ bitField (maintNwkFc enterRx) 2 4 = 3 ∧
      (bitField (maintNwkFc enterRx) 6 1 = 1 ↔ enterRx = false) ∧
      bitField (maintNwkFc enterRx) 7 1 = 0 := by
  cases enterRx <;> decide

def extOctet (level : UInt8) (individualKey rx success : Bool) : UInt8 :=
  let fc := appIdSrcId ||| (level <<< extNwkFcSecurityLevelOffset)
  let fc := if level = securityLevelNone then fc
    else fc ||| (if individualKey then extNwkFcSecKeyTypeMask else 0)
  let fc := fc ||| (if rx then extNwkFcRxAfterTxMask else 0)
  if success then fc &&& ~~~extNwkFcRxAfterTxMask else fc

theorem extOctet_fields : ∀ (l : Fin 4) (individualKey rx success : Bool),
    let fc := extOctet (UInt8.ofNat l) individualKey rx success
    bitField fc 0 3 = 0 ∧ bitField fc 3 2 = l ∧
      bitField fc 5 1 = (if UInt8.ofNat l = securityLevelNone then 0
        else if individualKey then 1 else 0) ∧
      (bitField fc 6 1 = 1 ↔ rx = true ∧ success = false) ∧ bitField fc 7 1 = 0 := by
  decide +kernel

def individualKey (gpd : EmberGpd) : Bool :=
  gpd.securityKeyType &&& securityKeyTypeIndicationMask ≠ 0

theorem keyIndication_eq : ∀ keyType : UInt8, bitField keyType 2 1 =
    if decide (keyType &&& securityKeyTypeIndicationMask ≠ 0) = true then 1 else 0 :=
  forall_uint8 (by decide +kernel)

theorem sentExtNwkFc_eq {gpd : EmberGpd} (happ : gpd.addr.appId = appIdSrcId)
    (payload : List UInt8) : sentExtNwkFc gpd payload =
      extOctet gpd.securityLevel (individualKey gpd) (decide (gpd.rxAfterTx ≠ 0))
        (decide (payload.head? = some cmdCommissioningSuccess)) := by
  unfold sentExtNwkFc extNwkFc extOctet individualKey
  simp only [happ, decide_eq_true_eq]

theorem sentExtNwkFc_reads {gpd : EmberGpd} (happ : gpd.addr.appId = appIdSrcId)
    (hl : gpd.securityLevel ≤ 3) (payload : List UInt8) :
    ExtControlReads (sentExtNwkFc gpd payload) gpd payload := by
  have level : gpd.securityLevel.toNat < 4 := Nat.lt_succ_of_le hl
  obtain ⟨appId, lev, key, rx, direction⟩ := extOctet_fields ⟨_, level⟩ (individualKey gpd)
    (decide (gpd.rxAfterTx ≠ 0)) (decide (payload.head? = some cmdCommissioningSuccess))
  simp only [UInt8.ofNat_toNat, ← sentExtNwkFc_eq happ] at appId lev key rx direction
  refine ⟨appId, lev, ?_, ?_, direction⟩
  · rw [keyIndication_eq]
    exact key
  · simpa only [decide_eq_true_eq, decide_eq_false_iff_not] using rx

section
variable (f : Cells UInt8) (len seqNo fc : UInt8) (rest : List UInt8)

theorem store_header :
    let frame := store f 0 (len :: (macHeader seqNo ++ (fc :: rest)))
    frame 0 = len ∧ macFrameControl frame = macFcWord ∧ frame 3 = seqNo ∧ nwkStart frame = 8 ∧
      nwkControl frame = fc := by
  intro frame
  have mac : macFrameControl frame = macFcWord := rfl
  have start : nwkStart frame = 8 := by
    unfold nwkStart
    rw [mac]
    rfl
  refine ⟨rfl, mac, rfl, start, ?_⟩
  unfold nwkControl
  rw [start]
  rfl

theorem store_extControl (ext : UInt8) :
    extControl (store f 0 (len :: (macHeader seqNo ++ (fc :: ext :: rest)))) = ext := by
  unfold extControl
  rw [(store_header f len seqNo fc (ext :: rest)).2.2.2.1]
  rfl

end

theorem headerReads {frame : Cells UInt8} {gpd : EmberGpd} {fc : UInt8}
    (mac : macFrameControl frame = macFcWord) (seqNo : frame 3 = sequenceNumber gpd)
    (control : nwkControl frame = fc) (version : bitField fc 2 4 = 3)
    (auto : bitField fc 6 1 = 1 ↔ gpd.autoCommissioning = true) : HeaderReads frame gpd := by
  refine ⟨mac, ?_, ?_, ?_⟩
  · rw [seqNo]
    exact UInt32.toNat_toUInt8 _
  · unfold protocolVersion
    rw [control]
    exact version
  · rw [control]
    exact auto

theorem withLength_end (f : Cells UInt8) (body : List UInt8) (short : body.length ≤ 253) :
    frameEnd (store f 0 (withLength body)) = (withLength body).length := by
  have len : store f 0 (withLength body) 0 = UInt8.ofNat (body.length + 2) := rfl
  unfold frameEnd
  rw [len, UInt8.toNat_ofNat_of_lt' (by change body.length + 2 < 256; omega)]
  rfl

theorem dataBody_length_le (ccm : Ccm) (key : Key) (nonce payload : List UInt8) (gpd : EmberGpd)
    (hp : payload.length ≤ 59) : (dataBody ccm key nonce payload gpd).length ≤ 80 := by
  have header := sentHeader_length_le gpd payload
  rw [dataBody_length]
  split_ifs <;> omega

/-- The control fields of a data frame, whatever follows them. -/
theorem store_dataFields (f : Cells UInt8) (len ext : UInt8) (rest : List UInt8) {gpd : EmberGpd}
    {payload : List UInt8} (controls : ExtControlReads ext gpd payload) :
    let frame := store f 0 (len :: (macHeader (sequenceNumber gpd) ++
      (dataNwkFc gpd :: (dataFields gpd ext ++ rest))))
    HeaderReads frame gpd ∧ DataFrame frame ∧ (Extended frame ↔ ExtFcPresent gpd) ∧
      (ExtFcPresent gpd → extControl frame = ext) ∧
      (SecurityFields frame ↔ Secured gpd.securityLevel) ∧
      srcIdStart frame = 9 + (if ExtFcPresent gpd then 1 else 0) := by
  intro frame
  obtain ⟨frameType, version, auto, present⟩ := dataNwkFc_fields gpd
  obtain ⟨-, mac, seqNo, start, control⟩ := store_header f len (sequenceNumber gpd)
    (dataNwkFc gpd) (dataFields gpd ext ++ rest)
  have extended : Extended frame ↔ ExtFcPresent gpd := by
    unfold Extended
    rw [control]
    exact present
  have octet (ext' : ExtFcPresent gpd) : extControl frame = ext := by
    simp only [frame, dataFields, if_pos ext', List.cons_append]
    exact store_extControl f len _ _ _ ext
  refine ⟨headerReads mac seqNo control version auto, ?_, extended, octet, ⟨?_, ?_⟩, ?_⟩
  · unfold DataFrame
    rw [control]
    exact frameType
  · rintro ⟨ext', bits⟩
    rw [octet (extended.mp ext'), controls.level] at bits
    exact bits.imp UInt8.toNat_inj.mp UInt8.toNat_inj.mp
  · intro secured
    have ext' := extFcPresent_of_secured secured
    refine ⟨extended.mpr ext', ?_⟩
    rw [octet ext', controls.level]
    exact secured.imp (congrArg UInt8.toNat) (congrArg UInt8.toNat)
  · simp only [srcIdStart, extended]
    rw [start]

theorem load_segments (f : Cells UInt8) (front srcId counter cipher mic : List UInt8) :
    let frame := store f 0 (front ++ srcId ++ counter ++ cipher ++ mic)
    load frame front.length srcId.length = srcId ∧
      load frame (front.length + srcId.length) counter.length = counter ∧
      load frame (front.length + srcId.length + counter.length) cipher.length = cipher ∧
      load frame (front.length + srcId.length + counter.length + cipher.length) mic.length =
        mic := by
  refine ⟨?_, ?_, ?_, ?_⟩
  · rw [List.append_assoc, List.append_assoc]
    exact load_store_segment f front srcId _ rfl rfl
  · rw [List.append_assoc]
    exact load_store_segment f (front ++ srcId) counter _
      (by simp only [List.length_append]) rfl
  · exact load_store_segment f (front ++ srcId ++ counter) cipher mic
      (by simp only [List.length_append]) rfl
  · rw [← List.append_nil (_ ++ mic)]
    exact load_store_segment f (front ++ srcId ++ counter ++ cipher) mic []
      (by simp only [List.length_append]) rfl

theorem dataFrame_reads (f : Cells UInt8) (ccm : Ccm) (key : Key) (nonce payload : List UInt8)
    {gpd : EmberGpd} (happ : gpd.addr.appId = appIdSrcId) (hl : gpd.securityLevel ≤ 3) (hp : payload.length ≤ 59) :
    DataFrameReads (store f 0 (withLength (dataBody ccm key nonce payload gpd))) gpd payload
      (sentPayload ccm key nonce payload gpd) (sentMic ccm key nonce payload gpd) := by
  have short := dataBody_length_le ccm key nonce payload gpd hp
  have finish := withLength_end f (dataBody ccm key nonce payload gpd) (by omega)
  have micLength := sentMic_length ccm key nonce payload gpd
  have controls := sentExtNwkFc_reads happ hl payload
  have layout : withLength (dataBody ccm key nonce payload gpd) =
      UInt8.ofNat ((dataBody ccm key nonce payload gpd).length + 2) ::
        (macHeader (sequenceNumber gpd) ++ (dataNwkFc gpd ::
          (dataFields gpd (sentExtNwkFc gpd payload) ++ (sentPayload ccm key nonce payload gpd ++
            sentMic ccm key nonce payload gpd)))) := by
    simp only [withLength, dataBody, sentHeader, List.append_assoc, List.cons_append]
  rw [layout] at finish ⊢
  generalize sentPayload ccm key nonce payload gpd = cipher at finish ⊢
  generalize sentMic ccm key nonce payload gpd = mic at micLength finish ⊢
  generalize sentExtNwkFc gpd payload = ext at controls finish ⊢
  generalize UInt8.ofNat ((dataBody ccm key nonce payload gpd).length + 2) = len at finish ⊢
  obtain ⟨header, frameType, extended, octet, secured, srcIdAt⟩ :=
    store_dataFields f len ext (cipher ++ mic) controls
  have segments : len :: (macHeader (sequenceNumber gpd) ++ (dataNwkFc gpd ::
      (dataFields gpd ext ++ (cipher ++ mic)))) =
      len :: (macHeader (sequenceNumber gpd) ++ (dataNwkFc gpd ::
        (if ExtFcPresent gpd then [ext] else []))) ++ copy4Bytes gpd.addr.srcId ++
        (if Secured gpd.securityLevel then copy4Bytes gpd.securityFrameCounter else []) ++
        cipher ++ mic := by
    simp only [dataFields, List.append_assoc, List.cons_append]
  have loads := load_segments f (len :: (macHeader (sequenceNumber gpd) ++ (dataNwkFc gpd ::
    (if ExtFcPresent gpd then [ext] else [])))) (copy4Bytes gpd.addr.srcId)
    (if Secured gpd.securityLevel then copy4Bytes gpd.securityFrameCounter else []) cipher mic
  have front : (len :: (macHeader (sequenceNumber gpd) ++ (dataNwkFc gpd ::
      (if ExtFcPresent gpd then [ext] else [])))).length =
      9 + (if ExtFcPresent gpd then 1 else 0) := by
    split_ifs <;> rfl
  have counterLength : (if Secured gpd.securityLevel then copy4Bytes gpd.securityFrameCounter
      else []).length = if Secured gpd.securityLevel then 4 else 0 := by
    split_ifs <;> rfl
  rw [← segments] at loads
  obtain ⟨srcIdLoad, counterLoad, cipherLoad, micLoad⟩ := loads
  rw [front, copy4Bytes_length] at srcIdLoad counterLoad cipherLoad micLoad
  rw [counterLength] at counterLoad cipherLoad micLoad
  rw [segments, List.length_append, List.length_append, List.length_append, List.length_append,
    front, counterLength, copy4Bytes_length, ← segments] at finish
  rw [← srcIdAt] at srcIdLoad counterLoad cipherLoad micLoad finish
  generalize store f 0 (len :: (macHeader (sequenceNumber gpd) ++ (dataNwkFc gpd ::
    (dataFields gpd ext ++ (cipher ++ mic))))) = frame at *
  have micAt : micStart frame = frameEnd frame - mic.length := by
    simp only [micStart, secured, micLength]
  have payloadAt : payloadStart frame =
      srcIdStart frame + 4 + (if Secured gpd.securityLevel then 4 else 0) := by
    simp only [payloadStart, counterStart, secured]
  rw [← payloadAt] at cipherLoad micLoad finish
  exact {
    toHeaderReads := header
    frameType := frameType
    extended := extended
    ext := fun present => (octet (extended.mp present)).symm ▸ controls
    srcId := by
      rw [srcIdLoad]
      exact word32_copy4Bytes _
    secured := secured
    counter := fun fields => by
      rw [if_pos (secured.mp fields)] at counterLoad
      unfold counterStart
      rw [counterLoad, if_pos (secured.mp fields)]
      exact word32_copy4Bytes _
    payload := by
      have length : micStart frame - payloadStart frame = cipher.length := by omega
      rw [length]
      exact cipherLoad
    mic := by
      have start : micStart frame = payloadStart frame + cipher.length := by omega
      have length : frameEnd frame - micStart frame = mic.length := by omega
      rw [length, start]
      exact micLoad
    micLength := fun fields => by
      rw [if_pos (secured.mp fields)] at micLength
      omega }

theorem maintFrame_reads (f : Cells UInt8) (payload : List UInt8) (gpd : EmberGpd)
    (hp : payload.length ≤ 59) :
    MaintFrameReads (store f 0 (withLength (maintBody payload gpd))) gpd payload := by
  have length := maintBody_length payload gpd
  have finish := withLength_end f (maintBody payload gpd) (by omega)
  obtain ⟨frameType, version, auto, extended⟩ := maintNwkFc_fields (!gpd.autoCommissioning)
  have layout : withLength (maintBody payload gpd) =
      UInt8.ofNat ((maintBody payload gpd).length + 2) ::
        (macHeader (sequenceNumber gpd) ++ (maintNwkFc (!gpd.autoCommissioning) :: payload)) := by
    simp only [withLength, maintBody, List.append_assoc, List.singleton_append]
  have total : (withLength (maintBody payload gpd)).length = 9 + payload.length := by
    change (maintBody payload gpd).length + 1 = _
    omega
  rw [total] at finish
  rw [layout] at finish ⊢
  generalize UInt8.ofNat ((maintBody payload gpd).length + 2) = len at finish ⊢
  generalize maintNwkFc (!gpd.autoCommissioning) = fc at *
  obtain ⟨-, mac, seqNo, start, control⟩ := store_header f len (sequenceNumber gpd) fc payload
  have auto' : bitField fc 6 1 = 1 ↔ gpd.autoCommissioning = true := by
    rw [auto, Bool.not_eq_false']
  exact {
    toHeaderReads := headerReads mac seqNo control version auto'
    frameType := by
      unfold MaintenanceFrame
      rw [control]
      exact frameType
    extended := by
      unfold Extended
      rw [control, extended]
      exact Nat.zero_ne_one
    payload := by
      rw [finish, start, Nat.add_sub_cancel_left]
      have segment := load_store_segment f (len :: (macHeader (sequenceNumber gpd) ++ [fc])) payload
        [] (show 8 + 1 = _ from rfl) rfl
      rwa [List.append_nil, List.cons_append, List.append_assoc, List.singleton_append] at segment }

theorem inBounds_of_wrote {before : Mem UInt8} {out : ℕ × Pdu} {body : List UInt8}
    (short : body.length ≤ 253) (length : out.1 = 1 + body.length)
    (wrote : Wrote before out.2.mpdu (withLength body))
    (temp : out.2.tempDataOut.Within tempDataOutSize) : InBounds before out := by
  have first : (out.2.mpdu.cell 0).toNat = body.length + 2 := by
    rw [wrote.cell]
    exact UInt8.toNat_ofNat_of_lt' (by change body.length + 2 < 256; omega)
  refine ⟨wrote.within, temp, ?_, ?_⟩
  · rw [first, length]
    omega
  · rw [first, List.length_tail, load_length, length, macFooterSize]
    omega

section
variable (ccm : Ccm) (key : Key) (nonce : List UInt8) (m : Mem UInt8) (f : Cells UInt8)
  {payload : List UInt8} {gpd : EmberGpd}

theorem data_reads_back (app : gpd.addr.appId = appIdSrcId) (level : gpd.securityLevel ≤ 3)
    (fits : payload.length ≤ 59) :
    let out := emberBuildOutGoingPdu ccm key nonce nwkFcFrameTypeData ⟨m, .untouched f⟩ payload gpd
    InBounds m out ∧ DataFrameReads out.2.mpdu.cell gpd payload
      (sentPayload ccm key nonce payload gpd) (sentMic ccm key nonce payload gpd) := by
  obtain ⟨length, wrote, temp⟩ := dataPdu_wrote ccm key nonce ⟨m, .untouched f⟩ payload gpd fits
    (Mem.untouched_within f _)
  have short := dataBody_length_le ccm key nonce payload gpd fits
  refine ⟨inBounds_of_wrote (by omega) length wrote temp, ?_⟩
  rw [wrote.cell]
  exact dataFrame_reads m.cell ccm key nonce payload app level fits

theorem maint_reads_back (gpd : EmberGpd) (fits : payload.length ≤ 59) :
    let out := emberBuildOutGoingPdu ccm key nonce nwkFcFrameTypeMaint ⟨m, .untouched f⟩ payload gpd
    InBounds m out ∧ MaintFrameReads out.2.mpdu.cell gpd payload := by
  obtain ⟨length, wrote, temp⟩ := maintPdu_wrote ccm key nonce ⟨m, .untouched f⟩ payload gpd fits
  have short := maintBody_length payload gpd
  refine ⟨inBounds_of_wrote (by omega) length wrote ?_, ?_⟩
  · rw [temp]
    exact Mem.untouched_within f _
  · rw [wrote.cell]
    exact maintFrame_reads m.cell payload gpd fits

end

end GreenPower.FrameReadBack
