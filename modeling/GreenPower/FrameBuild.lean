import GreenPower.Security

set_option autoImplicit false

/-!
The transmit half of `gpd-nwk.c` for source-id addressing. The C code stores a header byte
by byte at `buffer[index++]`; here the header is the list of those bytes, stored from index
1, and `index` is one more than its length.
-/
namespace GreenPower.FrameBuild
open MemoryArray ByteWord BuildOptions DeviceState Security

def loUint16 (a : ℕ) : UInt8 := UInt8.ofNat (a % 256)
def hiUint16 (a : ℕ) : UInt8 := UInt8.ofNat (a / 256 % 256)

/-- MAC frame control, sequence number, broadcast PAN id and broadcast destination. -/
def macHeader (seqNo : UInt8) : List UInt8 :=
  [loUint16 macFcWord, hiUint16 macFcWord, seqNo, loUint16 0xFFFF, hiUint16 0xFFFF,
    loUint16 0xFFFF, hiUint16 0xFFFF]

def dataNwkFc (gpd : EmberGpd) : UInt8 :=
  let nwkFc := nwkFcFrameTypeData ||| (nwkFcZigbeeVer <<< nwkFcZigbeeVerOffset) |||
    (if gpd.autoCommissioning then nwkFcAutocomMask else 0)
  if securityLevelNone < gpd.securityLevel ∨ gpd.rxAfterTx = 1 then nwkFc ||| nwkFcExtFcMask
  else nwkFc

def extNwkFc (gpd : EmberGpd) : UInt8 :=
  let fc := gpd.addr.appId ||| (gpd.securityLevel <<< extNwkFcSecurityLevelOffset)
  let fc :=
    if gpd.securityLevel = securityLevelNone then fc
    else fc ||| (if gpd.securityKeyType &&& securityKeyTypeIndicationMask ≠ 0
      then extNwkFcSecKeyTypeMask else 0)
  fc ||| (if gpd.rxAfterTx ≠ 0 then extNwkFcRxAfterTxMask else 0)

def Secured (securityLevel : UInt8) : Prop :=
  securityLevel = securityLevelLongAuthOnly ∨ securityLevel = securityLevelLongFull

instance (l : UInt8) : Decidable (Secured l) := by
  unfold Secured
  infer_instance

def dataHeader (gpd : EmberGpd) : List UInt8 :=
  macHeader (gpd.securityFrameCounter &&& 0x000000FF).toUInt8 ++ [dataNwkFc gpd] ++
    (if dataNwkFc gpd &&& nwkFcExtFcMask = nwkFcExtFcMask then [extNwkFc gpd] else []) ++
    copy4Bytes gpd.addr.srcId ++
    (if Secured gpd.securityLevel then copy4Bytes gpd.securityFrameCounter else [])

def gpdBuildHeader (buffer : Mem UInt8) (payloadLength : ℕ) (gpd : EmberGpd) : ℕ × Mem UInt8 :=
  let header := dataHeader gpd
  let index := 1 + header.length
  let micLength := if Secured gpd.securityLevel then tagSize else 0
  let buffer := buffer.store 1 header
  (uint8 index, buffer.store 0 [UInt8.ofNat (uint8 (index + 1 + payloadLength + micLength))])

/-- `emberGpdBuildMpdu`: the length of the frame so far, and the frame. -/
def emberGpdBuildMpdu (mpdu : Mem UInt8) (payload : List UInt8) (gpd : EmberGpd) :
    ℕ × Mem UInt8 :=
  let (hdrLength, mpdu) := gpdBuildHeader mpdu payload.length gpd
  let posNwkHdr := macHeaderSize
  let mpdu :=
    if payload.head? = some cmdCommissioningSuccess ∧
        mpdu.cell posNwkHdr &&& nwkFcExtFcMask = nwkFcExtFcMask then
      mpdu.store (posNwkHdr + 1) [mpdu.cell (posNwkHdr + 1) &&& ~~~extNwkFcRxAfterTxMask]
    else mpdu
  (uint8 (hdrLength + payload.length), mpdu.store hdrLength payload)

def emberGpdSecureOutgoingMPdu (ccm : Ccm) (key : Key) (nonce : List UInt8) (data : Pdu)
    (mpduLength payloadLength : ℕ) (securityLevel : UInt8) : ℕ × Pdu :=
  if securityLevel = securityLevelNone then (mpduLength, data)
  else if securityLevel = securityLevelLongAuthOnly then
    (uint8 (mpduLength + tagSize), emberTagTxBuff ccm key nonce data mpduLength authStartSrcId
      (uint8 (authFixedLenSrcId + payloadLength)))
  else if securityLevel = securityLevelLongFull then
    (uint8 (mpduLength + tagSize), emberEncryptAndTagTxBuff ccm key nonce data mpduLength
      payloadLength authStartSrcId authFixedLenSrcId)
  else (mpduLength, data)

def maintNwkFc (enterRx : Bool) : UInt8 :=
  nwkFcFrameTypeMaint ||| (nwkFcZigbeeVer <<< nwkFcZigbeeVerOffset) |||
    (if enterRx then 0 else nwkFcAutocomMask)

def buildMaintHeader (seqNo : UInt8) (buffer : Mem UInt8) (payloadLength : ℕ) (enterRx : Bool) :
    ℕ × Mem UInt8 :=
  let header := macHeader seqNo ++ [maintNwkFc enterRx]
  let index := 1 + header.length
  let buffer := buffer.store 1 header
  (uint8 index, buffer.store 0 [UInt8.ofNat (uint8 (index + 1 + payloadLength))])

def emberBuildMaintMpdu (mpdu : Mem UInt8) (gpd : EmberGpd) (payload : List UInt8) :
    ℕ × Mem UInt8 :=
  let (hdrLength, mpdu) := buildMaintHeader gpd.securityFrameCounter.toUInt8 mpdu payload.length
    (!gpd.autoCommissioning)
  (uint8 (hdrLength + payload.length), mpdu.store hdrLength payload)

/-- `emberBuildOutGoingPdu`, with the key and nonce of the CCM context. -/
def emberBuildOutGoingPdu (ccm : Ccm) (key : Key) (nonce : List UInt8) (frameType : UInt8)
    (data : Pdu) (payload : List UInt8) (gpd : EmberGpd) : ℕ × Pdu :=
  if frameType = nwkFcFrameTypeData then
    let (mpduLength, mpdu) := emberGpdBuildMpdu data.mpdu payload gpd
    emberGpdSecureOutgoingMPdu ccm key nonce { data with mpdu := mpdu } mpduLength payload.length
      gpd.securityLevel
  else if frameType = nwkFcFrameTypeMaint then
    let (mpduLength, mpdu) := emberBuildMaintMpdu data.mpdu gpd payload
    emberGpdSecureOutgoingMPdu ccm key nonce { data with mpdu := mpdu } mpduLength payload.length 0
  else (0, data)

theorem not_secured_none : ¬ Secured securityLevelNone := by decide

theorem extFc_present_iff (gpd : EmberGpd) :
    dataNwkFc gpd &&& nwkFcExtFcMask = nwkFcExtFcMask ↔
      securityLevelNone < gpd.securityLevel ∨ gpd.rxAfterTx = 1 := by
  unfold dataNwkFc
  split_ifs with auto ext ext <;> simp only [ext, iff_true, iff_false] <;> decide

theorem dataHeader_length (gpd : EmberGpd) :
    (dataHeader gpd).length = 12 +
      (if securityLevelNone < gpd.securityLevel ∨ gpd.rxAfterTx = 1 then 1 else 0) +
      (if Secured gpd.securityLevel then 4 else 0) := by
  unfold dataHeader
  simp only [extFc_present_iff]
  split_ifs <;> rfl

theorem dataHeader_length_le (gpd : EmberGpd) : (dataHeader gpd).length ≤ 17 := by
  rw [dataHeader_length]
  split_ifs <;> omega

end GreenPower.FrameBuild
