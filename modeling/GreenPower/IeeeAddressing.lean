import GreenPower.SendReceive
import GreenPower.FrameReadBack

set_option autoImplicit false

/-!
The transmit side of a build with IEEE addressing: what `gpd-nwk.c` and `gpd-security.c` compile to
when the application id is 2. `ieee[8]` and the source id share memory, so its first four octets
are those of the source id. A receiver that knows the key gets the payload back from the frame alone.
-/
namespace GreenPower.IeeeAddressing
open MemoryArray ByteWord BuildOptions DeviceState Security FrameBuild FrameLayout FrameReadBack
open SendReceive (updateFrameCounter)

def ieeeIdMaxPayloadSize : ℕ := 54
def macFcIeeeWord : ℕ := 0xC841
def macHeaderSizeIeeeTx : ℕ := 16
def authStartIeee : ℕ := 16
def authFixedLenIeee : ℕ := 7
def zigbeeSecurityControlIeeeRx : UInt8 := 0xC5

def ieee (addr : EmberGpdAddr) : List UInt8 := copy4Bytes addr.srcId ++ copy4Bytes addr.ieeeHigh

def ieeeMacHeader (seqNo : UInt8) (addr : EmberGpdAddr) : List UInt8 :=
  [loUint16 macFcIeeeWord, hiUint16 macFcIeeeWord, seqNo, loUint16 0xFFFF, hiUint16 0xFFFF,
    loUint16 0xFFFF, hiUint16 0xFFFF] ++ ieee addr

def ieeeNwkFc (gpd : EmberGpd) : UInt8 :=
  nwkFcFrameTypeData ||| (nwkFcZigbeeVer <<< nwkFcZigbeeVerOffset) |||
    (if gpd.autoCommissioning then nwkFcAutocomMask else 0) ||| nwkFcExtFcMask

def ieeeHeader (gpd : EmberGpd) : List UInt8 :=
  ieeeMacHeader (gpd.securityFrameCounter &&& 0x000000FF).toUInt8 gpd.addr ++ [ieeeNwkFc gpd] ++
    (if ieeeNwkFc gpd &&& nwkFcExtFcMask = nwkFcExtFcMask then [extNwkFc gpd] else []) ++
    [gpd.addr.gpdEndpoint] ++
    (if Secured gpd.securityLevel then copy4Bytes gpd.securityFrameCounter else [])

def gpdBuildHeader (buffer : Mem UInt8) (payloadLength : ℕ) (gpd : EmberGpd) : ℕ × Mem UInt8 :=
  let header := ieeeHeader gpd
  let index := 1 + header.length
  let micLength := if Secured gpd.securityLevel then tagSize else 0
  let buffer := buffer.store 1 header
  (uint8 index, buffer.store 0 [UInt8.ofNat (uint8 (index + 1 + payloadLength + micLength))])

def emberGpdBuildMpdu (mpdu : Mem UInt8) (payload : List UInt8) (gpd : EmberGpd) :
    ℕ × Mem UInt8 :=
  let (hdrLength, mpdu) := gpdBuildHeader mpdu payload.length gpd
  let posNwkHdr := macHeaderSizeIeeeTx
  let mpdu :=
    if payload.head? = some cmdCommissioningSuccess ∧
        mpdu.cell posNwkHdr &&& nwkFcExtFcMask = nwkFcExtFcMask then
      mpdu.store (posNwkHdr + 1) [mpdu.cell (posNwkHdr + 1) &&& ~~~extNwkFcRxAfterTxMask]
    else mpdu
  (uint8 (hdrLength + payload.length), mpdu.store hdrLength payload)

def emberGpdSecureOutgoingMPdu (ccm : Ccm) (key : Key) (nonce : List UInt8) (data : Pdu)
    (mpduLength payloadLength : ℕ) (securityLevel : UInt8) : ℕ × Pdu :=
  if securityLevel = securityLevelNone then (mpduLength, data)
  else if securityLevel = securityLevelLongAuthOnly then
    (uint8 (mpduLength + tagSize), emberTagTxBuff ccm key nonce data mpduLength authStartIeee
      (uint8 (authFixedLenIeee + payloadLength)))
  else if securityLevel = securityLevelLongFull then
    (uint8 (mpduLength + tagSize), emberEncryptAndTagTxBuff ccm key nonce data mpduLength
      payloadLength authStartIeee authFixedLenIeee)
  else (mpduLength, data)

def emberBuildOutGoingPdu (ccm : Ccm) (key : Key) (nonce : List UInt8) (frameType : UInt8)
    (data : Pdu) (payload : List UInt8) (gpd : EmberGpd) : ℕ × Pdu :=
  if frameType = nwkFcFrameTypeData then
    let (mpduLength, mpdu) := emberGpdBuildMpdu data.mpdu payload gpd
    emberGpdSecureOutgoingMPdu ccm key nonce { data with mpdu := mpdu } mpduLength payload.length
      gpd.securityLevel
  else if frameType = nwkFcFrameTypeMaint then
    let (mpduLength, mpdu) := emberBuildMaintMpdu data.mpdu gpd payload
    emberGpdSecureOutgoingMPdu ccm key nonce { data with mpdu := mpdu } mpduLength payload.length 0
  else (0, data)

def emberGpdSecurityInit (addr : EmberGpdAddr) (securityKey : Key) (frameCounter : UInt32)
    (s : Device) : Device :=
  let zeros := List.replicate nonceSize 0
  let s := { s with nonceRx := store s.nonceRx 0 zeros, nonceTx := store s.nonceTx 0 zeros }
  let s := { s with nonceTx := store s.nonceTx 0 (ieee addr) }
  let s := { s with nonceTx := store s.nonceTx 12 [zigbeeSecurityControl] }
  let s := { s with nonceRx := store s.nonceRx 0 (ieee addr) }
  let s := { s with nonceRx := store s.nonceRx 12 [zigbeeSecurityControlIeeeRx] }
  let s := emberGpdSetFcIntoTxNonce frameCounter s
  let s := emberGpdSetFcIntoRxNonce frameCounter s
  emberGpdMbedtlsCcmSetkeyWraper securityKey s

def emberGpdSecurityEncryptKey (b : Build) (addr : EmberGpdAddr) (oobKey : Key) (s : Device) :
    List UInt8 × List UInt8 × Device :=
  let data := (ieee addr).take 4 ++ oobKey.toList
  let frameCounter := word32 ((ieee addr).take 4)
  let s := emberGpdSetFcIntoTxNonce frameCounter s
  let s := emberGpdMbedtlsCcmSetkeyWraper keyDefaultTCLink s
  let n := nonce s.nonceTx
  (b.ccm.encipher s.ccmKey n (data.drop 4), b.ccm.tag s.ccmKey n (data.take 4) (data.drop 4), s)

def emberGpdSecurityDecryptKey (b : Build) (addr : EmberGpdAddr)
    (keyEncrypted keyMic : List UInt8) (secCounter : UInt32) (s : Device) :
    Status × Key × Device :=
  let inData := (ieee addr).take 4 ++ keyEncrypted ++ keyMic
  let s := emberGpdSetFcIntoRxNonce secCounter s
  let s := emberGpdMbedtlsCcmSetkeyWraper keyDefaultTCLink s
  let (ok, decryptedOut) := b.ccm.authDecrypt 0 s.ccmKey (nonce s.nonceRx) (inData.take 4)
    ((inData.drop 4).take 16) (inData.drop 20)
  (if ok then .success else .failed, keyOfBytes decryptedOut, s)

def writeTxFifo (b : Build) (frameType : UInt8) (payload : List UInt8) (s : Device) : Device :=
  let gpd := s.gpdNode
  let s :=
    if frameType = nwkFcFrameTypeData ∧ Secured gpd.securityLevel then
      s.record (.secure gpd.securityLevel s.ccmKey gpd.securityKey (nonce s.nonceTx))
    else s
  let (length, pdu) := emberBuildOutGoingPdu b.ccm s.ccmKey (nonce s.nonceTx) frameType
    ⟨s.txMpdu, .untouched (fun _ => 0)⟩ payload gpd
  { s with txMpdu := pdu.mpdu }.record (.txFifo frameType payload gpd (load pdu.mpdu.cell 0 length))

/-- Up to the write to the FIFO; the loop behind it is the one of every build. -/
def emberAfGpdfSend (b : Build) (frameType : UInt8) (payload : List UInt8) (s : Device) : Device :=
  writeTxFifo b frameType (payload.take ieeeIdMaxPayloadSize) (updateFrameCounter b s)

def ieeeNonce (addr : EmberGpdAddr) (frameCounter : UInt32) (control : UInt8) : List UInt8 :=
  ieee addr ++ copy4Bytes frameCounter ++ [control]

@[simp] theorem ieee_length (addr : EmberGpdAddr) : (ieee addr).length = 8 := rfl

@[simp] theorem ieeeNonce_length (addr : EmberGpdAddr) (frameCounter : UInt32) (control : UInt8) :
    (ieeeNonce addr frameCounter control).length = 13 := rfl

/-- The stores of address, control and counter, in the order of the code. -/
theorem nonce_stores (f : Cells UInt8) (addr : EmberGpdAddr) (frameCounter : UInt32)
    (control : UInt8) : nonce (store (store (store f 0 (ieee addr)) 12 [control]) 8
      (copy4Bytes frameCounter)) = ieeeNonce addr frameCounter control := by
  have address : load (store (store (store f 0 (ieee addr)) 12 [control]) 8
      (copy4Bytes frameCounter)) 0 8 = ieee addr := by
    rw [load_store_apart _ 0 8 8 _ (Or.inl le_rfl), load_store_apart _ 0 8 12 _ (Or.inl (by decide))]
    exact load_store_same f 0 (ieee addr)
  have counter : load (store (store (store f 0 (ieee addr)) 12 [control]) 8
      (copy4Bytes frameCounter)) 8 4 = copy4Bytes frameCounter :=
    load_store_same _ 8 (copy4Bytes frameCounter)
  have last : load (store (store (store f 0 (ieee addr)) 12 [control]) 8
      (copy4Bytes frameCounter)) 12 1 = [control] := by
    rw [load_store_apart _ 12 1 8 _ (Or.inr le_rfl)]
    exact load_store_same _ 12 [control]
  change load _ 0 (8 + 4 + 1) = _
  rw [load_add, load_add, address, counter, last]
  rfl

/-- A later counter takes the place of the first one. -/
theorem nonce_counter (f : Cells UInt8) (addr : EmberGpdAddr) {frameCounter : UInt32}
    {control : UInt8} (before : nonce f = ieeeNonce addr frameCounter control) (later : UInt32) :
    nonce (store f 8 (copy4Bytes later)) = ieeeNonce addr later control := by
  have parts : load f 0 8 ++ load f 8 4 ++ load f 12 1 = ieeeNonce addr frameCounter control := by
    rw [← load_add, ← load_add]
    exact before
  obtain ⟨front, last⟩ := List.append_inj parts rfl
  obtain ⟨address, -⟩ := List.append_inj front rfl
  change load _ 0 (8 + 4 + 1) = _
  rw [load_add, load_add, load_store_apart f 0 8 8 _ (Or.inl le_rfl),
    load_store_apart f 12 1 8 _ (Or.inr le_rfl), address, last]
  exact congrArg (ieee addr ++ · ++ [control]) (load_store_same f 8 (copy4Bytes later))

theorem emberGpdSecurityInit_nonces (addr : EmberGpdAddr) (securityKey : Key)
    (frameCounter : UInt32) (s : Device) :
    nonce (emberGpdSecurityInit addr securityKey frameCounter s).nonceTx =
        ieeeNonce addr frameCounter zigbeeSecurityControl ∧
      nonce (emberGpdSecurityInit addr securityKey frameCounter s).nonceRx =
        ieeeNonce addr frameCounter zigbeeSecurityControlIeeeRx :=
  ⟨nonce_stores _ addr frameCounter _, nonce_stores _ addr frameCounter _⟩

end GreenPower.IeeeAddressing
