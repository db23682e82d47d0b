import GreenPower.IeeeFrames

set_option autoImplicit false

/-!
Runs of a device with IEEE addressing and incremental sequence numbers: whatever it has done before,
a receiver that has the key it loaded last gets each payload back from the frame alone. The last key
is that of the node, but for the TC link key from the encryption or the decryption of a key on.
-/
namespace GreenPower.IeeeAddressing
open MemoryArray ByteWord BuildOptions DeviceState Security FrameBuild FrameLayout FrameReadBack
open SendReceive (updateFrameCounter updateFrameCounter_incremental)

def received (frame : List UInt8) : Cells UInt8 := store (fun _ => 0) 0 frame

/-- What a receiver that has `key` finds in a data frame of the device at `addr`. -/
structure DataFrame (ccm : Ccm) (key : Key) (addr : EmberGpdAddr) (payload frame : List UInt8) :
    Prop where
  control : FrameFields.macFrameControl (received frame) = macFcIeeeWord
  address : load (received frame) 8 8 = ieee addr
  endpoint : received frame 18 = addr.gpdEndpoint
  payload : opened ccm key (received frame) = some payload

def Standard (level : UInt8) : Prop := level = securityLevelNone ∨ Secured level

/-- A step that neither sends nor loads a key. -/
structure Elsewhere (s s' : Device) : Prop where
  addr : s'.gpdNode.addr = s.gpdNode.addr
  ccmKey : s'.ccmKey = s.ccmKey
  nonceTx : s'.nonceTx = s.nonceTx
  txMpdu : s'.txMpdu = s.txMpdu

/-- The decryption of a delivered key writes to the node whether it succeeds or not. -/
def decryptKey (b : Build) (keyEncrypted keyMic : List UInt8) (secCounter : UInt32) (s : Device) :
    Device :=
  let (_, decryptedKey, s) :=
    emberGpdSecurityDecryptKey b s.gpdNode.addr keyEncrypted keyMic secCounter s
  { s with gpdNode.securityKey := decryptedKey }

inductive Reached (b : Build) (addr : EmberGpdAddr) : Key → Device → Prop
  | init {s : Device} (frameCounter : UInt32) (own : s.gpdNode.addr = addr)
      (buffer : s.txMpdu.Within txMpduSize) : Reached b addr s.gpdNode.securityKey
        (emberGpdSecurityInit addr s.gpdNode.securityKey frameCounter s)
  | send {key : Key} {s : Device} (frameType : UInt8) (payload : List UInt8)
      (before : Reached b addr key s) : Reached b addr key (emberAfGpdfSend b frameType payload s)
  | encryptKey {key : Key} {s : Device} (oobKey : Key) (before : Reached b addr key s) :
      Reached b addr keyDefaultTCLink
        (emberGpdSecurityEncryptKey b s.gpdNode.addr oobKey s).2.2
  | decryptKey {key : Key} {s : Device} (keyEncrypted keyMic : List UInt8) (secCounter : UInt32)
      (before : Reached b addr key s) : Reached b addr keyDefaultTCLink
        (decryptKey b keyEncrypted keyMic secCounter s)
  | setKey {key : Key} {s : Device} (before : Reached b addr key s) :
      Reached b addr s.gpdNode.securityKey
        (emberGpdMbedtlsCcmSetkeyWraper s.gpdNode.securityKey s)
  | elsewhere {key : Key} {s s' : Device} (before : Reached b addr key s)
      (step : Elsewhere s s') : Reached b addr key s'

structure Inv (key : Key) (addr : EmberGpdAddr) (s : Device) : Prop where
  own : s.gpdNode.addr = addr
  key : s.ccmKey = key
  nonceTx : ∃ frameCounter, nonce s.nonceTx = ieeeNonce addr frameCounter zigbeeSecurityControl
  buffer : s.txMpdu.Within txMpduSize

section
variable {b : Build} {key : Key} {addr : EmberGpdAddr} {s : Device}

/-- A data frame built for a nonce of the own address and counter. -/
theorem dataFrame_built (ccm : Ccm) (key : Key) {gpd : EmberGpd}
    (app : gpd.addr.appId = appIdIeeeId) (level : Standard gpd.securityLevel) {payload : List UInt8}
    (fits : payload.length ≤ 54) : DataFrame ccm key gpd.addr payload (withLength (ieeeBody ccm key
      (ieeeNonce gpd.addr gpd.securityFrameCounter zigbeeSecurityControl) payload gpd)) := by
  have octets := ieeeBody_octets ccm key
    (ieeeNonce gpd.addr gpd.securityFrameCounter zigbeeSecurityControl) payload (fun _ => 0) gpd
  refine ⟨octets.control, octets.address, octets.endpoint, ?_⟩
  rcases level with none | secured
  · exact opened_plain ccm key _ _ app none fits
  · exact opened_secured ccm key _ app secured fits

/-- Every frame type stays in the buffer, and what goes to the FIFO of a data frame is the frame. -/
theorem pdu_built (ccm : Ccm) (key : Key) (nonce : List UInt8) (frameType : UInt8) (data : Pdu)
    {payload : List UInt8} (gpd : EmberGpd) (fits : payload.length ≤ 54)
    (temp : data.tempDataOut.Within tempDataOutSize) (buffer : data.mpdu.Within txMpduSize) :
    let out := emberBuildOutGoingPdu ccm key nonce frameType data payload gpd
    out.2.mpdu.Within txMpduSize ∧ (frameType = nwkFcFrameTypeData →
      load out.2.mpdu.cell 0 out.1 = withLength (ieeeBody ccm key nonce payload gpd)) := by
  by_cases isData : frameType = nwkFcFrameTypeData
  · subst isData
    obtain ⟨length, wrote, -⟩ := ieeePdu_wrote ccm key nonce data payload gpd fits temp
    refine ⟨wrote.within buffer, fun _ => ?_⟩
    have whole : 1 + (ieeeBody ccm key nonce payload gpd).length =
        (withLength (ieeeBody ccm key nonce payload gpd)).length := Nat.add_comm _ _
    rw [length, wrote.cell, whole]
    exact load_store_same data.mpdu.cell 0 _
  · refine ⟨?_, fun same => absurd same isData⟩
    by_cases maint : frameType = nwkFcFrameTypeMaint
    · subst maint
      exact (maintPdu_wrote ccm key nonce data payload gpd (by omega)).2.1.within buffer
    · unfold emberBuildOutGoingPdu
      rw [if_neg isData, if_neg maint]
      exact buffer

theorem inv_setCounter (inv : Inv key addr s) (frameCounter : UInt32) :
    Inv key addr (emberGpdSetFcIntoTxNonce frameCounter s) where
  own := inv.own
  key := inv.key
  nonceTx := by
    obtain ⟨earlier, before⟩ := inv.nonceTx
    exact ⟨frameCounter, nonce_counter s.nonceTx addr before frameCounter⟩
  buffer := inv.buffer

/-- The nonce has the counter that the next frame announces. -/
theorem inv_updateFrameCounter (incremental : b.macSeq = .incremental) (inv : Inv key addr s) :
    Inv key addr (updateFrameCounter b s) ∧ nonce (updateFrameCounter b s).nonceTx = ieeeNonce addr
      (updateFrameCounter b s).gpdNode.securityFrameCounter zigbeeSecurityControl := by
  obtain ⟨earlier, before⟩ := inv.nonceTx
  have counted := nonce_counter s.nonceTx addr before (s.gpdNode.securityFrameCounter + 1)
  rw [updateFrameCounter_incremental incremental]
  exact ⟨⟨inv.own, inv.key, ⟨_, counted⟩, inv.buffer⟩, counted⟩

theorem writeTxFifo_gpdNode (b : Build) (frameType : UInt8) (payload : List UInt8) (s : Device) :
    (writeTxFifo b frameType payload s).gpdNode = s.gpdNode := by
  unfold writeTxFifo
  by_cases secured : frameType = nwkFcFrameTypeData ∧ Secured s.gpdNode.securityLevel
  · simp only [if_pos secured]
    rfl
  · simp only [if_neg secured]
    rfl

/-- What goes to the FIFO. -/
theorem writeTxFifo_spec (app : addr.appId = appIdIeeeId) (inv : Inv key addr s)
    (counted : nonce s.nonceTx =
      ieeeNonce addr s.gpdNode.securityFrameCounter zigbeeSecurityControl)
    (frameType : UInt8) {payload : List UInt8} (fits : payload.length ≤ 54) :
    Inv key addr (writeTxFifo b frameType payload s) ∧
      ∃ frame, (writeTxFifo b frameType payload s).log.head? =
          some (.txFifo frameType payload s.gpdNode frame) ∧
        (frameType = nwkFcFrameTypeData → Standard s.gpdNode.securityLevel →
          DataFrame b.ccm key addr payload frame) := by
  obtain ⟨buffer, frame⟩ := pdu_built b.ccm s.ccmKey (nonce s.nonceTx) frameType
    ⟨s.txMpdu, .untouched (fun _ => 0)⟩ s.gpdNode fits (Mem.untouched_within _ _) inv.buffer
  have opens (isData : frameType = nwkFcFrameTypeData) (level : Standard s.gpdNode.securityLevel) :
      DataFrame b.ccm key addr payload
        (load (emberBuildOutGoingPdu b.ccm s.ccmKey (nonce s.nonceTx) frameType
          ⟨s.txMpdu, .untouched (fun _ => 0)⟩ payload s.gpdNode).2.mpdu.cell 0
          (emberBuildOutGoingPdu b.ccm s.ccmKey (nonce s.nonceTx) frameType
            ⟨s.txMpdu, .untouched (fun _ => 0)⟩ payload s.gpdNode).1) := by
    rw [frame isData, counted, inv.key, ← inv.own]
    exact dataFrame_built b.ccm key (inv.own ▸ app) level fits
  unfold writeTxFifo
  by_cases secured : frameType = nwkFcFrameTypeData ∧ Secured s.gpdNode.securityLevel
  · simp only [if_pos secured]
    exact ⟨⟨inv.own, inv.key, inv.nonceTx, buffer⟩, _, rfl, opens⟩
  · simp only [if_neg secured]
    exact ⟨⟨inv.own, inv.key, inv.nonceTx, buffer⟩, _, rfl, opens⟩

theorem inv_encryptKey (inv : Inv key addr s) (oobKey : Key) : Inv keyDefaultTCLink addr
    (emberGpdSecurityEncryptKey b s.gpdNode.addr oobKey s).2.2 := by
  have counted := inv_setCounter inv (word32 ((ieee s.gpdNode.addr).take 4))
  exact ⟨counted.own, rfl, counted.nonceTx, counted.buffer⟩

theorem inv_reached (incremental : b.macSeq = .incremental) (app : addr.appId = appIdIeeeId)
    (reached : Reached b addr key s) : Inv key addr s := by
  induction reached with
  | @init s frameCounter own buffer =>
    exact ⟨own, rfl, ⟨frameCounter, (emberGpdSecurityInit_nonces addr _ frameCounter s).1⟩, buffer⟩
  | send frameType payload _ ih =>
    obtain ⟨updated, counted⟩ := inv_updateFrameCounter incremental ih
    exact (writeTxFifo_spec app updated counted frameType (List.length_take_le _ _)).1
  | encryptKey oobKey _ ih => exact inv_encryptKey ih oobKey
  | decryptKey keyEncrypted keyMic secCounter _ ih => exact ⟨ih.own, rfl, ih.nonceTx, ih.buffer⟩
  | setKey _ ih => exact ⟨ih.own, rfl, ih.nonceTx, ih.buffer⟩
  | elsewhere _ step ih =>
    refine ⟨step.addr.trans ih.own, step.ccmKey.trans ih.key, ?_, ?_⟩
    · rw [step.nonceTx]
      exact ih.nonceTx
    · rw [step.txMpdu]
      exact ih.buffer

end

/-- Whatever a device does after `emberGpdSecurityInit`, the next frame lies inside its buffer, and a
data frame carries its address and endpoint and opens, with the key loaded last, to the payload that
was given. -/
theorem ieee_frames_open {b : Build} {key : Key} {addr : EmberGpdAddr} {s : Device}
    (incremental : b.macSeq = .incremental) (app : addr.appId = appIdIeeeId)
    (reached : Reached b addr key s) (frameType : UInt8) (payload : List UInt8) :
    let after := emberAfGpdfSend b frameType payload s
    after.txMpdu.Within txMpduSize ∧ ∃ frame, after.log.head? =
        some (.txFifo frameType (payload.take ieeeIdMaxPayloadSize) after.gpdNode frame) ∧
      (frameType = nwkFcFrameTypeData → Standard after.gpdNode.securityLevel →
        DataFrame b.ccm key addr (payload.take ieeeIdMaxPayloadSize) frame) := by
  obtain ⟨updated, counted⟩ := inv_updateFrameCounter incremental (inv_reached incremental app reached)
  obtain ⟨inv, frame, sent, opens⟩ :=
    writeTxFifo_spec (b := b) app updated counted frameType (List.length_take_le ieeeIdMaxPayloadSize payload)
  have same := writeTxFifo_gpdNode b frameType (payload.take ieeeIdMaxPayloadSize)
    (updateFrameCounter b s)
  unfold emberAfGpdfSend
  simp only [same]
  exact ⟨inv.buffer, frame, sent, opens⟩

def ieeeAddr : EmberGpdAddr := ⟨0x04030201, 0x08070605, 99, appIdIeeeId⟩

def ieeeDevice : Device :=
  { ramCleared [] with gpdNode := { zeroGpd with addr := ieeeAddr, securityLevel := 3 } }

def keyProtected (ccm : Ccm) : Device :=
  (emberGpdSecurityEncryptKey (shipped ccm) ieeeAddr zeroKey
    (emberAfGpdfSend (shipped ccm) nwkFcFrameTypeData [cmdToggle]
      (emberGpdSecurityInit ieeeAddr zeroKey 0 ieeeDevice))).2.2

theorem keyProtected_opens : (shipped (AesCipher.aesCcm tagSize)).macSeq = .incremental ∧
    ieeeAddr.appId = appIdIeeeId ∧ ∃ frame,
      (emberAfGpdfSend (shipped (AesCipher.aesCcm tagSize)) nwkFcFrameTypeData [cmdToggle]
        (keyProtected (AesCipher.aesCcm tagSize))).log.head? = some (.txFifo nwkFcFrameTypeData
          [cmdToggle] { ieeeDevice.gpdNode with securityFrameCounter := 2 } frame) ∧
      DataFrame (AesCipher.aesCcm tagSize) keyDefaultTCLink ieeeAddr [cmdToggle] frame := by
  have started : Reached (shipped (AesCipher.aesCcm tagSize)) ieeeAddr zeroKey _ :=
    .init (s := ieeeDevice) 0 rfl (Mem.untouched_within _ _)
  have keyed := (started.send nwkFcFrameTypeData [cmdToggle]).encryptKey zeroKey
  obtain ⟨-, frame, sent, opens⟩ := ieee_frames_open rfl rfl keyed nwkFcFrameTypeData [cmdToggle]
  exact ⟨rfl, rfl, frame, sent, opens rfl (Or.inr (Or.inr rfl))⟩

end GreenPower.IeeeAddressing
