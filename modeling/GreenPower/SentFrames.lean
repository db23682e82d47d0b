import GreenPower.PowerCycle

set_option autoImplicit false

/-!
The frame that `emberAfGpdfSend` leaves in `txMpdu` and in the radio's FIFO, read back field by
field.
-/
namespace GreenPower.SentFrames
open MemoryArray BuildOptions DeviceState Security FrameBuild FrameLayout FrameReadBack SendReceive
  EventLog DeviceSteps AttemptTrace PowerCycle
open Relation (ReflTransGen)

/-- The call of `emberBuildOutGoingPdu` for a device with the counter of the frame. -/
def outGoing (b : Build) (frameType : UInt8) (payload : List UInt8) (u : Device) : ℕ × Pdu :=
  emberBuildOutGoingPdu b.ccm u.ccmKey (nonce u.nonceTx) frameType
    ⟨u.txMpdu, .untouched (fun _ => 0)⟩ payload u.gpdNode

structure HasFrame (b : Build) (frameType : UInt8) (payload : List UInt8) (u s' : Device) :
    Prop where
  bounds : InBounds u.txMpdu (outGoing b frameType payload u)
  txMpdu : s'.txMpdu = (outGoing b frameType payload u).2.mpdu
  fifo : inFifo s'.log = some (load s'.txMpdu.cell 0 (outGoing b frameType payload u).1)

theorem RadioStep.keepsFrame {s s' : Device} (step : RadioStep s s') :
    s'.txMpdu = s.txMpdu ∧ inFifo s'.log = inFifo s.log := by
  cases step with
  | startTx | startRx | nextWindow => exact ⟨rfl, rfl⟩
  | arrival quiet arrivals =>
    refine ⟨?_, ?_⟩
    · obtain ⟨cell, touched, nonceRx, -, -, rfl⟩ := quiet
      rfl
    · rw [quiet.log]
      exact findSome_append_none frameWritten _ _ (fun e he => by cases arrivals e he <;> rfl)
  | reaction r range =>
    refine ⟨rfl, findSome_append_none frameWritten _ _ (fun e he => ?_)⟩
    rcases ReceptionRecord.reaction_events r e he with ⟨_, rfl⟩ | ⟨_, rfl⟩ | rfl <;> rfl

theorem send_keepsFrame (b : Build) (frameType : UInt8) (payload : List UInt8) (n : ℕ)
    (s : Device) :
    let u := writeTxFifo b frameType (payload.take srcIdMaxPayloadSize) (updateFrameCounter b s)
    (emberAfGpdfSend b frameType payload n s).txMpdu = u.txMpdu ∧
      inFifo (emberAfGpdfSend b frameType payload n s).log = inFifo u.log := by
  intro u
  refine star_preserves (I := fun s' => s'.txMpdu = u.txMpdu ∧ inFifo s'.log = inFifo u.log)
    (fun _ _ step kept => ?_) (emberAfGpdfSend_radio b frameType payload n s) ⟨rfl, rfl⟩
  obtain ⟨txMpdu, fifo⟩ := RadioStep.keepsFrame step
  exact ⟨txMpdu.trans kept.1, fifo.trans kept.2⟩

theorem send_hasFrame (b : Build) (frameType : UInt8) (payload : List UInt8) (n : ℕ) (s : Device)
    (bounds : InBounds (updateFrameCounter b s).txMpdu
      (outGoing b frameType (payload.take srcIdMaxPayloadSize) (updateFrameCounter b s))) :
    HasFrame b frameType (payload.take srcIdMaxPayloadSize) (updateFrameCounter b s)
      (emberAfGpdfSend b frameType payload n s) := by
  obtain ⟨txMpdu, fifo⟩ := send_keepsFrame b frameType payload n s
  have out := writeTxFifo_out b frameType (payload.take srcIdMaxPayloadSize) (updateFrameCounter b s)
  rw [out] at txMpdu fifo
  refine ⟨bounds, txMpdu, ?_⟩
  rw [fifo, txMpdu]
  rfl

theorem updateFrameCounter_gpdNode (b : Build) (s : Device) : (updateFrameCounter b s).gpdNode =
    { s.gpdNode with
      securityFrameCounter := (updateFrameCounter b s).gpdNode.securityFrameCounter } := by
  unfold updateFrameCounter
  cases b.macSeq <;> rfl

/-- Of any payload `emberAfGpdfSend` sends the first 59 octets. -/
theorem sent_frames_read_back (b : Build) (s : Device) (payload : List UInt8) (repeatNumber : ℕ)
    (app : s.gpdNode.addr.appId = appIdSrcId) (level : s.gpdNode.securityLevel ≤ 3) :
    let sent := payload.take srcIdMaxPayloadSize
    let u := updateFrameCounter b s
    let data := emberAfGpdfSend b nwkFcFrameTypeData payload repeatNumber s
    let maint := emberAfGpdfSend b nwkFcFrameTypeMaint payload repeatNumber s
    u.gpdNode = { s.gpdNode with securityFrameCounter := u.gpdNode.securityFrameCounter } ∧
      HasFrame b nwkFcFrameTypeData sent u data ∧
      DataFrameReads data.txMpdu.cell u.gpdNode sent
        (sentPayload b.ccm u.ccmKey (nonce u.nonceTx) sent u.gpdNode)
        (sentMic b.ccm u.ccmKey (nonce u.nonceTx) sent u.gpdNode) ∧
      HasFrame b nwkFcFrameTypeMaint sent u maint ∧
      MaintFrameReads maint.txMpdu.cell u.gpdNode sent := by
  intro sent u data maint
  have node := updateFrameCounter_gpdNode b s
  have fits : sent.length ≤ 59 := List.length_take_le _ _
  have app' : u.gpdNode.addr.appId = appIdSrcId := by
    change (updateFrameCounter b s).gpdNode.addr.appId = _
    rw [node]
    exact app
  have level' : u.gpdNode.securityLevel ≤ 3 := by
    change (updateFrameCounter b s).gpdNode.securityLevel ≤ 3
    rw [node]
    exact level
  obtain ⟨dataBounds, dataReads⟩ := data_reads_back b.ccm u.ccmKey (nonce u.nonceTx) u.txMpdu
    (fun _ => 0) app' level' fits
  obtain ⟨maintBounds, maintReads⟩ := maint_reads_back b.ccm u.ccmKey (nonce u.nonceTx) u.txMpdu
    (fun _ => 0) u.gpdNode fits
  have dataFrame := send_hasFrame b nwkFcFrameTypeData payload repeatNumber s dataBounds
  have maintFrame := send_hasFrame b nwkFcFrameTypeMaint payload repeatNumber s maintBounds
  refine ⟨node, dataFrame, ?_, maintFrame, ?_⟩
  · rw [dataFrame.txMpdu]
    exact dataReads
  · rw [maintFrame.txMpdu]
    exact maintReads

def commissionedDevice : Device :=
  { ramCleared [] with gpdNode := { zeroGpd with
      addr := ⟨305419896, 0, 0, 0⟩, rxAfterTx := 1, securityLevel := 3, securityKeyType := 4,
      securityFrameCounter := 258 } }

/-- A payload of 100 octets that begins with Commissioning Success. -/
theorem long_success_reads_back :
    let b := shipped (AesCipher.aesCcm tagSize)
    let u := updateFrameCounter b commissionedDevice
    let sent := cmdCommissioningSuccess :: List.replicate 58 7
    let s' := emberAfGpdfSend b nwkFcFrameTypeData
      (cmdCommissioningSuccess :: List.replicate 99 7) 1 commissionedDevice
    HasFrame b nwkFcFrameTypeData sent u s' ∧
      DataFrameReads s'.txMpdu.cell u.gpdNode sent
        (sentPayload b.ccm u.ccmKey (nonce u.nonceTx) sent u.gpdNode)
        (sentMic b.ccm u.ccmKey (nonce u.nonceTx) sent u.gpdNode) :=
  have reads := sent_frames_read_back (shipped (AesCipher.aesCcm tagSize)) commissionedDevice
    (cmdCommissioningSuccess :: List.replicate 99 7) 1 rfl (by decide)
  ⟨reads.2.1, reads.2.2.1⟩

end GreenPower.SentFrames
