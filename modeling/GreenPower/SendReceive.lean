import GreenPower.NonVolatile
import GreenPower.IncomingMessage

set_option autoImplicit false

/-!
`emberAfGpdfSend` and `emberAfGpdScheduledReceive`. Delays and the window's length are left
out: what matters of a window is the packets received in it, which are handled one after the
other before the next transmission.
-/
namespace GreenPower.SendReceive
open MemoryArray BuildOptions DeviceState Security NonVolatile FrameBuild IncomingMessage

def emberAfGpdScheduledReceive (b : Build) (channel : UInt8) (s : Device) : Device :=
  let s := s.record (.startRx channel (nonce s.nonceRx))
  match s.air with
  | [] => s
  | window :: air => window.foldl (fun s packet => railCbGeneric b packet s) { s with air := air }

/-- The stub returns whatever its variable holds; the coming values are part of the device. -/
def emberGpdAfPluginGetRandomCallback (s : Device) : UInt32 × Device :=
  (s.randoms.headD 0, { s with randoms := s.randoms.tail })

/-- The security frame counter of the next frame, by the MAC sequence mode of the build. -/
def updateFrameCounter (b : Build) (s : Device) : Device :=
  match b.macSeq with
  | .incremental =>
    let s := { s with gpdNode.securityFrameCounter := s.gpdNode.securityFrameCounter + 1 }
    let s := emberGpdSaveGpdFrameCounterToNV s.gpdNode.securityFrameCounter s
    let s := emberGpdSetFcIntoTxNonce s.gpdNode.securityFrameCounter s
    emberGpdSetFcIntoRxNonce s.gpdNode.securityFrameCounter s
  | .random =>
    let (random, s) := emberGpdAfPluginGetRandomCallback s
    { s with gpdNode.securityFrameCounter := random.toUInt8.toUInt32 }

def writeTxFifo (b : Build) (frameType : UInt8) (payload : List UInt8) (s : Device) : Device :=
  let gpd := s.gpdNode
  let s :=
    if frameType = nwkFcFrameTypeData ∧ Secured gpd.securityLevel then
      s.record (.secure gpd.securityLevel s.ccmKey gpd.securityKey (nonce s.nonceTx))
    else s
  let (length, pdu) := emberBuildOutGoingPdu b.ccm s.ccmKey (nonce s.nonceTx) frameType
    ⟨s.txMpdu, .untouched (fun _ => 0)⟩ payload gpd
  { s with txMpdu := pdu.mpdu }.record (.txFifo frameType payload gpd (load pdu.mpdu.cell 0 length))

/-- One round of the do-while loop. -/
def startTx (b : Build) (s : Device) : Device :=
  let gpd := s.gpdNode
  let s := s.record (.startTx gpd.skipCca gpd.channel gpd.securityFrameCounter)
  if gpd.rxAfterTx ≠ 0 then emberAfGpdScheduledReceive b gpd.channel s else s

def emberAfGpdfSend (b : Build) (frameType : UInt8) (payload : List UInt8) (repeatNumber : ℕ)
    (s : Device) : Device :=
  let payload := payload.take srcIdMaxPayloadSize
  let s := updateFrameCounter b s
  let s := writeTxFifo b frameType payload s
  (startTx b)^[max 1 repeatNumber] s

section
variable {b : Build}

theorem updateFrameCounter_incremental (incremental : b.macSeq = .incremental) (s : Device) :
    updateFrameCounter b s = { s with
      gpdNode.securityFrameCounter := s.gpdNode.securityFrameCounter + 1
      nonceTx := store s.nonceTx 8 (copy4Bytes (s.gpdNode.securityFrameCounter + 1))
      nonceRx := store s.nonceRx 8 (copy4Bytes (s.gpdNode.securityFrameCounter + 1))
      gpdNvData := store s.gpdNvData nvDataFrameCounterIndex
        (copy4Bytes (s.gpdNode.securityFrameCounter + 1))
      log := .flashSave .frameCounter (image (store s.gpdNvData nvDataFrameCounterIndex
        (copy4Bytes (s.gpdNode.securityFrameCounter + 1)))) :: s.log } := by
  unfold updateFrameCounter
  rw [incremental]
  rfl

theorem updateFrameCounter_random (random : b.macSeq = .random) (s : Device) :
    updateFrameCounter b s = { s with
      gpdNode.securityFrameCounter := (s.randoms.headD 0).toUInt8.toUInt32
      randoms := s.randoms.tail } := by
  unfold updateFrameCounter
  rw [random]
  rfl

end

end GreenPower.SendReceive
