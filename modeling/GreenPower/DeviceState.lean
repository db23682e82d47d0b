import GreenPower.MemoryArray
import GreenPower.ByteWord
import GreenPower.BuildOptions

set_option autoImplicit false

/-!
The device: `gpdNode`, the static variables of the component files, the radio's coming
receptions, and the chip's history. The history is what survives a power cut: the flash
content is read off it. Its newest entry stands first.
-/
namespace GreenPower.DeviceState
open MemoryArray BuildOptions

/-- The union of `srcId` and `ieee[8]` is kept as its low and high words. -/
structure EmberGpdAddr where
  srcId : UInt32
  ieeeHigh : UInt32
  gpdEndpoint : UInt8
  appId : UInt8
  deriving DecidableEq

structure EmberGpd where
  addr : EmberGpdAddr
  autoCommissioning : Bool
  rxAfterTx : UInt8
  rxOffset : UInt8
  minRxWindow : UInt8
  currentCommReq : UInt8
  securityLevel : UInt8
  securityKeyType : UInt8
  securityKey : Key
  securityFrameCounter : UInt32
  skipCca : Bool
  channel : UInt8
  gpdState : ApplicationState
  deriving DecidableEq

structure SecData where
  securityKey : Key
  securityLevel : UInt8
  securityKeyType : UInt8
  channel : UInt8
  gpdState : ApplicationState
  deriving DecidableEq

def EmberGpd.secData (gpd : EmberGpd) : SecData :=
  ⟨gpd.securityKey, gpd.securityLevel, gpd.securityKeyType, gpd.channel, gpd.gpdState⟩

inductive Status where
  | success
  | failed
  deriving DecidableEq

abbrev NvImage := Vector UInt8 32

inductive SaveOrigin where
  | frameCounter
  | secData (gpd : EmberGpd)
  | freshChip
  | earlierLife
  deriving DecidableEq

inductive Event where
  | flashErase
  | flashSave (origin : SaveOrigin) (image : NvImage)
  | booted (securityKey : Key)
  | secure (level : UInt8) (ccmKey securityKey : Key) (nonce : List UInt8)
  | txFifo (frameType : UInt8) (payload : List UInt8) (gpd : EmberGpd) (frame : List UInt8)
  | startTx (skipCca : Bool) (channel : UInt8) (frameCounter : UInt32)
  | startRx (channel : UInt8) (nonce : List UInt8)
  | decrypt (authStart encrLength authLength : ℕ) (status : Status)
  | incomingCommand (start length : ℕ) (command : List UInt8)
  | replyAccepted (newKey : Option Key)
  | replyRejected
  | decommissioned
  | setState (gpdState : ApplicationState)
  deriving DecidableEq

structure Device where
  gpdNode : EmberGpd
  nonceTx : Cells UInt8
  nonceRx : Cells UInt8
  /-- The key expanded in `mbedtls_device_ctx`. -/
  ccmKey : Key
  gpdNvData : Cells UInt8
  txMpdu : Mem UInt8
  rxMpdu : Mem UInt8
  chReqSubstate : UInt8
  applicationDescriptionState : UInt8
  /-- For each coming receive window, the frames received in it. -/
  air : List (List (List UInt8))
  randoms : List UInt32
  /-- What the application will give as application description, and its `last` flags. -/
  descriptions : List (List UInt8 × Bool)
  log : List Event

def zeroKey : Key := Vector.replicate 16 0

def zeroAddr : EmberGpdAddr := ⟨0, 0, 0, 0⟩

def zeroGpd : EmberGpd where
  addr := zeroAddr
  autoCommissioning := false
  rxAfterTx := 0
  rxOffset := 0
  minRxWindow := 0
  currentCommReq := 0
  securityLevel := 0
  securityKeyType := 0
  securityKey := zeroKey
  securityFrameCounter := 0
  skipCca := false
  channel := 0
  gpdState := 0

/-- Static memory as the startup code leaves it, on a chip with history `log`. -/
def ramCleared (log : List Event) : Device where
  gpdNode := zeroGpd
  nonceTx := fun _ => 0
  nonceRx := fun _ => 0
  ccmKey := zeroKey
  gpdNvData := fun _ => 0
  txMpdu := .untouched (fun _ => 0)
  rxMpdu := .untouched (fun _ => 0)
  chReqSubstate := 0
  applicationDescriptionState := 0
  air := []
  randoms := []
  descriptions := []
  log := log

namespace Device

def record (e : Event) (s : Device) : Device := { s with log := e :: s.log }

def touchRx (off n : ℕ) (s : Device) : Device := { s with rxMpdu := s.rxMpdu.touch off n }

@[simp] theorem record_log (e : Event) (s : Device) : (s.record e).log = e :: s.log := rfl
@[simp] theorem record_gpdNode (e : Event) (s : Device) : (s.record e).gpdNode = s.gpdNode := rfl
@[simp] theorem record_rxMpdu (e : Event) (s : Device) : (s.record e).rxMpdu = s.rxMpdu := rfl
@[simp] theorem touchRx_log (off n : ℕ) (s : Device) : (s.touchRx off n).log = s.log := rfl
@[simp] theorem touchRx_gpdNode (off n : ℕ) (s : Device) :
    (s.touchRx off n).gpdNode = s.gpdNode := rfl
@[simp] theorem touchRx_rxMpdu (off n : ℕ) (s : Device) :
    (s.touchRx off n).rxMpdu = s.rxMpdu.touch off n := rfl

end Device

def keyOfBytes (bs : List UInt8) : Key := Vector.ofFn (fun i => bs.getD i 0)

@[simp] theorem keyOfBytes_toList (key : Key) : keyOfBytes key.toList = key := by
  ext i hi
  simp [keyOfBytes]

theorem toList_keyOfBytes (bs : List UInt8) (h : bs.length = 16) :
    (keyOfBytes bs).toList = bs := by
  apply List.ext_getElem (by simp [h])
  intro i hi _
  have hb : i < bs.length := by simpa [h] using hi
  simp [keyOfBytes, hb]

theorem keyOfBytes_zeros : keyOfBytes (List.replicate 16 0) = zeroKey := by decide

def flash : List Event → Option NvImage
  | [] => none
  | .flashErase :: _ => none
  | .flashSave _ image :: _ => some image
  | _ :: log => flash log

end GreenPower.DeviceState
