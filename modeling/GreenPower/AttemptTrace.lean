import GreenPower.DeviceSteps
import GreenPower.FrameLayout
import GreenPower.RequestPayload

set_option autoImplicit false

/-!
What an observer of the radio and of `emberGpdSetState` sees of a device, up to the frame
counter: of each frame its command without the counter in it and its frame control octets, of
each transmission and each receive window the channel.
-/
namespace GreenPower.AttemptTrace
open MemoryArray ByteWord BuildOptions DeviceState Security FrameBuild FrameLayout SendReceive
  GpdTask DeviceSteps RequestPayload

inductive Seen where
  | frame (frameType : UInt8) (command control : List UInt8)
  | transmission (skipCca : Bool) (channel : UInt8)
  | window (channel : UInt8)
  | state (gpdState : ApplicationState)
  deriving DecidableEq

def withoutCounter (b : Build) (payload : List UInt8) : List UInt8 :=
  if payload.head? = some cmdCommissioning ∧ Extended b then
    payload.take (counterIndex b) ++ payload.drop (counterIndex b + 4)
  else payload

def frameControl (frame : List UInt8) : List UInt8 :=
  (frame.drop macHeaderSize).take
    (if frame.getD macHeaderSize 0 &&& nwkFcExtFcMask = nwkFcExtFcMask then 2 else 1)

def sighting (b : Build) : Event → Option Seen
  | .txFifo frameType payload _ frame =>
    some (.frame frameType (withoutCounter b payload) (frameControl frame))
  | .startTx skipCca channel _ => some (.transmission skipCca channel)
  | .startRx channel _ => some (.window channel)
  | .setState gpdState => some (.state gpdState)
  | _ => none

def seen (b : Build) (log : List Event) : List Seen := log.filterMap (sighting b)

def observed (b : Build) (s s' : Device) : List Seen :=
  (seen b (s'.log.take (s'.log.length - s.log.length))).reverse

theorem seen_append (b : Build) (new log : List Event) :
    seen b (new ++ log) = seen b new ++ seen b log := List.filterMap_append

theorem observed_eq (b : Build) {s s' : Device} {new : List Event} (h : s'.log = new ++ s.log) :
    observed b s s' = (seen b new).reverse := by
  unfold observed
  rw [h, List.length_append, Nat.add_sub_cancel, List.take_left]

theorem observed_of_seen (b : Build) {s s' : Device} (grown : s.log <:+ s'.log) {new : List Seen}
    (h : seen b s'.log = new ++ seen b s.log) : observed b s s' = new.reverse := by
  obtain ⟨events, grown⟩ := grown
  rw [← grown, seen_append] at h
  rw [observed_eq b grown.symm, List.append_cancel_right h]

/-- A frame control octet and what it announces, from `gpdNode` and the command. -/
def controlOctets (frameType : UInt8) (command : Option UInt8) (gpd : EmberGpd) : List UInt8 :=
  if frameType = nwkFcFrameTypeData then
    dataNwkFc gpd :: (if ExtFcPresent gpd then [sentExtNwkFc gpd command.toList] else [])
  else [maintNwkFc (!gpd.autoCommissioning)]

theorem sentExtNwkFc_head (gpd : EmberGpd) (payload : List UInt8) :
    sentExtNwkFc gpd payload.head?.toList = sentExtNwkFc gpd payload := by
  cases payload <;> rfl

theorem frameControl_cons {front frame : List UInt8} (hf : front.length = macHeaderSize)
    (fc : UInt8) : frameControl (front ++ fc :: frame) =
      if fc &&& nwkFcExtFcMask = nwkFcExtFcMask then fc :: frame.take 1 else [fc] := by
  unfold frameControl
  have fcAt : (front ++ fc :: frame).getD macHeaderSize 0 = fc := by
    rw [List.getD_append_right _ _ _ _ (by rw [hf]), hf]
    rfl
  rw [fcAt, List.drop_left' hf]
  split_ifs <;> rfl

theorem dataFrame_split (ccm : Ccm) (key : Key) (nonce payload : List UInt8) (gpd : EmberGpd) :
    withLength (dataBody ccm key nonce payload gpd) =
      (UInt8.ofNat ((dataBody ccm key nonce payload gpd).length + 2) ::
        macHeader (sequenceNumber gpd)) ++ dataNwkFc gpd ::
          (dataFields gpd (sentExtNwkFc gpd payload) ++ sentPayload ccm key nonce payload gpd ++
            sentMic ccm key nonce payload gpd) := by
  simp only [withLength, dataBody, sentHeader, List.append_assoc, List.cons_append]

theorem frameControl_built (ccm : Ccm) (key : Key) (nonce payload : List UInt8) {frameType : UInt8}
    (gpd : EmberGpd) : frameControl (built ccm key nonce frameType payload gpd) =
      controlOctets frameType payload.head? gpd := by
  have front (len seqNo : UInt8) : (len :: macHeader seqNo).length = macHeaderSize := rfl
  unfold built controlOctets
  split_ifs with data ext
  · rw [dataFrame_split, frameControl_cons (front _ _), if_pos ((extFc_present_iff gpd).mpr ext),
      dataFields, if_pos ext, sentExtNwkFc_head]
    rfl
  · rw [dataFrame_split, frameControl_cons (front _ _),
      if_neg (fun h => ext ((extFc_present_iff gpd).mp h))]
  · have split : withLength (maintBody payload gpd) =
        (UInt8.ofNat ((maintBody payload gpd).length + 2) :: macHeader (sequenceNumber gpd)) ++
          maintNwkFc (!gpd.autoCommissioning) :: payload := by
      simp only [withLength, maintBody, List.append_assoc, List.cons_append, List.nil_append]
    have plain : ¬ maintNwkFc (!gpd.autoCommissioning) &&& nwkFcExtFcMask = nwkFcExtFcMask := by
      cases gpd.autoCommissioning <;> decide
    rw [split, frameControl_cons (front _ _), if_neg plain]

theorem writeTxFifo_out (b : Build) (frameType : UInt8) (payload : List UInt8) (s : Device) :
    let out := emberBuildOutGoingPdu b.ccm s.ccmKey (nonce s.nonceTx) frameType
      ⟨s.txMpdu, .untouched (fun _ => 0)⟩ payload s.gpdNode
    writeTxFifo b frameType payload s =
      { s with
        txMpdu := out.2.mpdu
        log := .txFifo frameType payload s.gpdNode (load out.2.mpdu.cell 0 out.1) ::
          (secureEvents frameType s ++ s.log) } := by
  unfold writeTxFifo secureEvents
  simp only
  split_ifs <;> rfl

theorem load_wrote {m : Mem UInt8} {out : ℕ × Pdu} {body : List UInt8}
    (length : out.1 = 1 + body.length) (h : Wrote m out.2.mpdu (withLength body)) :
    load out.2.mpdu.cell 0 out.1 = withLength body := by
  have same : out.1 = (withLength body).length := by
    rw [length, withLength, List.length_cons, Nat.add_comm]
  rw [same, h.cell]
  exact load_store_same _ 0 _

/-- The frame in the FIFO is the frame of the standard. -/
theorem writeTxFifo_built (b : Build) {frameType : UInt8}
    (kind : frameType = nwkFcFrameTypeData ∨ frameType = nwkFcFrameTypeMaint)
    {payload : List UInt8} (hp : payload.length ≤ 59) (s : Device) :
    ∃ mpdu, writeTxFifo b frameType payload s =
      { s with
        txMpdu := mpdu
        log := .txFifo frameType payload s.gpdNode
          (built b.ccm s.ccmKey (nonce s.nonceTx) frameType payload s.gpdNode) ::
            (secureEvents frameType s ++ s.log) } := by
  have eq := writeTxFifo_out b frameType payload s
  rcases kind with rfl | rfl
  · obtain ⟨length, wrote, -⟩ := dataPdu_wrote b.ccm s.ccmKey (nonce s.nonceTx)
      ⟨s.txMpdu, .untouched (fun _ => 0)⟩ payload s.gpdNode hp (Mem.untouched_within _ _)
    simp only [load_wrote length wrote] at eq
    exact ⟨_, eq⟩
  · obtain ⟨length, wrote, -⟩ := maintPdu_wrote b.ccm s.ccmKey (nonce s.nonceTx)
      ⟨s.txMpdu, .untouched (fun _ => 0)⟩ payload s.gpdNode hp
    simp only [load_wrote length wrote] at eq
    exact ⟨_, eq⟩

end GreenPower.AttemptTrace
