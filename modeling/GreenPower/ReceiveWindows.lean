import GreenPower.ProgramSends
import GreenPower.CommissioningReply

set_option autoImplicit false

/-!
What a frame says of the receive window after it, and whether there is one. The frame control is
built from the flag that opens the window, but for one command.
-/
namespace GreenPower.ReceiveWindows
open MemoryArray ByteWord BuildOptions DeviceState Security FrameBuild FrameLayout FrameReadBack
  SendReceive GpdTask DeviceSteps AttemptTrace AttemptLockstep AttemptIndependence FieldRanges
  FramesOnAir PowerCycle ProgramSends
open Relation (ReflTransGen)

structure Sent where
  frameType : UInt8
  payload : List UInt8
  gpd : EmberGpd
  frame : List UInt8
  opened : Bool

inductive Records : List Event → List Sent → Prop
  | nil : Records [] []
  | other {log : List Event} {sends : List Sent} {e : Event} (off : ¬ OnRadio e)
      (earlier : Records log sends) : Records (e :: log) sends
  | closed {log : List Event} {sends : List Sent} (frameType : UInt8) (payload : List UInt8)
      (gpd : EmberGpd) (frame : List UInt8) (skipCca : Bool) (channel : UInt8) (counter : UInt32)
      (earlier : Records log sends) :
      Records (.startTx skipCca channel counter :: .txFifo frameType payload gpd frame :: log)
        (⟨frameType, payload, gpd, frame, false⟩ :: sends)
  | opened {log : List Event} {sends : List Sent} (frameType : UInt8) (payload : List UInt8)
      (gpd : EmberGpd) (frame : List UInt8) (skipCca : Bool) (channel : UInt8) (counter : UInt32)
      (rxChannel : UInt8) (nonce : List UInt8) (earlier : Records log sends) :
      Records (.startRx rxChannel nonce :: .startTx skipCca channel counter ::
          .txFifo frameType payload gpd frame :: log)
        (⟨frameType, payload, gpd, frame, true⟩ :: sends)

/-- A data frame announces a window in its extension, a maintenance frame by not asking for
auto-commissioning. -/
def Announces (frame : List UInt8) : Prop :=
  match frameControl frame with
  | [nwkFc] => bitField nwkFc 0 2 = 1 ∧ bitField nwkFc 6 1 = 0
  | [nwkFc, ext] => bitField nwkFc 0 2 = 0 ∧ bitField nwkFc 7 1 = 1 ∧ bitField ext 6 1 = 1
  | _ => False

def Agrees (x : Sent) : Prop := x.opened = true ↔ Announces x.frame

def WindowedSuccess (x : Sent) : Prop :=
  x.frameType = nwkFcFrameTypeData ∧ x.payload.head? = some cmdCommissioningSuccess ∧
    x.gpd.rxAfterTx ≠ 0

theorem Records.append {new log : List Event} {xs ys : List Sent} (h : Records new xs)
    (earlier : Records log ys) : Records (new ++ log) (xs ++ ys) := by
  induction h with
  | nil => exact earlier
  | other off _ ih => exact .other off ih
  | closed frameType payload gpd frame skipCca channel counter _ ih =>
    exact .closed frameType payload gpd frame skipCca channel counter ih
  | opened frameType payload gpd frame skipCca channel counter rxChannel nonce _ ih =>
    exact .opened frameType payload gpd frame skipCca channel counter rxChannel nonce ih

theorem Records.quiet {new : List Event} (off : ∀ e ∈ new, ¬ OnRadio e) : Records new [] := by
  induction new with
  | nil => exact .nil
  | cons e new ih =>
    exact .other (off e List.mem_cons_self) (ih (fun e' he => off e' (List.mem_cons_of_mem e he)))

/-- Each frame in the FIFO is one of the sends. -/
theorem Records.txFifo_mem {log : List Event} {xs : List Sent} (h : Records log xs)
    {frameType : UInt8} {payload : List UInt8} {gpd : EmberGpd} {frame : List UInt8}
    (member : .txFifo frameType payload gpd frame ∈ log) :
    ∃ opened, ⟨frameType, payload, gpd, frame, opened⟩ ∈ xs := by
  induction h with
  | nil => cases member
  | other off _ ih =>
    rcases List.mem_cons.mp member with rfl | earlier
    · exact absurd trivial off
    · exact ih earlier
  | closed =>
    rename_i ih
    simp only [List.mem_cons, reduceCtorEq, false_or, Event.txFifo.injEq] at member
    rcases member with ⟨rfl, rfl, rfl, rfl⟩ | earlier
    · exact ⟨_, List.mem_cons_self⟩
    · obtain ⟨opened, member⟩ := ih earlier
      exact ⟨opened, List.mem_cons_of_mem _ member⟩
  | opened =>
    rename_i ih
    simp only [List.mem_cons, reduceCtorEq, false_or, Event.txFifo.injEq] at member
    rcases member with ⟨rfl, rfl, rfl, rfl⟩ | earlier
    · exact ⟨_, List.mem_cons_self⟩
    · obtain ⟨opened, member⟩ := ih earlier
      exact ⟨opened, List.mem_cons_of_mem _ member⟩

theorem announces_data (ccm : Ccm) (key : Key) (nonce payload : List UInt8) {gpd : EmberGpd}
    (tame : Tame gpd) : Announces (built ccm key nonce nwkFcFrameTypeData payload gpd) ↔
      gpd.rxAfterTx ≠ 0 ∧ payload.head? ≠ some cmdCommissioningSuccess := by
  have control : frameControl (built ccm key nonce nwkFcFrameTypeData payload gpd) =
      dataNwkFc gpd :: (if ExtFcPresent gpd then [sentExtNwkFc gpd payload] else []) := by
    rw [frameControl_built, controlOctets, if_pos rfl, sentExtNwkFc_head]
  obtain ⟨type, -, -, extended⟩ := dataNwkFc_fields gpd
  have reads := sentExtNwkFc_reads tame.1 tame.2.1 payload
  unfold Announces
  rw [control]
  by_cases present : ExtFcPresent gpd
  · rw [if_pos present]
    simp only [type, extended.mpr present, true_and]
    exact reads.rxAfterTx
  · rw [if_neg present]
    simp only [type, zero_ne_one, false_and, false_iff, not_and]
    intro window
    exact absurd (Or.inr (tame.2.2.ne_zero.mp window)) present

theorem announces_maint (ccm : Ccm) (key : Key) (nonce payload : List UInt8) (gpd : EmberGpd) :
    Announces (built ccm key nonce nwkFcFrameTypeMaint payload gpd) ↔
      gpd.autoCommissioning = false := by
  have control : frameControl (built ccm key nonce nwkFcFrameTypeMaint payload gpd) =
      [maintNwkFc (!gpd.autoCommissioning)] := by
    rw [frameControl_built]
    rfl
  unfold Announces
  rw [control]
  cases gpd.autoCommissioning <;> decide

/-- The transmission of the frame in the FIFO, and the window after it. -/
theorem startTx_records (b : Build) {s : Device} {frameType : UInt8} {payload frame : List UInt8}
    {gpd : EmberGpd} {front past : List Event}
    (composed : s.log = .txFifo frameType payload gpd frame :: (front ++ past))
    (records : Records front []) : ∃ new opened, (startTx b s).log = new ++ past ∧
      Records new [⟨frameType, payload, gpd, frame, opened⟩] ∧
      (opened = true ↔ s.gpdNode.rxAfterTx ≠ 0) := by
  unfold startTx
  simp only
  by_cases window : s.gpdNode.rxAfterTx ≠ 0
  · obtain ⟨new, log, heard⟩ := scheduledReceive_log b s.gpdNode.channel
      (s.record (.startTx s.gpdNode.skipCca s.gpdNode.channel s.gpdNode.securityFrameCounter))
    rw [if_pos window]
    refine ⟨new ++ _ :: _ :: _ :: front, true, ?_,
      (Records.quiet (fun e he => Heard.offRadio (heard e he))).append
        (.opened frameType payload gpd frame s.gpdNode.skipCca s.gpdNode.channel
          s.gpdNode.securityFrameCounter s.gpdNode.channel (nonce s.nonceRx) records),
      by simpa using window⟩
    rw [log, List.append_assoc, Device.record_log, composed]
    rfl
  · rw [if_neg window]
    refine ⟨_ :: _ :: front, false, ?_,
      .closed frameType payload gpd frame s.gpdNode.skipCca s.gpdNode.channel
        s.gpdNode.securityFrameCounter records, by simpa using window⟩
    rw [Device.record_log, composed]
    rfl

/-- A send leaves one entry, for the frame it built. -/
theorem send_records (b : Build) {frameType : UInt8}
    (kind : frameType = nwkFcFrameTypeData ∨ frameType = nwkFcFrameTypeMaint)
    (payload : List UInt8) (s : Device) : ∃ new sent c key nonce opened,
      (emberAfGpdfSend b frameType payload cmdResendNumber s).log = new ++ s.log ∧
      Records new [⟨frameType, sent, { s.gpdNode with securityFrameCounter := c },
        built b.ccm key nonce frameType sent { s.gpdNode with securityFrameCounter := c },
        opened⟩] ∧
      (opened = true ↔ s.gpdNode.rxAfterTx ≠ 0) := by
  have short : (payload.take srcIdMaxPayloadSize).length ≤ 59 := List.length_take_le _ _
  generalize sentIs : payload.take srcIdMaxPayloadSize = sent at short
  obtain ⟨front, c, counted, off, gpd⟩ := updateFrameCounter_offRadio b s
  obtain ⟨mpdu, written⟩ := writeTxFifo_built b kind short (updateFrameCounter b s)
  have secured := secureEvents_offRadio frameType (updateFrameCounter b s)
  have front_records : Records (secureEvents frameType (updateFrameCounter b s) ++ front) [] :=
    (Records.quiet secured).append (Records.quiet off)
  have composed : (writeTxFifo b frameType sent (updateFrameCounter b s)).log =
      .txFifo frameType sent { s.gpdNode with securityFrameCounter := c }
        (built b.ccm (updateFrameCounter b s).ccmKey (nonce (updateFrameCounter b s).nonceTx) frameType
          sent { s.gpdNode with securityFrameCounter := c }) ::
        (secureEvents frameType (updateFrameCounter b s) ++ front ++ s.log) := by
    rw [written, List.append_assoc, ← counted, ← gpd]
  obtain ⟨new, opened, log, records, opens⟩ := startTx_records b composed front_records
  have window : (writeTxFifo b frameType sent (updateFrameCounter b s)).gpdNode.rxAfterTx =
      s.gpdNode.rxAfterTx := by
    rw [written]
    change (updateFrameCounter b s).gpdNode.rxAfterTx = _
    rw [gpd]
  rw [window] at opens
  have send : emberAfGpdfSend b frameType payload cmdResendNumber s =
      startTx b (writeTxFifo b frameType sent (updateFrameCounter b s)) := by
    rw [← sentIs]
    rfl
  exact ⟨new, sent, c, _, _, opened, send ▸ log, records, opens⟩

/-- The only send that does not agree is a Commissioning Success before a window. -/
theorem data_agrees_iff (ccm : Ccm) (key : Key) (nonce sent : List UInt8) {gpd : EmberGpd}
    (tame : Tame gpd) {opened : Bool} (opens : opened = true ↔ gpd.rxAfterTx ≠ 0) :
    let x : Sent := ⟨nwkFcFrameTypeData, sent, gpd,
      built ccm key nonce nwkFcFrameTypeData sent gpd, opened⟩
    Agrees x ↔ ¬ WindowedSuccess x := by
  simp only [Agrees, WindowedSuccess, opens, announces_data ccm key nonce sent tame, true_and]
  tauto

theorem maint_agrees_iff (ccm : Ccm) (key : Key) (nonce sent : List UInt8) {gpd : EmberGpd}
    (linked : Linked gpd) {opened : Bool} (opens : opened = true ↔ gpd.rxAfterTx ≠ 0) :
    let x : Sent := ⟨nwkFcFrameTypeMaint, sent, gpd,
      built ccm key nonce nwkFcFrameTypeMaint sent gpd, opened⟩
    Agrees x ↔ ¬ WindowedSuccess x := by
  have agrees : opened = true ↔
      Announces (built ccm key nonce nwkFcFrameTypeMaint sent gpd) :=
    (opens.trans linked).trans (announces_maint ccm key nonce sent gpd).symm
  exact iff_of_true agrees (fun success =>
    absurd success.1 (by decide : ¬ nwkFcFrameTypeMaint = nwkFcFrameTypeData))

section
variable {b : Build} {s s' : Device}

theorem move_records (move : Move b s s') (tame : Tame s.gpdNode) : ∃ new xs,
    s'.log = new ++ s.log ∧ Records new xs ∧ ∀ x ∈ xs, Agrees x ↔ ¬ WindowedSuccess x := by
  cases move with
  | quiet log off => exact ⟨_, [], log, .quiet off, by simp⟩
  | data payload =>
    obtain ⟨new, sent, c, key, nonce, opened, log, records, opens⟩ :=
      send_records b (Or.inl rfl) payload s
    refine ⟨new, _, log, records, fun x member => ?_⟩
    rw [List.mem_singleton.mp member]
    have counted : Tame { s.gpdNode with securityFrameCounter := c } := tame
    exact data_agrees_iff b.ccm key nonce sent counted opens
  | maint payload linked =>
    obtain ⟨new, sent, c, key, nonce, opened, log, records, opens⟩ :=
      send_records b (Or.inr rfl) payload s
    refine ⟨new, _, log, records, fun x member => ?_⟩
    rw [List.mem_singleton.mp member]
    have counted : Linked { s.gpdNode with securityFrameCounter := c } := linked
    exact maint_agrees_iff b.ccm key nonce sent counted opens

theorem moves_records (moves : Moves b s s') (tame : Tame s.gpdNode) : ∃ new xs,
    s'.log = new ++ s.log ∧ Records new xs ∧ ∀ x ∈ xs, Agrees x ↔ ¬ WindowedSuccess x := by
  induction moves with
  | refl => exact ⟨[], [], rfl, .nil, by simp⟩
  | tail moves move ih =>
    obtain ⟨new, xs, log, records, agree⟩ := ih
    obtain ⟨new', ys, log', records', agree'⟩ := move_records move (Moves.tame moves tame)
    refine ⟨new' ++ new, ys ++ xs, ?_, records'.append records, fun x member => ?_⟩
    · rw [log', log, List.append_assoc]
    · exact (List.mem_append.mp member).elim (agree' x) (agree x)

theorem flag_of_running {d : Device} (run : Running b d s) : Flag s.gpdNode.rxAfterTx := by
  have booted (log : List Event) : Flag (powerUp b log).gpdNode.rxAfterTx := by
    rw [(powerUp_flags b log).2.1]
    exact flag_booted b
  induction run with
  | fresh => exact booted _
  | written => exact booted _
  | reboot => exact booted _
  | load run ih =>
    obtain ⟨same, -⟩ := nvLoad_keeps _
    have window := congrArg EmberGpd.rxAfterTx same
    exact window.symm ▸ ih
  | step run step ih => exact flag_step step ih
  | next run ih => exact ih

end

theorem low_preserved {b : Build} (low : b.securityLevel ≤ 3) :
    Preserved b (fun data => data.securityLevel ≤ 3) where
  default := low
  reaction := by
    intro gpd r h range
    cases r with
    | replyAccepted newKey level keyType => exact range.1
    | ignored | channelConfig | replyRejected => exact h
  channel _ _ h _ := h
  clearedLevel _ _ := (by decide : securityLevelNone ≤ 3)
  clearedKeyType _ h := h
  restoredLevel _ _ _ begun := begun
  entered _ _ h _ := h

theorem tame_of_running {b : Build} (low : b.securityLevel ≤ 3) {d s : Device}
    (run : Running b d s) : Tame s.gpdNode := by
  have addr := (CommissioningReply.configured_of_running run).addr
  obtain ⟨-, stored⟩ := run.everywhere (low_preserved low)
  exact ⟨congrArg EmberGpdAddr.appId addr, stored.ram, flag_of_running run⟩

/-- Whatever is commanded, received and timed out, a window is announced if there is one. -/
theorem window_announced_iff (b : Build) (low : b.securityLevel ≤ 3) {d : Device}
    (run : Running b d d) (actions : List Action) (own : ∀ a ∈ actions, OfProgram a) :
    ∃ new xs, (actions.foldl (perform b) d).log = new ++ d.log ∧ Records new xs ∧
      ∀ x ∈ xs, Agrees x ↔ ¬ WindowedSuccess x :=
  have tame := tame_of_running low run
  moves_records (performs_moves b low d tame actions own) tame

def keylessReplyFrame : List UInt8 :=
  [12, 0x01, 0x08, 0, 0xff, 0xff, 0xff, 0xff, 0x0d, 0xf0, 0x98]

def commissioning : List Action :=
  [.command .commission, .stack [] [] [], .stack [[CommandEffects.channelConfigFrame]] [] [],
    .stack [[keylessReplyFrame]] [] [], .stack [] [] []]

def isWindowedSuccess : Event → Bool
  | .txFifo frameType payload gpd _ =>
    frameType = nwkFcFrameTypeData ∧ payload.head? = some cmdCommissioningSuccess ∧ gpd.rxAfterTx ≠ 0
  | _ => false

theorem commissioning_ofProgram : ∀ a ∈ commissioning, OfProgram a := by
  intro a member
  simp only [commissioning, List.mem_cons, List.not_mem_nil, or_false] at member
  rcases member with rfl | rfl | rfl | rfl | rfl <;> trivial

/-- The sends of the commissioning, told apart from each other. -/
theorem commissioning_windows_announced : ∃ new xs,
    (commissioning.foldl (perform (shipped (AesCipher.aesCcm tagSize)))
      (powerUp (shipped (AesCipher.aesCcm tagSize)) [])).log =
        new ++ (powerUp (shipped (AesCipher.aesCcm tagSize)) []).log ∧ Records new xs ∧
      ∀ x ∈ xs, Agrees x ↔ ¬ WindowedSuccess x :=
  window_announced_iff (shipped (AesCipher.aesCcm tagSize)) (by decide : securityLevelLongFull ≤ 3)
    .fresh commissioning commissioning_ofProgram

/-- The success goes out unannounced, and a window is opened after it. -/
theorem success_opens_window : ∃ (d : Device) (actions : List Action) (new : List Event)
    (xs : List Sent), Running (shipped (AesCipher.aesCcm tagSize)) d d ∧
      (∀ a ∈ actions, OfProgram a) ∧
      (actions.foldl (perform (shipped (AesCipher.aesCcm tagSize))) d).log = new ++ d.log ∧
      Records new xs ∧ ∃ x ∈ xs, ¬ Agrees x := by
  have run : Running (shipped (AesCipher.aesCcm tagSize)) _ _ := .fresh
  have low : (shipped (AesCipher.aesCcm tagSize)).securityLevel ≤ 3 :=
    (by decide : securityLevelLongFull ≤ 3)
  have tame := tame_of_running low run
  obtain ⟨new, xs, log, records, agree⟩ := moves_records
    (performs_moves _ low _ tame commissioning commissioning_ofProgram) tame
  refine ⟨_, commissioning, new, xs, run, commissioning_ofProgram, log, records, ?_⟩
  have sent : ((commissioning.foldl (perform (shipped (AesCipher.aesCcm tagSize)))
      (powerUp (shipped (AesCipher.aesCcm tagSize)) [])).log.any isWindowedSuccess) = true := by
    decide +kernel
  have before : ((powerUp (shipped (AesCipher.aesCcm tagSize)) []).log.any
      isWindowedSuccess) = false := by
    decide +kernel
  rw [log, List.any_append, before, Bool.or_false, List.any_eq_true] at sent
  obtain ⟨e, member, success⟩ := sent
  cases e with
  | txFifo frameType payload gpd frame =>
    obtain ⟨opened, member⟩ := records.txFifo_mem member
    have windowed : frameType = nwkFcFrameTypeData ∧
        payload.head? = some cmdCommissioningSuccess ∧ gpd.rxAfterTx ≠ 0 := of_decide_eq_true success
    exact ⟨_, member, fun agrees => (agree _ member).mp agrees windowed⟩
  | _ => cases success

end GreenPower.ReceiveWindows
