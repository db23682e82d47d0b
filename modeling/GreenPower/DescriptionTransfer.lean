import GreenPower.ResponseLoops
import GreenPower.ProgramSends

set_option autoImplicit false

/-!
A transfer of the application description: the calls of its state machine, the local arrays
filled in them and the frames they send. The callback may write as many octets as the array has,
behind the command octet.
-/
namespace GreenPower.DescriptionTransfer
open MemoryArray ByteWord BuildOptions DeviceState Security FrameBuild SendReceive
  CommissioningCommand Commissioning GpdTask DeviceSteps RequestPayload AttemptLockstep
  AttemptProgress FramesOnAir ProgramSends ResponseLoops

structure SentFrame where
  frameType : UInt8
  payload : List UInt8
  rxAfterTx : Bool
  deriving DecidableEq

def sentFrame : Event → Option SentFrame
  | .txFifo frameType payload gpd _ => some ⟨frameType, payload, gpd.rxAfterTx ≠ 0⟩
  | _ => none

section
variable (b : Build)

def requestCalls (s : Device) : List Device :=
  if s.applicationDescriptionState = appDescStepSendCommissioningReq then
    List.iterate (sendCommissioningRequest b) { s with gpdNode.rxAfterTx := 0 }
      b.numberOfCommissioningRequest.toNat
  else []

def finalCalls : ℕ → Device → List Device
  | 0, _ => []
  | n + 1, s =>
    if s.gpdNode.gpdState = appStateCommissioningReplyReceived then []
    else s :: finalCalls n (sendApplicationDescriptionCommand b s).2

def descriptionCalls (s : Device) : List Device :=
  if s.applicationDescriptionState = appDescStepSendCommissioningReq then []
  else if s.applicationDescriptionState = appDescStepSendAppDescriptionReq then [s]
  else if s.applicationDescriptionState = appDescStepSendAppDescriptionFinalReq then
    finalCalls b b.numberOfCommissioningRequest.toNat s
  else []

def answer (s : Device) : List UInt8 × Bool :=
  let (messagePayload, last, _) := emberGpdAfPluginGetApplicationDescriptionCallback s
  (messagePayload, last)

def answers (s : Device) : List (List UInt8 × Bool) := (descriptionCalls b s).map answer

def requestBuffer (s : Device) : Mem UInt8 :=
  (built b { s with gpdNode.securityLevel := securityLevelNone }).1.2

def descriptionBuffer (s : Device) : Mem UInt8 :=
  (gpdBuildCommissioningApplicationDescriptionCommand command s).1.2

def callFrames (s : Device) : List SentFrame :=
  let log := (gpdCommissioningStateMachineWithAppDescription b s).log
  ((log.take (log.length - s.log.length)).filterMap sentFrame).reverse

/-- The calls of the state machine in one transfer: from the first sub-state on until it is back
there, with anything between two calls that leaves the sub-state alone. -/
inductive Transfer : List Device → Prop
  | first {s : Device} (start : s.applicationDescriptionState = appDescStepSendCommissioningReq) :
      Transfer [s]
  | next {calls : List Device} {s s' : Device} (transfer : Transfer (calls ++ [s]))
      (same : s'.applicationDescriptionState =
        (gpdCommissioningStateMachineWithAppDescription b s).applicationDescriptionState)
      (going : s'.applicationDescriptionState ≠ appDescStepSendCommissioningReq) :
      Transfer (calls ++ [s, s'])

def IsRequest (frame : SentFrame) : Prop :=
  frame.frameType = nwkFcFrameTypeData ∧ frame.payload.head? = some cmdCommissioning ∧
    frame.rxAfterTx = false

def descriptionFrame (answer : List UInt8 × Bool) : SentFrame :=
  ⟨nwkFcFrameTypeData, cmdCommissioningAppDescr :: answer.1, answer.2⟩

structure Transferred (calls : List Device) : Prop where
  within : ∀ s ∈ calls, (∀ t ∈ requestCalls b s, (requestBuffer b t).Within cmdMaxPayloadSize) ∧
    ∀ t ∈ descriptionCalls b s, (descriptionBuffer t).Within cmdMaxPayloadSize
  frames : ∃ requests, calls.flatMap (callFrames b) =
      requests ++ (calls.flatMap (answers b)).map descriptionFrame ∧
    requests.length = b.numberOfCommissioningRequest.toNat ∧ ∀ r ∈ requests, IsRequest r

/-- The request fits its array, each fragment fits behind its command octet, and the flag is one
the callback decides about. -/
structure TransferFits (calls : List Device) : Prop where
  request : b.numberOfCommissioningRequest = 0 ∨ RequestFits b
  fragments : ∀ s ∈ calls, ∀ a ∈ answers b s, a.1.length < cmdMaxPayloadSize
  flags : b.bidirCapable = true ∨
    ∀ s ∈ calls, ∀ a ∈ answers b s, a.2 = decide (s.gpdNode.rxAfterTx ≠ 0)

end

theorem put_within (xs : List UInt8) (cmd : ℕ × Mem UInt8) (size : ℕ) :
    (put xs cmd).2.Within size ↔ cmd.1 + xs.length ≤ size ∧ cmd.2.Within size :=
  Mem.store_within cmd.2 cmd.1 size xs

theorem putInfo_within (b : Build) (cmd : ℕ × Mem UInt8) (size : ℕ) :
    (putInfo b cmd).2.Within size ↔
      (b.appInfo = true → cmd.1 + (requestBack b).length ≤ size) ∧ cmd.2.Within size := by
  unfold putInfo requestBack
  by_cases appInfo : b.appInfo = true
  · rw [if_pos appInfo, if_pos appInfo, put_within, put_within, ← and_assoc]
    refine and_congr_left' ?_
    simp only [put, List.length_cons, List.length_nil, appInfo, true_implies]
    omega
  · rw [if_neg appInfo]
    exact (and_iff_right (fun info => absurd info appInfo)).symm

/-- The octets from the options on. The key is stored behind them, encrypted or not, and only an
encrypted one is counted. -/
theorem putSecurity_within (b : Build) (keyType : UInt8) (key : Key) (frameCounter : UInt32)
    (cmd : ℕ × Mem UInt8) (s : Device) (size : ℕ) :
    let out := putSecurity b true keyType key frameCounter cmd s
    out.1 = cmd.1 + (if Extended b then counterIndex b + 2 else 0) ∧ (out.2.Within size ↔
      (cmd.1 + (if Extended b then (if b.keyEncrypt = true then 26 else 18) else 1) ≤ size) ∧
        cmd.2.Within size) := by
  have keyLen : (emberGpdSecurityEncryptKey b s.gpdNode.addr key s).1.length = 16 := by
    simp [emberGpdSecurityEncryptKey]
  have micLen : (emberGpdSecurityEncryptKey b s.gpdNode.addr key s).2.1.length = 4 := by
    simp [emberGpdSecurityEncryptKey, tagSize]
  unfold putSecurity putKey
  by_cases extended : Extended b
  · have level : b.securityLevel > securityLevelNone := extended
    simp only [if_pos level, if_pos extended, if_true]
    by_cases encrypt : b.keyEncrypt = true
    · simp only [if_pos encrypt, put_within, counterIndex]
      simp only [put, keyLen, micLen, copy4Bytes_length, Mem.store_within, List.length_cons,
        List.length_nil]
      refine ⟨trivial, fun h => ⟨?_, h.2.2.2.2.2⟩, fun h => ⟨?_, ?_, ?_, ?_, ?_, h.2⟩⟩ <;> omega
    · simp only [if_neg encrypt, put_within, counterIndex]
      simp only [put, copy4Bytes_length, Mem.store_within, List.length_cons, List.length_nil,
        Vector.length_toList]
      refine ⟨trivial, fun h => ⟨?_, h.2.2.2.2⟩, fun h => ⟨?_, ?_, ?_, ?_, h.2⟩⟩ <;> omega
  · have level : ¬ b.securityLevel > securityLevelNone := extended
    simp only [if_neg level, if_neg extended]
    exact ⟨rfl, Mem.store_within _ _ _ _⟩

theorem requestBuffer_within (b : Build) (s : Device) :
    (requestBuffer b s).Within cmdMaxPayloadSize ↔ RequestFits b := by
  unfold requestBuffer AttemptLockstep.built
  generalize ({ s with gpdNode.securityLevel := securityLevelNone } : Device) = s
  obtain ⟨index, security⟩ := putSecurity_within b b.securityKeyType b.key
    s.gpdNode.securityFrameCounter
    (put [cmdCommissioning, b.appDeviceId] (0, Commissioning.command)) s cmdMaxPayloadSize
  have start : (put [cmdCommissioning, b.appDeviceId] (0, Commissioning.command)).1 = 2 := rfl
  have empty : Commissioning.command.Within cmdMaxPayloadSize := Mem.untouched_within _ _
  rw [gpdBuildCommissioningCommand_eq]
  simp only
  rw [putInfo_within, security, index, put_within, start]
  unfold RequestFits requestLength
  have options : 2 + (if Extended b then (if b.keyEncrypt = true then 26 else 18) else 1) ≤
      cmdMaxPayloadSize := by
    split_ifs <;> decide
  by_cases appInfo : b.appInfo = true
  · constructor
    · exact fun within => within.1 appInfo
    · exact fun fits => ⟨fun _ => fits, options, (by decide : 0 + 2 ≤ 40), empty⟩
  · have back : requestBack b = [] := if_neg appInfo
    refine iff_of_true
      ⟨fun info => absurd info appInfo, options, (by decide : 0 + 2 ≤ 40), empty⟩ ?_
    rw [back]
    unfold counterIndex
    split_ifs <;> decide

/-- The command octet takes the room of one octet of the longest fragment. -/
theorem descriptionBuffer_within (s : Device) :
    (descriptionBuffer s).Within cmdMaxPayloadSize ↔ (answer s).1.length < cmdMaxPayloadSize := by
  have filled : descriptionBuffer s =
      (put (answer s).1 (put [cmdCommissioningAppDescr] (0, Commissioning.command))).2 := rfl
  have start : (put [cmdCommissioningAppDescr] (0, Commissioning.command)).1 = 1 := rfl
  have empty : Commissioning.command.Within cmdMaxPayloadSize := Mem.untouched_within _ _
  rw [filled, put_within, put_within, start, Nat.add_comm]
  exact and_iff_left ⟨(by decide : 0 + 1 ≤ 40), empty⟩

def Emits (s s' : Device) (frames : List SentFrame) : Prop :=
  ∃ new, s'.log = new ++ s.log ∧ (new.filterMap sentFrame).reverse = frames

section
variable {b : Build} {s s' s'' : Device} {frames frames' : List SentFrame}

theorem emits_same (log : s'.log = s.log) : Emits s s' [] := ⟨[], log, rfl⟩

theorem Emits.trans (h : Emits s s' frames) (h' : Emits s' s'' frames') :
    Emits s s'' (frames ++ frames') := by
  obtain ⟨new, log, rfl⟩ := h
  obtain ⟨new', log', rfl⟩ := h'
  refine ⟨new' ++ new, ?_, ?_⟩
  · rw [log', log, List.append_assoc]
  · rw [List.filterMap_append, List.reverse_append]

theorem Emits.same (h : Emits s s' frames) (log : s''.log = s'.log) : Emits s s'' frames := by
  obtain ⟨new, log', emitted⟩ := h
  exact ⟨new, log.trans log', emitted⟩

theorem Emits.callFrames (h : Emits s (gpdCommissioningStateMachineWithAppDescription b s) frames) :
    callFrames b s = frames := by
  obtain ⟨new, log, rfl⟩ := h
  unfold DescriptionTransfer.callFrames
  simp only
  rw [log, List.length_append, Nat.add_sub_cancel, List.take_left]

theorem sentFrame_offRadio {e : Event} (off : ¬ OnRadio e) : sentFrame e = none := by
  cases e <;> first | rfl | exact absurd trivial off

theorem sentFrame_unwritten {e : Event} (unwritten : fifoFrame e = none) : sentFrame e = none := by
  cases e <;> first | rfl | cases unwritten

theorem send_emits (b : Build) (frameType : UInt8) (payload : List UInt8) (n : ℕ) (s : Device) :
    Emits s (emberAfGpdfSend b frameType payload n s)
      [⟨frameType, payload.take srcIdMaxPayloadSize, s.gpdNode.rxAfterTx ≠ 0⟩] := by
  obtain ⟨front, c, counted, off, gpd⟩ := updateFrameCounter_offRadio b s
  obtain ⟨mpdu, frame, written⟩ := writeTxFifo_eq b frameType (payload.take srcIdMaxPayloadSize)
    (updateFrameCounter b s)
  obtain ⟨rest, log, unwritten, -⟩ := startTx_iterate_puts b (max 1 n)
    (writeTxFifo b frameType (payload.take srcIdMaxPayloadSize) (updateFrameCounter b s))
  have secured := secureEvents_offRadio frameType (updateFrameCounter b s)
  have silent : (secureEvents frameType (updateFrameCounter b s) ++ front).filterMap sentFrame =
      [] := by
    refine List.filterMap_eq_nil_iff.mpr (fun e member => sentFrame_offRadio ?_)
    exact (List.mem_append.mp member).elim (secured e) (off e)
  have later : rest.filterMap sentFrame = [] :=
    List.filterMap_eq_nil_iff.mpr (fun e member => sentFrame_unwritten (unwritten e member))
  refine ⟨rest ++ .txFifo frameType (payload.take srcIdMaxPayloadSize)
    (updateFrameCounter b s).gpdNode frame ::
      (secureEvents frameType (updateFrameCounter b s) ++ front), ?_, ?_⟩
  · have sent : (emberAfGpdfSend b frameType payload n s).log = rest ++ (writeTxFifo b frameType
        (payload.take srcIdMaxPayloadSize) (updateFrameCounter b s)).log := log
    rw [sent, written, counted]
    simp only [List.append_assoc, List.cons_append]
  · have window : (updateFrameCounter b s).gpdNode.rxAfterTx = s.gpdNode.rxAfterTx := by
      rw [gpd]
    have shown : sentFrame (.txFifo frameType (payload.take srcIdMaxPayloadSize)
        (updateFrameCounter b s).gpdNode frame) =
          some ⟨frameType, payload.take srcIdMaxPayloadSize, s.gpdNode.rxAfterTx ≠ 0⟩ := by
      rw [← window]
      rfl
    rw [List.filterMap_append, later, List.filterMap_cons_some shown, silent]
    rfl

def requestFrame (b : Build) (s : Device) : SentFrame :=
  ⟨nwkFcFrameTypeData, (requestBytes b { s with gpdNode.securityLevel := securityLevelNone }).take
    srcIdMaxPayloadSize, s.gpdNode.rxAfterTx ≠ 0⟩

theorem sendCommissioningRequest_emits (b : Build) (s : Device) :
    Emits s (sendCommissioningRequest b s) [requestFrame b s] := by
  obtain ⟨nonceTx, ccmKey, device⟩ :=
    built_device b { s with gpdNode.securityLevel := securityLevelNone }
  rw [sendCommissioningRequest_eq]
  simp only
  rw [device]
  exact (emits_same rfl).trans (send_emits b nwkFcFrameTypeData _ _ _)

theorem requests_emit (b : Build) (n : ℕ) (s : Device) :
    Emits s ((sendCommissioningRequest b)^[n] s)
      ((List.iterate (sendCommissioningRequest b) s n).map (requestFrame b)) := by
  induction n generalizing s with
  | zero => exact emits_same rfl
  | succ n ih => exact (sendCommissioningRequest_emits b s).trans (ih _)

theorem requests_closed (b : Build) (n : ℕ) {s : Device} (closed : s.gpdNode.rxAfterTx = 0) :
    ∀ t ∈ List.iterate (sendCommissioningRequest b) s n, t.gpdNode.rxAfterTx = 0 := by
  induction n generalizing s with
  | zero => exact fun t member => nomatch member
  | succ n ih =>
    intro t member
    rcases List.mem_cons.mp member with rfl | later
    · exact closed
    · exact ih ((sendCommissioningRequest_kept b rxAfterTx_kept s).trans closed) t later

theorem requestFrame_isRequest (fits : RequestFits b) (closed : s.gpdNode.rxAfterTx = 0) :
    IsRequest (requestFrame b s) := by
  have head := requestBytes_head fits { s with gpdNode.securityLevel := securityLevelNone }
  refine ⟨rfl, ?_, decide_eq_false (not_not.mpr closed)⟩
  change ((requestBytes b _).take srcIdMaxPayloadSize).head? = _
  rw [← head]
  cases requestBytes b _ <;> rfl

def describedFrame (b : Build) (s : Device) : SentFrame :=
  ⟨nwkFcFrameTypeData, (described b s).1.take srcIdMaxPayloadSize,
    (described b s).2.gpdNode.rxAfterTx ≠ 0⟩

theorem described_log (b : Build) (s : Device) : (described b s).2.log = s.log := by
  unfold described gpdBuildCommissioningApplicationDescriptionCommand
    emberGpdAfPluginGetApplicationDescriptionCallback
  simp only
  split_ifs <;> rfl

theorem described_rxAfterTx (b : Build) (s : Device) : (described b s).2.gpdNode.rxAfterTx =
    if b.bidirCapable = true then (if (answer s).2 = true then 1 else 0)
      else s.gpdNode.rxAfterTx := by
  unfold described gpdBuildCommissioningApplicationDescriptionCommand answer
    emberGpdAfPluginGetApplicationDescriptionCallback
  simp only
  split_ifs <;> rfl

theorem sendApplicationDescriptionCommand_emits (b : Build) (s : Device) :
    Emits s (sendApplicationDescriptionCommand b s).2 [describedFrame b s] := by
  rw [sendApplicationDescriptionCommand_eq]
  exact (emits_same (described_log b s)).trans (send_emits b _ _ _ _)

theorem sendApplicationDescriptionCommand_rxAfterTx (plain : ¬ b.bidirCapable = true)
    (s : Device) : (sendApplicationDescriptionCommand b s).2.gpdNode.rxAfterTx =
      s.gpdNode.rxAfterTx := by
  rw [sendApplicationDescriptionCommand_eq, emberAfGpdfSend_kept rxAfterTx_kept,
    described_rxAfterTx, if_neg plain]

theorem described_payload (b : Build) {s : Device}
    (short : (answer s).1.length < cmdMaxPayloadSize) :
    (described b s).1 = cmdCommissioningAppDescr :: (answer s).1 := by
  have filled := ((filled_start Commissioning.command).put [cmdCommissioningAppDescr]).put
    (answer s).1
  have length : uint8 (1 + (answer s).1.length : ℕ) = 1 + (answer s).1.length :=
    uint8_natCast_of_lt (by unfold cmdMaxPayloadSize at short; omega)
  have loaded : (described b s).1 = load
      (put (answer s).1 (put [cmdCommissioningAppDescr] (0, Commissioning.command))).2.cell 0
        (uint8 (1 + (answer s).1.length : ℕ)) := by
    unfold described
    rfl
  rw [loaded, length, Nat.add_comm]
  exact filled.2

/-- The frame of a fragment that fits, and the flag it is sent with. -/
theorem describedFrame_eq (b : Build) {s : Device}
    (short : (answer s).1.length < cmdMaxPayloadSize) : describedFrame b s =
      descriptionFrame ((answer s).1,
        if b.bidirCapable = true then (answer s).2 else decide (s.gpdNode.rxAfterTx ≠ 0)) := by
  have whole : (cmdCommissioningAppDescr :: (answer s).1).take srcIdMaxPayloadSize =
      cmdCommissioningAppDescr :: (answer s).1 := by
    refine List.take_of_length_le ?_
    unfold cmdMaxPayloadSize at short
    simp only [List.length_cons, srcIdMaxPayloadSize]
    omega
  unfold describedFrame descriptionFrame
  rw [described_payload b short, whole, described_rxAfterTx]
  by_cases bidir : b.bidirCapable = true
  · rw [if_pos bidir, if_pos bidir]
    cases (answer s).2 <;> rfl
  · rw [if_neg bidir, if_neg bidir]

theorem finalRequests_emit (b : Build) (n : ℕ) (s : Device) :
    Emits s (finalRequests b n s).2 ((finalCalls b n s).map (describedFrame b)) := by
  induction n generalizing s with
  | zero => exact emits_same rfl
  | succ n ih =>
    unfold finalRequests finalCalls
    split_ifs
    · exact emits_same rfl
    · exact (sendApplicationDescriptionCommand_emits b s).trans (ih _)

theorem finalCalls_rxAfterTx (plain : ¬ b.bidirCapable = true) (n : ℕ) (s : Device) :
    ∀ t ∈ finalCalls b n s, t.gpdNode.rxAfterTx = s.gpdNode.rxAfterTx := by
  induction n generalizing s with
  | zero => exact fun t member => nomatch member
  | succ n ih =>
    intro t member
    unfold finalCalls at member
    split_ifs at member
    · cases member
    · rcases List.mem_cons.mp member with rfl | later
      · rfl
      · exact (ih _ t later).trans (sendApplicationDescriptionCommand_rxAfterTx plain s)

theorem descriptionCalls_rxAfterTx (plain : ¬ b.bidirCapable = true) (s : Device) :
    ∀ t ∈ descriptionCalls b s, t.gpdNode.rxAfterTx = s.gpdNode.rxAfterTx := by
  intro t member
  unfold descriptionCalls at member
  split_ifs at member
  · cases member
  · rw [List.mem_singleton.mp member]
  · exact finalCalls_rxAfterTx plain _ s t member
  · cases member

/-- A call of the state machine sends what the two send functions put together in it. -/
theorem stateMachine_emits (b : Build) (s : Device) :
    Emits s (gpdCommissioningStateMachineWithAppDescription b s)
      ((requestCalls b s).map (requestFrame b) ++
        (descriptionCalls b s).map (describedFrame b)) := by
  have described := sendApplicationDescriptionCommand_emits b s
  have final := finalRequests_emit b b.numberOfCommissioningRequest.toNat s
  unfold gpdCommissioningStateMachineWithAppDescription requestCalls descriptionCalls
  simp only
  split_ifs
  · have closed : Emits s { s with gpdNode.rxAfterTx := 0 } [] := emits_same rfl
    rw [List.map_nil, List.append_nil]
    exact (closed.trans (requests_emit b _ _)).same rfl
  · exact described.same rfl
  · exact described
  · exact final.same rfl
  · exact final.same rfl
  · exact emits_same rfl

theorem callFrames_eq (b : Build) (s : Device) : callFrames b s =
    (requestCalls b s).map (requestFrame b) ++ (descriptionCalls b s).map (describedFrame b) :=
  (stateMachine_emits b s).callFrames

structure Ordered (b : Build) (calls : List Device) : Prop where
  frames : calls.flatMap (callFrames b) =
    (calls.flatMap (requestCalls b)).map (requestFrame b) ++
      (calls.flatMap (descriptionCalls b)).map (describedFrame b)
  count : (calls.flatMap (requestCalls b)).length = b.numberOfCommissioningRequest.toNat
  closed : ∀ t ∈ calls.flatMap (requestCalls b), t.gpdNode.rxAfterTx = 0

theorem ordered_first (b : Build) {s : Device}
    (start : s.applicationDescriptionState = appDescStepSendCommissioningReq) : Ordered b [s] := by
  have requests : requestCalls b s = List.iterate (sendCommissioningRequest b)
      { s with gpdNode.rxAfterTx := 0 } b.numberOfCommissioningRequest.toNat := if_pos start
  have frames := callFrames_eq b s
  refine ⟨?_, ?_, ?_⟩ <;> rw [List.flatMap_singleton]
  · rwa [List.flatMap_singleton, List.flatMap_singleton]
  · rw [requests, List.length_iterate]
  · rw [requests]
    exact requests_closed b _ rfl

theorem Ordered.next {calls : List Device} (h : Ordered b calls)
    (going : s.applicationDescriptionState ≠ appDescStepSendCommissioningReq) :
    Ordered b (calls ++ [s]) := by
  have requests : requestCalls b s = [] := if_neg going
  have frames := callFrames_eq b s
  rw [requests, List.map_nil, List.nil_append] at frames
  have same : (calls ++ [s]).flatMap (requestCalls b) = calls.flatMap (requestCalls b) := by
    rw [List.flatMap_append, List.flatMap_singleton, requests, List.append_nil]
  refine ⟨?_, ?_, ?_⟩ <;> rw [same]
  · rw [List.flatMap_append, List.flatMap_append, List.flatMap_singleton, List.flatMap_singleton,
      h.frames, frames, List.map_append, List.append_assoc]
  · exact h.count
  · exact h.closed

theorem Transfer.ordered {calls : List Device} (transfer : Transfer b calls) :
    Ordered b calls := by
  induction transfer with
  | first start => exact ordered_first b start
  | @next calls s s' transfer same going ih =>
    have longer := ih.next going
    rwa [List.append_assoc] at longer

theorem Ordered.count_pos {calls : List Device} (h : Ordered b calls)
    (some : b.numberOfCommissioningRequest ≠ 0) :
    0 < (calls.flatMap (requestCalls b)).length := by
  rw [h.count, Nat.pos_iff_ne_zero]
  exact fun none => some (UInt8.toNat_inj.mp none)

theorem Ordered.some_of_mem {calls : List Device} {t : Device} (h : Ordered b calls)
    (member : t ∈ calls.flatMap (requestCalls b)) : b.numberOfCommissioningRequest ≠ 0 := by
  intro none
  have positive := List.length_pos_of_mem member
  rw [h.count, none] at positive
  exact absurd positive (by decide)

theorem flatMap_answers (b : Build) (calls : List Device) :
    calls.flatMap (answers b) = (calls.flatMap (descriptionCalls b)).map answer :=
  List.map_flatMap.symm

/-- In an ordered transfer, the frames are the due ones if and only if each description frame is
the one that is due. -/
theorem Ordered.frames_iff {calls : List Device} (h : Ordered b calls)
    (request : b.numberOfCommissioningRequest = 0 ∨ RequestFits b) :
    (∃ requests, calls.flatMap (callFrames b) =
        requests ++ (calls.flatMap (answers b)).map descriptionFrame ∧
      requests.length = b.numberOfCommissioningRequest.toNat ∧ ∀ r ∈ requests, IsRequest r) ↔
    ∀ t ∈ calls.flatMap (descriptionCalls b), describedFrame b t = descriptionFrame (answer t) := by
  have sent : ((calls.flatMap (requestCalls b)).map (requestFrame b)).length =
      b.numberOfCommissioningRequest.toNat := by
    rw [List.length_map, h.count]
  rw [h.frames, flatMap_answers, List.map_map]
  constructor
  · rintro ⟨requests, frames, length, -⟩
    obtain ⟨-, described⟩ := List.append_inj frames (sent.trans length.symm)
    exact List.map_inj_left.mp described
  · intro due
    refine ⟨_, congrArg (_ ++ ·) (List.map_inj_left.mpr due), sent, fun r member => ?_⟩
    obtain ⟨t, called, rfl⟩ := List.mem_map.mp member
    exact requestFrame_isRequest (request.resolve_left (h.some_of_mem called)) (h.closed t called)

theorem Transferred.fragment {calls : List Device} (h : Transferred b calls)
    (called : s ∈ calls) {a : List UInt8 × Bool} (answered : a ∈ answers b s) :
    a.1.length < cmdMaxPayloadSize := by
  obtain ⟨t, described, rfl⟩ := List.mem_map.mp answered
  exact (descriptionBuffer_within t).mp ((h.within s called).2 t described)

/-- Within its arrays and frame by frame as it should be: for exactly these transfers. -/
theorem transfer_iff (b : Build) {calls : List Device} (transfer : Transfer b calls) :
    Transferred b calls ↔ TransferFits b calls := by
  have ordered := transfer.ordered
  constructor
  · intro h
    have request : b.numberOfCommissioningRequest = 0 ∨ RequestFits b := by
      refine or_iff_not_imp_left.mpr (fun some => ?_)
      obtain ⟨t, member⟩ := List.exists_mem_of_length_pos (ordered.count_pos some)
      obtain ⟨s, called, requested⟩ := List.mem_flatMap.mp member
      exact (requestBuffer_within b t).mp ((h.within s called).1 t requested)
    refine ⟨request, fun s called a answered => h.fragment called answered,
      or_iff_not_imp_left.mpr (fun plain s called a answered => ?_)⟩
    have due := (ordered.frames_iff request).mp h.frames
    have short := h.fragment called answered
    obtain ⟨t, described, rfl⟩ := List.mem_map.mp answered
    have frame := due t (List.mem_flatMap.mpr ⟨s, called, described⟩)
    rw [describedFrame_eq b short, if_neg plain, descriptionCalls_rxAfterTx plain s t described]
      at frame
    exact (congrArg SentFrame.rxAfterTx frame).symm
  · rintro ⟨request, fragments, flags⟩
    refine ⟨fun s called => ⟨fun t requested => ?_, fun t described => ?_⟩,
      (ordered.frames_iff request).mpr (fun t member => ?_)⟩
    · have member : t ∈ calls.flatMap (requestCalls b) :=
        List.mem_flatMap.mpr ⟨s, called, requested⟩
      exact (requestBuffer_within b t).mpr (request.resolve_left (ordered.some_of_mem member))
    · exact (descriptionBuffer_within t).mpr
        (fragments s called _ (List.mem_map_of_mem described))
    · obtain ⟨s, called, described⟩ := List.mem_flatMap.mp member
      have answered : answer t ∈ answers b s := List.mem_map_of_mem described
      rw [describedFrame_eq b (fragments s called _ answered)]
      by_cases bidir : b.bidirCapable = true
      · rw [if_pos bidir]
      · rw [if_neg bidir, descriptionCalls_rxAfterTx bidir s t described,
          ← flags.resolve_left bidir s called _ answered]

end

def describingBuild : Build :=
  { shipped (AesCipher.aesCcm tagSize) with appInfo := true, appDescriptionFollows := true }

def describing (fragment : List UInt8) : Device :=
  { gpdCommissioningStateMachineWithAppDescription describingBuild (powerUp describingBuild []) with
    descriptions := [(fragment, true)] }

theorem describing_substate (fragment : List UInt8) :
    (describing fragment).applicationDescriptionState = appDescStepSendAppDescriptionReq := by
  have start : (powerUp describingBuild []).applicationDescriptionState =
      appDescStepSendCommissioningReq := rfl
  unfold describing gpdCommissioningStateMachineWithAppDescription
  rw [if_pos start]

theorem describing_transfer (fragment : List UInt8) :
    Transfer describingBuild [powerUp describingBuild [], describing fragment] := by
  have requested : Transfer describingBuild ([] ++ [powerUp describingBuild []]) := .first rfl
  refine requested.next rfl ?_
  rw [describing_substate]
  decide

/-- The description of the stub. -/
theorem stub_transfer :
    Transferred describingBuild [powerUp describingBuild [], describing stubDescription.1] ↔
      TransferFits describingBuild [powerUp describingBuild [], describing stubDescription.1] :=
  transfer_iff describingBuild (describing_transfer stubDescription.1)

theorem describing_answers (fragment : List UInt8) :
    answers describingBuild (powerUp describingBuild []) = [] ∧
      answers describingBuild (describing fragment) = [(fragment, true)] := by
  have substate := describing_substate fragment
  have later : ¬ (describing fragment).applicationDescriptionState =
      appDescStepSendCommissioningReq := by
    rw [substate]
    decide
  have calls : descriptionCalls describingBuild (describing fragment) = [describing fragment] := by
    unfold descriptionCalls
    rw [if_neg later, if_pos substate]
  refine ⟨rfl, ?_⟩
  unfold answers
  rw [calls]
  rfl

/-- A fragment of the length the callback is given ends behind the array. -/
theorem longest_fragment_overflows : ∃ (b : Build) (calls : List Device), b.bidirCapable = true ∧
    RequestFits b ∧ Transfer b calls ∧
    (∀ s ∈ calls, ∀ a ∈ answers b s, a.1.length ≤ cmdMaxPayloadSize ∧ a.2 = true) ∧
    ¬ Transferred b calls := by
  obtain ⟨none, one⟩ := describing_answers (List.replicate cmdMaxPayloadSize 0x55)
  refine ⟨describingBuild, [powerUp describingBuild [],
    describing (List.replicate cmdMaxPayloadSize 0x55)], rfl, by decide, describing_transfer _,
    ?_, fun transferred => ?_⟩
  · simp only [List.forall_mem_cons, none, one, List.length_replicate]
    simp
  · have short := transferred.fragment (List.mem_cons_of_mem _ (List.mem_singleton_self _))
      (one ▸ List.mem_singleton_self _)
    rw [List.length_replicate] at short
    exact lt_irrefl _ short

end GreenPower.DescriptionTransfer
