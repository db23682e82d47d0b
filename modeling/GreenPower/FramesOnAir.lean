import GreenPower.AttemptProgress

set_option autoImplicit false

/-!
The frames on the air, and what a round of `GpdTask` adds to them. Apart from the round of a
send command no frame is a toggle, and the state it leads to is one of the search for a network.
-/
namespace GreenPower.FramesOnAir
open MemoryArray BuildOptions DeviceState Security NonVolatile FrameBuild IncomingCommand
  IncomingMessage ReceiveOutcome SendReceive CommissioningCommand Commissioning GpdTask DeviceSteps
  AttemptLockstep AttemptProgress
open Relation (ReflTransGen)

def fifoFrame : Event → Option (UInt8 × List UInt8)
  | .txFifo frameType payload _ _ => some (frameType, payload)
  | _ => none

/-- The frames transmitted, newest first: each transmission is of what was last written to the
FIFO. -/
def onAir : List Event → List (UInt8 × List UInt8)
  | [] => []
  | .startTx _ _ _ :: log => (log.findSome? fifoFrame).toList ++ onAir log
  | _ :: log => onAir log

/-- These events put these frames on the air, whatever was before them. -/
def Puts (new : List Event) (frames : List (UInt8 × List UInt8)) : Prop :=
  ∀ log, onAir (new ++ log) = frames ++ onAir log

def IsSilent : Event → Prop
  | .txFifo _ _ _ _ => False
  | .startTx _ _ _ => False
  | _ => True

section
variable {new new' : List Event} {frames frames' : List (UInt8 × List UInt8)} {e : Event}

theorem IsSilent.fifoFrame (h : IsSilent e) : fifoFrame e = none := by
  cases e <;> first | rfl | exact h.elim

theorem IsSilent.onAir (h : IsSilent e) (log : List Event) : onAir (e :: log) = onAir log := by
  cases e <;> first | rfl | exact h.elim

theorem puts_silent (silent : ∀ e ∈ new, IsSilent e) : Puts new [] := by
  intro log
  induction new with
  | nil => rfl
  | cons e new ih =>
    rw [List.cons_append, (silent e List.mem_cons_self).onAir]
    exact ih (fun x hx => silent x (List.mem_cons_of_mem _ hx))

theorem Puts.append (h : Puts new frames) (h' : Puts new' frames') :
    Puts (new' ++ new) (frames' ++ frames) := by
  intro log
  rw [List.append_assoc, h', h, List.append_assoc]

theorem Puts.silent (h : Puts new frames) (silent : ∀ e ∈ new', IsSilent e) :
    Puts (new' ++ new) frames := h.append (puts_silent silent)

end

section
variable {b : Build} {s s' s'' : Device}

def Heard (e : Event) : Prop := Arrival e ∨ ∃ r : Reaction, e ∈ r.events

theorem Heard.ofSend {e : Event} (h : Heard e) : ofSend e = false := by
  rcases h with arrival | ⟨r, reaction⟩
  · exact arrival.ofSend
  · exact Reaction.ofSend r e reaction

theorem Heard.silent {e : Event} (h : Heard e) : IsSilent e := by
  have unsent := h.ofSend
  cases e <;> trivial

theorem handler_heard (b : Build) (s : Device) : ∃ new,
    (emberGpdIncomingMessageHandler b s).log = new ++ s.log ∧ ∀ e ∈ new, Heard e := by
  refine ⟨_, ReceptionRecord.handler_log b s, ?_⟩
  intro e he
  rcases List.mem_append.mp he with reaction | reception
  · exact Or.inr ⟨_, reaction⟩
  · exact Or.inl (arrival_of_receptionEvents b s e reception)

theorem window_heard (b : Build) (window : List (List UInt8)) (s : Device) : ∃ new,
    (window.foldl (fun s packet => railCbGeneric b packet s) s).log = new ++ s.log ∧
      ∀ e ∈ new, Heard e := by
  induction window generalizing s with
  | nil => exact ⟨[], rfl, by simp⟩
  | cons packet window ih =>
    obtain ⟨first, log, heard⟩ :=
      handler_heard b { s with rxMpdu := s.rxMpdu.store 0 packet }
    obtain ⟨rest, log', heard'⟩ := ih (railCbGeneric b packet s)
    refine ⟨rest ++ first, ?_, fun e he => ?_⟩
    · rw [List.append_assoc, ← log]
      exact log'
    · exact (List.mem_append.mp he).elim (heard' e) (heard e)

theorem scheduledReceive_log (b : Build) (channel : UInt8) (s : Device) : ∃ new,
    (emberAfGpdScheduledReceive b channel s).log =
        new ++ .startRx channel (nonce s.nonceRx) :: s.log ∧ ∀ e ∈ new, Heard e := by
  unfold emberAfGpdScheduledReceive
  simp only
  split
  · exact ⟨[], rfl, by simp⟩
  · rename_i window air heard
    exact window_heard b window { s.record (.startRx channel (nonce s.nonceRx)) with air := air }

theorem startTx_log (b : Build) (s : Device) : ∃ new skipCca channel counter,
    (startTx b s).log = new ++ .startTx skipCca channel counter :: s.log ∧
      ∀ e ∈ new, IsSilent e := by
  unfold startTx
  simp only
  split_ifs
  · obtain ⟨new, log, heard⟩ := scheduledReceive_log b s.gpdNode.channel
      (s.record (.startTx s.gpdNode.skipCca s.gpdNode.channel s.gpdNode.securityFrameCounter))
    refine ⟨new ++ [.startRx s.gpdNode.channel (nonce s.nonceRx)], s.gpdNode.skipCca,
      s.gpdNode.channel, s.gpdNode.securityFrameCounter, ?_, fun e he => ?_⟩
    · rw [List.append_assoc]
      exact log
    · rcases List.mem_append.mp he with he | he
      · exact (heard e he).silent
      · rw [List.mem_singleton.mp he]
        trivial
  · exact ⟨[], _, _, _, rfl, by simp⟩

/-- Transmissions of one frame in the FIFO. -/
theorem startTx_iterate_puts (b : Build) (n : ℕ) (s : Device) : ∃ new,
    ((startTx b)^[n] s).log = new ++ s.log ∧ (∀ e ∈ new, fifoFrame e = none) ∧
      ∀ frame log, log.findSome? fifoFrame = some frame →
        onAir (new ++ log) = List.replicate n frame ++ onAir log := by
  induction n generalizing s with
  | zero => exact ⟨[], rfl, by simp, fun _ _ _ => rfl⟩
  | succ n ih =>
    obtain ⟨first, skipCca, channel, counter, log, silent⟩ := startTx_log b s
    obtain ⟨rest, log', unwritten, puts⟩ := ih (startTx b s)
    refine ⟨rest ++ (first ++ [.startTx skipCca channel counter]), ?_, fun e he => ?_, ?_⟩
    · rw [Function.iterate_succ_apply, log', log]
      simp
    · simp only [List.mem_append, List.mem_singleton] at he
      rcases he with he | he | rfl
      · exact unwritten e he
      · exact (silent e he).fifoFrame
      · rfl
    · intro frame older written
      have same : (first ++ .startTx skipCca channel counter :: older).findSome? fifoFrame =
          some frame := by
        rw [EventLog.findSome_append_none _ _ _ (fun e he => (silent e he).fifoFrame)]
        exact written
      have once : onAir (.startTx skipCca channel counter :: older) = frame :: onAir older := by
        change (older.findSome? fifoFrame).toList ++ onAir older = _
        rw [written]
        rfl
      simp only [List.append_assoc, List.singleton_append]
      rw [puts frame _ same, puts_silent silent, List.nil_append, once, List.replicate_succ',
        List.append_assoc]
      rfl

theorem compose_log (b : Build) (frameType : UInt8) (payload : List UInt8) (s : Device) :
    ∃ new gpd frame, (writeTxFifo b frameType payload (updateFrameCounter b s)).log =
      .txFifo frameType payload gpd frame :: (new ++ s.log) ∧ ∀ e ∈ new, IsSilent e := by
  obtain ⟨mpdu, frame, eq⟩ := writeTxFifo_eq b frameType payload (updateFrameCounter b s)
  have counted : ∃ new, (updateFrameCounter b s).log = new ++ s.log ∧ ∀ e ∈ new, IsSilent e := by
    unfold updateFrameCounter
    cases b.macSeq with
    | incremental =>
      exact ⟨[_], rfl, by simp [IsSilent]⟩
    | random => exact ⟨[], rfl, by simp⟩
  obtain ⟨new, log, silent⟩ := counted
  refine ⟨secureEvents frameType (updateFrameCounter b s) ++ new, (updateFrameCounter b s).gpdNode,
    frame, ?_, fun e he => ?_⟩
  · rw [eq, List.append_assoc, ← log]
  · rcases List.mem_append.mp he with he | he
    · obtain ⟨_, _, _, _, rfl⟩ := secureEvents_mem he
      trivial
    · exact silent e he

/-- A send puts its frame on the air as often as it is repeated. -/
theorem send_puts (b : Build) (frameType : UInt8) (payload : List UInt8) (times : ℕ) (s : Device) :
    ∃ new, (emberAfGpdfSend b frameType payload times s).log = new ++ s.log ∧
      Puts new (List.replicate (max 1 times) (frameType, payload.take srcIdMaxPayloadSize)) := by
  obtain ⟨front, gpd, frame, log, silent⟩ :=
    compose_log b frameType (payload.take srcIdMaxPayloadSize) s
  obtain ⟨rest, log', -, puts⟩ := startTx_iterate_puts b (max 1 times)
    (writeTxFifo b frameType (payload.take srcIdMaxPayloadSize) (updateFrameCounter b s))
  refine ⟨rest ++ .txFifo frameType (payload.take srcIdMaxPayloadSize) gpd frame :: front, ?_, ?_⟩
  · rw [List.append_assoc, List.cons_append, ← log]
    exact log'
  · intro older
    rw [List.append_assoc, List.cons_append,
      puts (frameType, payload.take srcIdMaxPayloadSize) _ rfl]
    exact congrArg (_ ++ ·) (puts_silent silent older)

def toggleFrame : UInt8 × List UInt8 := (nwkFcFrameTypeData, [cmdToggle])

def Searching (gpdState : ApplicationState) : Prop :=
  gpdState = appStateNotCommissioned ∨ gpdState = appStateChannelRequest ∨
    gpdState = appStateChannelReceived ∨ gpdState = appStateCommissioningReplyReceived

structure Searches (s s' : Device) : Prop where
  frames : ∃ new sent, s'.log = new ++ s.log ∧ Puts new sent ∧ toggleFrame ∉ sent
  state : s'.gpdNode.gpdState = s.gpdNode.gpdState ∨ Searching s'.gpdNode.gpdState

theorem searches_same (log : s'.log = s.log)
    (state : s'.gpdNode.gpdState = s.gpdNode.gpdState ∨ Searching s'.gpdNode.gpdState) :
    Searches s s' :=
  ⟨⟨[], [], log, fun _ => rfl, List.not_mem_nil⟩, state⟩

theorem Searches.refl (s : Device) : Searches s s := searches_same rfl (Or.inl rfl)

theorem Searches.trans (h : Searches s s') (h' : Searches s' s'') : Searches s s'' := by
  obtain ⟨new, sent, log, puts, other⟩ := h.frames
  obtain ⟨new', sent', log', puts', other'⟩ := h'.frames
  refine ⟨⟨new' ++ new, sent' ++ sent, ?_, puts.append puts', ?_⟩, ?_⟩
  · rw [log', log, List.append_assoc]
  · rw [List.mem_append, not_or]
    exact ⟨other', other⟩
  · rcases h'.state with same | searching
    · rw [same]
      exact h.state
    · exact Or.inr searching

theorem radio_state (run : ReflTransGen RadioStep s s') :
    s'.gpdNode.gpdState = s.gpdNode.gpdState ∨ Searching s'.gpdNode.gpdState := by
  refine EventLog.star_preserves (I := fun t => t.gpdNode.gpdState = s.gpdNode.gpdState ∨
    Searching t.gpdNode.gpdState) ?_ run (Or.inl rfl)
  intro t t' step h
  cases step with
  | startTx => exact h
  | startRx => exact h
  | nextWindow => exact h
  | arrival quiet => rwa [quiet.gpdNode]
  | reaction r =>
    cases r with
    | ignored => exact h
    | channelConfig => exact Or.inr (Or.inr (Or.inr (Or.inl rfl)))
    | replyAccepted => exact Or.inr (Or.inr (Or.inr (Or.inr rfl)))
    | replyRejected => exact h

theorem send_state (b : Build) (frameType : UInt8) (payload : List UInt8) (times : ℕ) (s : Device) :
    (emberAfGpdfSend b frameType payload times s).gpdNode.gpdState = s.gpdNode.gpdState ∨
      Searching (emberAfGpdfSend b frameType payload times s).gpdNode.gpdState := by
  obtain ⟨c, composed⟩ := compose_gpdNode b frameType (payload.take srcIdMaxPayloadSize) s
  have heard := radio_state (emberAfGpdfSend_radio b frameType payload times s)
  rwa [composed] at heard

theorem send_searches (b : Build) {frameType : UInt8} {payload : List UInt8}
    (other : payload.head? ≠ some cmdToggle) (times : ℕ) (s : Device) :
    Searches s (emberAfGpdfSend b frameType payload times s) := by
  obtain ⟨new, log, puts⟩ := send_puts b frameType payload times s
  refine ⟨⟨new, _, log, puts, ?_⟩, send_state b frameType payload times s⟩
  intro toggle
  have same := congrArg (fun frame => frame.2.head?) (List.eq_of_mem_replicate toggle)
  have head : (payload.take srcIdMaxPayloadSize).head? = payload.head? := by cases payload <;> rfl
  simp only [head] at same
  exact other same.symm

theorem sendCommissioningRequest_searches (fits : RequestFits b) (s : Device) :
    Searches s (sendCommissioningRequest b s) := by
  have built : Searches s (built b { s with gpdNode.securityLevel := securityLevelNone }).2 := by
    obtain ⟨nonceTx, ccmKey, device⟩ :=
      built_device b { s with gpdNode.securityLevel := securityLevelNone }
    rw [device]
    exact searches_same rfl (Or.inl rfl)
  rw [sendCommissioningRequest_eq]
  refine built.trans (send_searches b ?_ _ _)
  rw [requestBytes_head fits]
  decide

theorem sendApplicationDescriptionCommand_searches (b : Build) (s : Device) :
    Searches s (sendApplicationDescriptionCommand b s).2 := by
  have head := descriptionCommand_head s
  have described : Searches s
      (gpdBuildCommissioningApplicationDescriptionCommand Commissioning.command s).2.2 :=
    searches_same rfl (Or.inl rfl)
  unfold sendApplicationDescriptionCommand
  simp only
  generalize gpdBuildCommissioningApplicationDescriptionCommand Commissioning.command s = out
    at head described
  obtain ⟨⟨length, cmd⟩, last, s1⟩ := out
  simp only at head described ⊢
  have flagged : Searches s (if b.bidirCapable = true then
      { s1 with gpdNode.rxAfterTx := if last = true then 1 else 0 } else s1) := by
    by_cases bidir : b.bidirCapable = true
    · rw [if_pos bidir]
      exact described.trans (searches_same rfl (Or.inl rfl))
    · rw [if_neg bidir]
      exact described
  exact flagged.trans (send_searches b (head _ (by decide)) _ _)

theorem iterate_searches {f : Device → Device} (h : ∀ s, Searches s (f s)) (times : ℕ)
    (s : Device) : Searches s (f^[times] s) := by
  induction times generalizing s with
  | zero => exact Searches.refl s
  | succ times ih => exact (h s).trans (ih (f s))

theorem finalRequests_searches (b : Build) (times : ℕ) (s : Device) :
    Searches s (finalRequests b times s).2 := by
  induction times generalizing s with
  | zero => exact Searches.refl s
  | succ times ih =>
    unfold finalRequests
    split_ifs
    · exact Searches.refl s
    · exact (sendApplicationDescriptionCommand_searches b s).trans (ih _)

theorem appDescription_searches (fits : RequestFits b) (s : Device) :
    Searches s (gpdCommissioningStateMachineWithAppDescription b s) := by
  have described := sendApplicationDescriptionCommand_searches b s
  have final := finalRequests_searches b b.numberOfCommissioningRequest.toNat s
  have silenced : Searches s { s with gpdNode.rxAfterTx := 0 } := searches_same rfl (Or.inl rfl)
  unfold gpdCommissioningStateMachineWithAppDescription
  simp only
  split_ifs
  · exact (silenced.trans (iterate_searches (sendCommissioningRequest_searches fits) _ _)).trans
      (searches_same rfl (Or.inl rfl))
  · exact described.trans (searches_same rfl (Or.inl rfl))
  · exact described
  · exact final.trans (searches_same rfl (Or.inl rfl))
  · exact final.trans (searches_same rfl (Or.inr (Or.inl rfl)))
  · exact searches_same rfl (Or.inl rfl)

theorem requestOnChannel_searches (b : Build) (channel : UInt8) (s : Device) :
    Searches s (requestOnChannel b channel s) := by
  have tuned : Searches s { s with gpdNode.channel := channel } := searches_same rfl (Or.inl rfl)
  refine tuned.trans (send_searches b ?_ _ _)
  rw [List.head?_cons]
  decide

theorem sweep_searches (b : Build) (channels : List UInt8) (s : Device) :
    Searches s (channels.foldl (fun s channel => requestOnChannel b channel s) s) := by
  induction channels generalizing s with
  | nil => exact Searches.refl s
  | cons channel channels ih => exact (requestOnChannel_searches b channel s).trans (ih _)

theorem rxChannelRequests_searches (b : Build) (times : ℕ) (s : Device) :
    Searches s (rxChannelRequests b times s) := by
  induction times generalizing s with
  | zero => exact searches_same rfl (Or.inr (Or.inr (Or.inl rfl)))
  | succ times ih =>
    unfold rxChannelRequests
    split_ifs
    · exact Searches.refl s
    · exact (requestOnChannel_searches b _ s).trans (ih _)

theorem channelRequest_searches (b : Build) (s : Device) :
    Searches s (gpdCommissioningChannelRequestStateMachine b s) := by
  have flags (gpd : EmberGpd) (state : gpd.gpdState = s.gpdNode.gpdState) :
      Searches s { s with gpdNode := gpd } := searches_same rfl (Or.inl state)
  unfold gpdCommissioningChannelRequestStateMachine
  simp only
  split_ifs
  · refine ((flags _ ?_).trans (iterate_searches (sweep_searches b _) _ _)).trans
      (searches_same rfl (Or.inl rfl))
    rfl
  · refine ((flags _ ?_).trans (rxChannelRequests_searches b _ _)).trans
      (searches_same rfl (Or.inl rfl))
    rfl
  · exact flags _ rfl

theorem bidirCommissioning_searches (fits : RequestFits b) (s : Device) :
    Searches s (gpdBidirCommissioningStateMachine b s) := by
  unfold gpdBidirCommissioningStateMachine
  split_ifs
  · exact appDescription_searches fits s
  · exact searches_same rfl (Or.inl rfl)
  · exact (sendCommissioningRequest_searches fits s).trans (searches_same rfl (Or.inl rfl))
  · exact searches_same rfl (Or.inr (Or.inl rfl))

theorem undirCommissioning_searches (fits : RequestFits b) (s : Device) :
    Searches s (sendUndirCommissioningRequest b s) := by
  have sent : Searches s (if b.appDescriptionFollows = true then
      gpdCommissioningStateMachineWithAppDescription b s else sendCommissioningRequest b s) := by
    split_ifs
    · exact appDescription_searches fits s
    · exact sendCommissioningRequest_searches fits s
  exact sent.trans (searches_same rfl (Or.inl rfl))

theorem send_once (b : Build) (frameType : UInt8) {payload : List UInt8}
    (short : payload.length ≤ srcIdMaxPayloadSize) (s : Device) :
    ∃ new, (emberAfGpdfSend b frameType payload cmdResendNumber s).log = new ++ s.log ∧
      Puts new [(frameType, payload)] := by
  obtain ⟨new, log, puts⟩ := send_puts b frameType payload cmdResendNumber s
  rw [List.take_of_length_le short] at puts
  exact ⟨new, log, puts⟩

/-- The round of a send command. -/
theorem toggle_round (b : Build)
    (request : s.gpdNode.gpdState = appStateOperationalCommandRequest) :
    (∃ new, (stateSwitch b s).log = new ++ s.log ∧ Puts new [toggleFrame]) ∧
      (stateSwitch b s).gpdNode.gpdState = appStateOperational := by
  have switched : stateSwitch b s = emberGpdSetState appStateOperational (sendToggle b s) := by
    unfold stateSwitch
    rw [request]
    rfl
  obtain ⟨new, log, puts⟩ := send_once b nwkFcFrameTypeData
    (by decide : [cmdToggle].length ≤ srcIdMaxPayloadSize) s
  have set : ∀ e ∈ [Event.setState appStateOperational], IsSilent e := by simp [IsSilent]
  rw [switched]
  refine ⟨⟨[.setState appStateOperational] ++ new, ?_, puts.silent set⟩, rfl⟩
  exact congrArg (Event.setState appStateOperational :: ·) log

theorem commission_searches (fits : RequestFits b) (s : Device)
    (unreplied : ¬ (b.bidirCapable = true ∧
      s.gpdNode.gpdState = appStateCommissioningReplyReceived)) :
    Searches s (emberGpdAfPluginCommission b s) := by
  unfold emberGpdAfPluginCommission
  split_ifs with bidir request received replied
  · exact channelRequest_searches b s
  · exact bidirCommissioning_searches fits s
  · exact absurd ⟨bidir, replied⟩ unreplied
  · exact Searches.refl s
  · exact undirCommissioning_searches fits s

/-- The round after a reply. -/
theorem success_round (bidir : b.bidirCapable = true)
    (replied : s.gpdNode.gpdState = appStateCommissioningReplyReceived) :
    (∃ new, (stateSwitch b s).log = new ++ s.log ∧
      Puts new [(nwkFcFrameTypeData, [cmdCommissioningSuccess])]) ∧
    ((stateSwitch b s).gpdNode.gpdState = appStateCommissioningSuccessRequest ∨
      Searching (stateSwitch b s).gpdNode.gpdState) := by
  have switched : stateSwitch b s =
      sendSuccess b (emberGpdSetState appStateCommissioningSuccessRequest s) := by
    unfold stateSwitch emberGpdAfPluginCommission
    rw [if_pos bidir, replied]
    rfl
  obtain ⟨new, log, puts⟩ := send_once b nwkFcFrameTypeData
    (by decide : [cmdCommissioningSuccess].length ≤ srcIdMaxPayloadSize)
    (emberGpdSetState appStateCommissioningSuccessRequest s)
  have set : ∀ e ∈ [Event.setState appStateCommissioningSuccessRequest], IsSilent e := by
    simp [IsSilent]
  rw [switched]
  refine ⟨⟨new ++ [.setState appStateCommissioningSuccessRequest], ?_, ?_⟩,
    send_state b _ _ _ _⟩
  · rw [List.append_assoc]
    exact log
  · exact (puts_silent set).append puts

structure OtherRound (s s' : Device) : Prop where
  frames : ∃ new sent, s'.log = new ++ s.log ∧ Puts new sent ∧ toggleFrame ∉ sent
  state : s'.gpdNode.gpdState ≠ appStateOperationalCommandRequest

theorem Searches.otherRound (h : Searches s s')
    (other : s.gpdNode.gpdState ≠ appStateOperationalCommandRequest) : OtherRound s s' := by
  refine ⟨h.frames, ?_⟩
  rcases h.state with same | searching
  · rwa [same]
  · rcases searching with st | st | st | st <;> rw [st] <;> decide

theorem other_round (fits : RequestFits b)
    (other : s.gpdNode.gpdState ≠ appStateOperationalCommandRequest) :
    OtherRound s (stateSwitch b s) := by
  by_cases replied : b.bidirCapable = true ∧
      s.gpdNode.gpdState = appStateCommissioningReplyReceived
  · obtain ⟨⟨new, log, puts⟩, state⟩ := success_round replied.1 replied.2
    refine ⟨⟨new, _, log, puts, by decide⟩, ?_⟩
    rcases state with st | st | st | st | st <;> rw [st] <;> decide
  have commission := (commission_searches fits s replied).otherRound other
  unfold stateSwitch
  simp only
  split_ifs with commissioning success invalid
  · exact commission
  · exact ⟨⟨[.setState appStateOperational], [], rfl, puts_silent (by simp [IsSilent]),
      List.not_mem_nil⟩, show appStateOperational ≠ _ by decide⟩
  · obtain ⟨new, log, puts⟩ := send_once b nwkFcFrameTypeData
      (by decide : [cmdDecommissioning].length ≤ srcIdMaxPayloadSize) s
    obtain ⟨origin, image, saved⟩ : ∃ origin image, (emberGpdAfPluginDeCommission b s).log =
        [.flashSave origin image, .decommissioned] ++ (emberAfGpdfSend b nwkFcFrameTypeData
          [cmdDecommissioning] cmdResendNumber s).log := ⟨_, _, rfl⟩
    rw [log, ← List.append_assoc] at saved
    exact ⟨⟨_, _, saved, puts.silent (by simp [IsSilent]), by decide⟩,
      show appStateNotCommissioned ≠ _ by decide⟩
  · exact (Searches.refl s).otherRound other

def IsChannelRequest (frame : UInt8 × List UInt8) : Prop :=
  frame.1 = nwkFcFrameTypeMaint ∧ frame.2.head? = some cmdChannelRqst

def Requested (s s' : Device) : Prop := ∃ new sent, s'.log = new ++ s.log ∧ Puts new sent ∧
  toggleFrame ∉ sent ∧ ∃ frame ∈ sent, IsChannelRequest frame

theorem Requested.searches (h : Requested s s') (h' : Searches s' s'') : Requested s s'' := by
  obtain ⟨new, sent, log, puts, other, frame, mem, request⟩ := h
  obtain ⟨new', sent', log', puts', other'⟩ := h'.frames
  refine ⟨new' ++ new, sent' ++ sent, ?_, puts.append puts', ?_, frame,
    List.mem_append_right _ mem, request⟩
  · rw [log', log, List.append_assoc]
  · rw [List.mem_append, not_or]
    exact ⟨other', other⟩

theorem requestOnChannel_requested (b : Build) (channel : UInt8) (s : Device) :
    Requested s (requestOnChannel b channel s) := by
  obtain ⟨new, log, puts⟩ := send_once b nwkFcFrameTypeMaint
    (by decide : [cmdChannelRqst, (nextRxChannel - 11) +
      ((secondNextRxChannel - 11) <<< (4 : UInt8))].length ≤ srcIdMaxPayloadSize)
    { s with gpdNode.channel := channel }
  exact ⟨new, _, log, puts, by decide, _, List.mem_singleton_self _, rfl, rfl⟩

/-- At least one channel request is configured for either way of requesting. -/
structure Requesting (b : Build) : Prop where
  bidir : b.bidirCapable = true
  channels : b.appChannelSet ≠ []
  sweeps : b.numberOfChannelRequestPerChannelWithAcSet ≠ 0
  requests : b.numberOfChannelRequestPerChannel ≠ 0

/-- Only the logs matter. -/
theorem Requested.between {t t' : Device} (h : Requested t t') (before : t.log = s.log)
    (after : t'.log = s'.log) : Requested s s' := by
  unfold Requested
  rw [← before, ← after]
  exact h

theorem sweeps_requested (requesting : Requesting b) (s : Device) : Requested s
    ((fun s => b.appChannelSet.foldl (fun s channel => requestOnChannel b channel s) s)^[
      b.numberOfChannelRequestPerChannelWithAcSet] s) := by
  obtain ⟨channel, channels, set⟩ := List.exists_cons_of_ne_nil requesting.channels
  obtain ⟨n, sweeps⟩ := Nat.exists_eq_succ_of_ne_zero requesting.sweeps
  have first : Requested s
      (b.appChannelSet.foldl (fun s channel => requestOnChannel b channel s) s) := by
    rw [set, List.foldl_cons]
    exact (requestOnChannel_requested b channel s).searches (sweep_searches b channels _)
  rw [sweeps, Function.iterate_succ_apply]
  exact first.searches (iterate_searches (sweep_searches b _) n _)

theorem rxChannelRequests_requested {n : ℕ} (some : n ≠ 0)
    (unheard : s.gpdNode.gpdState ≠ appStateChannelReceived) :
    Requested s (rxChannelRequests b n s) := by
  obtain ⟨n, rfl⟩ := Nat.exists_eq_succ_of_ne_zero some
  unfold rxChannelRequests
  rw [if_neg unheard]
  exact (requestOnChannel_requested b _ s).searches (rxChannelRequests_searches b n _)

theorem request_round (requesting : Requesting b)
    (request : s.gpdNode.gpdState = appStateChannelRequest)
    (substate : s.chReqSubstate ≤ chReqOnRxChannel) : Requested s (stateSwitch b s) := by
  have unheard : s.gpdNode.gpdState ≠ appStateChannelReceived := by
    rw [request]
    decide
  rw [stateSwitch_channelRequest requesting.bidir request]
  unfold gpdCommissioningChannelRequestStateMachine
  simp only
  by_cases first : s.chReqSubstate = chReqOnAllChannels
  · rw [if_pos first]
    exact (sweeps_requested requesting { s with gpdNode :=
      { s.gpdNode with
        securityLevel := securityLevelNone
        securityKeyType := securityKeyTypeNoKey
        skipCca := true
        rxAfterTx := 0
        autoCommissioning := true } }).between rfl rfl
  · have second : s.chReqSubstate = chReqOnRxChannel := by
      have bound : s.chReqSubstate.toNat ≤ 1 := UInt8.le_iff_toNat_le.mp substate
      have other : s.chReqSubstate.toNat ≠ 0 := fun zero => first (UInt8.toNat_inj.mp zero)
      apply UInt8.toNat_inj.mp
      change _ = 1
      omega
    rw [if_neg first, if_pos second]
    exact (rxChannelRequests_requested (b := b) (s := { s with gpdNode :=
      { s.gpdNode with
        securityLevel := securityLevelNone
        securityKeyType := securityKeyTypeNoKey
        skipCca := true
        rxAfterTx := 1
        autoCommissioning := false } }) requesting.requests unheard).between rfl rfl

/-- The frames of a round, by the state it begins in. -/
theorem round_frames (requesting : Requesting b) (fits : RequestFits b)
    (substate : s.chReqSubstate ≤ chReqOnRxChannel) :
    ∃ new sent, (stateSwitch b s).log = new ++ s.log ∧ Puts new sent ∧
      (s.gpdNode.gpdState = appStateOperationalCommandRequest → sent = [toggleFrame]) ∧
      (s.gpdNode.gpdState ≠ appStateOperationalCommandRequest → toggleFrame ∉ sent) ∧
      (s.gpdNode.gpdState = appStateChannelRequest → ∃ frame ∈ sent, IsChannelRequest frame) := by
  by_cases send : s.gpdNode.gpdState = appStateOperationalCommandRequest
  · obtain ⟨⟨new, log, puts⟩, -⟩ := toggle_round b send
    have other : s.gpdNode.gpdState ≠ appStateChannelRequest := by
      rw [send]
      decide
    exact ⟨new, _, log, puts, fun _ => rfl, fun h => absurd send h, fun h => absurd h other⟩
  by_cases request : s.gpdNode.gpdState = appStateChannelRequest
  · obtain ⟨new, sent, log, puts, free, asked⟩ := request_round requesting request substate
    exact ⟨new, sent, log, puts, fun h => absurd h send, fun _ => free, fun _ => asked⟩
  · obtain ⟨new, sent, log, puts, free⟩ := (other_round fits send).frames
    exact ⟨new, sent, log, puts, fun h => absurd h send, fun _ => free, fun h => absurd h request⟩

theorem round_state (fits : RequestFits b) :
    (stateSwitch b s).gpdNode.gpdState ≠ appStateOperationalCommandRequest := by
  by_cases send : s.gpdNode.gpdState = appStateOperationalCommandRequest
  · rw [(toggle_round b send).2]
    decide
  · exact (other_round fits send).state

end

end GreenPower.FramesOnAir
