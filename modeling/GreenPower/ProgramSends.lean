import GreenPower.FramesOnAir
import GreenPower.PowerCycle

set_option autoImplicit false

/-!
The program as a sequence of sends with nothing of the radio between them. `perform_sends` is
the only place where its control flow is looked at.
-/
namespace GreenPower.ProgramSends
open MemoryArray BuildOptions DeviceState Security NonVolatile FrameBuild IncomingCommand
  IncomingMessage ReceiveOutcome SendReceive CommissioningCommand Commissioning GpdTask DeviceSteps
  FramesOnAir PowerCycle
open Relation (ReflTransGen)

def OnRadio : Event → Prop
  | .txFifo _ _ _ _ => True
  | .startTx _ _ _ => True
  | .startRx _ _ => True
  | _ => False

theorem Heard.offRadio {e : Event} (h : Heard e) : ¬ OnRadio e := by
  have unsent := h.ofSend
  cases e <;> first | exact id | cases unsent

theorem updateFrameCounter_offRadio (b : Build) (s : Device) : ∃ new c,
    (updateFrameCounter b s).log = new ++ s.log ∧ (∀ e ∈ new, ¬ OnRadio e) ∧
      (updateFrameCounter b s).gpdNode = { s.gpdNode with securityFrameCounter := c } := by
  unfold updateFrameCounter
  cases b.macSeq with
  | incremental => exact ⟨[_], _, rfl, by simp [OnRadio], rfl⟩
  | random => exact ⟨[], _, rfl, by simp, rfl⟩

theorem secureEvents_offRadio (frameType : UInt8) (s : Device) :
    ∀ e ∈ secureEvents frameType s, ¬ OnRadio e := by
  intro e he
  obtain ⟨_, _, _, _, rfl⟩ := secureEvents_mem he
  exact id

def Linked (gpd : EmberGpd) : Prop := gpd.rxAfterTx ≠ 0 ↔ gpd.autoCommissioning = false

def Tame (gpd : EmberGpd) : Prop :=
  gpd.addr.appId = appIdSrcId ∧ gpd.securityLevel ≤ 3 ∧ Flag gpd.rxAfterTx

inductive Move (b : Build) : Device → Device → Prop
  | quiet {s s' : Device} {new : List Event} (log : s'.log = new ++ s.log)
      (off : ∀ e ∈ new, ¬ OnRadio e)
      (tame : Tame s.gpdNode → Tame s'.gpdNode) : Move b s s'
  | data (s : Device) (payload : List UInt8) :
      Move b s (emberAfGpdfSend b nwkFcFrameTypeData payload cmdResendNumber s)
  | maint (s : Device) (payload : List UInt8) (linked : Linked s.gpdNode) :
      Move b s (emberAfGpdfSend b nwkFcFrameTypeMaint payload cmdResendNumber s)

abbrev Moves (b : Build) : Device → Device → Prop := ReflTransGen (Move b)

section
variable {b : Build} {s s' : Device}

theorem Tame.radio (step : RadioStep s s') (h : Tame s.gpdNode) : Tame s'.gpdNode := by
  cases step with
  | arrival quiet arrivals =>
    rw [quiet.gpdNode]
    exact h
  | reaction r s range =>
    cases r with
    | replyAccepted newKey level keyType => exact ⟨h.1, range.1, h.2.2⟩
    | _ => exact h
  | _ => exact h

theorem radio_tame (run : ReflTransGen RadioStep s s') (h : Tame s.gpdNode) : Tame s'.gpdNode :=
  EventLog.star_preserves (I := fun s => Tame s.gpdNode) (fun _ _ step h => h.radio step) run h

theorem send_tame (frameType : UInt8) (payload : List UInt8) (times : ℕ) (h : Tame s.gpdNode) :
    Tame (emberAfGpdfSend b frameType payload times s).gpdNode := by
  obtain ⟨c, composed⟩ := compose_gpdNode b frameType (payload.take srcIdMaxPayloadSize) s
  refine radio_tame (emberAfGpdfSend_radio b frameType payload times s) ?_
  rw [composed]
  exact h

theorem Move.tame (move : Move b s s') (h : Tame s.gpdNode) : Tame s'.gpdNode := by
  cases move with
  | quiet log off tame => exact tame h
  | data payload => exact send_tame _ _ _ h
  | maint payload linked => exact send_tame _ _ _ h

theorem Moves.tame (moves : Moves b s s') (h : Tame s.gpdNode) : Tame s'.gpdNode :=
  EventLog.star_preserves (I := fun s => Tame s.gpdNode) (fun _ _ move h => move.tame h) moves h

theorem moves_same (log : s'.log = s.log) (tame : Tame s.gpdNode → Tame s'.gpdNode) :
    Moves b s s' :=
  .single (.quiet (show s'.log = [] ++ s.log from log) (fun _ none => nomatch none) tame)

theorem moves_record {e : Event} (log : s'.log = e :: s.log) (off : ¬ OnRadio e)
    (tame : Tame s.gpdNode → Tame s'.gpdNode) : Moves b s s' :=
  .single (.quiet (log : s'.log = [e] ++ s.log) (List.forall_mem_singleton.mpr off) tame)

theorem store_moves (s : Device) : Moves b s (emberGpdStoreSecDataToNV s) :=
  moves_record rfl id id

theorem setState_moves (gpdState : ApplicationState) (s : Device) :
    Moves b s (emberGpdSetState gpdState s) :=
  moves_record rfl id id

theorem receive_moves (packet : List UInt8) (s : Device) : Moves b s (railCbGeneric b packet s) := by
  obtain ⟨new, log, heard⟩ := handler_heard b { s with rxMpdu := s.rxMpdu.store 0 packet }
  exact .single (.quiet log (fun e he => Heard.offRadio (heard e he))
    (radio_tame (railCbGeneric_radio b packet s)))

variable (b)

theorem sendCommissioningRequest_moves (s : Device) :
    Moves b s (sendCommissioningRequest b s) := by
  have cleared : Moves b s { s with gpdNode.securityLevel := securityLevelNone } :=
    moves_same rfl (fun h => ⟨h.1, UInt8.zero_le, h.2.2⟩)
  obtain ⟨nonceTx, ccmKey, device⟩ :=
    AttemptLockstep.built_device b { s with gpdNode.securityLevel := securityLevelNone }
  rw [AttemptLockstep.sendCommissioningRequest_eq]
  simp only
  rw [device]
  have built : Moves b { s with gpdNode.securityLevel := securityLevelNone }
      { s with gpdNode.securityLevel := securityLevelNone, nonceTx := nonceTx, ccmKey := ccmKey } :=
    moves_same rfl id
  exact (cleared.trans built).tail (.data _ _)

theorem iterate_moves {f : Device → Device} (h : ∀ s, Moves b s (f s)) (n : ℕ) (s : Device) :
    Moves b s (f^[n] s) := by
  induction n generalizing s with
  | zero => exact .refl
  | succ n ih =>
    rw [Function.iterate_succ_apply]
    exact (h s).trans (ih _)

theorem linked_kept : Kept Linked := ⟨fun r _ => by cases r <;> rfl, fun _ _ => rfl⟩

/-- A channel request leaves the flags as they are. -/
theorem requestOnChannel_linked (channel : UInt8) (linked : Linked s.gpdNode) :
    Moves b s (requestOnChannel b channel s) ∧ Linked (requestOnChannel b channel s).gpdNode := by
  have set : Moves b s { s with gpdNode.channel := channel } := moves_same rfl id
  have kept := emberAfGpdfSend_kept linked_kept b nwkFcFrameTypeMaint
    [cmdChannelRqst, (nextRxChannel - 11) + ((secondNextRxChannel - 11) <<< (4 : UInt8))]
    cmdResendNumber { s with gpdNode.channel := channel }
  exact ⟨set.tail (.maint _ _ linked), kept.mpr linked⟩

theorem sweep_moves (s : Device) :
    Moves b s (gpdCommissioningChannelRequestStateOnAllChannel b s) := by
  have round (channels : List UInt8) (s : Device) (linked : Linked s.gpdNode) :
      Moves b s (channels.foldl (fun s channel => requestOnChannel b channel s) s) ∧
        Linked (channels.foldl (fun s channel => requestOnChannel b channel s) s).gpdNode := by
    induction channels generalizing s with
    | nil => exact ⟨.refl, linked⟩
    | cons channel channels ih =>
      obtain ⟨first, linked⟩ := requestOnChannel_linked b channel linked
      obtain ⟨rest, linked⟩ := ih _ linked
      exact ⟨first.trans rest, linked⟩
  have rounds (n : ℕ) (s : Device) (linked : Linked s.gpdNode) : Moves b s
      ((fun s => b.appChannelSet.foldl (fun s channel => requestOnChannel b channel s) s)^[n] s) := by
    induction n generalizing s with
    | zero => exact .refl
    | succ n ih =>
      obtain ⟨first, linked⟩ := round b.appChannelSet s linked
      rw [Function.iterate_succ_apply]
      exact first.trans (ih _ linked)
  have flags : Moves b s
      { s with gpdNode := { s.gpdNode with rxAfterTx := 0, autoCommissioning := true } } :=
    moves_same rfl (fun h => ⟨h.1, h.2.1, Or.inl rfl⟩)
  exact flags.trans (rounds _ _ (by simp [Linked]))

theorem rxChannelRequests_moves (n : ℕ) (s : Device) (linked : Linked s.gpdNode) :
    Moves b s (rxChannelRequests b n s) := by
  induction n generalizing s with
  | zero => exact moves_same rfl id
  | succ n ih =>
    unfold rxChannelRequests
    split_ifs
    · exact .refl
    · obtain ⟨first, linked⟩ := requestOnChannel_linked b nextRxChannel linked
      exact first.trans (ih _ linked)

theorem channelRequest_moves (s : Device) :
    Moves b s (gpdCommissioningChannelRequestStateMachine b s) := by
  have cleared : Moves b s { s with gpdNode :=
      { s.gpdNode with
        securityLevel := securityLevelNone
        securityKeyType := securityKeyTypeNoKey
        skipCca := true } } := moves_same rfl (fun h => ⟨h.1, UInt8.zero_le, h.2.2⟩)
  unfold gpdCommissioningChannelRequestStateMachine
  simp only
  split_ifs
  · exact (cleared.trans (sweep_moves b _)).trans (moves_same rfl id)
  · refine (cleared.trans (.trans ?_ (rxChannelRequests_moves b _ _ ?_))).trans (moves_same rfl id)
    · exact moves_same rfl (fun h => ⟨h.1, h.2.1, Or.inr rfl⟩)
    · simp [Linked]
  · exact cleared

theorem sendApplicationDescriptionCommand_moves (s : Device) :
    Moves b s (sendApplicationDescriptionCommand b s).2 := by
  have taken : Moves b s { s with descriptions := s.descriptions.tail } := moves_same rfl id
  unfold sendApplicationDescriptionCommand gpdBuildCommissioningApplicationDescriptionCommand
    emberGpdAfPluginGetApplicationDescriptionCallback
  simp only
  refine ReflTransGen.tail ?_ (.data _ _)
  split_ifs
  · exact taken.trans (moves_same rfl (fun h => ⟨h.1, h.2.1, Or.inr rfl⟩))
  · exact taken.trans (moves_same rfl (fun h => ⟨h.1, h.2.1, Or.inl rfl⟩))
  · exact taken

theorem finalRequests_moves (n : ℕ) (s : Device) : Moves b s (finalRequests b n s).2 := by
  induction n generalizing s with
  | zero => exact .refl
  | succ n ih =>
    unfold finalRequests
    split_ifs
    · exact .refl
    · exact (sendApplicationDescriptionCommand_moves b s).trans (ih _)

theorem appDescription_moves (s : Device) :
    Moves b s (gpdCommissioningStateMachineWithAppDescription b s) := by
  have sent := sendApplicationDescriptionCommand_moves b s
  have final := finalRequests_moves b b.numberOfCommissioningRequest.toNat s
  unfold gpdCommissioningStateMachineWithAppDescription
  simp only
  split_ifs
  · have cleared : Moves b s { s with gpdNode.rxAfterTx := 0 } :=
      moves_same rfl (fun h => ⟨h.1, h.2.1, Or.inl rfl⟩)
    exact (cleared.trans (iterate_moves b (sendCommissioningRequest_moves b) _ _)).trans
      (moves_same rfl id)
  · exact sent.trans (moves_same rfl id)
  · exact sent
  · exact final.trans (moves_same rfl id)
  · exact final.trans (moves_same rfl id)
  · exact moves_same rfl id

theorem bidirCommissioning_moves (s : Device) :
    Moves b s (gpdBidirCommissioningStateMachine b s) := by
  unfold gpdBidirCommissioningStateMachine
  split_ifs
  · exact appDescription_moves b s
  · exact moves_same rfl id
  · exact (sendCommissioningRequest_moves b s).trans (moves_same rfl id)
  · exact moves_same rfl id

theorem undirCommissioning_moves (s : Device) (level : s.gpdNode.securityLevel ≤ 3) :
    Moves b s (sendUndirCommissioningRequest b s) := by
  have sent : Moves b s (if b.appDescriptionFollows = true then
      gpdCommissioningStateMachineWithAppDescription b s else sendCommissioningRequest b s) := by
    split_ifs
    · exact appDescription_moves b s
    · exact sendCommissioningRequest_moves b s
  exact sent.trans (moves_same rfl (fun h => ⟨h.1, level, h.2.2⟩))

theorem commission_moves (s : Device) (level : s.gpdNode.securityLevel ≤ 3) :
    Moves b s (emberGpdAfPluginCommission b s) := by
  unfold emberGpdAfPluginCommission
  split_ifs
  · exact channelRequest_moves b s
  · exact bidirCommissioning_moves b s
  · exact (setState_moves _ s).tail (.data _ _)
  · exact .refl
  · exact undirCommissioning_moves b s level

theorem deCommission_moves (low : b.securityLevel ≤ 3) (s : Device) :
    Moves b s (emberGpdAfPluginDeCommission b s) := by
  have sent : Moves b s
      (emberAfGpdfSend b nwkFcFrameTypeData [cmdDecommissioning] cmdResendNumber s) :=
    .single (.data _ _)
  have loaded (t : Device) :
      Moves b t ((emberGpdLoadGpdDefaultConfiguration b t).record .decommissioned) :=
    moves_record rfl id (fun _ => ⟨rfl, low, flag_booted b⟩)
  exact (sent.trans (loaded _)).trans (store_moves _)

theorem stateSwitch_moves (low : b.securityLevel ≤ 3) (s : Device)
    (level : s.gpdNode.securityLevel ≤ 3) : Moves b s (stateSwitch b s) := by
  unfold stateSwitch
  simp only
  split_ifs
  · exact commission_moves b s level
  · exact setState_moves _ s
  · exact (ReflTransGen.single (.data s _)).trans (setState_moves _ _)
  · exact deCommission_moves b low s
  · exact .refl

def OfProgram : Action → Prop
  | .transmit _ _ _ _ _ => False
  | _ => True

theorem perform_moves (low : b.securityLevel ≤ 3) (s : Device) (tame : Tame s.gpdNode) {a : Action}
    (own : OfProgram a) : Moves b s (perform b s a) := by
  cases a with
  | command id =>
    cases id with
    | commission => exact setState_moves _ s
    | decommission => exact .refl
    | send => exact setState_moves _ s
  | stack air randoms descriptions =>
    have heard : Moves b s { s with air := air, randoms := randoms, descriptions := descriptions } :=
      moves_same rfl id
    exact (heard.trans (stateSwitch_moves b low _ tame.2.1)).trans (store_moves _)
  | transmit => exact own.elim
  | receive packet => exact receive_moves packet s
  | store => exact store_moves s

theorem performs_moves (low : b.securityLevel ≤ 3) (s : Device) (tame : Tame s.gpdNode)
    (actions : List Action) (own : ∀ a ∈ actions, OfProgram a) :
    Moves b s (actions.foldl (perform b) s) := by
  induction actions generalizing s with
  | nil => exact .refl
  | cons a actions ih =>
    have first := perform_moves b low s tame (own a List.mem_cons_self)
    exact first.trans
      (ih _ (Moves.tame first tame) (fun a' member => own a' (List.mem_cons_of_mem a member)))

end

end GreenPower.ProgramSends
