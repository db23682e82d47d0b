import GreenPower.EventLog
import GreenPower.ReceptionRecord
import GreenPower.GpdTask

set_option autoImplicit false

/-!
The elementary changes an action is made of. `RadioStep` is what can happen once a frame is
in the radio's FIFO, `Step` everything else; an invariant is proved per constructor and then
holds after every action. An `Act` keeps a call of `emberAfGpdfSend` whole, and `perform_acts` is
the only place where the control flow of the program is looked at.
-/
namespace GreenPower.DeviceSteps
open MemoryArray BuildOptions DeviceState Security NonVolatile FrameBuild IncomingCommand
  IncomingMessage ReceiveOutcome SendReceive CommissioningCommand Commissioning GpdTask EventLog
open Relation (ReflTransGen)

def frameSent : Event → Option EmberGpd
  | .txFifo _ _ gpd _ => some gpd
  | _ => none

def lastFrame (log : List Event) : Option EmberGpd := log.findSome? frameSent

inductive Arrival : Event → Prop
  | decrypt (authStart encrLength authLength : ℕ) (status : Status) :
      Arrival (.decrypt authStart encrLength authLength status)
  | incomingCommand (start length : ℕ) (command : List UInt8) :
      Arrival (.incomingCommand start length command)

def ofSend : Event → Bool
  | .secure _ _ _ _ => true
  | .txFifo _ _ _ _ => true
  | .startTx _ _ _ => true
  | .startRx _ _ => true
  | _ => false

def sendLog (log : List Event) : List Event := log.filter ofSend

def Loaded (s : Device) : Prop :=
  (lastFrame s.log).map EmberGpd.securityFrameCounter = some s.gpdNode.securityFrameCounter

inductive RadioStep : Device → Device → Prop
  | startTx (s : Device) (loaded : Loaded s) :
      RadioStep s (s.record
        (.startTx s.gpdNode.skipCca s.gpdNode.channel s.gpdNode.securityFrameCounter))
  | startRx (s : Device) (listens : s.gpdNode.rxAfterTx ≠ 0) :
      RadioStep s (s.record (.startRx s.gpdNode.channel (nonce s.nonceRx)))
  | nextWindow (s : Device) (air : List (List (List UInt8))) : RadioStep s { s with air := air }
  | arrival {size : ℕ} {new : List Event} {s s' : Device} (quiet : Quiet size new s s')
      (arrivals : ∀ e ∈ new, Arrival e) : RadioStep s s'
  | reaction (r : Reaction) (s : Device) (range : r.InRange) : RadioStep s (react r s)

inductive Step (b : Build) (d : Device) : Device → Device → Prop
  | radio {s s' : Device} (step : RadioStep s s') : Step b d s s'
  | environment (s : Device) (air : List (List (List UInt8))) (randoms : List UInt32)
      (descriptions : List (List UInt8 × Bool)) :
      Step b d s { s with air := air, randoms := randoms, descriptions := descriptions }
  | compose (s : Device) (frameType : UInt8) (payload : List UInt8) :
      Step b d s (writeTxFifo b frameType payload (updateFrameCounter b s))
  | store (s : Device) : Step b d s (emberGpdStoreSecDataToNV s)
  | sweepFlags (s : Device) :
      Step b d s { s with gpdNode := { s.gpdNode with rxAfterTx := 0, autoCommissioning := true } }
  | windowFlags (s : Device) :
      Step b d s { s with gpdNode := { s.gpdNode with rxAfterTx := 1, autoCommissioning := false } }
  | descriptionFlag (s : Device) (last : Bool) (follows : b.appDescriptionFollows = true) :
      Step b d s { s with gpdNode.rxAfterTx := if last then 1 else 0 }
  | channel (s : Device) (channel : UInt8)
      (listed : channel ∈ b.appChannelSet ∨ channel = nextRxChannel) :
      Step b d s { s with gpdNode.channel := channel }
  | clearSecurity (s : Device) :
      Step b d s { s with gpdNode :=
        { s.gpdNode with
          securityLevel := securityLevelNone
          securityKeyType := securityKeyTypeNoKey
          skipCca := true } }
  | clearLevel (s : Device) : Step b d s { s with gpdNode.securityLevel := securityLevelNone }
  | restoreLevel (s : Device) :
      Step b d s (emberGpdMbedtlsCcmSetkeyWraper s.gpdNode.securityKey
        { s with gpdNode.securityLevel := d.gpdNode.securityLevel })
  | encryptKey (s : Device) (oobKey : Key) (level : s.gpdNode.securityLevel = securityLevelNone) :
      Step b d s (emberGpdSecurityEncryptKey b s.gpdNode.addr oobKey s).2.2
  | requestCount (s : Device) (count : UInt8) (plain : ¬ b.appDescriptionFollows = true)
      (bound : count = 0 ∨ ∃ c < b.numberOfCommissioningRequest, count = c + 1) :
      Step b d s { s with gpdNode.currentCommReq := count }
  | channelSubstate (s : Device) (sub : UInt8) (bound : sub ≤ chReqOnRxChannel) :
      Step b d s { s with chReqSubstate := sub }
  | descriptionSubstate (s : Device) (sub : UInt8)
      (follows : b.appDescriptionFollows = true)
      (bound : sub ≤ appDescStepSendAppDescriptionFinalReq) :
      Step b d s { s with applicationDescriptionState := sub }
  | giveUp (s : Device) : Step b d s { s with gpdNode.gpdState := appStateNotCommissioned }
  | requestAgain (s : Device) : Step b d s { s with gpdNode.gpdState := appStateChannelRequest }
  | command (s : Device) (gpdState : ApplicationState)
      (known : gpdState = appStateChannelRequest ∨ gpdState = appStateOperationalCommandRequest) :
      Step b d s (emberGpdSetState gpdState s)
  | successRequest (s : Device)
      (replied : d.gpdNode.gpdState = appStateCommissioningReplyReceived) :
      Step b d s (emberGpdSetState appStateCommissioningSuccessRequest s)
  | operational (s : Device) (done : d.gpdNode.gpdState = appStateCommissioningSuccessRequest ∨
      d.gpdNode.gpdState = appStateOperationalCommandRequest) :
      Step b d s (emberGpdSetState appStateOperational s)
  | loadDefaults (s : Device) (invalid : d.gpdNode.gpdState = appStateInvalid) :
      Step b d s ((emberGpdLoadGpdDefaultConfiguration b s).record .decommissioned)

abbrev Steps (b : Build) (d : Device) : Device → Device → Prop := ReflTransGen (Step b d)

/-- One act of the program: a whole call of `emberAfGpdfSend`, a packet handled outside its
windows, or an elementary change that is neither. -/
inductive Act (b : Build) (d : Device) : Device → Device → Prop
  | aside {s s' : Device} (step : Step b d s s') (silent : sendLog s'.log = sendLog s.log) :
      Act b d s s'
  | receive (packet : List UInt8) (s : Device) : Act b d s (railCbGeneric b packet s)
  | send (frameType : UInt8) (payload : List UInt8) (repeatNumber : ℕ) (s : Device) :
      Act b d s (emberAfGpdfSend b frameType payload repeatNumber s)

abbrev Acts (b : Build) (d : Device) : Device → Device → Prop := ReflTransGen (Act b d)

theorem arrival_of_receptionEvents (b : Build) (s : Device) :
    ∀ e ∈ receptionEvents b s, Arrival e := by
  intro e he
  simp only [receptionEvents, payloadEvents, securityEvents, commandEvent, decryptEvent] at he
  split_ifs at he <;> simp only [List.mem_append, List.mem_cons, List.not_mem_nil, or_false,
    false_or] at he <;> rcases he with rfl | rfl <;> constructor

theorem railCbGeneric_radio (b : Build) (packet : List UInt8) (s : Device) :
    ReflTransGen RadioStep s (railCbGeneric b packet s) := by
  obtain ⟨size, s', quiet, h⟩ := railCbGeneric_react b packet s
  rw [h]
  exact (ReflTransGen.single (.arrival quiet (arrival_of_receptionEvents b _))).tail
    (.reaction _ s' (frameReaction_inRange b _))

theorem window_radio (b : Build) (window : List (List UInt8)) (s : Device) :
    ReflTransGen RadioStep s (window.foldl (fun s packet => railCbGeneric b packet s) s) := by
  induction window generalizing s with
  | nil => exact .refl
  | cons packet window ih => exact (railCbGeneric_radio b packet s).trans (ih _)

theorem emberAfGpdScheduledReceive_radio (b : Build) (s : Device)
    (listens : s.gpdNode.rxAfterTx ≠ 0) :
    ReflTransGen RadioStep s (emberAfGpdScheduledReceive b s.gpdNode.channel s) := by
  have start : ReflTransGen RadioStep s _ := .single (.startRx s listens)
  unfold emberAfGpdScheduledReceive
  simp only
  split
  · exact start
  · exact (start.tail (.nextWindow _ _)).trans (window_radio b _ _)

theorem lastFrame_append (new log : List Event) (silent : ∀ e ∈ new, frameSent e = none) :
    lastFrame (new ++ log) = lastFrame log := findSome_append_none frameSent new log silent

theorem Reaction.ofSend (r : Reaction) : ∀ e ∈ r.events, ofSend e = false := by
  intro e he
  rcases ReceptionRecord.reaction_events r e he with ⟨_, rfl⟩ | ⟨_, rfl⟩ | rfl <;> rfl

theorem Arrival.ofSend {e : Event} (h : Arrival e) : ofSend e = false := by
  cases h <;> rfl

theorem frameSent_none {e : Event} (h : ofSend e = false) : frameSent e = none := by
  cases e <;> first | rfl | cases h

theorem Reaction.frameCounter (r : Reaction) (gpd : EmberGpd) :
    (r.gpdNode gpd).securityFrameCounter = gpd.securityFrameCounter := by cases r <;> rfl

theorem RadioStep.loaded {s s' : Device} (step : RadioStep s s') (h : Loaded s) : Loaded s' := by
  cases step with
  | startTx => exact h
  | startRx => exact h
  | nextWindow air => exact h
  | arrival quiet arrivals =>
    unfold Loaded
    rw [quiet.log, lastFrame_append _ _ (fun e he => frameSent_none (arrivals e he).ofSend),
      quiet.gpdNode]
    exact h
  | reaction r range =>
    unfold Loaded
    change (lastFrame (r.events ++ s.log)).map _ = some (r.gpdNode s.gpdNode).securityFrameCounter
    rw [lastFrame_append _ _ (fun e he => frameSent_none (Reaction.ofSend r e he)),
      Reaction.frameCounter]
    exact h

theorem startTx_radio (b : Build) (s : Device) (loaded : Loaded s) :
    ReflTransGen RadioStep s (startTx b s) := by
  have start : ReflTransGen RadioStep s _ := .single (.startTx s loaded)
  unfold startTx
  by_cases listens : s.gpdNode.rxAfterTx ≠ 0
  · rw [if_pos listens]
    exact start.trans (emberAfGpdScheduledReceive_radio b _ listens)
  · rw [if_neg listens]
    exact start

theorem startTx_iterate_radio (b : Build) (n : ℕ) (s : Device) (loaded : Loaded s) :
    ReflTransGen RadioStep s ((startTx b)^[n] s) := by
  induction n generalizing s with
  | zero => exact .refl
  | succ n ih =>
    have first := startTx_radio b s loaded
    rw [Function.iterate_succ_apply]
    exact first.trans (ih _ (star_preserves (fun _ _ step => step.loaded) first loaded))

def secureEvents (frameType : UInt8) (s : Device) : List Event :=
  if frameType = nwkFcFrameTypeData ∧ Secured s.gpdNode.securityLevel then
    [.secure s.gpdNode.securityLevel s.ccmKey s.gpdNode.securityKey (nonce s.nonceTx)]
  else []

theorem secureEvents_mem {frameType : UInt8} {s : Device} {e : Event}
    (member : e ∈ secureEvents frameType s) :
    ∃ level ccmKey securityKey nonce, e = .secure level ccmKey securityKey nonce := by
  unfold secureEvents at member
  split_ifs at member
  · exact ⟨_, _, _, _, List.mem_singleton.mp member⟩
  · cases member

theorem writeTxFifo_eq (b : Build) (frameType : UInt8) (payload : List UInt8) (s : Device) :
    ∃ mpdu frame, writeTxFifo b frameType payload s =
      { s with
        txMpdu := mpdu
        log := .txFifo frameType payload s.gpdNode frame :: (secureEvents frameType s ++ s.log) } := by
  unfold writeTxFifo secureEvents
  simp only
  split_ifs <;> exact ⟨_, _, rfl⟩

theorem writeTxFifo_loaded (b : Build) (frameType : UInt8) (payload : List UInt8) (s : Device) :
    Loaded (writeTxFifo b frameType payload s) := by
  obtain ⟨mpdu, frame, h⟩ := writeTxFifo_eq b frameType payload s
  rw [h]
  rfl

theorem emberAfGpdfSend_radio (b : Build) (frameType : UInt8) (payload : List UInt8) (n : ℕ)
    (s : Device) : ReflTransGen RadioStep
      (writeTxFifo b frameType (payload.take srcIdMaxPayloadSize) (updateFrameCounter b s))
      (emberAfGpdfSend b frameType payload n s) :=
  startTx_iterate_radio b _ _ (writeTxFifo_loaded b _ _ _)

/-- A field of `gpdNode` that no reception and no counter update touches. -/
structure Kept {α : Type} (field : EmberGpd → α) : Prop where
  reaction : ∀ (r : Reaction) (gpd : EmberGpd), field (r.gpdNode gpd) = field gpd
  counter : ∀ (gpd : EmberGpd) (c : UInt32),
    field { gpd with securityFrameCounter := c } = field gpd

theorem RadioStep.kept {α : Type} {field : EmberGpd → α} (kept : Kept field) {s s' : Device}
    (step : RadioStep s s') : field s'.gpdNode = field s.gpdNode := by
  cases step with
  | startTx => rfl
  | startRx => rfl
  | nextWindow => rfl
  | arrival quiet arrivals => rw [quiet.gpdNode]
  | reaction r range => exact kept.reaction r s.gpdNode

theorem compose_gpdNode (b : Build) (frameType : UInt8) (payload : List UInt8) (s : Device) :
    ∃ c, (writeTxFifo b frameType payload (updateFrameCounter b s)).gpdNode =
      { s.gpdNode with securityFrameCounter := c } := by
  obtain ⟨mpdu, frame, h⟩ := writeTxFifo_eq b frameType payload (updateFrameCounter b s)
  rw [h]
  unfold updateFrameCounter
  cases b.macSeq <;> exact ⟨_, rfl⟩

theorem emberAfGpdfSend_kept {α : Type} {field : EmberGpd → α} (kept : Kept field) (b : Build)
    (frameType : UInt8) (payload : List UInt8) (n : ℕ) (s : Device) :
    field (emberAfGpdfSend b frameType payload n s).gpdNode = field s.gpdNode := by
  obtain ⟨c, composed⟩ := compose_gpdNode b frameType (payload.take srcIdMaxPayloadSize) s
  refine star_preserves (I := fun s' => field s'.gpdNode = field s.gpdNode)
    (fun _ _ step h => (step.kept kept).trans h) (emberAfGpdfSend_radio b frameType payload n s) ?_
  rw [composed]
  exact kept.counter _ c

section
variable (b : Build) (d : Device)

theorem steps_of_radio {s s' : Device} (h : ReflTransGen RadioStep s s') : Steps b d s s' :=
  h.lift id (fun _ _ step => Step.radio step)

theorem send_steps (frameType : UInt8) (payload : List UInt8) (n : ℕ) (s : Device) :
    Steps b d s (emberAfGpdfSend b frameType payload n s) :=
  (ReflTransGen.single (.compose s frameType _)).trans
    (steps_of_radio b d (emberAfGpdfSend_radio b frameType payload n s))

/-- Every act is a run of elementary changes. -/
theorem Act.steps {s s' : Device} (act : Act b d s s') : Steps b d s s' := by
  cases act with
  | aside step silent => exact .single step
  | receive packet => exact steps_of_radio b d (railCbGeneric_radio b packet s)
  | send frameType payload repeatNumber => exact send_steps b d frameType payload repeatNumber s

theorem Acts.steps {s s' : Device} (acts : Acts b d s s') : Steps b d s s' :=
  ReflTransGen.trans_induction_on acts (fun _ => .refl) (fun act => act.steps)
    (fun _ _ first rest => first.trans rest)

theorem send_acts (frameType : UInt8) (payload : List UInt8) (n : ℕ) (s : Device) :
    Acts b d s (emberAfGpdfSend b frameType payload n s) := .single (.send frameType payload n s)

theorem buildCommand_device (present : Bool) (keyType : UInt8) (key : Key) (frameCounter : UInt32)
    (cmd : Mem UInt8) (s : Device) :
    (gpdBuildCommissioningCommand b present keyType key frameCounter cmd s).2 =
      if b.securityLevel > securityLevelNone ∧ present = true ∧ b.keyEncrypt = true then
        (emberGpdSecurityEncryptKey b s.gpdNode.addr key s).2.2
      else s := by
  unfold gpdBuildCommissioningCommand putKey
  by_cases level : b.securityLevel > securityLevelNone <;> cases present <;>
    cases encrypt : b.keyEncrypt <;> simp [level]

theorem sendCommissioningRequest_acts (s : Device) :
    Acts b d s (sendCommissioningRequest b s) := by
  have clear : Acts b d s _ := .single (.aside (.clearLevel s) rfl)
  unfold sendCommissioningRequest
  have build := buildCommand_device b true b.securityKeyType b.key s.gpdNode.securityFrameCounter
    Commissioning.command { s with gpdNode.securityLevel := securityLevelNone }
  simp only
  generalize gpdBuildCommissioningCommand b true b.securityKeyType b.key
    s.gpdNode.securityFrameCounter Commissioning.command
    { s with gpdNode.securityLevel := securityLevelNone } = built at build
  obtain ⟨⟨length, cmd⟩, s'⟩ := built
  simp only at build ⊢
  have built : Acts b d s s' := by
    rw [build]
    split_ifs
    · exact clear.tail (.aside (.encryptKey _ b.key rfl) rfl)
    · exact clear
  exact built.trans (send_acts b d _ _ _ s')

theorem iterate_acts {f : Device → Device} (h : ∀ s, Acts b d s (f s)) (n : ℕ) (s : Device) :
    Acts b d s (f^[n] s) := by
  induction n generalizing s with
  | zero => exact .refl
  | succ n ih =>
    rw [Function.iterate_succ_apply]
    exact (h s).trans (ih _)

theorem requestOnChannel_acts (channel : UInt8)
    (listed : channel ∈ b.appChannelSet ∨ channel = nextRxChannel) (s : Device) :
    Acts b d s (requestOnChannel b channel s) :=
  (ReflTransGen.single (.aside (.channel s channel listed) rfl)).trans (send_acts b d _ _ _ _)

theorem sweep_acts (s : Device) :
    Acts b d s (gpdCommissioningChannelRequestStateOnAllChannel b s) := by
  have round (channels : List UInt8) (listed : ∀ c ∈ channels, c ∈ b.appChannelSet) (s : Device) :
      Acts b d s (channels.foldl (fun s channel => requestOnChannel b channel s) s) := by
    induction channels generalizing s with
    | nil => exact .refl
    | cons channel channels ih =>
      have first := requestOnChannel_acts b d channel
        (Or.inl (listed channel List.mem_cons_self)) s
      exact first.trans (ih (fun c hc => listed c (List.mem_cons_of_mem _ hc)) _)
  exact (ReflTransGen.single (.aside (.sweepFlags s) rfl)).trans
    (iterate_acts b d (round b.appChannelSet (fun _ h => h)) _ _)

theorem rxChannelRequests_acts (n : ℕ) (s : Device) : Acts b d s (rxChannelRequests b n s) := by
  induction n generalizing s with
  | zero => exact .single (.aside (.requestAgain s) rfl)
  | succ n ih =>
    unfold rxChannelRequests
    split_ifs
    · exact .refl
    · exact (requestOnChannel_acts b d _ (Or.inr rfl) s).trans (ih _)

theorem channelRequest_acts (s : Device) :
    Acts b d s (gpdCommissioningChannelRequestStateMachine b s) := by
  have clear : Acts b d s _ := .single (.aside (.clearSecurity s) rfl)
  unfold gpdCommissioningChannelRequestStateMachine
  simp only
  split_ifs
  · exact (clear.trans (sweep_acts b d _)).tail (.aside (.channelSubstate _ _ (by decide)) rfl)
  · refine (clear.trans ((ReflTransGen.single (.aside (.windowFlags _) rfl)).trans
      (rxChannelRequests_acts b d _ _))).tail (.aside (.channelSubstate _ _ (by decide)) rfl)
  · exact clear

theorem sendApplicationDescriptionCommand_acts (follows : b.appDescriptionFollows = true)
    (s : Device) : Acts b d s (sendApplicationDescriptionCommand b s).2 := by
  have taken : Acts b d s { s with descriptions := s.descriptions.tail } :=
    .single (.aside (.environment s s.air s.randoms s.descriptions.tail) rfl)
  unfold sendApplicationDescriptionCommand gpdBuildCommissioningApplicationDescriptionCommand
    emberGpdAfPluginGetApplicationDescriptionCallback
  simp only
  refine ReflTransGen.trans ?_ (send_acts b d _ _ _ _)
  by_cases bidir : b.bidirCapable = true
  · rw [if_pos bidir]
    exact taken.tail (.aside (.descriptionFlag _ _ follows) rfl)
  · rw [if_neg bidir]
    exact taken

theorem finalRequests_acts (follows : b.appDescriptionFollows = true) (n : ℕ) (s : Device) :
    Acts b d s (finalRequests b n s).2 := by
  induction n generalizing s with
  | zero => exact .refl
  | succ n ih =>
    unfold finalRequests
    split_ifs
    · exact .refl
    · exact (sendApplicationDescriptionCommand_acts b d follows s).trans (ih _)

theorem appDescription_acts (follows : b.appDescriptionFollows = true) (s : Device) :
    Acts b d s (gpdCommissioningStateMachineWithAppDescription b s) := by
  have sent := sendApplicationDescriptionCommand_acts b d follows s
  have final := finalRequests_acts b d follows b.numberOfCommissioningRequest.toNat s
  unfold gpdCommissioningStateMachineWithAppDescription
  simp only
  split_ifs
  · refine ((ReflTransGen.single (.aside (.descriptionFlag s false follows) rfl)).trans
      (iterate_acts b d (sendCommissioningRequest_acts b d) _ _)).tail
      (.aside (.descriptionSubstate _ _ follows (by decide)) rfl)
  · exact sent.tail (.aside (.descriptionSubstate _ _ follows (by decide)) rfl)
  · exact sent
  · exact final.tail (.aside (.descriptionSubstate _ _ follows (by decide)) rfl)
  · exact (final.tail (.aside (.giveUp _) rfl)).tail
      (.aside (.descriptionSubstate _ _ follows (by decide)) rfl)
  · exact .single (.aside (.descriptionSubstate s _ follows (by decide)) rfl)

theorem currentCommReq_kept : Kept EmberGpd.currentCommReq :=
  ⟨fun r _ => by cases r <;> rfl, fun _ _ => rfl⟩

theorem rxAfterTx_kept : Kept EmberGpd.rxAfterTx :=
  ⟨fun r _ => by cases r <;> rfl, fun _ _ => rfl⟩

/-- A request changes the security level, the frame counter and what its window brings. -/
theorem sendCommissioningRequest_kept {α : Type} {field : EmberGpd → α} (kept : Kept field)
    (s : Device) : field (sendCommissioningRequest b s).gpdNode =
      field { s.gpdNode with securityLevel := securityLevelNone } := by
  unfold sendCommissioningRequest
  simp only
  rw [emberAfGpdfSend_kept kept, buildCommand_device]
  split_ifs <;> rfl

theorem bidirCommissioning_acts (s : Device) :
    Acts b d s (gpdBidirCommissioningStateMachine b s) := by
  unfold gpdBidirCommissioningStateMachine
  split_ifs with follows more replied
  · exact appDescription_acts b d follows s
  · exact .single (.aside (.requestCount s 0 follows (Or.inl rfl)) rfl)
  · refine (sendCommissioningRequest_acts b d s).tail
      (.aside (.requestCount _ _ follows (Or.inr ⟨_, more, ?_⟩)) rfl)
    rw [sendCommissioningRequest_kept b currentCommReq_kept]
  · exact .single (.aside (.giveUp s) rfl)

theorem undirCommissioning_acts (s : Device)
    (level : s.gpdNode.securityLevel = d.gpdNode.securityLevel) :
    Acts b d s (sendUndirCommissioningRequest b s) := by
  have sent : Acts b d s (if b.appDescriptionFollows = true then
      gpdCommissioningStateMachineWithAppDescription b s else sendCommissioningRequest b s) := by
    split_ifs with follows
    · exact appDescription_acts b d follows s
    · exact sendCommissioningRequest_acts b d s
  unfold sendUndirCommissioningRequest
  rw [level]
  exact sent.tail (.aside (.restoreLevel _) rfl)

theorem commission_acts (s : Device) (same : s.gpdNode = d.gpdNode) :
    Acts b d s (emberGpdAfPluginCommission b s) := by
  unfold emberGpdAfPluginCommission
  split_ifs with bidir request received replied
  · exact channelRequest_acts b d s
  · exact bidirCommissioning_acts b d s
  · exact (ReflTransGen.single (.aside (.successRequest s (same ▸ replied)) rfl)).trans
      (send_acts b d _ _ _ _)
  · exact .refl
  · exact undirCommissioning_acts b d s (by rw [same])

theorem stateSwitch_acts (s : Device) (same : s.gpdNode = d.gpdNode) :
    Acts b d s (stateSwitch b s) := by
  unfold stateSwitch
  simp only
  split_ifs with commissioning success toggle invalid
  · exact commission_acts b d s same
  · exact .single (.aside (.operational s (Or.inl (same ▸ success))) rfl)
  · exact (send_acts b d _ _ _ s).tail (.aside (.operational _ (Or.inr (same ▸ toggle))) rfl)
  · exact ((send_acts b d _ _ _ s).tail (.aside (.loadDefaults _ (same ▸ invalid)) rfl)).tail
      (.aside (.store _) rfl)
  · exact .refl

/-- Every action is made of such acts. -/
theorem perform_acts (s : Device) (a : Action) : Acts b s s (perform b s a) := by
  cases a with
  | command id =>
    cases id with
    | commission => exact .single (.aside (.command s _ (Or.inl rfl)) rfl)
    | decommission => exact .refl
    | send => exact .single (.aside (.command s _ (Or.inr rfl)) rfl)
  | stack air randoms descriptions =>
    have set : Acts b s s _ := .single (.aside (.environment s air randoms descriptions) rfl)
    exact (set.trans (stateSwitch_acts b s _ rfl)).tail (.aside (.store _) rfl)
  | transmit air randoms frameType payload repeatNumber =>
    have set : Acts b s s _ := .single (.aside (.environment s air randoms s.descriptions) rfl)
    exact set.trans (send_acts b s frameType payload repeatNumber _)
  | receive packet => exact .single (.receive packet s)
  | store => exact .single (.aside (.store s) rfl)

theorem stateSwitch_steps (s : Device) (same : s.gpdNode = d.gpdNode) :
    Steps b d s (stateSwitch b s) := (stateSwitch_acts b d s same).steps

/-- Every action is a run of elementary changes. -/
theorem perform_steps (s : Device) (a : Action) : Steps b s s (perform b s a) :=
  (perform_acts b s a).steps

theorem RadioStep.log_suffix {s s' : Device} (step : RadioStep s s') : s.log <:+ s'.log := by
  cases step with
  | startTx => exact List.suffix_cons _ _
  | startRx => exact List.suffix_cons _ _
  | nextWindow => exact List.suffix_rfl
  | arrival quiet arrivals =>
    rw [quiet.log]
    exact List.suffix_append _ _
  | reaction r range => exact List.suffix_append _ _

theorem compose_log_suffix (frameType : UInt8) (payload : List UInt8) (s : Device) :
    s.log <:+ (writeTxFifo b frameType payload (updateFrameCounter b s)).log := by
  obtain ⟨mpdu, frame, eq⟩ := writeTxFifo_eq b frameType payload (updateFrameCounter b s)
  have counted : s.log <:+ (updateFrameCounter b s).log := by
    unfold updateFrameCounter
    cases b.macSeq with
    | incremental => exact List.suffix_cons _ _
    | random => exact List.suffix_rfl
  rw [eq]
  exact (counted.trans (List.suffix_append _ _)).trans (List.suffix_cons _ _)

theorem Step.log_suffix {s s' : Device} (step : Step b d s s') : s.log <:+ s'.log := by
  cases step with
  | radio step => exact step.log_suffix
  | compose frameType payload => exact compose_log_suffix b frameType payload s
  | store => exact List.suffix_cons _ _
  | command => exact List.suffix_cons _ _
  | successRequest => exact List.suffix_cons _ _
  | operational => exact List.suffix_cons _ _
  | loadDefaults => exact List.suffix_cons _ _
  | _ => exact List.suffix_rfl

/-- What no elementary change breaks holds throughout a run of actions. -/
theorem run_preserves {I : Device → Prop} (step : ∀ d s s', Step b d s s' → I s → I s')
    (actions : List Action) {s : Device} (h : I s) : I (actions.foldl (perform b) s) := by
  induction actions generalizing s with
  | nil => exact h
  | cons a actions ih => exact ih (star_preserves (step s) (perform_steps b s a) h)

theorem run_log_suffix (s : Device) (actions : List Action) :
    s.log <:+ (actions.foldl (perform b) s).log :=
  run_preserves b (I := fun s' => s.log <:+ s'.log)
    (fun _ _ _ step h => h.trans (step.log_suffix b _)) actions List.suffix_rfl

end

end GreenPower.DeviceSteps
