import GreenPower.DeviceTwins
import GreenPower.ResponseLoops

set_option autoImplicit false

/-!
Devices with the same core through the commissioning state machines, the iterations of the task
and whole runs.
-/
namespace GreenPower.DeviceTwins
open MemoryArray ByteWord BuildOptions DeviceState Security NonVolatile FrameBuild IncomingCommand
  IncomingMessage SendReceive CommissioningCommand Commissioning GpdTask DeviceSteps RequestPayload
  CompleteFrame Lockstep
open AttemptLockstep (ownAddr requestBytes rested)
open ResponseLoops (described)

section
variable {b : Build} {past past' : List Event}

theorem keeps_requestBuilt : Keeps b past past' (fun s => (AttemptLockstep.built b s).2) := by
  have device (s : Device) : (AttemptLockstep.built b s).2 = _ := buildCommand_device b true
    b.securityKeyType b.key s.gpdNode.securityFrameCounter Commissioning.command s
  rw [funext device]
  refine Carries.ite (fun _ _ _ => rfl) ?_ respects_id
  exact keeps_silent (fun _ => rfl) (fun _ => rfl) (fun _ => rfl) (fun _ => rfl)

theorem keeps_sendCommissioningRequest : Keeps b past past' (sendCommissioningRequest b) := by
  have cleared : Keeps b past past' (fun s => { s with gpdNode.securityLevel := securityLevelNone }) :=
    keeps_gpdNode (fun gpd => { gpd with securityLevel := securityLevelNone }) (fun _ => rfl)
  have sent : Keeps b past past' (fun s => emberAfGpdfSend b nwkFcFrameTypeData (requestBytes b s)
      cmdResendNumber (AttemptLockstep.built b s).2) :=
    Carries.reading (agreed_core (requestBytes b) (fun _ => rfl))
      (fun payload => (keeps_send _ payload _).comp keeps_requestBuilt)
  rw [funext (AttemptLockstep.sendCommissioningRequest_eq b)]
  exact sent.comp cleared

theorem answers_sendApplicationDescriptionCommand :
    Answers (SameCore b past past') (Whole b) (sendApplicationDescriptionCommand b) := by
  have flagged : Keeps b past past' (fun s => (described b s).2) :=
    Carries.ite (fun _ _ _ => rfl)
      (keeps_silent (fun _ => rfl) (fun _ => rfl) (fun _ => rfl) (fun _ => rfl))
      (keeps_silent (fun _ => rfl) (fun _ => rfl) (fun _ => rfl) (fun _ => rfl))
  have sent : Keeps b past past' (fun s => emberAfGpdfSend b nwkFcFrameTypeData (described b s).1
      cmdResendNumber (described b s).2) :=
    Carries.reading (agreed_core (fun s => (described b s).1) (fun _ => rfl))
      (fun payload => (keeps_send _ payload _).comp flagged)
  exact sent.answering (agreed_core (fun s => (s.descriptions.headD stubDescription).2)
    (fun _ => rfl))

theorem answers_finalRequests (n : ℕ) :
    Answers (SameCore b past past') (Whole b) (finalRequests b n) := by
  induction n with
  | zero => exact respects_id.answering (fun _ _ _ => rfl)
  | succ n ih =>
    exact Carries.ite (agreed_core _ (fun _ => rfl)) (respects_id.answering (fun _ _ _ => rfl))
      (ih.comp answers_sendApplicationDescriptionCommand.state)

theorem keeps_descriptionState (sub : UInt8) :
    Keeps b past past' (fun s => { s with applicationDescriptionState := sub }) :=
  keeps_silent (fun _ => rfl) (fun _ => rfl) (fun _ => rfl) (fun _ => rfl)

theorem keeps_gpdState (gpdState : ApplicationState) :
    Keeps b past past' (fun s => { s with gpdNode.gpdState := gpdState }) :=
  keeps_gpdNode (fun gpd => { gpd with gpdState := gpdState }) (fun _ => rfl)

theorem keeps_withAppDescription :
    Keeps b past past' (gpdCommissioningStateMachineWithAppDescription b) := by
  have silenced : Keeps b past past' (fun s => { s with gpdNode.rxAfterTx := 0 }) :=
    keeps_gpdNode (fun gpd => { gpd with rxAfterTx := 0 }) (fun _ => rfl)
  have substate (sub : UInt8) : Agreed (SameCore b past past')
      (fun s => s.applicationDescriptionState = sub) := agreed_core _ (fun _ => rfl)
  have requests := (keeps_descriptionState appDescStepSendAppDescriptionReq).comp
    ((keeps_sendCommissioningRequest.iterate b.numberOfCommissioningRequest.toNat).comp silenced)
  have next (last : Bool) : Keeps b past past' (fun s => if last then
      { s with applicationDescriptionState := appDescStepSendAppDescriptionFinalReq } else s) :=
    Carries.ite (fun _ _ _ => rfl) (keeps_descriptionState _) respects_id
  have left (replied : Bool) : Keeps b past past' (fun s =>
      if replied then s else { s with gpdNode.gpdState := appStateNotCommissioned }) :=
    Carries.ite (fun _ _ _ => rfl) respects_id (keeps_gpdState _)
  have described := answers_sendApplicationDescriptionCommand.bind next
  have final := (answers_finalRequests b.numberOfCommissioningRequest.toNat).bind
    (fun replied => (keeps_descriptionState appDescStepSendCommissioningReq).comp (left replied))
  exact Carries.ite (substate _) requests (Carries.ite (substate _) described
    (Carries.ite (substate _) final (keeps_descriptionState _)))

theorem keeps_requestOnChannel (channel : UInt8) :
    Keeps b past past' (requestOnChannel b channel) :=
  (keeps_send _ _ _).comp
    (keeps_gpdNode (fun gpd => { gpd with channel := channel }) (fun _ => rfl))

theorem keeps_rxChannelRequests (n : ℕ) : Keeps b past past' (rxChannelRequests b n) := by
  induction n with
  | zero => exact keeps_gpdState appStateChannelRequest
  | succ n ih =>
    exact Carries.ite (agreed_core _ (fun _ => rfl)) respects_id
      (ih.comp (keeps_requestOnChannel nextRxChannel))

theorem keeps_channelRequest : Keeps b past past' (gpdCommissioningChannelRequestStateMachine b) := by
  have substate (sub : UInt8) : Agreed (SameCore b past past') (fun s => s.chReqSubstate = sub) :=
    agreed_core _ (fun _ => rfl)
  have next (sub : UInt8) : Keeps b past past' (fun s => { s with chReqSubstate := sub }) :=
    keeps_silent (fun _ => rfl) (fun _ => rfl) (fun _ => rfl) (fun _ => rfl)
  have sweep : Keeps b past past' (gpdCommissioningChannelRequestStateOnAllChannel b) :=
    ((respects_foldl b.appChannelSet (fun channel _ => keeps_requestOnChannel channel)).iterate
        b.numberOfChannelRequestPerChannelWithAcSet).comp
      (keeps_gpdNode (fun gpd => { gpd with rxAfterTx := 0, autoCommissioning := true })
        (fun _ => rfl))
  have listening : Keeps b past past' (gpdCommissioningChannelRequestOnRxChannel b) :=
    (keeps_rxChannelRequests b.numberOfChannelRequestPerChannel).comp
      (keeps_gpdNode (fun gpd => { gpd with rxAfterTx := 1, autoCommissioning := false })
        (fun _ => rfl))
  have unsecured : Keeps b past past' (fun s => { s with gpdNode := { s.gpdNode with
      securityLevel := securityLevelNone
      securityKeyType := securityKeyTypeNoKey
      skipCca := true } }) :=
    keeps_gpdNode (fun gpd => { gpd with
      securityLevel := securityLevelNone
      securityKeyType := securityKeyTypeNoKey
      skipCca := true }) (fun _ => rfl)
  have machine := Carries.ite (substate chReqOnAllChannels) ((next chReqOnRxChannel).comp sweep)
    (Carries.ite (substate chReqOnRxChannel) ((next chReqOnAllChannels).comp listening) respects_id)
  exact machine.comp unsecured

theorem keeps_bidirCommissioning : Keeps b past past' (gpdBidirCommissioningStateMachine b) := by
  have counted (count : UInt8 → UInt8) : Keeps b past past' (fun s =>
      { s with gpdNode.currentCommReq := count s.gpdNode.currentCommReq }) :=
    keeps_gpdNode (fun gpd => { gpd with currentCommReq := count gpd.currentCommReq })
      (fun _ => rfl)
  have replied : Agreed (SameCore b past past')
      (fun s => s.gpdNode.gpdState = appStateCommissioningReplyReceived) :=
    agreed_core _ (fun _ => rfl)
  have open' : Agreed (SameCore b past past')
      (fun s => s.gpdNode.currentCommReq < b.numberOfCommissioningRequest) :=
    agreed_core _ (fun _ => rfl)
  have request := (counted (· + 1)).comp keeps_sendCommissioningRequest
  exact Carries.ite (fun _ _ _ => rfl) keeps_withAppDescription
    (Carries.ite open' (Carries.ite replied (counted (fun _ => 0)) request) (keeps_gpdState _))

theorem keeps_setCcmKey : Keeps b past past'
    (fun s => emberGpdMbedtlsCcmSetkeyWraper s.gpdNode.securityKey s) :=
  keeps_silent (fun _ => rfl) (fun _ => rfl) (fun _ => rfl) (fun _ => rfl)

theorem keeps_undirCommissioning : Keeps b past past' (sendUndirCommissioningRequest b) := by
  have level (securityLevel : UInt8) :
      Keeps b past past' (fun s => { s with gpdNode.securityLevel := securityLevel }) :=
    keeps_gpdNode (fun gpd => { gpd with securityLevel := securityLevel }) (fun _ => rfl)
  have requested : Keeps b past past' (fun s =>
      if b.appDescriptionFollows then gpdCommissioningStateMachineWithAppDescription b s
      else sendCommissioningRequest b s) :=
    Carries.ite (fun _ _ _ => rfl) keeps_withAppDescription keeps_sendCommissioningRequest
  have restored (securityLevel : UInt8) :=
    (keeps_setCcmKey.comp (level securityLevel)).comp requested
  exact Carries.reading (v := fun s : Device => s.gpdNode.securityLevel)
    (agreed_core _ (fun _ => rfl)) restored

theorem keeps_setState (gpdState : ApplicationState) :
    Keeps b past past' (emberGpdSetState gpdState) :=
  (keeps_record (fun _ => .setState gpdState) (fun _ => rfl)).comp (keeps_gpdState gpdState)

theorem storeSecData_eq (s : Device) : emberGpdStoreSecDataToNV s = { s with
    gpdNvData := shadowOf s.gpdNode s.gpdNvData
    log := .flashSave (.secData s.gpdNode) (image (shadowOf s.gpdNode s.gpdNvData)) :: s.log } :=
  rfl

theorem keeps_storeSecData : Keeps b past past' emberGpdStoreSecDataToNV := by
  rw [funext storeSecData_eq]
  exact keeps_saving _ (fun _ => rfl) (fun _ => rfl) (fun _ => rfl) (fun _ => rfl) (fun _ => rfl)

theorem keeps_loadDefaults : Keeps b past past' (emberGpdLoadGpdDefaultConfiguration b) := by
  refine respects_of_view (fun k => core (emberGpdLoadGpdDefaultConfiguration b k)) (fun _ => [])
    (fun _ whole => whole) (fun _ => rfl) (fun _ => rfl) (fun k valid => ⟨?_, valid.2⟩)
  change { k.gpdNode.addr with appId := appIdSrcId, srcId := b.srcId } = ownAddr b
  rw [valid.1]
  rfl

theorem keeps_deCommission : Keeps b past past' (emberGpdAfPluginDeCommission b) :=
  ((keeps_storeSecData.comp (keeps_record (fun _ => .decommissioned) (fun _ => rfl))).comp
    keeps_loadDefaults).comp (keeps_send _ _ _)

theorem agreed_gpdState (p : ApplicationState → Prop) :
    Agreed (SameCore b past past') (fun s => p s.gpdNode.gpdState) :=
  agreed_core _ (fun _ => rfl)

theorem keeps_commission : Keeps b past past' (emberGpdAfPluginCommission b) := by
  have success : Keeps b past past'
      (fun s => sendSuccess b (emberGpdSetState appStateCommissioningSuccessRequest s)) :=
    (keeps_send _ _ _).comp (keeps_setState appStateCommissioningSuccessRequest)
  exact Carries.ite (fun _ _ _ => rfl)
    (Carries.ite (agreed_gpdState (· = appStateChannelRequest)) keeps_channelRequest
      (Carries.ite (agreed_gpdState (· = appStateChannelReceived)) keeps_bidirCommissioning
        (Carries.ite (agreed_gpdState (· = appStateCommissioningReplyReceived)) success
          respects_id)))
    keeps_undirCommissioning

theorem keeps_stateSwitch : Keeps b past past' (stateSwitch b) := by
  have operational : Keeps b past past' (emberGpdSetState appStateOperational) :=
    keeps_setState appStateOperational
  have toggled : Keeps b past past' (sendToggle b) := keeps_send _ _ _
  exact Carries.ite (agreed_gpdState (fun st => st = appStateChannelRequest ∨
      st = appStateChannelReceived ∨ st = appStateCommissioningRequest ∨
      st = appStateCommissioningReplyReceived)) keeps_commission
    (Carries.ite (agreed_gpdState (· = appStateCommissioningSuccessRequest)) operational
      (Carries.ite (agreed_gpdState (· = appStateOperationalCommandRequest))
        (operational.comp toggled)
        (Carries.ite (agreed_gpdState (· = appStateInvalid)) keeps_deCommission respects_id)))

theorem keeps_commandBranch (id : CmdId) : Keeps b past past' (commandBranch id) := by
  cases id with
  | commission => exact keeps_setState appStateChannelRequest
  | send => exact keeps_setState appStateOperationalCommandRequest
  | decommission => exact respects_id

def packets : Action → List (List UInt8)
  | .stack air _ _ => air.flatten
  | .transmit air _ _ _ _ => air.flatten
  | .receive packet => [packet]
  | _ => []

/-- The environment of an action, given to both. -/
theorem keeps_environment {f : Device → Device} {air : List (List (List UInt8))}
    (complete : ∀ packet ∈ air.flatten, Complete packet)
    (reads : ∀ s, core (f s) = core (f (core s))) (log : ∀ s, (f s).log = s.log)
    (addr : ∀ s, (f s).gpdNode.addr = s.gpdNode.addr) (given : ∀ s, (f s).air = air) :
    Keeps b past past' f := by
  refine respects_of_view (fun k => core (f k)) (fun _ => [])
    (fun t whole => whole.suffix ⟨[], (log t).symm⟩) reads
    (fun s => congrArg emitted (log s)) (fun k valid => ⟨(addr k).trans valid.1, ?_⟩)
  change ∀ window ∈ (f k).air, ∀ packet ∈ window, Complete packet
  rw [given]
  exact fun window hw packet hp => complete packet (List.mem_flatten_of_mem hw hp)

theorem keeps_perform (a : Action) (complete : ∀ packet ∈ packets a, Complete packet) :
    Keeps b past past' (fun s => perform b s a) := by
  cases a with
  | command id => exact keeps_commandBranch id
  | stack air randoms descriptions =>
    exact (keeps_storeSecData.comp keeps_stateSwitch).comp (keeps_environment complete
      (fun _ => rfl) (fun _ => rfl) (fun _ => rfl) (fun _ => rfl))
  | transmit air randoms frameType payload repeatNumber =>
    exact (keeps_send _ _ _).comp (keeps_environment complete (fun _ => rfl) (fun _ => rfl)
      (fun _ => rfl) (fun _ => rfl))
  | receive packet => exact keeps_railCbGeneric (complete packet (List.mem_singleton_self _))
  | store => exact keeps_storeSecData

theorem keeps_run (actions : List Action)
    (complete : ∀ a ∈ actions, ∀ packet ∈ packets a, Complete packet) :
    Keeps b past past' (fun s => actions.foldl (perform b) s) :=
  respects_foldl actions (fun a ha => keeps_perform a (complete a ha))

end

/-- The same course from `s` as from `t`: the same `gpdNode` after each action, and in the whole
run the same to be seen. -/
structure SameCourse (b : Build) (actions : List Action) (s t : Device) : Prop where
  gpdNode : ∀ n, ((actions.take n).foldl (perform b) s).gpdNode =
    ((actions.take n).foldl (perform b) t).gpdNode
  emitted : emittedSince s (actions.foldl (perform b) s) =
    emittedSince t (actions.foldl (perform b) t)

theorem Whole.take {b : Build} {actions : List Action} {t : Device}
    (whole : Whole b (actions.foldl (perform b) t)) (n : ℕ) :
    Whole b ((actions.take n).foldl (perform b) t) := by
  rw [← List.take_append_drop n actions, List.foldl_append] at whole
  exact whole.suffix (run_log_suffix b _ _)

theorem sameCourse_of_core {b : Build} {actions : List Action} {s t : Device}
    (same : core s = core t) (valid : Valid b t)
    (complete : ∀ a ∈ actions, ∀ packet ∈ packets a, Complete packet)
    (whole : Whole b (actions.foldl (perform b) t)) : SameCourse b actions s t := by
  have twins : SameCore b (emitted s.log) (emitted t.log) s t := ⟨same, valid, [], rfl, rfl⟩
  refine ⟨fun n => ?_, ?_⟩
  · have run := (keeps_run (actions.take n)
      (fun a ha => complete a (List.mem_of_mem_take ha))).keeps s t twins (whole.take n)
    have gpd := congrArg (fun k : Device => k.gpdNode) run.same
    exact gpd
  · obtain ⟨new, left, right⟩ := ((keeps_run actions complete).keeps s t twins whole).traced
    rw [emittedSince_eq (run_log_suffix b s actions) left,
      emittedSince_eq (run_log_suffix b t actions) right]

end GreenPower.DeviceTwins
