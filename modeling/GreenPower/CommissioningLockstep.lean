import GreenPower.AttemptLockstep

set_option autoImplicit false

/-!
The commissioning state machines side by side. Before a channel request the settings that it
overwrites do not have to agree; everything else needs devices that are alike.
-/
namespace GreenPower.AttemptLockstep
open MemoryArray ByteWord BuildOptions DeviceState Security NonVolatile FrameBuild IncomingCommand
  ReceiveOutcome SendReceive CommissioningCommand Commissioning GpdTask DeviceSteps RequestPayload
  AttemptTrace CompleteFrame

section
variable {b : Build} {erase : Settings → Settings} {past past' : List Seen} {s t : Device}

theorem sealedKey_congr (key : Key) (addr : s.gpdNode.addr = t.gpdNode.addr)
    (nonceTx : ∀ i, i < 8 ∨ 12 ≤ i → s.nonceTx i = t.nonceTx i) :
    sealedKey b key s = sealedKey b key t := by
  have nonce := nonce_store_congr nonceTx t.gpdNode.addr.srcId
  unfold sealedKey emberGpdSecurityEncryptKey emberGpdSetFcIntoTxNonce emberGpdMbedtlsCcmSetkeyWraper
  simp only [addr, nonce]

theorem requestFront_congr (keyType : UInt8) (key : Key) (addr : s.gpdNode.addr = t.gpdNode.addr)
    (nonceTx : ∀ i, i < 8 ∨ 12 ≤ i → s.nonceTx i = t.nonceTx i) :
    requestFront b true keyType key s = requestFront b true keyType key t := by
  unfold requestFront keyField
  rw [sealedKey_congr key addr nonceTx]

theorem take_around {front middle back : List UInt8} {i n : ℕ} (hf : front.length = i)
    (hm : middle.length = n) (m : ℕ) :
    ((front ++ middle ++ back).take m).take i ++ ((front ++ middle ++ back).take m).drop (i + n) =
      front.take (min i m) ++ back.take (m - (i + n)) := by
  have length : (front ++ middle).length = i + n := by rw [List.length_append, hf, hm]
  have le : min i m ≤ front.length := by omega
  rw [List.take_take, List.drop_take, List.drop_left' length, List.append_assoc,
    List.take_append_of_le_length le]

/-- Two requests cut at the same length. -/
theorem sameCommand_take (extended : Extended b) {front back : List UInt8}
    (length : front.length = counterIndex b) (head : front.head? = some cmdCommissioning)
    (c c' : UInt32) (m : ℕ) :
    SameCommand b ((front ++ copy4Bytes c ++ back).take m)
      ((front ++ copy4Bytes c' ++ back).take m) := by
  obtain ⟨rest, rfl⟩ := List.head?_eq_some_iff.mp head
  cases m with
  | zero => exact SameCommand.refl b _
  | succ m =>
    have request (c : UInt32) : withoutCounter b
        ((cmdCommissioning :: rest ++ copy4Bytes c ++ back).take (m + 1)) =
          (cmdCommissioning :: rest).take (min (counterIndex b) (m + 1)) ++
            back.take (m + 1 - (counterIndex b + 4)) := by
      rw [← take_around length (copy4Bytes_length c)]
      exact if_pos ⟨rfl, extended⟩
    exact ⟨rfl, by rw [request c, request c']⟩

def requestBytes (b : Build) (s : Device) : List UInt8 :=
  let bytes := requestPayload b true b.securityKeyType b.key s.gpdNode.securityFrameCounter s
  bytes.take (uint8 bytes.length)

def built (b : Build) (s : Device) : (ℕ × Mem UInt8) × Device :=
  gpdBuildCommissioningCommand b true b.securityKeyType b.key s.gpdNode.securityFrameCounter
    Commissioning.command s

theorem sendCommissioningRequest_eq (b : Build) (s : Device) :
    let cleared := { s with gpdNode.securityLevel := securityLevelNone }
    sendCommissioningRequest b s = emberAfGpdfSend b nwkFcFrameTypeData (requestBytes b cleared)
      cmdResendNumber (built b cleared).2 := by
  obtain ⟨length, loaded⟩ := gpdBuildCommissioningCommand_filled b true b.securityKeyType b.key
    s.gpdNode.securityFrameCounter Commissioning.command
    { s with gpdNode.securityLevel := securityLevelNone }
  unfold sendCommissioningRequest built requestBytes
  simp only
  rw [loaded, length]

/-- Building the request touches the transmit nonce and the CCM context only. -/
theorem built_device (b : Build) (s : Device) : ∃ nonceTx ccmKey,
    (built b s).2 = { s with nonceTx := nonceTx, ccmKey := ccmKey } := by
  unfold built
  rw [buildCommand_device]
  split_ifs
  · exact ⟨_, _, rfl⟩
  · exact ⟨s.nonceTx, s.ccmKey, rfl⟩

theorem built_hidden (b : Build) (s : Device) : Hidden b s (built b s).2 := by
  unfold built
  rw [buildCommand_device]
  split_ifs
  · have tx := counterCleared_store s.nonceTx s.gpdNode.addr.srcId
    refine ⟨?_, rfl⟩
    unfold settings emberGpdSecurityEncryptKey emberGpdSetFcIntoTxNonce
      emberGpdMbedtlsCcmSetkeyWraper
    simp only [tx]
  · exact ⟨rfl, rfl⟩

theorem Alike.requestBytes (h : Alike b id past past' s t) : SameCommand b
    ((requestBytes b s).take srcIdMaxPayloadSize) ((requestBytes b t).take srcIdMaxPayloadSize) := by
  have front := requestFront_congr (b := b) b.securityKeyType b.key (h.own.trans h.ownRight.symm)
    (counterCleared_eq_iff.mp (h.get (fun a => a.nonceTx)))
  have long (c : UInt32) : (requestPayload b true b.securityKeyType b.key c s).length =
      (requestPayload b true b.securityKeyType b.key s.gpdNode.securityFrameCounter s).length := by
    unfold requestPayload requestCounter
    split_ifs
    · simp only [List.length_append, copy4Bytes_length]
    · rfl
  have other : requestPayload b true b.securityKeyType b.key t.gpdNode.securityFrameCounter t =
      requestPayload b true b.securityKeyType b.key t.gpdNode.securityFrameCounter s := by
    unfold requestPayload
    rw [front]
  unfold AttemptLockstep.requestBytes
  simp only
  rw [other, long t.gpdNode.securityFrameCounter, List.take_take, List.take_take]
  generalize uint8 _ = n
  unfold requestPayload requestCounter
  by_cases extended : Extended b
  · rw [if_pos extended, if_pos extended]
    exact sameCommand_take extended (requestFront_length extended _ _ s) rfl _ _ _
  · rw [if_neg extended, if_neg extended]
    exact SameCommand.refl b _

theorem Alike.sendCommissioningRequest (h : Alike b id past past' s t) :
    Alike b id past past' (sendCommissioningRequest b s) (sendCommissioningRequest b t) := by
  have cleared : Alike b id past past' { s with gpdNode.securityLevel := securityLevelNone }
      { t with gpdNode.securityLevel := securityLevelNone } :=
    h.change (fun a => { a with gpdNode.securityLevel := securityLevelNone }) [] rfl rfl rfl rfl
      rfl rfl
  rw [sendCommissioningRequest_eq, sendCommissioningRequest_eq]
  exact (cleared.hidden (built_hidden b _) (built_hidden b _)).send (Or.inl rfl) _
    cleared.requestBytes

theorem Alike.sendApplicationDescriptionCommand (h : Alike b id past past' s t) :
    (sendApplicationDescriptionCommand b s).1 = (sendApplicationDescriptionCommand b t).1 ∧
      Alike b id past past' (sendApplicationDescriptionCommand b s).2
        (sendApplicationDescriptionCommand b t).2 := by
  have descriptions : s.descriptions = t.descriptions := h.get (fun a => a.descriptions)
  unfold Commissioning.sendApplicationDescriptionCommand
    gpdBuildCommissioningApplicationDescriptionCommand
    emberGpdAfPluginGetApplicationDescriptionCallback
  simp only
  rw [← descriptions]
  refine ⟨rfl, Alike.send ?_ (Or.inl rfl) _ (SameCommand.refl b _)⟩
  by_cases bidir : b.bidirCapable = true
  · rw [if_pos bidir, if_pos bidir]
    exact h.change (fun a => { a with
      gpdNode.rxAfterTx := _, descriptions := s.descriptions.tail }) [] rfl rfl rfl rfl rfl rfl
  · rw [if_neg bidir, if_neg bidir]
    exact h.change (fun a => { a with descriptions := s.descriptions.tail }) [] rfl rfl rfl rfl
      rfl rfl

theorem Alike.gpdState (h : Alike b id past past' s t) :
    s.gpdNode.gpdState = t.gpdNode.gpdState := h.gpd EmberGpd.gpdState

theorem Alike.ite {p q : Prop} [Decidable p] [Decidable q] {s' t' : Device} (iff : p ↔ q)
    (pos : p → Alike b erase past past' s t) (neg : ¬ p → Alike b erase past past' s' t') :
    Alike b erase past past' (if p then s else s') (if q then t else t') := by
  by_cases h : p
  · rw [if_pos h, if_pos (iff.mp h)]
    exact pos h
  · rw [if_neg h, if_neg (fun hq => h (iff.mpr hq))]
    exact neg h

theorem Alike.finalRequests (h : Alike b id past past' s t) (n : ℕ) :
    (finalRequests b n s).1 = (finalRequests b n t).1 ∧
      Alike b id past past' (finalRequests b n s).2 (finalRequests b n t).2 := by
  induction n generalizing s t with
  | zero => exact ⟨rfl, h⟩
  | succ n ih =>
    unfold Commissioning.finalRequests
    rw [← h.gpdState]
    split_ifs
    · exact ⟨rfl, h⟩
    · exact ih h.sendApplicationDescriptionCommand.2

theorem Alike.setSubstate (h : Alike b id past past' s t) (sub : UInt8) :
    Alike b id past past' { s with applicationDescriptionState := sub }
      { t with applicationDescriptionState := sub } :=
  h.change (fun a => { a with applicationDescriptionState := sub }) [] rfl rfl rfl rfl rfl rfl

theorem Alike.giveUp (h : Alike b id past past' s t) :
    Alike b id past past' { s with gpdNode.gpdState := appStateNotCommissioned }
      { t with gpdNode.gpdState := appStateNotCommissioned } :=
  h.change (fun a => { a with gpdNode.gpdState := appStateNotCommissioned }) [] rfl rfl rfl rfl
    rfl rfl

theorem Alike.withAppDescription (h : Alike b id past past' s t) :
    Alike b id past past' (gpdCommissioningStateMachineWithAppDescription b s)
      (gpdCommissioningStateMachineWithAppDescription b t) := by
  have sub : s.applicationDescriptionState = t.applicationDescriptionState :=
    h.get (fun a => a.applicationDescriptionState)
  have silenced : Alike b id past past' { s with gpdNode.rxAfterTx := 0 }
      { t with gpdNode.rxAfterTx := 0 } :=
    h.change (fun a => { a with gpdNode.rxAfterTx := 0 }) [] rfl rfl rfl rfl rfl rfl
  have requests := silenced.iterate (fun _ _ h => h.sendCommissioningRequest)
    b.numberOfCommissioningRequest.toNat
  obtain ⟨last, described⟩ := h.sendApplicationDescriptionCommand
  obtain ⟨replied, final⟩ := h.finalRequests b.numberOfCommissioningRequest.toNat
  unfold gpdCommissioningStateMachineWithAppDescription
  refine Alike.ite (by rw [sub]) (fun _ => requests.setSubstate _) (fun _ => ?_)
  refine Alike.ite (by rw [sub]) (fun _ => ?_) (fun _ => ?_)
  · exact Alike.ite (iff_of_eq (congrArg (· = true) last)) (fun _ => described.setSubstate _) (fun _ => described)
  refine Alike.ite (by rw [sub]) (fun _ => ?_) (fun _ => h.setSubstate _)
  exact (Alike.ite (iff_of_eq (congrArg (· = true) replied)) (fun _ => final) (fun _ => final.giveUp)).setSubstate _

theorem Alike.bidirCommissioning (h : Alike b id past past' s t) :
    Alike b id past past' (gpdBidirCommissioningStateMachine b s)
      (gpdBidirCommissioningStateMachine b t) := by
  have count : s.gpdNode.currentCommReq = t.gpdNode.currentCommReq :=
    h.gpd EmberGpd.currentCommReq
  have counted : Alike b id past past' { s with gpdNode.currentCommReq := 0 }
      { t with gpdNode.currentCommReq := 0 } :=
    h.change (fun a => { a with gpdNode.currentCommReq := 0 }) [] rfl rfl rfl rfl rfl rfl
  unfold gpdBidirCommissioningStateMachine
  refine Alike.ite Iff.rfl (fun _ => h.withAppDescription) (fun _ => ?_)
  refine Alike.ite (by rw [count]) (fun _ => ?_) (fun _ => h.giveUp)
  refine Alike.ite (by rw [h.gpdState]) (fun _ => counted) (fun _ => ?_)
  exact h.sendCommissioningRequest.change
    (fun a => { a with gpdNode.currentCommReq := a.gpdNode.currentCommReq + 1 }) [] rfl rfl rfl rfl
    rfl rfl

theorem Alike.setState (h : Alike b id past past' s t) (st : ApplicationState) :
    Alike b id past past' (emberGpdSetState st s) (emberGpdSetState st t) :=
  h.change (fun a => { a with gpdNode.gpdState := st }) [.state st] rfl rfl rfl rfl rfl rfl

theorem store_hidden (b : Build) (s : Device) : Hidden b s (emberGpdStoreSecDataToNV s) := ⟨rfl, rfl⟩

theorem Alike.deCommission (h : Alike b id past past' s t) :
    Alike b id past past' (emberGpdAfPluginDeCommission b s) (emberGpdAfPluginDeCommission b t) := by
  have sent : Alike b id past past'
      (emberAfGpdfSend b nwkFcFrameTypeData [cmdDecommissioning] cmdResendNumber s)
      (emberAfGpdfSend b nwkFcFrameTypeData [cmdDecommissioning] cmdResendNumber t) :=
    h.send (Or.inl rfl) _ (SameCommand.refl b _)
  unfold emberGpdAfPluginDeCommission
  generalize emberAfGpdfSend b nwkFcFrameTypeData [cmdDecommissioning] cmdResendNumber s = s1 at sent
  generalize emberAfGpdfSend b nwkFcFrameTypeData [cmdDecommissioning] cmdResendNumber t = t1 at sent
  have addr : (emberGpdLoadGpdDefaultConfiguration b s1).gpdNode.addr = s1.gpdNode.addr := by
    change { s1.gpdNode.addr with appId := appIdSrcId, srcId := b.srcId } = s1.gpdNode.addr
    rw [sent.own]
    rfl
  have defaults : Alike b id past past'
      ((emberGpdLoadGpdDefaultConfiguration b s1).record .decommissioned)
      ((emberGpdLoadGpdDefaultConfiguration b t1).record .decommissioned) :=
    sent.change (fun a => { a with gpdNode := common (emberGpdLoadGpdDefaultConfiguration b
      { ramCleared [] with gpdNode := a.gpdNode }).gpdNode }) [] rfl rfl rfl rfl addr rfl
  exact defaults.hidden (store_hidden b _) (store_hidden b _)

def Settings.onChannel (channel : UInt8) (a : Settings) : Settings :=
  { a with gpdNode.channel := channel }

def Settings.idle (a : Settings) : Settings :=
  { a with gpdNode :=
    { a.gpdNode with
      autoCommissioning := false
      rxAfterTx := 0
      securityLevel := securityLevelNone
      securityKeyType := securityKeyTypeNoKey
      skipCca := true
      channel := 0 } }

/-- Alike at least as far as needed before a channel request; once the state is another one,
alike altogether. -/
structure Ready (b : Build) (erase : Settings → Settings) (past past' : List Seen)
    (s t : Device) : Prop where
  rest : Alike b erase past past' s t
  course : s.gpdNode.gpdState ≠ appStateChannelRequest → Alike b id past past' s t

theorem Alike.ready (h : Alike b id past past' s t) : Ready b erase past past' s t :=
  ⟨h.weaken erase (fun _ => rfl), fun _ => h⟩

theorem Alike.requestOnChannel (h : Alike b (Settings.onChannel 0) past past' s t)
    (channel : UInt8) :
    Alike b id past past' (requestOnChannel b channel s) (requestOnChannel b channel t) := by
  have tuned : Alike b id past past' { s with gpdNode.channel := channel }
      { t with gpdNode.channel := channel } :=
    h.change (Settings.onChannel channel) [] rfl rfl rfl rfl rfl rfl
  exact tuned.send (Or.inr rfl) _ (SameCommand.refl b _)

theorem Ready.sweep (h : Ready b (Settings.onChannel 0) past past' s t) (channels : List UInt8) :
    Ready b (Settings.onChannel 0) past past'
      (channels.foldl (fun s channel => requestOnChannel b channel s) s)
      (channels.foldl (fun s channel => requestOnChannel b channel s) t) := by
  induction channels generalizing s t with
  | nil => exact h
  | cons channel channels ih => exact ih (h.rest.requestOnChannel channel).ready

theorem Ready.iterate {f : Device → Device}
    (step : ∀ s t, Ready b erase past past' s t → Ready b erase past past' (f s) (f t)) (n : ℕ)
    (h : Ready b erase past past' s t) : Ready b erase past past' (f^[n] s) (f^[n] t) := by
  induction n generalizing s t with
  | zero => exact h
  | succ n ih => exact ih (step s t h)

theorem Ready.rxChannelRequests (h : Ready b (Settings.onChannel 0) past past' s t)
    (state : s.gpdNode.gpdState = t.gpdNode.gpdState) (n : ℕ) :
    Ready b (Settings.onChannel 0) past past' (rxChannelRequests b n s)
      (rxChannelRequests b n t) := by
  induction n generalizing s t with
  | zero =>
    exact ⟨h.rest.change (fun a => { a with gpdNode.gpdState := appStateChannelRequest }) [] rfl rfl
      rfl rfl rfl rfl, fun other => absurd rfl other⟩
  | succ n ih =>
    have requested := h.rest.requestOnChannel nextRxChannel
    unfold Commissioning.rxChannelRequests
    by_cases received : s.gpdNode.gpdState = appStateChannelReceived
    · rw [if_pos received, if_pos (state ▸ received)]
      exact h
    · rw [if_neg received, if_neg (state ▸ received)]
      exact ih requested.ready requested.gpdState

theorem Ready.setChannelSubstate (h : Ready b (Settings.onChannel 0) past past' s t)
    (sub : UInt8) : Ready b Settings.idle past past' { s with chReqSubstate := sub }
      { t with chReqSubstate := sub } :=
  ⟨h.rest.change (fun a => { a.idle with chReqSubstate := sub }) [] rfl rfl rfl rfl rfl rfl,
    fun other => (h.course other).change (fun a => { a with chReqSubstate := sub }) [] rfl rfl rfl
      rfl rfl rfl⟩

/-- One call of the channel request state machine in the state it is for. -/
theorem Alike.channelRequest (h : Alike b Settings.idle past past' s t)
    (requesting : s.gpdNode.gpdState = appStateChannelRequest) :
    Ready b Settings.idle past past' (gpdCommissioningChannelRequestStateMachine b s)
      (gpdCommissioningChannelRequestStateMachine b t) := by
  have sub : s.chReqSubstate = t.chReqSubstate := congrArg (fun a => a.chReqSubstate) h.settings
  have state : s.gpdNode.gpdState = t.gpdNode.gpdState :=
    congrArg (fun a => a.gpdNode.gpdState) h.settings
  have cleared : Ready b Settings.idle past past'
      { s with gpdNode :=
        { s.gpdNode with
          securityLevel := securityLevelNone
          securityKeyType := securityKeyTypeNoKey
          skipCca := true } }
      { t with gpdNode :=
        { t.gpdNode with
          securityLevel := securityLevelNone
          securityKeyType := securityKeyTypeNoKey
          skipCca := true } } :=
    ⟨h.change id [] rfl rfl rfl rfl rfl rfl, fun other => absurd requesting other⟩
  have flags (rxAfterTx : UInt8) (auto : Bool) : Ready b (Settings.onChannel 0) past past'
      { s with gpdNode :=
        { s.gpdNode with
          securityLevel := securityLevelNone
          securityKeyType := securityKeyTypeNoKey
          skipCca := true
          rxAfterTx := rxAfterTx
          autoCommissioning := auto } }
      { t with gpdNode :=
        { t.gpdNode with
          securityLevel := securityLevelNone
          securityKeyType := securityKeyTypeNoKey
          skipCca := true
          rxAfterTx := rxAfterTx
          autoCommissioning := auto } } :=
    ⟨h.change (fun a => { a with gpdNode :=
        { a.gpdNode with
          rxAfterTx := rxAfterTx
          autoCommissioning := auto } }) [] rfl rfl rfl rfl rfl rfl,
      fun other => absurd requesting other⟩
  have swept := Ready.iterate (fun _ _ h => h.sweep b.appChannelSet)
    b.numberOfChannelRequestPerChannelWithAcSet (flags 0 true)
  have listened := (flags 1 false).rxChannelRequests state b.numberOfChannelRequestPerChannel
  unfold gpdCommissioningChannelRequestStateMachine
  by_cases first : s.chReqSubstate = chReqOnAllChannels
  · simp only
    rw [if_pos first, if_pos (sub ▸ first)]
    exact swept.setChannelSubstate _
  have first' : ¬ t.chReqSubstate = chReqOnAllChannels := sub ▸ first
  by_cases second : s.chReqSubstate = chReqOnRxChannel
  · simp only
    rw [if_neg first, if_neg first', if_pos second, if_pos (sub ▸ second)]
    exact listened.setChannelSubstate _
  have second' : ¬ t.chReqSubstate = chReqOnRxChannel := sub ▸ second
  simp only
  rw [if_neg first, if_neg first', if_neg second, if_neg second']
  exact cleared

theorem Alike.commission (h : Alike b id past past' s t) (bidir : b.bidirCapable = true)
    (other : s.gpdNode.gpdState ≠ appStateChannelRequest) :
    Alike b id past past' (emberGpdAfPluginCommission b s) (emberGpdAfPluginCommission b t) := by
  have state := h.gpdState
  have success : Alike b id past past'
      (sendSuccess b (emberGpdSetState appStateCommissioningSuccessRequest s))
      (sendSuccess b (emberGpdSetState appStateCommissioningSuccessRequest t)) :=
    (h.setState _).send (Or.inl rfl) _ (SameCommand.refl b _)
  unfold emberGpdAfPluginCommission
  rw [if_pos bidir, if_pos bidir, if_neg other,
    if_neg (fun requesting => other (state.trans requesting))]
  refine Alike.ite (by rw [state]) (fun _ => h.bidirCommissioning) (fun _ => ?_)
  exact Alike.ite (by rw [state]) (fun _ => success) (fun _ => h)

theorem Alike.stateSwitch (h : Alike b id past past' s t) (bidir : b.bidirCapable = true)
    (other : s.gpdNode.gpdState ≠ appStateChannelRequest) :
    Alike b id past past' (stateSwitch b s) (stateSwitch b t) := by
  have state := h.gpdState
  have toggled : Alike b id past past' (sendToggle b s) (sendToggle b t) :=
    h.send (Or.inl rfl) _ (SameCommand.refl b _)
  unfold GpdTask.stateSwitch
  refine Alike.ite (by rw [state]) (fun _ => h.commission bidir other) (fun _ => ?_)
  refine Alike.ite (by rw [state]) (fun _ => h.setState _) (fun _ => ?_)
  refine Alike.ite (by rw [state]) (fun _ => toggled.setState _) (fun _ => ?_)
  exact Alike.ite (by rw [state]) (fun _ => h.deCommission) (fun _ => h)

theorem stateSwitch_channelRequest (bidir : b.bidirCapable = true)
    (requesting : s.gpdNode.gpdState = appStateChannelRequest) :
    stateSwitch b s = gpdCommissioningChannelRequestStateMachine b s := by
  unfold stateSwitch emberGpdAfPluginCommission
  simp only
  rw [if_pos (Or.inl requesting), if_pos bidir, if_pos requesting]

theorem Ready.stackBranch (h : Ready b Settings.idle past past' s t)
    (bidir : b.bidirCapable = true) :
    Ready b Settings.idle past past' (stackBranch b s) (stackBranch b t) := by
  have state : s.gpdNode.gpdState = t.gpdNode.gpdState :=
    congrArg (fun a => a.gpdNode.gpdState) h.rest.settings
  have switched : Ready b Settings.idle past past' (stateSwitch b s) (stateSwitch b t) := by
    by_cases requesting : s.gpdNode.gpdState = appStateChannelRequest
    · rw [stateSwitch_channelRequest bidir requesting,
        stateSwitch_channelRequest bidir (state ▸ requesting)]
      exact h.rest.channelRequest requesting
    · exact ((h.course requesting).stateSwitch bidir requesting).ready
  exact ⟨switched.rest.hidden (store_hidden b _) (store_hidden b _),
    fun other => (switched.course other).hidden (store_hidden b _) (store_hidden b _)⟩

/-- The device between two iterations: what the environment holds ready does not count. -/
def rested (s : Device) : Device := { s with air := [], randoms := [], descriptions := [] }

theorem Alike.rested (h : Alike b erase past past' s t) (erase' : Settings → Settings)
    (g : Settings → Settings)
    (agree : ∀ u : Device, erase' (AttemptLockstep.settings (AttemptLockstep.rested u)) =
      g (erase (AttemptLockstep.settings u))) :
    Alike b erase' past past' (AttemptLockstep.rested s) (AttemptLockstep.rested t) := by
  refine ⟨?_, h.seen, h.own, fun _ hw => absurd hw List.not_mem_nil⟩
  rw [agree, agree, h.settings]

theorem Ready.rested (h : Ready b Settings.idle past past' s t) :
    Ready b Settings.idle past past' (AttemptLockstep.rested s) (AttemptLockstep.rested t) :=
  ⟨h.rest.rested _ (fun a => { a with air := [], descriptions := [] }) (fun _ => rfl),
    fun other => (h.course other).rested _ (fun a => { a with air := [], descriptions := [] })
      (fun _ => rfl)⟩

/-- The same iteration of the task for two devices: the same packets in its receive windows and
the same application descriptions. The random numbers may differ. -/
inductive SameIteration (b : Build) : Action → Action → Prop
  | stack (air : List (List (List UInt8))) (randoms randoms' : List UInt32)
      (descriptions : List (List UInt8 × Bool))
      (readable : ∀ window ∈ air, ∀ packet ∈ window, Readable b (ownAddr b) packet) :
      SameIteration b (.stack air randoms descriptions) (.stack air randoms' descriptions)

theorem Alike.equip (h : Alike b erase past past' (AttemptLockstep.rested s)
    (AttemptLockstep.rested t)) (air : List (List (List UInt8))) (randoms randoms' : List UInt32)
    (descriptions : List (List UInt8 × Bool))
    (readable : ∀ window ∈ air, ∀ packet ∈ window, Readable b (ownAddr b) packet)
    (respects : ∀ a : Settings, erase { a with air := air, descriptions := descriptions } =
      { erase a with air := air, descriptions := descriptions }) :
    Alike b erase past past' { s with air := air, randoms := randoms, descriptions := descriptions }
      { t with air := air, randoms := randoms', descriptions := descriptions } := by
  have same := congrArg (fun a : Settings => { a with air := air, descriptions := descriptions })
    h.settings
  refine ⟨?_, h.seen, h.own, readable⟩
  simp only [← respects] at same
  exact same

theorem Ready.perform (bidir : b.bidirCapable = true) {a a' : Action} (same : SameIteration b a a')
    (h : Ready b Settings.idle past past' (AttemptLockstep.rested s) (AttemptLockstep.rested t)) :
    Ready b Settings.idle past past' (AttemptLockstep.rested (perform b s a))
      (AttemptLockstep.rested (perform b t a')) := by
  cases same with
  | stack air randoms randoms' descriptions readable =>
    have equipped : Ready b Settings.idle past past'
        { s with air := air, randoms := randoms, descriptions := descriptions }
        { t with air := air, randoms := randoms', descriptions := descriptions } :=
      ⟨h.rest.equip air randoms randoms' descriptions readable (fun _ => rfl),
        fun other => (h.course other).equip air randoms randoms' descriptions readable
          (fun _ => rfl)⟩
    exact (equipped.stackBranch bidir).rested

theorem Ready.run (bidir : b.bidirCapable = true) {iterations iterations' : List Action}
    (same : List.Forall₂ (SameIteration b) iterations iterations')
    (h : Ready b Settings.idle past past' (AttemptLockstep.rested s) (AttemptLockstep.rested t)) :
    Ready b Settings.idle past past' (AttemptLockstep.rested (iterations.foldl (GpdTask.perform b) s))
      (AttemptLockstep.rested (iterations'.foldl (GpdTask.perform b) t)) := by
  induction same generalizing s t with
  | nil => exact h
  | cons first _ ih => exact ih (h.perform bidir first)

end

end GreenPower.AttemptLockstep
