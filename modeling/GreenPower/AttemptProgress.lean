import GreenPower.CommissioningLockstep
import GreenPower.EventLog

set_option autoImplicit false

/-!
How an attempt proceeds: the sweep it begins with, and the commissioning requests it sends
before it gives up.
-/
namespace GreenPower.AttemptProgress
open MemoryArray ByteWord BuildOptions DeviceState Security NonVolatile FrameBuild IncomingCommand
  ReceiveOutcome SendReceive CommissioningCommand Commissioning GpdTask EventLog DeviceSteps
  RequestPayload AttemptTrace AttemptLockstep

/-- A channel request with the auto-commissioning flag, without a receive window. -/
def requestSeen (channel : UInt8) : List Seen :=
  [.frame nwkFcFrameTypeMaint [cmdChannelRqst, 0] [maintNwkFc false], .transmission true channel]

def sweep (b : Build) : List Seen :=
  (List.replicate b.numberOfChannelRequestPerChannelWithAcSet b.appChannelSet).flatten.flatMap
    requestSeen

structure Sweeping (s : Device) : Prop where
  rxAfterTx : s.gpdNode.rxAfterTx = 0
  autoCommissioning : s.gpdNode.autoCommissioning = true
  skipCca : s.gpdNode.skipCca = true

section
variable {b : Build} {s : Device}

theorem emberAfGpdfSend_once (b : Build) (frameType : UInt8) (payload : List UInt8) (s : Device) :
    emberAfGpdfSend b frameType payload cmdResendNumber s =
      startTx b (writeTxFifo b frameType (payload.take srcIdMaxPayloadSize)
        (updateFrameCounter b s)) := rfl

theorem startTx_closed (closed : s.gpdNode.rxAfterTx = 0) : startTx b s =
    s.record (.startTx s.gpdNode.skipCca s.gpdNode.channel s.gpdNode.securityFrameCounter) := by
  unfold startTx
  simp only [closed]
  rfl

/-- A frame sent without a receive window. -/
theorem send_closed {frameType : UInt8}
    (kind : frameType = nwkFcFrameTypeData ∨ frameType = nwkFcFrameTypeMaint)
    {payload : List UInt8} (hp : payload.length ≤ 59) (closed : s.gpdNode.rxAfterTx = 0) :
    settings (emberAfGpdfSend b frameType payload cmdResendNumber s) = settings s ∧
      seen b (emberAfGpdfSend b frameType payload cmdResendNumber s).log =
        [.transmission s.gpdNode.skipCca s.gpdNode.channel,
          .frame frameType (withoutCounter b payload)
            (controlOctets frameType payload.head? (common s.gpdNode))] ++ seen b s.log := by
  have counted := updateFrameCounter_hidden b s
  have whole : payload.take srcIdMaxPayloadSize = payload := List.take_of_length_le hp
  rw [emberAfGpdfSend_once, whole]
  generalize updateFrameCounter b s = s1 at counted
  obtain ⟨same, wrote⟩ := writeTxFifo_seen (b := b) kind hp s1
  generalize writeTxFifo b frameType payload s1 = s2 at same wrote
  have all := same.trans counted.settings
  have gpd : common s2.gpdNode = common s.gpdNode := congrArg Settings.gpdNode all
  have gpd1 : common s1.gpdNode = common s.gpdNode := congrArg Settings.gpdNode counted.settings
  have skipCca : s2.gpdNode.skipCca = s.gpdNode.skipCca := (congrArg EmberGpd.skipCca gpd :)
  have channel : s2.gpdNode.channel = s.gpdNode.channel := (congrArg EmberGpd.channel gpd :)
  have rxAfterTx : s2.gpdNode.rxAfterTx = 0 := (congrArg EmberGpd.rxAfterTx gpd).trans closed
  rw [startTx_closed rxAfterTx]
  refine ⟨all, ?_⟩
  rw [← skipCca, ← channel, ← gpd1, ← counted.seen]
  change _ :: seen b s2.log = _
  rw [wrote]
  rfl

theorem requestOnChannel_seen (h : Sweeping s) (channel : UInt8) :
    Sweeping (requestOnChannel b channel s) ∧
      (requestOnChannel b channel s).gpdNode.gpdState = s.gpdNode.gpdState ∧
      seen b (requestOnChannel b channel s).log = (requestSeen channel).reverse ++ seen b s.log := by
  have closed : { s.gpdNode with channel := channel }.rxAfterTx = 0 := h.rxAfterTx
  obtain ⟨same, wrote⟩ := send_closed (b := b) (s := { s with gpdNode.channel := channel })
    (Or.inr rfl) (show [cmdChannelRqst, (nextRxChannel - 11) +
      ((secondNextRxChannel - 11) <<< (4 : UInt8))].length ≤ 59 by decide) closed
  have gpd : common (requestOnChannel b channel s).gpdNode =
      common { s.gpdNode with channel := channel } := congrArg Settings.gpdNode same
  refine ⟨⟨(congrArg EmberGpd.rxAfterTx gpd).trans h.rxAfterTx,
    (congrArg EmberGpd.autoCommissioning gpd).trans h.autoCommissioning,
    (congrArg EmberGpd.skipCca gpd).trans h.skipCca⟩, (congrArg EmberGpd.gpdState gpd :), ?_⟩
  have control : controlOctets nwkFcFrameTypeMaint (some cmdChannelRqst)
      (common { s.gpdNode with channel := channel }) = [maintNwkFc false] := by
    change [maintNwkFc (!s.gpdNode.autoCommissioning)] = _
    rw [h.autoCommissioning]
    rfl
  refine wrote.trans ?_
  rw [List.head?_cons, control]
  change Seen.transmission s.gpdNode.skipCca channel :: _ = _
  rw [h.skipCca]
  rfl

theorem round_seen (h : Sweeping s) (channels : List UInt8) :
    let s' := channels.foldl (fun s channel => requestOnChannel b channel s) s
    Sweeping s' ∧ s'.gpdNode.gpdState = s.gpdNode.gpdState ∧
      seen b s'.log = (channels.flatMap requestSeen).reverse ++ seen b s.log := by
  induction channels generalizing s with
  | nil => exact ⟨h, rfl, rfl⟩
  | cons channel channels ih =>
    obtain ⟨sweeping, state, first⟩ := requestOnChannel_seen (b := b) h channel
    obtain ⟨sweeping', state', rest⟩ := ih sweeping
    refine ⟨sweeping', state'.trans state, rest.trans ?_⟩
    rw [first, List.flatMap_cons, List.reverse_append, List.append_assoc]

theorem rounds_seen (h : Sweeping s) (channels : List UInt8) (n : ℕ) :
    let s' := (fun s => channels.foldl (fun s channel => requestOnChannel b channel s) s)^[n] s
    s'.gpdNode.gpdState = s.gpdNode.gpdState ∧ seen b s'.log =
      ((List.replicate n channels).flatten.flatMap requestSeen).reverse ++ seen b s.log := by
  induction n generalizing s with
  | zero => exact ⟨rfl, rfl⟩
  | succ n ih =>
    obtain ⟨sweeping, state, first⟩ := round_seen (b := b) h channels
    obtain ⟨state', rest⟩ := ih sweeping
    refine ⟨state'.trans state, rest.trans ?_⟩
    rw [first, List.replicate_succ, List.flatten_cons, List.flatMap_append, List.reverse_append,
      List.append_assoc]

/-- The first iteration after the command sweeps over all channels. -/
theorem stackBranch_sweeps (bidir : b.bidirCapable = true)
    (requesting : s.gpdNode.gpdState = appStateChannelRequest)
    (first : s.chReqSubstate = chReqOnAllChannels) :
    seen b (stackBranch b s).log = (sweep b).reverse ++ seen b s.log := by
  have swept := (rounds_seen (b := b) (s := { s with gpdNode :=
    { s.gpdNode with
      securityLevel := securityLevelNone
      securityKeyType := securityKeyTypeNoKey
      skipCca := true
      rxAfterTx := 0
      autoCommissioning := true } }) ⟨rfl, rfl, rfl⟩ b.appChannelSet
    b.numberOfChannelRequestPerChannelWithAcSet).2
  unfold stackBranch
  rw [(store_hidden b _).seen, stateSwitch_channelRequest bidir requesting]
  unfold gpdCommissioningChannelRequestStateMachine
  simp only
  rw [if_pos first]
  exact swept

end

def isRequest : Event → Bool
  | .txFifo frameType payload _ _ =>
    frameType = nwkFcFrameTypeData ∧ payload.head? = some cmdCommissioning
  | _ => false

def requestsSent (log : List Event) : ℕ := log.countP isRequest

/-- From `s` to `s'`, `n` requests and no change in what counts them; the attempt is not given up. -/
structure Requests (n : ℕ) (s s' : Device) : Prop where
  sent : requestsSent s'.log = requestsSent s.log + n
  count : s'.gpdNode.currentCommReq = s.gpdNode.currentCommReq
  substate : s'.applicationDescriptionState = s.applicationDescriptionState
  alive : s.gpdNode.gpdState ≠ appStateNotCommissioned →
    s'.gpdNode.gpdState ≠ appStateNotCommissioned

section
variable {b : Build} {s s' s'' : Device} {m n : ℕ}

theorem Requests.refl (s : Device) : Requests 0 s s := ⟨rfl, rfl, rfl, fun h => h⟩

theorem Requests.trans (h : Requests m s s') (h' : Requests n s' s'') : Requests (m + n) s s'' :=
  ⟨by rw [h'.sent, h.sent, Nat.add_assoc], h'.count.trans h.count, h'.substate.trans h.substate,
    fun alive => h'.alive (h.alive alive)⟩

/-- Nothing of what is counted differs. -/
theorem Requests.same (h : Requests n s s') (log : s''.log = s'.log)
    (count : s''.gpdNode.currentCommReq = s'.gpdNode.currentCommReq)
    (substate : s''.applicationDescriptionState = s'.applicationDescriptionState)
    (state : s''.gpdNode.gpdState = s'.gpdNode.gpdState) : Requests n s s'' :=
  ⟨by rw [log, h.sent], count.trans h.count, substate.trans h.substate,
    fun alive => state ▸ h.alive alive⟩

theorem requestsSent_append {new log : List Event} (none : ∀ e ∈ new, isRequest e = false) :
    requestsSent (new ++ log) = requestsSent log := by
  have zero : new.countP isRequest = 0 :=
    List.countP_eq_zero.mpr (fun e he => by simp [none e he])
  unfold requestsSent
  rw [List.countP_append, zero, Nat.zero_add]

theorem isRequest_false {e : Event} (h : ofSend e = false) : isRequest e = false := by
  cases e <;> first | rfl | cases h

theorem RadioStep.requests (step : RadioStep s s') : Requests 0 s s' := by
  cases step with
  | startTx => exact ⟨rfl, rfl, rfl, fun h => h⟩
  | startRx => exact ⟨rfl, rfl, rfl, fun h => h⟩
  | nextWindow => exact ⟨rfl, rfl, rfl, fun h => h⟩
  | arrival quiet arrivals =>
    have log := quiet.log
    obtain ⟨_, _, _, _, _, rfl⟩ := quiet
    refine ⟨?_, rfl, rfl, fun h => h⟩
    rw [log]
    exact requestsSent_append (fun e he => isRequest_false (arrivals e he).ofSend)
  | reaction r range =>
    refine ⟨requestsSent_append (fun e he => isRequest_false (Reaction.ofSend r e he)), ?_, rfl, ?_⟩
    · cases r <;> rfl
    · cases r with
      | ignored => exact fun h => h
      | channelConfig => exact fun _ => show appStateChannelReceived ≠ _ by decide
      | replyAccepted => exact fun _ => show appStateCommissioningReplyReceived ≠ _ by decide
      | replyRejected => exact fun h => h

theorem radio_requests (run : Relation.ReflTransGen RadioStep s s') : Requests 0 s s' :=
  star_preserves (I := Requests 0 s)
    (fun _ _ step h => h.trans (RadioStep.requests step)) run (Requests.refl s)

theorem secureEvents_requests (frameType : UInt8) (s : Device) :
    ∀ e ∈ secureEvents frameType s, isRequest e = false := by
  intro e he
  obtain ⟨_, _, _, _, rfl⟩ := secureEvents_mem he
  rfl

theorem writeTxFifo_requests (b : Build) (frameType : UInt8) (payload : List UInt8) (s : Device) :
    Requests (if frameType = nwkFcFrameTypeData ∧ payload.head? = some cmdCommissioning then 1
      else 0) s (writeTxFifo b frameType payload s) := by
  obtain ⟨mpdu, frame, eq⟩ := writeTxFifo_eq b frameType payload s
  have older : requestsSent (secureEvents frameType s ++ s.log) = requestsSent s.log :=
    requestsSent_append (secureEvents_requests frameType s)
  rw [eq]
  refine ⟨?_, rfl, rfl, fun h => h⟩
  unfold requestsSent at older ⊢
  rw [List.countP_cons, older]
  simp only [isRequest, decide_eq_true_eq]

theorem compose_requests (b : Build) (frameType : UInt8) (payload : List UInt8) (s : Device) :
    Requests (if frameType = nwkFcFrameTypeData ∧ payload.head? = some cmdCommissioning then 1
      else 0) s (writeTxFifo b frameType payload (updateFrameCounter b s)) := by
  have counted : Requests 0 s (updateFrameCounter b s) := by
    unfold updateFrameCounter
    cases b.macSeq <;> exact ⟨rfl, rfl, rfl, fun h => h⟩
  have wrote := counted.trans (writeTxFifo_requests b frameType payload (updateFrameCounter b s))
  rwa [Nat.zero_add] at wrote

theorem send_requests (b : Build) (frameType : UInt8) (payload : List UInt8) (times : ℕ)
    (s : Device) :
    Requests (if frameType = nwkFcFrameTypeData ∧ payload.head? = some cmdCommissioning then 1
      else 0) s (emberAfGpdfSend b frameType payload times s) := by
  have head : (payload.take srcIdMaxPayloadSize).head? = payload.head? := by cases payload <;> rfl
  have composed := compose_requests b frameType (payload.take srcIdMaxPayloadSize) s
  rw [head] at composed
  exact composed.trans (radio_requests (emberAfGpdfSend_radio b frameType payload times s))

theorem send_other (b : Build) {frameType : UInt8} {payload : List UInt8}
    (other : ¬ (frameType = nwkFcFrameTypeData ∧ payload.head? = some cmdCommissioning)) (times : ℕ)
    (s : Device) : Requests 0 s (emberAfGpdfSend b frameType payload times s) := by
  have sent := send_requests b frameType payload times s
  rwa [if_neg other] at sent

def RequestFits (b : Build) : Prop := requestLength b ≤ cmdMaxPayloadSize

instance (b : Build) : Decidable (RequestFits b) := inferInstanceAs (Decidable (_ ≤ _))

theorem requestBytes_head (fits : RequestFits b) (s : Device) :
    (requestBytes b s).head? = some cmdCommissioning := by
  have length := requestPayload_length b b.securityKeyType b.key s.gpdNode.securityFrameCounter s
  have short : requestLength b < 256 := lt_of_le_of_lt fits (by decide)
  unfold requestBytes
  simp only
  rw [length, uint8_natCast_of_lt short, ← length, List.take_length]
  rfl

theorem sendCommissioningRequest_requests (fits : RequestFits b) (s : Device) :
    Requests 1 s (sendCommissioningRequest b s) := by
  have cleared : Requests 0 s { s with gpdNode.securityLevel := securityLevelNone } :=
    ⟨rfl, rfl, rfl, fun h => h⟩
  have built : Requests 0 { s with gpdNode.securityLevel := securityLevelNone }
      (built b { s with gpdNode.securityLevel := securityLevelNone }).2 := by
    obtain ⟨nonceTx, ccmKey, device⟩ :=
      built_device b { s with gpdNode.securityLevel := securityLevelNone }
    rw [device]
    exact ⟨rfl, rfl, rfl, fun h => h⟩
  rw [sendCommissioningRequest_eq]
  have sent := send_requests b nwkFcFrameTypeData
    (requestBytes b { s with gpdNode.securityLevel := securityLevelNone }) cmdResendNumber
    (AttemptLockstep.built b { s with gpdNode.securityLevel := securityLevelNone }).2
  rw [if_pos ⟨rfl, requestBytes_head fits _⟩] at sent
  exact (cleared.trans built).trans sent

theorem descriptionCommand_head (s : Device) :
    let out := (gpdBuildCommissioningApplicationDescriptionCommand Commissioning.command s).1
    ∀ command ≠ cmdCommissioningAppDescr, (load out.2.cell 0 out.1).head? ≠ some command := by
  have filled := ((filled_start Commissioning.command).put [cmdCommissioningAppDescr]).put
    (emberGpdAfPluginGetApplicationDescriptionCallback s).1
  unfold gpdBuildCommissioningApplicationDescriptionCommand
  simp only
  generalize emberGpdAfPluginGetApplicationDescriptionCallback s = described at filled
  obtain ⟨message, last, s'⟩ := described
  simp only at filled ⊢
  generalize put message (put [cmdCommissioningAppDescr] (0, Commissioning.command)) = cmd at filled
  intro command other
  rw [filled.load ((uint8_le _).trans (le_of_eq filled.1))]
  cases uint8 cmd.1 with
  | zero => exact fun h => by cases h
  | succ n => exact fun h => other (Option.some.inj h).symm

theorem sendApplicationDescriptionCommand_requests (b : Build) (s : Device) :
    Requests 0 s (sendApplicationDescriptionCommand b s).2 := by
  have head := descriptionCommand_head s
  have described : Requests 0 s
      (gpdBuildCommissioningApplicationDescriptionCommand Commissioning.command s).2.2 :=
    ⟨rfl, rfl, rfl, fun h => h⟩
  unfold sendApplicationDescriptionCommand
  simp only
  generalize gpdBuildCommissioningApplicationDescriptionCommand Commissioning.command s = out
    at head described
  obtain ⟨⟨length, cmd⟩, last, s1⟩ := out
  simp only at head described ⊢
  have flagged : Requests 0 s (if b.bidirCapable = true then
      { s1 with gpdNode.rxAfterTx := if last = true then 1 else 0 } else s1) := by
    split_ifs <;> exact described.same rfl rfl rfl rfl
  exact flagged.trans (send_other b (fun h => head _ (by decide) h.2) _ _)

theorem iterate_requests {f : Device → Device} (h : ∀ s, Requests n s (f s)) (times : ℕ)
    (s : Device) : Requests (times * n) s (f^[times] s) := by
  induction times generalizing s with
  | zero =>
    rw [Nat.zero_mul]
    exact Requests.refl s
  | succ times ih =>
    have both := (h s).trans (ih (f s))
    rwa [Nat.add_comm, ← Nat.succ_mul] at both

theorem finalRequests_requests (b : Build) (times : ℕ) (s : Device) :
    Requests 0 s (finalRequests b times s).2 := by
  induction times generalizing s with
  | zero => exact Requests.refl s
  | succ times ih =>
    unfold finalRequests
    split_ifs
    · exact Requests.refl s
    · exact (sendApplicationDescriptionCommand_requests b s).trans (ih _)

theorem requestOnChannel_requests (b : Build) (channel : UInt8) (s : Device) :
    Requests 0 s (requestOnChannel b channel s) := by
  have tuned : Requests 0 s { s with gpdNode.channel := channel } := ⟨rfl, rfl, rfl, fun h => h⟩
  exact tuned.trans (send_other b (fun h => absurd h.1 (by decide)) _ _)

theorem round_requests (b : Build) (channels : List UInt8) (s : Device) :
    Requests 0 s (channels.foldl (fun s channel => requestOnChannel b channel s) s) := by
  induction channels generalizing s with
  | nil => exact Requests.refl s
  | cons channel channels ih => exact (requestOnChannel_requests b channel s).trans (ih _)

theorem rxChannelRequests_requests (b : Build) (times : ℕ) (s : Device) :
    Requests 0 s (rxChannelRequests b times s) := by
  induction times generalizing s with
  | zero => exact ⟨rfl, rfl, rfl, fun _ => show appStateChannelRequest ≠ _ by decide⟩
  | succ times ih =>
    unfold rxChannelRequests
    split_ifs
    · exact Requests.refl s
    · exact (requestOnChannel_requests b _ s).trans (ih _)

theorem channelRequest_requests (b : Build) (s : Device) :
    Requests 0 s (gpdCommissioningChannelRequestStateMachine b s) := by
  have flags (gpd : EmberGpd) (count : gpd.currentCommReq = s.gpdNode.currentCommReq)
      (state : gpd.gpdState = s.gpdNode.gpdState) : Requests 0 s { s with gpdNode := gpd } :=
    ⟨rfl, count, rfl, fun h => state ▸ h⟩
  unfold gpdCommissioningChannelRequestStateMachine
  simp only
  split_ifs
  · refine Requests.same ((flags _ ?_ ?_).trans (iterate_requests (round_requests b _) _ _)) rfl rfl
      rfl rfl <;> rfl
  · refine Requests.same ((flags _ ?_ ?_).trans (rxChannelRequests_requests b _ _)) rfl rfl rfl
      rfl <;> rfl
  · exact flags _ rfl rfl

structure Progress (b : Build) (base : ℕ) (s : Device) : Prop where
  started : base ≤ requestsSent s.log
  counted : b.appDescriptionFollows = false →
    requestsSent s.log = base + s.gpdNode.currentCommReq.toNat ∧
      s.gpdNode.currentCommReq ≤ b.numberOfCommissioningRequest
  described : b.appDescriptionFollows = true →
    s.applicationDescriptionState ≠ appDescStepSendCommissioningReq →
      base + b.numberOfCommissioningRequest.toNat ≤ requestsSent s.log

section
variable {base : ℕ}

theorem Progress.keep (h : Progress b base s) (sent : requestsSent s'.log = requestsSent s.log)
    (count : s'.gpdNode.currentCommReq = s.gpdNode.currentCommReq)
    (substate : s'.applicationDescriptionState = s.applicationDescriptionState) :
    Progress b base s' := by
  refine ⟨?_, fun plain => ?_, fun follows => ?_⟩
  · rw [sent]
    exact h.started
  · rw [sent, count]
    exact h.counted plain
  · rw [sent, substate]
    exact h.described follows

theorem Progress.requests (h : Progress b base s) (none : Requests 0 s s') :
    Progress b base s' := h.keep none.sent none.count none.substate

theorem Progress.setState (h : Progress b base s) (gpdState : ApplicationState) :
    Progress b base (emberGpdSetState gpdState s) := h.keep rfl rfl rfl

theorem Progress.ofDescribed (follows : b.appDescriptionFollows = true)
    (started : base ≤ requestsSent s.log)
    (described : s.applicationDescriptionState ≠ appDescStepSendCommissioningReq →
      base + b.numberOfCommissioningRequest.toNat ≤ requestsSent s.log) : Progress b base s :=
  ⟨started, fun plain => absurd (plain.symm.trans follows) Bool.false_ne_true, fun _ => described⟩

theorem Progress.withAppDescription (fits : RequestFits b) (h : Progress b base s)
    (follows : b.appDescriptionFollows = true) :
    Progress b base (gpdCommissioningStateMachineWithAppDescription b s) := by
  have started := h.started
  have described := sendApplicationDescriptionCommand_requests b s
  have final := finalRequests_requests b b.numberOfCommissioningRequest.toNat s
  unfold gpdCommissioningStateMachineWithAppDescription
  simp only
  by_cases first : s.applicationDescriptionState = appDescStepSendCommissioningReq
  · have silenced : Requests 0 s { s with gpdNode.rxAfterTx := 0 } := ⟨rfl, rfl, rfl, fun h => h⟩
    have sent := (silenced.trans (iterate_requests (sendCommissioningRequest_requests fits)
      b.numberOfCommissioningRequest.toNat _)).sent
    rw [if_pos first]
    refine Progress.ofDescribed follows (le_trans started ?_) (fun _ => ?_)
    · exact (Nat.le_add_right _ _).trans_eq sent.symm
    · refine le_of_le_of_eq ?_ sent.symm
      omega
  rw [if_neg first]
  by_cases second : s.applicationDescriptionState = appDescStepSendAppDescriptionReq
  · have enough := h.described follows first
    rw [if_pos second]
    split_ifs
    · refine Progress.ofDescribed follows (le_of_le_of_eq started described.sent.symm) (fun _ => ?_)
      exact le_of_le_of_eq enough described.sent.symm
    · exact h.requests described
  rw [if_neg second]
  by_cases third : s.applicationDescriptionState = appDescStepSendAppDescriptionFinalReq
  · rw [if_pos third]
    refine Progress.ofDescribed follows ?_ (fun other => absurd rfl other)
    split_ifs <;> exact le_of_le_of_eq started final.sent.symm
  rw [if_neg third]
  exact Progress.ofDescribed follows started (fun other => absurd rfl other)

/-- One call of the commissioning state machine in the state it is for. -/
theorem Progress.bidirCommissioning (fits : RequestFits b) (h : Progress b base s)
    (received : s.gpdNode.gpdState = appStateChannelReceived) :
    Progress b base (gpdBidirCommissioningStateMachine b s) := by
  have unreplied : ¬ s.gpdNode.gpdState = appStateCommissioningReplyReceived := by
    rw [received]
    decide
  unfold gpdBidirCommissioningStateMachine
  by_cases follows : b.appDescriptionFollows = true
  · rw [if_pos follows]
    exact h.withAppDescription fits follows
  rw [if_neg follows]
  by_cases more : s.gpdNode.currentCommReq < b.numberOfCommissioningRequest
  · have sent := sendCommissioningRequest_requests fits s
    obtain ⟨exact, -⟩ := h.counted (Bool.eq_false_of_not_eq_true follows)
    have bound : s.gpdNode.currentCommReq.toNat < b.numberOfCommissioningRequest.toNat := more
    have limit := b.numberOfCommissioningRequest.toNat_lt
    have next : (s.gpdNode.currentCommReq + 1).toNat = s.gpdNode.currentCommReq.toNat + 1 := by
      rw [UInt8.toNat_add]
      change (s.gpdNode.currentCommReq.toNat + 1) % 256 = _
      omega
    rw [if_pos more, if_neg unreplied]
    simp only
    rw [sent.count]
    refine ⟨?_, fun _ => ⟨?_, ?_⟩, fun with' => absurd with' follows⟩
    · exact h.started.trans ((Nat.le_add_right _ _).trans_eq sent.sent.symm)
    · refine sent.sent.trans ?_
      rw [exact]
      change _ = base + (s.gpdNode.currentCommReq + 1).toNat
      rw [next, Nat.add_assoc]
    · change (s.gpdNode.currentCommReq + 1).toNat ≤ b.numberOfCommissioningRequest.toNat
      omega
  · rw [if_neg more]
    exact h.keep rfl rfl rfl

theorem deCommission_requests (b : Build) (s : Device) :
    requestsSent (emberGpdAfPluginDeCommission b s).log = requestsSent s.log ∧
      (emberGpdAfPluginDeCommission b s).gpdNode.currentCommReq = s.gpdNode.currentCommReq ∧
      (emberGpdAfPluginDeCommission b s).applicationDescriptionState =
        s.applicationDescriptionState := by
  have sent : Requests 0 s
      (emberAfGpdfSend b nwkFcFrameTypeData [cmdDecommissioning] cmdResendNumber s) :=
    send_other b (fun h => absurd h.2 (by decide)) _ _
  unfold emberGpdAfPluginDeCommission
  generalize emberAfGpdfSend b nwkFcFrameTypeData [cmdDecommissioning] cmdResendNumber s = s1 at sent
  exact ⟨sent.sent, sent.count, sent.substate⟩

theorem Progress.stateSwitch (fits : RequestFits b) (bidir : b.bidirCapable = true)
    (h : Progress b base s) : Progress b base (stateSwitch b s) := by
  have success : Requests 0 s
      (sendSuccess b (emberGpdSetState appStateCommissioningSuccessRequest s)) := by
    have set : Requests 0 s (emberGpdSetState appStateCommissioningSuccessRequest s) :=
      ⟨rfl, rfl, rfl, fun _ => show appStateCommissioningSuccessRequest ≠ _ by decide⟩
    exact set.trans (send_other b (fun h => absurd h.2 (by decide)) _ _)
  have toggled : Requests 0 s (sendToggle b s) := send_other b (fun h => absurd h.2 (by decide)) _ _
  obtain ⟨sent, count, substate⟩ := deCommission_requests b s
  unfold GpdTask.stateSwitch emberGpdAfPluginCommission
  simp only
  rw [if_pos bidir]
  split_ifs with commissioning requesting received replied
  · exact h.requests (channelRequest_requests b s)
  · exact h.bidirCommissioning fits received
  · exact h.requests success
  · exact h
  · exact h.setState _
  · exact (h.requests toggled).setState _
  · exact h.keep sent count substate
  · exact h

theorem Progress.run (fits : RequestFits b) (bidir : b.bidirCapable = true) (iterations : List Action)
    (ofTask : ∀ a ∈ iterations, ∃ air randoms descriptions, a = .stack air randoms descriptions)
    (h : Progress b base s) : Progress b base (iterations.foldl (perform b) s) := by
  induction iterations generalizing s with
  | nil => exact h
  | cons a iterations ih =>
    obtain ⟨air, randoms, descriptions, rfl⟩ := ofTask a List.mem_cons_self
    have equipped : Progress b base
        { s with air := air, randoms := randoms, descriptions := descriptions } :=
      h.keep rfl rfl rfl
    refine ih (fun x hx => ofTask x (List.mem_cons_of_mem _ hx)) ?_
    exact (equipped.stateSwitch fits bidir).keep rfl rfl rfl

theorem stateSwitch_channelReceived (bidir : b.bidirCapable = true)
    (received : s.gpdNode.gpdState = appStateChannelReceived) :
    stateSwitch b s = gpdBidirCommissioningStateMachine b s := by
  have other : ¬ s.gpdNode.gpdState = appStateChannelRequest := by
    rw [received]
    decide
  unfold stateSwitch emberGpdAfPluginCommission
  simp only
  rw [if_pos (Or.inr (Or.inl received)), if_pos bidir, if_neg other, if_pos received]

/-- An attempt is given up with the requests counted to the end. -/
theorem gives_up_after_requests (fits : RequestFits b) (bidir : b.bidirCapable = true)
    (received : s.gpdNode.gpdState = appStateChannelReceived)
    (gaveUp : (stackBranch b s).gpdNode.gpdState = appStateNotCommissioned) :
    (b.appDescriptionFollows = false →
      ¬ s.gpdNode.currentCommReq < b.numberOfCommissioningRequest) ∧
    (b.appDescriptionFollows = true →
      s.applicationDescriptionState ≠ appDescStepSendCommissioningReq) := by
  have alive : s.gpdNode.gpdState ≠ appStateNotCommissioned := by
    rw [received]
    decide
  have unreplied : ¬ s.gpdNode.gpdState = appStateCommissioningReplyReceived := by
    rw [received]
    decide
  have same : (stateSwitch b s).gpdNode.gpdState = appStateNotCommissioned := gaveUp
  rw [stateSwitch_channelReceived bidir received] at same
  revert same
  unfold gpdBidirCommissioningStateMachine gpdCommissioningStateMachineWithAppDescription
  simp only
  refine fun same => ⟨fun plain more => ?_, fun follows first => ?_⟩
  · have without : ¬ b.appDescriptionFollows = true := by
      rw [plain]
      exact Bool.false_ne_true
    rw [if_neg without, if_pos more, if_neg unreplied] at same
    exact (sendCommissioningRequest_requests fits s).alive alive same
  · rw [if_pos follows, if_pos first] at same
    have silenced : Requests 0 s { s with gpdNode.rxAfterTx := 0 } := ⟨rfl, rfl, rfl, fun h => h⟩
    exact (silenced.trans (iterate_requests (sendCommissioningRequest_requests fits) _ _)).alive
      alive same

theorem Progress.givesUp (fits : RequestFits b) (bidir : b.bidirCapable = true)
    (h : Progress b base s) (received : s.gpdNode.gpdState = appStateChannelReceived)
    (gaveUp : (stackBranch b s).gpdNode.gpdState = appStateNotCommissioned) :
    base + b.numberOfCommissioningRequest.toNat ≤ requestsSent s.log ∧
      (b.appDescriptionFollows = false →
        requestsSent s.log = base + b.numberOfCommissioningRequest.toNat) := by
  obtain ⟨done, substate⟩ := gives_up_after_requests fits bidir received gaveUp
  have exact (plain : b.appDescriptionFollows = false) :
      requestsSent s.log = base + b.numberOfCommissioningRequest.toNat := by
    obtain ⟨sent, le⟩ := h.counted plain
    have low : s.gpdNode.currentCommReq.toNat ≤ b.numberOfCommissioningRequest.toNat := le
    have high : b.numberOfCommissioningRequest.toNat ≤ s.gpdNode.currentCommReq.toNat :=
      UInt8.not_lt.mp (done plain)
    omega
  refine ⟨?_, exact⟩
  by_cases follows : b.appDescriptionFollows = true
  · exact h.described follows (substate follows)
  · exact (exact (Bool.eq_false_of_not_eq_true follows)).ge

end

end

end GreenPower.AttemptProgress
