import GreenPower.AttemptProgress
import GreenPower.CommandEffects
import GreenPower.CrashConsistency

set_option autoImplicit false

/-!
The security settings over an attempt in which no reply comes in: what it overwrites, and that
nothing is put back when it is given up.
-/
namespace GreenPower.AttemptSecurity
open MemoryArray BuildOptions DeviceState Security NonVolatile IncomingCommand IncomingMessage
  ReceiveOutcome SendReceive Commissioning GpdTask EventLog DeviceSteps CrashConsistency
  AttemptLockstep AttemptProgress
open Relation (ReflTransGen)

@[ext]
structure SecuritySettings where
  securityLevel : UInt8
  securityKeyType : UInt8
  securityKey : Key
  ccmKey : Key

def securityOf (s : Device) : SecuritySettings :=
  ⟨s.gpdNode.securityLevel, s.gpdNode.securityKeyType, s.gpdNode.securityKey, s.ccmKey⟩

def isReply : Event → Bool
  | .replyAccepted _ => true
  | .replyRejected => true
  | _ => false

def replies (log : List Event) : ℕ := log.countP isReply

/-- The key in a request is encrypted under the TC link key, which stays in the CCM context. -/
def encryptsKey (b : Build) : Bool := b.securityLevel > securityLevelNone ∧ b.keyEncrypt = true

/-- What is left of the settings when channels were requested or a network was. -/
def outcome (b : Build) (channels network : Bool) (settings : SecuritySettings) : SecuritySettings where
  securityLevel := if channels || network then securityLevelNone else settings.securityLevel
  securityKeyType := if channels then securityKeyTypeNoKey else settings.securityKeyType
  securityKey := settings.securityKey
  ccmKey := if network && encryptsKey b then keyDefaultTCLink else settings.ccmKey

theorem outcome_outcome (b : Build) (channels channels' network network' : Bool)
    (settings : SecuritySettings) :
    outcome b channels' network' (outcome b channels network settings) =
      outcome b (channels || channels') (network || network') settings := by
  unfold outcome
  cases channels <;> cases channels' <;> cases network <;> cases network' <;> cases encryptsKey b <;>
    rfl

def Attempting (gpdState : ApplicationState) : Prop :=
  gpdState = appStateNotCommissioned ∨ gpdState = appStateChannelRequest ∨
    gpdState = appStateChannelReceived

/-- From `s` to `s'` channels or a network were requested, or not, if no reply came in. -/
structure Effect (b : Build) (channels network : Bool) (s s' : Device) : Prop where
  grown : replies s.log ≤ replies s'.log
  security : replies s'.log = replies s.log →
    securityOf s' = outcome b channels network (securityOf s)
  state : replies s'.log = replies s.log →
    s'.gpdNode.gpdState = s.gpdNode.gpdState ∨ Attempting s'.gpdNode.gpdState

section
variable {b : Build} {s s' s'' : Device} {channels channels' network network' : Bool}

theorem Effect.refl (s : Device) : Effect b false false s s :=
  ⟨le_rfl, fun _ => rfl, fun _ => Or.inl rfl⟩

theorem Effect.trans (h : Effect b channels network s s') (h' : Effect b channels' network' s' s'') :
    Effect b (channels || channels') (network || network') s s'' := by
  have both (unreplied : replies s''.log = replies s.log) :
      replies s'.log = replies s.log ∧ replies s''.log = replies s'.log := by
    have first := h.grown
    have second := h'.grown
    omega
  refine ⟨h.grown.trans h'.grown, fun unreplied => ?_, fun unreplied => ?_⟩
  · obtain ⟨first, second⟩ := both unreplied
    rw [h'.security second, h.security first, outcome_outcome]
  · obtain ⟨first, second⟩ := both unreplied
    rcases h'.state second with same | attempting
    · rw [same]
      exact h.state first
    · exact Or.inr attempting

/-- Only what is not looked at differs. -/
theorem effect_same (log : replies s'.log = replies s.log) (security : securityOf s' = securityOf s)
    (state : s'.gpdNode.gpdState = s.gpdNode.gpdState ∨ Attempting s'.gpdNode.gpdState) :
    Effect b false false s s' :=
  ⟨log.ge, fun _ => security, fun _ => state⟩

theorem Effect.then (h : Effect b channels network s s') (log : replies s''.log = replies s'.log)
    (security : securityOf s'' = securityOf s')
    (state : s''.gpdNode.gpdState = s'.gpdNode.gpdState ∨ Attempting s''.gpdNode.gpdState) :
    Effect b channels network s s'' := by
  have next := h.trans (effect_same (b := b) log security state)
  rwa [Bool.or_false, Bool.or_false] at next

theorem replies_append {new log : List Event} (none : ∀ e ∈ new, isReply e = false) :
    replies (new ++ log) = replies log := by
  have zero : new.countP isReply = 0 :=
    List.countP_eq_zero.mpr (fun e he => by simp [none e he])
  unfold replies
  rw [List.countP_append, zero, Nat.zero_add]

theorem replies_cons {e : Event} (log : List Event) (other : isReply e = false) :
    replies (e :: log) = replies log :=
  replies_append (List.forall_mem_singleton.mpr other)

theorem effect_radioStep (step : RadioStep s s') : Effect b false false s s' := by
  cases step with
  | startTx => exact effect_same rfl rfl (Or.inl rfl)
  | startRx => exact effect_same rfl rfl (Or.inl rfl)
  | nextWindow => exact effect_same rfl rfl (Or.inl rfl)
  | arrival quiet arrivals =>
    have log := quiet.log
    obtain ⟨_, _, _, _, _, rfl⟩ := quiet
    refine effect_same ?_ rfl (Or.inl rfl)
    rw [log]
    exact replies_append (fun e he => by cases arrivals e he <;> rfl)
  | reaction r =>
    cases r with
    | ignored => exact effect_same rfl rfl (Or.inl rfl)
    | channelConfig => exact effect_same rfl rfl (Or.inr (Or.inr (Or.inr rfl)))
    | replyAccepted newKey =>
      have more : replies (.setState appStateCommissioningReplyReceived ::
          .replyAccepted newKey :: s.log) = replies s.log + 1 := by
        simp [replies, List.countP_cons, isReply]
      exact ⟨Nat.le.intro more.symm, fun none => absurd (more.symm.trans none) (by omega),
        fun none => absurd (more.symm.trans none) (by omega)⟩
    | replyRejected =>
      have more : replies (.replyRejected :: s.log) = replies s.log + 1 := by
        simp [replies, List.countP_cons, isReply]
      exact ⟨Nat.le.intro more.symm, fun none => absurd (more.symm.trans none) (by omega),
        fun none => absurd (more.symm.trans none) (by omega)⟩

theorem effect_radio (run : ReflTransGen RadioStep s s') : Effect b false false s s' :=
  star_preserves (I := Effect b false false s)
    (fun _ _ step h => h.trans (effect_radioStep step)) run (Effect.refl s)

theorem effect_send (frameType : UInt8) (payload : List UInt8) (times : ℕ) (s : Device) :
    Effect b false false s (emberAfGpdfSend b frameType payload times s) := by
  have counted : Effect b false false s (updateFrameCounter b s) := by
    unfold updateFrameCounter
    cases b.macSeq <;> exact effect_same rfl rfl (Or.inl rfl)
  obtain ⟨mpdu, frame, eq⟩ :=
    writeTxFifo_eq b frameType (payload.take srcIdMaxPayloadSize) (updateFrameCounter b s)
  have secured : ∀ e ∈ secureEvents frameType (updateFrameCounter b s), isReply e = false := by
    intro e he
    obtain ⟨_, _, _, _, rfl⟩ := secureEvents_mem he
    rfl
  have composed : Effect b false false s
      (writeTxFifo b frameType (payload.take srcIdMaxPayloadSize) (updateFrameCounter b s)) := by
    rw [eq]
    exact counted.then (replies_append secured) rfl (Or.inl rfl)
  exact composed.trans (effect_radio (emberAfGpdfSend_radio b frameType payload times s))

theorem effect_request (s : Device) : Effect b false true s (sendCommissioningRequest b s) := by
  have cleared : Effect b false true s
      (built b { s with gpdNode.securityLevel := securityLevelNone }).2 := by
    unfold AttemptLockstep.built
    rw [buildCommand_device]
    by_cases encrypts : encryptsKey b = true
    · have both := of_decide_eq_true encrypts
      rw [if_pos ⟨both.1, rfl, both.2⟩]
      refine ⟨le_rfl, fun _ => ?_, fun _ => Or.inl rfl⟩
      unfold outcome
      rw [encrypts]
      rfl
    · rw [if_neg (fun all => encrypts (decide_eq_true ⟨all.1, all.2.2⟩))]
      refine ⟨le_rfl, fun _ => ?_, fun _ => Or.inl rfl⟩
      unfold outcome
      rw [Bool.eq_false_of_not_eq_true encrypts]
      rfl
  rw [sendCommissioningRequest_eq]
  exact cleared.trans (effect_send _ _ _ _)

theorem effect_iterate {f : Device → Device} (h : ∀ s, Effect b false network s (f s)) (n : ℕ)
    (s : Device) : Effect b false (decide (0 < n) && network) s (f^[n] s) := by
  induction n generalizing s with
  | zero => exact Effect.refl s
  | succ n ih =>
    have next := (h s).trans (ih (f s))
    rw [Function.iterate_succ_apply]
    rw [decide_eq_true (Nat.succ_pos n), Bool.true_and]
    cases network
    · simpa using next
    · simpa using next

theorem effect_quiet_iterate {f : Device → Device} (h : ∀ s, Effect b false false s (f s)) (n : ℕ)
    (s : Device) : Effect b false false s (f^[n] s) := by
  have all := effect_iterate h n s
  rwa [Bool.and_false] at all

theorem effect_requestOnChannel (channel : UInt8) (s : Device) :
    Effect b false false s (requestOnChannel b channel s) := by
  have tuned : Effect b false false s { s with gpdNode.channel := channel } :=
    effect_same rfl rfl (Or.inl rfl)
  exact tuned.trans (effect_send _ _ _ _)

theorem effect_sweep (channels : List UInt8) (s : Device) :
    Effect b false false s (channels.foldl (fun s channel => requestOnChannel b channel s) s) := by
  induction channels generalizing s with
  | nil => exact Effect.refl s
  | cons channel channels ih => exact (effect_requestOnChannel channel s).trans (ih _)

theorem effect_rxChannelRequests (n : ℕ) (s : Device) :
    Effect b false false s (rxChannelRequests b n s) := by
  induction n generalizing s with
  | zero => exact effect_same rfl rfl (Or.inr (Or.inr (Or.inl rfl)))
  | succ n ih =>
    unfold rxChannelRequests
    split_ifs
    · exact Effect.refl s
    · exact (effect_requestOnChannel _ s).trans (ih _)

theorem effect_channelRequest (s : Device) :
    Effect b true false s (gpdCommissioningChannelRequestStateMachine b s) := by
  have cleared (gpd : EmberGpd) (level : gpd.securityLevel = securityLevelNone)
      (keyType : gpd.securityKeyType = securityKeyTypeNoKey)
      (key : gpd.securityKey = s.gpdNode.securityKey) (state : gpd.gpdState = s.gpdNode.gpdState) :
      Effect b true false s { s with gpdNode := gpd } := by
    refine ⟨le_rfl, fun _ => ?_, fun _ => Or.inl state⟩
    exact SecuritySettings.ext level keyType key rfl
  unfold gpdCommissioningChannelRequestStateMachine
  simp only
  split_ifs
  · refine ((cleared _ ?_ ?_ ?_ ?_).trans
      (effect_quiet_iterate (effect_sweep _) _ _)).then rfl rfl (Or.inl rfl) <;> rfl
  · refine ((cleared _ ?_ ?_ ?_ ?_).trans
      (effect_rxChannelRequests _ _)).then rfl rfl (Or.inl rfl) <;> rfl
  · exact cleared _ rfl rfl rfl rfl

theorem effect_applicationDescription (s : Device) :
    Effect b false false s (sendApplicationDescriptionCommand b s).2 := by
  unfold sendApplicationDescriptionCommand gpdBuildCommissioningApplicationDescriptionCommand
    emberGpdAfPluginGetApplicationDescriptionCallback
  simp only
  by_cases bidir : b.bidirCapable = true
  · rw [if_pos bidir]
    have flagged (window : UInt8) : Effect b false false s
        { s with descriptions := s.descriptions.tail, gpdNode.rxAfterTx := window } :=
      effect_same rfl rfl (Or.inl rfl)
    exact (flagged _).trans (effect_send _ _ _ _)
  · rw [if_neg bidir]
    have described : Effect b false false s { s with descriptions := s.descriptions.tail } :=
      effect_same rfl rfl (Or.inl rfl)
    exact described.trans (effect_send _ _ _ _)

theorem effect_finalRequests (n : ℕ) (s : Device) :
    Effect b false false s (finalRequests b n s).2 := by
  induction n generalizing s with
  | zero => exact Effect.refl s
  | succ n ih =>
    unfold finalRequests
    split_ifs
    · exact Effect.refl s
    · exact (effect_applicationDescription s).trans (ih _)

def requestsLeft (b : Build) (s : Device) : Bool :=
  if b.appDescriptionFollows then
    s.applicationDescriptionState = appDescStepSendCommissioningReq ∧
      0 < b.numberOfCommissioningRequest.toNat
  else s.gpdNode.currentCommReq < b.numberOfCommissioningRequest

theorem effect_withAppDescription (follows : b.appDescriptionFollows = true) (s : Device) :
    Effect b false (requestsLeft b s) s (gpdCommissioningStateMachineWithAppDescription b s) := by
  have described := effect_applicationDescription (b := b) s
  have final := effect_finalRequests (b := b) b.numberOfCommissioningRequest.toNat s
  unfold gpdCommissioningStateMachineWithAppDescription requestsLeft
  rw [if_pos follows]
  simp only
  by_cases first : s.applicationDescriptionState = appDescStepSendCommissioningReq
  · have silenced : Effect b false false s { s with gpdNode.rxAfterTx := 0 } :=
      effect_same rfl rfl (Or.inl rfl)
    have sent := (silenced.trans
      (effect_iterate effect_request b.numberOfCommissioningRequest.toNat _))
    rw [Bool.and_true] at sent
    rw [if_pos first, decide_eq_decide.mpr (and_iff_right first)]
    exact sent.then rfl rfl (Or.inl rfl)
  · rw [if_neg first, decide_eq_false (fun both => first both.1)]
    split_ifs
    · exact described.then rfl rfl (Or.inl rfl)
    · exact described
    · exact final.then rfl rfl (Or.inl rfl)
    · exact final.then rfl rfl (Or.inr (Or.inl rfl))
    · exact effect_same rfl rfl (Or.inl rfl)

theorem effect_bidirCommissioning (received : s.gpdNode.gpdState = appStateChannelReceived) :
    Effect b false (requestsLeft b s) s (gpdBidirCommissioningStateMachine b s) := by
  have unreplied : ¬ s.gpdNode.gpdState = appStateCommissioningReplyReceived := by
    rw [received]
    decide
  unfold gpdBidirCommissioningStateMachine
  by_cases follows : b.appDescriptionFollows = true
  · rw [if_pos follows]
    exact effect_withAppDescription follows s
  unfold requestsLeft
  rw [if_neg follows, if_neg follows]
  by_cases more : s.gpdNode.currentCommReq < b.numberOfCommissioningRequest
  · rw [if_pos more, if_neg unreplied, decide_eq_true more]
    exact (effect_request s).then rfl rfl (Or.inl rfl)
  · rw [if_neg more, decide_eq_false more]
    exact effect_same rfl rfl (Or.inr (Or.inl rfl))

def requestsChannels (s : Device) : Bool := s.gpdNode.gpdState = appStateChannelRequest

def requestsNetwork (b : Build) (s : Device) : Bool :=
  decide (s.gpdNode.gpdState = appStateChannelReceived) && requestsLeft b s

theorem effect_stateSwitch (bidir : b.bidirCapable = true)
    (attempting : Attempting s.gpdNode.gpdState) :
    Effect b (requestsChannels s) (requestsNetwork b s) s (stateSwitch b s) := by
  unfold requestsChannels requestsNetwork
  rcases attempting with idle | requesting | received
  · have switched : stateSwitch b s = s := by
      unfold stateSwitch
      rw [idle]
      rfl
    rw [switched, idle]
    exact Effect.refl s
  · rw [stateSwitch_channelRequest bidir requesting, requesting]
    exact effect_channelRequest s
  · rw [stateSwitch_channelReceived bidir received, received]
    exact effect_bidirCommissioning received

end

def OfAttempt : Action → Prop
  | .stack _ _ _ => True
  | .receive _ => True
  | _ => False

def isRound : Action → Bool
  | .stack _ _ _ => true
  | _ => false

def someRound (b : Build) (p : Device → Bool) : Device → List Action → Bool
  | _, [] => false
  | s, a :: actions => isRound a && p s || someRound b p (perform b s a) actions

def Stored (s : Device) : Prop := ∃ image, flash s.log = some image ∧
  (secDataOf (imageCell image)).securityLevel = s.gpdNode.securityLevel ∧
  (secDataOf (imageCell image)).securityKeyType = s.gpdNode.securityKeyType ∧
  (secDataOf (imageCell image)).securityKey = s.gpdNode.securityKey

section
variable {b : Build} {s s' : Device}

theorem stored_stackBranch (b : Build) (s : Device) : Stored (stackBranch b s) := by
  have data := secDataOf_shadow (stateSwitch b s).gpdNode (stateSwitch b s).gpdNvData
  rw [← secDataOf_image] at data
  exact ⟨_, rfl, congrArg SecData.securityLevel data, congrArg SecData.securityKeyType data,
    congrArg SecData.securityKey data⟩

theorem flash_radio (step : RadioStep s s') : flash s'.log = flash s.log := by
  cases step with
  | startTx | startRx | nextWindow => rfl
  | arrival quiet arrivals =>
    rw [quiet.log]
    exact flash_append_silent (fun e he => Arrival.silent (arrivals e he))
  | reaction r => exact flash_append_silent (Reaction.silent r)

/-- The radio alone does not give an attempt up. -/
theorem idle_radio (step : RadioStep s s') (idle : s'.gpdNode.gpdState = appStateNotCommissioned) :
    s.gpdNode.gpdState = appStateNotCommissioned := by
  cases step with
  | startTx | startRx | nextWindow => exact idle
  | arrival quiet => rwa [quiet.gpdNode] at idle
  | reaction r =>
    cases r with
    | ignored | replyRejected => exact idle
    | channelConfig =>
      exact absurd idle (by decide : appStateChannelReceived ≠ appStateNotCommissioned)
    | replyAccepted =>
      exact absurd idle (by decide : appStateCommissioningReplyReceived ≠ appStateNotCommissioned)

theorem stored_receive (packet : List UInt8)
    (unreplied : replies (railCbGeneric b packet s).log = replies s.log)
    (stored : s.gpdNode.gpdState = appStateNotCommissioned → Stored s)
    (idle : (railCbGeneric b packet s).gpdNode.gpdState = appStateNotCommissioned) :
    Stored (railCbGeneric b packet s) := by
  have radio := railCbGeneric_radio b packet s
  have security := (effect_radio (b := b) radio).security unreplied
  have same : flash (railCbGeneric b packet s).log = flash s.log :=
    star_preserves (I := fun t => flash t.log = flash s.log)
      (fun _ _ step h => (flash_radio step).trans h) radio rfl
  have before : (railCbGeneric b packet s).gpdNode.gpdState = appStateNotCommissioned →
      s.gpdNode.gpdState = appStateNotCommissioned :=
    star_preserves (I := fun t => t.gpdNode.gpdState = appStateNotCommissioned →
      s.gpdNode.gpdState = appStateNotCommissioned)
      (fun _ _ step h idle => h (idle_radio step idle)) radio (fun h => h)
  obtain ⟨image, flashed, level, keyType, key⟩ := stored (before idle)
  have levels := congrArg SecuritySettings.securityLevel security
  have keyTypes := congrArg SecuritySettings.securityKeyType security
  have keys := congrArg SecuritySettings.securityKey security
  exact ⟨image, same.trans flashed, level.trans levels.symm, keyType.trans keyTypes.symm,
    key.trans keys.symm⟩

theorem perform_effect (bidir : b.bidirCapable = true) {a : Action} (ofAttempt : OfAttempt a)
    (attempting : Attempting s.gpdNode.gpdState) :
    Effect b (isRound a && requestsChannels s) (isRound a && requestsNetwork b s) s
      (perform b s a) := by
  cases a with
  | stack air randoms descriptions =>
    have equipped : Effect b false false s
        { s with air := air, randoms := randoms, descriptions := descriptions } :=
      effect_same rfl rfl (Or.inl rfl)
    have switched := equipped.trans (effect_stateSwitch bidir attempting)
    refine switched.then ?_ rfl (Or.inl rfl)
    exact replies_cons _ rfl
  | receive packet => exact effect_radio (railCbGeneric_radio b packet s)
  | command | transmit | store => exact ofAttempt.elim

theorem replies_run (b : Build) (s : Device) (actions : List Action) :
    replies s.log ≤ replies (actions.foldl (perform b) s).log := by
  obtain ⟨new, grown⟩ := run_log_suffix b s actions
  rw [← grown]
  unfold replies
  rw [List.countP_append]
  exact Nat.le_add_left _ _

/-- Rounds and packets without a reply, from the command on. -/
theorem attempt_run (bidir : b.bidirCapable = true) (actions : List Action)
    (ofAttempt : ∀ a ∈ actions, OfAttempt a) (attempting : Attempting s.gpdNode.gpdState)
    (stored : s.gpdNode.gpdState = appStateNotCommissioned → Stored s)
    (unreplied : replies (actions.foldl (perform b) s).log = replies s.log) :
    let s' := actions.foldl (perform b) s
    securityOf s' = outcome b (someRound b requestsChannels s actions)
      (someRound b (requestsNetwork b) s actions) (securityOf s) ∧
    (s'.gpdNode.gpdState = appStateNotCommissioned → Stored s') := by
  induction actions generalizing s with
  | nil => exact ⟨rfl, stored⟩
  | cons a actions ih =>
    have first := perform_effect bidir (ofAttempt a List.mem_cons_self) attempting
    have rest : replies (perform b s a).log ≤ replies (actions.foldl (perform b) (perform b s a)).log :=
      replies_run b (perform b s a) actions
    have before := first.grown
    rw [List.foldl_cons] at unreplied
    have quiet : replies (perform b s a).log = replies s.log := by omega
    have next : Attempting (perform b s a).gpdNode.gpdState := by
      rcases first.state quiet with same | attempting'
      · rwa [same]
      · exact attempting'
    have kept : (perform b s a).gpdNode.gpdState = appStateNotCommissioned →
        Stored (perform b s a) := by
      cases a with
      | stack => exact fun _ => stored_stackBranch b _
      | receive packet => exact stored_receive packet quiet stored
      | command | transmit | store => exact (ofAttempt _ List.mem_cons_self).elim
    obtain ⟨security, end'⟩ := ih (fun x hx => ofAttempt x (List.mem_cons_of_mem _ hx)) next kept
      (unreplied.trans quiet.symm)
    refine ⟨?_, end'⟩
    rw [List.foldl_cons, security, first.security quiet, outcome_outcome]
    rfl

end

structure Restored (s s' : Device) : Prop where
  securityLevel : s'.gpdNode.securityLevel = s.gpdNode.securityLevel
  securityKeyType : s'.gpdNode.securityKeyType = s.gpdNode.securityKeyType
  securityKey : s'.gpdNode.securityKey = s.gpdNode.securityKey
  ccmKey : s'.ccmKey = s.gpdNode.securityKey
  image : ∃ image, flash s'.log = some image ∧
    (secDataOf (imageCell image)).securityLevel = s.gpdNode.securityLevel ∧
    (secDataOf (imageCell image)).securityKeyType = s.gpdNode.securityKeyType ∧
    (secDataOf (imageCell image)).securityKey = s.gpdNode.securityKey

/-- A failed attempt leaves the settings alone exactly when the rounds it went through had
nothing to overwrite. -/
theorem restored_iff (b : Build) (bidir : b.bidirCapable = true) (s : Device)
    (loaded : s.ccmKey = s.gpdNode.securityKey) (actions : List Action)
    (ofAttempt : ∀ a ∈ actions, OfAttempt a)
    (unreplied : replies (actions.foldl (perform b) (commandBranch .commission s)).log =
      replies s.log)
    (gaveUp : (actions.foldl (perform b) (commandBranch .commission s)).gpdNode.gpdState =
      appStateNotCommissioned) :
    Restored s (actions.foldl (perform b) (commandBranch .commission s)) ↔
      (someRound b requestsChannels (commandBranch .commission s) actions = true →
        s.gpdNode.securityLevel = securityLevelNone ∧
          s.gpdNode.securityKeyType = securityKeyTypeNoKey) ∧
      (someRound b (requestsNetwork b) (commandBranch .commission s) actions = true →
        s.gpdNode.securityLevel = securityLevelNone ∧
          (encryptsKey b = true → s.gpdNode.securityKey = keyDefaultTCLink)) := by
  have commanded : replies (commandBranch .commission s).log = replies s.log :=
    replies_cons _ rfl
  obtain ⟨security, stored⟩ := attempt_run (s := commandBranch .commission s) bidir actions ofAttempt
    (Or.inr (Or.inl rfl)) (fun idle => absurd idle (by decide : appStateChannelRequest ≠ _))
    (unreplied.trans commanded.symm)
  obtain ⟨image, flashed, imageLevel, imageKeyType, imageKey⟩ := stored gaveUp
  generalize someRound b requestsChannels (commandBranch .commission s) actions = channels at security
  generalize someRound b (requestsNetwork b) (commandBranch .commission s) actions = network
    at security
  generalize actions.foldl (perform b) (commandBranch .commission s) = s' at *
  have level : s'.gpdNode.securityLevel =
      if channels || network then securityLevelNone else s.gpdNode.securityLevel :=
    congrArg SecuritySettings.securityLevel security
  have keyType : s'.gpdNode.securityKeyType =
      if channels then securityKeyTypeNoKey else s.gpdNode.securityKeyType :=
    congrArg SecuritySettings.securityKeyType security
  have key : s'.gpdNode.securityKey = s.gpdNode.securityKey :=
    congrArg SecuritySettings.securityKey security
  have ccmKey : s'.ccmKey = if network && encryptsKey b then keyDefaultTCLink else s.ccmKey :=
    congrArg SecuritySettings.ccmKey security
  rw [loaded] at ccmKey
  constructor
  · intro restored
    have levels := restored.securityLevel
    have keyTypes := restored.securityKeyType
    have ccmKeys := restored.ccmKey
    rw [level] at levels
    rw [keyType] at keyTypes
    rw [ccmKey] at ccmKeys
    refine ⟨?_, ?_⟩
    · rintro rfl
      exact ⟨levels.symm, keyTypes.symm⟩
    · rintro rfl
      rw [Bool.or_true] at levels
      refine ⟨levels.symm, fun encrypts => ?_⟩
      rw [encrypts] at ccmKeys
      exact ccmKeys.symm
  · rintro ⟨fromChannels, fromNetwork⟩
    have sameLevel : s'.gpdNode.securityLevel = s.gpdNode.securityLevel := by
      rw [level]
      split_ifs with asked
      · rcases Bool.or_eq_true_iff.mp asked with asked | asked
        · exact (fromChannels asked).1.symm
        · exact (fromNetwork asked).1.symm
      · rfl
    have sameKeyType : s'.gpdNode.securityKeyType = s.gpdNode.securityKeyType := by
      rw [keyType]
      split_ifs with asked
      · exact (fromChannels asked).2.symm
      · rfl
    have sameCcmKey : s'.ccmKey = s.gpdNode.securityKey := by
      rw [ccmKey]
      split_ifs with asked
      · obtain ⟨asked, encrypts⟩ := Bool.and_eq_true_iff.mp asked
        exact ((fromNetwork asked).2 encrypts).symm
      · rfl
    exact ⟨sameLevel, sameKeyType, key, sameCcmKey, image, flashed, imageLevel.trans sameLevel,
      imageKeyType.trans sameKeyType, imageKey.trans key⟩

def failedAttempt : List Action :=
  [.stack [] [] [], .stack [[CommandEffects.channelConfigFrame]] [] []] ++
    List.replicate 5 (.stack [] [] [])

theorem failedAttempt_ofAttempt : ∀ a ∈ failedAttempt, OfAttempt a := by
  intro a ha
  simp only [failedAttempt, List.cons_append, List.nil_append, List.replicate, List.mem_cons,
    List.not_mem_nil, or_false] at ha
  rcases ha with rfl | rfl | rfl | rfl | rfl | rfl | rfl <;> trivial

def unsecured : Device :=
  let s := powerUp (shipped (AesCipher.aesCcm tagSize)) []
  { s with
    gpdNode :=
      { s.gpdNode with
        securityLevel := securityLevelNone
        securityKeyType := securityKeyTypeNoKey
        securityKey := keyDefaultTCLink }
    ccmKey := keyDefaultTCLink }

theorem unsecured_restored : Restored unsecured (failedAttempt.foldl
    (perform (shipped (AesCipher.aesCcm tagSize))) (commandBranch .commission unsecured)) := by
  refine (restored_iff (shipped (AesCipher.aesCcm tagSize)) rfl unsecured rfl failedAttempt
    failedAttempt_ofAttempt (by decide +kernel) (by decide +kernel)).mpr ⟨fun _ => ?_, fun _ => ?_⟩
  · exact ⟨rfl, rfl⟩
  · exact ⟨rfl, fun _ => rfl⟩

/-- The shipped device ends without security. -/
theorem shipped_not_restored : ¬ ∀ (s : Device) (actions : List Action),
    s.ccmKey = s.gpdNode.securityKey → (∀ a ∈ actions, OfAttempt a) →
    replies (actions.foldl (perform (shipped (AesCipher.aesCcm tagSize)))
      (commandBranch .commission s)).log = replies s.log →
    (actions.foldl (perform (shipped (AesCipher.aesCcm tagSize)))
      (commandBranch .commission s)).gpdNode.gpdState = appStateNotCommissioned →
    Restored s (actions.foldl (perform (shipped (AesCipher.aesCcm tagSize)))
      (commandBranch .commission s)) := by
  intro claimed
  have restored := claimed (powerUp (shipped (AesCipher.aesCcm tagSize)) []) failedAttempt
    (by decide +kernel) failedAttempt_ofAttempt (by decide +kernel) (by decide +kernel)
  have level := restored.securityLevel
  revert level
  decide +kernel

end GreenPower.AttemptSecurity
