import GreenPower.PolledLoop
import GreenPower.AesCipher
import GreenPower.ReceiveWindows

set_option autoImplicit false

/-!
The two loops that send a request, open a window and look for the response at the head of the next
round. The response to the last request is overwritten behind the loop.
-/
namespace GreenPower.ResponseLoops
open MemoryArray ByteWord BuildOptions DeviceState Security NonVolatile IncomingCommand
  IncomingMessage ReceiveOutcome SendReceive CommissioningCommand Commissioning GpdTask DeviceSteps
  PolledLoop ReceiveWindows AesCipher
open CommandEffects (channelConfigFrame)

def listening (b : Build) (frameType : UInt8) (payload : List UInt8) (s : Device) : Device :=
  let s := writeTxFifo b frameType (payload.take srcIdMaxPayloadSize) (updateFrameCounter b s)
  let s := s.record (.startTx s.gpdNode.skipCca s.gpdNode.channel s.gpdNode.securityFrameCounter)
  { s.record (.startRx s.gpdNode.channel (nonce s.nonceRx)) with air := s.air.tail }

/-- The window after this send brings one frame, which the link-layer task reacts to with `r`. The
radio is idle after a reception. -/
def Hears (b : Build) (frameType : UInt8) (payload : List UInt8) (s : Device) (r : Reaction) :
    Prop :=
  s.gpdNode.rxAfterTx ≠ 0 ∧ ∃ packet, s.air.head? = some [packet] ∧
    packetReaction b packet (listening b frameType payload s) = r

theorem railCbGeneric_gpdNode (b : Build) (packet : List UInt8) (s : Device) :
    (railCbGeneric b packet s).gpdNode = (packetReaction b packet s).gpdNode s.gpdNode := by
  obtain ⟨size, s', quiet, reacts⟩ := railCbGeneric_react b packet s
  rw [reacts]
  exact congrArg (fun gpd => (packetReaction b packet s).gpdNode gpd) quiet.gpdNode

theorem send_hears {b : Build} {frameType : UInt8} {payload : List UInt8} {s : Device} {r : Reaction}
    (hears : Hears b frameType payload s r) : ∃ c,
      (emberAfGpdfSend b frameType payload cmdResendNumber s).gpdNode =
        r.gpdNode { s.gpdNode with securityFrameCounter := c } := by
  obtain ⟨window, packet, heard, reacts⟩ := hears
  obtain ⟨c, gpd⟩ := compose_gpdNode b frameType (payload.take srcIdMaxPayloadSize) s
  have air : (writeTxFifo b frameType (payload.take srcIdMaxPayloadSize)
      (updateFrameCounter b s)).air = s.air := by
    obtain ⟨mpdu, frame, eq⟩ := writeTxFifo_eq b frameType (payload.take srcIdMaxPayloadSize)
      (updateFrameCounter b s)
    rw [eq]
    unfold updateFrameCounter
    cases b.macSeq <;> rfl
  have receives : emberAfGpdfSend b frameType payload cmdResendNumber s =
      railCbGeneric b packet (listening b frameType payload s) := by
    change startTx b (writeTxFifo b frameType (payload.take srcIdMaxPayloadSize)
      (updateFrameCounter b s)) = _
    unfold startTx emberAfGpdScheduledReceive listening
    generalize writeTxFifo b frameType (payload.take srcIdMaxPayloadSize)
      (updateFrameCounter b s) = t at gpd air
    have listens : t.gpdNode.rxAfterTx ≠ 0 := by
      rw [gpd]
      exact window
    rw [if_pos listens]
    simp only [Device.record, air]
    cases heardAir : s.air with
    | nil =>
      rw [heardAir] at heard
      cases heard
    | cons first rest =>
      rw [heardAir] at heard
      obtain rfl := Option.some.inj heard
      rfl
  refine ⟨c, ?_⟩
  rw [receives, railCbGeneric_gpdNode, reacts]
  exact congrArg (fun gpd => r.gpdNode gpd) gpd

/-- The device before the `i`-th request on the receive channel, if it is sent. -/
def beforeRequest (b : Build) (s : Device) (i : ℕ) : Device :=
  (requestOnChannel b nextRxChannel)^[i]
    { s with gpdNode := { s.gpdNode with rxAfterTx := 1, autoCommissioning := false } }

def channelRequest : List UInt8 :=
  [cmdChannelRqst, (nextRxChannel - 11) + ((secondNextRxChannel - 11) <<< (4 : UInt8))]

/-- The `i`-th request is sent, and in its window a Channel Configuration is accepted. -/
structure ConfiguredBy (b : Build) (s : Device) (i : ℕ) (channel : UInt8) : Prop where
  below : i < b.numberOfChannelRequestPerChannel
  sent : ∀ j ≤ i, (beforeRequest b s j).gpdNode.gpdState ≠ appStateChannelReceived
  hears : Hears b nwkFcFrameTypeMaint channelRequest
    { beforeRequest b s i with gpdNode.channel := nextRxChannel } (.channelConfig channel)

/-- The configuration is in place when the function returns, and nothing was sent after it. -/
def ConfigurationKept (b : Build) (s : Device) (i : ℕ) (channel : UInt8) : Prop :=
  let s' := gpdCommissioningChannelRequestOnRxChannel b s
  s'.gpdNode.gpdState = appStateChannelReceived ∧ s'.gpdNode.channel = channel ∧
    s'.log = (beforeRequest b s (i + 1)).log

theorem rxChannelRequests_poll (b : Build) (n : ℕ) (s : Device) : rxChannelRequests b n s =
    let (early, s) := poll (fun s : Device => s.gpdNode.gpdState = appStateChannelReceived)
      (requestOnChannel b nextRxChannel) n s
    if early then s else { s with gpdNode.gpdState := appStateChannelRequest } := by
  induction n generalizing s with
  | zero => rfl
  | succ n ih =>
    unfold rxChannelRequests poll
    split_ifs
    · rfl
    · exact ih _

theorem beforeRequest_succ (b : Build) (s : Device) (i : ℕ) :
    beforeRequest b s (i + 1) = requestOnChannel b nextRxChannel (beforeRequest b s i) :=
  Function.iterate_succ_apply' _ _ _

theorem configuration_kept_iff (b : Build) (s : Device) {i : ℕ} {channel : UInt8}
    (configured : ConfiguredBy b s i channel) :
    ConfigurationKept b s i channel ↔ i + 1 < b.numberOfChannelRequestPerChannel := by
  obtain ⟨below, sent, hears⟩ := configured
  obtain ⟨c, gpd⟩ := send_hears hears
  have after : (beforeRequest b s (i + 1)).gpdNode.gpdState = appStateChannelReceived ∧
      (beforeRequest b s (i + 1)).gpdNode.channel = channel := by
    rw [beforeRequest_succ]
    exact ⟨congrArg EmberGpd.gpdState gpd, congrArg EmberGpd.channel gpd⟩
  have loop := @poll_round Device (fun s => s.gpdNode.gpdState = appStateChannelReceived) _
    (requestOnChannel b nextRxChannel) _ _ _ below sent after.1
  have returned : gpdCommissioningChannelRequestOnRxChannel b s =
      if i + 1 < b.numberOfChannelRequestPerChannel then beforeRequest b s (i + 1)
      else { beforeRequest b s (i + 1) with gpdNode.gpdState := appStateChannelRequest } := by
    unfold gpdCommissioningChannelRequestOnRxChannel
    rw [rxChannelRequests_poll, loop]
    simp only [decide_eq_true_eq]
    rfl
  unfold ConfigurationKept
  simp only [returned]
  by_cases more : i + 1 < b.numberOfChannelRequestPerChannel
  · rw [if_pos more]
    exact iff_of_true ⟨after.1, after.2, rfl⟩ more
  · rw [if_neg more]
    exact iff_of_false (fun kept => absurd kept.1
      (by decide : ¬ appStateChannelRequest = appStateChannelReceived)) more

/-- The application description command that is sent next, and the device that sends it. -/
def described (b : Build) (s : Device) : List UInt8 × Device :=
  let ((commandLength, command), last, s) :=
    gpdBuildCommissioningApplicationDescriptionCommand command s
  (load command.cell 0 commandLength,
    if b.bidirCapable then { s with gpdNode.rxAfterTx := if last then 1 else 0 } else s)

theorem sendApplicationDescriptionCommand_eq (b : Build) (s : Device) :
    (sendApplicationDescriptionCommand b s).2 =
      emberAfGpdfSend b nwkFcFrameTypeData (described b s).1 cmdResendNumber (described b s).2 := rfl

def beforeFinalRequest (b : Build) (s : Device) (i : ℕ) : Device :=
  (fun s => (sendApplicationDescriptionCommand b s).2)^[i] s

/-- The `i`-th final request is sent, and in its window a Commissioning Reply is accepted. -/
structure RepliedBy (b : Build) (s : Device) (i : ℕ) : Prop where
  final : s.applicationDescriptionState = appDescStepSendAppDescriptionFinalReq
  below : i < b.numberOfCommissioningRequest.toNat
  sent : ∀ j ≤ i,
    (beforeFinalRequest b s j).gpdNode.gpdState ≠ appStateCommissioningReplyReceived
  hears : ∃ newKey level keyType,
    Hears b nwkFcFrameTypeData (described b (beforeFinalRequest b s i)).1
      (described b (beforeFinalRequest b s i)).2 (.replyAccepted newKey level keyType)

def ReplyKept (b : Build) (s : Device) (i : ℕ) : Prop :=
  let s' := gpdCommissioningStateMachineWithAppDescription b s
  s'.gpdNode.gpdState = appStateCommissioningReplyReceived ∧
    s'.log = (beforeFinalRequest b s (i + 1)).log

theorem finalRequests_poll (b : Build) (n : ℕ) (s : Device) : finalRequests b n s =
    poll (fun s : Device => s.gpdNode.gpdState = appStateCommissioningReplyReceived)
      (fun s => (sendApplicationDescriptionCommand b s).2) n s := by
  induction n generalizing s with
  | zero => rfl
  | succ n ih =>
    unfold finalRequests poll
    split_ifs
    · rfl
    · exact ih _

theorem reply_kept_iff (b : Build) (s : Device) {i : ℕ} (replied : RepliedBy b s i) :
    ReplyKept b s i ↔ i + 1 < b.numberOfCommissioningRequest.toNat := by
  obtain ⟨final, below, sent, newKey, level, keyType, hears⟩ := replied
  obtain ⟨c, gpd⟩ := send_hears hears
  have after : (beforeFinalRequest b s (i + 1)).gpdNode.gpdState =
      appStateCommissioningReplyReceived := by
    unfold beforeFinalRequest
    rw [Function.iterate_succ_apply', sendApplicationDescriptionCommand_eq]
    exact congrArg EmberGpd.gpdState gpd
  have loop := @poll_round Device
    (fun s => s.gpdNode.gpdState = appStateCommissioningReplyReceived) _
    (fun s => (sendApplicationDescriptionCommand b s).2) _ _ _ below sent after
  have returned : gpdCommissioningStateMachineWithAppDescription b s =
      let s' := if i + 1 < b.numberOfCommissioningRequest.toNat then beforeFinalRequest b s (i + 1)
        else { beforeFinalRequest b s (i + 1) with gpdNode.gpdState := appStateNotCommissioned }
      { s' with applicationDescriptionState := appDescStepSendCommissioningReq } := by
    have first : ¬ s.applicationDescriptionState = appDescStepSendCommissioningReq := by
      rw [final]
      decide
    have second : ¬ s.applicationDescriptionState = appDescStepSendAppDescriptionReq := by
      rw [final]
      decide
    unfold gpdCommissioningStateMachineWithAppDescription
    rw [if_neg first, if_neg second, if_pos final, finalRequests_poll, loop]
    simp only [decide_eq_true_eq]
    rfl
  unfold ReplyKept
  simp only [returned]
  by_cases more : i + 1 < b.numberOfCommissioningRequest.toNat
  · rw [if_pos more]
    exact iff_of_true ⟨after, rfl⟩ more
  · rw [if_neg more]
    exact iff_of_false (fun kept => absurd kept.1
      (by decide : ¬ appStateNotCommissioned = appStateCommissioningReplyReceived)) more

/-- A response is kept exactly if there is a round left to see it. -/
theorem response_kept_iff (b : Build) (s : Device) :
    (∀ i channel, ConfiguredBy b s i channel →
      (ConfigurationKept b s i channel ↔ i + 1 < b.numberOfChannelRequestPerChannel)) ∧
    ∀ i, RepliedBy b s i → (ReplyKept b s i ↔ i + 1 < b.numberOfCommissioningRequest.toNat) :=
  ⟨fun _ _ configured => configuration_kept_iff b s configured,
    fun _ replied => reply_kept_iff b s replied⟩

def configuredIn (i : ℕ) : Device :=
  { life (shipped (aesCcm tagSize)) [] [.command .commission, .stack [] [] []] with
    air := List.replicate i [] ++ [[channelConfigFrame]] }

theorem configuredIn_first : ConfiguredBy (shipped (aesCcm tagSize)) (configuredIn 0) 0 16 where
  below := (by decide : 0 < 4)
  sent := by decide +kernel
  hears := ⟨by decide +kernel, channelConfigFrame, by decide +kernel, by decide +kernel⟩

theorem configuredIn_last : ConfiguredBy (shipped (aesCcm tagSize)) (configuredIn 3) 3 16 where
  below := (by decide : 3 < 4)
  sent := by decide +kernel
  hears := ⟨by decide +kernel, channelConfigFrame, by decide +kernel, by decide +kernel⟩

theorem first_configuration_kept :
    ConfigurationKept (shipped (aesCcm tagSize)) (configuredIn 0) 0 16 :=
  ((response_kept_iff _ _).1 0 16 configuredIn_first).mpr (by decide : 0 + 1 < 4)

/-- The configuration in the last window is overwritten. -/
theorem last_configuration_lost : ConfiguredBy (shipped (aesCcm tagSize)) (configuredIn 3) 3 16 ∧
    ¬ ConfigurationKept (shipped (aesCcm tagSize)) (configuredIn 3) 3 16 := by
  refine ⟨configuredIn_last, fun kept => ?_⟩
  have more := (configuration_kept_iff _ _ configuredIn_last).mp kept
  exact absurd more (by decide : ¬ 3 + 1 < 4)

end GreenPower.ResponseLoops
