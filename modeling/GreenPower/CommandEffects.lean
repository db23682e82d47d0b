import GreenPower.ReceptionRecord
import GreenPower.FrameAuthentication
import GreenPower.GpdTask

set_option autoImplicit false

/-!
What a received command does to `gpdNode`. No callback looks at `gpdState`: a command has its
effect in every state, and two commands have one.
-/
namespace GreenPower.CommandEffects
open MemoryArray BuildOptions DeviceState IncomingCommand IncomingMessage FrameAcceptance
  ReceiveOutcome ReceptionRecord FrameAuthentication GpdTask AesCipher

theorem frameReaction_of_not_delivered (b : Build) (s : Device)
    (config : ¬ Delivers cmdChannelConfig s (emberGpdIncomingMessageHandler b s))
    (reply : ¬ Delivers cmdCommissioningReply s (emberGpdIncomingMessageHandler b s)) :
    frameReaction b s = .ignored := by
  rw [delivers_iff] at config reply
  unfold frameReaction payloadReaction commandReaction
  split_ifs with accepted payload isConfig isReply
  · exact absurd ⟨⟨accepted, payload⟩, isConfig⟩ config
  · exact absurd ⟨⟨accepted, payload⟩, isReply⟩ reply
  · rfl
  · rfl
  · rfl

theorem frameReaction_of_channelConfig (b : Build) (s : Device)
    (config : Delivers cmdChannelConfig s (emberGpdIncomingMessageHandler b s)) :
    ∃ channel, frameReaction b s = .channelConfig channel := by
  obtain ⟨⟨accepted, payload⟩, command⟩ := (delivers_iff b s _).mp config
  unfold frameReaction payloadReaction commandReaction
  rw [if_pos accepted, if_pos payload, if_pos command]
  exact ⟨_, rfl⟩

theorem replyReaction_cases (b : Build) (addr : EmberGpdAddr) (nonceRx cell : Cells UInt8) (p : ℕ) :
    replyReaction b addr nonceRx cell p = .replyRejected ∨
      ∃ key, replyReaction b addr nonceRx cell p = .replyAccepted key
        (replySecurityLevel (cell p)) (replySecurityKeyType (cell p)) := by
  unfold replyReaction
  simp only
  split_ifs
  · exact Or.inr ⟨_, rfl⟩
  · exact Or.inl rfl
  · exact Or.inr ⟨_, rfl⟩
  · exact Or.inr ⟨_, rfl⟩
  · exact Or.inr ⟨_, rfl⟩

theorem frameReaction_of_reply (b : Build) (s : Device)
    (reply : Delivers cmdCommissioningReply s (emberGpdIncomingMessageHandler b s)) :
    frameReaction b s = .replyRejected ∨
      ∃ key level type, frameReaction b s = .replyAccepted key level type := by
  obtain ⟨⟨accepted, payload⟩, command⟩ := (delivers_iff b s _).mp reply
  have other : securedBuffer b s.ccmKey s.nonceRx s.rxMpdu.cell (payloadFinger s.rxMpdu.cell) ≠
      cmdChannelConfig := by
    rw [command]
    decide
  unfold frameReaction payloadReaction commandReaction
  rw [if_pos accepted, if_pos payload, if_neg other, if_pos command]
  exact (replyReaction_cases _ _ _ _ _).imp_right (fun ⟨key, h⟩ => ⟨key, _, _, h⟩)

theorem delivers_gpdState (b : Build) (s : Device) (gpdState : ApplicationState)
    (gpdCommand : UInt8) :
    Delivers gpdCommand { s with gpdNode.gpdState := gpdState }
      (emberGpdIncomingMessageHandler b { s with gpdNode.gpdState := gpdState }) ↔
      Delivers gpdCommand s (emberGpdIncomingMessageHandler b s) := by
  rw [delivers_iff, delivers_iff]

/-- The effect of a command as the code has it, in whatever state it arrives. -/
structure CommandEffect (b : Build) (s s' : Device) : Prop where
  channelConfig : Delivers cmdChannelConfig s s' → ∃ channel, 11 ≤ channel ∧ channel ≤ 26 ∧
    s'.gpdNode =
      { s.gpdNode with channel := channel, gpdState := appStateChannelReceived }
  commissioningReply : Delivers cmdCommissioningReply s s' → Reports s s' .replyRejected ∨
    ∃ key level type, level ≤ 3 ∧ type ≤ 7 ∧
      s'.gpdNode =
        { s.gpdNode with
          securityKey := key
          securityLevel := level
          securityKeyType := type
          gpdState := appStateCommissioningReplyReceived }
  others : ¬ Delivers cmdChannelConfig s s' → ¬ Delivers cmdCommissioningReply s s' →
    s'.gpdNode = s.gpdNode
  anyState : ∀ gpdState gpdCommand, Delivers gpdCommand { s with gpdNode.gpdState := gpdState }
      (emberGpdIncomingMessageHandler b { s with gpdNode.gpdState := gpdState }) ↔
    Delivers gpdCommand s s'

theorem received_command_effect (b : Build) (s : Device) :
    CommandEffect b s (emberGpdIncomingMessageHandler b s) := by
  have node := handler_gpdNode b s
  have range := frameReaction_inRange b s
  refine ⟨?_, ?_, ?_, delivers_gpdState b s⟩
  · intro config
    obtain ⟨channel, h⟩ := frameReaction_of_channelConfig b s config
    rw [h] at node range
    exact ⟨channel, range.1, range.2, node⟩
  · intro reply
    rcases frameReaction_of_reply b s reply with h | ⟨key, level, type, h⟩
    · refine Or.inl ((reports_iff (handler_log b s) _).mpr ?_)
      rw [h]
      exact List.mem_cons_self
    · rw [h] at node range
      exact Or.inr ⟨_, level, type, range.1, range.2, node⟩
  · intro config reply
    rw [node, frameReaction_of_not_delivered b s config reply]
    rfl

structure StateGated (s s' : Device) : Prop where
  channel : s'.gpdNode.channel ≠ s.gpdNode.channel → s.gpdNode.gpdState = appStateChannelRequest
  security : s'.gpdNode.securityKey ≠ s.gpdNode.securityKey ∨
      s'.gpdNode.securityKeyType ≠ s.gpdNode.securityKeyType ∨
      s'.gpdNode.securityLevel ≠ s.gpdNode.securityLevel →
    s.gpdNode.gpdState = appStateChannelReceived
  gpdState : s.gpdNode.gpdState ≠ appStateChannelRequest →
    s.gpdNode.gpdState ≠ appStateChannelReceived → s'.gpdNode.gpdState = s.gpdNode.gpdState

def channelConfigFrame : List UInt8 :=
  [12, 0x01, 0x08, 0, 0xff, 0xff, 0xff, 0xff, 0x0d, 0xf3, 0x05]

theorem channelConfig_ungated : ∃ s,
    s = life (shipped (aesCcm tagSize)) [] [.command .send, .stack [] [] []] ∧
      ¬ StateGated s (railCbGeneric (shipped (aesCcm tagSize)) channelConfigFrame s) := by
  refine ⟨_, rfl, fun gated => ?_⟩
  have waiting := gated.channel (by decide +kernel)
  revert waiting
  decide +kernel

end GreenPower.CommandEffects
