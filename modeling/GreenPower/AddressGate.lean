import GreenPower.CommandEffects

set_option autoImplicit false

/-!
Which frames change the security material. Data frames pass the address check before their
command is looked at; a maintenance frame carries no address, and its command is dispatched
all the same.
-/
namespace GreenPower.AddressGate
open MemoryArray BuildOptions DeviceState Security IncomingCommand IncomingMessage FrameAcceptance
  ReceiveOutcome ReceptionRecord CommandEffects AesCipher FrameAuthentication

/-- From `s` to `s'` the security material changed or a reply was acted upon. -/
def ChangesSecurity (s s' : Device) : Prop :=
  s'.gpdNode.securityKey ≠ s.gpdNode.securityKey ∨
    s'.gpdNode.securityKeyType ≠ s.gpdNode.securityKeyType ∨
    s'.gpdNode.securityLevel ≠ s.gpdNode.securityLevel ∨
    Reports s s' (.setState appStateCommissioningReplyReceived)

def AddressedTo (buffer : Cells UInt8) (own : EmberGpdAddr) : Prop :=
  frameType buffer = nwkFcFrameTypeData ∧ nwkFcExtnPresent buffer = true ∧
    appId buffer = appIdSrcId ∧ readWord buffer (srcIdFinger buffer) = own.srcId

theorem addressedTo_of_accepted {buffer : Cells UInt8} {own : EmberGpdAddr}
    (nonzero : own.srcId ≠ 0) (accepted : Accepted buffer own)
    (data : frameType buffer = nwkFcFrameTypeData) : AddressedTo buffer own := by
  obtain ⟨-, same⟩ := (addressAccepted_iff buffer own).mp accepted.2 data
  by_cases present : srcIdPresent buffer = true
  · obtain ⟨ext, app, -⟩ : nwkFcExtnPresent buffer = true ∧ appId buffer = appIdSrcId ∧
        frameType buffer = nwkFcFrameTypeData := by simpa [srcIdPresent] using present
    rw [if_pos present] at same
    exact ⟨data, ext, app, same⟩
  · rw [if_neg present] at same
    exact absurd same.symm nonzero

def MaintenanceReply (s : Device) : Prop :=
  Accepted s.rxMpdu.cell s.gpdNode.addr ∧ frameType s.rxMpdu.cell = nwkFcFrameTypeMaint ∧
    gpdfAppPayloadLength s.rxMpdu.cell ≠ 0 ∧
    s.rxMpdu.cell (payloadFinger s.rxMpdu.cell) = cmdCommissioningReply

def DeliveredKeyFails (b : Build) (s : Device) : Prop :=
  let p := payloadFinger s.rxMpdu.cell + 1
  let options := s.rxMpdu.cell p
  keyPresent options = true ∧ keyEncrypted options = true ∧ b.keyEncrypt = true ∧
    ¬ DeliveredKeyVerifies b s.gpdNode.addr s.nonceRx s.rxMpdu.cell (keyIndex p options)

theorem replyReaction_rejected_iff (b : Build) (addr : EmberGpdAddr) (nonceRx cell : Cells UInt8)
    (p : ℕ) : replyReaction b addr nonceRx cell p = .replyRejected ↔
      keyPresent (cell p) = true ∧ keyEncrypted (cell p) = true ∧ b.keyEncrypt = true ∧
        ¬ DeliveredKeyVerifies b addr nonceRx cell (keyIndex p (cell p)) := by
  unfold replyReaction
  simp only
  split_ifs <;> simp_all

theorem securedBuffer_of_not_data (b : Build) (key : Key) (nonceRx : Cells UInt8)
    {cell : Cells UInt8} (h : frameType cell ≠ nwkFcFrameTypeData) :
    securedBuffer b key nonceRx cell = cell := if_neg (fun hc => h hc.2.1)

theorem frameType_cases {cell : Cells UInt8} (h : HeaderAccepted cell) :
    frameType cell = nwkFcFrameTypeData ∨ frameType cell = nwkFcFrameTypeMaint := by
  have all : ∀ x : UInt8, x ≤ 1 → x = 0 ∨ x = 1 := by
    intro x hx
    have bound : x.toNat ≤ 1 := hx
    rcases Nat.le_one_iff_eq_zero_or_eq_one.mp bound with h0 | h1
    · exact Or.inl (UInt8.toNat_inj.mp h0)
    · exact Or.inr (UInt8.toNat_inj.mp h1)
  exact all _ h.frameType

theorem frameReaction_of_maintenanceReply (b : Build) (s : Device) (h : MaintenanceReply s) :
    frameReaction b s = replyReaction b s.gpdNode.addr s.nonceRx s.rxMpdu.cell
      (payloadFinger s.rxMpdu.cell + 1) := by
  obtain ⟨accepted, maint, payload, command⟩ := h
  have plain : securedBuffer b s.ccmKey s.nonceRx s.rxMpdu.cell = s.rxMpdu.cell :=
    securedBuffer_of_not_data b _ _ (by rw [maint]; decide)
  have other : s.rxMpdu.cell (payloadFinger s.rxMpdu.cell) ≠ cmdChannelConfig := by
    rw [command]
    decide
  unfold frameReaction payloadReaction commandReaction
  rw [plain, if_pos accepted, if_pos payload, if_neg other, if_pos command]

theorem changesSecurity_iff (b : Build) (s : Device) :
    ChangesSecurity s (emberGpdIncomingMessageHandler b s) ↔
      (∃ key level type, frameReaction b s = .replyAccepted key level type) ∨
        frameReaction b s = .replyRejected ∧ s.gpdNode.securityKey ≠ zeroKey := by
  have events (e : Event) := reports_iff (handler_log b s) e
  unfold ChangesSecurity
  rw [handler_gpdNode, events]
  have noSetState : .setState appStateCommissioningReplyReceived ∉ receptionEvents b s := by
    unfold receptionEvents payloadEvents securityEvents decryptEvent commandEvent
    split_ifs <;> simp
  cases h : frameReaction b s with
  | ignored => simp [Reaction.gpdNode, Reaction.events, noSetState]
  | channelConfig channel =>
    have other : appStateCommissioningReplyReceived ≠ appStateChannelReceived := by decide
    simp [Reaction.gpdNode, Reaction.events, noSetState, other]
  | replyAccepted key level type => simp [Reaction.events]
  | replyRejected => simp [Reaction.gpdNode, Reaction.events, noSetState, eq_comm]

/-- Only a Commissioning Reply gives a reaction with an effect on security. -/
theorem maintenance_command_of_change (b : Build) (s : Device)
    (delivered : Accepted s.rxMpdu.cell s.gpdNode.addr ∧ gpdfAppPayloadLength s.rxMpdu.cell ≠ 0)
    (maint : frameType s.rxMpdu.cell = nwkFcFrameTypeMaint)
    (changes : (∃ key level type, frameReaction b s = .replyAccepted key level type) ∨
      frameReaction b s = .replyRejected ∧ s.gpdNode.securityKey ≠ zeroKey) :
    s.rxMpdu.cell (payloadFinger s.rxMpdu.cell) = cmdCommissioningReply := by
  have plain : securedBuffer b s.ccmKey s.nonceRx s.rxMpdu.cell = s.rxMpdu.cell :=
    securedBuffer_of_not_data b _ _ (by rw [maint]; decide)
  by_contra other
  revert changes
  unfold frameReaction payloadReaction commandReaction
  rw [plain, if_pos delivered.1, if_pos delivered.2, if_neg other]
  split_ifs <;> simp

theorem security_changes_addressed_iff (b : Build) (s : Device) (nonzero : s.gpdNode.addr.srcId ≠ 0) :
    (ChangesSecurity s (emberGpdIncomingMessageHandler b s) →
      AddressedTo s.rxMpdu.cell s.gpdNode.addr) ↔
      ¬ (MaintenanceReply s ∧ (DeliveredKeyFails b s → s.gpdNode.securityKey ≠ zeroKey)) := by
  rw [changesSecurity_iff]
  constructor
  · rintro addressed ⟨reply, failing⟩
    have reaction := frameReaction_of_maintenanceReply b s reply
    have data : frameType s.rxMpdu.cell = nwkFcFrameTypeData := by
      rcases replyReaction_cases b s.gpdNode.addr s.nonceRx s.rxMpdu.cell
        (payloadFinger s.rxMpdu.cell + 1) with rejected | ⟨key, accepted⟩
      · have fails : DeliveredKeyFails b s := (replyReaction_rejected_iff b _ _ _ _).mp rejected
        exact (addressed (Or.inr ⟨reaction.trans rejected, failing fails⟩)).1
      · exact (addressed (Or.inl ⟨key, _, _, reaction.trans accepted⟩)).1
    rw [reply.2.1] at data
    exact absurd data (by decide)
  · intro harmless changes
    have delivered : Accepted s.rxMpdu.cell s.gpdNode.addr ∧
        gpdfAppPayloadLength s.rxMpdu.cell ≠ 0 := by
      by_contra h
      have ignored : frameReaction b s = .ignored := by
        unfold frameReaction payloadReaction
        split_ifs with accepted payload
        · exact absurd ⟨accepted, payload⟩ h
        · rfl
        · rfl
      rcases changes with ⟨key, level, type, hr⟩ | ⟨hr, -⟩ <;> rw [ignored] at hr <;> cases hr
    rcases frameType_cases delivered.1.1 with data | maint
    · exact addressedTo_of_accepted nonzero delivered.1 data
    · have command := maintenance_command_of_change b s delivered maint changes
      have reply : MaintenanceReply s := ⟨delivered.1, maint, delivered.2, command⟩
      have reaction := frameReaction_of_maintenanceReply b s reply
      refine absurd ⟨reply, fun fails => ?_⟩ harmless
      have rejected := (replyReaction_rejected_iff b _ _ _ _).mpr fails
      rw [reaction, rejected] at changes
      rcases changes with ⟨key, level, type, hr⟩ | ⟨-, key⟩
      · cases hr
      · exact key

def maintenanceReplyFrame : List UInt8 :=
  [28, 0x01, 0x08, 0, 0xff, 0xff, 0xff, 0xff, 0x0d, 0xf0, 0x02] ++ List.replicate 16 0

theorem maintenanceReply_changes_key : ∃ s, s.gpdNode.addr.srcId ≠ 0 ∧
    ¬ (ChangesSecurity s (emberGpdIncomingMessageHandler (shipped (aesCcm tagSize)) s) →
      AddressedTo s.rxMpdu.cell s.gpdNode.addr) := by
  refine ⟨receiving maintenanceReplyFrame, by decide +kernel, fun addressed => ?_⟩
  have changed := addressed (Or.inl (by decide +kernel))
  exact absurd changed.1 (by decide +kernel)

theorem security_changes_addressed_receiving :
    (receiving maintenanceReplyFrame).gpdNode.addr.srcId ≠ 0 ∧
      ((ChangesSecurity (receiving maintenanceReplyFrame)
          (emberGpdIncomingMessageHandler (shipped (aesCcm tagSize))
            (receiving maintenanceReplyFrame)) →
        AddressedTo (receiving maintenanceReplyFrame).rxMpdu.cell
          (receiving maintenanceReplyFrame).gpdNode.addr) ↔
        ¬ (MaintenanceReply (receiving maintenanceReplyFrame) ∧
          (DeliveredKeyFails (shipped (aesCcm tagSize)) (receiving maintenanceReplyFrame) →
            (receiving maintenanceReplyFrame).gpdNode.securityKey ≠ zeroKey))) :=
  ⟨by decide +kernel, security_changes_addressed_iff _ _ (by decide +kernel)⟩

end GreenPower.AddressGate
