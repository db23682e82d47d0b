import GreenPower.ReceptionRecord
import GreenPower.Commissioning
import GreenPower.AesCipher

set_option autoImplicit false

/-!
The verdict of `emberDecryptRxBuffer` and the delivery of a data frame's payload. The handler
drops the verdict, so delivery follows it exactly when authentication is run and succeeds.
-/
namespace GreenPower.FrameAuthentication
open MemoryArray BuildOptions DeviceState FrameBuild IncomingMessage FrameAcceptance ReceiveOutcome
  ReceptionRecord AesCipher Commissioning

def Authenticates (s s' : Device) : Prop :=
  ∃ authStart encrLength authLength,
    Reports s s' (.decrypt authStart encrLength authLength .success)

theorem authenticates_iff (b : Build) (s : Device) :
    Authenticates s (emberGpdIncomingMessageHandler b s) ↔
      Accepted s.rxMpdu.cell s.gpdNode.addr ∧ ∃ authStart encrLength authLength,
        .decrypt authStart encrLength authLength .success ∈
          securityEvents b s.ccmKey s.nonceRx s.rxMpdu.cell := by
  simp only [Authenticates, decrypt_reported_iff, exists_and_left]

def SecuredDataFrame (buffer : Cells UInt8) : Prop :=
  frameType buffer = nwkFcFrameTypeData ∧ Secured (securityLevel buffer)

instance (buffer : Cells UInt8) : Decidable (SecuredDataFrame buffer) := by
  unfold SecuredDataFrame
  infer_instance

/-- The CCM check that the handler has `emberDecryptRxBuffer` make on such a frame. -/
def FrameVerifies (b : Build) (s : Device) : Prop :=
  if securityLevel s.rxMpdu.cell = securityLevelLongAuthOnly then
    RegionVerifies b s.ccmKey s.nonceRx s.rxMpdu.cell (authStartSrcId - 1) 0
      (authLengthAuthOnly s.rxMpdu.cell)
  else RegionVerifies b s.ccmKey s.nonceRx s.rxMpdu.cell authStartSrcId
    (encrLengthFull s.rxMpdu.cell) authFixedLenSrcId

instance (b : Build) (s : Device) : Decidable (FrameVerifies b s) := by
  unfold FrameVerifies
  infer_instance

theorem decryptEvent_success_iff (b : Build) (key : Key) (nonceRx cell : Cells UInt8)
    (authStart encrLength authLength : ℕ) :
    (∃ start encr auth, Event.decrypt start encr auth .success =
      decryptEvent b key nonceRx cell authStart encrLength authLength) ↔
      RegionVerifies b key nonceRx cell authStart encrLength authLength := by
  unfold decryptEvent
  by_cases h : RegionVerifies b key nonceRx cell authStart encrLength authLength
  · simp [h]
  · simp [h]

theorem securityEvents_success_iff (b : Build) (s : Device)
    (secured : SecuredDataFrame s.rxMpdu.cell) :
    (∃ authStart encrLength authLength, .decrypt authStart encrLength authLength .success ∈
      securityEvents b s.ccmKey s.nonceRx s.rxMpdu.cell) ↔
      appId s.rxMpdu.cell = appIdSrcId ∧ FrameVerifies b s := by
  obtain ⟨data, level⟩ := secured
  unfold securityEvents FrameVerifies
  by_cases app : appId s.rxMpdu.cell = appIdSrcId
  · rw [if_pos ⟨app, data⟩]
    simp only [app, true_and]
    rcases level with level | level
    · rw [if_pos level, if_pos level]
      simp only [List.mem_singleton, decryptEvent_success_iff]
    · have other : securityLevel s.rxMpdu.cell ≠ securityLevelLongAuthOnly := by
        rw [level]
        decide
      rw [if_neg other, if_pos level, if_neg other]
      simp only [List.mem_singleton, decryptEvent_success_iff]
  · rw [if_neg (fun h => app h.1)]
    simp [app]

/-- Delivery of the frame's payload and any effect on `gpdNode` wait for its authentication. -/
structure AuthenticationGates (b : Build) (s : Device) : Prop where
  delivery : HandsOver s (emberGpdIncomingMessageHandler b s) →
    Authenticates s (emberGpdIncomingMessageHandler b s)
  effect : ¬ Authenticates s (emberGpdIncomingMessageHandler b s) →
    (emberGpdIncomingMessageHandler b s).gpdNode = s.gpdNode

theorem secured_delivery_gated_iff (b : Build) (s : Device) :
    (SecuredDataFrame s.rxMpdu.cell → AuthenticationGates b s) ↔
      (SecuredDataFrame s.rxMpdu.cell → Accepted s.rxMpdu.cell s.gpdNode.addr →
        gpdfAppPayloadLength s.rxMpdu.cell ≠ 0 →
        appId s.rxMpdu.cell = appIdSrcId ∧ FrameVerifies b s) := by
  constructor
  · intro gates secured accepted payload
    have delivered := (handsOver_iff b s).mpr ⟨accepted, payload⟩
    have success := (authenticates_iff b s).mp ((gates secured).delivery delivered)
    exact (securityEvents_success_iff b s secured).mp success.2
  · intro verified secured
    have delivery : HandsOver s (emberGpdIncomingMessageHandler b s) →
        Authenticates s (emberGpdIncomingMessageHandler b s) := by
      intro delivered
      obtain ⟨accepted, payload⟩ := (handsOver_iff b s).mp delivered
      exact (authenticates_iff b s).mpr ⟨accepted,
        (securityEvents_success_iff b s secured).mpr (verified secured accepted payload)⟩
    exact ⟨delivery, fun failed => gpdNode_of_not_handsOver b s (fun h => failed (delivery h))⟩

def receiving (packet : List UInt8) : Device :=
  { emberGpdInit (shipped (aesCcm tagSize)) (ramCleared []) with
    rxMpdu := (Mem.untouched (fun _ => 0)).store 0 packet }

def forgedChannelConfig : List UInt8 :=
  [25, 0x01, 0x08, 0, 0xff, 0xff, 0xff, 0xff, 0x8c, 0x90, 0x78, 0x56, 0x34, 0x12, 0, 0, 0, 0,
    0xf3, 0x05, 0, 0, 0, 0]

theorem forged_channelConfig_applied : ∃ s, SecuredDataFrame s.rxMpdu.cell ∧
    ¬ AuthenticationGates (shipped (aesCcm tagSize)) s := by
  have secured : SecuredDataFrame (receiving forgedChannelConfig).rxMpdu.cell := by
    decide +kernel
  have forged : ¬ FrameVerifies (shipped (aesCcm tagSize)) (receiving forgedChannelConfig) := by
    decide +kernel
  have moved : (frameReaction (shipped (aesCcm tagSize)) (receiving forgedChannelConfig)).gpdNode
      (receiving forgedChannelConfig).gpdNode ≠ (receiving forgedChannelConfig).gpdNode := by
    decide +kernel
  refine ⟨receiving forgedChannelConfig, secured, fun gates => ?_⟩
  rw [← handler_gpdNode] at moved
  apply moved
  apply gates.effect
  intro authenticated
  have success := ((authenticates_iff _ _).mp authenticated).2
  exact forged ((securityEvents_success_iff _ _ secured).mp success).2

end GreenPower.FrameAuthentication
