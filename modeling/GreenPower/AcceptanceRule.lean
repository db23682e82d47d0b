import GreenPower.FrameAuthentication
import GreenPower.FrameFields

set_option autoImplicit false

/-!
Which unsecured frames the standard lets pass, and how far the receive handler follows it: it
compares three of the four bits of the protocol version.
-/
namespace GreenPower.AcceptanceRule
open MemoryArray ByteWord BuildOptions DeviceState Security FrameBuild IncomingMessage
  FrameAcceptance ReceiveOutcome ReceptionRecord FrameAuthentication FrameFields AesCipher

section
variable (frame : Cells UInt8)

structure OtherwiseAcceptable (srcId : UInt32) : Prop where
  mac : GreenPowerMac frame
  type : DataFrame frame ∨ MaintenanceFrame frame
  direction : Extended frame → bitField (extControl frame) 7 1 = 1
  flags : ¬ (bitField (nwkControl frame) 6 1 = 1 ∧ Extended frame ∧
    bitField (extControl frame) 6 1 = 1)
  address : DataFrame frame → Extended frame ∧ bitField (extControl frame) 0 3 = 0 ∧
    readWord frame (srcIdStart frame) = srcId
  payload : headerEnd frame < frameEnd frame

def Acceptable (srcId : UInt32) : Prop :=
  protocolVersion frame = 3 ∧ OtherwiseAcceptable frame srcId

end

/-- Exactly the acceptable frames are handed over, with exactly their payload. -/
structure ExactAcceptance (b : Build) (s : Device) : Prop where
  accepts : HandsOver s (emberGpdIncomingMessageHandler b s) ↔
    Acceptable s.rxMpdu.cell s.gpdNode.addr.srcId
  slice : ∀ start length command, Reports s (emberGpdIncomingMessageHandler b s)
      (.incomingCommand start length command) →
    start = headerEnd s.rxMpdu.cell ∧
      start + length = frameEnd s.rxMpdu.cell ∧ command = load s.rxMpdu.cell start length

theorem version_mask : ∀ x : UInt8, (x &&& nwkFcZigbeeVerMask) >>> nwkFcZigbeeVerOffset =
    nwkFcZigbeeVer ↔ bitField x 2 3 = 3 := forall_uint8 (by decide +kernel)

theorem version_bits : ∀ x : UInt8, bitField x 2 3 = 3 ↔
    bitField x 2 4 = 3 ∨ bitField x 2 4 = 11 := forall_uint8 (by decide +kernel)

theorem type_mask_le : ∀ x : UInt8, x &&& nwkFcFrameTypeMask ≤ nwkFcFrameTypeMaint ↔
    bitField x 0 2 = 0 ∨ bitField x 0 2 = 1 := forall_uint8 (by decide +kernel)

theorem type_mask_data : ∀ x : UInt8, x &&& nwkFcFrameTypeMask = nwkFcFrameTypeData ↔
    bitField x 0 2 = 0 := forall_uint8 (by decide +kernel)

theorem autocom_mask : ∀ x : UInt8, x &&& nwkFcAutocomMask ≠ 0 ↔ bitField x 6 1 = 1 :=
  forall_uint8 (by decide +kernel)

theorem extFc_mask : ∀ x : UInt8, x &&& nwkFcExtFcMask ≠ 0 ↔ bitField x 7 1 = 1 :=
  forall_uint8 (by decide +kernel)

theorem appId_mask : ∀ x : UInt8, x &&& extNwkFcAppIdMask = appIdSrcId ↔ bitField x 0 3 = 0 :=
  forall_uint8 (by decide +kernel)

theorem level_mask : ∀ x : UInt8, (x &&& extNwkFcSecurityLevelMask) >>>
    extNwkFcSecurityLevelOffset = securityLevelNone ↔ bitField x 3 2 = 0 :=
  forall_uint8 (by decide +kernel)

theorem rxAfterTx_mask : ∀ x : UInt8, x &&& extNwkFcRxAfterTxMask ≠ 0 ↔ bitField x 6 1 = 1 :=
  forall_uint8 (by decide +kernel)

theorem direction_mask : ∀ x : UInt8, (if x &&& extNwkFcDirectionMask ≠ 0 then 1 else 0) =
    (1 : UInt8) ↔ bitField x 7 1 = 1 := forall_uint8 (by decide +kernel)

section
variable {frame : Cells UInt8} (mac : GreenPowerMac frame)

theorem mFc_eq (frame : Cells UInt8) : mFc frame = macFrameControl frame := by
  unfold mFc macFrameControl
  omega

theorem nwkFcOffset_ne_zero_iff (frame : Cells UInt8) :
    nwkFcOffset frame ≠ 0 ↔ GreenPowerMac frame := by
  unfold nwkFcOffset GreenPowerMac
  rw [mFc_eq]
  split_ifs with long short
  · exact iff_of_true (by decide) (Or.inr long)
  · exact iff_of_true (by decide) (Or.inl short)
  · exact iff_of_false (by decide) (fun h => h.elim short long)

include mac

theorem nwkFcOffset_eq : nwkFcOffset frame = nwkStart frame := by
  unfold nwkFcOffset nwkStart
  rw [mFc_eq]
  rcases mac with short | long
  · rw [short]
    decide
  · rw [long]
    decide

theorem nwkFc_eq : nwkFc frame = nwkControl frame := by
  unfold nwkFc nwkControl
  rw [nwkFcOffset_eq mac]

theorem frameType_le_iff : frameType frame ≤ nwkFcFrameTypeMaint ↔
    DataFrame frame ∨ MaintenanceFrame frame := by
  unfold frameType
  rw [nwkFc_eq mac]
  exact type_mask_le _

theorem frameType_data_iff : frameType frame = nwkFcFrameTypeData ↔ DataFrame frame := by
  unfold frameType
  rw [nwkFc_eq mac]
  exact type_mask_data _

theorem nwkFcExtnPresent_iff : nwkFcExtnPresent frame = true ↔ Extended frame := by
  unfold nwkFcExtnPresent
  rw [nwkFc_eq mac, decide_eq_true_iff]
  exact extFc_mask _

theorem autoCommissioning_iff :
    autoCommissioning frame = true ↔ bitField (nwkControl frame) 6 1 = 1 := by
  unfold autoCommissioning
  rw [nwkFc_eq mac, decide_eq_true_iff]
  exact autocom_mask _

theorem nwkFcExtn_of_extended (ext : Extended frame) : nwkFcExtn frame = extControl frame := by
  unfold nwkFcExtn extControl
  rw [if_pos ((nwkFcExtnPresent_iff mac).mpr ext), nwkFcOffset_eq mac]

theorem nwkFcExtn_of_not_extended (ext : ¬ Extended frame) : nwkFcExtn frame = 0 :=
  if_neg (fun h => ext ((nwkFcExtnPresent_iff mac).mp h))

theorem rxAfterTx_iff : IncomingMessage.rxAfterTx frame = true ↔
    Extended frame ∧ bitField (extControl frame) 6 1 = 1 := by
  unfold IncomingMessage.rxAfterTx
  rw [decide_eq_true_iff]
  by_cases ext : Extended frame
  · rw [nwkFcExtn_of_extended mac ext, rxAfterTx_mask]
    simp [ext]
  · rw [nwkFcExtn_of_not_extended mac ext]
    exact iff_of_false (by decide) (fun h => ext h.1)

theorem srcIdPresent_iff : srcIdPresent frame = true ↔ CarriesSrcId frame := by
  unfold srcIdPresent CarriesSrcId appId
  rw [decide_eq_true_iff, nwkFcExtnPresent_iff mac, frameType_data_iff mac]
  by_cases ext : Extended frame
  · rw [nwkFcExtn_of_extended mac ext, appId_mask]
    tauto
  · exact iff_of_false (fun h => ext h.1) (fun h => ext h.2.1)

theorem srcIdFinger_eq : srcIdFinger frame = srcIdStart frame := by
  unfold srcIdFinger srcIdStart
  rw [nwkFcOffset_eq mac]
  simp only [nwkFcExtnPresent_iff mac]

theorem securityLevel_of_unsecured (plain : Unsecured frame) :
    securityLevel frame = securityLevelNone := by
  unfold securityLevel
  by_cases ext : Extended frame
  · rw [nwkFcExtn_of_extended mac ext]
    exact (level_mask _).mpr (plain ext)
  · rw [nwkFcExtn_of_not_extended mac ext]
    decide

theorem payloadFinger_of_unsecured (plain : Unsecured frame) :
    payloadFinger frame = headerEnd frame := by
  unfold payloadFinger frameCounterFinger headerEnd
  rw [securityLevel_of_unsecured mac plain, if_neg not_secured_none, srcIdFinger_eq mac]
  simp only [srcIdPresent_iff mac, Nat.add_zero]

omit mac in
theorem nwkPayloadLength_of_covers (covers : headerEnd frame ≤ frameEnd frame) :
    nwkPayloadLength frame = frameEnd frame - 1 ∧ 8 ≤ nwkPayloadLength frame := by
  have hlt := (frame 0).toNat_lt
  have start : 8 ≤ nwkStart frame := by
    unfold nwkStart
    split_ifs <;> omega
  unfold headerEnd srcIdStart frameEnd at covers
  unfold nwkPayloadLength uint8 macFooterSize frameEnd
  omega

theorem gpdfAppPayloadLength_of_covers (plain : Unsecured frame)
    (covers : headerEnd frame ≤ frameEnd frame) :
    gpdfAppPayloadLength frame = frameEnd frame - headerEnd frame := by
  have length := (nwkPayloadLength_of_covers covers).1
  have start : 1 ≤ headerEnd frame := by
    unfold headerEnd srcIdStart
    omega
  rw [gpdfAppPayloadLength_eq, payloadFinger_of_unsecured mac plain, length]
  unfold micLength
  rw [securityLevel_of_unsecured mac plain, if_neg not_secured_none]
  omega

theorem headerAccepted_of_mac_iff (covers : headerEnd frame ≤ frameEnd frame) :
    HeaderAccepted frame ↔ bitField (nwkControl frame) 2 3 = 3 ∧
      (DataFrame frame ∨ MaintenanceFrame frame) ∧
      (Extended frame → bitField (extControl frame) 7 1 = 1) ∧
      ¬ (bitField (nwkControl frame) 6 1 = 1 ∧ Extended frame ∧
        bitField (extControl frame) 6 1 = 1) := by
  have version : zigbeeVersion frame = nwkFcZigbeeVer ↔ bitField (nwkControl frame) 2 3 = 3 := by
    unfold zigbeeVersion
    rw [nwkFc_eq mac]
    exact version_mask _
  have toDevice : (nwkFcExtnPresent frame = true → direction frame = 1) ↔
      (Extended frame → bitField (extControl frame) 7 1 = 1) := by
    rw [nwkFcExtnPresent_iff mac]
    refine forall_congr' (fun ext => ?_)
    unfold direction
    rw [nwkFcExtn_of_extended mac ext]
    exact direction_mask _
  have flags : IncomingMessage.rxAfterTx frame = true ∧
      IncomingMessage.autoCommissioning frame = true ↔
      bitField (nwkControl frame) 6 1 = 1 ∧ Extended frame ∧
        bitField (extControl frame) 6 1 = 1 := by
    rw [rxAfterTx_iff mac, autoCommissioning_iff mac, and_comm]
  rw [headerAccepted_iff, version, frameType_le_iff mac, toDevice, flags]
  constructor
  · rintro ⟨-, -, rest⟩
    exact rest
  · intro rest
    exact ⟨(nwkPayloadLength_of_covers covers).2, (nwkFcOffset_ne_zero_iff frame).mpr mac, rest⟩

theorem addressAccepted_of_mac_iff {own : EmberGpdAddr} (app : own.appId = appIdSrcId)
    (nonzero : own.srcId ≠ 0) : AddressAccepted frame own ↔
      (DataFrame frame → Extended frame ∧ bitField (extControl frame) 0 3 = 0 ∧
        readWord frame (srcIdStart frame) = own.srcId) := by
  rw [addressAccepted_iff, frameType_data_iff mac, srcIdFinger_eq mac]
  refine forall_congr' (fun data => ?_)
  by_cases present : srcIdPresent frame = true
  · obtain ⟨-, ext, zero⟩ := (srcIdPresent_iff mac).mp present
    rw [if_pos present]
    exact ⟨fun h => ⟨ext, zero, h.2⟩, fun h => ⟨app, h.2.2⟩⟩
  · have absent : ¬ (Extended frame ∧ bitField (extControl frame) 0 3 = 0) :=
      fun h => present ((srcIdPresent_iff mac).mpr ⟨data, h.1, h.2⟩)
    rw [if_neg present]
    exact iff_of_false (fun h => nonzero h.2.symm) (fun h => absent ⟨h.1, h.2.1⟩)

end

structure CoveredPlain (frame : Cells UInt8) : Prop where
  covers : GreenPowerMac frame → headerEnd frame ≤ frameEnd frame
  plain : GreenPowerMac frame → Unsecured frame

theorem handsOver_plain_iff (b : Build) (s : Device) (frame : CoveredPlain s.rxMpdu.cell)
    (app : s.gpdNode.addr.appId = appIdSrcId) (nonzero : s.gpdNode.addr.srcId ≠ 0) :
    HandsOver s (emberGpdIncomingMessageHandler b s) ↔
      bitField (nwkControl s.rxMpdu.cell) 2 3 = 3 ∧
        OtherwiseAcceptable s.rxMpdu.cell s.gpdNode.addr.srcId := by
  rw [handsOver_iff]
  by_cases mac : GreenPowerMac s.rxMpdu.cell
  · have covers := frame.covers mac
    unfold Accepted
    rw [headerAccepted_of_mac_iff mac covers, addressAccepted_of_mac_iff mac app nonzero,
      gpdfAppPayloadLength_of_covers mac (frame.plain mac) covers, Nat.sub_ne_zero_iff_lt]
    constructor
    · rintro ⟨⟨⟨version, type, direction, flags⟩, address⟩, payload⟩
      exact ⟨version, ⟨mac, type, direction, flags, address, payload⟩⟩
    · rintro ⟨version, ⟨-, type, direction, flags, address, payload⟩⟩
      exact ⟨⟨⟨version, type, direction, flags⟩, address⟩, payload⟩
  · refine iff_of_false (fun h => ?_) (fun h => mac h.2.mac)
    exact h.1.1.macFrame (not_not.mp (fun hne => mac ((nwkFcOffset_ne_zero_iff _).mp hne)))

theorem securedBuffer_of_plain (b : Build) (key : Key) (nonceRx : Cells UInt8)
    {cell : Cells UInt8} (h : securityLevel cell = securityLevelNone) :
    securedBuffer b key nonceRx cell = cell := by
  refine if_neg (fun hc => ?_)
  rw [h] at hc
  exact absurd hc.2.2 (by decide)

theorem plain_slice (b : Build) (s : Device) (frame : CoveredPlain s.rxMpdu.cell)
    (start length : ℕ) (command : List UInt8)
    (h : Reports s (emberGpdIncomingMessageHandler b s) (.incomingCommand start length command)) :
    start = headerEnd s.rxMpdu.cell ∧ start + length = frameEnd s.rxMpdu.cell ∧
      command = load s.rxMpdu.cell start length := by
  obtain ⟨⟨accepted, payload⟩, rfl, rfl, rfl⟩ := (incomingCommand_reported_iff b s _ _ _).mp h
  have mac := (nwkFcOffset_ne_zero_iff _).mp accepted.1.macFrame
  have plain := frame.plain mac
  rw [gpdfAppPayloadLength_of_covers mac plain (frame.covers mac)] at payload ⊢
  rw [payloadFinger_of_unsecured mac plain,
    securedBuffer_of_plain b _ _ (securityLevel_of_unsecured mac plain)]
  exact ⟨rfl, by omega, rfl⟩

theorem exactAcceptance_of_version (b : Build) (s : Device) (frame : CoveredPlain s.rxMpdu.cell)
    (app : s.gpdNode.addr.appId = appIdSrcId) (nonzero : s.gpdNode.addr.srcId ≠ 0)
    (version : ¬ (protocolVersion s.rxMpdu.cell = 11 ∧
      OtherwiseAcceptable s.rxMpdu.cell s.gpdNode.addr.srcId)) : ExactAcceptance b s := by
  refine ⟨?_, plain_slice b s frame⟩
  rw [handsOver_plain_iff b s frame app nonzero, version_bits]
  unfold Acceptable
  constructor
  · rintro ⟨three | eleven, others⟩
    · exact ⟨three, others⟩
    · exact absurd ⟨eleven, others⟩ version
  · rintro ⟨three, others⟩
    exact ⟨Or.inl three, others⟩

theorem version_of_exactAcceptance (b : Build) (s : Device) (frame : CoveredPlain s.rxMpdu.cell)
    (app : s.gpdNode.addr.appId = appIdSrcId) (nonzero : s.gpdNode.addr.srcId ≠ 0)
    (exact : ExactAcceptance b s) : ¬ (protocolVersion s.rxMpdu.cell = 11 ∧
      OtherwiseAcceptable s.rxMpdu.cell s.gpdNode.addr.srcId) := by
  rintro ⟨eleven, others⟩
  have delivered : HandsOver s (emberGpdIncomingMessageHandler b s) :=
    (handsOver_plain_iff b s frame app nonzero).mpr ⟨(version_bits _).mpr (Or.inr eleven), others⟩
  have three := (exact.accepts.mp delivered).1
  rw [eleven] at three
  exact absurd three (by decide)

theorem unsecured_acceptance_exact_iff (b : Build) (s : Device) (frame : CoveredPlain s.rxMpdu.cell)
    (app : s.gpdNode.addr.appId = appIdSrcId) (nonzero : s.gpdNode.addr.srcId ≠ 0) :
    ExactAcceptance b s ↔ ¬ (protocolVersion s.rxMpdu.cell = 11 ∧
      OtherwiseAcceptable s.rxMpdu.cell s.gpdNode.addr.srcId) :=
  ⟨version_of_exactAcceptance b s frame app nonzero,
    exactAcceptance_of_version b s frame app nonzero⟩

def versionElevenFrame : List UInt8 :=
  [12, 0x01, 0x08, 0, 0xff, 0xff, 0xff, 0xff, 0x2d, 0xf3, 0x05]

theorem receiving_versionEleven_plain :
    CoveredPlain (receiving versionElevenFrame).rxMpdu.cell := by
  have extended : ¬ Extended (receiving versionElevenFrame).rxMpdu.cell := by decide +kernel
  exact ⟨fun _ => by decide +kernel, fun _ h => absurd h extended⟩

theorem versionEleven_accepted : ∃ s, CoveredPlain s.rxMpdu.cell ∧
    s.gpdNode.addr.appId = appIdSrcId ∧ s.gpdNode.addr.srcId ≠ 0 ∧
    ¬ ExactAcceptance (shipped (aesCcm tagSize)) s := by
  refine ⟨receiving versionElevenFrame, receiving_versionEleven_plain, by decide +kernel,
    by decide +kernel, fun exact => ?_⟩
  have delivered : HandsOver (receiving versionElevenFrame) (emberGpdIncomingMessageHandler
      (shipped (aesCcm tagSize)) (receiving versionElevenFrame)) :=
    (handsOver_iff _ _).mpr (by decide +kernel)
  have three := (exact.accepts.mp delivered).1
  exact absurd three (by decide +kernel)

theorem unsecured_acceptance_versionEleven :
    ExactAcceptance (shipped (aesCcm tagSize)) (receiving versionElevenFrame) ↔
      ¬ (protocolVersion (receiving versionElevenFrame).rxMpdu.cell = 11 ∧
        OtherwiseAcceptable (receiving versionElevenFrame).rxMpdu.cell
          (receiving versionElevenFrame).gpdNode.addr.srcId) :=
  unsecured_acceptance_exact_iff _ _ receiving_versionEleven_plain (by decide +kernel)
    (by decide +kernel)

end GreenPower.AcceptanceRule
