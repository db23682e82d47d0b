import GreenPower.IncomingMessage

set_option autoImplicit false

/-!
What the receive handler decides before it looks at security: a frame is accepted or dropped
by its frame control fields and its address. Everything said later about received frames
starts from `emberGpdIncomingMessageHandler_eq`.
-/
namespace GreenPower.FrameAcceptance
open MemoryArray ByteWord BuildOptions DeviceState Security FrameBuild IncomingMessage

structure HeaderAccepted (buffer : Cells UInt8) : Prop where
  length : 8 ≤ nwkPayloadLength buffer
  macFrame : nwkFcOffset buffer ≠ 0
  version : zigbeeVersion buffer = nwkFcZigbeeVer
  frameType : IncomingMessage.frameType buffer ≤ nwkFcFrameTypeMaint
  toDevice : nwkFcExtnPresent buffer = true → direction buffer = 1
  flags : ¬ (rxAfterTx buffer = true ∧ autoCommissioning buffer = true)

def AddressAccepted (buffer : Cells UInt8) (own : EmberGpdAddr) : Prop :=
  frameType buffer = nwkFcFrameTypeData → emberGpdUtilityAddrMatch (addr buffer) own = true

def Accepted (buffer : Cells UInt8) (own : EmberGpdAddr) : Prop :=
  HeaderAccepted buffer ∧ AddressAccepted buffer own

theorem headerAccepted_iff (buffer : Cells UInt8) : HeaderAccepted buffer ↔
    8 ≤ nwkPayloadLength buffer ∧ nwkFcOffset buffer ≠ 0 ∧
      zigbeeVersion buffer = nwkFcZigbeeVer ∧ frameType buffer ≤ nwkFcFrameTypeMaint ∧
      (nwkFcExtnPresent buffer = true → direction buffer = 1) ∧
      ¬ (rxAfterTx buffer = true ∧ autoCommissioning buffer = true) :=
  ⟨fun h => ⟨h.length, h.macFrame, h.version, h.frameType, h.toDevice, h.flags⟩,
    fun ⟨h1, h2, h3, h4, h5, h6⟩ => ⟨h1, h2, h3, h4, h5, h6⟩⟩

instance (buffer : Cells UInt8) : Decidable (HeaderAccepted buffer) :=
  decidable_of_iff _ (headerAccepted_iff buffer).symm

instance (buffer : Cells UInt8) (own : EmberGpdAddr) : Decidable (Accepted buffer own) := by
  unfold Accepted AddressAccepted
  infer_instance

theorem nwkFcOffset_cases (buffer : Cells UInt8) :
    nwkFcOffset buffer = 14 ∧ mFc buffer = macFcIeeeWordIncoming ∨
      nwkFcOffset buffer = 8 ∧ mFc buffer = macFcWord ∨ nwkFcOffset buffer = 0 := by
  unfold nwkFcOffset
  split_ifs with long short
  · exact Or.inl ⟨rfl, long⟩
  · exact Or.inr (Or.inl ⟨rfl, short⟩)
  · exact Or.inr (Or.inr rfl)

theorem nwkFcOffset_le (buffer : Cells UInt8) : nwkFcOffset buffer ≤ 14 := by
  rcases nwkFcOffset_cases buffer with ⟨h, _⟩ | ⟨h, _⟩ | h <;> omega

theorem srcIdFinger_le (buffer : Cells UInt8) : srcIdFinger buffer ≤ 16 := by
  have h := nwkFcOffset_le buffer
  unfold srcIdFinger
  split_ifs <;> omega

theorem frameCounterFinger_le (buffer : Cells UInt8) : frameCounterFinger buffer ≤ 20 := by
  have h := srcIdFinger_le buffer
  unfold frameCounterFinger
  split_ifs <;> omega

theorem payloadFinger_le (buffer : Cells UInt8) : payloadFinger buffer ≤ 24 := by
  have h := frameCounterFinger_le buffer
  unfold payloadFinger
  split_ifs <;> omega

theorem nwkPayloadLength_lt (buffer : Cells UInt8) : nwkPayloadLength buffer < 256 := uint8_lt _

/-- The payload length is a plain difference: only frames with a payload compute it. -/
theorem gpdfAppPayloadLength_eq (buffer : Cells UInt8) : gpdfAppPayloadLength buffer =
    nwkPayloadLength buffer - (payloadFinger buffer + micLength buffer - 1) := by
  have hlt := nwkPayloadLength_lt buffer
  have hpos : 1 ≤ payloadFinger buffer := by
    unfold payloadFinger frameCounterFinger srcIdFinger
    omega
  unfold gpdfAppPayloadLength
  split_ifs with h
  · have hz : ((nwkPayloadLength buffer : ℤ) - (payloadFinger buffer + micLength buffer - 1)) =
        ((nwkPayloadLength buffer - (payloadFinger buffer + micLength buffer - 1) : ℕ) : ℤ) := by
      omega
    rw [hz, uint8_natCast_of_lt (by omega)]
  · omega

theorem rxAfterTx_present {buffer : Cells UInt8} (h : rxAfterTx buffer = true) :
    nwkFcExtnPresent buffer = true := by
  by_contra absent
  have zero : nwkFcExtn buffer = 0 := if_neg absent
  revert h
  unfold rxAfterTx
  rw [zero]
  decide

def HeaderRead (s s' : Device) : Prop :=
  ∃ t, (∀ r ∈ t, r.1 + r.2 ≤ 20) ∧
    s' = { s with rxMpdu := ⟨s.rxMpdu.cell, t ++ s.rxMpdu.touched⟩ }

theorem HeaderRead.refl (s : Device) : HeaderRead s s := ⟨[], by simp, rfl⟩

theorem HeaderRead.touch {s s' : Device} (h : HeaderRead s s') (off n : ℕ)
    (bound : off + n ≤ 20) : HeaderRead s (s'.touchRx off n) := by
  obtain ⟨t, ht, rfl⟩ := h
  refine ⟨(off, n) :: t, ?_, rfl⟩
  intro r hr
  rcases List.mem_cons.mp hr with rfl | hr
  · exact bound
  · exact ht r hr

theorem HeaderRead.touchIf {s s' : Device} (h : HeaderRead s s') (c : Bool) (off n : ℕ)
    (bound : off + n ≤ 20) : HeaderRead s (if c = true then s'.touchRx off n else s') := by
  split_ifs
  · exact h.touch off n bound
  · exact h

theorem HeaderRead.gpdNode {s s' : Device} (h : HeaderRead s s') : s'.gpdNode = s.gpdNode := by
  obtain ⟨t, _, rfl⟩ := h
  rfl

theorem emberGpdIncomingMessageHandler_eq (b : Build) (s : Device) : ∃ s', HeaderRead s s' ∧
    emberGpdIncomingMessageHandler b s =
      if Accepted s.rxMpdu.cell s.gpdNode.addr then acceptedFrame b s' else s' := by
  have h1 := nwkFcOffset_le s.rxMpdu.cell
  have h2 := srcIdFinger_le s.rxMpdu.cell
  have r1 := (HeaderRead.refl s).touch 0 1 (by omega)
  have r2 := r1.touch 1 2 (by omega)
  have r3 := r2.touch (nwkFcOffset s.rxMpdu.cell) 1 (by omega)
  have r4 := r3.touchIf (nwkFcExtnPresent s.rxMpdu.cell) (nwkFcOffset s.rxMpdu.cell + 1) 1
    (by omega)
  have r5 := r4.touchIf (srcIdPresent s.rxMpdu.cell) (srcIdFinger s.rxMpdu.cell) 4 (by omega)
  simp only [emberGpdIncomingMessageHandler]
  by_cases short : nwkPayloadLength s.rxMpdu.cell < 8
  · have dropped : ¬ Accepted s.rxMpdu.cell s.gpdNode.addr :=
      fun h => absurd h.1.length (not_le.mpr short)
    exact ⟨_, r1, by rw [if_pos short, if_neg dropped]⟩
  rw [if_neg short]
  by_cases mac : nwkFcOffset s.rxMpdu.cell = 0
  · have dropped : ¬ Accepted s.rxMpdu.cell s.gpdNode.addr := fun h => h.1.macFrame mac
    exact ⟨_, r2, by rw [if_pos mac, if_neg dropped]⟩
  rw [if_neg mac]
  by_cases bad : zigbeeVersion s.rxMpdu.cell ≠ nwkFcZigbeeVer ∨
      frameType s.rxMpdu.cell > nwkFcFrameTypeMaint
  · have dropped : ¬ Accepted s.rxMpdu.cell s.gpdNode.addr := fun h =>
      bad.elim (fun version => version h.1.version)
        (fun type => UInt8.not_le.mpr type h.1.frameType)
    exact ⟨_, r3, by rw [if_pos bad, if_neg dropped]⟩
  rw [if_neg bad]
  obtain ⟨version, type⟩ := not_or.mp bad
  by_cases dir : nwkFcExtnPresent s.rxMpdu.cell = true ∧ direction s.rxMpdu.cell ≠ 1
  · have dropped : ¬ Accepted s.rxMpdu.cell s.gpdNode.addr :=
      fun h => dir.2 (h.1.toDevice dir.1)
    exact ⟨_, r4, by rw [if_pos dir, if_neg dropped]⟩
  rw [if_neg dir]
  by_cases both : (nwkFcExtnPresent s.rxMpdu.cell = true ∧ rxAfterTx s.rxMpdu.cell = true) ∧
      autoCommissioning s.rxMpdu.cell = true
  · have dropped : ¬ Accepted s.rxMpdu.cell s.gpdNode.addr :=
      fun h => h.1.flags ⟨both.1.2, both.2⟩
    exact ⟨_, r4, by rw [if_pos both, if_neg dropped]⟩
  rw [if_neg both]
  have header : HeaderAccepted s.rxMpdu.cell := by
    refine ⟨not_lt.mp short, mac, not_not.mp version, UInt8.not_lt.mp type, ?_, ?_⟩
    · intro present
      by_contra h
      exact dir ⟨present, h⟩
    · rintro ⟨after, auto⟩
      exact both ⟨⟨rxAfterTx_present after, after⟩, auto⟩
  refine ⟨_, r5, ?_⟩
  rw [r5.gpdNode]
  by_cases refused : frameType s.rxMpdu.cell = nwkFcFrameTypeData ∧
      ¬ emberGpdUtilityAddrMatch (addr s.rxMpdu.cell) s.gpdNode.addr = true
  · have dropped : ¬ Accepted s.rxMpdu.cell s.gpdNode.addr := fun h => refused.2 (h.2 refused.1)
    rw [if_pos refused, if_neg dropped]
  · have accepted : Accepted s.rxMpdu.cell s.gpdNode.addr := by
      refine ⟨header, fun data => ?_⟩
      by_contra h
      exact refused ⟨data, h⟩
    rw [if_neg refused, if_pos accepted]

theorem addrMatch_iff {a1 a2 : EmberGpdAddr} (h : a1.appId = appIdSrcId) :
    emberGpdUtilityAddrMatch a1 a2 = true ↔ a2.appId = appIdSrcId ∧ a1.srcId = a2.srcId := by
  have other : a1.appId ≠ appIdIeeeId := by
    rw [h]
    decide
  unfold emberGpdUtilityAddrMatch
  by_cases own : a2.appId = appIdSrcId
  · rw [if_pos ⟨h, own⟩]
    simp [own]
  · rw [if_neg (fun hc => own hc.2), if_neg (fun hc => other hc.1)]
    simp [own]

theorem addr_appId (buffer : Cells UInt8) : (addr buffer).appId = appIdSrcId := by
  unfold addr
  split_ifs with present
  · have parts : nwkFcExtnPresent buffer = true ∧ appId buffer = appIdSrcId ∧
        frameType buffer = nwkFcFrameTypeData := by simpa [srcIdPresent] using present
    exact parts.2.1
  · rfl

theorem addr_srcId (buffer : Cells UInt8) : (addr buffer).srcId =
    if srcIdPresent buffer = true then readWord buffer (srcIdFinger buffer) else 0 := by
  unfold addr
  split_ifs <;> rfl

/-- The address check with the device's own source id. -/
theorem addressAccepted_iff (buffer : Cells UInt8) (own : EmberGpdAddr) :
    AddressAccepted buffer own ↔ (frameType buffer = nwkFcFrameTypeData →
      own.appId = appIdSrcId ∧
        (if srcIdPresent buffer = true then readWord buffer (srcIdFinger buffer) else 0) =
          own.srcId) := by
  unfold AddressAccepted
  rw [addrMatch_iff (addr_appId buffer), addr_srcId]

theorem headerRead_of_not_accepted (b : Build) {s : Device}
    (dropped : ¬ Accepted s.rxMpdu.cell s.gpdNode.addr) :
    HeaderRead s (emberGpdIncomingMessageHandler b s) := by
  obtain ⟨s', read, h⟩ := emberGpdIncomingMessageHandler_eq b s
  rwa [h, if_neg dropped]

end GreenPower.FrameAcceptance
