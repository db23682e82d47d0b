import GreenPower.ReceiveOutcome

set_option autoImplicit false

/-!
Received frames that bring every byte the handler reads of them, so that what earlier frames
left in the receive buffer makes no difference.
-/
namespace GreenPower.CompleteFrame
open MemoryArray ByteWord BuildOptions DeviceState Security FrameBuild IncomingCommand
  IncomingMessage FrameAcceptance ReceiveOutcome

def heard (packet : List UInt8) : Cells UInt8 := store (fun _ => 0) 0 packet

/-- The end of what is read of a Commissioning Reply whose options are at `p`. -/
def replyEnd (b : Build) (cell : Cells UInt8) (p : ℕ) : ℕ :=
  if keyPresent (cell p) = true then
    if keyEncrypted (cell p) = true then
      if b.keyEncrypt = true then keyIndex p (cell p) + keyLength + micLengthBytes + 4 else p + 1
    else keyIndex p (cell p) + keyLength
  else p + 1

def commandEnd (b : Build) (cell : Cells UInt8) (start : ℕ) : ℕ :=
  if cell start = cmdChannelConfig then start + 2
  else if cell start = cmdCommissioningReply then replyEnd b cell (start + 1)
  else start + 1

def Enciphered (cell : Cells UInt8) : Prop :=
  appId cell = appIdSrcId ∧ frameType cell = nwkFcFrameTypeData ∧
    securityLevel cell = securityLevelLongFull

instance (cell : Cells UInt8) : Decidable (Enciphered cell) := by
  unfold Enciphered
  infer_instance

/-- A command of the packet is handed over by the device with address `own`. -/
def HandedOver (own : EmberGpdAddr) (cell : Cells UInt8) : Prop :=
  Accepted cell own ∧ gpdfAppPayloadLength cell ≠ 0

instance (own : EmberGpdAddr) (cell : Cells UInt8) : Decidable (HandedOver own cell) := by
  unfold HandedOver
  infer_instance

/-- The packet brings its header, and a command that is handed over is plain and whole. -/
structure Readable (b : Build) (own : EmberGpdAddr) (packet : List UInt8) : Prop where
  mac : 3 ≤ packet.length
  header : payloadFinger (heard packet) ≤ packet.length
  plain : HandedOver own (heard packet) → ¬ Enciphered (heard packet)
  command : HandedOver own (heard packet) →
    commandEnd b (heard packet) (payloadFinger (heard packet)) ≤ packet.length

structure SameHeader (f g : Cells UInt8) : Prop where
  length : nwkPayloadLength f = nwkPayloadLength g
  offset : nwkFcOffset f = nwkFcOffset g
  control : nwkFc f = nwkFc g
  extension : nwkFcExtn f = nwkFcExtn g
  source : srcIdPresent f = true → readWord f (srcIdFinger f) = readWord g (srcIdFinger f)

section
variable {f g : Cells UInt8}

theorem frameCounterFinger_le_payloadFinger (cell : Cells UInt8) :
    frameCounterFinger cell ≤ payloadFinger cell := Nat.le_add_right _ _

theorem srcIdFinger_le_payloadFinger (cell : Cells UInt8) :
    srcIdFinger cell ≤ payloadFinger cell :=
  (Nat.le_add_right _ _).trans (frameCounterFinger_le_payloadFinger cell)

theorem sameHeader_of_agree {n : ℕ} (agree : ∀ i < n, f i = g i) (mac : 3 ≤ n)
    (header : payloadFinger f ≤ n) : SameHeader f g := by
  have beforeSource := (srcIdFinger_le_payloadFinger f).trans header
  have mFc : mFc f = mFc g := by
    unfold IncomingMessage.mFc
    rw [agree 1 (by omega), agree 2 (by omega)]
  have offset : nwkFcOffset f = nwkFcOffset g := by
    unfold nwkFcOffset
    rw [mFc]
  have control : nwkFc f = nwkFc g := by
    unfold nwkFc
    rw [← offset]
    unfold srcIdFinger at beforeSource
    exact agree _ (by omega)
  have present : nwkFcExtnPresent f = nwkFcExtnPresent g := by
    unfold nwkFcExtnPresent
    rw [control]
  refine ⟨?_, offset, control, ?_, ?_⟩
  · unfold nwkPayloadLength
    rw [agree 0 (by omega)]
  · unfold nwkFcExtn
    rw [← present, ← offset]
    split_ifs with ext
    · unfold srcIdFinger at beforeSource
      rw [if_pos ext] at beforeSource
      exact agree _ (by omega)
    · rfl
  · intro source
    have inside := (frameCounterFinger_le_payloadFinger f).trans header
    unfold frameCounterFinger at inside
    rw [if_pos source] at inside
    unfold readWord
    rw [load_congr (fun i lo hi => agree i (by omega))]

theorem SameHeader.present (h : SameHeader f g) : nwkFcExtnPresent f = nwkFcExtnPresent g := by
  unfold nwkFcExtnPresent
  rw [h.control]

theorem SameHeader.frameType (h : SameHeader f g) : frameType f = frameType g := by
  unfold IncomingMessage.frameType
  rw [h.control]

theorem SameHeader.appId (h : SameHeader f g) : appId f = appId g := by
  unfold IncomingMessage.appId
  rw [h.extension]

theorem SameHeader.securityLevel (h : SameHeader f g) : securityLevel f = securityLevel g := by
  unfold IncomingMessage.securityLevel
  rw [h.extension]

theorem SameHeader.srcIdPresent (h : SameHeader f g) : srcIdPresent f = srcIdPresent g := by
  unfold IncomingMessage.srcIdPresent
  rw [h.present, h.appId, h.frameType]

theorem SameHeader.srcIdFinger (h : SameHeader f g) : srcIdFinger f = srcIdFinger g := by
  unfold IncomingMessage.srcIdFinger
  rw [h.present, h.offset]

theorem SameHeader.payloadFinger (h : SameHeader f g) : payloadFinger f = payloadFinger g := by
  unfold IncomingMessage.payloadFinger frameCounterFinger
  rw [h.srcIdFinger, h.srcIdPresent, h.securityLevel]

theorem SameHeader.gpdfAppPayloadLength (h : SameHeader f g) :
    gpdfAppPayloadLength f = gpdfAppPayloadLength g := by
  unfold IncomingMessage.gpdfAppPayloadLength micLength
  rw [h.length, h.payloadFinger, h.securityLevel]

theorem SameHeader.addr (h : SameHeader f g) : addr f = addr g := by
  unfold IncomingMessage.addr
  rw [← h.srcIdPresent, ← h.appId, ← h.srcIdFinger]
  split_ifs with source
  · rw [h.source source]
  · rfl

theorem SameHeader.accepted (h : SameHeader f g) (own : EmberGpdAddr) : Accepted f own ↔ Accepted g own := by
  unfold Accepted AddressAccepted
  rw [headerAccepted_iff, headerAccepted_iff, h.length, h.offset, h.frameType, h.present, h.addr]
  unfold zigbeeVersion direction rxAfterTx autoCommissioning
  rw [h.control, h.extension]

theorem replyReaction_agree (b : Build) (addr : EmberGpdAddr) (nonceRx : Cells UInt8) {n p : ℕ}
    (agree : ∀ i < n, f i = g i) (inside : replyEnd b f p ≤ n) (first : p < n) :
    replyReaction b addr nonceRx f p = replyReaction b addr nonceRx g p := by
  have options := agree p first
  unfold replyEnd at inside
  unfold replyReaction
  simp only [← options]
  by_cases present : keyPresent (f p) = true
  · rw [if_pos present] at inside
    rw [if_pos present, if_pos present]
    by_cases encrypted : keyEncrypted (f p) = true
    · rw [if_pos encrypted] at inside
      rw [if_pos encrypted, if_pos encrypted]
      by_cases enabled : b.keyEncrypt = true
      · rw [if_pos enabled] at inside
        have key : load f (keyIndex p (f p)) keyLength = load g (keyIndex p (f p)) keyLength :=
          load_congr (fun i _ hi => agree i (by omega))
        have mic : load f (keyIndex p (f p) + keyLength) micLengthBytes =
            load g (keyIndex p (f p) + keyLength) micLengthBytes :=
          load_congr (fun i _ hi => agree i (by omega))
        have counter : readWord f (keyIndex p (f p) + keyLength + micLengthBytes) =
            readWord g (keyIndex p (f p) + keyLength + micLengthBytes) := by
          unfold readWord
          rw [load_congr (fun i _ hi => agree i (by omega))]
        have verifies : DeliveredKeyVerifies b addr nonceRx f (keyIndex p (f p)) ↔
            DeliveredKeyVerifies b addr nonceRx g (keyIndex p (f p)) := by
          unfold DeliveredKeyVerifies
          rw [key, mic, counter]
        have delivered : deliveredKey b nonceRx f (keyIndex p (f p)) =
            deliveredKey b nonceRx g (keyIndex p (f p)) := by
          unfold deliveredKey
          rw [key, counter]
        simp only [verifies, delivered]
      · rw [if_neg enabled, if_neg enabled]
    · rw [if_neg encrypted] at inside
      rw [if_neg encrypted, if_neg encrypted, load_congr (fun i _ hi => agree i (by omega))]
  · rw [if_neg present, if_neg present]

theorem lt_replyEnd (b : Build) (cell : Cells UInt8) (p : ℕ) : p < replyEnd b cell p := by
  unfold replyEnd keyIndex
  split_ifs <;> omega

theorem lt_commandEnd (b : Build) (cell : Cells UInt8) (start : ℕ) :
    start < commandEnd b cell start := by
  have reply := lt_replyEnd b cell (start + 1)
  unfold commandEnd
  split_ifs <;> omega

theorem commandReaction_agree (b : Build) (addr : EmberGpdAddr) (nonceRx : Cells UInt8)
    {n start : ℕ} (agree : ∀ i < n, f i = g i) (inside : commandEnd b f start ≤ n) :
    commandReaction b addr nonceRx f start = commandReaction b addr nonceRx g start := by
  have first := (lt_commandEnd b f start).trans_le inside
  unfold commandEnd at inside
  unfold commandReaction
  rw [← agree start first]
  split_ifs at inside ⊢ with config reply
  · rw [agree (start + 1) (by omega)]
  · exact replyReaction_agree b addr nonceRx agree inside ((lt_replyEnd b f _).trans_le inside)
  · rfl

end

theorem heard_agree (cell : Cells UInt8) (packet : List UInt8) :
    ∀ i < packet.length, heard packet i = store cell 0 packet i := by
  intro i hi
  unfold heard
  rw [store_at _ 0 packet i i hi (Nat.zero_add i).symm,
    store_at cell 0 packet i i hi (Nat.zero_add i).symm]

theorem packetReaction_eq (b : Build) (packet : List UInt8) (s : Device) :
    packetReaction b packet s =
      if Accepted (store s.rxMpdu.cell 0 packet) s.gpdNode.addr then
        if gpdfAppPayloadLength (store s.rxMpdu.cell 0 packet) ≠ 0 then
          commandReaction b s.gpdNode.addr s.nonceRx
            (securedBuffer b s.ccmKey s.nonceRx (store s.rxMpdu.cell 0 packet))
            (payloadFinger (store s.rxMpdu.cell 0 packet))
        else .ignored
      else .ignored := rfl

/-- What a readable packet does to a device with this address and nonce. -/
def heardReaction (b : Build) (own : EmberGpdAddr) (nonceRx : Cells UInt8)
    (packet : List UInt8) : Reaction :=
  if HandedOver own (heard packet) then
    commandReaction b own nonceRx (heard packet) (payloadFinger (heard packet))
  else .ignored

/-- The leftovers in the buffer, the key and the counter have no part in it. -/
theorem packetReaction_of_readable {b : Build} {packet : List UInt8} {s : Device}
    (readable : Readable b s.gpdNode.addr packet) :
    packetReaction b packet s = heardReaction b s.gpdNode.addr s.nonceRx packet := by
  have agree := heard_agree s.rxMpdu.cell packet
  have same := sameHeader_of_agree agree readable.mac readable.header
  have length := same.gpdfAppPayloadLength
  rw [packetReaction_eq]
  unfold heardReaction
  by_cases handed : HandedOver s.gpdNode.addr (heard packet)
  · have buffer : securedBuffer b s.ccmKey s.nonceRx (store s.rxMpdu.cell 0 packet) =
        store s.rxMpdu.cell 0 packet := by
      refine if_neg (fun enciphered => readable.plain handed ?_)
      unfold Enciphered
      rw [same.appId, same.frameType, same.securityLevel]
      exact enciphered
    rw [if_pos ((same.accepted _).mp handed.1), if_pos (length ▸ handed.2), if_pos handed, buffer,
      ← same.payloadFinger, commandReaction_agree b _ _ agree (readable.command handed)]
  · rw [if_neg handed]
    by_cases accepted : Accepted (heard packet) s.gpdNode.addr
    · have empty : ¬ gpdfAppPayloadLength (heard packet) ≠ 0 := fun h => handed ⟨accepted, h⟩
      rw [if_pos ((same.accepted _).mp accepted), if_neg (length ▸ empty)]
    · rw [if_neg (fun h => accepted ((same.accepted _).mpr h))]

theorem heardReaction_congr (b : Build) (own : EmberGpdAddr) (packet : List UInt8)
    {f g : Cells UInt8} (h : ∀ i, i < 8 ∨ 12 ≤ i → f i = g i) :
    heardReaction b own f packet = heardReaction b own g packet := by
  unfold heardReaction
  rw [commandReaction_congr b own _ _ h]

end GreenPower.CompleteFrame
