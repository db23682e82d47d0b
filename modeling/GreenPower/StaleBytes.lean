import GreenPower.AesCipher
import GreenPower.CompleteFrame
import GreenPower.CrashConsistency
import GreenPower.ReceiveBounds

set_option autoImplicit false

/-!
What stands behind the announced end of a received frame. It makes no difference exactly when
the command that is handed over ends within the frame.
-/
namespace GreenPower.StaleBytes
open MemoryArray ByteWord BuildOptions DeviceState Security FrameBuild IncomingCommand
  IncomingMessage FrameAcceptance ReceiveOutcome CompleteFrame ReceiveBounds AesCipher

/-- Two buffers with the same length octet and the same octets as far as it announces them. -/
def SameFrame (f g : Cells UInt8) : Prop := f 0 = g 0 ∧ ∀ i, i + 2 ≤ (f 0).toNat → f i = g i

/-- What is left of the device, but for the buffer and the records, and what is left in flash,
when the buffer holds `cell`. -/
def left (b : Build) (cell : Cells UInt8) (s : Device) : Device × Option NvImage :=
  let s' := emberGpdIncomingMessageHandler b { s with rxMpdu := ⟨cell, s.rxMpdu.touched⟩ }
  ({ s' with rxMpdu := .untouched (fun _ => 0), log := [] }, flash s'.log)

def commandNonce (b : Build) (nonceRx cell : Cells UInt8) (start : ℕ) : Cells UInt8 :=
  if cell start = cmdCommissioningReply ∧ keyPresent (cell (start + 1)) = true ∧
      keyEncrypted (cell (start + 1)) = true ∧ b.keyEncrypt = true then
    store nonceRx 8 (copy4Bytes (readWord cell
      (keyIndex (start + 1) (cell (start + 1)) + keyLength + micLengthBytes)))
  else nonceRx

theorem touchIf_nonceRx (c : Prop) [Decidable c] (off n : ℕ) (s : Device) :
    (if c then s.touchRx off n else s).nonceRx = s.nonceRx := by
  split_ifs <;> rfl

theorem decryptKey_nonceRx (b : Build) (addr : EmberGpdAddr) (keyEncrypted keyMic : List UInt8)
    (secCounter : UInt32) (s : Device) :
    (emberGpdSecurityDecryptKey b addr keyEncrypted keyMic secCounter s).2.2.nonceRx =
      store s.nonceRx 8 (copy4Bytes secCounter) := rfl

theorem replyCallback_nonceRx (b : Build) (p : ℕ) (s : Device) :
    (emberGpdAfPluginCommissioningReplyCallback b p s).nonceRx =
      if keyPresent (s.rxMpdu.cell p) = true ∧ keyEncrypted (s.rxMpdu.cell p) = true ∧
          b.keyEncrypt = true then
        store s.nonceRx 8 (copy4Bytes (readWord s.rxMpdu.cell
          (keyIndex p (s.rxMpdu.cell p) + keyLength + micLengthBytes)))
      else s.nonceRx := by
  have options := touchIf_nonceRx (panIdPresent (s.rxMpdu.cell p) = true) (p + 1) 1
    (s.touchRx p 1)
  unfold emberGpdAfPluginCommissioningReplyCallback emberGpdProcessCommissioningReply
  simp only
  generalize (if panIdPresent (s.rxMpdu.cell p) = true then
    (s.touchRx p 1).touchRx (p + 1) 1 else s.touchRx p 1) = s1 at options ⊢
  have same : s1.nonceRx = s.nonceRx := options
  by_cases present : keyPresent (s.rxMpdu.cell p) = true
  swap
  · rw [if_neg present]
    exact same.trans (if_neg (fun all => present all.1)).symm
  by_cases encrypted : keyEncrypted (s.rxMpdu.cell p) = true
  swap
  · rw [if_pos present, if_neg encrypted]
    exact same.trans (if_neg (fun all => encrypted all.2.1)).symm
  by_cases enabled : b.keyEncrypt = true
  swap
  · rw [if_pos present, if_pos encrypted, if_neg enabled]
    exact same.trans (if_neg (fun all => enabled all.2.2)).symm
  rw [if_pos present, if_pos encrypted, if_pos enabled]
  refine Eq.trans ?_ (if_pos ⟨present, encrypted, enabled⟩).symm
  have touched : (s1.touchRx (keyIndex p (s.rxMpdu.cell p))
      (keyLength + micLengthBytes + 4)).nonceRx = s.nonceRx := same
  generalize s1.touchRx (keyIndex p (s.rxMpdu.cell p)) (keyLength + micLengthBytes + 4) = s2
    at touched ⊢
  have stored := decryptKey_nonceRx b s2.gpdNode.addr
    (load s.rxMpdu.cell (keyIndex p (s.rxMpdu.cell p)) keyLength)
    (load s.rxMpdu.cell (keyIndex p (s.rxMpdu.cell p) + keyLength) micLengthBytes)
    (readWord s.rxMpdu.cell (keyIndex p (s.rxMpdu.cell p) + keyLength + micLengthBytes)) s2
  rw [touched] at stored
  generalize emberGpdSecurityDecryptKey b s2.gpdNode.addr
    (load s.rxMpdu.cell (keyIndex p (s.rxMpdu.cell p)) keyLength)
    (load s.rxMpdu.cell (keyIndex p (s.rxMpdu.cell p) + keyLength) micLengthBytes)
    (readWord s.rxMpdu.cell (keyIndex p (s.rxMpdu.cell p) + keyLength + micLengthBytes)) s2 = out
    at stored ⊢
  obtain ⟨status, key, s3⟩ := out
  cases status <;> exact stored

theorem commandHandler_nonceRx (b : Build) (start : ℕ) {length : ℕ} (some : length ≠ 0)
    (s : Device) : (emberGpdIncomingCommandHandler b start length s).nonceRx =
      commandNonce b s.nonceRx s.rxMpdu.cell start := by
  have dispatch : emberGpdIncomingCommandHandler b start length s =
      if s.rxMpdu.cell start = cmdChannelConfig then
        emberGpdAfPluginCommissioningChannelConfigCallback
          (configuredChannel (s.rxMpdu.cell (start + 1)))
          (((s.record (commandEvent s.rxMpdu.cell start length)).touchRx start 1).touchRx
            (start + 1) 1)
      else if s.rxMpdu.cell start = cmdCommissioningReply then
        emberGpdAfPluginCommissioningReplyCallback b (start + 1)
          ((s.record (commandEvent s.rxMpdu.cell start length)).touchRx start 1)
      else (s.record (commandEvent s.rxMpdu.cell start length)).touchRx start 1 := if_neg some
  rw [dispatch]
  unfold commandNonce
  by_cases config : s.rxMpdu.cell start = cmdChannelConfig
  · have other : ¬ s.rxMpdu.cell start = cmdCommissioningReply := by
      rw [config]
      decide
    rw [if_pos config, if_neg (fun all => other all.1)]
    rfl
  rw [if_neg config]
  by_cases reply : s.rxMpdu.cell start = cmdCommissioningReply
  · rw [if_pos reply, replyCallback_nonceRx]
    simp only [reply, true_and]
    rfl
  · rw [if_neg reply, if_neg (fun all => reply all.1)]
    rfl

theorem dataFrameSecurity_nonceRx (b : Build) (s : Device) :
    (dataFrameSecurity b s).nonceRx = s.nonceRx := by
  unfold dataFrameSecurity
  simp only
  split_ifs <;> rfl

def reactionTo (b : Build) (cell : Cells UInt8) (s : Device) : Reaction :=
  if HandedOver s.gpdNode.addr cell then
    commandReaction b s.gpdNode.addr s.nonceRx (securedBuffer b s.ccmKey s.nonceRx cell)
      (payloadFinger cell)
  else .ignored

def nonceAfter (b : Build) (cell : Cells UInt8) (s : Device) : Cells UInt8 :=
  if HandedOver s.gpdNode.addr cell then
    commandNonce b s.nonceRx (securedBuffer b s.ccmKey s.nonceRx cell) (payloadFinger cell)
  else s.nonceRx

theorem handler_nonceRx (b : Build) (s : Device) :
    (emberGpdIncomingMessageHandler b s).nonceRx = nonceAfter b s.rxMpdu.cell s := by
  obtain ⟨s1, ⟨t, -, rfl⟩, handled⟩ := emberGpdIncomingMessageHandler_eq b s
  rw [handled]
  unfold nonceAfter
  by_cases accepted : Accepted s.rxMpdu.cell s.gpdNode.addr
  swap
  · rw [if_neg accepted, if_neg (fun handed => accepted handed.1)]
  rw [if_pos accepted, acceptedFrame_eq]
  have read := securityFieldsRead_eq { s with rxMpdu := ⟨s.rxMpdu.cell, t ++ s.rxMpdu.touched⟩ }
  have cell := securedFrame_cell b { s with rxMpdu := ⟨s.rxMpdu.cell, t ++ s.rxMpdu.touched⟩ }
  by_cases payload : gpdfAppPayloadLength s.rxMpdu.cell ≠ 0
  · rw [if_pos payload, if_pos ⟨accepted, payload⟩, commandHandler_nonceRx b _ payload,
      dataFrameSecurity_nonceRx, cell]
    obtain ⟨u, read⟩ := read
    rw [read]
  · rw [if_neg payload, if_neg (fun handed => payload handed.2), dataFrameSecurity_nonceRx]
    obtain ⟨u, read⟩ := read
    rw [read]

theorem frameReaction_eq (b : Build) (cell : Cells UInt8) (s : Device) :
    frameReaction b { s with rxMpdu := ⟨cell, s.rxMpdu.touched⟩ } = reactionTo b cell s := by
  change (if Accepted cell s.gpdNode.addr then
      if gpdfAppPayloadLength cell ≠ 0 then
        commandReaction b s.gpdNode.addr s.nonceRx (securedBuffer b s.ccmKey s.nonceRx cell)
          (payloadFinger cell)
      else .ignored
    else .ignored) = _
  unfold reactionTo
  by_cases accepted : Accepted cell s.gpdNode.addr
  · rw [if_pos accepted]
    by_cases payload : gpdfAppPayloadLength cell ≠ 0
    · have handed : HandedOver s.gpdNode.addr cell := ⟨accepted, payload⟩
      rw [if_pos payload, if_pos handed]
    · have dropped : ¬ HandedOver s.gpdNode.addr cell := fun handed => payload handed.2
      rw [if_neg payload, if_neg dropped]
  · have dropped : ¬ HandedOver s.gpdNode.addr cell := fun handed => accepted handed.1
    rw [if_neg accepted, if_neg dropped]

theorem left_eq (b : Build) (cell : Cells UInt8) (s : Device) : left b cell s =
    ({ s with
      gpdNode := (reactionTo b cell s).gpdNode s.gpdNode
      ccmKey := (reactionTo b cell s).ccmKey s.gpdNode s.ccmKey
      nonceRx := nonceAfter b cell s
      rxMpdu := .untouched (fun _ => 0)
      log := [] }, flash s.log) := by
  have nonceRx := handler_nonceRx b { s with rxMpdu := ⟨cell, s.rxMpdu.touched⟩ }
  obtain ⟨s', quiet, handled⟩ :=
    emberGpdIncomingMessageHandler_react b { s with rxMpdu := ⟨cell, s.rxMpdu.touched⟩ }
  rw [frameReaction_eq] at handled
  unfold left
  simp only
  rw [handled] at nonceRx ⊢
  obtain ⟨cell', t, n, -, -, rfl⟩ := quiet
  have counted : n = nonceAfter b cell s := nonceRx
  subst counted
  refine Prod.ext rfl ?_
  change flash ((reactionTo b cell s).events ++ (receptionEvents b
    { s with rxMpdu := ⟨cell, s.rxMpdu.touched⟩ } ++ s.log)) = flash s.log
  rw [CrashConsistency.flash_append_silent (CrashConsistency.Reaction.silent _),
    CrashConsistency.flash_append_silent (fun e he => CrashConsistency.Arrival.silent
      (DeviceSteps.arrival_of_receptionEvents b _ e he))]

def frameEnd (cell : Cells UInt8) : ℕ := nwkPayloadLength cell + 1

theorem frameEnd_of_le {cell : Cells UInt8} (footer : 2 ≤ (cell 0).toNat) :
    frameEnd cell + 1 = (cell 0).toNat := by
  unfold frameEnd
  rw [nwkPayloadLength_of_le footer]
  omega

/-- The length octet counts the MAC footer, and a command that is handed over ends in the
frame. -/
structure WholeFrame (b : Build) (s : Device) (cell : Cells UInt8) : Prop where
  footer : 2 ≤ (cell 0).toNat
  command : HandedOver s.gpdNode.addr cell →
    commandEnd b (securedBuffer b s.ccmKey s.nonceRx cell) (payloadFinger cell) ≤ frameEnd cell

section
variable {f g : Cells UInt8}

theorem SameFrame.symm (same : SameFrame f g) : SameFrame g f := by
  refine ⟨same.1.symm, fun i inside => (same.2 i ?_).symm⟩
  rw [same.1]
  exact inside

theorem SameFrame.agree (same : SameFrame f g) (footer : 2 ≤ (f 0).toNat) :
    ∀ i < frameEnd f, f i = g i := by
  intro i inside
  have announced := frameEnd_of_le footer
  exact same.2 i (by omega)

theorem SameFrame.frameEnd (same : SameFrame f g) : frameEnd f = frameEnd g := by
  unfold StaleBytes.frameEnd nwkPayloadLength
  rw [same.1]

theorem sameFrame_of_agree (footer : 2 ≤ (f 0).toNat) (agree : ∀ i < frameEnd f, f i = g i) :
    SameFrame f g := by
  have announced := frameEnd_of_le footer
  exact ⟨agree 0 (by omega), fun i inside => agree i (by omega)⟩

theorem handedOver_inside {own : EmberGpdAddr} (handed : HandedOver own f) :
    payloadFinger f + micLength f < frameEnd f := by
  have payload := handed.2
  rw [gpdfAppPayloadLength_eq] at payload
  unfold frameEnd
  omega

theorem sameHeader_of_handedOver {own : EmberGpdAddr} (handed : HandedOver own f)
    (agree : ∀ i < frameEnd f, f i = g i) : SameHeader f g := by
  have inside := handedOver_inside handed
  have long := handed.1.1.length
  refine sameHeader_of_agree agree ?_ (by omega)
  unfold frameEnd
  omega

theorem handedOver_of_agree {own : EmberGpdAddr} (handed : HandedOver own f)
    (agree : ∀ i < frameEnd f, f i = g i) : HandedOver own g := by
  have same := sameHeader_of_handedOver handed agree
  exact ⟨(same.accepted own).mp handed.1, same.gpdfAppPayloadLength ▸ handed.2⟩

theorem nwkFcExtnPresent_of_enciphered (enciphered : Enciphered f) :
    nwkFcExtnPresent f = true := by
  have level := enciphered.2.2
  by_contra absent
  unfold securityLevel nwkFcExtn at level
  rw [if_neg absent] at level
  exact absurd level (by decide)

/-- The enciphered part and its MIC end where the frame ends. -/
theorem enciphered_end {own : EmberGpdAddr} (handed : HandedOver own f)
    (footer : 2 ≤ (f 0).toNat) (enciphered : Enciphered f) :
    authStartSrcId + authFixedLenSrcId + encrLengthFull f + tagSize = frameEnd f := by
  have announced := frameEnd_of_le footer
  have inside := handedOver_inside handed
  have present := nwkFcExtnPresent_of_enciphered enciphered
  have secured : Secured (securityLevel f) := Or.inr enciphered.2.2
  have source : srcIdPresent f = true := by
    unfold srcIdPresent
    exact decide_eq_true ⟨present, enciphered.1, enciphered.2.1⟩
  have offset : 8 ≤ nwkFcOffset f := by
    have mac := handed.1.1.macFrame
    rcases nwkFcOffset_cases f with ⟨long, -⟩ | ⟨short, -⟩ | none <;> omega
  unfold payloadFinger frameCounterFinger srcIdFinger micLength at inside
  rw [if_pos present, if_pos source, if_pos secured, if_pos secured] at inside
  simp only [tagSize] at inside
  rw [encrLengthFull_eq (by omega)]
  simp only [authStartSrcId, authFixedLenSrcId, tagSize]
  omega

theorem securedBuffer_of_plain (b : Build) (key : Key) (nonceRx : Cells UInt8)
    (plain : ¬ Enciphered f) : securedBuffer b key nonceRx f = f := if_neg plain

theorem securedBuffer_of_enciphered (b : Build) (key : Key) (nonceRx : Cells UInt8)
    (enciphered : Enciphered f) : securedBuffer b key nonceRx f =
      store f (authStartSrcId + authFixedLenSrcId)
        (b.ccm.authDecrypt 0 key (nonce nonceRx) (load f authStartSrcId authFixedLenSrcId)
          (load f (authStartSrcId + authFixedLenSrcId) (encrLengthFull f))
          (load f (authStartSrcId + authFixedLenSrcId + encrLengthFull f) tagSize)).2 :=
  if_pos enciphered

theorem sameHeader_enciphered (same : SameHeader f g) : Enciphered f ↔ Enciphered g := by
  unfold Enciphered
  rw [same.appId, same.frameType, same.securityLevel]

theorem securedBuffer_agree (b : Build) (key : Key) (nonceRx : Cells UInt8) {own : EmberGpdAddr}
    (handed : HandedOver own f) (footer : 2 ≤ (f 0).toNat) (agree : ∀ i < frameEnd f, f i = g i) :
    ∀ i < frameEnd f, securedBuffer b key nonceRx f i = securedBuffer b key nonceRx g i := by
  intro i inside
  have same := sameHeader_of_handedOver handed agree
  by_cases enciphered : Enciphered f
  · have region := enciphered_end handed footer enciphered
    have length : encrLengthFull f = encrLengthFull g := by
      unfold encrLengthFull
      rw [same.length]
    have part {off n : ℕ} (le : off + n ≤ frameEnd f) : load f off n = load g off n :=
      load_congr (fun j _ hi => agree j (by omega))
    have header : load f authStartSrcId authFixedLenSrcId = load g authStartSrcId
      authFixedLenSrcId := part (by omega)
    have cipher : load f (authStartSrcId + authFixedLenSrcId) (encrLengthFull f) =
      load g (authStartSrcId + authFixedLenSrcId) (encrLengthFull f) := part (by omega)
    have mic : load f (authStartSrcId + authFixedLenSrcId + encrLengthFull f) tagSize =
      load g (authStartSrcId + authFixedLenSrcId + encrLengthFull f) tagSize := part (by omega)
    rw [securedBuffer_of_enciphered b key nonceRx enciphered,
      securedBuffer_of_enciphered b key nonceRx ((sameHeader_enciphered same).mp enciphered), ← length, header,
      cipher, mic]
    unfold store
    rw [agree i inside]
  · rw [securedBuffer_of_plain b key nonceRx enciphered,
      securedBuffer_of_plain b key nonceRx (fun h => enciphered ((sameHeader_enciphered same).mpr h))]
    exact agree i inside

/-- The decryptor does not write behind the frame. -/
theorem securedBuffer_beyond (b : Build) (key : Key) (nonceRx : Cells UInt8) {own : EmberGpdAddr}
    (handed : HandedOver own f) (footer : 2 ≤ (f 0).toNat) {i : ℕ} (beyond : frameEnd f ≤ i) :
    securedBuffer b key nonceRx f i = f i := by
  by_cases enciphered : Enciphered f
  · have region := enciphered_end handed footer enciphered
    rw [securedBuffer_of_enciphered b key nonceRx enciphered]
    refine store_outside _ _ _ _ (Or.inr ?_)
    rw [b.ccm.authDecrypt_length, load_length]
    omega
  · rw [securedBuffer_of_plain b key nonceRx enciphered]

theorem commandNonce_agree (b : Build) (nonceRx : Cells UInt8) {n start : ℕ}
    (agree : ∀ i < n, f i = g i) (inside : commandEnd b f start ≤ n) :
    commandNonce b nonceRx f start = commandNonce b nonceRx g start := by
  have first := (lt_commandEnd b f start).trans_le inside
  unfold commandNonce
  rw [← agree start first]
  by_cases reply : f start = cmdCommissioningReply
  swap
  · rw [if_neg (fun all => reply all.1), if_neg (fun all => reply all.1)]
  have config : ¬ f start = cmdChannelConfig := by
    rw [reply]
    decide
  unfold commandEnd at inside
  rw [if_neg config, if_pos reply] at inside
  have options := (lt_replyEnd b f (start + 1)).trans_le inside
  rw [← agree (start + 1) options]
  split_ifs with all
  · obtain ⟨-, present, encrypted, enabled⟩ := all
    unfold replyEnd at inside
    rw [if_pos present, if_pos encrypted, if_pos enabled] at inside
    unfold readWord
    rw [load_congr (fun i _ hi => agree i (by omega))]
  · rfl

end

section
variable {b : Build} {s : Device} {f g : Cells UInt8}

/-- The effect of a whole frame, whatever it goes to, is that of its announced octets. -/
theorem commandEffect_of_wholeFrame {α : Type} (effect : Cells UInt8 → ℕ → α) (ignored : α)
    (whole : WholeFrame b s f) (same : SameFrame f g)
    (agree : ∀ f' g' : Cells UInt8, ∀ start, (∀ i < frameEnd f, f' i = g' i) →
      commandEnd b f' start ≤ frameEnd f → effect f' start = effect g' start) :
    (if HandedOver s.gpdNode.addr g then
        effect (securedBuffer b s.ccmKey s.nonceRx g) (payloadFinger g) else ignored) =
      if HandedOver s.gpdNode.addr f then
        effect (securedBuffer b s.ccmKey s.nonceRx f) (payloadFinger f) else ignored := by
  have octets := same.agree whole.footer
  have footer : 2 ≤ (g 0).toNat := same.1 ▸ whole.footer
  by_cases handed : HandedOver s.gpdNode.addr f
  · have header := sameHeader_of_handedOver handed octets
    have secured := securedBuffer_agree b s.ccmKey s.nonceRx handed whole.footer octets
    rw [if_pos handed, if_pos (handedOver_of_agree handed octets), ← header.payloadFinger]
    exact (agree _ _ _ secured (whole.command handed)).symm
  · have dropped : ¬ HandedOver s.gpdNode.addr g := fun handed' =>
      handed (handedOver_of_agree handed' (same.symm.agree footer))
    rw [if_neg handed, if_neg dropped]

theorem reactionTo_of_wholeFrame (whole : WholeFrame b s f) (same : SameFrame f g) :
    reactionTo b g s = reactionTo b f s :=
  commandEffect_of_wholeFrame (commandReaction b s.gpdNode.addr s.nonceRx) .ignored whole same
    (fun _ _ _ octets inside => commandReaction_agree b _ _ octets inside)

theorem nonceAfter_of_wholeFrame (whole : WholeFrame b s f) (same : SameFrame f g) :
    nonceAfter b g s = nonceAfter b f s :=
  commandEffect_of_wholeFrame (commandNonce b s.nonceRx) s.nonceRx whole same
    (fun _ _ _ octets inside => commandNonce_agree b _ octets inside)

theorem left_of_wholeFrame (whole : WholeFrame b s f) (same : SameFrame f g) :
    left b g s = left b f s := by
  rw [left_eq, left_eq, reactionTo_of_wholeFrame whole same, nonceAfter_of_wholeFrame whole same]

end

def graft (n : ℕ) (f : Cells UInt8) (v : UInt8) : Cells UInt8 := fun i => if i < n then f i else v

theorem graft_below {n i : ℕ} (f : Cells UInt8) (v : UInt8) (below : i < n) :
    graft n f v i = f i := if_pos below

theorem graft_beyond {n i : ℕ} (f : Cells UInt8) (v : UInt8) (beyond : n ≤ i) :
    graft n f v i = v := if_neg (not_lt.mpr beyond)

def commandLeaves (b : Build) (gpd : EmberGpd) (nonceRx cell : Cells UInt8) (start : ℕ) :
    EmberGpd × Cells UInt8 :=
  ((commandReaction b gpd.addr nonceRx cell start).gpdNode gpd, commandNonce b nonceRx cell start)

theorem commandReaction_of_config (b : Build) (addr : EmberGpdAddr) (nonceRx : Cells UInt8)
    {cell : Cells UInt8} {start : ℕ} (config : cell start = cmdChannelConfig) :
    commandReaction b addr nonceRx cell start =
      .channelConfig (configuredChannel (cell (start + 1))) := if_pos config

theorem commandReaction_of_reply (b : Build) (addr : EmberGpdAddr) (nonceRx : Cells UInt8)
    {cell : Cells UInt8} {start : ℕ} (reply : cell start = cmdCommissioningReply) :
    commandReaction b addr nonceRx cell start =
      replyReaction b addr nonceRx cell (start + 1) := by
  have config : ¬ cell start = cmdChannelConfig := by
    rw [reply]
    decide
  unfold commandReaction
  rw [if_neg config, if_pos reply]

theorem storedCounter_last (nonceRx cell : Cells UInt8) (off : ℕ) :
    store nonceRx 8 (copy4Bytes (readWord cell off)) 11 = cell (off + 3) := by
  have bytes : copy4Bytes (readWord cell off) = load cell off 4 := by
    unfold readWord
    exact copy4Bytes_word32 _ (load_length _ _ _)
  rw [bytes, store_at nonceRx 8 _ 11 3 (by rw [load_length]; omega) rfl, load_get]

theorem deliveredPlainKey_last (cell : Cells UInt8) (index : ℕ) :
    (keyOfBytes (load cell index keyLength)).toList[15]? = some (cell (index + 15)) := by
  have bytes : (keyOfBytes (load cell index keyLength)).toList = load cell index keyLength :=
    toList_keyOfBytes _ (load_length _ _ _)
  have last : 15 < (load cell index keyLength).length := by
    rw [load_length]
    decide
  rw [bytes, List.getElem?_eq_getElem last, load_get]

section
variable (b : Build) (gpd : EmberGpd) (nonceRx : Cells UInt8) {f : Cells UInt8} {n start : ℕ}

theorem staleChannel_differs (config : f start = cmdChannelConfig) (first : start < n)
    (beyond : n ≤ start + 1) :
    commandLeaves b gpd nonceRx (graft n f 0) start ≠
      commandLeaves b gpd nonceRx (graft n f 1) start := by
  intro same
  have channel (v : UInt8) : (commandLeaves b gpd nonceRx (graft n f v) start).1.channel =
      configuredChannel v := by
    unfold commandLeaves
    rw [commandReaction_of_config b _ _ ((graft_below f v first).trans config),
      graft_beyond f v beyond]
    rfl
  have equal := channel 0
  rw [same, channel 1] at equal
  exact absurd equal (by decide)

theorem staleOptions_differ (reply : f start = cmdCommissioningReply) (first : start < n)
    (beyond : n ≤ start + 1) :
    commandLeaves b gpd nonceRx (graft n f 0) start ≠
      commandLeaves b gpd nonceRx (graft n f 8) start := by
  intro same
  have level {v : UInt8} (absent : keyPresent v = false) :
      (commandLeaves b gpd nonceRx (graft n f v) start).1.securityLevel =
        replySecurityLevel v := by
    unfold commandLeaves
    rw [commandReaction_of_reply b _ _ ((graft_below f v first).trans reply)]
    unfold replyReaction
    simp only [graft_beyond f v beyond]
    rw [absent]
    rfl
  have equal := level (v := 0) (by decide)
  rw [same, level (v := 8) (by decide)] at equal
  exact absurd equal (by decide)

theorem staleKey_differs (reply : f start = cmdCommissioningReply) (options : start + 1 < n)
    (present : keyPresent (f (start + 1)) = true)
    (plain : ¬ keyEncrypted (f (start + 1)) = true)
    (beyond : n ≤ keyIndex (start + 1) (f (start + 1)) + 15) :
    commandLeaves b gpd nonceRx (graft n f 0) start ≠
      commandLeaves b gpd nonceRx (graft n f 1) start := by
  intro same
  have key (v : UInt8) :
      (commandLeaves b gpd nonceRx (graft n f v) start).1.securityKey.toList[15]? = some v := by
    unfold commandLeaves
    rw [commandReaction_of_reply b _ _ ((graft_below f v (by omega)).trans reply)]
    unfold replyReaction
    simp only [graft_below f v options]
    rw [if_pos present, if_neg plain]
    refine (deliveredPlainKey_last _ _).trans ?_
    rw [graft_beyond f v beyond]
  have equal := key 0
  rw [same, key 1] at equal
  exact absurd equal (by decide)

theorem staleCounter_differs (reply : f start = cmdCommissioningReply) (options : start + 1 < n)
    (present : keyPresent (f (start + 1)) = true)
    (encrypted : keyEncrypted (f (start + 1)) = true) (enabled : b.keyEncrypt = true)
    (beyond : n ≤ keyIndex (start + 1) (f (start + 1)) + keyLength + micLengthBytes + 3) :
    commandLeaves b gpd nonceRx (graft n f 0) start ≠
      commandLeaves b gpd nonceRx (graft n f 1) start := by
  intro same
  have counter (v : UInt8) : (commandLeaves b gpd nonceRx (graft n f v) start).2 11 = v := by
    unfold commandLeaves commandNonce
    rw [graft_below f v (by omega), graft_below f v options,
      if_pos ⟨reply, present, encrypted, enabled⟩]
    exact (storedCounter_last nonceRx _ _).trans (graft_beyond f v beyond)
  have equal := counter 0
  rw [same, counter 1] at equal
  exact absurd equal (by decide)

theorem commandLeaves_differ (first : start < n) (short : n < commandEnd b f start) :
    ∃ v, commandLeaves b gpd nonceRx (graft n f 0) start ≠
      commandLeaves b gpd nonceRx (graft n f v) start := by
  unfold commandEnd at short
  split_ifs at short with config reply
  · exact ⟨1, staleChannel_differs b gpd nonceRx config first (by omega)⟩
  · by_cases options : start + 1 < n
    · unfold replyEnd at short
      split_ifs at short with present encrypted enabled
      · exact ⟨1, staleCounter_differs b gpd nonceRx reply options present encrypted enabled
          (by omega)⟩
      · omega
      · simp only [keyLength] at short
        exact ⟨1, staleKey_differs b gpd nonceRx reply options present encrypted (by omega)⟩
      · omega
    · exact ⟨8, staleOptions_differ b gpd nonceRx reply first (by omega)⟩
  · omega

end

theorem left_gpdNode (b : Build) (cell : Cells UInt8) (s : Device) :
    (left b cell s).1.gpdNode = (reactionTo b cell s).gpdNode s.gpdNode := by
  rw [left_eq]

theorem left_nonceRx (b : Build) (cell : Cells UInt8) (s : Device) :
    (left b cell s).1.nonceRx = nonceAfter b cell s := by
  rw [left_eq]

def unannounced (length payload : UInt8) : Cells UInt8 :=
  store (fun _ => 0) 0 [length, 0x01, 0x08, 0, 0xff, 0xff, 0xff, 0xff, 0x0d, 0xf3, payload]

theorem unannounced_header : ∀ length : Fin 2, ∀ payload : Fin 2,
    HeaderAccepted (unannounced (UInt8.ofNat length) (UInt8.ofNat payload)) ∧
      frameType (unannounced (UInt8.ofNat length) (UInt8.ofNat payload)) ≠ nwkFcFrameTypeData ∧
      gpdfAppPayloadLength (unannounced (UInt8.ofNat length) (UInt8.ofNat payload)) ≠ 0 ∧
      payloadFinger (unannounced (UInt8.ofNat length) (UInt8.ofNat payload)) = 9 := by
  decide +kernel

theorem unannounced_channel (b : Build) (s : Device) (length payload : Fin 2) :
    (left b (unannounced (UInt8.ofNat length) (UInt8.ofNat payload)) s).1.gpdNode.channel =
      configuredChannel (UInt8.ofNat payload) := by
  obtain ⟨header, maint, some, finger⟩ := unannounced_header length payload
  have handed : HandedOver s.gpdNode.addr
      (unannounced (UInt8.ofNat length) (UInt8.ofNat payload)) :=
    ⟨⟨header, fun data => absurd data maint⟩, some⟩
  rw [left_gpdNode]
  unfold reactionTo
  rw [if_pos handed, securedBuffer_of_plain b _ _ (fun enciphered => maint enciphered.2.1), finger,
    commandReaction_of_config b _ _ rfl]
  rfl

theorem footer_of_left_same {b : Build} {s : Device} {cell : Cells UInt8}
    (same : ∀ cell', SameFrame cell cell' → left b cell' s = left b cell s) :
    2 ≤ (cell 0).toNat := by
  by_contra low
  have small : (cell 0).toNat < 2 := not_le.mp low
  have octet : cell 0 = UInt8.ofNat (⟨(cell 0).toNat, small⟩ : Fin 2) :=
    UInt8.ofNat_toNat.symm
  have frame (payload : Fin 2) : SameFrame cell (unannounced
      (UInt8.ofNat (⟨(cell 0).toNat, small⟩ : Fin 2)) (UInt8.ofNat payload)) :=
    ⟨octet, fun i inside => by omega⟩
  have equal := unannounced_channel b s ⟨(cell 0).toNat, small⟩ 0
  rw [same _ (frame 0), ← same _ (frame 1), unannounced_channel] at equal
  exact absurd equal (by decide)

theorem wholeFrame_of_left_same {b : Build} {s : Device} {cell : Cells UInt8}
    (same : ∀ cell', SameFrame cell cell' → left b cell' s = left b cell s) :
    WholeFrame b s cell := by
  have footer := footer_of_left_same same
  refine ⟨footer, fun handed => ?_⟩
  by_contra short
  have agree (v : UInt8) : ∀ i < frameEnd cell, cell i = graft (frameEnd cell) cell v i :=
    fun i below => (graft_below cell v below).symm
  have inside := handedOver_inside handed
  have leaves (v : UInt8) : commandLeaves b s.gpdNode s.nonceRx
      (graft (frameEnd cell) (securedBuffer b s.ccmKey s.nonceRx cell) v) (payloadFinger cell) =
      ((left b cell s).1.gpdNode, (left b cell s).1.nonceRx) := by
    have frame := sameFrame_of_agree footer (agree v)
    have handed' := handedOver_of_agree handed (agree v)
    have header := sameHeader_of_handedOver handed (agree v)
    have secured : securedBuffer b s.ccmKey s.nonceRx (graft (frameEnd cell) cell v) =
        graft (frameEnd cell) (securedBuffer b s.ccmKey s.nonceRx cell) v := by
      funext i
      by_cases below : i < frameEnd cell
      · rw [graft_below _ v below]
        exact (securedBuffer_agree b _ _ handed footer (agree v) i below).symm
      · have beyond : frameEnd cell ≤ i := not_lt.mp below
        have footer' : 2 ≤ (graft (frameEnd cell) cell v 0).toNat := frame.1 ▸ footer
        rw [securedBuffer_beyond b _ _ handed' footer' (frame.frameEnd ▸ beyond),
          graft_beyond _ v beyond, graft_beyond _ v beyond]
    rw [← same _ frame, left_gpdNode, left_nonceRx]
    unfold commandLeaves reactionTo nonceAfter
    rw [if_pos handed', if_pos handed', secured, ← header.payloadFinger]
  obtain ⟨v, differ⟩ := commandLeaves_differ b s.gpdNode s.nonceRx (by omega : payloadFinger cell <
    frameEnd cell) (not_le.mp short)
  exact differ ((leaves 0).trans (leaves v).symm)

/-- Whatever stands behind the frame, the same is left, exactly for whole frames. -/
theorem stale_bytes_iff (b : Build) (cell : Cells UInt8) (s : Device) :
    (∀ cell', SameFrame cell cell' → left b cell' s = left b cell s) ↔ WholeFrame b s cell :=
  ⟨wholeFrame_of_left_same, fun whole _ same => left_of_wholeFrame whole same⟩

def truncatedReply (stale : UInt8) : Cells UInt8 :=
  store (fun _ => stale) 0 [12, 0x01, 0x08, 0, 0xff, 0xff, 0xff, 0xff, 0x0d, 0xf0, 0x02]

theorem truncatedReply_differs : ∃ (cell cell' : Cells UInt8) (s : Device), SameFrame cell cell' ∧
    (emberGpdIncomingMessageHandler (shipped (aesCcm tagSize))
        { s with rxMpdu := ⟨cell, s.rxMpdu.touched⟩ }).gpdNode.securityKey ≠
      (emberGpdIncomingMessageHandler (shipped (aesCcm tagSize))
        { s with rxMpdu := ⟨cell', s.rxMpdu.touched⟩ }).gpdNode.securityKey := by
  refine ⟨truncatedReply 0, truncatedReply 1, FrameAuthentication.receiving [], ⟨rfl, ?_⟩,
    by decide +kernel⟩
  intro i inside
  have below : i < 11 := by
    have octet : (truncatedReply 0 0).toNat = 12 := rfl
    omega
  interval_cases i <;> rfl

end GreenPower.StaleBytes
