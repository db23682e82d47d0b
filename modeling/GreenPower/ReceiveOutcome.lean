import GreenPower.FrameAcceptance

set_option autoImplicit false

/-!
What a received packet can do to the device. All of it is one of four reactions, computed
from the packet; apart from the reaction only the receive buffer, the counter in the receive
nonce and records of the reception change.
-/
namespace GreenPower.ReceiveOutcome
open MemoryArray ByteWord BuildOptions DeviceState Security FrameBuild IncomingCommand
  IncomingMessage FrameAcceptance

inductive Reaction where
  | ignored
  | channelConfig (channel : UInt8)
  | replyAccepted (newKey : Option Key) (securityLevel securityKeyType : UInt8)
  | replyRejected
  deriving DecidableEq

namespace Reaction

def InRange : Reaction → Prop
  | .ignored => True
  | .channelConfig channel => 11 ≤ channel ∧ channel ≤ 26
  | .replyAccepted _ securityLevel securityKeyType => securityLevel ≤ 3 ∧ securityKeyType ≤ 7
  | .replyRejected => True

def gpdNode (gpd : EmberGpd) : Reaction → EmberGpd
  | .ignored => gpd
  | .channelConfig channel => { gpd with channel := channel, gpdState := appStateChannelReceived }
  | .replyAccepted newKey securityLevel securityKeyType =>
    { gpd with
      securityKey := newKey.getD gpd.securityKey
      securityLevel := securityLevel
      securityKeyType := securityKeyType
      gpdState := appStateCommissioningReplyReceived }
  | .replyRejected => { gpd with securityKey := zeroKey }

def ccmKey (gpd : EmberGpd) (ccmKey : Key) : Reaction → Key
  | .ignored => ccmKey
  | .channelConfig _ => ccmKey
  | .replyAccepted newKey _ _ => newKey.getD gpd.securityKey
  | .replyRejected => keyDefaultTCLink

def events : Reaction → List Event
  | .ignored => []
  | .channelConfig _ => [.setState appStateChannelReceived]
  | .replyAccepted newKey _ _ =>
    [.setState appStateCommissioningReplyReceived, .replyAccepted newKey]
  | .replyRejected => [.replyRejected]

end Reaction

def react (r : Reaction) (s : Device) : Device :=
  { s with
    gpdNode := r.gpdNode s.gpdNode
    ccmKey := r.ccmKey s.gpdNode s.ccmKey
    log := r.events ++ s.log }

/-- The nonce, associated data, ciphertext and MIC of an encrypted key at `index`. -/
def DeliveredKeyVerifies (b : Build) (addr : EmberGpdAddr) (nonceRx cell : Cells UInt8)
    (index : ℕ) : Prop :=
  b.ccm.Verifies keyDefaultTCLink
    (nonce (store nonceRx 8 (copy4Bytes (readWord cell (index + keyLength + micLengthBytes)))))
    (copy4Bytes addr.srcId) (load cell index keyLength) (load cell (index + keyLength) micLengthBytes)

instance (b : Build) (addr : EmberGpdAddr) (nonceRx cell : Cells UInt8) (index : ℕ) :
    Decidable (DeliveredKeyVerifies b addr nonceRx cell index) := by
  unfold DeliveredKeyVerifies
  infer_instance

def deliveredKey (b : Build) (nonceRx cell : Cells UInt8) (index : ℕ) : Key :=
  keyOfBytes (b.ccm.decipher keyDefaultTCLink
    (nonce (store nonceRx 8 (copy4Bytes (readWord cell (index + keyLength + micLengthBytes)))))
    (load cell index keyLength))

def replyReaction (b : Build) (addr : EmberGpdAddr) (nonceRx cell : Cells UInt8)
    (pRxbuffer : ℕ) : Reaction :=
  let options := cell pRxbuffer
  let index := keyIndex pRxbuffer options
  let accepted (newKey : Option Key) : Reaction :=
    .replyAccepted newKey (replySecurityLevel options) (replySecurityKeyType options)
  if keyPresent options = true then
    if keyEncrypted options = true then
      if b.keyEncrypt = true then
        if DeliveredKeyVerifies b addr nonceRx cell index then
          accepted (some (deliveredKey b nonceRx cell index))
        else .replyRejected
      else accepted none
    else accepted (some (keyOfBytes (load cell index keyLength)))
  else accepted none

def commandReaction (b : Build) (addr : EmberGpdAddr) (nonceRx cell : Cells UInt8)
    (gpdCommandBuffer : ℕ) : Reaction :=
  if cell gpdCommandBuffer = cmdChannelConfig then
    .channelConfig (configuredChannel (cell (gpdCommandBuffer + 1)))
  else if cell gpdCommandBuffer = cmdCommissioningReply then
    replyReaction b addr nonceRx cell (gpdCommandBuffer + 1)
  else .ignored

def RegionVerifies (b : Build) (ccmKey : Key) (nonceRx cell : Cells UInt8)
    (authStart encrLength authLength : ℕ) : Prop :=
  b.ccm.Verifies ccmKey (nonce nonceRx) (load cell authStart authLength)
    (load cell (authStart + authLength) encrLength)
    (load cell (authStart + authLength + encrLength) tagSize)

instance (b : Build) (ccmKey : Key) (nonceRx cell : Cells UInt8)
    (authStart encrLength authLength : ℕ) :
    Decidable (RegionVerifies b ccmKey nonceRx cell authStart encrLength authLength) := by
  unfold RegionVerifies
  infer_instance

def decryptEvent (b : Build) (ccmKey : Key) (nonceRx cell : Cells UInt8)
    (authStart encrLength authLength : ℕ) : Event :=
  .decrypt authStart encrLength authLength
    (if RegionVerifies b ccmKey nonceRx cell authStart encrLength authLength then .success
      else .failed)

def securityEvents (b : Build) (ccmKey : Key) (nonceRx cell : Cells UInt8) : List Event :=
  if appId cell = appIdSrcId ∧ frameType cell = nwkFcFrameTypeData then
    if securityLevel cell = securityLevelLongAuthOnly then
      [decryptEvent b ccmKey nonceRx cell (authStartSrcId - 1) 0 (authLengthAuthOnly cell)]
    else if securityLevel cell = securityLevelLongFull then
      [decryptEvent b ccmKey nonceRx cell authStartSrcId (encrLengthFull cell) authFixedLenSrcId]
    else []
  else []

def securedBuffer (b : Build) (ccmKey : Key) (nonceRx cell : Cells UInt8) : Cells UInt8 :=
  if appId cell = appIdSrcId ∧ frameType cell = nwkFcFrameTypeData ∧
      securityLevel cell = securityLevelLongFull then
    store cell (authStartSrcId + authFixedLenSrcId)
      (b.ccm.authDecrypt 0 ccmKey (nonce nonceRx) (load cell authStartSrcId authFixedLenSrcId)
        (load cell (authStartSrcId + authFixedLenSrcId) (encrLengthFull cell))
        (load cell (authStartSrcId + authFixedLenSrcId + encrLengthFull cell) tagSize)).2
  else cell

def commandEvent (cell : Cells UInt8) (start length : ℕ) : Event :=
  .incomingCommand start length (load cell start length)

section
variable (b : Build) (s : Device)

def payloadEvents : List Event :=
  (if gpdfAppPayloadLength s.rxMpdu.cell ≠ 0 then
    [commandEvent (securedBuffer b s.ccmKey s.nonceRx s.rxMpdu.cell)
      (payloadFinger s.rxMpdu.cell) (gpdfAppPayloadLength s.rxMpdu.cell)]
  else []) ++ securityEvents b s.ccmKey s.nonceRx s.rxMpdu.cell

def payloadReaction : Reaction :=
  if gpdfAppPayloadLength s.rxMpdu.cell ≠ 0 then
    commandReaction b s.gpdNode.addr s.nonceRx (securedBuffer b s.ccmKey s.nonceRx s.rxMpdu.cell)
      (payloadFinger s.rxMpdu.cell)
  else .ignored

def receptionEvents : List Event :=
  if Accepted s.rxMpdu.cell s.gpdNode.addr then payloadEvents b s else []

def frameReaction : Reaction :=
  if Accepted s.rxMpdu.cell s.gpdNode.addr then payloadReaction b s else .ignored

end

def packetReaction (b : Build) (packet : List UInt8) (s : Device) : Reaction :=
  frameReaction b { s with rxMpdu := s.rxMpdu.store 0 packet }

/-- `s` after a part of the reception that records `new` and is not a reaction; every range of
the buffer it touched ends at `size` or before. -/
def Quiet (size : ℕ) (new : List Event) (s s' : Device) : Prop :=
  ∃ cell t nonceRx, (∀ r ∈ t, r.1 + r.2 ≤ size) ∧
    (∀ i, i < 8 ∨ 12 ≤ i → nonceRx i = s.nonceRx i) ∧
    s' = { s with
      rxMpdu := ⟨cell, t ++ s.rxMpdu.touched⟩, nonceRx := nonceRx, log := new ++ s.log }

section
variable {size : ℕ} {new new' : List Event} {s s' s'' : Device}

theorem Quiet.refl (size : ℕ) (s : Device) : Quiet size [] s s :=
  ⟨s.rxMpdu.cell, [], s.nonceRx, by simp, fun _ _ => rfl, rfl⟩

theorem Quiet.trans (h : Quiet size new s s') (h' : Quiet size new' s' s'') :
    Quiet size (new' ++ new) s s'' := by
  obtain ⟨cell, t, n, ht, hn, rfl⟩ := h
  obtain ⟨cell', t', n', ht', hn', rfl⟩ := h'
  refine ⟨cell', t' ++ t, n', ?_, ?_, by simp⟩
  · intro r hr
    rcases List.mem_append.mp hr with hr | hr
    · exact ht' r hr
    · exact ht r hr
  · intro i hi
    rw [hn' i hi]
    exact hn i hi

theorem Quiet.mono {size' : ℕ} (h : Quiet size new s s') (le : size ≤ size') :
    Quiet size' new s s' := by
  obtain ⟨cell, t, n, ht, hn, rfl⟩ := h
  exact ⟨cell, t, n, fun r hr => (ht r hr).trans le, hn, rfl⟩

theorem Quiet.touchRx (h : Quiet size new s s') (off n : ℕ) (bound : off + n ≤ size) :
    Quiet size new s (s'.touchRx off n) := by
  have touched : Quiet size [] s' (s'.touchRx off n) :=
    ⟨s'.rxMpdu.cell, [(off, n)], s'.nonceRx, by simpa using bound, fun _ _ => rfl, rfl⟩
  exact h.trans touched

theorem Quiet.storeRx (h : Quiet size new s s') (off : ℕ) (xs : List UInt8)
    (bound : off + xs.length ≤ size) :
    Quiet size new s { s' with rxMpdu := s'.rxMpdu.store off xs } := by
  have stored : Quiet size [] s' { s' with rxMpdu := s'.rxMpdu.store off xs } :=
    ⟨_, [(off, xs.length)], s'.nonceRx, by simpa using bound, fun _ _ => rfl, rfl⟩
  exact h.trans stored

theorem Quiet.record (h : Quiet size new s s') (e : Event) :
    Quiet size (e :: new) s (s'.record e) := by
  have recorded : Quiet size [e] s' (s'.record e) :=
    ⟨s'.rxMpdu.cell, [], s'.nonceRx, by simp, fun _ _ => rfl, rfl⟩
  exact h.trans recorded

theorem Quiet.setRxCounter (h : Quiet size new s s') (value : UInt32) :
    Quiet size new s { s' with nonceRx := store s'.nonceRx 8 (copy4Bytes value) } := by
  have stored : Quiet size [] s'
      { s' with nonceRx := store s'.nonceRx 8 (copy4Bytes value) } := by
    refine ⟨s'.rxMpdu.cell, [], _, by simp, ?_, rfl⟩
    intro i hi
    exact store_outside _ _ _ _ (by simpa using hi)
  exact h.trans stored

theorem Quiet.of_headerRead (h : HeaderRead s s') : Quiet 20 [] s s' := by
  obtain ⟨t, ht, rfl⟩ := h
  exact ⟨_, t, s.nonceRx, ht, fun _ _ => rfl, rfl⟩

theorem Quiet.gpdNode (h : Quiet size new s s') : s'.gpdNode = s.gpdNode := by
  obtain ⟨cell, t, n, _, _, rfl⟩ := h
  rfl

theorem Quiet.log (h : Quiet size new s s') : s'.log = new ++ s.log := by
  obtain ⟨cell, t, n, _, _, rfl⟩ := h
  rfl

theorem Quiet.nonceRx (h : Quiet size new s s') :
    ∀ i, i < 8 ∨ 12 ≤ i → s'.nonceRx i = s.nonceRx i := by
  obtain ⟨cell, t, n, _, hn, rfl⟩ := h
  exact hn

theorem Quiet.touched (h : Quiet size new s s') : ∃ t, (∀ r ∈ t, r.1 + r.2 ≤ size) ∧
    s'.rxMpdu.touched = t ++ s.rxMpdu.touched := by
  obtain ⟨cell, t, n, ht, _, rfl⟩ := h
  exact ⟨t, ht, rfl⟩

end

/-- Only the part of a nonce outside the counter matters once a counter is stored. -/
theorem nonce_store_congr {f g : Cells UInt8} (h : ∀ i, i < 8 ∨ 12 ≤ i → f i = g i)
    (value : UInt32) :
    nonce (store f 8 (copy4Bytes value)) = nonce (store g 8 (copy4Bytes value)) := by
  apply load_congr
  intro i _ _
  by_cases out : i < 8 ∨ 12 ≤ i
  · rw [store_outside _ _ _ _ (by simpa using out), store_outside _ _ _ _ (by simpa using out)]
    exact h i out
  · have hlen : i - 8 < (copy4Bytes value).length := by
      rw [copy4Bytes_length]
      omega
    rw [store_at f 8 _ i (i - 8) hlen (by omega), store_at g 8 _ i (i - 8) hlen (by omega)]

theorem deliveredKeyVerifies_congr (b : Build) (addr : EmberGpdAddr) (cell : Cells UInt8)
    (index : ℕ) {f g : Cells UInt8} (h : ∀ i, i < 8 ∨ 12 ≤ i → f i = g i) :
    DeliveredKeyVerifies b addr f cell index ↔ DeliveredKeyVerifies b addr g cell index := by
  unfold DeliveredKeyVerifies
  rw [nonce_store_congr h]

theorem deliveredKey_congr (b : Build) (cell : Cells UInt8) (index : ℕ) {f g : Cells UInt8}
    (h : ∀ i, i < 8 ∨ 12 ≤ i → f i = g i) :
    deliveredKey b f cell index = deliveredKey b g cell index := by
  unfold deliveredKey
  rw [nonce_store_congr h]

theorem keyIndex_le (p : ℕ) (options : UInt8) : keyIndex p options ≤ p + 3 := by
  unfold keyIndex
  split_ifs <;> omega

/-- The reply callback on a payload that starts at 25 or before. -/
theorem replyCallback_eq (b : Build) (p : ℕ) (s : Device) (hp : p ≤ 25) : ∃ s',
    Quiet 52 [] s s' ∧ emberGpdAfPluginCommissioningReplyCallback b p s =
      react (replyReaction b s.gpdNode.addr s.nonceRx s.rxMpdu.cell p) s' := by
  have hi := keyIndex_le p (s.rxMpdu.cell p)
  have q1 := (Quiet.refl 52 s).touchRx p 1 (by omega)
  have q2 : Quiet 52 [] s (if panIdPresent (s.rxMpdu.cell p) = true then
      (s.touchRx p 1).touchRx (p + 1) 1 else s.touchRx p 1) := by
    split_ifs
    · exact q1.touchRx (p + 1) 1 (by omega)
    · exact q1
  simp only [emberGpdAfPluginCommissioningReplyCallback, emberGpdProcessCommissioningReply,
    replyReaction]
  generalize (if panIdPresent (s.rxMpdu.cell p) = true then
    (s.touchRx p 1).touchRx (p + 1) 1 else s.touchRx p 1) = s2 at q2 ⊢
  by_cases present : keyPresent (s.rxMpdu.cell p) = true
  · rw [if_pos present, if_pos present]
    by_cases encrypted : keyEncrypted (s.rxMpdu.cell p) = true
    · rw [if_pos encrypted, if_pos encrypted]
      by_cases enabled : b.keyEncrypt = true
      · rw [if_pos enabled, if_pos enabled]
        have q3 := q2.touchRx (keyIndex p (s.rxMpdu.cell p)) (keyLength + micLengthBytes + 4) (by
          simp only [keyLength, micLengthBytes]; omega)
        generalize s2.touchRx (keyIndex p (s.rxMpdu.cell p)) (keyLength + micLengthBytes + 4) = s3
          at q3 ⊢
        have verifies := deliveredKeyVerifies_congr b s.gpdNode.addr s.rxMpdu.cell
          (keyIndex p (s.rxMpdu.cell p)) q3.nonceRx
        have key := deliveredKey_congr b s.rxMpdu.cell (keyIndex p (s.rxMpdu.cell p)) q3.nonceRx
        have rest := q3.setRxCounter
          (readWord s.rxMpdu.cell (keyIndex p (s.rxMpdu.cell p) + keyLength + micLengthBytes))
        have hk : (load s.rxMpdu.cell (keyIndex p (s.rxMpdu.cell p)) keyLength).length = 16 :=
          load_length _ _ _
        rw [← key, q3.gpdNode]
        by_cases h : DeliveredKeyVerifies b s.gpdNode.addr s3.nonceRx s.rxMpdu.cell
            (keyIndex p (s.rxMpdu.cell p))
        · rw [if_pos (verifies.mp h), emberGpdSecurityDecryptKey_of_verifies _ _ _ _ _ hk h]
          exact ⟨_, rest, rfl⟩
        · rw [if_neg (fun h' => h (verifies.mpr h')),
            emberGpdSecurityDecryptKey_of_not_verifies _ _ _ _ _ hk h]
          exact ⟨_, rest, rfl⟩
      · rw [if_neg enabled, if_neg enabled]
        exact ⟨s2, q2, rfl⟩
    · rw [if_neg encrypted, if_neg encrypted]
      have q3 := q2.touchRx (keyIndex p (s.rxMpdu.cell p)) keyLength (by
        simp only [keyLength]; omega)
      exact ⟨_, q3, rfl⟩
  · rw [if_neg present, if_neg present]
    exact ⟨s2, q2, rfl⟩

theorem replyReaction_congr (b : Build) (addr : EmberGpdAddr) (cell : Cells UInt8) (p : ℕ)
    {f g : Cells UInt8} (h : ∀ i, i < 8 ∨ 12 ≤ i → f i = g i) :
    replyReaction b addr f cell p = replyReaction b addr g cell p := by
  simp only [replyReaction, deliveredKeyVerifies_congr b addr cell _ h, deliveredKey_congr b cell _ h]

/-- The command handler on a command that starts at 24 or before and is not empty. -/
theorem emberGpdIncomingCommandHandler_eq (b : Build) (start length : ℕ) (s : Device)
    (hs : start ≤ 24) (hl : length ≠ 0) : ∃ s',
      Quiet 52 [commandEvent s.rxMpdu.cell start length] s s' ∧
      emberGpdIncomingCommandHandler b start length s =
        react (commandReaction b s.gpdNode.addr s.nonceRx s.rxMpdu.cell start) s' := by
  have q1 := ((Quiet.refl 52 s).record (commandEvent s.rxMpdu.cell start length)).touchRx start 1
    (by omega)
  obtain ⟨s1, hs1⟩ : ∃ s1, s1 = (s.record (commandEvent s.rxMpdu.cell start length)).touchRx
    start 1 := ⟨_, rfl⟩
  have dispatch : emberGpdIncomingCommandHandler b start length s =
      if s.rxMpdu.cell start = cmdChannelConfig then
        emberGpdAfPluginCommissioningChannelConfigCallback
          (configuredChannel (s.rxMpdu.cell (start + 1))) (s1.touchRx (start + 1) 1)
      else if s.rxMpdu.cell start = cmdCommissioningReply then
        emberGpdAfPluginCommissioningReplyCallback b (start + 1) s1
      else s1 := by
    rw [hs1]
    exact if_neg hl
  have hrx : s1.nonceRx = s.nonceRx ∧ s1.rxMpdu.cell = s.rxMpdu.cell := by
    rw [hs1]
    exact ⟨rfl, rfl⟩
  rw [← hs1] at q1
  rw [dispatch]
  unfold commandReaction
  by_cases config : s.rxMpdu.cell start = cmdChannelConfig
  · rw [if_pos config, if_pos config]
    exact ⟨_, q1.touchRx (start + 1) 1 (by omega), rfl⟩
  rw [if_neg config, if_neg config]
  by_cases reply : s.rxMpdu.cell start = cmdCommissioningReply
  · rw [if_pos reply, if_pos reply]
    obtain ⟨s2, q2, h2⟩ := replyCallback_eq b (start + 1) s1 (by omega)
    refine ⟨s2, q1.trans q2, ?_⟩
    rw [h2, q1.gpdNode, hrx.1, hrx.2]
  · rw [if_neg reply, if_neg reply]
    exact ⟨s1, q1, rfl⟩

theorem emberDecryptRxBuffer_quiet (b : Build) (authStart encrLength authLength : ℕ) (s : Device) :
    Quiet (authStart + (authLength + encrLength + tagSize))
      [decryptEvent b s.ccmKey s.nonceRx s.rxMpdu.cell authStart encrLength authLength] s
      (emberDecryptRxBuffer b authStart encrLength authLength s).2 := by
  have status : (if (b.ccm.authDecrypt 0 s.ccmKey (nonce s.nonceRx)
        (load s.rxMpdu.cell authStart authLength)
        (load s.rxMpdu.cell (authStart + authLength) encrLength)
        (load s.rxMpdu.cell (authStart + authLength + encrLength) tagSize)).1 = true
      then Status.success else .failed) =
      if RegionVerifies b s.ccmKey s.nonceRx s.rxMpdu.cell authStart encrLength authLength
      then .success else .failed :=
    if_congr (b.ccm.authDecrypt_status 0 _ _ _ _ _) rfl rfl
  simp only [emberDecryptRxBuffer, status]
  have touched := (Quiet.refl (authStart + (authLength + encrLength + tagSize)) s).touchRx
    authStart (authLength + encrLength + tagSize) le_rfl
  refine (touched.storeRx (authStart + authLength) _ ?_).record _
  simp only [AuthenticatedCipher.Aead.authDecrypt_length, load_length]
  omega

theorem dataFrameSecurity_cell (b : Build) (s : Device) :
    (dataFrameSecurity b s).rxMpdu.cell = securedBuffer b s.ccmKey s.nonceRx s.rxMpdu.cell := by
  unfold dataFrameSecurity securedBuffer
  by_cases h : appId s.rxMpdu.cell = appIdSrcId ∧ frameType s.rxMpdu.cell = nwkFcFrameTypeData
  · simp only [h, true_and, and_self, if_true]
    by_cases auth : securityLevel s.rxMpdu.cell = securityLevelLongAuthOnly
    · rw [if_pos auth, if_neg (by rw [auth]; decide)]
      have empty : (b.ccm.authDecrypt 0 s.ccmKey (nonce s.nonceRx)
          (load s.rxMpdu.cell (authStartSrcId - 1) (authLengthAuthOnly s.rxMpdu.cell)) []
          (load s.rxMpdu.cell (authStartSrcId - 1 + authLengthAuthOnly s.rxMpdu.cell) tagSize)).2 =
            [] := List.length_eq_zero_iff.mp (by simp)
      simp [emberDecryptRxBuffer, empty]
    · rw [if_neg auth]
      split_ifs <;> rfl
  · rw [if_neg h, if_neg (fun hc => h ⟨hc.1, hc.2.1⟩)]

def securityReach (cell : Cells UInt8) : ℕ :=
  if appId cell = appIdSrcId ∧ frameType cell = nwkFcFrameTypeData then
    if securityLevel cell = securityLevelLongAuthOnly then
      authStartSrcId - 1 + (authLengthAuthOnly cell + 0 + tagSize)
    else if securityLevel cell = securityLevelLongFull then
      authStartSrcId + (authFixedLenSrcId + encrLengthFull cell + tagSize)
    else 0
  else 0

theorem dataFrameSecurity_quiet (b : Build) (s : Device) :
    Quiet (securityReach s.rxMpdu.cell) (securityEvents b s.ccmKey s.nonceRx s.rxMpdu.cell) s
      (dataFrameSecurity b s) := by
  unfold dataFrameSecurity securityEvents securityReach
  simp only
  split_ifs
  · exact emberDecryptRxBuffer_quiet b _ _ _ s
  · exact emberDecryptRxBuffer_quiet b _ _ _ s
  · exact Quiet.refl 0 s
  · exact Quiet.refl 0 s

theorem commandReaction_congr (b : Build) (addr : EmberGpdAddr) (cell : Cells UInt8) (start : ℕ)
    {f g : Cells UInt8} (h : ∀ i, i < 8 ∨ 12 ≤ i → f i = g i) :
    commandReaction b addr f cell start = commandReaction b addr g cell start := by
  unfold commandReaction
  rw [replyReaction_congr b addr cell _ h]

def securityFieldsRead (s : Device) : Device :=
  if Secured (securityLevel s.rxMpdu.cell) then
    (s.touchRx (frameCounterFinger s.rxMpdu.cell) 4).touchRx
      (nwkPayloadLength s.rxMpdu.cell - tagSize) 4
  else s

theorem securityFieldsRead_eq (s : Device) :
    ∃ t, securityFieldsRead s = { s with rxMpdu := ⟨s.rxMpdu.cell, t⟩ } := by
  unfold securityFieldsRead
  split_ifs
  · exact ⟨_, rfl⟩
  · exact ⟨s.rxMpdu.touched, rfl⟩

def fieldsReach (cell : Cells UInt8) : ℕ :=
  if Secured (securityLevel cell) then max 24 (nwkPayloadLength cell - tagSize + 4) else 0

theorem securityFieldsRead_quiet (s : Device) :
    Quiet (fieldsReach s.rxMpdu.cell) [] s (securityFieldsRead s) := by
  have h1 := frameCounterFinger_le s.rxMpdu.cell
  unfold securityFieldsRead fieldsReach
  split_ifs
  · exact ((Quiet.refl _ s).touchRx _ 4 (by omega)).touchRx _ 4 (by omega)
  · exact Quiet.refl 0 s

theorem acceptedFrame_eq (b : Build) (s : Device) : acceptedFrame b s =
    if gpdfAppPayloadLength s.rxMpdu.cell ≠ 0 then
      emberGpdIncomingCommandHandler b (payloadFinger s.rxMpdu.cell)
        (gpdfAppPayloadLength s.rxMpdu.cell) (dataFrameSecurity b (securityFieldsRead s))
    else dataFrameSecurity b (securityFieldsRead s) := rfl

/-- The end of all ranges the handler touches: the commissioning reply reads up to 52. -/
def reach (cell : Cells UInt8) : ℕ := max 52 (max (fieldsReach cell) (securityReach cell))

theorem securedFrame_quiet (b : Build) (s : Device) :
    Quiet (securityReach s.rxMpdu.cell) (securityEvents b s.ccmKey s.nonceRx s.rxMpdu.cell)
      (securityFieldsRead s) (dataFrameSecurity b (securityFieldsRead s)) := by
  have q := dataFrameSecurity_quiet b (securityFieldsRead s)
  obtain ⟨t, ht⟩ := securityFieldsRead_eq s
  rwa [ht] at q ⊢

theorem securedFrame_cell (b : Build) (s : Device) :
    (dataFrameSecurity b (securityFieldsRead s)).rxMpdu.cell =
      securedBuffer b s.ccmKey s.nonceRx s.rxMpdu.cell := by
  rw [dataFrameSecurity_cell]
  obtain ⟨t, ht⟩ := securityFieldsRead_eq s
  rw [ht]

/-- An accepted frame after its frame counter and MIC were read. -/
theorem acceptedFrame_react (b : Build) (s : Device) : ∃ s',
    Quiet (max 52 (securityReach s.rxMpdu.cell)) (payloadEvents b s) (securityFieldsRead s) s' ∧
      acceptedFrame b s = react (payloadReaction b s) s' := by
  have q := (securedFrame_quiet b s).mono (le_max_right 52 (securityReach s.rxMpdu.cell))
  have cell := securedFrame_cell b s
  have node := q.gpdNode
  obtain ⟨u, hu⟩ := securityFieldsRead_eq s
  have gpd : (securityFieldsRead s).gpdNode = s.gpdNode := by rw [hu]
  have nonceRx : (securityFieldsRead s).nonceRx = s.nonceRx := by rw [hu]
  rw [acceptedFrame_eq]
  unfold payloadEvents payloadReaction
  generalize dataFrameSecurity b (securityFieldsRead s) = s2 at q cell node ⊢
  by_cases payload : gpdfAppPayloadLength s.rxMpdu.cell ≠ 0
  · rw [if_pos payload, if_pos payload, if_pos payload]
    obtain ⟨s3, q3, h3⟩ := emberGpdIncomingCommandHandler_eq b (payloadFinger s.rxMpdu.cell)
      (gpdfAppPayloadLength s.rxMpdu.cell) s2 (payloadFinger_le _) payload
    rw [cell] at q3 h3
    refine ⟨s3, q.trans (q3.mono (le_max_left _ _)), ?_⟩
    rw [h3, node, gpd, commandReaction_congr b _ _ _ (nonceRx ▸ q.nonceRx)]
  · rw [if_neg payload, if_neg payload, if_neg payload]
    exact ⟨s2, q, rfl⟩

/-- One frame: what it records, what it touches and how the device reacts to it. -/
theorem emberGpdIncomingMessageHandler_react (b : Build) (s : Device) : ∃ s',
    Quiet (reach s.rxMpdu.cell) (receptionEvents b s) s s' ∧
      emberGpdIncomingMessageHandler b s = react (frameReaction b s) s' := by
  obtain ⟨s1, read, h⟩ := emberGpdIncomingMessageHandler_eq b s
  have q1 : Quiet (reach s.rxMpdu.cell) [] s s1 :=
    (Quiet.of_headerRead read).mono ((by decide : 20 ≤ 52).trans (le_max_left _ _))
  obtain ⟨u, hu⟩ : ∃ u, s1 = { s with rxMpdu := ⟨s.rxMpdu.cell, u⟩ } := by
    obtain ⟨t, _, ht⟩ := read
    exact ⟨_, ht⟩
  rw [h]
  unfold frameReaction receptionEvents
  by_cases accepted : Accepted s.rxMpdu.cell s.gpdNode.addr
  · simp only [accepted, if_true]
    obtain ⟨s2, q2, h2⟩ := acceptedFrame_react b s1
    have fields := securityFieldsRead_quiet s1
    rw [hu] at q1 q2 h2 fields ⊢
    have q3 := (q1.trans (fields.mono (by unfold reach; simp only; omega))).trans
      (q2.mono (by unfold reach; simp only; omega))
    rw [List.append_nil, List.append_nil] at q3
    exact ⟨s2, q3, h2⟩
  · simp only [accepted, if_false]
    exact ⟨s1, q1, rfl⟩

theorem handler_touches_mic (b : Build) (s : Device)
    (accepted : Accepted s.rxMpdu.cell s.gpdNode.addr)
    (secured : Secured (securityLevel s.rxMpdu.cell)) :
    (nwkPayloadLength s.rxMpdu.cell - tagSize, 4) ∈
      (emberGpdIncomingMessageHandler b s).rxMpdu.touched := by
  obtain ⟨s1, ⟨t, _, rfl⟩, h⟩ := emberGpdIncomingMessageHandler_eq b s
  rw [h, if_pos accepted]
  obtain ⟨s2, q2, h2⟩ :=
    acceptedFrame_react b { s with rxMpdu := ⟨s.rxMpdu.cell, t ++ s.rxMpdu.touched⟩ }
  obtain ⟨u, _, hu⟩ := q2.touched
  rw [h2]
  change _ ∈ s2.rxMpdu.touched
  rw [hu]
  have fields : securityFieldsRead
      { s with rxMpdu := ⟨s.rxMpdu.cell, t ++ s.rxMpdu.touched⟩ } = _ := if_pos secured
  rw [fields]
  exact List.mem_append_right _ List.mem_cons_self

/-- One packet, one reaction. -/
theorem railCbGeneric_react (b : Build) (packet : List UInt8) (s : Device) : ∃ size s',
    Quiet size (receptionEvents b { s with rxMpdu := s.rxMpdu.store 0 packet }) s s' ∧
      railCbGeneric b packet s = react (packetReaction b packet s) s' := by
  obtain ⟨s', q, h⟩ :=
    emberGpdIncomingMessageHandler_react b { s with rxMpdu := s.rxMpdu.store 0 packet }
  have q0 : Quiet packet.length [] s { s with rxMpdu := s.rxMpdu.store 0 packet } := by
    exact (Quiet.refl _ s).storeRx 0 packet (by omega)
  have q1 := (q0.mono (le_max_left _ _)).trans (q.mono (le_max_right _ _))
  rw [List.append_nil] at q1
  exact ⟨_, s', q1, h⟩

theorem replyReaction_inRange (b : Build) (addr : EmberGpdAddr) (nonceRx cell : Cells UInt8)
    (p : ℕ) : (replyReaction b addr nonceRx cell p).InRange := by
  have level := replySecurityLevel_le (cell p)
  have type := replySecurityKeyType_le (cell p)
  unfold replyReaction
  simp only
  split_ifs <;> first | exact ⟨level, type⟩ | trivial

theorem frameReaction_inRange (b : Build) (s : Device) : (frameReaction b s).InRange := by
  unfold frameReaction payloadReaction commandReaction
  split_ifs
  · exact configuredChannel_range _
  · exact replyReaction_inRange _ _ _ _ _
  · trivial
  · trivial
  · trivial

end GreenPower.ReceiveOutcome
