import GreenPower.AttemptIndependence
import GreenPower.FieldRanges
import GreenPower.FrameAuthentication
import GreenPower.KeyAgreement

set_option autoImplicit false

/-!
`emberGpdProcessCommissioningReply` as a decoder. What a sink encodes is decoded; an encrypted
key that does not verify is refused, but not without traces.
-/
namespace GreenPower.CommissioningReply
open MemoryArray ByteWord AuthenticatedCipher BuildOptions DeviceState Security IncomingCommand
  ReceiveOutcome NonVolatile Commissioning GpdTask AesCipher AttemptLockstep AttemptIndependence FieldRanges
  FrameAuthentication KeyAgreement

/-- The reply at `p` delivers its key encrypted, to a build that can decrypt it. -/
def DeliversEncrypted (b : Build) (cell : Cells UInt8) (p : ℕ) : Prop :=
  keyPresent (cell p) = true ∧ keyEncrypted (cell p) = true ∧ b.keyEncrypt = true

def counterIndex (cell : Cells UInt8) (p : ℕ) : ℕ :=
  keyIndex p (cell p) + keyLength + micLengthBytes

def replyNonceRx (nonceRx cell : Cells UInt8) (p : ℕ) : Cells UInt8 :=
  store nonceRx 8 (copy4Bytes (readWord cell (counterIndex cell p)))

section
variable (b : Build) (p : ℕ) (s : Device)

def installed (options : UInt8) (securityKey : Key) (gpd : EmberGpd) : EmberGpd :=
  { gpd with
    securityKey := securityKey
    securityLevel := replySecurityLevel options
    securityKeyType := replySecurityKeyType options }

theorem touchIf_eq (c : Prop) [Decidable c] (off n : ℕ) : ∃ t,
    (if c then s.touchRx off n else s) = { s with rxMpdu := ⟨s.rxMpdu.cell, t⟩ } := by
  split_ifs
  · exact ⟨_, rfl⟩
  · exact ⟨s.rxMpdu.touched, rfl⟩

theorem reply_without_key (absent : ¬ keyPresent (s.rxMpdu.cell p) = true) : ∃ t,
    emberGpdProcessCommissioningReply b p s = (.success, { s with
      rxMpdu := ⟨s.rxMpdu.cell, t⟩
      gpdNode := installed (s.rxMpdu.cell p) s.gpdNode.securityKey s.gpdNode
      ccmKey := s.gpdNode.securityKey
      log := .replyAccepted none :: s.log }) := by
  obtain ⟨t, read⟩ := touchIf_eq (s.touchRx p 1) (panIdPresent (s.rxMpdu.cell p) = true) (p + 1) 1
  refine ⟨t, ?_⟩
  simp only [emberGpdProcessCommissioningReply]
  rw [read, if_neg absent]
  rfl

theorem reply_with_plain_key (present : keyPresent (s.rxMpdu.cell p) = true)
    (plain : ¬ keyEncrypted (s.rxMpdu.cell p) = true) : ∃ t,
    let key := keyOfBytes (load s.rxMpdu.cell (keyIndex p (s.rxMpdu.cell p)) keyLength)
    emberGpdProcessCommissioningReply b p s = (.success, { s with
      rxMpdu := ⟨s.rxMpdu.cell, t⟩
      gpdNode := installed (s.rxMpdu.cell p) key s.gpdNode
      ccmKey := key
      log := .replyAccepted (some key) :: s.log }) := by
  obtain ⟨t, read⟩ := touchIf_eq (s.touchRx p 1) (panIdPresent (s.rxMpdu.cell p) = true) (p + 1) 1
  refine ⟨(keyIndex p (s.rxMpdu.cell p), keyLength) :: t, ?_⟩
  simp only [emberGpdProcessCommissioningReply]
  rw [read, if_pos present, if_neg plain]
  rfl

/-- Up to the call of the decryptor. -/
theorem reply_decrypts (delivers : DeliversEncrypted b s.rxMpdu.cell p) : ∃ t,
    emberGpdProcessCommissioningReply b p s =
      let index := keyIndex p (s.rxMpdu.cell p)
      let (status, decryptedKey, s') := emberGpdSecurityDecryptKey b s.gpdNode.addr
        (load s.rxMpdu.cell index keyLength)
        (load s.rxMpdu.cell (index + keyLength) micLengthBytes)
        (readWord s.rxMpdu.cell (counterIndex s.rxMpdu.cell p))
        { s with rxMpdu := ⟨s.rxMpdu.cell, t⟩ }
      let s' := { s' with gpdNode.securityKey := decryptedKey }
      if status = .success then
        finishReply (some decryptedKey) (replySecurityLevel (s.rxMpdu.cell p))
          (replySecurityKeyType (s.rxMpdu.cell p)) s'
      else (.failed, s'.record .replyRejected) := by
  obtain ⟨present, encrypted, enabled⟩ := delivers
  obtain ⟨t, read⟩ := touchIf_eq (s.touchRx p 1) (panIdPresent (s.rxMpdu.cell p) = true) (p + 1) 1
  refine ⟨(keyIndex p (s.rxMpdu.cell p), keyLength + micLengthBytes + 4) :: t, ?_⟩
  simp only [emberGpdProcessCommissioningReply]
  rw [read, if_pos present, if_pos encrypted, if_pos enabled]
  rfl

theorem reply_with_verified_key (delivers : DeliversEncrypted b s.rxMpdu.cell p)
    (verifies : DeliveredKeyVerifies b s.gpdNode.addr s.nonceRx s.rxMpdu.cell
      (keyIndex p (s.rxMpdu.cell p))) : ∃ t,
    let key := deliveredKey b s.nonceRx s.rxMpdu.cell (keyIndex p (s.rxMpdu.cell p))
    emberGpdProcessCommissioningReply b p s = (.success, { s with
      rxMpdu := ⟨s.rxMpdu.cell, t⟩
      nonceRx := replyNonceRx s.nonceRx s.rxMpdu.cell p
      gpdNode := installed (s.rxMpdu.cell p) key s.gpdNode
      ccmKey := key
      log := .replyAccepted (some key) :: s.log }) := by
  obtain ⟨t, decrypts⟩ := reply_decrypts b p s delivers
  refine ⟨t, ?_⟩
  have length : (load s.rxMpdu.cell (keyIndex p (s.rxMpdu.cell p)) keyLength).length = 16 :=
    load_length _ _ _
  have decrypted := emberGpdSecurityDecryptKey_of_verifies b s.gpdNode.addr _ _
    { s with rxMpdu := ⟨s.rxMpdu.cell, t⟩ } length verifies
  rw [decrypts]
  simp only
  rw [counterIndex, decrypted]
  rfl

theorem reply_with_forged_key (delivers : DeliversEncrypted b s.rxMpdu.cell p)
    (fails : ¬ DeliveredKeyVerifies b s.gpdNode.addr s.nonceRx s.rxMpdu.cell
      (keyIndex p (s.rxMpdu.cell p))) : ∃ t,
    emberGpdProcessCommissioningReply b p s = (.failed, { s with
      rxMpdu := ⟨s.rxMpdu.cell, t⟩
      nonceRx := replyNonceRx s.nonceRx s.rxMpdu.cell p
      gpdNode.securityKey := zeroKey
      ccmKey := keyDefaultTCLink
      log := .replyRejected :: s.log }) := by
  obtain ⟨t, decrypts⟩ := reply_decrypts b p s delivers
  refine ⟨t, ?_⟩
  have length : (load s.rxMpdu.cell (keyIndex p (s.rxMpdu.cell p)) keyLength).length = 16 :=
    load_length _ _ _
  have refused := emberGpdSecurityDecryptKey_of_not_verifies b s.gpdNode.addr _ _
    { s with rxMpdu := ⟨s.rxMpdu.cell, t⟩ } length fails
  rw [decrypts]
  simp only
  rw [counterIndex, refused]
  rfl

/-- Of the node, the context and the receive nonce nothing is changed. -/
def Untouched (s s' : Device) : Prop :=
  s'.gpdNode = s.gpdNode ∧ s'.ccmKey = s.ccmKey ∧ s'.nonceRx = s.nonceRx

def AlreadyErased : Prop :=
  s.gpdNode.securityKey = zeroKey ∧ s.ccmKey = keyDefaultTCLink ∧
    load s.nonceRx 8 4 = load s.rxMpdu.cell (counterIndex s.rxMpdu.cell p) 4

theorem load_readWord (cell : Cells UInt8) (off : ℕ) :
    copy4Bytes (readWord cell off) = load cell off 4 :=
  copy4Bytes_word32 _ (load_length _ _ _)

theorem store_self_iff (f : Cells UInt8) (off : ℕ) (xs : List UInt8) :
    store f off xs = f ↔ load f off xs.length = xs := by
  constructor
  · intro same
    have written := load_store_same f off xs
    rwa [same] at written
  · intro same
    funext i
    by_cases out : i < off ∨ off + xs.length ≤ i
    · exact store_outside f off xs i out
    · have inside : i - off < xs.length := by omega
      rw [store_at f off xs i (i - off) inside (by omega)]
      have entry := load_get f off xs.length (i - off) (by rwa [load_length])
      simp only [same] at entry
      rw [entry]
      exact congrArg f (by omega)

theorem untouched_of_forged_iff (delivers : DeliversEncrypted b s.rxMpdu.cell p)
    (fails : ¬ DeliveredKeyVerifies b s.gpdNode.addr s.nonceRx s.rxMpdu.cell
      (keyIndex p (s.rxMpdu.cell p))) :
    Untouched s (emberGpdProcessCommissioningReply b p s).2 ↔ AlreadyErased p s := by
  obtain ⟨t, refused⟩ := reply_with_forged_key b p s delivers fails
  have counter : replyNonceRx s.nonceRx s.rxMpdu.cell p = s.nonceRx ↔
      load s.nonceRx 8 4 = load s.rxMpdu.cell (counterIndex s.rxMpdu.cell p) 4 := by
    unfold replyNonceRx
    rw [store_self_iff, load_readWord, load_length]
  rw [refused]
  constructor
  · intro ⟨node, context, nonce⟩
    exact ⟨(congrArg EmberGpd.securityKey node).symm, context.symm, counter.mp nonce⟩
  · intro ⟨erased, context, nonce⟩
    refine ⟨?_, context.symm, counter.mpr nonce⟩
    change { s.gpdNode with securityKey := zeroKey } = s.gpdNode
    rw [← erased]

def RefusesAtomically : Prop :=
  (emberGpdProcessCommissioningReply b p s).1 = .failed →
    Untouched s (emberGpdProcessCommissioningReply b p s).2

theorem refusesAtomically_iff (delivers : DeliversEncrypted b s.rxMpdu.cell p) :
    RefusesAtomically b p s ↔
      DeliveredKeyVerifies b s.gpdNode.addr s.nonceRx s.rxMpdu.cell
        (keyIndex p (s.rxMpdu.cell p)) ∨ AlreadyErased p s := by
  by_cases verifies : DeliveredKeyVerifies b s.gpdNode.addr s.nonceRx s.rxMpdu.cell
      (keyIndex p (s.rxMpdu.cell p))
  · obtain ⟨t, accepted⟩ := reply_with_verified_key b p s delivers verifies
    refine iff_of_true (fun failed => ?_) (Or.inl verifies)
    rw [accepted] at failed
    exact absurd failed (by decide : ¬ Status.success = Status.failed)
  · obtain ⟨t, refused⟩ := reply_with_forged_key b p s delivers verifies
    have status : (emberGpdProcessCommissioningReply b p s).1 = .failed := congrArg Prod.fst refused
    rw [← untouched_of_forged_iff b p s delivers verifies]
    exact ⟨fun atomic => Or.inr (atomic status), fun or _ => or.resolve_left verifies⟩

theorem reply_not_decrypted (undelivered : ¬ DeliversEncrypted b s.rxMpdu.cell p) :
    (emberGpdProcessCommissioningReply b p s).1 = .success := by
  obtain ⟨t, read⟩ := touchIf_eq (s.touchRx p 1) (panIdPresent (s.rxMpdu.cell p) = true) (p + 1) 1
  by_cases present : keyPresent (s.rxMpdu.cell p) = true
  · by_cases encrypted : keyEncrypted (s.rxMpdu.cell p) = true
    · have disabled : ¬ b.keyEncrypt = true := fun enabled =>
        undelivered ⟨present, encrypted, enabled⟩
      simp only [emberGpdProcessCommissioningReply]
      rw [if_pos present, if_pos encrypted, if_neg disabled]
      rfl
    · obtain ⟨t, accepted⟩ := reply_with_plain_key b p s present encrypted
      exact congrArg Prod.fst accepted
  · obtain ⟨t, accepted⟩ := reply_without_key b p s present
    exact congrArg Prod.fst accepted

theorem failed_reply_atomic_iff : RefusesAtomically b p s ↔
    (DeliversEncrypted b s.rxMpdu.cell p →
      DeliveredKeyVerifies b s.gpdNode.addr s.nonceRx s.rxMpdu.cell (keyIndex p (s.rxMpdu.cell p)) ∨
        AlreadyErased p s) := by
  by_cases delivers : DeliversEncrypted b s.rxMpdu.cell p
  · rw [refusesAtomically_iff b p s delivers]
    exact ⟨fun kept _ => kept, fun kept => kept delivers⟩
  · have accepted := reply_not_decrypted b p s delivers
    refine iff_of_true (fun failed => ?_) (fun delivers' => absurd delivers' delivers)
    rw [accepted] at failed
    exact absurd failed (by decide : ¬ Status.success = Status.failed)

end

/-- The payload of the reply stands at 10; its key is sixteen zeros, as is its MIC in part. -/
theorem forgedReply_leaves_traces : ∃ s p,
    DeliversEncrypted (shipped (aesCcm tagSize)) s.rxMpdu.cell p ∧
      ¬ RefusesAtomically (shipped (aesCcm tagSize)) p s := by
  have delivers : DeliversEncrypted (shipped (aesCcm tagSize))
      (receiving rejectedReplyFrame).rxMpdu.cell 10 := by
    unfold DeliversEncrypted
    decide +kernel
  refine ⟨receiving rejectedReplyFrame, 10, delivers, fun atomic => ?_⟩
  rcases (refusesAtomically_iff _ _ _ delivers).mp atomic with verifies | erased
  · exact absurd verifies (by decide +kernel)
  · exact absurd erased.1 (by decide +kernel)

/-- The key is present if it is given. Whether it is to be encrypted is a bit of its own. -/
structure Reply where
  panId : Option UInt16
  key : Option Key
  encrypted : Bool
  securityLevel : Fin 4
  securityKeyType : Fin 8
  counter : UInt32

def optionsOctet (panId key encrypted : Bool) (securityLevel : Fin 4) (securityKeyType : Fin 8) :
    UInt8 :=
  .ofNat (panId.toNat + 2 * key.toNat + 4 * encrypted.toNat + 8 * securityLevel + 32 * securityKeyType)

theorem optionsOctet_reads : ∀ panId key encrypted securityLevel securityKeyType,
    let options := optionsOctet panId key encrypted securityLevel securityKeyType
    panIdPresent options = panId ∧ keyPresent options = key ∧ keyEncrypted options = encrypted ∧
      replySecurityLevel options = .ofNat securityLevel ∧
      replySecurityKeyType options = .ofNat securityKeyType := by
  decide +kernel

def deliveryNonce (srcId counter : UInt32) : List UInt8 :=
  bytes32 0 ++ bytes32 srcId ++ bytes32 counter ++ [0x05]

namespace Reply

def options (r : Reply) : UInt8 :=
  optionsOctet r.panId.isSome r.key.isSome r.encrypted r.securityLevel r.securityKeyType

def panIdOctets (r : Reply) : List UInt8 :=
  r.panId.elim [] (fun panId => toBytes 2 panId.toNat)

def encryptedKey (ccm : Ccm) (srcId : UInt32) (key : Key) (counter : UInt32) : List UInt8 :=
  let nonce := deliveryNonce srcId counter
  ccm.encipher keyDefaultTCLink nonce key.toList ++
    (ccm.tag keyDefaultTCLink nonce (bytes32 srcId) key.toList ++ bytes32 counter)

def keyOctets (ccm : Ccm) (srcId : UInt32) (r : Reply) : List UInt8 :=
  r.key.elim [] (fun key =>
    if r.encrypted then encryptedKey ccm srcId key r.counter else key.toList)

def octets (ccm : Ccm) (srcId : UInt32) (r : Reply) : List UInt8 :=
  [r.options] ++ (r.panIdOctets ++ r.keyOctets ccm srcId)

end Reply

theorem configured_of_running {b : Build} {d s : Device} (run : Running b d s) : Configured b s := by
  induction run with
  | fresh => exact powerUp_configured b _
  | written => exact powerUp_configured b _
  | reboot => exact powerUp_configured b _
  | load run ih =>
    obtain ⟨⟨addr, offset, window⟩, ⟨tx, rx⟩, count, substate, -⟩ := loadSecData_keeps _
    refine ih.same ?_ count substate
    unfold wiring settings common
    simp only [addr, offset, window, tx, rx]
  | step run step ih => exact ih.step step
  | next run ih => exact ih

theorem deliveryNonce_of_configured {b : Build} {s : Device} (h : Configured b s) (counter : UInt32) :
    nonce (store s.nonceRx 8 (copy4Bytes counter)) =
      CommissioningReply.deliveryNonce b.srcId counter := by
  have wired := congrArg (fun w => w.2.2.2.2) h.wired
  rw [nonce_store_congr (counterCleared_eq_iff.mp wired), CommissioningReply.deliveryNonce,
    ← copy4Bytes_eq, ← copy4Bytes_eq, ← copy4Bytes_eq]
  rfl

theorem load_append_iff (cell : Cells UInt8) (p : ℕ) (xs ys : List UInt8) :
    load cell p (xs ++ ys).length = xs ++ ys ↔
      load cell p xs.length = xs ∧ load cell (p + xs.length) ys.length = ys := by
  rw [List.length_append, load_add]
  constructor
  · intro same
    exact List.append_inj same (load_length _ _ _)
  · rintro ⟨first, second⟩
    rw [first, second]

section
variable {ccm : Ccm} {srcId : UInt32} {cell : Cells UInt8} {p : ℕ} {r : Reply}

theorem panIdOctets_length (r : Reply) :
    r.panIdOctets.length = if r.panId.isSome then 2 else 0 := by
  unfold Reply.panIdOctets
  cases r.panId with
  | none => rfl
  | some panId => rfl

theorem reply_fields (sent : load cell p (r.octets ccm srcId).length = r.octets ccm srcId) :
    cell p = r.options ∧
      load cell (keyIndex p r.options) (r.keyOctets ccm srcId).length = r.keyOctets ccm srcId := by
  obtain ⟨options, rest⟩ := (load_append_iff cell p _ _).mp sent
  obtain ⟨-, key⟩ := (load_append_iff cell _ _ _).mp rest
  have panId : panIdPresent r.options = r.panId.isSome := (optionsOctet_reads _ _ _ _ _).1
  have start : keyIndex p r.options = p + [r.options].length + r.panIdOctets.length := by
    rw [panIdOctets_length, keyIndex, panId]
    rfl
  refine ⟨?_, ?_⟩
  · exact List.head_eq_of_cons_eq options
  · rw [start]
    exact key

theorem encryptedKey_fields (ccm : Ccm) (srcId : UInt32) (key : Key) (counter : UInt32) {i : ℕ}
    (sent : load cell i (Reply.encryptedKey ccm srcId key counter).length =
      Reply.encryptedKey ccm srcId key counter) :
    let nonce := deliveryNonce srcId counter
    load cell i keyLength = ccm.encipher keyDefaultTCLink nonce key.toList ∧
      load cell (i + keyLength) micLengthBytes =
        ccm.tag keyDefaultTCLink nonce (bytes32 srcId) key.toList ∧
      readWord cell (i + keyLength + micLengthBytes) = counter := by
  obtain ⟨cipher, rest⟩ := (load_append_iff cell i _ _).mp sent
  obtain ⟨mic, word⟩ := (load_append_iff cell _ _ _).mp rest
  simp only [Aead.encipher_length, Aead.tag_length, Vector.length_toList, bytes32_length]
    at cipher mic word
  refine ⟨cipher, mic, ?_⟩
  unfold readWord
  exact (congrArg word32 word).trans (word32_bytes32 counter)

end

/-- An encrypted key that was made for this device verifies and is recovered. -/
theorem encryptedKey_verifies {b : Build} {s : Device} {cell : Cells UInt8} {i : ℕ} {key : Key}
    {counter : UInt32} (configured : Configured b s)
    (sent : load cell i (Reply.encryptedKey b.ccm b.srcId key counter).length =
      Reply.encryptedKey b.ccm b.srcId key counter) :
    DeliveredKeyVerifies b s.gpdNode.addr s.nonceRx cell i ∧
      deliveredKey b s.nonceRx cell i = key := by
  obtain ⟨cipher, mic, word⟩ := encryptedKey_fields b.ccm b.srcId key counter sent
  have srcId : s.gpdNode.addr.srcId = b.srcId := congrArg EmberGpdAddr.srcId configured.addr
  unfold DeliveredKeyVerifies deliveredKey
  rw [word, cipher, mic, deliveryNonce_of_configured configured, srcId, copy4Bytes_eq]
  refine ⟨b.ccm.verifies_encipher _ _ _ _, ?_⟩
  rw [b.ccm.decipher_encipher, keyOfBytes_toList]

theorem reply_decodes {b : Build} (enabled : b.keyEncrypt = true) {s : Device}
    (configured : Configured b s) (r : Reply) (p : ℕ)
    (sent : load s.rxMpdu.cell p (r.octets b.ccm b.srcId).length = r.octets b.ccm b.srcId) :
    ∃ s', emberGpdProcessCommissioningReply b p s = (.success, s') ∧
      s'.gpdNode = { s.gpdNode with
        securityLevel := .ofNat r.securityLevel
        securityKeyType := .ofNat r.securityKeyType
        securityKey := r.key.getD s.gpdNode.securityKey } ∧
      s'.ccmKey = s'.gpdNode.securityKey := by
  obtain ⟨-, present, encrypted, level, type⟩ := optionsOctet_reads r.panId.isSome r.key.isSome
    r.encrypted r.securityLevel r.securityKeyType
  obtain ⟨options, octets⟩ := reply_fields sent
  have fields (key : Key) : installed (s.rxMpdu.cell p) key s.gpdNode = { s.gpdNode with
      securityLevel := .ofNat r.securityLevel
      securityKeyType := .ofNat r.securityKeyType
      securityKey := key } := by
    rw [options]
    unfold installed Reply.options
    rw [level, type]
  rw [← options] at octets
  change keyPresent r.options = _ at present
  change keyEncrypted r.options = _ at encrypted
  rw [← options] at present encrypted
  cases given : r.key with
  | none =>
    have absent : ¬ keyPresent (s.rxMpdu.cell p) = true := by
      rw [present, given]
      decide
    obtain ⟨t, decoded⟩ := reply_without_key b p s absent
    exact ⟨_, decoded, fields _, rfl⟩
  | some key =>
    rw [given] at present
    have placed : r.keyOctets b.ccm b.srcId = if r.encrypted then
        Reply.encryptedKey b.ccm b.srcId key r.counter else key.toList := by
      unfold Reply.keyOctets
      rw [given]
      rfl
    rw [placed] at octets
    by_cases secret : r.encrypted = true
    · rw [if_pos secret] at octets
      obtain ⟨verifies, recovered⟩ := encryptedKey_verifies configured octets
      obtain ⟨t, decoded⟩ := reply_with_verified_key b p s
        ⟨present, encrypted.trans secret, enabled⟩ verifies
      rw [recovered] at decoded
      exact ⟨_, decoded, fields _, rfl⟩
    · rw [if_neg secret, Vector.length_toList] at octets
      obtain ⟨t, decoded⟩ := reply_with_plain_key b p s present (by rwa [encrypted])
      simp only [keyLength, octets, keyOfBytes_toList] at decoded
      exact ⟨_, decoded, fields _, rfl⟩

/-- The buffer of the receiver holds a sink's reply at `p`; the rest of it is arbitrary. -/
theorem wellFormed_reply_decoded (ccm : Ccm) {d s : Device} (run : Running (shipped ccm) d s)
    (r : Reply) (rxMpdu : Mem UInt8) (p : ℕ)
    (sent : load rxMpdu.cell p (r.octets ccm (shipped ccm).srcId).length =
      r.octets ccm (shipped ccm).srcId) :
    ∃ s', emberGpdProcessCommissioningReply (shipped ccm) p { s with rxMpdu := rxMpdu } =
        (.success, s') ∧
      s'.gpdNode = { s.gpdNode with
        securityLevel := .ofNat r.securityLevel
        securityKeyType := .ofNat r.securityKeyType
        securityKey := r.key.getD s.gpdNode.securityKey } ∧
      s'.ccmKey = s'.gpdNode.securityKey := by
  have configured : Configured (shipped ccm) { s with rxMpdu := rxMpdu } :=
    (configured_of_running run).same rfl rfl rfl
  exact reply_decodes rfl configured r p sent

def networkKeyReply : Reply where
  panId := some 0x1a62
  key := some (Vector.ofFn (fun i => 0xc0 + UInt8.ofNat i))
  encrypted := true
  securityLevel := 2
  securityKeyType := 1
  counter := 4

theorem networkKeyReply_decoded : ∃ s', emberGpdProcessCommissioningReply
    (shipped (aesCcm tagSize)) 10 { powerUp (shipped (aesCcm tagSize)) [] with
      rxMpdu := .untouched (store (fun _ => 0xff) 10 (networkKeyReply.octets (aesCcm tagSize) 305419896)) } =
      (.success, s') ∧
    s'.gpdNode.securityKey = Vector.ofFn (fun i => 0xc0 + UInt8.ofNat i) ∧
    s'.gpdNode.securityLevel = 2 ∧ s'.gpdNode.securityKeyType = 1 := by
  obtain ⟨s', decoded, node, -⟩ := wellFormed_reply_decoded (aesCcm tagSize) .fresh networkKeyReply
    (.untouched (store (fun _ => 0xff) 10 (networkKeyReply.octets (aesCcm tagSize) 305419896))) 10
    (load_store_same _ _ _)
  refine ⟨s', decoded, ?_⟩
  rw [node]
  exact ⟨rfl, rfl, rfl⟩

end GreenPower.CommissioningReply
