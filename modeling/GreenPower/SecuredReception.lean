import GreenPower.FrameReadBack
import GreenPower.ReceptionRecord
import GreenPower.GpdTask

set_option autoImplicit false

/-!
Transmit and receive security compared. A frame is laid out by `emberGpdBuildMpdu`, turned
towards the device and secured by `emberGpdSecureOutgoingMPdu`; the receive handler computes
the regions of the same frame by formulas of its own.
-/
namespace GreenPower.SecuredReception
open MemoryArray ByteWord BuildOptions DeviceState Security FrameBuild FrameLayout FrameReadBack
  IncomingMessage FrameAcceptance ReceiveOutcome ReceptionRecord

/-- What one CCM run covers. The encrypted octets follow the authenticated ones. -/
structure Regions where
  authStart : ℕ
  authLength : ℕ
  encrLength : ℕ
  mic : ℕ

def txRegions (securityLevel : UInt8) (payloadLength : ℕ) : Regions :=
  if securityLevel = securityLevelLongAuthOnly then
    ⟨authStartSrcId, authFixedLenSrcId + payloadLength, 0, 18 + payloadLength⟩
  else ⟨authStartSrcId, authFixedLenSrcId, payloadLength, 18 + payloadLength⟩

def rxRegions (authStart encrLength authLength : ℕ) : Regions :=
  ⟨authStart, authLength, encrLength, authStart + authLength + encrLength⟩

def Regions.secure (r : Regions) (ccm : Ccm) (key : Key) (nonce : List UInt8)
    (cell : Cells UInt8) : Cells UInt8 :=
  let auth := load cell r.authStart r.authLength
  let input := load cell (r.authStart + r.authLength) r.encrLength
  store (store cell r.mic (ccm.tag key nonce auth input)) (r.authStart + r.authLength)
    (ccm.encipher key nonce input)

theorem emberGpdSecureOutgoingMPdu_regions (ccm : Ccm) (key : Key) (nonce : List UInt8)
    (data : Pdu) {n : ℕ} (hn : n ≤ 59) {level : UInt8} (secured : Secured level) :
    (emberGpdSecureOutgoingMPdu ccm key nonce data (18 + n) n level).2.mpdu.cell =
      (txRegions level n).secure ccm key nonce data.mpdu.cell := by
  have full : securityLevelLongFull ≠ securityLevelLongAuthOnly := by decide
  rcases secured with rfl | rfl
  · have authLength : uint8 ((authFixedLenSrcId : ℕ) + n) = authFixedLenSrcId + n := by
      rw [← Nat.cast_add, uint8_natCast_of_lt]
      simp only [authFixedLenSrcId]
      omega
    have empty : ccm.encipher key nonce [] = [] :=
      List.eq_nil_of_length_eq_zero (ccm.encipher_length key nonce [])
    unfold emberGpdSecureOutgoingMPdu txRegions
    rw [if_neg (by decide), if_pos rfl, if_pos rfl, authLength]
    simp only [emberTagTxBuff, Regions.secure, load_zero, empty, store_nil]
    rfl
  · have cipher (xs : List UInt8) (f : Cells UInt8) : load (store f 0 (ccm.encipher key nonce xs)) 0
        xs.length = ccm.encipher key nonce xs := by
      have h := load_store_same f 0 (ccm.encipher key nonce xs)
      rwa [ccm.encipher_length] at h
    unfold emberGpdSecureOutgoingMPdu txRegions
    rw [if_neg (by decide), if_neg full, if_pos rfl, if_neg full]
    have input := cipher (load data.mpdu.cell (authStartSrcId + authFixedLenSrcId) n)
      data.tempDataOut.cell
    rw [load_length] at input
    simp only [emberEncryptAndTagTxBuff, Regions.secure, Mem.store_cell, input]
    rfl

def towardsDevice (mpdu : Mem UInt8) : Mem UInt8 :=
  mpdu.store (macHeaderSize + 1) [mpdu.cell (macHeaderSize + 1) ||| extNwkFcDirectionMask]

def securedToDevice (ccm : Ccm) (key : Key) (nonce payload : List UInt8) (gpd : EmberGpd) :
    List UInt8 :=
  let (mpduLength, mpdu) := emberGpdBuildMpdu (.untouched (fun _ => 0)) payload gpd
  let (length, data) := emberGpdSecureOutgoingMPdu ccm key nonce
    ⟨towardsDevice mpdu, .untouched (fun _ => 0)⟩ mpduLength payload.length gpd.securityLevel
  load data.mpdu.cell 0 length

/-- From `s` to `s'` the handler ran CCM over exactly these regions, the MIC was right, and it
handed over exactly this payload. -/
structure Agrees (s s' : Device) (regions : Regions) (payload : List UInt8) : Prop where
  decrypts : ∃ authStart encrLength authLength,
    Reports s s' (.decrypt authStart encrLength authLength .success)
  covers : ∀ authStart encrLength authLength status,
    Reports s s' (.decrypt authStart encrLength authLength status) →
      rxRegions authStart encrLength authLength = regions ∧ status = .success
  delivers : ∃ start, Reports s s' (.incomingCommand start payload.length payload)
  intact : ∀ start length command, Reports s s' (.incomingCommand start length command) →
    length = payload.length ∧ command = payload

def frontOf (gpd : EmberGpd) (payload : List UInt8) : List UInt8 :=
  UInt8.ofNat (payload.length + 23) :: macHeader (sequenceNumber gpd)

def authOf (gpd : EmberGpd) (payload : List UInt8) : List UInt8 :=
  dataNwkFc gpd :: (sentExtNwkFc gpd payload ||| extNwkFcDirectionMask) ::
    (copy4Bytes gpd.addr.srcId ++ copy4Bytes gpd.securityFrameCounter)

theorem towardsDevice_wrote {payload : List UInt8} {gpd : EmberGpd}
    (secured : Secured gpd.securityLevel) (hp : payload.length ≤ 59) :
    let built := emberGpdBuildMpdu (.untouched (fun _ => 0)) payload gpd
    built.1 = 18 + payload.length ∧
      Wrote (.untouched (fun _ => 0)) (towardsDevice built.2)
        (frontOf gpd payload ++ authOf gpd payload ++ payload) := by
  intro built
  obtain ⟨length, wrote⟩ := emberGpdBuildMpdu_wrote (.untouched (fun _ => 0)) payload gpd hp
  have header := secured_header_length payload secured
  have len : (sentHeader gpd payload).length + payload.length +
      (if Secured gpd.securityLevel then 4 else 0) + 2 = payload.length + 23 := by
    rw [header, if_pos secured]
    omega
  have plain : sentHeader gpd payload = macHeader (sequenceNumber gpd) ++
      (dataNwkFc gpd :: sentExtNwkFc gpd payload ::
        (copy4Bytes gpd.addr.srcId ++ copy4Bytes gpd.securityFrameCounter)) := by
    unfold sentHeader dataFields
    rw [if_pos (extFcPresent_of_secured secured), if_pos secured]
    rfl
  rw [len] at wrote
  refine ⟨by rw [length, header], ?_⟩
  have long : 9 < (UInt8.ofNat (payload.length + 23) :: (sentHeader gpd payload ++ payload)).length := by
    rw [List.length_cons, List.length_append, header]
    omega
  have octet : built.2.cell (macHeaderSize + 1) = sentExtNwkFc gpd payload := by
    rw [wrote.cell, plain]
    rfl
  have patched : (UInt8.ofNat (payload.length + 23) :: (sentHeader gpd payload ++ payload)).set 9
      (sentExtNwkFc gpd payload ||| extNwkFcDirectionMask) =
      frontOf gpd payload ++ authOf gpd payload ++ payload := by
    rw [plain]
    rfl
  refine ⟨?_, fun inside => ?_⟩
  · rw [towardsDevice, octet, Mem.store_cell, wrote.cell, ← patched]
    exact store_set _ 0 _ 9 _ long
  · rw [towardsDevice, Mem.store_within]
    exact ⟨(by decide : 9 + 1 ≤ 128), wrote.within inside⟩

/-- The regions of a frame laid out in order: the ciphertext takes the place of the payload and the
MIC goes behind it. -/
theorem secure_store (ccm : Ccm) (key : Key) (nonce : List UInt8) {level : UInt8}
    (secured : Secured level) (f : Cells UInt8) {front auth payload : List UInt8}
    (hf : front.length = 8) (ha : auth.length = 10) :
    (txRegions level payload.length).secure ccm key nonce (store f 0 (front ++ auth ++ payload)) =
      store f 0 (front ++ auth ++ securedPayload ccm key nonce level payload ++
        securedMic ccm key nonce level auth payload) := by
  have full : securityLevelLongAuthOnly ≠ securityLevelLongFull := by decide
  have header : (front ++ auth).length = 18 := by rw [List.length_append, hf, ha]
  have total : (front ++ auth ++ payload).length = 18 + payload.length := by
    rw [List.length_append, header]
  have behind (xs : List UInt8) : store (store f 0 (front ++ auth ++ payload))
      (18 + payload.length) xs = store f 0 (front ++ auth ++ payload ++ xs) := by
    have joined := store_append f 0 (front ++ auth ++ payload) xs
    rwa [total, Nat.zero_add] at joined
  unfold txRegions Regions.secure securedPayload securedMic
  rcases secured with rfl | rfl
  · have covered : load (store f 0 (front ++ auth ++ payload)) 8 (10 + payload.length) =
        auth ++ payload := by
      rw [List.append_assoc, ← List.append_nil (front ++ (auth ++ payload))]
      exact load_store_segment f front (auth ++ payload) [] hf.symm
        (by rw [List.length_append, ha])
    have empty : ccm.encipher key nonce [] = [] :=
      List.eq_nil_of_length_eq_zero (ccm.encipher_length key nonce [])
    simp only [if_pos, if_neg full, authStartSrcId, authFixedLenSrcId, covered, load_zero, empty,
      store_nil, behind]
  · have authentic : load (store f 0 (front ++ auth ++ payload)) 8 10 = auth :=
      load_store_segment f front auth payload hf.symm ha.symm
    have input : load (store f 0 (front ++ auth ++ payload)) 18 payload.length = payload := by
      rw [← List.append_nil (front ++ auth ++ payload)]
      exact load_store_segment f (front ++ auth) payload [] header.symm rfl
    simp only [if_pos, if_neg full.symm, authStartSrcId, authFixedLenSrcId, authentic, input, behind]
    have replaced := store_middle f 0 (front ++ auth) payload (ccm.encipher key nonce payload)
      (ccm.tag key nonce auth payload) (ccm.encipher_length key nonce payload)
    rw [header, Nat.zero_add] at replaced
    exact replaced

theorem securedToDevice_eq (ccm : Ccm) (key : Key) (nonce : List UInt8) {payload : List UInt8}
    {gpd : EmberGpd} (secured : Secured gpd.securityLevel) (hp : payload.length ≤ 59) :
    securedToDevice ccm key nonce payload gpd = frontOf gpd payload ++ authOf gpd payload ++
      securedPayload ccm key nonce gpd.securityLevel payload ++
      securedMic ccm key nonce gpd.securityLevel (authOf gpd payload) payload := by
  obtain ⟨mpduLength, wrote⟩ := towardsDevice_wrote secured hp
  unfold securedToDevice
  simp only
  rw [mpduLength]
  generalize towardsDevice (emberGpdBuildMpdu (.untouched (fun _ => 0)) payload gpd).2 = mpdu
    at wrote
  have length := emberGpdSecureOutgoingMPdu_length ccm key nonce
    ⟨mpdu, .untouched (fun _ => 0)⟩ hp secured
  have regions := emberGpdSecureOutgoingMPdu_regions ccm key nonce
    ⟨mpdu, .untouched (fun _ => 0)⟩ hp secured
  rw [length, regions, wrote.cell, secure_store ccm key nonce secured _ rfl rfl]
  have total : 22 + payload.length = (frontOf gpd payload ++ authOf gpd payload ++
      securedPayload ccm key nonce gpd.securityLevel payload ++
      securedMic ccm key nonce gpd.securityLevel (authOf gpd payload) payload).length := by
    simp only [List.length_append, securedPayload_length, securedMic_length, if_pos secured]
    change 22 + payload.length = 8 + 10 + payload.length + 4
    omega
  rw [total]
  exact load_store_same _ 0 _

theorem dataNwkFc_secured {gpd : EmberGpd} (secured : Secured gpd.securityLevel)
    (auto : gpd.autoCommissioning = false) : dataNwkFc gpd = 0x8C := by
  have ext : securityLevelNone < gpd.securityLevel ∨ gpd.rxAfterTx = 1 :=
    extFcPresent_of_secured secured
  unfold dataNwkFc
  rw [auto, if_pos ext]
  decide

theorem extOctet_towardsDevice : ∀ (l : Fin 4) (individualKey rx success : Bool),
    let ext := extOctet (UInt8.ofNat l) individualKey rx success ||| extNwkFcDirectionMask
    ext &&& extNwkFcAppIdMask = appIdSrcId ∧
      (ext &&& extNwkFcSecurityLevelMask) >>> extNwkFcSecurityLevelOffset = UInt8.ofNat l ∧
      ext &&& extNwkFcDirectionMask ≠ 0 := by
  decide +kernel

structure ReadAsSecured (buffer : Cells UInt8) (gpd : EmberGpd) (n : ℕ) : Prop where
  header : HeaderAccepted buffer
  data : frameType buffer = nwkFcFrameTypeData
  appId : IncomingMessage.appId buffer = appIdSrcId
  level : securityLevel buffer = gpd.securityLevel
  length : nwkPayloadLength buffer = n + 21
  finger : payloadFinger buffer = 18
  addr : addr buffer = { zeroAddr with srcId := gpd.addr.srcId }

/-- The control octets fix all of the handler's locals but the length and the address. -/
theorem locals_of_control {buffer : Cells UInt8} {ext : UInt8} (start : nwkFcOffset buffer = 8)
    (control : buffer 8 = 0x8C) (extn : buffer 9 = ext)
    (appId : ext &&& extNwkFcAppIdMask = appIdSrcId) (direction : ext &&& extNwkFcDirectionMask ≠ 0)
    (secured : Secured (securityLevel buffer)) :
    nwkFcExtn buffer = ext ∧ zigbeeVersion buffer = nwkFcZigbeeVer ∧
      frameType buffer = nwkFcFrameTypeData ∧ IncomingMessage.direction buffer = 1 ∧
      autoCommissioning buffer = false ∧ IncomingMessage.appId buffer = appIdSrcId ∧
      srcIdPresent buffer = true ∧ srcIdFinger buffer = 10 ∧ payloadFinger buffer = 18 := by
  have fc : nwkFc buffer = 0x8C := by rw [nwkFc, start, control]
  have present : nwkFcExtnPresent buffer = true := by
    unfold nwkFcExtnPresent
    rw [fc]
    rfl
  have octet : nwkFcExtn buffer = ext := by rw [nwkFcExtn, if_pos present, start, extn]
  have data : frameType buffer = nwkFcFrameTypeData := by
    unfold frameType
    rw [fc]
    rfl
  have srcId : IncomingMessage.appId buffer = appIdSrcId := by
    unfold IncomingMessage.appId
    rw [octet, appId]
  have carries : srcIdPresent buffer = true := by
    unfold srcIdPresent
    rw [decide_eq_true_eq]
    exact ⟨present, srcId, data⟩
  have finger : srcIdFinger buffer = 10 := by rw [srcIdFinger, start, if_pos present]
  refine ⟨octet, ?_, data, ?_, ?_, srcId, carries, finger, ?_⟩
  · unfold zigbeeVersion
    rw [fc]
    rfl
  · unfold IncomingMessage.direction
    rw [octet, if_pos direction]
  · unfold autoCommissioning
    rw [fc]
    rfl
  · rw [payloadFinger, frameCounterFinger, finger, if_pos carries, if_pos secured]

theorem readAsSecured (f : Cells UInt8) {gpd : EmberGpd} {payload : List UInt8}
    (cipher mic : List UInt8) (secured : Secured gpd.securityLevel) (happ : gpd.addr.appId = appIdSrcId)
    (auto : gpd.autoCommissioning = false) (hp : payload.length ≤ 59) :
    ReadAsSecured (store f 0 (frontOf gpd payload ++ authOf gpd payload ++ cipher ++ mic)) gpd
      payload.length := by
  have fc := dataNwkFc_secured secured auto
  have small : gpd.securityLevel.toNat < 4 := by rcases secured with h | h <;> rw [h] <;> decide
  obtain ⟨appId, level, direction⟩ := extOctet_towardsDevice ⟨_, small⟩ (individualKey gpd)
    (decide (gpd.rxAfterTx ≠ 0)) (decide (payload.head? = some cmdCommissioningSuccess))
  simp only [UInt8.ofNat_toNat, ← sentExtNwkFc_eq happ] at appId level direction
  have srcId := load_store_segment f (frontOf gpd payload ++
    [dataNwkFc gpd, sentExtNwkFc gpd payload ||| extNwkFcDirectionMask])
    (copy4Bytes gpd.addr.srcId) (copy4Bytes gpd.securityFrameCounter ++ cipher ++ mic)
    (show 10 = _ from rfl) (show 4 = _ from rfl)
  have frame : frontOf gpd payload ++
      [dataNwkFc gpd, sentExtNwkFc gpd payload ||| extNwkFcDirectionMask] ++
      copy4Bytes gpd.addr.srcId ++ (copy4Bytes gpd.securityFrameCounter ++ cipher ++ mic) =
      frontOf gpd payload ++ authOf gpd payload ++ cipher ++ mic := by
    simp only [authOf, List.append_assoc, List.cons_append, List.nil_append]
  rw [frame] at srcId
  have len : store f 0 (frontOf gpd payload ++ authOf gpd payload ++ cipher ++ mic) 0 =
      UInt8.ofNat (payload.length + 23) := rfl
  have control : store f 0 (frontOf gpd payload ++ authOf gpd payload ++ cipher ++ mic) 8 =
      dataNwkFc gpd := rfl
  have extn : store f 0 (frontOf gpd payload ++ authOf gpd payload ++ cipher ++ mic) 9 =
      sentExtNwkFc gpd payload ||| extNwkFcDirectionMask := rfl
  have mac1 : store f 0 (frontOf gpd payload ++ authOf gpd payload ++ cipher ++ mic) 1 =
      loUint16 macFcWord := rfl
  have mac2 : store f 0 (frontOf gpd payload ++ authOf gpd payload ++ cipher ++ mic) 2 =
      hiUint16 macFcWord := rfl
  generalize store f 0 (frontOf gpd payload ++ authOf gpd payload ++ cipher ++ mic) = buffer at *
  generalize sentExtNwkFc gpd payload ||| extNwkFcDirectionMask = ext at *
  have start : nwkFcOffset buffer = 8 := by
    unfold nwkFcOffset mFc
    rw [mac1, mac2]
    decide
  have present : nwkFcExtnPresent buffer = true := by
    unfold nwkFcExtnPresent nwkFc
    rw [start, control, fc]
    decide
  have levelRead : securityLevel buffer = gpd.securityLevel := by
    unfold securityLevel nwkFcExtn
    rw [if_pos present, start, extn]
    exact level
  obtain ⟨octet, version, data, toDevice, noAuto, srcIdApp, carries, finger, payloadAt⟩ :=
    locals_of_control start (control.trans fc) extn appId direction (levelRead ▸ secured)
  have length : nwkPayloadLength buffer = payload.length + 21 := by
    unfold nwkPayloadLength
    rw [len, UInt8.toNat_ofNat_of_lt' (by change payload.length + 23 < 256; omega)]
    unfold uint8 macFooterSize
    omega
  exact {
    header := {
      length := by omega
      macFrame := by omega
      version := version
      frameType := by
        rw [data]
        decide
      toDevice := fun _ => toDevice
      flags := fun both => by
        rw [noAuto] at both
        exact Bool.false_ne_true both.2 }
    data := data
    appId := srcIdApp
    level := levelRead
    length := length
    finger := payloadAt
    addr := by
      unfold addr readWord
      rw [if_pos carries, finger, srcIdApp, srcId, word32_copy4Bytes]
      rfl }

theorem ReadAsSecured.accepted {buffer : Cells UInt8} {gpd : EmberGpd} {n : ℕ}
    (h : ReadAsSecured buffer gpd n) {own : EmberGpdAddr} (app : own.appId = appIdSrcId)
    (srcId : own.srcId = gpd.addr.srcId) : Accepted buffer own := by
  refine ⟨h.header, fun _ => ?_⟩
  rw [addrMatch_iff (addr_appId buffer), h.addr]
  exact ⟨app, srcId.symm⟩

theorem ReadAsSecured.payloadLength {buffer : Cells UInt8} {gpd : EmberGpd} {n : ℕ}
    (h : ReadAsSecured buffer gpd n) (secured : Secured gpd.securityLevel) :
    gpdfAppPayloadLength buffer = n := by
  rw [gpdfAppPayloadLength_eq, h.length, h.finger, micLength, h.level, if_pos secured]
  simp only [tagSize]
  omega

theorem ReadAsSecured.securityEvents_full {buffer : Cells UInt8} {gpd : EmberGpd} {n : ℕ}
    (h : ReadAsSecured buffer gpd n) (hn : n ≤ 59) (full : gpd.securityLevel = securityLevelLongFull)
    (b : Build) (ccmKey : Key) (nonceRx : Cells UInt8) :
    encrLengthFull buffer = n ∧ securityEvents b ccmKey nonceRx buffer =
      [decryptEvent b ccmKey nonceRx buffer authStartSrcId n authFixedLenSrcId] := by
  have length : encrLengthFull buffer = n := by
    unfold encrLengthFull uint8
    rw [h.length]
    simp only [authStartSrcId, authFixedLenSrcId, micLengthBytes]
    omega
  refine ⟨length, ?_⟩
  unfold securityEvents
  rw [if_pos ⟨h.appId, h.data⟩, h.level, full, if_neg (by decide), if_pos rfl, length]

theorem ReadAsSecured.securityEvents_authOnly {buffer : Cells UInt8} {gpd : EmberGpd} {n : ℕ}
    (h : ReadAsSecured buffer gpd n) (authOnly : gpd.securityLevel = securityLevelLongAuthOnly)
    (b : Build) (ccmKey : Key) (nonceRx : Cells UInt8) :
    securityEvents b ccmKey nonceRx buffer =
      [decryptEvent b ccmKey nonceRx buffer (authStartSrcId - 1) 0 (authLengthAuthOnly buffer)] := by
  unfold securityEvents
  rw [if_pos ⟨h.appId, h.data⟩, h.level, authOnly, if_pos rfl]

/-- What reading a level 3 frame under the sender's key and nonce comes to. -/
theorem full_verifies (b : Build) (ccmKey : Key) (nonceRx f : Cells UInt8) (payload : List UInt8)
    {gpd : EmberGpd} (full : gpd.securityLevel = securityLevelLongFull) :
    let n := nonce nonceRx
    let buffer := store f 0 (frontOf gpd payload ++ authOf gpd payload ++
      securedPayload b.ccm ccmKey n gpd.securityLevel payload ++
      securedMic b.ccm ccmKey n gpd.securityLevel (authOf gpd payload) payload)
    load buffer authStartSrcId authFixedLenSrcId = authOf gpd payload ∧
      load buffer (authStartSrcId + authFixedLenSrcId) payload.length =
        b.ccm.encipher ccmKey n payload ∧
      load buffer (authStartSrcId + authFixedLenSrcId + payload.length) tagSize =
        b.ccm.tag ccmKey n (authOf gpd payload) payload := by
  intro n buffer
  have other : securityLevelLongFull ≠ securityLevelLongAuthOnly := by decide
  have cipher : securedPayload b.ccm ccmKey n gpd.securityLevel payload =
      b.ccm.encipher ccmKey n payload := by rw [securedPayload, if_pos full]
  have mic : securedMic b.ccm ccmKey n gpd.securityLevel (authOf gpd payload) payload =
      b.ccm.tag ccmKey n (authOf gpd payload) payload := by
    rw [securedMic, if_neg (full ▸ other), if_pos full]
  simp only [buffer, cipher, mic]
  refine ⟨?_, ?_, ?_⟩
  · rw [List.append_assoc (frontOf gpd payload ++ authOf gpd payload)]
    exact load_store_segment f (frontOf gpd payload) (authOf gpd payload) _ rfl rfl
  · exact load_store_segment f (frontOf gpd payload ++ authOf gpd payload) _ _ rfl
      (b.ccm.encipher_length _ _ _).symm
  · rw [← List.append_nil (_ ++ b.ccm.tag ccmKey n (authOf gpd payload) payload)]
    refine load_store_segment f (frontOf gpd payload ++ authOf gpd payload ++
      b.ccm.encipher ccmKey n payload) _ [] ?_ (b.ccm.tag_length _ _ _ _).symm
    rw [List.length_append, b.ccm.encipher_length]
    rfl

theorem ReadAsSecured.not_agrees {s : Device} {packet payload : List UInt8} {gpd : EmberGpd}
    (reads : ReadAsSecured (store s.rxMpdu.cell 0 packet) gpd payload.length) (b : Build)
    (accepted : Accepted (store s.rxMpdu.cell 0 packet) s.gpdNode.addr)
    (authOnly : gpd.securityLevel = securityLevelLongAuthOnly) :
    ¬ Agrees s (railCbGeneric b packet s) (txRegions gpd.securityLevel payload.length)
      payload := by
  intro agrees
  have reported := (packet_decrypt_iff b s packet _ _ _ _).mpr ⟨accepted,
    reads.securityEvents_authOnly authOnly b s.ccmKey s.nonceRx ▸ List.mem_singleton_self _⟩
  have start := congrArg Regions.authStart (agrees.covers _ _ _ _ reported).1
  rw [txRegions, if_pos authOnly] at start
  exact absurd start (show authStartSrcId - 1 ≠ authStartSrcId by decide)

/-- At level 2 the handler starts one octet before the region that was secured. -/
theorem transmit_receive_agree_iff (b : Build) (s : Device) (payload : List UInt8)
    (gpd : EmberGpd) (secured : Secured gpd.securityLevel) (happ : gpd.addr.appId = appIdSrcId)
    (auto : gpd.autoCommissioning = false) (own : s.gpdNode.addr.appId = appIdSrcId)
    (addressed : s.gpdNode.addr.srcId = gpd.addr.srcId) (hlo : 1 ≤ payload.length)
    (hp : payload.length ≤ 59) :
    Agrees s (railCbGeneric b
        (securedToDevice b.ccm s.ccmKey (nonce s.nonceRx) payload gpd) s)
      (txRegions gpd.securityLevel payload.length) payload ↔
      gpd.securityLevel = securityLevelLongFull := by
  have other : securityLevelLongFull ≠ securityLevelLongAuthOnly := by decide
  rw [securedToDevice_eq b.ccm s.ccmKey (nonce s.nonceRx) secured hp]
  have verifies (full : gpd.securityLevel = securityLevelLongFull) :=
    full_verifies b s.ccmKey s.nonceRx s.rxMpdu.cell payload full
  simp only at verifies
  have reads := readAsSecured s.rxMpdu.cell
    (securedPayload b.ccm s.ccmKey (nonce s.nonceRx) gpd.securityLevel payload)
    (securedMic b.ccm s.ccmKey (nonce s.nonceRx) gpd.securityLevel (authOf gpd payload) payload)
    secured happ auto hp
  generalize frontOf gpd payload ++ authOf gpd payload ++
    securedPayload b.ccm s.ccmKey (nonce s.nonceRx) gpd.securityLevel payload ++
    securedMic b.ccm s.ccmKey (nonce s.nonceRx) gpd.securityLevel (authOf gpd payload) payload =
    packet at *
  have accepted := reads.accepted own addressed
  have length := reads.payloadLength secured
  have command := packet_incomingCommand_iff b s packet
  have decrypt := packet_decrypt_iff b s packet
  simp only at command decrypt
  constructor
  · intro agrees
    rcases secured with authOnly | full
    · exact absurd agrees (reads.not_agrees b accepted authOnly)
    · exact full
  · intro full
    obtain ⟨auth, cipher, mic⟩ := verifies full
    obtain ⟨encrLength, events⟩ := reads.securityEvents_full hp full b s.ccmKey s.nonceRx
    have checked : RegionVerifies b s.ccmKey s.nonceRx (store s.rxMpdu.cell 0 packet)
        authStartSrcId payload.length authFixedLenSrcId := by
      unfold RegionVerifies
      rw [auth, cipher, mic]
      exact b.ccm.verifies_encipher _ _ _ _
    have plain : load (securedBuffer b s.ccmKey s.nonceRx (store s.rxMpdu.cell 0 packet)) 18
        payload.length = payload := by
      unfold securedBuffer
      rw [if_pos ⟨reads.appId, reads.data, reads.level.trans full⟩, encrLength, auth, cipher, mic,
        b.ccm.authDecrypt_encipher]
      exact load_store_same _ 18 payload
    rw [decryptEvent, if_pos checked] at events
    have regions : rxRegions authStartSrcId payload.length authFixedLenSrcId =
        txRegions gpd.securityLevel payload.length := by
      rw [txRegions, full, if_neg other]
      rfl
    refine ⟨⟨_, _, _, (decrypt _ _ _ _).mpr ⟨accepted, events ▸ List.mem_singleton_self _⟩⟩, ?_,
      ⟨18, (command _ _ _).mpr ⟨⟨accepted, ?_⟩, reads.finger.symm, length.symm, plain.symm⟩⟩, ?_⟩
    · intro authStart encrLength authLength status reported
      have member := ((decrypt _ _ _ _).mp reported).2
      rw [events, List.mem_singleton] at member
      cases member
      exact ⟨regions, rfl⟩
    · omega
    · intro start len cmd reported
      obtain ⟨-, rfl, rfl, rfl⟩ := (command _ _ _).mp reported
      rw [length, reads.finger]
      exact ⟨rfl, plain⟩

def switchWith (securityLevel : UInt8) : EmberGpd :=
  { zeroGpd with addr := ⟨305419896, 0, 0, 0⟩, securityLevel := securityLevel, securityKeyType := 4 }

def listening : Device := GpdTask.powerUp (shipped (AesCipher.aesCcm tagSize)) []

def securedToggle (securityLevel : UInt8) : List UInt8 :=
  securedToDevice (AesCipher.aesCcm tagSize) listening.ccmKey (nonce listening.nonceRx) [cmdToggle]
    (switchWith securityLevel)

theorem full_frame_agrees :
    Agrees listening (railCbGeneric (shipped (AesCipher.aesCcm tagSize))
        (securedToggle securityLevelLongFull) listening)
      (txRegions securityLevelLongFull 1) [cmdToggle] :=
  (transmit_receive_agree_iff (shipped (AesCipher.aesCcm tagSize)) listening [cmdToggle]
    (switchWith securityLevelLongFull) (by decide) rfl rfl (by decide +kernel) (by decide +kernel)
    (by decide) (by decide)).mpr rfl

/-- The level 2 frame with the transmitter's own MIC is refused by the receiver's check. -/
theorem authOnly_frame_refused :
    let s' := railCbGeneric (shipped (AesCipher.aesCcm tagSize))
      (securedToggle securityLevelLongAuthOnly) listening
    s'.log = [.incomingCommand 18 1 [cmdToggle], .decrypt 7 0 11 .failed] ++ listening.log ∧
      ¬ Agrees listening s' (txRegions securityLevelLongAuthOnly 1) [cmdToggle] := by
  intro s'
  have log : s'.log =
      [.incomingCommand 18 1 [cmdToggle], .decrypt 7 0 11 .failed] ++ listening.log := by
    decide +kernel
  refine ⟨log, fun agrees => ?_⟩
  have failed : Reports listening s' (.decrypt 7 0 11 .failed) :=
    ⟨_, log, List.mem_cons_of_mem _ (List.mem_singleton_self _)⟩
  exact absurd (agrees.covers _ _ _ _ failed).2 (by decide)

end GreenPower.SecuredReception
