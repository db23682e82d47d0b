import GreenPower.RequestGrammar
import GreenPower.AesCipher

set_option autoImplicit false

/-!
The commissioning command read back: when `gpdBuildCommissioningCommand` writes what the grammar
reads.
-/
namespace GreenPower.RequestReadBack
open MemoryArray ByteWord BuildOptions DeviceState Security FrameBuild CommissioningCommand
  RequestPayload FieldReader RequestGrammar

theorem uint16Bytes_eq (v : UInt16) : uint16Bytes v = toBytes 2 v.toNat := by
  have low : UInt8.ofNat (v.toNat % 256) = UInt8.ofNat v.toNat := by
    apply UInt8.toNat_inj.mp
    simp
  have high : UInt8.ofNat (v.toNat / 256 % 256) = UInt8.ofNat (v.toNat / 256) := by
    apply UInt8.toNat_inj.mp
    simp
  change [UInt8.ofNat (v.toNat % 256), UInt8.ofNat (v.toNat / 256 % 256)] = _
  rw [low, high]
  rfl

theorem reads_readUint16 (v : UInt16) : Reads readUint16 (uint16Bytes v) v := by
  have value : UInt16.ofNat (ofBytes (uint16Bytes v)) = v := by
    rw [uint16Bytes_eq, ofBytes_toBytes, Nat.mod_eq_of_lt (by simpa using v.toNat_lt)]
    exact UInt16.ofNat_toNat
  have read := (reads_octets (uint16Bytes v)).map (f := fun bytes => UInt16.ofNat (ofBytes bytes))
  rwa [value] at read

theorem reads_readUint32 (v : UInt32) : Reads readUint32 (copy4Bytes v) v := by
  have read := (reads_octets (copy4Bytes v)).map (f := word32)
  rwa [word32_copy4Bytes] at read

theorem reads_readCounted (xs : List UInt8) (short : xs.length < 256) :
    Reads readCounted (UInt8.ofNat xs.length :: xs) xs := by
  have length : (UInt8.ofNat xs.length).toNat = xs.length := UInt8.toNat_ofNat_of_lt' short
  refine (reads_octet _).bind ?_
  rw [length]
  exact reads_octets xs

theorem reads_readClusterLists (ins outs : List UInt16) (few : ins.length ≤ 15)
    (few' : outs.length ≤ 15) :
    Reads readClusterLists
      (UInt8.ofNat (ins.length + outs.length * 16) :: ins.flatMap uint16Bytes ++
        outs.flatMap uint16Bytes) (ins, outs) := by
  have octet' : (UInt8.ofNat (ins.length + outs.length * 16)).toNat =
      ins.length + outs.length * 16 :=
    UInt8.toNat_ofNat_of_lt' (by change _ < 256; omega)
  have low : (UInt8.ofNat (ins.length + outs.length * 16)).toNat % 16 = ins.length := by omega
  have high : (UInt8.ofNat (ins.length + outs.length * 16)).toNat / 16 = outs.length := by omega
  refine (reads_octet _).bind ?_
  rw [low, high]
  exact (reads_many reads_readUint16 ins).bind (reads_many reads_readUint16 outs).map

theorem has_flag_options : ∀ macSeq rx info panId keyReq loc ext : Bool,
    Options.ofOctet (flag macSeq comOptMacSeqNbrCapMask ||| flag rx comOptRxCapMask |||
      flag info comOptAppInfoMask ||| flag panId comOptPanIdReqMask |||
      flag keyReq comOptKeyReqMask ||| flag loc comOptFixedLocMask ||| flag ext comOptExtOptMask) =
    ⟨macSeq, rx, info, panId, keyReq, loc, ext⟩ := by
  decide

theorem options_read (b : Build) (keyType : UInt8) :
    Options.ofOctet (optionsField b keyType) = configuredOptions b keyType := by
  have request : (if withoutKeyRequest b keyType then 0 else flag b.keyRequest comOptKeyReqMask) =
      flag (!withoutKeyRequest b keyType && b.keyRequest) comOptKeyReqMask := by
    cases withoutKeyRequest b keyType <;> rfl
  unfold optionsField
  rw [request]
  exact has_flag_options _ _ _ _ _ _ _

theorem has_flag_extension : ∀ (level : Fin 4) (type : Fin 8) (present encrypt : Bool),
    ExtendedOptions.ofOctet ((extComOptSecurityLevelCapMask &&& UInt8.ofNat level) |||
      (UInt8.ofNat type <<< extComOptKeyTypeOffset) ||| flag present extComOptKeyPresentMask |||
      flag encrypt extComOptKeyEncryptMask ||| extComOptOutCounterPresentMask) =
    ⟨UInt8.ofNat level, UInt8.ofNat type, present, encrypt, true⟩ := by
  decide

theorem extension_read (b : Build) (present : Bool) (keyType : UInt8)
    (inRange : (configuredExtension b present keyType).InRange) :
    ExtendedOptions.ofOctet (extendedOptionsField b present keyType) =
      configuredExtension b present keyType := by
  obtain ⟨level, type⟩ := inRange
  have few : b.securityLevel.toNat < 4 := Nat.lt_succ_of_le (UInt8.le_iff_toNat_le.mp level)
  have field := has_flag_extension ⟨b.securityLevel.toNat, few⟩
    ⟨keyType.toNat, UInt8.lt_iff_toNat_lt.mp type⟩ present b.keyEncrypt
  unfold extendedOptionsField configuredExtension
  simpa using field

theorem has_flag_appInfo : ∀ ms model cmd cluster switch description : Bool,
    let flags := flag ms appInfoComMsIdMask ||| flag model appInfoComModelIdMask |||
      flag cmd appInfoComCmdListMask ||| flag cluster appInfoComClusterListMask |||
      flag switch appInfoComSwitchInformationPresentMask |||
      flag description appInfoComAppDescriptionFollowsMask
    has flags appInfoComMsIdMask = ms ∧ has flags appInfoComModelIdMask = model ∧
      has flags appInfoComCmdListMask = cmd ∧ has flags appInfoComClusterListMask = cluster ∧
      has flags appInfoComSwitchInformationPresentMask = switch ∧
      has flags appInfoComAppDescriptionFollowsMask = description := by
  decide

def counted (xs : List UInt8) : List UInt8 := UInt8.ofNat xs.length :: xs

def clusterBytes (l : List UInt16 × List UInt16) : List UInt8 :=
  UInt8.ofNat (l.1.length + l.2.length * 16) :: l.1.flatMap uint16Bytes ++ l.2.flatMap uint16Bytes

theorem appInformation_eq (b : Build) : appInformation b =
    (configuredAppInfo b).msId.elim [] uint16Bytes ++
      ((configuredAppInfo b).modelId.elim [] uint16Bytes ++
        ((configuredAppInfo b).cmdList.elim [] counted ++
          ((configuredAppInfo b).clusterLists.elim [] clusterBytes ++
            (configuredAppInfo b).switchInformation.elim [] counted))) := by
  have words (v : Option UInt16) : (v.map uint16Bytes).getD [] = v.elim [] uint16Bytes := by
    cases v <;> rfl
  have cmds : (if b.cmdList.length > 0 then UInt8.ofNat b.cmdList.length :: b.cmdList else []) =
      (configuredAppInfo b).cmdList.elim [] counted := by
    unfold configuredAppInfo
    split_ifs <;> rfl
  have clusters : clusterLists b = (configuredAppInfo b).clusterLists.elim [] clusterBytes := by
    unfold clusterLists configuredAppInfo
    split_ifs <;> rfl
  have switch : (b.switchInfo.map
      (fun info => [2, info, emberGpdAfPluginGetSwitchContactStutusCallback])).getD [] =
      (configuredAppInfo b).switchInformation.elim [] counted := by
    unfold configuredAppInfo
    cases b.switchInfo <;> rfl
  unfold appInformation
  rw [words, words, cmds, clusters, switch]
  simp only [List.append_assoc]
  rfl

theorem appInfo_announced (b : Build) :
    let info := configuredAppInfo b
    has (appInfoField b) appInfoComMsIdMask = info.msId.isSome ∧
      has (appInfoField b) appInfoComModelIdMask = info.modelId.isSome ∧
      has (appInfoField b) appInfoComCmdListMask = info.cmdList.isSome ∧
      has (appInfoField b) appInfoComClusterListMask = info.clusterLists.isSome ∧
      has (appInfoField b) appInfoComSwitchInformationPresentMask =
        info.switchInformation.isSome ∧
      has (appInfoField b) appInfoComAppDescriptionFollowsMask = info.appDescriptionFollows := by
  have cmds : decide (b.cmdList.length > 0) = (configuredAppInfo b).cmdList.isSome := by
    unfold configuredAppInfo
    by_cases some : b.cmdList.length > 0 <;> simp [some]
  have clusters : decide (b.inClusList.length > 0 ∨ b.outClusList.length > 0) =
      (configuredAppInfo b).clusterLists.isSome := by
    unfold configuredAppInfo
    by_cases some : b.inClusList.length > 0 ∨ b.outClusList.length > 0 <;> simp [some]
  have switch : b.switchInfo.isSome = (configuredAppInfo b).switchInformation.isSome := by
    unfold configuredAppInfo
    rw [Option.isSome_map]
  have flags := has_flag_appInfo b.manufactureId.isSome b.modelId.isSome (b.cmdList.length > 0)
    (b.inClusList.length > 0 ∨ b.outClusList.length > 0) b.switchInfo.isSome
    b.appDescriptionFollows
  rw [cmds, clusters, switch] at flags
  unfold appInfoField
  rw [cmds, clusters, switch]
  exact flags

theorem reads_readAppInfo (b : Build) (cmds : b.cmdList.length < 256)
    (ins : b.inClusList.length ≤ 15) (outs : b.outClusList.length ≤ 15) :
    Reads readAppInfo (appInfoField b :: appInformation b) (configuredAppInfo b) := by
  obtain ⟨ms, model, cmd, cluster, switch, description⟩ := appInfo_announced b
  have value : { configuredAppInfo b with
      appDescriptionFollows := has (appInfoField b) appInfoComAppDescriptionFollowsMask } =
      configuredAppInfo b := by rw [description]
  rw [← value, appInformation_eq]
  refine (reads_octet _).bind ?_
  refine (reads_announced (configuredAppInfo b).msId ms (fun v _ => reads_readUint16 v)).bind ?_
  refine (reads_announced (configuredAppInfo b).modelId model
    (fun v _ => reads_readUint16 v)).bind ?_
  refine (reads_announced (configuredAppInfo b).cmdList cmd ?_).bind ?_
  · intro list is
    obtain ⟨-, same⟩ := Option.ite_none_right_eq_some.mp is
    obtain rfl := Option.some.inj same
    exact reads_readCounted _ cmds
  refine (reads_announced (configuredAppInfo b).clusterLists cluster ?_).bind ?_
  · intro lists is
    obtain ⟨-, same⟩ := Option.ite_none_right_eq_some.mp is
    obtain rfl := Option.some.inj same
    exact reads_readClusterLists _ _ ins outs
  refine (reads_announced (configuredAppInfo b).switchInformation switch ?_).map
  intro list is
  obtain ⟨info, -, rfl⟩ := Option.map_eq_some_iff.mp is
  exact reads_readCounted _ (by simp)

/-- The parts of the request by the grammar: what should have been written. -/
def encoding (b : Build) (present : Bool) (keyType : UInt8) (key : Key) (frameCounter : UInt32)
    (s : Device) : List UInt8 :=
  let r := configured b present keyType key frameCounter s
  [cmdCommissioning] ++ ([b.appDeviceId] ++ ([optionsField b keyType] ++
    (r.extendedOptions.elim [] (fun _ => [extendedOptionsField b present keyType]) ++
      (r.key.elim [] id ++ (r.keyMic.elim [] id ++ (r.outCounter.elim [] copy4Bytes ++
        r.appInfo.elim [] (fun _ => appInfoField b :: appInformation b)))))))

theorem sealed_lengths (b : Build) (key : Key) (s : Device) :
    (emberGpdSecurityEncryptKey b s.gpdNode.addr key s).1.length = keyLength ∧
      (emberGpdSecurityEncryptKey b s.gpdNode.addr key s).2.1.length = micLengthBytes := by
  unfold emberGpdSecurityEncryptKey
  refine ⟨?_, AuthenticatedCipher.Aead.tag_length _ _ _ _ _⟩
  rw [AuthenticatedCipher.Aead.encipher_length, List.length_drop, List.length_append,
    Vector.length_toList]
  rfl

theorem configuredKey_length (b : Build) (key : Key) (s : Device) :
    (configuredKey b key s).length = keyLength := by
  unfold configuredKey
  split_ifs
  · exact (sealed_lengths b key s).1
  · exact Vector.length_toList

theorem configured_announced (b : Build) (present : Bool) (keyType : UInt8) (key : Key)
    (frameCounter : UInt32) (s : Device) :
    let r := configured b present keyType key frameCounter s
    r.options.extOpt = r.extendedOptions.isSome ∧
      announces r.extendedOptions (fun e => e.keyPresent) = r.key.isSome ∧
      announces r.extendedOptions (fun e => e.keyPresent && e.keyEncrypt) = r.keyMic.isSome ∧
      announces r.extendedOptions (fun e => e.outCounterPresent) = r.outCounter.isSome ∧
      r.options.appInfo = r.appInfo.isSome := by
  have info : b.appInfo =
      (if b.appInfo = true then some (configuredAppInfo b) else none).isSome := by
    cases b.appInfo <;> rfl
  unfold configured announces configuredExtension configuredOptions
  by_cases extended : Extended b
  · cases present <;> cases b.keyEncrypt <;> simpa [extended] using info
  · simpa [extended] using info

theorem reads_encoding (b : Build) (present : Bool) (keyType : UInt8) (key : Key)
    (frameCounter : UInt32) (s : Device) (cmds : b.appInfo = true → b.cmdList.length < 256)
    (ins : b.inClusList.length ≤ 15) (outs : b.outClusList.length ≤ 15)
    (inRange : Extended b → (configuredExtension b present keyType).InRange) :
    Reads readRequest (encoding b present keyType key frameCounter s)
      (configured b present keyType key frameCounter s) := by
  obtain ⟨extOpt, keyPresent, keyEncrypt, outCounterPresent, appInfo⟩ :=
    configured_announced b present keyType key frameCounter s
  have options : Options.ofOctet (optionsField b keyType) =
      (configured b present keyType key frameCounter s).options := options_read b keyType
  have value : { configured b present keyType key frameCounter s with
      options := Options.ofOctet (optionsField b keyType) } =
      configured b present keyType key frameCounter s := by rw [options]
  rw [← options] at extOpt appInfo
  rw [← value]
  refine (reads_octet _).bind ?_
  refine (reads_octet _).bind ?_
  refine (reads_octet _).bind ?_
  refine (reads_announced (configured b present keyType key frameCounter s).extendedOptions extOpt
    ?_).bind ?_
  · intro e is
    obtain ⟨extended, same⟩ := Option.ite_none_right_eq_some.mp is
    rw [← Option.some.inj same, ← extension_read b present keyType (inRange extended)]
    exact (reads_octet _).map
  refine (reads_announced (configured b present keyType key frameCounter s).key keyPresent
    ?_).bind ?_
  · intro k is
    obtain ⟨-, same⟩ := Option.ite_none_right_eq_some.mp is
    rw [← Option.some.inj same]
    exact reads_octets_of_length (configuredKey_length b key s)
  refine (reads_announced (configured b present keyType key frameCounter s).keyMic keyEncrypt
    ?_).bind ?_
  · intro mic is
    obtain ⟨-, same⟩ := Option.ite_none_right_eq_some.mp is
    rw [← Option.some.inj same]
    exact reads_octets_of_length (sealed_lengths b key s).2
  refine (reads_announced (configured b present keyType key frameCounter s).outCounter
    outCounterPresent (fun c _ => reads_readUint32 c)).bind ?_
  refine (reads_announced (configured b present keyType key frameCounter s).appInfo appInfo
    ?_).map
  intro info is
  obtain ⟨there, same⟩ := Option.ite_none_right_eq_some.mp is
  rw [← Option.some.inj same]
  exact reads_readAppInfo b (cmds there) ins outs

theorem configuredAppInfo_size (b : Build) :
    (configuredAppInfo b).size = 1 + (appInformation b).length := by
  have counted (v : Option (List UInt8)) :
      (v.elim [] counted).length = v.elim 0 (fun l => 1 + l.length) := by
    cases v with
    | none => rfl
    | some l => exact Nat.add_comm _ _
  have words (v : Option UInt16) : (v.elim [] uint16Bytes).length = v.elim 0 (fun _ => 2) := by
    cases v <;> rfl
  have clusters (v : Option (List UInt16 × List UInt16)) : (v.elim [] clusterBytes).length =
      v.elim 0 (fun l => 1 + 2 * l.1.length + 2 * l.2.length) := by
    have pairs (l : List UInt16) : (l.flatMap uint16Bytes).length = 2 * l.length := by
      induction l with
      | nil => rfl
      | cons v l ih =>
        rw [List.flatMap_cons, List.length_append, ih, List.length_cons, Nat.mul_succ, Nat.add_comm]
        rfl
    cases v with
    | none => rfl
    | some l =>
      change (_ :: _ ++ _ : List UInt8).length = 1 + 2 * l.1.length + 2 * l.2.length
      rw [List.length_append, List.length_cons, pairs, pairs]
      omega
  rw [appInformation_eq]
  simp only [List.length_append, counted, words, clusters]
  unfold AppInfo.size
  omega

theorem requestBack_length (b : Build) (present : Bool) (keyType : UInt8) (key : Key)
    (frameCounter : UInt32) (s : Device) : (requestBack b).length =
      (configured b present keyType key frameCounter s).appInfo.elim 0 AppInfo.size := by
  change _ = (if b.appInfo = true then some (configuredAppInfo b) else none).elim 0 AppInfo.size
  unfold requestBack
  split_ifs
  · change _ = (configuredAppInfo b).size
    rw [configuredAppInfo_size, List.length_cons, Nat.add_comm]
  · rfl

/-- What the builder leaves out: the options without security, and an unencrypted key. -/
def missing (b : Build) (present : Bool) : ℕ :=
  if Extended b then (if present = true ∧ b.keyEncrypt = false then 16 else 0) else 1

theorem configured_size (b : Build) (present : Bool) (keyType : UInt8) (key : Key)
    (frameCounter : UInt32) (s : Device) :
    (configured b present keyType key frameCounter s).size =
      (requestPayload b present keyType key frameCounter s).length + missing b present := by
  obtain ⟨cipher, mic⟩ := sealed_lengths b key s
  have keyLength' := configuredKey_length b key s
  unfold Request.size requestPayload
  rw [List.length_append, requestBack_length b present keyType key frameCounter s]
  unfold configured requestFront requestCounter keyField missing sealedKey
  by_cases extended : Extended b
  · cases present <;> cases encrypt : b.keyEncrypt <;>
      simp [extended, cipher, mic, keyLength', keyLength, micLengthBytes]
    all_goals omega
  · simp [extended]
    omega

theorem requestPayload_encoding {b : Build} {present : Bool} (extended : Extended b)
    (moved : present = true → b.keyEncrypt = true) (keyType : UInt8) (key : Key)
    (frameCounter : UInt32) (s : Device) : requestPayload b present keyType key frameCounter s =
      encoding b present keyType key frameCounter s := by
  have back : requestBack b = (configured b present keyType key frameCounter s).appInfo.elim []
      (fun _ => appInfoField b :: appInformation b) := by
    change _ = (if b.appInfo = true then some (configuredAppInfo b) else none).elim [] _
    unfold requestBack
    split_ifs <;> rfl
  unfold requestPayload encoding
  rw [back]
  unfold configured configuredKey requestFront requestCounter keyField sealedKey
  cases present with
  | true => simp [extended, moved rfl]
  | false => simp [extended]

theorem cmdList_le_size (b : Build) : b.cmdList.length ≤ (configuredAppInfo b).size := by
  have list : b.cmdList.length ≤
      (configuredAppInfo b).cmdList.elim 0 (fun l => 1 + l.length) := by
    unfold configuredAppInfo
    by_cases some : b.cmdList.length > 0
    · rw [if_pos some]
      exact Nat.le_add_left _ _
    · omega
  unfold AppInfo.size
  omega

theorem appInfo_le_size (b : Build) (present : Bool) (keyType : UInt8) (key : Key)
    (frameCounter : UInt32) (s : Device) (info : b.appInfo = true) :
    (configuredAppInfo b).size ≤ (configured b present keyType key frameCounter s).size := by
  have there : (configured b present keyType key frameCounter s).appInfo =
      some (configuredAppInfo b) := if_pos info
  unfold Request.size
  rw [there]
  exact Nat.le_add_left _ _

/-- The command as it can be read back from the buffer. -/
theorem built_bytes (b : Build) (present : Bool) (keyType : UInt8) (key : Key)
    (frameCounter : UInt32) (cmd : Mem UInt8) (s : Device)
    (short : (requestPayload b present keyType key frameCounter s).length < 256) :
    let out := (gpdBuildCommissioningCommand b present keyType key frameCounter cmd s).1
    load out.2.cell 0 out.1 = requestPayload b present keyType key frameCounter s := by
  obtain ⟨length, bytes⟩ :=
    gpdBuildCommissioningCommand_filled b present keyType key frameCounter cmd s
  rw [uint8_natCast_of_lt short] at length
  intro out
  rw [bytes, length, List.take_length]

theorem request_parseable_iff (b : Build) (present : Bool) (keyType : UInt8) (key : Key)
    (frameCounter : UInt32) (cmd : Mem UInt8) (s : Device) (ins : b.inClusList.length ≤ 15)
    (outs : b.outClusList.length ≤ 15)
    (fits : (configured b present keyType key frameCounter s).size ≤ cmdMaxPayloadSize) :
    Parseable b present keyType key frameCounter cmd s ↔
      (b.securityLevel > securityLevelNone ∧ b.securityLevel ≤ 3) ∧ keyType < 8 ∧
        (present = true → b.keyEncrypt = true) := by
  have size := configured_size b present keyType key frameCounter s
  have few : (configured b present keyType key frameCounter s).size ≤ 40 := fits
  have bytes := built_bytes b present keyType key frameCounter cmd s (by omega)
  unfold Parseable
  simp only [bytes]
  constructor
  · intro read
    obtain ⟨took, inRange⟩ := takes_readRequest _ _ _ read
    rw [List.length_nil] at took
    have none : missing b present = 0 := by omega
    have extended : Extended b := by
      by_contra without
      rw [missing, if_neg without] at none
      cases none
    rw [missing, if_pos extended] at none
    obtain ⟨level, type⟩ : (configuredExtension b present keyType).InRange := by
      apply inRange
      change _ ∈ (if Extended b then _ else _)
      rw [if_pos extended]
      rfl
    refine ⟨⟨extended, level⟩, type, fun there => ?_⟩
    by_contra plain
    rw [if_pos ⟨there, Bool.eq_false_iff.mpr plain⟩] at none
    cases none
  · rintro ⟨⟨extended, level⟩, type, moved⟩
    rw [requestPayload_encoding extended moved]
    refine (reads_encoding b present keyType key frameCounter s ?_ ins outs
      (fun _ => ⟨level, type⟩)).all
    intro info
    have whole := cmdList_le_size b
    have inside := appInfo_le_size b present keyType key frameCounter s info
    omega

def informed : Build :=
  { shipped (AesCipher.aesCcm tagSize) with
    appInfo := true
    manufactureId := some 0x1049
    cmdList := [0x20, 0x21, 0x22]
    inClusList := [0x0006] }

theorem informed_request_parseable : Parseable informed true securityKeyTypeOob informed.key 5
    (.untouched (fun _ => 0)) (ramCleared []) :=
  (request_parseable_iff informed true securityKeyTypeOob informed.key 5 _ _ (by decide)
    (by decide) (by decide +kernel)).mpr ⟨⟨by decide, by decide⟩, by decide, fun _ => rfl⟩

def plainKey : Build := { shipped (AesCipher.aesCcm tagSize) with keyEncrypt := false }

def unsecured : Build :=
  { shipped (AesCipher.aesCcm tagSize) with securityLevel := securityLevelNone }

theorem plainKey_not_parseable :
    ¬ Parseable plainKey true securityKeyTypeOob plainKey.key 5 (.untouched (fun _ => 0))
        (ramCleared []) ∧
    ¬ Parseable unsecured true securityKeyTypeOob unsecured.key 5 (.untouched (fun _ => 0))
        (ramCleared []) := by
  unfold Parseable
  decide +kernel

end GreenPower.RequestReadBack
