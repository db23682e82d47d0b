import GreenPower.AesCipher
import GreenPower.AttemptIndependence
import GreenPower.CrashConsistency
import GreenPower.FrameReadBack
import GreenPower.FramesOnAir

set_option autoImplicit false

/-!
A power cycle between two toggles. What `GpdTask` has just stored comes back; whether the next
toggle is the same depends on what it takes from RAM besides.
-/
namespace GreenPower.PowerCycle
open MemoryArray ByteWord BuildOptions DeviceState Security NonVolatile FrameBuild FrameLayout
  FrameReadBack IncomingCommand SendReceive Commissioning GpdTask EventLog DeviceSteps
  CrashConsistency AttemptTrace AttemptLockstep AttemptIndependence

/-- `GpdTask` has just stored the security data, at the end of an iteration. -/
def JustStored (b : Build) (s : Device) : Prop :=
  ∃ log actions air randoms descriptions, Chip b log ∧
    s = life b log (actions ++ [.stack air randoms descriptions])

def frameWritten : Event → Option (List UInt8)
  | .txFifo _ _ _ frame => some frame
  | _ => none

def inFifo (log : List Event) : Option (List UInt8) := log.findSome? frameWritten

section
variable (b : Build) (air : List (List (List UInt8))) (randoms : List UInt32)
  (descriptions : List (List UInt8 × Bool)) (s : Device)

def nextToggle : Option (List UInt8) :=
  inFifo ([Action.command .send, .stack air randoms descriptions].foldl (perform b) s).log

def nextCounter : UInt32 :=
  match b.macSeq with
  | .incremental => s.gpdNode.securityFrameCounter + 1
  | .random => (randoms.headD 0).toUInt8.toUInt32

def toggleNode : EmberGpd :=
  { s.gpdNode with
    gpdState := appStateOperationalCommandRequest
    securityFrameCounter := nextCounter b randoms s }

def toggleNonce : List UInt8 :=
  match b.macSeq with
  | .incremental => nonce (store s.nonceTx 8 (copy4Bytes (s.gpdNode.securityFrameCounter + 1)))
  | .random => nonce s.nonceTx

/-- What a toggle takes from RAM is what a boot leaves there. A security level out of the enum
may cover the flag of the receive window. -/
structure FlagsAsBooted : Prop where
  autoCommissioning : s.gpdNode.autoCommissioning = false
  rxAfterTx : s.gpdNode.securityLevel &&& 0x08 = 0 →
    s.gpdNode.rxAfterTx = if b.rxCapability then 1 else 0

/-- The CCM has the stored key. A nonce into which no frame puts its counter has the stored one. -/
structure ContextAsBooted : Prop where
  ccmKey : s.ccmKey = s.gpdNode.securityKey
  nonceTx : b.macSeq = .random → load s.nonceTx 8 4 = copy4Bytes s.gpdNode.securityFrameCounter

end

theorem frameWritten_of_fifoFrame {e : Event} (unwritten : FramesOnAir.fifoFrame e = none) :
    frameWritten e = none := by
  cases e <;> first | rfl | cases unwritten

theorem inFifo_append {new log : List Event}
    (unwritten : ∀ e ∈ new, FramesOnAir.fifoFrame e = none) : inFifo (new ++ log) = inFifo log :=
  findSome_append_none frameWritten new log
    (fun e he => frameWritten_of_fifoFrame (unwritten e he))

theorem counted_toggle (b : Build) (randoms : List UInt32) {s u : Device}
    (gpd : u.gpdNode = { s.gpdNode with gpdState := appStateOperationalCommandRequest })
    (nonceTx : u.nonceTx = s.nonceTx) (drawn : u.randoms = randoms) :
    (updateFrameCounter b u).gpdNode = toggleNode b randoms s ∧
      nonce (updateFrameCounter b u).nonceTx = toggleNonce b s ∧
      (updateFrameCounter b u).ccmKey = u.ccmKey := by
  subst drawn
  unfold updateFrameCounter toggleNode toggleNonce nextCounter
  rw [← nonceTx]
  cases b.macSeq with
  | incremental =>
    refine ⟨?_, ?_, rfl⟩
    · change { u.gpdNode with securityFrameCounter := u.gpdNode.securityFrameCounter + 1 } = _
      rw [gpd]
    · change nonce (store u.nonceTx 8 (copy4Bytes (u.gpdNode.securityFrameCounter + 1))) = _
      rw [gpd]
  | random =>
    refine ⟨?_, rfl, rfl⟩
    change { u.gpdNode with securityFrameCounter := (u.randoms.headD 0).toUInt8.toUInt32 } = _
    rw [gpd]

theorem nextToggle_eq (b : Build) (air : List (List (List UInt8))) (randoms : List UInt32)
    (descriptions : List (List UInt8 × Bool)) (s : Device) :
    nextToggle b air randoms descriptions s = some (built b.ccm s.ccmKey (toggleNonce b s)
      nwkFcFrameTypeData [cmdToggle] (toggleNode b randoms s)) := by
  have run : [Action.command .send, .stack air randoms descriptions].foldl (perform b) s =
      stackBranch b { emberGpdSetState appStateOperationalCommandRequest s with
        air := air, randoms := randoms, descriptions := descriptions } := rfl
  unfold nextToggle
  rw [run]
  obtain ⟨node, tx, key⟩ := counted_toggle b randoms (s := s)
    (u := { emberGpdSetState appStateOperationalCommandRequest s with
      air := air, randoms := randoms, descriptions := descriptions }) rfl rfl rfl
  have request : ({ emberGpdSetState appStateOperationalCommandRequest s with
      air := air, randoms := randoms, descriptions := descriptions } : Device).gpdNode.gpdState =
      appStateOperationalCommandRequest := rfl
  have context : ({ emberGpdSetState appStateOperationalCommandRequest s with
      air := air, randoms := randoms, descriptions := descriptions } : Device).ccmKey =
      s.ccmKey := rfl
  generalize ({ emberGpdSetState appStateOperationalCommandRequest s with
    air := air, randoms := randoms, descriptions := descriptions } : Device) = u at *
  have switched : stateSwitch b u = emberGpdSetState appStateOperational (sendToggle b u) := by
    unfold stateSwitch
    rw [request]
    rfl
  obtain ⟨mpdu, composed⟩ := writeTxFifo_built b (Or.inl rfl)
    (by decide : [cmdToggle].length ≤ 59) (updateFrameCounter b u)
  obtain ⟨new, log, unwritten, -⟩ := FramesOnAir.startTx_iterate_puts b (max 1 cmdResendNumber)
    (writeTxFifo b nwkFcFrameTypeData [cmdToggle] (updateFrameCounter b u))
  have sent : (sendToggle b u).log = new ++
      (writeTxFifo b nwkFcFrameTypeData [cmdToggle] (updateFrameCounter b u)).log := log
  have stored : (stackBranch b u).log = [.flashSave (.secData (stateSwitch b u).gpdNode)
      (image (stackBranch b u).gpdNvData), .setState appStateOperational] ++
        (sendToggle b u).log := by
    unfold stackBranch
    rw [switched]
    rfl
  rw [stored, inFifo_append (by simp [FramesOnAir.fifoFrame]), sent, inFifo_append unwritten,
    composed, node, tx, key, context]
  rfl

structure SharesStored (g h : EmberGpd) : Prop where
  secData : h.secData = g.secData
  counter : h.securityFrameCounter = g.securityFrameCounter
  addr : h.addr = g.addr

section
variable {g h : EmberGpd}

theorem SharesStored.securityLevel (shared : SharesStored g h) :
    h.securityLevel = g.securityLevel := congrArg SecData.securityLevel shared.secData

theorem SharesStored.securityKeyType (shared : SharesStored g h) :
    h.securityKeyType = g.securityKeyType := congrArg SecData.securityKeyType shared.secData

/-- The flag of the receive window shows in an extended control octet unless the level covers
it. -/
theorem extOctet_window : ∀ (level : UInt8) (individual rx rx' : Bool),
    extOctet level individual rx false = extOctet level individual rx' false ↔
      (level &&& 0x08 = 0 → rx = rx') :=
  forall_uint8 (by decide +kernel)

theorem sentExtNwkFc_window (shared : SharesStored g h) (app : g.addr.appId = appIdSrcId)
    {payload : List UInt8} (other : payload.head? ≠ some cmdCommissioningSuccess) :
    sentExtNwkFc h payload = sentExtNwkFc g payload ↔
      (g.securityLevel &&& 0x08 = 0 → (h.rxAfterTx ≠ 0 ↔ g.rxAfterTx ≠ 0)) := by
  have app' : h.addr.appId = appIdSrcId := shared.addr ▸ app
  have same : individualKey h = individualKey g := by
    unfold individualKey
    rw [shared.securityKeyType]
  rw [sentExtNwkFc_eq app', sentExtNwkFc_eq app, shared.securityLevel, same,
    decide_eq_false other, extOctet_window, decide_eq_decide]

def Flag (value : UInt8) : Prop := value = 0 ∨ value = 1

theorem Flag.ne_zero {value : UInt8} (flag : Flag value) : value ≠ 0 ↔ value = 1 := by
  rcases flag with rfl | rfl <;> decide

theorem Flag.eq_iff {value value' : UInt8} (flag : Flag value) (flag' : Flag value') :
    value = value' ↔ (value = 1 ↔ value' = 1) := by
  rcases flag with rfl | rfl <;> rcases flag' with rfl | rfl <;> decide

theorem dataNwkFc_of_same (auto : h.autoCommissioning = g.autoCommissioning) (ext : ExtFcPresent h ↔ ExtFcPresent g) :
    dataNwkFc h = dataNwkFc g := by
  unfold dataNwkFc
  unfold ExtFcPresent at ext
  rw [auto]
  simp only [ext]

theorem controlOctets_iff (shared : SharesStored g h) (app : g.addr.appId = appIdSrcId)
    (flag : Flag h.rxAfterTx) (flag' : Flag g.rxAfterTx) {payload : List UInt8}
    (other : payload.head? ≠ some cmdCommissioningSuccess) :
    controlOctets nwkFcFrameTypeData payload.head? h =
        controlOctets nwkFcFrameTypeData payload.head? g ↔
      h.autoCommissioning = g.autoCommissioning ∧
        (g.securityLevel &&& 0x08 = 0 → h.rxAfterTx = g.rxAfterTx) := by
  have window := sentExtNwkFc_window shared app other
  rw [flag.ne_zero, flag'.ne_zero, ← flag.eq_iff flag'] at window
  unfold controlOctets
  rw [if_pos rfl, if_pos rfl, sentExtNwkFc_head, sentExtNwkFc_head]
  constructor
  · intro same
    obtain ⟨control, rest⟩ := List.cons.inj same
    obtain ⟨-, -, auto, ext⟩ := dataNwkFc_fields h
    obtain ⟨-, -, auto', ext'⟩ := dataNwkFc_fields g
    rw [control] at auto ext
    refine ⟨Bool.eq_iff_iff.mpr (auto.symm.trans auto'), fun uncovered => ?_⟩
    have present : ExtFcPresent h ↔ ExtFcPresent g := ext.symm.trans ext'
    by_cases shown : ExtFcPresent g
    · rw [if_pos shown, if_pos (present.mpr shown)] at rest
      exact window.mp (List.cons.inj rest).1 uncovered
    · have absent : ¬ ExtFcPresent h := fun shown' => shown (present.mp shown')
      refine (flag.eq_iff flag').mpr ⟨fun set => absurd (Or.inr set) absent,
        fun set => absurd (Or.inr set) shown⟩
  · rintro ⟨auto, flags⟩
    have ext : ExtFcPresent h ↔ ExtFcPresent g := by
      unfold ExtFcPresent
      rw [shared.securityLevel]
      by_cases level : securityLevelNone < g.securityLevel
      · exact iff_of_true (Or.inl level) (Or.inl level)
      · have none : g.securityLevel = 0 := by
          have bound : g.securityLevel ≤ 0 := UInt8.not_lt.mp level
          exact UInt8.le_zero_iff.mp bound
        rw [flags (by rw [none]; decide)]
    have fields : (if ExtFcPresent h then [sentExtNwkFc h payload] else []) =
        if ExtFcPresent g then [sentExtNwkFc g payload] else [] := by
      rw [window.mpr flags]
      simp only [ext]
    rw [dataNwkFc_of_same auto ext, fields]

def sourceAndCounter (gpd : EmberGpd) : List UInt8 :=
  copy4Bytes gpd.addr.srcId ++
    (if Secured gpd.securityLevel then copy4Bytes gpd.securityFrameCounter else [])

theorem authData_eq (gpd : EmberGpd) (payload : List UInt8) : authData gpd payload =
    controlOctets nwkFcFrameTypeData payload.head? gpd ++ sourceAndCounter gpd := by
  unfold authData dataFields controlOctets sourceAndCounter
  rw [if_pos rfl, sentExtNwkFc_head]
  simp only [List.cons_append, List.append_assoc]

theorem sourceAndCounter_shared (shared : SharesStored g h) :
    sourceAndCounter h = sourceAndCounter g := by
  unfold sourceAndCounter
  rw [shared.addr, shared.securityLevel, shared.counter]

theorem dataBody_eq (ccm : Ccm) (key : Key) (nonce payload : List UInt8) (gpd : EmberGpd) :
    dataBody ccm key nonce payload gpd = macHeader (sequenceNumber gpd) ++ authData gpd payload ++
      (sentPayload ccm key nonce payload gpd ++ sentMic ccm key nonce payload gpd) := by
  simp only [dataBody, sentHeader, authData, List.append_assoc]

theorem withLength_injective {body body' : List UInt8} (same : withLength body = withLength body') :
    body = body' := (List.cons.inj same).2

/-- The frames agree exactly when their control octets and what the CCM made of them do. -/
theorem built_iff (ccm : Ccm) (key key' : Key) (nonce nonce' : List UInt8)
    (shared : SharesStored g h) (payload : List UInt8) :
    built ccm key' nonce' nwkFcFrameTypeData payload h =
        built ccm key nonce nwkFcFrameTypeData payload g ↔
      controlOctets nwkFcFrameTypeData payload.head? h =
          controlOctets nwkFcFrameTypeData payload.head? g ∧
        sentPayload ccm key' nonce' payload g ++ sentMic ccm key' nonce' payload g =
          sentPayload ccm key nonce payload g ++ sentMic ccm key nonce payload g := by
  have sequence : sequenceNumber h = sequenceNumber g := by
    unfold sequenceNumber
    rw [shared.counter]
  have sealedAs (control : controlOctets nwkFcFrameTypeData payload.head? h =
      controlOctets nwkFcFrameTypeData payload.head? g) :
      authData h payload = authData g payload ∧
        sentPayload ccm key' nonce' payload h ++ sentMic ccm key' nonce' payload h =
          sentPayload ccm key' nonce' payload g ++ sentMic ccm key' nonce' payload g := by
    have auth : authData h payload = authData g payload := by
      rw [authData_eq, authData_eq, control, sourceAndCounter_shared shared]
    unfold sentPayload sentMic
    rw [auth, shared.securityLevel]
    exact ⟨rfl, rfl⟩
  constructor
  · intro same
    have control := congrArg frameControl same
    rw [frameControl_built, frameControl_built] at control
    obtain ⟨auth, secured⟩ := sealedAs control
    unfold FrameLayout.built at same
    rw [if_pos rfl, if_pos rfl] at same
    have body := withLength_injective same
    rw [dataBody_eq, dataBody_eq, sequence, auth, secured] at body
    exact ⟨control, List.append_cancel_left body⟩
  · rintro ⟨control, same⟩
    obtain ⟨auth, secured⟩ := sealedAs control
    unfold FrameLayout.built
    rw [if_pos rfl, if_pos rfl, dataBody_eq, dataBody_eq, sequence, auth, secured, same]

theorem unsecured_sealed (ccm : Ccm) (key : Key) (nonce payload : List UInt8)
    (plain : ¬ Secured g.securityLevel) :
    sentPayload ccm key nonce payload g ++ sentMic ccm key nonce payload g = payload := by
  have same := dataBody_of_not_secured ccm key nonce plain payload
  unfold dataBody at same
  rw [List.append_assoc] at same
  exact List.append_cancel_left same

end

section
variable {b : Build} {s : Device}

theorem flag_booted (b : Build) : Flag (if b.rxCapability then 1 else 0) := by
  cases b.rxCapability with
  | true => exact Or.inr rfl
  | false => exact Or.inl rfl

/-- `rxAfterTx` is only ever set or cleared. -/
theorem flag_step {d s' : Device} (step : Step b d s s') (flag : Flag s.gpdNode.rxAfterTx) :
    Flag s'.gpdNode.rxAfterTx := by
  cases step with
  | radio step =>
    exact (step.kept rxAfterTx_kept).symm ▸ flag
  | compose frameType payload =>
    obtain ⟨c, gpd⟩ := compose_gpdNode b frameType payload s
    rw [gpd]
    exact flag
  | sweepFlags => exact Or.inl rfl
  | windowFlags => exact Or.inr rfl
  | descriptionFlag last =>
    cases last with
    | true => exact Or.inr rfl
    | false => exact Or.inl rfl
  | loadDefaults => exact flag_booted b
  | _ => exact flag

structure Rebooted (b : Build) (s p : Device) : Prop where
  secData : p.gpdNode.secData = s.gpdNode.secData
  counter : p.gpdNode.securityFrameCounter = s.gpdNode.securityFrameCounter
  autoCommissioning : p.gpdNode.autoCommissioning = false
  rxAfterTx : p.gpdNode.rxAfterTx = if b.rxCapability then 1 else 0
  ccmKey : p.ccmKey = s.gpdNode.securityKey
  nonceTx : load p.nonceTx 8 4 = copy4Bytes s.gpdNode.securityFrameCounter

theorem powerUp_flags (b : Build) (log : List Event) :
    (powerUp b log).gpdNode.autoCommissioning = false ∧
      (powerUp b log).gpdNode.rxAfterTx = (if b.rxCapability then 1 else 0) ∧
      (powerUp b log).ccmKey = (powerUp b log).gpdNode.securityKey := by
  obtain ⟨same, -⟩ := nvLoad_keeps (emberGpdLoadGpdDefaultConfiguration b (ramCleared log))
  have auto := congrArg EmberGpd.autoCommissioning same
  have window := congrArg EmberGpd.rxAfterTx same
  exact ⟨auto, window, rfl⟩

theorem powerUp_nonceTx (b : Build) (log : List Event) : load (powerUp b log).nonceTx 8 4 =
    copy4Bytes (powerUp b log).gpdNode.securityFrameCounter := by
  unfold powerUp emberGpdInit emberGpdSecurityInit
  exact load_store_same _ 8 (copy4Bytes _)

theorem rebooted_store (b : Build) (s : Device) : Rebooted b (emberGpdStoreSecDataToNV s)
    (powerUp b (emberGpdStoreSecDataToNV s).log) := by
  obtain ⟨auto, window, context⟩ := powerUp_flags b (emberGpdStoreSecDataToNV s).log
  have flashed : flash (emberGpdStoreSecDataToNV s).log =
      some (image (shadowOf s.gpdNode s.gpdNvData)) := rfl
  have same (i : ℕ) (hi : i < 32) : store (fun _ => 0) 0
      (image (shadowOf s.gpdNode s.gpdNvData)).toList i = shadowOf s.gpdNode s.gpdNvData i :=
    store_image _ _ i hi
  have data := (secDataOf_congr same).trans (secDataOf_shadow s.gpdNode s.gpdNvData)
  have counter := (counterOf_congr same).trans (counterOf_shadow s.gpdNode s.gpdNvData)
  obtain ⟨gpd, -, -⟩ := powerUp_loaded b (emberGpdStoreSecDataToNV s).log
  rw [loaded_of_image b flashed] at gpd
  generalize store (fun _ => (0 : UInt8)) 0 (image (shadowOf s.gpdNode s.gpdNvData)).toList = shadow
    at gpd data counter
  have booted : (powerUp b (emberGpdStoreSecDataToNV s).log).gpdNode.secData =
      s.gpdNode.secData := by
    rw [gpd]
    exact data
  have counted : (powerUp b (emberGpdStoreSecDataToNV s).log).gpdNode.securityFrameCounter =
      s.gpdNode.securityFrameCounter := by
    rw [gpd]
    exact counter
  refine ⟨booted, counted, auto, window, ?_, ?_⟩
  · rw [context]
    exact congrArg SecData.securityKey booted
  · rw [powerUp_nonceTx, counted]
    rfl

theorem flag_life (b : Build) (log : List Event) (actions : List Action) :
    Flag (life b log actions).gpdNode.rxAfterTx := by
  refine run_preserves b (I := fun s => Flag s.gpdNode.rxAfterTx)
    (fun _ _ _ step flag => flag_step step flag) actions ?_
  rw [(powerUp_flags b log).2.1]
  exact flag_booted b

theorem Rebooted.sharesStored {p : Device} (rebooted : Rebooted b s p)
    (addr : p.gpdNode.addr = s.gpdNode.addr) (randoms : List UInt32) :
    SharesStored (toggleNode b randoms s) (toggleNode b randoms p) where
  secData := congrArg (fun data : SecData =>
    { data with gpdState := appStateOperationalCommandRequest }) rebooted.secData
  counter := by
    unfold toggleNode nextCounter
    simp only [rebooted.counter]
  addr := addr

theorem nonce_congr {f g : Cells UInt8} (wired : ∀ i, i < 8 ∨ 12 ≤ i → f i = g i)
    (counter : load f 8 4 = load g 8 4) : nonce f = nonce g := by
  have front : load f 0 8 = load g 0 8 := load_congr (fun i _ below => wired i (Or.inl below))
  have last : load f 12 1 = load g 12 1 := load_congr (fun i above _ => wired i (Or.inr above))
  change load f 0 (8 + 4 + 1) = load g 0 (8 + 4 + 1)
  rw [load_add, load_add, load_add, load_add, front, counter, last]

/-- The nonce of the toggle is the same after a boot, by either mode. -/
theorem Rebooted.toggleNonce {p : Device} (rebooted : Rebooted b s p) (h : Configured b s)
    (h' : Configured b p) (context : ContextAsBooted b s) :
    PowerCycle.toggleNonce b p = PowerCycle.toggleNonce b s := by
  have wired := counterCleared_eq_iff.mp (congrArg (fun w => w.2.2.2.1) (h'.wired.trans h.wired.symm))
  unfold PowerCycle.toggleNonce
  cases sequence : b.macSeq with
  | incremental =>
    rw [rebooted.counter]
    exact ReceiveOutcome.nonce_store_congr wired _
  | random => exact nonce_congr wired (rebooted.nonceTx.trans (context.nonceTx sequence).symm)

/-- A device that has just stored, and what it stored. -/
theorem JustStored.spec (stored : JustStored b s) : Rebooted b s (powerUp b s.log) ∧
    Configured b s ∧ Flag s.gpdNode.rxAfterTx := by
  obtain ⟨log, actions, air, randoms, descriptions, -, rfl⟩ := stored
  refine ⟨?_, life_configured b log _, flag_life b log _⟩
  have last : life b log (actions ++ [.stack air randoms descriptions]) =
      emberGpdStoreSecDataToNV (stateSwitch b { life b log actions with
        air := air, randoms := randoms, descriptions := descriptions }) := by
    unfold life
    rw [List.foldl_append]
    rfl
  rw [last]
  exact rebooted_store b _

section
variable (air : List (List (List UInt8))) (randoms : List UInt32)
  (descriptions : List (List UInt8 × Bool))

/-- The toggles agree exactly when the flags are those of a boot and the CCM makes the same of
either context. -/
theorem JustStored.same_iff (stored : JustStored b s) :
    nextToggle b air randoms descriptions (powerUp b s.log) =
      nextToggle b air randoms descriptions s ↔ FlagsAsBooted b s ∧
        sentPayload b.ccm s.gpdNode.securityKey (toggleNonce b (powerUp b s.log)) [cmdToggle]
            (toggleNode b randoms s) ++
          sentMic b.ccm s.gpdNode.securityKey (toggleNonce b (powerUp b s.log)) [cmdToggle]
            (toggleNode b randoms s) =
        sentPayload b.ccm s.ccmKey (toggleNonce b s) [cmdToggle] (toggleNode b randoms s) ++
          sentMic b.ccm s.ccmKey (toggleNonce b s) [cmdToggle] (toggleNode b randoms s) := by
  obtain ⟨rebooted, configured, flag⟩ := stored.spec
  have configured' := powerUp_configured b s.log
  have shared := rebooted.sharesStored (configured'.addr.trans configured.addr.symm) randoms
  have app : (toggleNode b randoms s).addr.appId = appIdSrcId :=
    congrArg EmberGpdAddr.appId configured.addr
  have booted := flag_booted b
  rw [← rebooted.rxAfterTx] at booted
  have toggle : ([cmdToggle] : List UInt8).head? ≠ some cmdCommissioningSuccess := by decide
  rw [nextToggle_eq, nextToggle_eq, Option.some_inj, built_iff _ _ _ _ _ shared,
    controlOctets_iff shared app booted flag toggle, rebooted.ccmKey]
  refine and_congr_left' ⟨?_, ?_⟩
  · rintro ⟨auto, window⟩
    exact ⟨auto.symm.trans rebooted.autoCommissioning,
      fun uncovered => (window uncovered).symm.trans rebooted.rxAfterTx⟩
  · rintro ⟨auto, window⟩
    exact ⟨rebooted.autoCommissioning.trans auto.symm,
      fun uncovered => rebooted.rxAfterTx.trans (window uncovered).symm⟩

/-- The next toggle is the same after a power cycle when RAM holds what a boot leaves there, and
only when the flags do. -/
theorem toggle_survives (b : Build) (s : Device) (stored : JustStored b s) :
    (FlagsAsBooted b s → (Secured s.gpdNode.securityLevel → ContextAsBooted b s) →
      nextToggle b air randoms descriptions (powerUp b s.log) =
        nextToggle b air randoms descriptions s) ∧
      (nextToggle b air randoms descriptions (powerUp b s.log) =
        nextToggle b air randoms descriptions s → FlagsAsBooted b s) := by
  have same := stored.same_iff air randoms descriptions
  refine ⟨fun flags context => same.mpr ⟨flags, ?_⟩, fun survives => (same.mp survives).1⟩
  by_cases secured : Secured s.gpdNode.securityLevel
  · obtain ⟨rebooted, configured, -⟩ := stored.spec
    rw [(context secured).ccmKey,
      rebooted.toggleNonce configured (powerUp_configured b s.log) (context secured)]
  · have plain : ¬ Secured (toggleNode b randoms s).securityLevel := secured
    rw [unsecured_sealed _ _ _ _ plain, unsecured_sealed _ _ _ _ plain]

end

end

def toggled : Device := life (shipped (AesCipher.aesCcm tagSize)) []
  ([.command .send] ++ [.stack [] [] []])

theorem toggled_survives : toggled.gpdNode.gpdState = appStateOperational ∧
    nextToggle (shipped (AesCipher.aesCcm tagSize)) [] [] []
        (powerUp (shipped (AesCipher.aesCcm tagSize)) toggled.log) =
      nextToggle (shipped (AesCipher.aesCcm tagSize)) [] [] [] toggled := by
  have stored : JustStored (shipped (AesCipher.aesCcm tagSize)) toggled :=
    ⟨[], [.command .send], [], [], [], .fresh, rfl⟩
  refine ⟨by decide +kernel, (toggle_survives [] [] [] _ toggled stored).1 ?_ ?_⟩
  · exact ⟨by decide +kernel, fun _ => by decide +kernel⟩
  · exact fun _ => ⟨by decide +kernel, fun random => nomatch random⟩

def overtaken : Device := life (shipped (AesCipher.aesCcm tagSize)) []
  ([.command .commission, .stack [] [] [], .command .send] ++ [.stack [] [] []])

theorem overtaken_toggle_changes : ∃ s, JustStored (shipped (AesCipher.aesCcm tagSize)) s ∧
    s.gpdNode.gpdState = appStateOperational ∧
    nextToggle (shipped (AesCipher.aesCcm tagSize)) [] [] []
        (powerUp (shipped (AesCipher.aesCcm tagSize)) s.log) ≠
      nextToggle (shipped (AesCipher.aesCcm tagSize)) [] [] [] s := by
  have stored : JustStored (shipped (AesCipher.aesCcm tagSize)) overtaken :=
    ⟨[], [.command .commission, .stack [] [] [], .command .send], [], [], [], .fresh, rfl⟩
  refine ⟨overtaken, stored, by decide +kernel, fun same => ?_⟩
  have booted := ((stored.same_iff [] [] []).mp same).1
  exact absurd booted.autoCommissioning (by decide +kernel)

end GreenPower.PowerCycle
