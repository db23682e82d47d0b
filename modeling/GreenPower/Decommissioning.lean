import GreenPower.DeviceTwinRuns
import GreenPower.PowerCycle

set_option autoImplicit false

/-!
The device after `emberGpdAfPluginDeCommission` beside one that boots from a chip with the
default configuration and the same frame counter. The loader of the defaults was written for
the boot and leaves alone what the boot gets from cleared memory and from `emberGpdSecurityInit`.
-/
namespace GreenPower.Decommissioning
open MemoryArray ByteWord BuildOptions DeviceState Security NonVolatile FrameBuild IncomingCommand
  IncomingMessage ReceiveOutcome SendReceive Commissioning GpdTask DeviceSteps CrashConsistency
  AttemptIndependence CompleteFrame ReceiveBounds StaleBytes DeviceTwins
open AttemptLockstep (ownAddr rested counterCleared counterCleared_eq_iff)
open CommandEffects (channelConfigFrame)

def defaultNode (b : Build) : EmberGpd :=
  (emberGpdLoadGpdDefaultConfiguration b (ramCleared [])).gpdNode

/-- What the first boot stores on a blank chip, with another frame counter. -/
def freshImage (b : Build) (frameCounter : UInt32) : NvImage :=
  image (shadowOf { defaultNode b with securityFrameCounter := frameCounter } (fun _ => 0))

def factoryFresh (b : Build) (frameCounter : UInt32) : Device :=
  powerUp b [.flashSave .earlierLife (freshImage b frameCounter)]

/-- The core as the loader of the defaults leaves it, with nothing ready in the environment. -/
def reset (b : Build) (s : Device) : Device := core (rested (emberGpdLoadGpdDefaultConfiguration b s))

section
variable (b : Build) (c : UInt32)

theorem freshImage_loaded :
    secDataOf (store (fun _ => 0) 0 (freshImage b c).toList) = (defaultNode b).secData ∧
      counterOf (store (fun _ => 0) 0 (freshImage b c).toList) = c := by
  have same : ∀ i < 32, store (fun _ => 0) 0 (freshImage b c).toList i =
      shadowOf { defaultNode b with securityFrameCounter := c } (fun _ => 0) i :=
    fun i hi => store_image _ _ i hi
  exact ⟨(secDataOf_congr same).trans (secDataOf_shadow _ _),
    (counterOf_congr same).trans (counterOf_shadow _ _)⟩

theorem factoryFresh_gpdNode : (factoryFresh b c).gpdNode =
    { defaultNode b with securityFrameCounter := c } := by
  obtain ⟨secData, counter⟩ := freshImage_loaded b c
  have up := (powerUp_loaded b [.flashSave .earlierLife (freshImage b c)]).1
  rw [loaded_of_image b (rfl : flash [.flashSave .earlierLife (freshImage b c)] = _), secData,
    counter] at up
  exact up

theorem factoryFresh_ccmKey : (factoryFresh b c).ccmKey = b.key := by
  have gpd := factoryFresh_gpdNode b c
  exact congrArg EmberGpd.securityKey gpd

theorem readWord_store (f : Cells UInt8) (value : UInt32) :
    readWord (store f 8 (copy4Bytes value)) 8 = value := by
  unfold readWord
  have loaded := load_store_same f 8 (copy4Bytes value)
  rw [copy4Bytes_length] at loaded
  rw [loaded, word32_copy4Bytes]

theorem factoryFresh_nonces : readWord (factoryFresh b c).nonceTx 8 = c ∧
    readWord (factoryFresh b c).nonceRx 8 = c := by
  have counter : (factoryFresh b c).gpdNode.securityFrameCounter = c :=
    congrArg EmberGpd.securityFrameCounter (factoryFresh_gpdNode b c)
  refine ⟨Eq.trans ?_ counter, Eq.trans ?_ counter⟩
  · exact readWord_store _ _
  · exact readWord_store _ _

theorem factoryFresh_rest : (factoryFresh b c).chReqSubstate = chReqOnAllChannels ∧
    (factoryFresh b c).applicationDescriptionState = appDescStepSendCommissioningReq ∧
    (factoryFresh b c).air = [] ∧ (factoryFresh b c).randoms = [] ∧
    (factoryFresh b c).descriptions = [] := by
  have up := loaded_of_image b (rfl : flash [.flashSave .earlierLife (freshImage b c)] = _)
  exact ⟨congrArg Device.chReqSubstate up, congrArg Device.applicationDescriptionState up,
    congrArg Device.air up, congrArg Device.randoms up, congrArg Device.descriptions up⟩

end

/-- `s` is as a boot would set it up, where the loader of the defaults does not. -/
structure Pristine (b : Build) (s : Device) : Prop where
  autoCommissioning : s.gpdNode.autoCommissioning = false
  uncounted : s.gpdNode.currentCommReq = 0
  sweeps : s.chReqSubstate = chReqOnAllChannels
  undescribed : s.applicationDescriptionState = appDescStepSendCommissioningReq
  key : s.ccmKey = b.key
  nonceTx : readWord s.nonceTx 8 = s.gpdNode.securityFrameCounter
  nonceRx : readWord s.nonceRx 8 = s.gpdNode.securityFrameCounter

theorem nonce_eq {f g : Cells UInt8} (rest : counterCleared f = counterCleared g)
    (counter : readWord f 8 = readWord g 8) : f = g := by
  have octets : load f 8 4 = load g 8 4 := by
    rw [← copy4Bytes_word32 (load f 8 4) (load_length _ _ _),
      ← copy4Bytes_word32 (load g 8 4) (load_length _ _ _)]
    exact congrArg copy4Bytes counter
  funext i
  by_cases out : i < 8 ∨ 12 ≤ i
  · exact counterCleared_eq_iff.mp rest i out
  · have inside (h : Cells UInt8) : (load h 8 4)[i - 8]? = some (h i) := by
      have short : i - 8 < (load h 8 4).length := by
        rw [load_length]
        omega
      rw [List.getElem?_eq_getElem short, load_get, Nat.add_sub_cancel' (by omega)]
    have same := inside f
    rw [octets, inside g] at same
    exact (Option.some.inj same).symm

section
variable {b : Build} {s : Device}

theorem Pristine.reset (h : Pristine b s) (configured : Configured b s) :
    reset b s = core (factoryFresh b s.gpdNode.securityFrameCounter) := by
  have fresh := powerUp_configured b
    [.flashSave .earlierLife (freshImage b s.gpdNode.securityFrameCounter)]
  have wired := configured.wired.trans fresh.wired.symm
  have gpd := factoryFresh_gpdNode b s.gpdNode.securityFrameCounter
  have key := factoryFresh_ccmKey b s.gpdNode.securityFrameCounter
  obtain ⟨tx, rx⟩ := factoryFresh_nonces b s.gpdNode.securityFrameCounter
  obtain ⟨sweeps, undescribed, air, randoms, descriptions⟩ :=
    factoryFresh_rest b s.gpdNode.securityFrameCounter
  have nonceTx := nonce_eq (congrArg (fun w => w.2.2.2.1) wired) (h.nonceTx.trans tx.symm)
  have nonceRx := nonce_eq (congrArg (fun w => w.2.2.2.2) wired) (h.nonceRx.trans rx.symm)
  have node : (emberGpdLoadGpdDefaultConfiguration b s).gpdNode =
      { defaultNode b with securityFrameCounter := s.gpdNode.securityFrameCounter } := by
    have addr := configured.addr
    unfold defaultNode emberGpdLoadGpdDefaultConfiguration ramCleared zeroGpd
    simp only [addr, h.autoCommissioning, h.uncounted]
    rfl
  have core_eq (t : Device) : core t = Device.mk t.gpdNode t.nonceTx t.nonceRx t.ccmKey (fun _ => 0)
      (.untouched (fun _ => 0)) (.untouched (fun _ => 0)) t.chReqSubstate
      t.applicationDescriptionState t.air t.randoms t.descriptions [] := rfl
  change core (rested (emberGpdLoadGpdDefaultConfiguration b s)) = _
  rw [core_eq, core_eq, gpd, key, sweeps, undescribed, air, randoms, descriptions]
  change Device.mk (emberGpdLoadGpdDefaultConfiguration b s).gpdNode s.nonceTx s.nonceRx s.ccmKey _ _ _
    s.chReqSubstate s.applicationDescriptionState [] [] [] [] = _
  rw [node, nonceTx, nonceRx, h.key, h.sweeps, h.undescribed]

/-- The packet brings no Commissioning Reply to a device with the default key and this nonce. -/
def NoReply (b : Build) (nonceRx : Cells UInt8) (packet : List UInt8) : Prop :=
  Complete packet ∧ (HandedOver (ownAddr b) (heard packet) →
    securedBuffer b b.key nonceRx (heard packet) (payloadFinger (heard packet)) ≠
      cmdCommissioningReply)

instance (b : Build) (nonceRx : Cells UInt8) (packet : List UInt8) :
    Decidable (NoReply b nonceRx packet) := by
  unfold NoReply
  infer_instance

/-- Only a reply reaches what the reset leaves alone. -/
theorem commandReaction_of_noReply (own : EmberGpdAddr) (nonceRx : Cells UInt8)
    {cell : Cells UInt8} {start : ℕ} (other : cell start ≠ cmdCommissioningReply) :
    (commandReaction b own nonceRx cell start = .ignored ∨
      ∃ channel, commandReaction b own nonceRx cell start = .channelConfig channel) ∧
      commandNonce b nonceRx cell start = nonceRx := by
  refine ⟨?_, if_neg (fun all => other all.1)⟩
  unfold commandReaction
  by_cases config : cell start = cmdChannelConfig
  · rw [if_pos config]
    exact Or.inr ⟨_, rfl⟩
  · rw [if_neg config, if_neg other]
    exact Or.inl rfl

theorem reactionTo_of_noReply (own : s.gpdNode.addr = ownAddr b) (key : s.ccmKey = b.key)
    {packet : List UInt8} (silent : NoReply b s.nonceRx packet) :
    (reactionTo b (store s.rxMpdu.cell 0 packet) s = .ignored ∨
      ∃ channel, reactionTo b (store s.rxMpdu.cell 0 packet) s = .channelConfig channel) ∧
      nonceAfter b (store s.rxMpdu.cell 0 packet) s = s.nonceRx := by
  obtain ⟨complete, other⟩ := silent
  have agree : ∀ i < frameEnd (heard packet), heard packet i = store s.rxMpdu.cell 0 packet i :=
    fun i inside => heard_agree s.rxMpdu.cell packet i (lt_of_lt_of_le inside complete.2)
  have same := sameFrame_of_agree complete.1 agree
  have back := same.symm.agree (same.1 ▸ complete.1)
  unfold reactionTo nonceAfter
  by_cases handed : HandedOver s.gpdNode.addr (store s.rxMpdu.cell 0 packet)
  · have handed' := handedOver_of_agree handed back
    have secured := securedBuffer_agree b s.ccmKey s.nonceRx handed' complete.1 agree
    have finger := (sameHeader_of_handedOver handed' agree).payloadFinger
    have inside : payloadFinger (heard packet) < frameEnd (heard packet) :=
      lt_of_le_of_lt (Nat.le_add_right _ _) (handedOver_inside handed')
    have command := other (own ▸ handed')
    rw [← key, secured _ inside, finger] at command
    rw [if_pos handed, if_pos handed]
    exact commandReaction_of_noReply _ _ command
  · rw [if_neg handed, if_neg handed]
    exact ⟨Or.inl rfl, rfl⟩

structure Undisturbed (b : Build) (s s' : Device) : Prop where
  reset : reset b s' = reset b s
  addr : s'.gpdNode.addr = s.gpdNode.addr

theorem Undisturbed.context {s' : Device} (h : Undisturbed b s s') :
    s'.ccmKey = s.ccmKey ∧ s'.nonceRx = s.nonceRx := by
  have key := congrArg Device.ccmKey h.reset
  have nonce := congrArg Device.nonceRx h.reset
  exact ⟨key, nonce⟩

theorem undisturbed_railCbGeneric (own : s.gpdNode.addr = ownAddr b) (key : s.ccmKey = b.key)
    {packet : List UInt8} (silent : NoReply b s.nonceRx packet) :
    Undisturbed b s (railCbGeneric b packet s) := by
  obtain ⟨reaction, counter⟩ := reactionTo_of_noReply own key silent
  have after := core_railCbGeneric b packet s
  rw [counter] at after
  refine ⟨?_, ?_⟩
  · change Decommissioning.reset b (core (railCbGeneric b packet s)) = _
    rcases reaction with ignored | ⟨channel, config⟩
    · rw [after, ignored]
      rfl
    · rw [after, config]
      rfl
  · change (core (railCbGeneric b packet s)).gpdNode.addr = _
    rcases reaction with ignored | ⟨channel, config⟩
    · rw [after, ignored]
      rfl
    · rw [after, config]
      rfl

theorem undisturbed_window (window : List (List UInt8)) (own : s.gpdNode.addr = ownAddr b)
    (key : s.ccmKey = b.key) (silent : ∀ packet ∈ window, NoReply b s.nonceRx packet) :
    Undisturbed b s (window.foldl (fun s packet => railCbGeneric b packet s) s) := by
  induction window generalizing s with
  | nil => exact ⟨rfl, rfl⟩
  | cons packet window ih =>
    have first := undisturbed_railCbGeneric own key (silent packet List.mem_cons_self)
    obtain ⟨same, nonce⟩ := first.context
    have rest := ih (first.addr.trans own) (same.trans key) (fun p hp => by
      rw [nonce]
      exact silent p (List.mem_cons_of_mem _ hp))
    exact ⟨rest.reset.trans first.reset, rest.addr.trans first.addr⟩

theorem reset_scheduledReceive (own : s.gpdNode.addr = ownAddr b) (key : s.ccmKey = b.key)
    (silent : ∀ window ∈ s.air.head?, ∀ packet ∈ window, NoReply b s.nonceRx packet)
    (channel : UInt8) : reset b (emberAfGpdScheduledReceive b channel s) = reset b s := by
  cases air : s.air with
  | nil =>
    rw [AttemptLockstep.scheduledReceive_nil air]
    rfl
  | cons window rest =>
    rw [AttemptLockstep.scheduledReceive_cons air]
    have heard := undisturbed_window
      (s := { s.record (.startRx channel (nonce s.nonceRx)) with air := rest }) window own key
      (silent window (by rw [air]; rfl))
    exact heard.reset

theorem reset_startTx (own : s.gpdNode.addr = ownAddr b) (key : s.ccmKey = b.key)
    (silent : s.gpdNode.rxAfterTx ≠ 0 → ∀ window ∈ s.air.head?, ∀ packet ∈ window,
      NoReply b s.nonceRx packet) : reset b (startTx b s) = reset b s := by
  unfold startTx
  simp only
  split_ifs with listens
  · exact reset_scheduledReceive (s := s.record
      (.startTx s.gpdNode.skipCca s.gpdNode.channel s.gpdNode.securityFrameCounter)) own key
      (silent listens) _
  · rfl

/-- Nothing is left that the reset does not reach: no flag, no count and no step of an attempt,
the default key in the CCM context, without stored counters the nonces of this very frame, and
no Commissioning Reply in the window of the frame. -/
structure Cleared (b : Build) (s : Device) : Prop where
  autoCommissioning : s.gpdNode.autoCommissioning = false
  uncounted : s.gpdNode.currentCommReq = 0
  sweeps : s.chReqSubstate = chReqOnAllChannels
  undescribed : s.applicationDescriptionState = appDescStepSendCommissioningReq
  key : s.ccmKey = b.key
  nonces : b.macSeq = .random → ∀ nonce ∈ [s.nonceTx, s.nonceRx],
    readWord nonce 8 = (updateFrameCounter b s).gpdNode.securityFrameCounter
  silent : s.gpdNode.rxAfterTx ≠ 0 → ∀ window ∈ s.air.head?, ∀ packet ∈ window,
    NoReply b (updateFrameCounter b s).nonceRx packet

theorem Cleared.pristine (h : Cleared b s) : Pristine b (updateFrameCounter b s) := by
  cases mode : b.macSeq with
  | random =>
    have nonces := h.nonces mode
    rw [updateFrameCounter_random mode] at nonces ⊢
    exact ⟨h.autoCommissioning, h.uncounted, h.sweeps, h.undescribed, h.key,
      nonces _ List.mem_cons_self, nonces _ (List.mem_cons_of_mem _ List.mem_cons_self)⟩
  | incremental =>
    rw [updateFrameCounter_incremental mode]
    exact ⟨h.autoCommissioning, h.uncounted, h.sweeps, h.undescribed, h.key, readWord_store _ _,
      readWord_store _ _⟩

theorem updateFrameCounter_keeps (b : Build) (s : Device) :
    (updateFrameCounter b s).gpdNode.addr = s.gpdNode.addr ∧
      (updateFrameCounter b s).gpdNode.rxAfterTx = s.gpdNode.rxAfterTx ∧
      (updateFrameCounter b s).air = s.air := by
  cases mode : b.macSeq with
  | random =>
    rw [updateFrameCounter_random mode]
    exact ⟨rfl, rfl, rfl⟩
  | incremental =>
    rw [updateFrameCounter_incremental mode]
    exact ⟨rfl, rfl, rfl⟩

theorem Cleared.sent (h : Cleared b s) (own : s.gpdNode.addr = ownAddr b) :
    reset b (emberAfGpdfSend b nwkFcFrameTypeData [cmdDecommissioning] cmdResendNumber s) =
      reset b (updateFrameCounter b s) := by
  obtain ⟨addr, listens, air⟩ := updateFrameCounter_keeps b s
  have key := h.pristine.key
  have silent := h.silent
  rw [← listens, ← air] at silent
  change reset b (startTx b (writeTxFifo b nwkFcFrameTypeData [cmdDecommissioning]
    (updateFrameCounter b s))) = _
  obtain ⟨mpdu, frame, written⟩ := writeTxFifo_eq b nwkFcFrameTypeData [cmdDecommissioning]
    (updateFrameCounter b s)
  have started := reset_startTx (b := b) (s := writeTxFifo b nwkFcFrameTypeData
    [cmdDecommissioning] (updateFrameCounter b s))
  rw [written] at started ⊢
  exact started (addr.trans own) key silent

theorem Cleared.core_eq (h : Cleared b s) (configured : Configured b s) :
    core (rested (emberGpdAfPluginDeCommission b s)) =
      core (factoryFresh b (emberGpdAfPluginDeCommission b s).gpdNode.securityFrameCounter) := by
  have sent := h.sent configured.addr
  have same := (AttemptLockstep.updateFrameCounter_hidden b s).settings
  have kept : Configured b (updateFrameCounter b s) := configured.same (congrArg wiring same)
    (congrArg (fun a => a.gpdNode.currentCommReq) same)
    (congrArg (fun a => a.applicationDescriptionState) same)
  have counter : (emberGpdAfPluginDeCommission b s).gpdNode.securityFrameCounter =
      (updateFrameCounter b s).gpdNode.securityFrameCounter := by
    have count := congrArg (fun k : Device => k.gpdNode.securityFrameCounter) sent
    exact count
  rw [counter, ← h.pristine.reset kept, ← sent]
  rfl

end

/-- The device decommissioned after a life that has reached the call with `air` and `randoms`
ready for the decommissioning frame. -/
def decommissioned (b : Build) (log : List Event) (before : List Action)
    (air : List (List (List UInt8))) (randoms : List UInt32) : Device :=
  rested (emberGpdAfPluginDeCommission b
    { life b log before with air := air, randoms := randoms })

/-- A device that is decommissioned with nothing left takes the course of a fresh one. -/
theorem decommissioned_as_fresh (b : Build) (log : List Event) (before later : List Action)
    (air : List (List (List UInt8))) (randoms : List UInt32)
    (cleared : Cleared b { life b log before with air := air, randoms := randoms })
    (complete : ∀ a ∈ later, ∀ packet ∈ packets a, Complete packet)
    (whole : Whole b (later.foldl (perform b) (factoryFresh b
      (decommissioned b log before air randoms).gpdNode.securityFrameCounter))) :
    SameCourse b later (decommissioned b log before air randoms) (factoryFresh b
      (decommissioned b log before air randoms).gpdNode.securityFrameCounter) := by
  have configured := life_configured b log before
  have same := cleared.core_eq ⟨configured.wired, configured.uncounted, configured.undescribed⟩
  have fresh := powerUp_configured b [.flashSave .earlierLife (freshImage b
    (decommissioned b log before air randoms).gpdNode.securityFrameCounter)]
  have silent := (factoryFresh_rest b
    (decommissioned b log before air randoms).gpdNode.securityFrameCounter).2.2.1
  refine sameCourse_of_core same ⟨fresh.addr, ?_⟩ complete whole
  rw [silent]
  exact fun _ hw => absurd hw List.not_mem_nil

/-- A toggle before, and an attempt that finds a channel after. -/
theorem toggled_as_fresh :
    SameCourse (shipped (AesCipher.aesCcm tagSize))
      [.command .commission, .stack [] [] [], .stack [[channelConfigFrame]] [] [], .stack [] [] []]
      (decommissioned (shipped (AesCipher.aesCcm tagSize)) [] [.command .send, .stack [] [] []]
        [[channelConfigFrame]] [])
      (factoryFresh (shipped (AesCipher.aesCcm tagSize))
        (decommissioned (shipped (AesCipher.aesCcm tagSize)) [] [.command .send, .stack [] [] []]
          [[channelConfigFrame]] []).gpdNode.securityFrameCounter) := by
  refine decommissioned_as_fresh _ [] _ _ _ _ ⟨by decide +kernel, by decide +kernel,
    by decide +kernel, by decide +kernel, by decide +kernel,
    fun random => absurd random (by decide), fun _ => by decide +kernel⟩ ?_ (by decide +kernel)
  decide +kernel

def swept : Device :=
  decommissioned (shipped (AesCipher.aesCcm tagSize)) []
    [.command .commission, .stack [] [] []] [] []

def requested : Device :=
  decommissioned (shipped (AesCipher.aesCcm tagSize)) []
    [.command .commission, .stack [] [] [], .stack [[channelConfigFrame]] [] [], .stack [] [] []]
    [] []

/-- The sweep of the next attempt is left out, and the next toggle is sealed with the TC link
key. -/
theorem leftovers_differ :
    ¬ SameCourse (shipped (AesCipher.aesCcm tagSize)) [.command .commission, .stack [] [] []] swept
      (factoryFresh (shipped (AesCipher.aesCcm tagSize)) swept.gpdNode.securityFrameCounter) ∧
    ¬ SameCourse (shipped (AesCipher.aesCcm tagSize)) [.command .send, .stack [] [] []] requested
      (factoryFresh (shipped (AesCipher.aesCcm tagSize)) requested.gpdNode.securityFrameCounter) := by
  refine ⟨fun same => ?_, fun same => ?_⟩
  · have frames := congrArg (List.filterMap PowerCycle.frameWritten) same.emitted
    revert frames
    decide +kernel
  · have frames := congrArg (List.filterMap PowerCycle.frameWritten) same.emitted
    revert frames
    decide +kernel

end GreenPower.Decommissioning
