import GreenPower.AttemptProgress
import GreenPower.CommandEffects

set_option autoImplicit false

/-!
Commissioning attempts on devices with different histories. They take the same course as long
as nothing of an earlier attempt is left in `currentCommReq` and the two substates; what is
left there by an attempt that was given up or overridden shortens the next one.
-/
namespace GreenPower.AttemptIndependence
open MemoryArray ByteWord BuildOptions DeviceState Security NonVolatile FrameBuild IncomingCommand
  ReceiveOutcome SendReceive CommissioningCommand Commissioning GpdTask EventLog DeviceSteps
  AttemptTrace CompleteFrame AttemptLockstep AttemptProgress
open CommandEffects (channelConfigFrame)

def wiring (a : Settings) : EmberGpdAddr × UInt8 × UInt8 × Cells UInt8 × Cells UInt8 :=
  (a.gpdNode.addr, a.gpdNode.rxOffset, a.gpdNode.minRxWindow, a.nonceTx, a.nonceRx)

/-- `s` is wired like a chip that boots for the first time, and holds nothing of the way of
counting requests that its build does not use. -/
structure Configured (b : Build) (s : Device) : Prop where
  wired : wiring (settings s) = wiring (settings (powerUp b []))
  uncounted : b.appDescriptionFollows = true → s.gpdNode.currentCommReq = 0
  undescribed : ¬ b.appDescriptionFollows = true →
    s.applicationDescriptionState = appDescStepSendCommissioningReq

section
variable {b : Build} {s s' : Device}

theorem Configured.same (h : Configured b s) (same : wiring (settings s') = wiring (settings s))
    (count : s'.gpdNode.currentCommReq = s.gpdNode.currentCommReq)
    (substate : s'.applicationDescriptionState = s.applicationDescriptionState) :
    Configured b s' :=
  ⟨same.trans h.wired, fun follows => count.trans (h.uncounted follows),
    fun plain => substate.trans (h.undescribed plain)⟩

theorem Configured.addr (h : Configured b s) : s.gpdNode.addr = ownAddr b :=
  congrArg Prod.fst h.wired

theorem Configured.radio (step : RadioStep s s') (h : Configured b s) : Configured b s' := by
  cases step with
  | arrival quiet arrivals =>
    have same := (quiet_hidden (b := b) quiet arrivals).settings
    exact h.same (congrArg wiring same) (congrArg (fun a => a.gpdNode.currentCommReq) same)
      (congrArg (fun a => a.applicationDescriptionState) same)
  | reaction r range => cases r <;> exact h.same rfl rfl rfl
  | _ => exact h.same rfl rfl rfl

theorem Configured.step {d : Device} (step : Step b d s s') (h : Configured b s) :
    Configured b s' := by
  cases step with
  | radio step => exact h.radio step
  | compose frameType payload =>
    obtain ⟨mpdu, frame, eq⟩ := writeTxFifo_eq b frameType payload (updateFrameCounter b s)
    have same := (updateFrameCounter_hidden b s).settings
    rw [eq]
    exact h.same (congrArg wiring same) (congrArg (fun a => a.gpdNode.currentCommReq) same)
      (congrArg (fun a => a.applicationDescriptionState) same)
  | encryptKey oobKey level =>
    have tx := counterCleared_store s.nonceTx s.gpdNode.addr.srcId
    refine h.same ?_ rfl rfl
    unfold wiring settings emberGpdSecurityEncryptKey emberGpdSetFcIntoTxNonce
      emberGpdMbedtlsCcmSetkeyWraper
    simp only [tx]
  | loadDefaults invalid =>
    have addr : { s.gpdNode.addr with appId := appIdSrcId, srcId := b.srcId } = ownAddr b := by
      rw [h.addr]
      rfl
    have nonces := congrArg (fun w => w.2.2.2) h.wired
    refine ⟨?_, h.uncounted, h.undescribed⟩
    unfold wiring at nonces ⊢
    exact Prod.ext addr (Prod.ext rfl (Prod.ext rfl nonces))
  | requestCount count plain bound =>
    exact ⟨h.wired, fun follows => absurd follows plain, h.undescribed⟩
  | descriptionSubstate sub follows bound =>
    exact ⟨h.wired, h.uncounted, fun plain => absurd follows plain⟩
  | _ => exact h.same rfl rfl rfl

/-- The nonces come up the same whatever counter was loaded. -/
theorem securityInit_wiring (addr : EmberGpdAddr) (key key' : Key) (counter counter' : UInt32)
    (gpd : s.gpdNode.addr = s'.gpdNode.addr ∧ s.gpdNode.rxOffset = s'.gpdNode.rxOffset ∧
      s.gpdNode.minRxWindow = s'.gpdNode.minRxWindow)
    (tx : s.nonceTx = s'.nonceTx) (rx : s.nonceRx = s'.nonceRx) :
    wiring (settings (emberGpdSecurityInit addr key counter s)) =
      wiring (settings (emberGpdSecurityInit addr key' counter' s')) := by
  simp only [wiring, settings, emberGpdSecurityInit, emberGpdSetFcIntoTxNonce,
    emberGpdSetFcIntoRxNonce, emberGpdMbedtlsCcmSetkeyWraper, counterCleared_store, tx, rx,
    Prod.mk.injEq, and_true]
  exact gpd

theorem nvLoad_keeps (s : Device) : (nvLoad s).gpdNode = s.gpdNode ∧
    (nvLoad s).nonceTx = s.nonceTx ∧ (nvLoad s).nonceRx = s.nonceRx ∧
    (nvLoad s).applicationDescriptionState = s.applicationDescriptionState ∧
    (nvLoad s).chReqSubstate = s.chReqSubstate := by
  unfold nvLoad
  cases flash s.log with
  | none => exact ⟨rfl, rfl, rfl, rfl, rfl⟩
  | some image => exact ⟨rfl, rfl, rfl, rfl, rfl⟩

/-- What the stored data does not touch. -/
theorem loadSecData_keeps (s : Device) :
    let up := emberGpdLoadSecDataFromNV s
    (up.gpdNode.addr = s.gpdNode.addr ∧ up.gpdNode.rxOffset = s.gpdNode.rxOffset ∧
      up.gpdNode.minRxWindow = s.gpdNode.minRxWindow) ∧
      (up.nonceTx = s.nonceTx ∧ up.nonceRx = s.nonceRx) ∧
      up.gpdNode.currentCommReq = s.gpdNode.currentCommReq ∧
      up.applicationDescriptionState = s.applicationDescriptionState ∧
      up.chReqSubstate = s.chReqSubstate := by
  obtain ⟨gpd, tx, rx, substate, requests⟩ := nvLoad_keeps s
  simp only [emberGpdLoadSecDataFromNV, setSecData, gpd, tx, rx, substate, requests, and_self]

theorem powerUp_configured (b : Build) (log : List Event) : Configured b (powerUp b log) := by
  obtain ⟨⟨addr, offset, window⟩, ⟨tx, rx⟩, count, substate, -⟩ := loadSecData_keeps
    (emberGpdLoadGpdDefaultConfiguration b (ramCleared log))
  obtain ⟨⟨addr', offset', window'⟩, ⟨tx', rx'⟩, -⟩ := loadSecData_keeps
    (emberGpdLoadGpdDefaultConfiguration b (ramCleared []))
  refine ⟨?_, fun _ => count, fun _ => substate⟩
  unfold powerUp emberGpdInit
  simp only
  generalize emberGpdLoadSecDataFromNV (emberGpdLoadGpdDefaultConfiguration b
    (ramCleared log)) = s at *
  generalize emberGpdLoadSecDataFromNV (emberGpdLoadGpdDefaultConfiguration b
    (ramCleared [])) = t at *
  rw [addr.trans addr'.symm]
  exact securityInit_wiring t.gpdNode.addr s.gpdNode.securityKey t.gpdNode.securityKey
    s.gpdNode.securityFrameCounter t.gpdNode.securityFrameCounter
    ⟨addr.trans addr'.symm, offset.trans offset'.symm, window.trans window'.symm⟩
    (tx.trans tx'.symm) (rx.trans rx'.symm)

theorem life_configured (b : Build) (log : List Event) (actions : List Action) :
    Configured b (life b log actions) :=
  run_preserves b (fun _ _ _ step h => h.step step) actions (powerUp_configured b log)

structure Fresh (b : Build) (s : Device) : Prop where
  sweeps : s.chReqSubstate = chReqOnAllChannels
  uncounted : b.appDescriptionFollows = false → s.gpdNode.currentCommReq = 0
  undescribed : b.appDescriptionFollows = true →
    s.applicationDescriptionState = appDescStepSendCommissioningReq

/-- The commission command and the iterations of the task that follow it. -/
def attempt (b : Build) (s : Device) (iterations : List Action) : Device :=
  iterations.foldl (perform b) (perform b s (.command .commission))

theorem powerUp_fresh (b : Build) (log : List Event) : Fresh b (powerUp b log) := by
  obtain ⟨-, -, count, substate, requests⟩ := loadSecData_keeps
    (emberGpdLoadGpdDefaultConfiguration b (ramCleared log))
  exact ⟨requests, fun _ => count, fun _ => substate⟩

/-- What the request machine does not overwrite is the same in fresh devices. -/
theorem Fresh.idle {t : Device} (fresh : Fresh b s) (fresh' : Fresh b t) (h : Configured b s)
    (h' : Configured b t) :
    (settings (rested (perform b s (.command .commission)))).idle =
      (settings (rested (perform b t (.command .commission)))).idle := by
  have count : s.gpdNode.currentCommReq = t.gpdNode.currentCommReq := by
    by_cases follows : b.appDescriptionFollows = true
    · rw [h.uncounted follows, h'.uncounted follows]
    · have plain := Bool.eq_false_of_not_eq_true follows
      rw [fresh.uncounted plain, fresh'.uncounted plain]
  have substate : s.applicationDescriptionState = t.applicationDescriptionState := by
    by_cases follows : b.appDescriptionFollows = true
    · rw [fresh.undescribed follows, fresh'.undescribed follows]
    · rw [h.undescribed follows, h'.undescribed follows]
  have requests := fresh.sweeps.trans fresh'.sweeps.symm
  have same := h.wired.trans h'.wired.symm
  simp only [wiring, settings, common, Prod.mk.injEq] at same
  obtain ⟨addr, offset, window, tx, rx⟩ := same
  simp only [Settings.idle, settings, rested, perform, commandBranch, emberGpdSetState,
    Device.record, common, addr, offset, window, tx, rx, count, substate, requests]

theorem Fresh.ready {t : Device} (fresh : Fresh b s) (fresh' : Fresh b t) (h : Configured b s)
    (h' : Configured b t) :
    Ready b Settings.idle (seen b s.log) (seen b t.log)
      (rested (perform b s (.command .commission)))
      (rested (perform b t (.command .commission))) :=
  ⟨⟨fresh.idle fresh' h h', ⟨[.state appStateChannelRequest], rfl, rfl⟩, h.addr,
    fun _ hw => absurd hw List.not_mem_nil⟩, fun other => absurd rfl other⟩

theorem attempt_log_suffix (b : Build) (s : Device) (iterations : List Action) :
    s.log <:+ (attempt b s iterations).log :=
  run_log_suffix b s (.command .commission :: iterations)

theorem Fresh.course {t : Device} (fresh : Fresh b s) (fresh' : Fresh b t) (h : Configured b s)
    (h' : Configured b t) (bidir : b.bidirCapable = true) {iterations iterations' : List Action}
    (same : List.Forall₂ (SameIteration b) iterations iterations') :
    (attempt b s iterations).gpdNode.gpdState = (attempt b t iterations').gpdNode.gpdState ∧
      observed b s (attempt b s iterations) = observed b t (attempt b t iterations') := by
  have alike := (Ready.run bidir same (fresh.ready fresh' h h')).rest
  obtain ⟨new, seen, seen'⟩ := alike.seen
  refine ⟨congrArg (fun a => a.gpdNode.gpdState) alike.settings, ?_⟩
  exact (observed_of_seen b (attempt_log_suffix b s iterations) seen).trans
    (observed_of_seen b (attempt_log_suffix b t iterations') seen').symm

theorem Fresh.begins (fresh : Fresh b s) (bidir : b.bidirCapable = true)
    (air : List (List (List UInt8))) (randoms : List UInt32)
    (descriptions : List (List UInt8 × Bool)) :
    observed b s (attempt b s [.stack air randoms descriptions]) =
      .state appStateChannelRequest :: sweep b := by
  have swept := stackBranch_sweeps (b := b)
    (s := { perform b s (.command .commission) with
      air := air, randoms := randoms, descriptions := descriptions }) bidir rfl fresh.sweeps
  have seen : AttemptTrace.seen b (attempt b s [.stack air randoms descriptions]).log =
      ((sweep b).reverse ++ [.state appStateChannelRequest]) ++ AttemptTrace.seen b s.log := by
    rw [List.append_assoc]
    exact swept
  rw [observed_of_seen b (attempt_log_suffix b s _) seen, List.reverse_append, List.reverse_reverse]
  rfl

theorem Fresh.progress (fresh : Fresh b s) :
    Progress b (requestsSent s.log) (perform b s (.command .commission)) := by
  refine ⟨le_rfl, fun plain => ?_, fun follows other => absurd (fresh.undescribed follows) other⟩
  have count : (perform b s (.command .commission)).gpdNode.currentCommReq = 0 :=
    fresh.uncounted plain
  rw [count]
  exact ⟨rfl, UInt8.zero_le⟩

/-- The task gives an attempt up only after all its requests. -/
theorem Fresh.requests (fresh : Fresh b s) (bidir : b.bidirCapable = true) (fits : RequestFits b)
    (iterations : List Action)
    (ofTask : ∀ a ∈ iterations, ∃ air randoms descriptions, a = .stack air randoms descriptions) :
    (b.appDescriptionFollows = false → requestsSent (attempt b s iterations).log ≤
      requestsSent s.log + b.numberOfCommissioningRequest.toNat) ∧
    ∀ air randoms descriptions,
      (attempt b s iterations).gpdNode.gpdState = appStateChannelReceived →
      (perform b (attempt b s iterations) (.stack air randoms descriptions)).gpdNode.gpdState =
        appStateNotCommissioned →
      requestsSent s.log + b.numberOfCommissioningRequest.toNat ≤
        requestsSent (attempt b s iterations).log := by
  have progress := fresh.progress.run fits bidir iterations ofTask
  change Progress b _ (attempt b s iterations) at progress
  refine ⟨fun plain => ?_, fun air randoms descriptions received gaveUp => ?_⟩
  · obtain ⟨sent, bound⟩ := progress.counted plain
    exact sent.trans_le (Nat.add_le_add_left bound _)
  · have equipped : Progress b (requestsSent s.log) { attempt b s iterations with
        air := air, randoms := randoms, descriptions := descriptions } :=
      progress.keep rfl rfl rfl
    exact (equipped.givesUp fits bidir received gaveUp).1

end

/-- An attempt in `s` takes the course of one in `t`, which begins with the sweep and is not
given up before all requests are sent. -/
structure Independent (b : Build) (s t : Device) : Prop where
  course : ∀ iterations iterations', List.Forall₂ (SameIteration b) iterations iterations' →
    (attempt b s iterations).gpdNode.gpdState = (attempt b t iterations').gpdNode.gpdState ∧
      observed b s (attempt b s iterations) = observed b t (attempt b t iterations')
  begins : ∀ air randoms descriptions,
    observed b s (attempt b s [.stack air randoms descriptions]) =
      .state appStateChannelRequest :: sweep b
  requests : ∀ iterations,
    (∀ a ∈ iterations, ∃ air randoms descriptions, a = .stack air randoms descriptions) →
    RequestFits b →
    (b.appDescriptionFollows = false → requestsSent (attempt b s iterations).log ≤
      requestsSent s.log + b.numberOfCommissioningRequest.toNat) ∧
    ∀ air randoms descriptions,
      (attempt b s iterations).gpdNode.gpdState = appStateChannelReceived →
      (perform b (attempt b s iterations) (.stack air randoms descriptions)).gpdNode.gpdState =
        appStateNotCommissioned →
      requestsSent s.log + b.numberOfCommissioningRequest.toNat ≤
        requestsSent (attempt b s iterations).log

/-- Attempts that begin with nothing left of earlier ones are independent of their histories. -/
theorem fresh_attempts_independent (b : Build) (bidir : b.bidirCapable = true)
    (log log' : List Event) (before before' : List Action) (fresh : Fresh b (life b log before))
    (fresh' : Fresh b (life b log' before')) :
    Independent b (life b log before) (life b log' before') where
  course _ _ same := fresh.course fresh' (life_configured b log before)
    (life_configured b log' before') bidir same
  begins := fresh.begins bidir
  requests iterations ofTask fits := fresh.requests bidir fits iterations ofTask

def unanswered : List Action :=
  [.stack [] [] [], .stack [[channelConfigFrame]] [] [], .stack [] [] [], .stack [] [] [],
    .stack [] [] [], .stack [] [] []]

theorem unanswered_same (b : Build) (h : Readable b (ownAddr b) channelConfigFrame) :
    List.Forall₂ (SameIteration b) unanswered unanswered := by
  refine List.forall₂_same.mpr (fun a ha => ?_)
  simp only [unanswered, List.mem_cons, List.not_mem_nil, or_false] at ha
  rcases ha with rfl | rfl | rfl | rfl | rfl | rfl
  on_goal 2 =>
    refine .stack _ _ _ _ (fun window hw packet hp => ?_)
    rw [List.mem_singleton.mp hw, List.mem_singleton] at hp
    rw [hp]
    exact h
  all_goals exact .stack _ _ _ _ (fun _ hw => absurd hw List.not_mem_nil)

/-- A toggle before the attempt makes no difference to it. -/
theorem toggled_attempt_independent :
    observed (shipped (AesCipher.aesCcm tagSize))
        (life (shipped (AesCipher.aesCcm tagSize)) [] [])
        (attempt (shipped (AesCipher.aesCcm tagSize))
          (life (shipped (AesCipher.aesCcm tagSize)) [] []) unanswered) =
      observed (shipped (AesCipher.aesCcm tagSize))
        (life (shipped (AesCipher.aesCcm tagSize)) [] [.command .send, .stack [] [] []])
        (attempt (shipped (AesCipher.aesCcm tagSize))
          (life (shipped (AesCipher.aesCcm tagSize)) [] [.command .send, .stack [] [] []])
          unanswered) := by
  have readable : Readable (shipped (AesCipher.aesCcm tagSize))
      (ownAddr (shipped (AesCipher.aesCcm tagSize))) channelConfigFrame :=
    ⟨by decide, by decide +kernel, by decide +kernel, by decide +kernel⟩
  have fresh : Fresh (shipped (AesCipher.aesCcm tagSize))
      (life (shipped (AesCipher.aesCcm tagSize)) [] []) := powerUp_fresh _ []
  have fresh' : Fresh (shipped (AesCipher.aesCcm tagSize))
      (life (shipped (AesCipher.aesCcm tagSize)) [] [.command .send, .stack [] [] []]) :=
    ⟨by decide +kernel, fun _ => by decide +kernel, fun _ => by decide +kernel⟩
  exact ((fresh_attempts_independent _ rfl [] [] _ _ fresh fresh').course _ _
    (unanswered_same _ readable)).2

def overridden : List Action :=
  [.command .commission, .stack [] [] [], .command .send, .stack [] [] []]

def givenUp : List Action := .command .commission :: unanswered ++ [.stack [] [] []]

/-- The next attempt skips the sweep, or is given up without a request. -/
theorem leftovers_shorten_attempt :
    ¬ Independent (shipped (AesCipher.aesCcm tagSize))
        (life (shipped (AesCipher.aesCcm tagSize)) [] overridden)
        (life (shipped (AesCipher.aesCcm tagSize)) [] []) ∧
      ¬ Independent (shipped (AesCipher.aesCcm tagSize))
        (life (shipped (AesCipher.aesCcm tagSize)) [] givenUp)
        (life (shipped (AesCipher.aesCcm tagSize)) [] []) := by
  refine ⟨fun independent => ?_, fun independent => ?_⟩
  · have swept := independent.begins [] [] []
    revert swept
    decide +kernel
  · have enough := (independent.requests [.stack [] [] [], .stack [[channelConfigFrame]] [] []]
      (by simp) (by decide +kernel)).2 [] [] [] (by decide +kernel) (by decide +kernel)
    revert enough
    decide +kernel

end GreenPower.AttemptIndependence
