import GreenPower.AddressGate
import GreenPower.CrashConsistency
import GreenPower.FramesOnAir

set_option autoImplicit false

/-!
What must have happened on a chip before its device is operational, in RAM or in flash, over all
its lives. A state is written to flash only once what it stands for has happened.
-/
namespace GreenPower.CommissioningHistory
open MemoryArray BuildOptions DeviceState Security NonVolatile IncomingCommand IncomingMessage
  ReceiveOutcome SendReceive Commissioning GpdTask EventLog DeviceSteps CrashConsistency FramesOnAir
open Relation (ReflTransGen)

inductive BlankChip (b : Build) : List Event → Prop
  | blank : BlankChip b []
  | life {log log' : List Event} (actions : List Action) (chip : BlankChip b log)
      (since : log <:+ log') (cut : log' <:+ (life b log actions).log) : BlankChip b log'

def successFrame : UInt8 × List UInt8 := (nwkFcFrameTypeData, [cmdCommissioningSuccess])

def Replied (log : List Event) : Prop := ∃ newKey, .replyAccepted newKey ∈ log

def Commissioned (log : List Event) : Prop := Replied log ∧ successFrame ∈ onAir log

def Commanded (log : List Event) : Prop := .setState appStateOperationalCommandRequest ∈ log

structure Grounds (gpdState : ApplicationState) (log : List Event) : Prop where
  replied : gpdState = appStateCommissioningReplyReceived → Replied log
  succeeded : gpdState = appStateCommissioningSuccessRequest → Commissioned log
  commanded : gpdState = appStateOperationalCommandRequest → Commanded log
  operational : gpdState = appStateOperational → Commissioned log ∨ Commanded log

def storedState (image : NvImage) : ApplicationState := (secDataOf (imageCell image)).gpdState

structure Honest (log : List Event) : Prop where
  stored : ∀ image, flash log = some image → Grounds (storedState image) log
  entered : ∀ older, log = .setState appStateOperational :: older →
    Commissioned older ∨ Commanded older

section
variable {log log' : List Event} {gpdState : ApplicationState} {e : Event}

theorem onAir_grows (new log : List Event) {frame : UInt8 × List UInt8} (sent : frame ∈ onAir log) :
    frame ∈ onAir (new ++ log) := by
  induction new with
  | nil => exact sent
  | cons e new ih =>
    cases e with
    | startTx => exact List.mem_append_right _ ih
    | _ => exact ih

theorem Replied.mono (h : Replied log) (grown : log <:+ log') : Replied log' := by
  obtain ⟨newKey, accepted⟩ := h
  exact ⟨newKey, grown.subset accepted⟩

theorem Commissioned.mono (h : Commissioned log) (grown : log <:+ log') : Commissioned log' := by
  refine ⟨h.1.mono grown, ?_⟩
  obtain ⟨new, rfl⟩ := grown
  exact onAir_grows new log h.2

theorem Grounds.mono (h : Grounds gpdState log) (grown : log <:+ log') : Grounds gpdState log' where
  replied st := (h.replied st).mono grown
  succeeded st := (h.succeeded st).mono grown
  commanded st := grown.subset (h.commanded st)
  operational st := (h.operational st).imp (fun h => h.mono grown) (fun h => grown.subset h)

/-- The states that need no grounds. -/
theorem grounds_free (free : gpdState ∉ [appStateCommissioningReplyReceived,
    appStateCommissioningSuccessRequest, appStateOperationalCommandRequest, appStateOperational]) :
    Grounds gpdState log := by
  simp only [List.mem_cons, List.not_mem_nil, or_false, not_or] at free
  obtain ⟨reply, success, command, operational⟩ := free
  exact ⟨fun st => absurd st reply, fun st => absurd st success, fun st => absurd st command,
    fun st => absurd st operational⟩

theorem grounds_replied (h : Replied log) : Grounds appStateCommissioningReplyReceived log :=
  ⟨fun _ => h, fun st => absurd st (by decide), fun st => absurd st (by decide),
    fun st => absurd st (by decide)⟩

theorem honest_nil : Honest [] where
  stored image stored := by cases stored
  entered older eq := by cases eq

theorem Honest.cons (h : Honest log)
    (saved : ∀ origin image, e = .flashSave origin image → Grounds (storedState image) log)
    (entered : e = .setState appStateOperational → Commissioned log ∨ Commanded log) :
    Honest (e :: log) := by
  have grown : log <:+ e :: log := List.suffix_cons e log
  refine ⟨fun image stored => ?_, fun older eq => ?_⟩
  · cases e with
    | flashErase => cases stored
    | flashSave origin image' =>
      obtain rfl := Option.some.inj stored
      exact (saved origin image' rfl).mono grown
    | _ => exact (h.stored image stored).mono grown
  · obtain ⟨rfl, rfl⟩ := List.cons.inj eq
    exact entered rfl

def Idle : Event → Prop
  | .flashSave _ _ => False
  | .setState gpdState => gpdState ≠ appStateOperational
  | _ => True

theorem Honest.idle (h : Honest log) (idle : Idle e) : Honest (e :: log) := by
  refine h.cons ?_ ?_
  · rintro origin image rfl
    exact idle.elim
  · rintro rfl
    exact absurd rfl idle

theorem Idle.of_arrival (h : Arrival e) : Idle e := by
  cases h <;> trivial

theorem Idle.of_reaction (r : Reaction) : ∀ e ∈ r.events, Idle e := by
  intro e he
  cases r with
  | ignored => cases he
  | channelConfig =>
    rw [List.mem_singleton.mp he]
    exact (by decide : appStateChannelReceived ≠ appStateOperational)
  | replyAccepted =>
    simp only [Reaction.events, List.mem_cons, List.not_mem_nil, or_false] at he
    rcases he with rfl | rfl
    · exact (by decide : appStateCommissioningReplyReceived ≠ appStateOperational)
    · trivial
  | replyRejected =>
    rw [List.mem_singleton.mp he]
    trivial

end

structure Recorded (s : Device) : Prop where
  history : Throughout Honest s.log
  shadow : Grounds (secDataOf s.gpdNvData).gpdState s.log

section
variable {b : Build} {d s s' : Device}

theorem Recorded.grow (h : Recorded s) {new : List Event} (idle : ∀ e ∈ new, Idle e)
    (log : s'.log = new ++ s.log) (shadow : s'.gpdNvData = s.gpdNvData) : Recorded s' where
  history := by
    rw [log]
    exact h.history.append new (fun e he _ honest => honest.idle (idle e he))
  shadow := by
    rw [shadow, log]
    exact h.shadow.mono (List.suffix_append new s.log)

theorem Recorded.same (h : Recorded s) (log : s'.log = s.log) (shadow : s'.gpdNvData = s.gpdNvData) :
    Recorded s' :=
  h.grow (List.forall_mem_nil _) log shadow

theorem Recorded.note (h : Recorded s) {e : Event} (idle : Idle e) (log : s'.log = e :: s.log)
    (shadow : s'.gpdNvData = s.gpdNvData) : Recorded s' :=
  h.grow (List.forall_mem_singleton.mpr idle) log shadow

/-- A save of a shadow array whose state is earned. -/
theorem Recorded.save (h : Recorded s) {origin : SaveOrigin}
    (log : s'.log = .flashSave origin (image s'.gpdNvData) :: s.log)
    (earned : Grounds (secDataOf s'.gpdNvData).gpdState s.log) : Recorded s' := by
  have same : storedState (image s'.gpdNvData) = (secDataOf s'.gpdNvData).gpdState :=
    congrArg SecData.gpdState (secDataOf_image s'.gpdNvData)
  refine ⟨?_, ?_⟩
  · rw [log]
    refine throughout_cons.mpr ⟨h.history.here.cons ?_ (fun eq => nomatch eq), h.history⟩
    rintro _ _ ⟨⟩
    rw [same]
    exact earned
  · rw [log]
    exact earned.mono (List.suffix_cons _ _)

theorem Recorded.radio (h : Recorded s) (step : RadioStep s s') : Recorded s' := by
  cases step with
  | startTx => exact h.note (by trivial) rfl rfl
  | startRx => exact h.note (by trivial) rfl rfl
  | nextWindow => exact h.same rfl rfl
  | arrival quiet arrivals =>
    exact h.grow (fun e he => Idle.of_arrival (arrivals e he)) quiet.log (Quiet.gpdNvData quiet)
  | reaction r => exact h.grow (Idle.of_reaction r) rfl rfl

theorem Recorded.compose (h : Recorded s) (frameType : UInt8) (payload : List UInt8) :
    Recorded (writeTxFifo b frameType payload (updateFrameCounter b s)) := by
  have updated : Recorded (updateFrameCounter b s) := by
    unfold SendReceive.updateFrameCounter
    cases b.macSeq with
    | random => exact h.same rfl rfl
    | incremental =>
      refine h.save rfl ?_
      have data := secDataOf_store_counter s.gpdNvData (s.gpdNode.securityFrameCounter + 1)
      exact (congrArg SecData.gpdState data) ▸ h.shadow
  generalize SendReceive.updateFrameCounter b s = s1 at updated
  obtain ⟨mpdu, frame, eq⟩ := writeTxFifo_eq b frameType payload s1
  rw [eq]
  have idle : ∀ e ∈ .txFifo frameType payload s1.gpdNode frame :: secureEvents frameType s1,
      Idle e := by
    refine List.forall_mem_cons.mpr ⟨trivial, fun e he => ?_⟩
    obtain ⟨_, _, _, _, rfl⟩ := secureEvents_mem he
    trivial
  exact updated.grow idle rfl rfl

theorem Recorded.store (h : Recorded s) (ram : Grounds s.gpdNode.gpdState s.log) :
    Recorded (emberGpdStoreSecDataToNV s) := by
  refine h.save rfl ?_
  have data := secDataOf_shadow s.gpdNode s.gpdNvData
  exact (congrArg SecData.gpdState data) ▸ ram

structure Earned (s : Device) : Prop where
  recorded : Recorded s
  ram : Grounds s.gpdNode.gpdState s.log

theorem grounds_radio (h : Grounds s.gpdNode.gpdState s.log) (step : RadioStep s s') :
    Grounds s'.gpdNode.gpdState s'.log := by
  cases step with
  | startTx | startRx => exact h.mono (List.suffix_cons _ _)
  | nextWindow => exact h
  | arrival quiet =>
    rw [quiet.gpdNode, quiet.log]
    exact h.mono (List.suffix_append _ _)
  | reaction r =>
    cases r with
    | ignored => exact h
    | channelConfig => exact grounds_free (by decide : appStateChannelReceived ∉ _)
    | replyAccepted newKey =>
      exact grounds_replied ⟨newKey, List.mem_cons_of_mem _ List.mem_cons_self⟩
    | replyRejected => exact h.mono (List.suffix_cons _ _)

theorem Earned.radio (h : Earned s) (step : RadioStep s s') : Earned s' :=
  ⟨h.recorded.radio step, grounds_radio h.ram step⟩

theorem Earned.compose (h : Earned s) (frameType : UInt8) (payload : List UInt8) :
    Earned (writeTxFifo b frameType payload (updateFrameCounter b s)) := by
  refine ⟨h.recorded.compose frameType payload, ?_⟩
  obtain ⟨c, gpd⟩ := compose_gpdNode b frameType payload s
  rw [gpd]
  exact h.ram.mono (compose_log_suffix b frameType payload s)

theorem Earned.store (h : Earned s) : Earned (emberGpdStoreSecDataToNV s) :=
  ⟨h.recorded.store h.ram, h.ram.mono (List.suffix_cons _ _)⟩

theorem Earned.send (h : Earned s) (frameType : UInt8) (payload : List UInt8) (times : ℕ) :
    Earned (emberAfGpdfSend b frameType payload times s) :=
  star_preserves (fun _ _ step h => h.radio step)
    (emberAfGpdfSend_radio b frameType payload times s) (h.compose frameType _)

/-- A state that is entered for a reason. -/
theorem Earned.setState (h : Earned s) {gpdState : ApplicationState}
    (grounds : Grounds gpdState (.setState gpdState :: s.log))
    (entered : gpdState = appStateOperational → Commissioned s.log ∨ Commanded s.log) :
    Earned (emberGpdSetState gpdState s) := by
  have history : Throughout Honest (.setState gpdState :: s.log) := by
    refine throughout_cons.mpr ⟨h.recorded.history.here.cons (fun _ _ eq => nomatch eq) ?_,
      h.recorded.history⟩
    intro eq
    exact entered (Event.setState.inj eq)
  exact ⟨⟨history, h.recorded.shadow.mono (List.suffix_cons _ _)⟩, grounds⟩

theorem Earned.command (h : Earned s) {gpdState : ApplicationState}
    (known : gpdState = appStateChannelRequest ∨ gpdState = appStateOperationalCommandRequest) :
    Earned (emberGpdSetState gpdState s) := by
  rcases known with rfl | rfl
  · exact h.setState (grounds_free (by decide)) (fun st => absurd st (by decide))
  · refine h.setState ⟨fun st => absurd st (by decide), fun st => absurd st (by decide),
      fun _ => List.mem_cons_self, fun st => absurd st (by decide)⟩ (fun st => absurd st (by decide))

/-- Any elementary change of an action that did not begin with a reply to answer. -/
theorem Earned.step (h : Earned s) (begun : Grounds d.gpdNode.gpdState d.log)
    (since : d.log <:+ s.log) (unreplied : d.gpdNode.gpdState ≠ appStateCommissioningReplyReceived)
    (step : Step b d s s') : Earned s' := by
  cases step with
  | radio step => exact h.radio step
  | compose frameType payload => exact h.compose frameType payload
  | store => exact h.store
  | environment | sweepFlags | windowFlags | descriptionFlag | channel | clearSecurity | clearLevel
  | restoreLevel | encryptKey | requestCount | channelSubstate | descriptionSubstate =>
    exact ⟨h.recorded.same rfl rfl, h.ram⟩
  | giveUp => exact ⟨h.recorded.same rfl rfl, grounds_free (by decide : appStateNotCommissioned ∉ _)⟩
  | requestAgain =>
    exact ⟨h.recorded.same rfl rfl, grounds_free (by decide : appStateChannelRequest ∉ _)⟩
  | command gpdState known => exact h.command known
  | successRequest replied => exact absurd replied unreplied
  | operational done =>
    have grounds : Commissioned s.log ∨ Commanded s.log := by
      have now := begun.mono since
      exact done.imp now.succeeded now.commanded
    have grown : s.log <:+ .setState appStateOperational :: s.log := List.suffix_cons _ _
    refine h.setState ⟨fun st => absurd st (by decide), fun st => absurd st (by decide),
      fun st => absurd st (by decide), fun _ => ?_⟩ (fun _ => grounds)
    exact grounds.imp (fun g => g.mono grown) (fun g => grown.subset g)
  | loadDefaults =>
    exact ⟨h.recorded.note (by trivial) rfl rfl, grounds_free (by decide : appStateNotCommissioned ∉ _)⟩

theorem Earned.steps (h : Earned d) (unreplied : d.gpdNode.gpdState ≠ appStateCommissioningReplyReceived)
    (steps : Steps b d d s) : Earned s := by
  have kept : Earned s ∧ d.log <:+ s.log := by
    refine star_preserves (I := fun s => Earned s ∧ d.log <:+ s.log) ?_ steps ⟨h, List.suffix_rfl⟩
    intro t t' step ⟨earned, since⟩
    exact ⟨earned.step h.ram since unreplied step, since.trans (step.log_suffix b d)⟩
  exact kept.1

/-- The round that answers a reply: the new state is not yet earned while the success frame is
being sent, but then it is not stored either. -/
theorem Earned.success_round (h : Earned s) (bidir : b.bidirCapable = true)
    (replied : s.gpdNode.gpdState = appStateCommissioningReplyReceived) :
    Earned (stateSwitch b s) := by
  have switched : stateSwitch b s =
      sendSuccess b (emberGpdSetState appStateCommissioningSuccessRequest s) := by
    unfold stateSwitch emberGpdAfPluginCommission
    rw [if_pos bidir, replied]
    rfl
  have reply := h.ram.replied replied
  obtain ⟨⟨new, log, puts⟩, -⟩ := FramesOnAir.success_round bidir replied
  have grown : s.log <:+ (stateSwitch b s).log := ⟨new, log.symm⟩
  have sent : Commissioned (stateSwitch b s).log := by
    refine ⟨reply.mono grown, ?_⟩
    rw [log, puts]
    exact List.mem_append_left _ List.mem_cons_self
  have set : Recorded (emberGpdSetState appStateCommissioningSuccessRequest s) :=
    h.recorded.note (e := .setState appStateCommissioningSuccessRequest)
      (by decide : appStateCommissioningSuccessRequest ≠ appStateOperational) rfl rfl
  have after : Recorded (stateSwitch b s) ∧
      ((stateSwitch b s).gpdNode.gpdState = appStateCommissioningSuccessRequest ∨
        Grounds (stateSwitch b s).gpdNode.gpdState (stateSwitch b s).log) := by
    rw [switched]
    refine star_preserves (I := fun t => Recorded t ∧
      (t.gpdNode.gpdState = appStateCommissioningSuccessRequest ∨
        Grounds t.gpdNode.gpdState t.log)) ?_
      (emberAfGpdfSend_radio b nwkFcFrameTypeData [cmdCommissioningSuccess] cmdResendNumber _)
      ⟨set.compose _ _, Or.inl ?_⟩
    · intro t t' step ⟨recorded, state⟩
      refine ⟨recorded.radio step, ?_⟩
      rcases state with same | grounds
      · cases step with
        | startTx | startRx | nextWindow => exact Or.inl same
        | arrival quiet =>
          rw [quiet.gpdNode]
          exact Or.inl same
        | reaction r =>
          cases r with
          | ignored | replyRejected => exact Or.inl same
          | channelConfig =>
            exact Or.inr (grounds_free (by decide : appStateChannelReceived ∉ _))
          | replyAccepted newKey =>
            exact Or.inr (grounds_replied ⟨newKey, List.mem_cons_of_mem _ List.mem_cons_self⟩)
      · exact Or.inr (grounds_radio grounds step)
    · obtain ⟨c, gpd⟩ := compose_gpdNode b nwkFcFrameTypeData
        ([cmdCommissioningSuccess].take srcIdMaxPayloadSize)
        (emberGpdSetState appStateCommissioningSuccessRequest s)
      rw [gpd]
      rfl
  refine ⟨after.1, ?_⟩
  rcases after.2 with same | grounds
  · rw [same]
    exact ⟨fun st => absurd st (by decide), fun _ => sent, fun st => absurd st (by decide),
      fun st => absurd st (by decide)⟩
  · exact grounds

theorem Earned.perform (bidir : b.bidirCapable = true) (h : Earned s) (a : Action) :
    Earned (perform b s a) := by
  by_cases replied : s.gpdNode.gpdState = appStateCommissioningReplyReceived
  swap
  · exact h.steps replied (perform_steps b s a)
  cases a with
  | command id =>
    cases id with
    | commission => exact h.command (Or.inl rfl)
    | decommission => exact h
    | send => exact h.command (Or.inr rfl)
  | stack air randoms descriptions =>
    have set : Earned { s with air := air, randoms := randoms, descriptions := descriptions } :=
      ⟨h.recorded.same rfl rfl, h.ram⟩
    exact (set.success_round bidir replied).store
  | transmit air randoms frameType payload times =>
    have set : Earned { s with air := air, randoms := randoms } := ⟨h.recorded.same rfl rfl, h.ram⟩
    exact set.send frameType payload times
  | receive packet =>
    exact star_preserves (fun _ _ step h => h.radio step) (railCbGeneric_radio b packet s) h
  | store => exact h.store

/-- A power up on a chip whose history is honest. -/
theorem earned_powerUp {log : List Event} (history : Throughout Honest log) :
    Earned (powerUp b log) := by
  have loaded : Recorded (CrashConsistency.loaded b log) ∧
      Grounds (CrashConsistency.loaded b log).gpdNode.gpdState (CrashConsistency.loaded b log).log := by
    cases flashed : flash log with
    | some img =>
      have same : storedState img =
          (secDataOf (MemoryArray.store (fun _ => (0 : UInt8)) 0 img.toList)).gpdState := by
        rw [← secDataOf_image (MemoryArray.store (fun _ => (0 : UInt8)) 0 img.toList), image_store]
        rfl
      have stored := history.here.stored img flashed
      rw [same] at stored
      rw [loaded_of_image b flashed]
      exact ⟨⟨history, stored⟩, stored⟩
    | none =>
      rw [loaded_of_blank b flashed]
      have data := secDataOf_shadow (emberGpdLoadGpdDefaultConfiguration b (ramCleared log)).gpdNode
        (fun _ => 0)
      generalize shadowOf (emberGpdLoadGpdDefaultConfiguration b (ramCleared log)).gpdNode
        (fun _ => 0) = shadow at data
      have state : (secDataOf shadow).gpdState = appStateNotCommissioned := by
        rw [data]
        rfl
      have free (log : List Event) : Grounds (secDataOf shadow).gpdState log := by
        rw [state]
        exact grounds_free (by decide)
      have erased : Honest (.flashErase :: log) := history.here.idle (by trivial)
      have saved : Honest (.flashSave .freshChip (image shadow) :: .flashErase :: log) := by
        refine erased.cons ?_ (fun eq => nomatch eq)
        rintro _ _ ⟨⟩
        unfold storedState
        rw [secDataOf_image]
        exact free _
      refine ⟨⟨?_, free _⟩, free _⟩
      exact throughout_cons.mpr ⟨saved, throughout_cons.mpr ⟨erased, history⟩⟩
  obtain ⟨gpd, shadow, booted⟩ := powerUp_loaded b log
  refine ⟨loaded.1.note (by trivial) booted shadow, ?_⟩
  rw [gpd, booted]
  exact loaded.2.mono (List.suffix_cons _ _)

theorem earned_life (bidir : b.bidirCapable = true) {log : List Event} (chip : BlankChip b log)
    (actions : List Action) : Earned (life b log actions) := by
  have lives {log : List Event} (history : Throughout Honest log) (actions : List Action) :
      Earned (life b log actions) :=
    List.foldlRecOn actions (GpdTask.perform b) (earned_powerUp history)
      (fun _ earned a _ => earned.perform bidir a)
  have honest : Throughout Honest log := by
    induction chip with
    | blank => exact throughout_nil.mpr honest_nil
    | life actions chip since cut ih => exact (lives ih actions).recorded.history.suffix cut
  exact lives honest actions

end

/-- On a chip that was blank at first, whatever happened to it: when the device is operational,
or enters that state, or flash holds it, then a reply was processed with success and a success
frame was transmitted before, or a send command was executed. -/
theorem operational_grounds (b : Build) (bidir : b.bidirCapable = true) {log : List Event}
    (chip : BlankChip b log) (actions : List Action) :
    ((life b log actions).gpdNode.gpdState = appStateOperational →
      Commissioned (life b log actions).log ∨ Commanded (life b log actions).log) ∧
    ∀ moment, moment <:+ (life b log actions).log →
      (∀ image, flash moment = some image → storedState image = appStateOperational →
        Commissioned moment ∨ Commanded moment) ∧
      ∀ older, moment = .setState appStateOperational :: older →
        Commissioned older ∨ Commanded older := by
  have earned := earned_life bidir chip actions
  refine ⟨earned.ram.operational, fun moment past => ?_⟩
  have honest := earned.recorded.history moment past
  exact ⟨fun image stored => (honest.stored image stored).operational, honest.entered⟩

def commissioningLife : List Action :=
  [.command .commission, .stack [] [] [], .receive AddressGate.maintenanceReplyFrame,
    .stack [] [] [], .stack [] [] []]

theorem commissioned_operational :
    Commissioned (life (shipped (AesCipher.aesCcm tagSize)) [] commissioningLife).log ∨
      Commanded (life (shipped (AesCipher.aesCcm tagSize)) [] commissioningLife).log :=
  (operational_grounds _ rfl .blank commissioningLife).1 (by decide +kernel)

/-- A send command alone makes a fresh device operational. -/
theorem sent_operational : ¬ ∀ actions : List Action,
    (life (shipped (AesCipher.aesCcm tagSize)) [] actions).gpdNode.gpdState = appStateOperational →
    Commissioned (life (shipped (AesCipher.aesCcm tagSize)) [] actions).log := by
  intro claimed
  have operational : (life (shipped (AesCipher.aesCcm tagSize)) []
      [.command .send, .stack [] [] []]).gpdNode.gpdState = appStateOperational := by
    decide +kernel
  have silent : successFrame ∉ onAir (life (shipped (AesCipher.aesCcm tagSize)) []
      [.command .send, .stack [] [] []]).log := by
    decide +kernel
  exact silent (claimed _ operational).2

end GreenPower.CommissioningHistory
