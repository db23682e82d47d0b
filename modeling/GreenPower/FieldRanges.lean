import GreenPower.CrashConsistency

set_option autoImplicit false

/-!
The values the fields of `gpdNode` can take, in RAM and in flash, at every point of every run.
A run here is made of elementary changes, so frames are handled anywhere inside an action.
-/
namespace GreenPower.FieldRanges
open MemoryArray BuildOptions DeviceState Security NonVolatile IncomingCommand ReceiveOutcome
  SendReceive Commissioning GpdTask EventLog DeviceSteps CrashConsistency

/-- `s` is reached inside an action that began in `d`. The power is cut anywhere, and a chip
may be blank or hold an image that some run wrote. -/
inductive Running (b : Build) : Device → Device → Prop
  | fresh : Running b (powerUp b []) (powerUp b [])
  | written {d s : Device} {origin : SaveOrigin} {image : NvImage} (run : Running b d s)
      (saved : .flashSave origin image ∈ s.log) :
      Running b (powerUp b [.flashSave .earlierLife image])
        (powerUp b [.flashSave .earlierLife image])
  | reboot {d s : Device} {log : List Event} (run : Running b d s) (cut : log <:+ s.log) :
      Running b (powerUp b log) (powerUp b log)
  | load {d s : Device} (run : Running b d s) : Running b d (emberGpdLoadSecDataFromNV s)
  | step {d s s' : Device} (run : Running b d s) (step : Step b d s s') : Running b d s'
  | next {d s : Device} (run : Running b d s) : Running b s s

section
variable {b : Build} {d s s' : Device}

theorem Running.steps (run : Running b d s) (steps : Steps b d s s') : Running b d s' :=
  star_preserves (fun _ _ step run => run.step step) steps run

theorem Running.perform (run : Running b d s) (a : Action) :
    Running b (perform b s a) (perform b s a) :=
  (run.next.steps (perform_steps b s a)).next

/-- What the program does from a power up on. -/
theorem Running.life {log : List Event} (run : Running b (powerUp b log) (powerUp b log))
    (actions : List Action) : Running b (life b log actions) (life b log actions) :=
  List.foldlRecOn (motive := fun s => Running b s s) actions (GpdTask.perform b) run
    (fun _ run a _ => run.perform a)

end

def enteredStates : List ApplicationState :=
  [appStateNotCommissioned, appStateChannelRequest, appStateChannelReceived,
    appStateCommissioningReplyReceived, appStateCommissioningSuccessRequest, appStateOperational,
    appStateOperationalCommandRequest]

structure Preserved (b : Build) (P : SecData → Prop) : Prop where
  default : P (defaultSecData b)
  reaction : ∀ (gpd : EmberGpd) (r : Reaction), P gpd.secData → r.InRange →
    P (r.gpdNode gpd).secData
  channel : ∀ (data : SecData) (channel : UInt8), P data →
    channel ∈ b.appChannelSet ∨ channel = nextRxChannel → P { data with channel := channel }
  clearedLevel : ∀ data, P data → P { data with securityLevel := securityLevelNone }
  clearedKeyType : ∀ data, P data → P { data with securityKeyType := securityKeyTypeNoKey }
  restoredLevel : ∀ data begun, P data → P begun →
    P { data with securityLevel := begun.securityLevel }
  entered : ∀ (data : SecData) (gpdState : ApplicationState), P data →
    gpdState ∈ enteredStates → P { data with gpdState := gpdState }

structure Everywhere (P : SecData → Prop) (s : Device) : Prop where
  ram : P s.gpdNode.secData
  shadow : P (secDataOf s.gpdNvData)
  images : ∀ origin image, .flashSave origin image ∈ s.log → P (secDataOf (imageCell image))

section
variable {b : Build} {d s s' : Device} {P : SecData → Prop}

/-- Nothing is stored. -/
theorem Everywhere.change (h : Everywhere P s) (ram : P s'.gpdNode.secData)
    (shadow : s'.gpdNvData = s.gpdNvData) (new : List Event) (log : s'.log = new ++ s.log)
    (unsaved : ∀ origin image, .flashSave origin image ∉ new) : Everywhere P s' where
  ram := ram
  shadow := shadow ▸ h.shadow
  images := by
    intro origin image saved
    rw [log] at saved
    exact h.images origin image ((List.mem_append.mp saved).resolve_left (unsaved origin image))

/-- The shadow array is stored. -/
theorem Everywhere.save (h : Everywhere P s) (ram : s'.gpdNode.secData = s.gpdNode.secData)
    (shadow : P (secDataOf s'.gpdNvData)) {origin : SaveOrigin}
    (log : s'.log = .flashSave origin (image s'.gpdNvData) :: s.log) : Everywhere P s' where
  ram := ram ▸ h.ram
  shadow := shadow
  images := by
    intro origin img saved
    rw [log] at saved
    rcases List.mem_cons.mp saved with now | earlier
    · obtain rfl := (Event.flashSave.inj now).2
      rwa [secDataOf_image]
    · exact h.images origin img earlier

theorem unsaved_of_arrivals {new : List Event} (arrivals : ∀ e ∈ new, Arrival e) :
    ∀ origin image, .flashSave origin image ∉ new :=
  fun _ _ member => nomatch arrivals _ member

theorem unsaved_of_reaction (r : Reaction) :
    ∀ origin image, .flashSave origin image ∉ r.events := by
  intro origin image member
  rcases ReceptionRecord.reaction_events r _ member with ⟨_, eq⟩ | ⟨_, eq⟩ | eq <;> cases eq

theorem unsaved_of_secureEvents (frameType : UInt8) (s : Device) :
    ∀ origin image, .flashSave origin image ∉ secureEvents frameType s := by
  intro origin image member
  obtain ⟨_, _, _, _, eq⟩ := secureEvents_mem member
  cases eq

theorem Everywhere.radio (preserved : Preserved b P) (h : Everywhere P s)
    (step : RadioStep s s') : Everywhere P s' := by
  cases step with
  | startTx => exact h.change h.ram rfl [_] rfl (by simp)
  | startRx => exact h.change h.ram rfl [_] rfl (by simp)
  | nextWindow => exact ⟨h.ram, h.shadow, h.images⟩
  | arrival quiet arrivals =>
    have same := quiet.gpdNode
    exact h.change (same ▸ h.ram) (Quiet.gpdNvData quiet) _ quiet.log (unsaved_of_arrivals arrivals)
  | reaction r _ range =>
    exact h.change (preserved.reaction s.gpdNode r h.ram range) rfl _ rfl (unsaved_of_reaction r)

theorem Everywhere.updateFrameCounter (h : Everywhere P s) :
    Everywhere P (updateFrameCounter b s) := by
  cases sequence : b.macSeq with
  | random =>
    rw [updateFrameCounter_random sequence]
    exact ⟨h.ram, h.shadow, h.images⟩
  | incremental =>
    rw [updateFrameCounter_incremental sequence]
    have data := secDataOf_store_counter s.gpdNvData (s.gpdNode.securityFrameCounter + 1)
    exact h.save rfl (data ▸ h.shadow) rfl

theorem Everywhere.compose (h : Everywhere P s) (frameType : UInt8) (payload : List UInt8) :
    Everywhere P (writeTxFifo b frameType payload (SendReceive.updateFrameCounter b s)) := by
  have updated : Everywhere P (SendReceive.updateFrameCounter b s) := h.updateFrameCounter
  generalize SendReceive.updateFrameCounter b s = s1 at updated
  obtain ⟨mpdu, frame, eq⟩ := writeTxFifo_eq b frameType payload s1
  rw [eq]
  refine updated.change updated.ram rfl (_ :: _) (List.cons_append ..).symm ?_
  intro origin image member
  rcases List.mem_cons.mp member with eq | member
  · cases eq
  · exact unsaved_of_secureEvents frameType s1 origin image member

theorem Everywhere.store (h : Everywhere P s) : Everywhere P (emberGpdStoreSecDataToNV s) := by
  have data := secDataOf_shadow s.gpdNode s.gpdNvData
  exact h.save rfl (data ▸ h.ram) rfl

theorem Everywhere.setState (preserved : Preserved b P) (h : Everywhere P s)
    {gpdState : ApplicationState} (entered : gpdState ∈ enteredStates) :
    Everywhere P (emberGpdSetState gpdState s) :=
  h.change (preserved.entered _ gpdState h.ram entered) rfl [_] rfl (by simp)

theorem Everywhere.step (preserved : Preserved b P) (h : Everywhere P s)
    (begun : P d.gpdNode.secData) (step : Step b d s s') : Everywhere P s' := by
  cases step with
  | radio step => exact h.radio preserved step
  | compose frameType payload => exact h.compose frameType payload
  | store => exact h.store
  | channel channel listed =>
    exact ⟨preserved.channel _ channel h.ram listed, h.shadow, h.images⟩
  | clearSecurity =>
    exact ⟨preserved.clearedKeyType _ (preserved.clearedLevel _ h.ram), h.shadow, h.images⟩
  | clearLevel => exact ⟨preserved.clearedLevel _ h.ram, h.shadow, h.images⟩
  | restoreLevel => exact ⟨preserved.restoredLevel _ _ h.ram begun, h.shadow, h.images⟩
  | giveUp => exact ⟨preserved.entered _ appStateNotCommissioned h.ram (by decide), h.shadow,
    h.images⟩
  | requestAgain => exact ⟨preserved.entered _ appStateChannelRequest h.ram (by decide), h.shadow,
    h.images⟩
  | command gpdState known =>
    refine h.setState preserved ?_
    rcases known with rfl | rfl <;> decide
  | successRequest => exact h.setState preserved (by decide)
  | operational => exact h.setState preserved (by decide)
  | loadDefaults => exact h.change preserved.default rfl [_] rfl (by simp)
  | environment | sweepFlags | windowFlags | descriptionFlag | encryptKey | requestCount |
    channelSubstate | descriptionSubstate => exact ⟨h.ram, h.shadow, h.images⟩

theorem flash_saved {log : List Event} {image : NvImage} (h : flash log = some image) :
    ∃ origin, .flashSave origin image ∈ log := by
  induction log with
  | nil => cases h
  | cons e log ih =>
    cases e with
    | flashErase => cases h
    | flashSave origin image' =>
      obtain rfl := Option.some.inj h
      exact ⟨origin, List.mem_cons_self⟩
    | _ =>
      obtain ⟨origin, saved⟩ := ih h
      exact ⟨origin, List.mem_cons_of_mem _ saved⟩

/-- Loading puts what flash holds in place of the data in RAM, or stores that. -/
theorem everywhere_load (ram : P s.gpdNode.secData)
    (images : ∀ origin image, .flashSave origin image ∈ s.log → P (secDataOf (imageCell image))) :
    Everywhere P (emberGpdLoadSecDataFromNV s) := by
  have loaded : P (secDataOf (nvLoad s).gpdNvData) ∧ ∀ origin image,
      .flashSave origin image ∈ (nvLoad s).log → P (secDataOf (imageCell image)) := by
    unfold nvLoad
    split
    · rename_i img flashed
      obtain ⟨origin, saved⟩ := flash_saved flashed
      refine ⟨?_, images⟩
      rw [← secDataOf_image]
      change P (secDataOf (imageCell (image (MemoryArray.store s.gpdNvData 0 img.toList))))
      rw [image_store]
      exact images origin img saved
    · have data := secDataOf_shadow s.gpdNode s.gpdNvData
      refine ⟨data ▸ ram, fun origin img saved => ?_⟩
      rcases List.mem_cons.mp saved with now | earlier
      · obtain rfl := (Event.flashSave.inj now).2
        change P (secDataOf (imageCell (image (shadowOf s.gpdNode s.gpdNvData))))
        rw [secDataOf_image, data]
        exact ram
      · exact images origin img (List.mem_of_ne_of_mem (by simp) earlier)
  exact ⟨loaded.1, loaded.1, loaded.2⟩

theorem everywhere_powerUp (preserved : Preserved b P) {log : List Event}
    (images : ∀ origin image, .flashSave origin image ∈ log → P (secDataOf (imageCell image))) :
    Everywhere P (powerUp b log) := by
  have loaded : Everywhere P (loaded b log) := everywhere_load preserved.default images
  obtain ⟨gpd, shadow, booted⟩ := powerUp_loaded b log
  exact loaded.change (gpd ▸ loaded.ram) shadow [_] booted (by simp)

theorem Running.everywhere (preserved : Preserved b P) (run : Running b d s) :
    P d.gpdNode.secData ∧ Everywhere P s := by
  have begun {log : List Event} (images : ∀ origin image, .flashSave origin image ∈ log →
      P (secDataOf (imageCell image))) :
      P (GpdTask.powerUp b log).gpdNode.secData ∧ Everywhere P (GpdTask.powerUp b log) :=
    ⟨(everywhere_powerUp preserved images).ram, everywhere_powerUp preserved images⟩
  induction run with
  | fresh => exact begun (by simp)
  | written run saved ih =>
    refine begun (fun origin img member => ?_)
    obtain rfl := (Event.flashSave.inj (List.mem_singleton.mp member)).2
    exact ih.2.images _ _ saved
  | reboot run cut ih =>
    exact begun (fun origin image saved => ih.2.images origin image (cut.subset saved))
  | load run ih => exact ⟨ih.1, everywhere_load ih.2.ram ih.2.images⟩
  | step run step ih => exact ⟨ih.1, ih.2.step preserved ih.1 step⟩
  | next run ih => exact ⟨ih.2.ram, ih.2⟩

end

structure InRange (data : SecData) : Prop where
  channel : 11 ≤ data.channel ∧ data.channel ≤ 26
  securityLevel : data.securityLevel ≤ 3
  securityKeyType : data.securityKeyType ≤ 7
  gpdState : data.gpdState ∈ enteredStates

def Compatible (gpd : EmberGpd) : Prop := ¬ (gpd.autoCommissioning = true ∧ gpd.rxAfterTx ≠ 0)

def EventInRange : Event → Prop
  | .flashSave _ image => InRange (secDataOf (imageCell image))
  | .txFifo _ _ gpd _ => Compatible gpd
  | .decommissioned => False
  | _ => True

structure Configured (b : Build) : Prop where
  firstChannel : 11 ≤ b.appChannelSet.headD 0 ∧ b.appChannelSet.headD 0 ≤ 26
  channels : ∀ channel ∈ b.appChannelSet, 11 ≤ channel ∧ channel ≤ 26
  securityLevel : b.securityLevel ≤ 3
  securityKeyType : b.securityKeyType ≤ 7
  plain : b.appDescriptionFollows = false

theorem shipped_configured (ccm : Ccm) : Configured (shipped ccm) where
  firstChannel := (by decide : (11 : UInt8) ≤ 11 ∧ (11 : UInt8) ≤ 26)
  channels := by
    intro channel listed
    simp only [shipped, List.mem_cons, List.not_mem_nil, or_false] at listed
    rcases listed with rfl | rfl | rfl | rfl | rfl | rfl | rfl | rfl | rfl | rfl | rfl | rfl | rfl |
      rfl | rfl | rfl <;> decide
  securityLevel := (by decide : securityLevelLongFull ≤ 3)
  securityKeyType := (by decide : securityKeyTypeOob ≤ 7)
  plain := rfl

structure Ranged (b : Build) (s : Device) : Prop where
  ram : InRange s.gpdNode.secData
  shadow : InRange (secDataOf s.gpdNvData)
  requests : s.gpdNode.currentCommReq ≤ b.numberOfCommissioningRequest
  compatible : Compatible s.gpdNode
  history : ∀ e ∈ s.log, EventInRange e

section
variable {b : Build} {d s s' : Device}

theorem EventInRange.of_arrival {e : Event} (h : Arrival e) : EventInRange e := by
  cases h <;> trivial

theorem EventInRange.of_reaction (r : Reaction) : ∀ e ∈ r.events, EventInRange e := by
  intro e he
  rcases ReceptionRecord.reaction_events r e he with ⟨_, rfl⟩ | ⟨_, rfl⟩ | rfl <;> trivial

theorem history_append {new log : List Event} (fresh : ∀ e ∈ new, EventInRange e)
    (h : ∀ e ∈ log, EventInRange e) : ∀ e ∈ new ++ log, EventInRange e := by
  intro e he
  rcases List.mem_append.mp he with he | he
  · exact fresh e he
  · exact h e he

theorem history_cons {e : Event} {log : List Event} (fresh : EventInRange e)
    (h : ∀ e ∈ log, EventInRange e) : ∀ x ∈ e :: log, EventInRange x :=
  List.forall_mem_cons.mpr ⟨fresh, h⟩

theorem Ranged.stored (h : Ranged b s) : Everywhere InRange s :=
  ⟨h.ram, h.shadow, fun _ _ saved => h.history _ saved⟩

theorem inRange_preserved (configured : Configured b) : Preserved b InRange where
  default := ⟨configured.firstChannel, configured.securityLevel, configured.securityKeyType,
    (by decide : appStateNotCommissioned ∈ enteredStates)⟩
  reaction := by
    intro gpd r h range
    cases r with
    | ignored => exact h
    | channelConfig channel =>
      exact ⟨range, h.securityLevel, h.securityKeyType,
        (by decide : appStateChannelReceived ∈ enteredStates)⟩
    | replyAccepted newKey level keyType =>
      exact ⟨h.channel, range.1, range.2,
        (by decide : appStateCommissioningReplyReceived ∈ enteredStates)⟩
    | replyRejected => exact { h with }
  channel := by
    intro data channel h listed
    have range : 11 ≤ channel ∧ channel ≤ 26 := by
      rcases listed with listed | rfl
      · exact configured.channels channel listed
      · decide
    exact { h with channel := range }
  clearedLevel _ h := { h with securityLevel := (by decide : securityLevelNone ≤ 3) }
  clearedKeyType _ h := { h with securityKeyType := (by decide : securityKeyTypeNoKey ≤ 7) }
  restoredLevel _ _ h begun := { h with securityLevel := begun.securityLevel }
  entered _ _ h known := { h with gpdState := known }

/-- The rest of `Ranged`, when the stored fields are known to be in range. -/
theorem Ranged.change (h : Ranged b s) (stored : Everywhere InRange s')
    (requests : s'.gpdNode.currentCommReq ≤ b.numberOfCommissioningRequest)
    (compatible : Compatible s'.gpdNode) {new : List Event} (log : s'.log = new ++ s.log)
    (fresh : ∀ e ∈ new, EventInRange e) : Ranged b s' where
  ram := stored.ram
  shadow := stored.shadow
  requests := requests
  compatible := compatible
  history := by
    rw [log]
    exact history_append fresh h.history

theorem Ranged.radio (h : Ranged b s) (stored : Everywhere InRange s') (step : RadioStep s s') :
    Ranged b s' := by
  cases step with
  | startTx =>
    exact ⟨stored.ram, stored.shadow, h.requests, h.compatible, history_cons trivial h.history⟩
  | startRx =>
    exact ⟨stored.ram, stored.shadow, h.requests, h.compatible, history_cons trivial h.history⟩
  | nextWindow => exact ⟨stored.ram, stored.shadow, h.requests, h.compatible, h.history⟩
  | arrival quiet arrivals =>
    have same := quiet.gpdNode
    exact h.change stored (same ▸ h.requests) (same ▸ h.compatible) quiet.log
      (fun e he => EventInRange.of_arrival (arrivals e he))
  | reaction r _ range =>
    have same : (r.gpdNode s.gpdNode).currentCommReq = s.gpdNode.currentCommReq ∧
        (r.gpdNode s.gpdNode).autoCommissioning = s.gpdNode.autoCommissioning ∧
        (r.gpdNode s.gpdNode).rxAfterTx = s.gpdNode.rxAfterTx := by
      cases r <;> exact ⟨rfl, rfl, rfl⟩
    obtain ⟨requests, auto, window⟩ := same
    refine h.change stored (requests ▸ h.requests) ?_ rfl (EventInRange.of_reaction r)
    change ¬ ((r.gpdNode s.gpdNode).autoCommissioning = true ∧
      (r.gpdNode s.gpdNode).rxAfterTx ≠ 0)
    rw [auto, window]
    exact h.compatible

theorem Ranged.updateFrameCounter (h : Ranged b s) : Ranged b (updateFrameCounter b s) := by
  have stored : Everywhere InRange (SendReceive.updateFrameCounter b s) :=
    h.stored.updateFrameCounter
  cases sequence : b.macSeq with
  | random =>
    rw [updateFrameCounter_random sequence] at stored ⊢
    exact ⟨stored.ram, stored.shadow, h.requests, h.compatible, h.history⟩
  | incremental =>
    rw [updateFrameCounter_incremental sequence] at stored ⊢
    exact ⟨stored.ram, stored.shadow, h.requests, h.compatible,
      history_cons (stored.images _ _ List.mem_cons_self) h.history⟩

theorem Ranged.compose (h : Ranged b s) (frameType : UInt8) (payload : List UInt8) :
    Ranged b (writeTxFifo b frameType payload (SendReceive.updateFrameCounter b s)) := by
  have updated := h.updateFrameCounter
  have stored := updated.stored
  generalize SendReceive.updateFrameCounter b s = s1 at updated stored
  obtain ⟨mpdu, frame, eq⟩ := writeTxFifo_eq b frameType payload s1
  rw [eq]
  refine ⟨stored.ram, stored.shadow, updated.requests, updated.compatible, ?_⟩
  refine history_cons updated.compatible (history_append ?_ updated.history)
  intro e he
  obtain ⟨_, _, _, _, rfl⟩ := secureEvents_mem he
  trivial

theorem Ranged.step (h : Ranged b s) (configured : Configured b)
    (entered : d.gpdNode.gpdState ∈ enteredStates) (stored : Everywhere InRange s')
    (step : Step b d s s') : Ranged b s' := by
  have follows {p : Prop} (follows : b.appDescriptionFollows = true) : p := by
    rw [configured.plain] at follows
    cases follows
  cases step with
  | radio step => exact h.radio stored step
  | compose frameType payload => exact h.compose frameType payload
  | store =>
    exact ⟨stored.ram, stored.shadow, h.requests, h.compatible,
      history_cons (stored.images _ _ List.mem_cons_self) h.history⟩
  | sweepFlags =>
    exact ⟨stored.ram, stored.shadow, h.requests, fun both => both.2 rfl, h.history⟩
  | windowFlags =>
    exact ⟨stored.ram, stored.shadow, h.requests, fun both => Bool.false_ne_true both.1, h.history⟩
  | descriptionFlag _ given => exact follows given
  | requestCount count plain bound =>
    have few : count ≤ b.numberOfCommissioningRequest := by
      rcases bound with rfl | ⟨c, less, rfl⟩
      · exact UInt8.zero_le
      · rw [UInt8.lt_iff_toNat_lt] at less
        rw [UInt8.le_iff_toNat_le, UInt8.toNat_add]
        exact (Nat.mod_le _ _).trans less
    exact ⟨stored.ram, stored.shadow, few, h.compatible, h.history⟩
  | descriptionSubstate _ given => exact follows given
  | command | successRequest | operational =>
    exact ⟨stored.ram, stored.shadow, h.requests, h.compatible, history_cons trivial h.history⟩
  | loadDefaults invalid =>
    rw [invalid] at entered
    exact absurd entered (by decide)
  | environment | channel | clearSecurity | clearLevel | restoreLevel | encryptKey |
    channelSubstate | giveUp | requestAgain =>
    exact ⟨stored.ram, stored.shadow, h.requests, h.compatible, h.history⟩

theorem ranged_load (stored : Everywhere InRange (emberGpdLoadSecDataFromNV s))
    (requests : s.gpdNode.currentCommReq ≤ b.numberOfCommissioningRequest)
    (compatible : Compatible s.gpdNode) (history : ∀ e ∈ s.log, EventInRange e) :
    Ranged b (emberGpdLoadSecDataFromNV s) := by
  have loaded : (∀ e ∈ (nvLoad s).log, EventInRange e) ∧ (nvLoad s).gpdNode = s.gpdNode := by
    have images := stored.images
    change ∀ origin image, .flashSave origin image ∈ (nvLoad s).log → _ at images
    unfold nvLoad at images ⊢
    split at images
    · exact ⟨history, rfl⟩
    · exact ⟨history_cons (images _ _ List.mem_cons_self) (history_cons trivial history), rfl⟩
  obtain ⟨history, same⟩ := loaded
  unfold emberGpdLoadSecDataFromNV at stored ⊢
  refine ⟨stored.ram, stored.shadow, ?_, ?_, history⟩
  · rw [← same] at requests
    exact requests
  · rw [← same] at compatible
    exact compatible

theorem Ranged.powerUp (configured : Configured b) {log : List Event}
    (history : ∀ e ∈ log, EventInRange e) : Ranged b (powerUp b log) := by
  have images : ∀ origin image, .flashSave origin image ∈ log →
      InRange (secDataOf (imageCell image)) := fun _ _ saved => history _ saved
  have stored := everywhere_powerUp (inRange_preserved configured) images
  have loaded : Ranged b (CrashConsistency.loaded b log) :=
    ranged_load (everywhere_load (inRange_preserved configured).default images) UInt8.zero_le
      (fun both => nomatch both.1) history
  obtain ⟨gpd, shadow, booted⟩ := powerUp_loaded b log
  have grown : (GpdTask.powerUp b log).log =
      [.booted (CrashConsistency.loaded b log).gpdNode.securityKey] ++
        (CrashConsistency.loaded b log).log := booted
  exact loaded.change stored (gpd ▸ loaded.requests) (gpd ▸ loaded.compatible) grown
    (List.forall_mem_singleton.mpr trivial)

theorem Running.ranged (configured : Configured b) (run : Running b d s) :
    InRange d.gpdNode.secData ∧ Ranged b s := by
  have preserved := inRange_preserved configured
  refine ⟨(run.everywhere preserved).1, ?_⟩
  induction run with
  | fresh => exact Ranged.powerUp configured (by simp)
  | written run saved ih =>
    have stored : InRange _ := ih.history _ saved
    exact Ranged.powerUp configured (List.forall_mem_singleton.mpr stored)
  | reboot run cut ih => exact Ranged.powerUp configured (fun e he => ih.history e (cut.subset he))
  | load run ih =>
    have stored := (run.load.everywhere preserved).2
    exact ranged_load stored ih.requests ih.compatible ih.history
  | step run step ih =>
    obtain ⟨begun, stored⟩ := (run.step step).everywhere preserved
    exact ih.step configured begun.gpdState stored step
  | next _ ih => exact ih

end

/-- Whatever is sent, received, stored or cut short, in any order. -/
theorem fields_in_range (ccm : Ccm) {d s : Device} (run : Running (shipped ccm) d s) :
    (11 ≤ s.gpdNode.channel ∧ s.gpdNode.channel ≤ 26) ∧ s.gpdNode.securityLevel ≤ 3 ∧
      s.gpdNode.securityKeyType ≤ 7 ∧ s.gpdNode.currentCommReq ≤ 4 ∧
      s.gpdNode.gpdState ∈ enteredStates ∧ s.gpdNode.gpdState ≠ appStateInvalid ∧
      .decommissioned ∉ s.log ∧
      ∀ frameType payload gpd frame, .txFifo frameType payload gpd frame ∈ s.log →
        ¬ (gpd.autoCommissioning = true ∧ gpd.rxAfterTx ≠ 0) := by
  obtain ⟨-, ranged⟩ := run.ranged (shipped_configured ccm)
  have ram := ranged.ram
  refine ⟨ram.channel, ram.securityLevel, ram.securityKeyType, ranged.requests, ram.gpdState, ?_, ?_, ?_⟩
  · intro invalid
    have entered : s.gpdNode.gpdState ∈ enteredStates := ram.gpdState
    rw [invalid] at entered
    exact absurd entered (by decide)
  · exact fun erased => ranged.history _ erased
  · exact fun _ _ _ _ built => ranged.history _ built

def interruptedSweep : Device :=
  let shipped := shipped (AesCipher.aesCcm tagSize)
  powerUp shipped
    (life shipped [] [.command .commission, .stack [] [] [], .command .send, .stack [] [] []]).log

theorem interruptedSweep_in_range : 11 ≤ interruptedSweep.gpdNode.channel ∧
    interruptedSweep.gpdNode.channel ≤ 26 :=
  (fields_in_range _ (.reboot (Running.fresh.life _) List.suffix_rfl)).1

end GreenPower.FieldRanges
