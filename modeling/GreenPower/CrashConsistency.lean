import GreenPower.AesCipher
import GreenPower.DeviceSteps

set_option autoImplicit false

/-!
The flash over the whole history of a chip. The shadow array always holds the image in flash
and the device's counter; with the incremental sequence mode this survives a power cut at any
event.
-/
namespace GreenPower.CrashConsistency
open MemoryArray BuildOptions DeviceState Security NonVolatile FrameBuild ReceiveOutcome SendReceive
  Commissioning GpdTask EventLog DeviceSteps

def defaultSecData (b : Build) : SecData :=
  (emberGpdLoadGpdDefaultConfiguration b (ramCleared [])).gpdNode.secData

/-- The data a full store writes; counter saves say nothing about it. -/
def savedSecData (b : Build) : Event → Option SecData
  | .flashSave (.secData gpd) _ => some gpd.secData
  | .flashSave .freshChip _ => some (defaultSecData b)
  | .flashSave .earlierLife image => some (secDataOf (imageCell image))
  | _ => none

/-- Key, key type, security level, channel and state of the most recent full store. -/
def durable (b : Build) (log : List Event) : SecData :=
  (log.findSome? (savedSecData b)).getD (defaultSecData b)

def counterSent : Event → Option UInt32
  | .txFifo _ _ gpd _ => some gpd.securityFrameCounter
  | _ => none

/-- The counters of the frames built so far, one for each call of `emberAfGpdfSend`. -/
def sent (log : List Event) : List UInt32 := log.filterMap counterSent

def savedCounter : Event → Option UInt32
  | .flashSave .frameCounter image => some (counterOf (imageCell image))
  | _ => none

def NotWrapped (log : List Event) : Prop := ∀ e ∈ log, savedCounter e ≠ some 0

instance (log : List Event) : Decidable (NotWrapped log) := by
  unfold NotWrapped
  infer_instance

structure Sound (b : Build) (log : List Event) : Prop where
  stored : ∀ img, flash log = some img → secDataOf (imageCell img) = durable b log
  blank : flash log = none → durable b log = defaultSecData b ∧ sent log = []
  covered : NotWrapped log → ∀ img, flash log = some img →
    ∀ c ∈ sent log, c ≤ counterOf (imageCell img)
  decreasing : NotWrapped log → (sent log).Pairwise (· > ·)
  started : ∀ skipCca channel c older, log = .startTx skipCca channel c :: older →
    (sent older).head? = some c

def Silent : Event → Prop
  | .flashErase => False
  | .flashSave _ _ => False
  | .txFifo _ _ _ _ => False
  | .startTx _ _ _ => False
  | _ => True

section
variable {b : Build} {log : List Event}

theorem notWrapped_cons {e : Event} (h : NotWrapped (e :: log)) : NotWrapped log :=
  fun x hx => h x (List.mem_cons_of_mem _ hx)

theorem flash_silent {e : Event} (silent : Silent e) : flash (e :: log) = flash log := by
  cases e <;> first | rfl | exact silent.elim

theorem durable_silent {e : Event} (h : savedSecData b e = none) :
    durable b (e :: log) = durable b log := by
  unfold durable
  rw [List.findSome?_cons, h]

theorem durable_saved {e : Event} {data : SecData} (h : savedSecData b e = some data) :
    durable b (e :: log) = data := by
  unfold durable
  rw [List.findSome?_cons, h]
  rfl

theorem sent_silent {e : Event} (h : counterSent e = none) : sent (e :: log) = sent log :=
  List.filterMap_cons_none h

/-- An event that leaves all the readings of the history as they are. -/
theorem Sound.keep (h : Sound b log) {e : Event} (image : flash (e :: log) = flash log)
    (data : savedSecData b e = none) (counter : counterSent e = none)
    (start : ∀ skipCca channel c, e = .startTx skipCca channel c → (sent log).head? = some c) :
    Sound b (e :: log) where
  stored img hi := by
    rw [durable_silent data]
    exact h.stored img (image ▸ hi)
  blank hi := by
    rw [durable_silent data, sent_silent counter]
    exact h.blank (image ▸ hi)
  covered hw img hi := by
    rw [sent_silent counter]
    exact h.covered (notWrapped_cons hw) img (image ▸ hi)
  decreasing hw := by
    rw [sent_silent counter]
    exact h.decreasing (notWrapped_cons hw)
  started skipCca channel c older eq := by
    obtain ⟨rfl, rfl⟩ := List.cons.inj eq
    exact start skipCca channel c rfl

theorem Sound.silent (h : Sound b log) {e : Event} (silent : Silent e) : Sound b (e :: log) := by
  refine h.keep (flash_silent silent) ?_ ?_ ?_
  · cases e <;> first | rfl | exact silent.elim
  · cases e <;> first | rfl | exact silent.elim
  · rintro _ _ _ rfl
    exact silent.elim

theorem Sound.erase (h : Sound b log) (blank : flash log = none) :
    Sound b (.flashErase :: log) :=
  h.keep blank.symm rfl rfl (fun _ _ _ e => by cases e)

theorem Sound.save (h : Sound b log) (origin : SaveOrigin) (img : NvImage)
    (data : secDataOf (imageCell img) = durable b (.flashSave origin img :: log))
    (grows : NotWrapped (.flashSave origin img :: log) → ∀ older, flash log = some older →
      counterOf (imageCell older) ≤ counterOf (imageCell img)) :
    Sound b (.flashSave origin img :: log) where
  stored img' hi := by
    cases hi
    exact data
  blank hi := by cases hi
  covered hw img' hi c hc := by
    cases hi
    rw [sent_silent rfl] at hc
    cases older : flash log with
    | none =>
      rw [(h.blank older).2] at hc
      cases hc
    | some img0 =>
      exact UInt32.le_trans (h.covered (notWrapped_cons hw) img0 older c hc) (grows hw img0 older)
  decreasing hw := by
    rw [sent_silent rfl]
    exact h.decreasing (notWrapped_cons hw)
  started _ _ _ _ e := by cases e

theorem Sound.transmit (h : Sound b log) {img : NvImage} (stored : flash log = some img)
    (frameType : UInt8) (payload frame : List UInt8) (gpd : EmberGpd)
    (counter : gpd.securityFrameCounter = counterOf (imageCell img))
    (fresh : NotWrapped log → ∀ c ∈ sent log, c < gpd.securityFrameCounter) :
    Sound b (.txFifo frameType payload gpd frame :: log) where
  stored img' hi := by
    rw [durable_silent rfl]
    exact h.stored img' hi
  blank hi := by
    have none : flash log = none := hi
    rw [stored] at none
    cases none
  covered hw img' hi c hc := by
    have same : flash log = some img' := hi
    rcases List.mem_cons.mp hc with rfl | hc
    · rw [stored] at same
      cases same
      rw [counter]
      exact UInt32.le_refl _
    · exact h.covered (notWrapped_cons hw) img' same c hc
  decreasing hw :=
    List.pairwise_cons.mpr ⟨fresh (notWrapped_cons hw), h.decreasing (notWrapped_cons hw)⟩
  started _ _ _ _ e := by cases e

end

/-- The shadow array holds the image in flash and the counter of `gpdNode`. -/
structure Synced (b : Build) (s : Device) : Prop where
  sound : Throughout (Sound b) s.log
  flash : flash s.log = some (image s.gpdNvData)
  counter : counterOf s.gpdNvData = s.gpdNode.securityFrameCounter

section
variable {b : Build} {s : Device}

theorem secDataOf_image (cell : Cells UInt8) : secDataOf (imageCell (image cell)) = secDataOf cell :=
  secDataOf_congr (imageCell_image cell)

theorem counterOf_image (cell : Cells UInt8) : counterOf (imageCell (image cell)) = counterOf cell :=
  counterOf_congr (imageCell_image cell)

theorem Synced.secData (h : Synced b s) : secDataOf s.gpdNvData = durable b s.log := by
  rw [← secDataOf_image]
  exact h.sound.here.stored _ h.flash

/-- Steps that leave the log, the shadow array and the counter alone. -/
theorem Synced.same (h : Synced b s) {s' : Device} (log : s'.log = s.log)
    (shadow : s'.gpdNvData = s.gpdNvData)
    (counter : s'.gpdNode.securityFrameCounter = s.gpdNode.securityFrameCounter) :
    Synced b s' := by
  refine ⟨?_, ?_, ?_⟩
  · rw [log]
    exact h.sound
  · rw [log, shadow]
    exact h.flash
  · rw [shadow, counter]
    exact h.counter

theorem flash_append_silent {new log : List Event} (silent : ∀ e ∈ new, Silent e) :
    DeviceState.flash (new ++ log) = DeviceState.flash log := by
  induction new with
  | nil => rfl
  | cons e new ih =>
    rw [List.cons_append, flash_silent (silent e List.mem_cons_self)]
    exact ih (fun x hx => silent x (List.mem_cons_of_mem _ hx))

theorem Silent.counterSent {e : Event} (silent : Silent e) :
    CrashConsistency.counterSent e = none := by
  cases e <;> first | rfl | exact silent.elim

theorem sent_append_silent {new log : List Event} (silent : ∀ e ∈ new, Silent e) :
    sent (new ++ log) = sent log := by
  unfold sent
  rw [List.filterMap_append,
    List.filterMap_eq_nil_iff.mpr (fun e he => (silent e he).counterSent), List.nil_append]

theorem Synced.record (h : Synced b s) {s' : Device} {new : List Event}
    (silent : ∀ e ∈ new, Silent e) (log : s'.log = new ++ s.log)
    (shadow : s'.gpdNvData = s.gpdNvData)
    (counter : s'.gpdNode.securityFrameCounter = s.gpdNode.securityFrameCounter) :
    Synced b s' := by
  refine ⟨?_, ?_, ?_⟩
  · rw [log]
    exact h.sound.append new (fun e he older sound => sound.silent (silent e he))
  · rw [log, shadow, flash_append_silent silent]
    exact h.flash
  · rw [shadow, counter]
    exact h.counter

theorem Synced.note (h : Synced b s) {s' : Device} {e : Event} (silent : Silent e)
    (log : s'.log = e :: s.log) (shadow : s'.gpdNvData = s.gpdNvData)
    (counter : s'.gpdNode.securityFrameCounter = s.gpdNode.securityFrameCounter) :
    Synced b s' :=
  h.record (List.forall_mem_singleton.mpr silent) log shadow counter

theorem Synced.store (h : Synced b s) : Synced b (emberGpdStoreSecDataToNV s) := by
  have counter := counterOf_shadow s.gpdNode s.gpdNvData
  have data := secDataOf_shadow s.gpdNode s.gpdNvData
  unfold emberGpdStoreSecDataToNV nvStore emberGpdCopyToShadow
  generalize shadowOf s.gpdNode s.gpdNvData = shadow at counter data
  have saved : durable b (.flashSave (.secData s.gpdNode) (image shadow) :: s.log) =
      s.gpdNode.secData := durable_saved rfl
  have sound := h.sound.here.save (.secData s.gpdNode) (image shadow)
    ((secDataOf_image shadow).trans (data.trans saved.symm)) (fun _ older stored => by
      obtain rfl := Option.some.inj (h.flash.symm.trans stored)
      rw [counterOf_image, counterOf_image, counter, h.counter]
      exact UInt32.le_refl _)
  exact ⟨throughout_cons.mpr ⟨sound, h.sound⟩, rfl, counter⟩

theorem lt_succ_of_ne_zero {c n : UInt32} (h : n + 1 ≠ 0) (le : c ≤ n) : c < n + 1 := by
  have small := n.toNat_lt
  have wraps : n.toNat + 1 ≠ 4294967296 := by
    intro full
    apply h
    apply UInt32.toNat_inj.mp
    rw [UInt32.toNat_add]
    change (n.toNat + 1) % 4294967296 = 0
    omega
  rw [UInt32.le_iff_toNat_le] at le
  rw [UInt32.lt_iff_toNat_lt, UInt32.toNat_add]
  change c.toNat < (n.toNat + 1) % 4294967296
  omega

/-- The counter save comes before the frame, so no frame built so far has the new counter. -/
theorem Synced.updateFrameCounter (incremental : b.macSeq = .incremental) (h : Synced b s) :
    Synced b (updateFrameCounter b s) ∧ (NotWrapped (updateFrameCounter b s).log →
      ∀ c ∈ sent (updateFrameCounter b s).log,
        c < (updateFrameCounter b s).gpdNode.securityFrameCounter) := by
  have eq := updateFrameCounter_incremental incremental s
  have counter := counterOf_store s.gpdNvData (s.gpdNode.securityFrameCounter + 1)
  have data := secDataOf_store_counter s.gpdNvData (s.gpdNode.securityFrameCounter + 1)
  rw [eq]
  generalize MemoryArray.store s.gpdNvData nvDataFrameCounterIndex
    (copy4Bytes (s.gpdNode.securityFrameCounter + 1)) = shadow at counter data
  have next (hw : NotWrapped (.flashSave .frameCounter (image shadow) :: s.log)) :
      s.gpdNode.securityFrameCounter + 1 ≠ 0 := by
    intro zero
    apply hw _ List.mem_cons_self
    change some (counterOf (imageCell (image shadow))) = some 0
    rw [counterOf_image, counter, zero]
  have same : durable b (.flashSave .frameCounter (image shadow) :: s.log) = durable b s.log :=
    durable_silent rfl
  have sound := h.sound.here.save .frameCounter (image shadow)
    ((secDataOf_image shadow).trans (data.trans (h.secData.trans same.symm)))
    (fun hw older stored => by
      obtain rfl := Option.some.inj (h.flash.symm.trans stored)
      rw [counterOf_image, counterOf_image, counter, h.counter]
      exact UInt32.le_of_lt (lt_succ_of_ne_zero (next hw) (UInt32.le_refl _)))
  refine ⟨⟨throughout_cons.mpr ⟨sound, h.sound⟩, rfl, counter⟩, fun hw c hc => ?_⟩
  have covered := h.sound.here.covered (notWrapped_cons hw) _ h.flash c hc
  rw [counterOf_image, h.counter] at covered
  exact lt_succ_of_ne_zero (next hw) covered

theorem secureEvents_silent (frameType : UInt8) (s : Device) :
    ∀ e ∈ secureEvents frameType s, Silent e := by
  intro e he
  obtain ⟨_, _, _, _, rfl⟩ := secureEvents_mem he
  trivial

theorem Synced.compose (incremental : b.macSeq = .incremental) (h : Synced b s)
    (frameType : UInt8) (payload : List UInt8) :
    Synced b (writeTxFifo b frameType payload (SendReceive.updateFrameCounter b s)) := by
  obtain ⟨updated, fresh⟩ := h.updateFrameCounter incremental
  generalize SendReceive.updateFrameCounter b s = s1 at updated fresh
  obtain ⟨mpdu, frame, eq⟩ := writeTxFifo_eq b frameType payload s1
  have silent := secureEvents_silent frameType s1
  have secured : Synced b { s1 with log := secureEvents frameType s1 ++ s1.log } :=
    updated.record silent rfl rfl rfl
  have counter : s1.gpdNode.securityFrameCounter =
      counterOf (imageCell (image s1.gpdNvData)) := by
    rw [counterOf_image, updated.counter]
  have sound := secured.sound.here.transmit secured.flash frameType payload frame s1.gpdNode counter
    (fun hw c hc => by
      rw [sent_append_silent silent] at hc
      exact fresh (fun x hx => hw x (List.mem_append_right _ hx)) c hc)
  rw [eq]
  exact ⟨throughout_cons.mpr ⟨sound, secured.sound⟩, secured.flash, updated.counter⟩

theorem lastFrame_counter (log : List Event) :
    (lastFrame log).map EmberGpd.securityFrameCounter = (sent log).head? := by
  induction log with
  | nil => rfl
  | cons e log ih =>
    cases frame : counterSent e with
    | none =>
      have other : frameSent e = none := by
        cases e <;> first | rfl | cases frame
      unfold lastFrame
      rw [sent_silent frame, List.findSome?_cons, other]
      exact ih
    | some c =>
      cases e <;> cases frame
      rfl

theorem Arrival.silent {e : Event} (h : Arrival e) : Silent e := by
  cases h <;> trivial

theorem Reaction.silent (r : Reaction) : ∀ e ∈ r.events, Silent e := by
  intro e he
  rcases ReceptionRecord.reaction_events r e he with ⟨_, rfl⟩ | ⟨_, rfl⟩ | rfl <;> trivial

theorem Quiet.gpdNvData {size : ℕ} {new : List Event} {s s' : Device} (h : Quiet size new s s') :
    s'.gpdNvData = s.gpdNvData := by
  obtain ⟨cell, t, n, _, _, rfl⟩ := h
  rfl

theorem Synced.radio {s' : Device} (step : RadioStep s s') (h : Synced b s) : Synced b s' := by
  cases step with
  | startTx _ loaded =>
    unfold Loaded at loaded
    rw [lastFrame_counter] at loaded
    refine ⟨throughout_cons.mpr ⟨h.sound.here.keep rfl rfl rfl ?_, h.sound⟩, h.flash, h.counter⟩
    intro skipCca channel c e
    cases e
    exact loaded
  | startRx listens =>
    exact h.note (by trivial) rfl rfl rfl
  | nextWindow air => exact h.same rfl rfl rfl
  | arrival quiet arrivals =>
    exact h.record (fun e he => Arrival.silent (arrivals e he)) quiet.log (Quiet.gpdNvData quiet)
      (by rw [quiet.gpdNode])
  | reaction r range =>
    exact h.record (Reaction.silent r) rfl rfl (Reaction.frameCounter r s.gpdNode)

theorem Synced.setState (h : Synced b s) (st : ApplicationState) :
    Synced b (IncomingCommand.emberGpdSetState st s) :=
  h.note (by trivial) rfl rfl rfl

theorem Synced.step (incremental : b.macSeq = .incremental) {d s' : Device}
    (step : Step b d s s') (h : Synced b s) : Synced b s' := by
  cases step with
  | radio step => exact h.radio step
  | compose frameType payload => exact h.compose incremental frameType payload
  | store => exact h.store
  | command st known => exact h.setState st
  | successRequest replied => exact h.setState _
  | operational done => exact h.setState _
  | loadDefaults invalid => exact h.note (by trivial) rfl rfl rfl
  | _ => exact h.same rfl rfl rfl

theorem Synced.perform (incremental : b.macSeq = .incremental) (h : Synced b s) (a : Action) :
    Synced b (perform b s a) :=
  star_preserves (fun _ _ step h => h.step incremental step) (perform_steps b s a) h

end

section
variable (b : Build) {log : List Event}

theorem image_store (f : Cells UInt8) (img : NvImage) : image (store f 0 img.toList) = img := by
  ext i hi
  have bound : i < img.toList.length := by simpa using hi
  simp only [image, Vector.getElem_ofFn]
  rw [store_at f 0 img.toList i i bound (Nat.zero_add i).symm, Vector.getElem_toList]

def loaded (b : Build) (log : List Event) : Device :=
  emberGpdLoadSecDataFromNV (emberGpdLoadGpdDefaultConfiguration b (ramCleared log))

theorem powerUp_loaded (log : List Event) : (powerUp b log).gpdNode = (loaded b log).gpdNode ∧
    (powerUp b log).gpdNvData = (loaded b log).gpdNvData ∧
    (powerUp b log).log = .booted (loaded b log).gpdNode.securityKey :: (loaded b log).log :=
  ⟨rfl, rfl, rfl⟩

theorem loaded_of_image {img : NvImage} (stored : flash log = some img) :
    loaded b log = { ramCleared log with
      gpdNode :=
        { setSecData (emberGpdLoadGpdDefaultConfiguration b (ramCleared log)).gpdNode
            (secDataOf (store (fun _ => 0) 0 img.toList)) with
          securityFrameCounter := counterOf (store (fun _ => 0) 0 img.toList) }
      gpdNvData := store (fun _ => 0) 0 img.toList } := by
  unfold loaded emberGpdLoadSecDataFromNV nvLoad
  have same : (emberGpdLoadGpdDefaultConfiguration b (ramCleared log)).log = log := rfl
  rw [same, stored]
  rfl

theorem loaded_of_blank (blank : flash log = none) :
    let gpd := (emberGpdLoadGpdDefaultConfiguration b (ramCleared log)).gpdNode
    let shadow := shadowOf gpd (fun _ => 0)
    loaded b log = { ramCleared log with
      gpdNode := { setSecData gpd (secDataOf shadow) with securityFrameCounter := counterOf shadow }
      gpdNvData := shadow
      log := .flashSave .freshChip (image shadow) :: .flashErase :: log } := by
  unfold loaded emberGpdLoadSecDataFromNV nvLoad
  have same : (emberGpdLoadGpdDefaultConfiguration b (ramCleared log)).log = log := rfl
  rw [same, blank]
  rfl

theorem Synced.loaded (h : Throughout (Sound b) log) : Synced b (loaded b log) ∧
    (loaded b log).gpdNode.secData = durable b log := by
  cases flashed : DeviceState.flash log with
  | some img =>
    have same := image_store (fun _ => 0) img
    have data := secDataOf_image (MemoryArray.store (fun _ => 0) 0 img.toList)
    rw [loaded_of_image b flashed]
    generalize MemoryArray.store (fun _ => (0 : UInt8)) 0 img.toList = shadow at same data
    subst same
    exact ⟨⟨h, flashed, rfl⟩, data.symm.trans (h.here.stored _ flashed)⟩
  | none =>
    have data := secDataOf_shadow (emberGpdLoadGpdDefaultConfiguration b (ramCleared log)).gpdNode
      (fun _ => 0)
    rw [loaded_of_blank b flashed]
    generalize shadowOf (emberGpdLoadGpdDefaultConfiguration b (ramCleared log)).gpdNode
      (fun _ => 0) = shadow at data
    have erased := h.here.erase flashed
    have saved : durable b (.flashSave .freshChip (image shadow) :: .flashErase :: log) =
        defaultSecData b := durable_saved rfl
    have default : secDataOf shadow = defaultSecData b := data
    have sound := erased.save .freshChip (image shadow)
      ((secDataOf_image shadow).trans (default.trans saved.symm)) (fun _ older stored => by cases stored)
    exact ⟨⟨throughout_cons.mpr ⟨sound, throughout_cons.mpr ⟨erased, h⟩⟩, rfl, rfl⟩,
      default.trans (h.here.blank flashed).1.symm⟩

theorem Synced.powerUp (h : Throughout (Sound b) log) : Synced b (powerUp b log) ∧
    (powerUp b log).gpdNode.secData = durable b log := by
  obtain ⟨synced, data⟩ := Synced.loaded b h
  obtain ⟨gpd, shadow, booted⟩ := powerUp_loaded b log
  refine ⟨synced.note (by trivial) booted shadow (by rw [gpd]), ?_⟩
  rw [gpd, data]

theorem Synced.life (incremental : b.macSeq = .incremental) (h : Throughout (Sound b) log)
    (actions : List Action) : Synced b (life b log actions) :=
  List.foldlRecOn actions (GpdTask.perform b) (Synced.powerUp b h).1
    (fun _ synced a _ => synced.perform incremental a)

theorem sound_blank : Sound b [] where
  stored _ hi := by cases hi
  blank _ := ⟨rfl, rfl⟩
  covered _ _ hi := by cases hi
  decreasing _ := List.Pairwise.nil
  started _ _ _ _ e := by cases e

theorem sound_written (img : NvImage) : Sound b [.flashSave .earlierLife img] :=
  (sound_blank b).save .earlierLife img
    (show _ = durable b [.flashSave .earlierLife img] from (durable_saved rfl).symm)
    (fun _ _ older => by cases older)

end

def toggledLog : List Event :=
  (life (shipped (AesCipher.aesCcm tagSize)) [] [.command .send, .stack [] [] []]).log

end GreenPower.CrashConsistency
