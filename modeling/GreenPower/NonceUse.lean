import GreenPower.TaskDevice

set_option autoImplicit false

/-!
The nonces under which frames are secured. The counter in a nonce is in flash before the CCM runs,
so a power cut between the two loses a counter but never brings one back.
-/
namespace GreenPower.NonceUse
open MemoryArray ByteWord BuildOptions DeviceState Security NonVolatile FrameBuild SendReceive
  Commissioning GpdTask EventLog DeviceSteps CrashConsistency TaskSystem TaskDevice

def nonceUsed : Event → Option (List UInt8)
  | .secure _ _ _ nonce => some nonce
  | _ => none

def noncesUsed (log : List Event) : List (List UInt8) := log.filterMap nonceUsed

def counterOctets (nonce : List UInt8) : UInt32 := word32 ((nonce.drop 8).take 4)

structure Fresh (log : List Event) : Prop where
  blank : flash log = none → noncesUsed log = []
  covered : NotWrapped log → ∀ img, flash log = some img →
    ∀ n ∈ noncesUsed log, counterOctets n ≤ counterOf (imageCell img)
  growing : NotWrapped log →
    (noncesUsed log).Pairwise (fun n older => counterOctets older < counterOctets n)

section
variable {log : List Event}

theorem noncesUsed_none {e : Event} (h : nonceUsed e = none) :
    noncesUsed (e :: log) = noncesUsed log := List.filterMap_cons_none h

theorem Fresh.keep (h : Fresh log) {e : Event} (image : flash (e :: log) = flash log)
    (unused : nonceUsed e = none) : Fresh (e :: log) where
  blank hi := by
    rw [noncesUsed_none unused]
    exact h.blank (image ▸ hi)
  covered hw img hi := by
    rw [noncesUsed_none unused]
    exact h.covered (notWrapped_cons hw) img (image ▸ hi)
  growing hw := by
    rw [noncesUsed_none unused]
    exact h.growing (notWrapped_cons hw)

theorem Fresh.save (h : Fresh log) (origin : SaveOrigin) (img : NvImage)
    (grows : NotWrapped (.flashSave origin img :: log) → ∀ older, flash log = some older →
      counterOf (imageCell older) ≤ counterOf (imageCell img)) :
    Fresh (.flashSave origin img :: log) where
  blank hi := by cases hi
  covered hw img' hi n hn := by
    cases hi
    rw [noncesUsed_none rfl] at hn
    cases older : flash log with
    | none =>
      rw [h.blank older] at hn
      cases hn
    | some img0 =>
      exact UInt32.le_trans (h.covered (notWrapped_cons hw) img0 older n hn) (grows hw img0 older)
  growing hw := by
    rw [noncesUsed_none rfl]
    exact h.growing (notWrapped_cons hw)

/-- A nonce with the counter in flash, above all before it. -/
theorem Fresh.use (h : Fresh log) {img : NvImage} (stored : flash log = some img)
    (level : UInt8) (ccmKey securityKey : Key) (nonce : List UInt8)
    (counter : counterOctets nonce = counterOf (imageCell img))
    (above : NotWrapped log → ∀ n ∈ noncesUsed log, counterOctets n < counterOctets nonce) :
    Fresh (.secure level ccmKey securityKey nonce :: log) where
  blank hi := by
    have none : flash log = none := hi
    rw [stored] at none
    cases none
  covered hw img' hi n hn := by
    have same : flash log = some img' := hi
    rcases List.mem_cons.mp hn with rfl | hn
    · rw [stored] at same
      cases same
      rw [counter]
      exact UInt32.le_refl _
    · exact h.covered (notWrapped_cons hw) img' same n hn
  growing hw :=
    List.pairwise_cons.mpr ⟨above (notWrapped_cons hw), h.growing (notWrapped_cons hw)⟩

theorem fresh_nil : Fresh [] where
  blank _ := rfl
  covered _ _ hi := by cases hi
  growing _ := List.Pairwise.nil

end

/-- The nonces were fresh at every moment of the history of a device in step with its flash. -/
structure Guarded (b : Build) (s : Device) : Prop where
  synced : Synced b s
  fresh : Throughout Fresh s.log

section
variable {b : Build} {s s' : Device}

def Idle (e : Event) : Prop := (∀ log, flash (e :: log) = flash log) ∧ nonceUsed e = none

theorem Fresh.idle {new log : List Event} (h : Throughout Fresh log) (idle : ∀ e ∈ new, Idle e) :
    Throughout Fresh (new ++ log) :=
  h.append new (fun e he older fresh => fresh.keep ((idle e he).1 older) (idle e he).2)

theorem Idle.of_arrival {e : Event} (h : Arrival e) : Idle e := by
  cases h <;> exact ⟨fun _ => rfl, rfl⟩

theorem Idle.of_reaction (r : ReceiveOutcome.Reaction) : ∀ e ∈ r.events, Idle e := by
  intro e he
  rcases ReceptionRecord.reaction_events r e he with ⟨_, rfl⟩ | ⟨_, rfl⟩ | rfl <;>
    exact ⟨fun _ => rfl, rfl⟩

theorem fresh_note {e : Event} (idle : Idle e) (log : s'.log = e :: s.log)
    (h : Throughout Fresh s.log) : Throughout Fresh s'.log := by
  rw [log]
  have alone : ∀ e' ∈ [e], Idle e' := List.forall_mem_singleton.mpr idle
  exact Fresh.idle h alone

theorem fresh_radio (step : RadioStep s s') (h : Throughout Fresh s.log) :
    Throughout Fresh s'.log := by
  cases step with
  | startTx => exact fresh_note ⟨fun _ => rfl, rfl⟩ rfl h
  | startRx => exact fresh_note ⟨fun _ => rfl, rfl⟩ rfl h
  | nextWindow => exact h
  | arrival quiet arrivals =>
    rw [quiet.log]
    exact Fresh.idle h (fun e he => Idle.of_arrival (arrivals e he))
  | reaction r => exact Fresh.idle h (Idle.of_reaction r)

theorem fresh_store (h : Guarded b s) : Throughout Fresh (emberGpdStoreSecDataToNV s).log := by
  have counter := counterOf_shadow s.gpdNode s.gpdNvData
  unfold emberGpdStoreSecDataToNV nvStore emberGpdCopyToShadow
  generalize shadowOf s.gpdNode s.gpdNvData = shadow at counter
  refine throughout_cons.mpr ⟨h.fresh.here.save _ _ (fun _ older stored => ?_), h.fresh⟩
  obtain rfl := Option.some.inj (h.synced.flash.symm.trans stored)
  rw [counterOf_image, counterOf_image, counter, h.synced.counter]
  exact UInt32.le_refl _

theorem counterOctets_nonce (cell : Cells UInt8) (value : UInt32) :
    counterOctets (nonce (store cell 8 (copy4Bytes value))) = value := by
  have octets : ((nonce (store cell 8 (copy4Bytes value))).drop 8).take 4 =
      load (store cell 8 (copy4Bytes value)) 8 4 := by
    unfold Security.nonce
    rw [show nonceSize = 8 + (4 + 1) from rfl, load_add, List.drop_left' (load_length _ _ _),
      load_add, List.take_left' (load_length _ _ _)]
  unfold counterOctets
  rw [octets, ← copy4Bytes_length value, load_store_same, word32_copy4Bytes]

theorem counted_on (incremental : b.macSeq = .incremental)
    (unwrapped : NotWrapped (updateFrameCounter b s).log) {c : UInt32}
    (covered : c ≤ s.gpdNode.securityFrameCounter) : c < s.gpdNode.securityFrameCounter + 1 := by
  refine lt_succ_of_ne_zero (fun zero => ?_) covered
  rw [updateFrameCounter_incremental incremental s] at unwrapped
  apply unwrapped _ List.mem_cons_self
  change some (counterOf (imageCell (image _))) = some 0
  rw [counterOf_image, counterOf_store, zero]

/-- The counter goes to flash, into the nonce and only then through the CCM. -/
theorem fresh_compose (incremental : b.macSeq = .incremental) (h : Guarded b s) (frameType : UInt8)
    (payload : List UInt8) :
    Throughout Fresh (writeTxFifo b frameType payload (updateFrameCounter b s)).log := by
  obtain ⟨mpdu, frame, written⟩ := writeTxFifo_eq b frameType payload (updateFrameCounter b s)
  have synced := (h.synced.updateFrameCounter incremental).1
  have next (hw : NotWrapped (updateFrameCounter b s).log) {c : UInt32} := counted_on incremental hw (c := c)
  have counted := updateFrameCounter_incremental incremental s
  have before : NotWrapped (updateFrameCounter b s).log → ∀ n ∈ noncesUsed s.log,
      counterOctets n < s.gpdNode.securityFrameCounter + 1 := by
    intro hw n hn
    apply next hw
    rw [counted] at hw
    have covered := h.fresh.here.covered (notWrapped_cons hw) _ h.synced.flash n hn
    rwa [counterOf_image, h.synced.counter] at covered
  have saved : Throughout Fresh (updateFrameCounter b s).log := by
    rw [counted] at next ⊢
    refine throughout_cons.mpr ⟨h.fresh.here.save _ _ (fun hw older stored => ?_), h.fresh⟩
    obtain rfl := Option.some.inj (h.synced.flash.symm.trans stored)
    rw [counterOf_image, counterOf_image, counterOf_store, h.synced.counter]
    exact UInt32.le_of_lt (next hw (UInt32.le_refl _))
  have secured : Throughout Fresh
      (secureEvents frameType (updateFrameCounter b s) ++ (updateFrameCounter b s).log) := by
    unfold secureEvents
    split_ifs
    · refine throughout_cons.mpr ⟨saved.here.use synced.flash _ _ _ _ ?_ ?_, saved⟩
      · rw [counterOf_image, synced.counter, counted]
        exact counterOctets_nonce s.nonceTx _
      · intro hw n hn
        have older : noncesUsed (updateFrameCounter b s).log = noncesUsed s.log := by
          rw [counted]
          exact noncesUsed_none rfl
        rw [older] at hn
        have less := before hw n hn
        rw [counted]
        rw [← counterOctets_nonce s.nonceTx (s.gpdNode.securityFrameCounter + 1)] at less
        exact less
    · exact saved
  rw [written]
  exact throughout_cons.mpr ⟨secured.here.keep rfl rfl, secured⟩

theorem Guarded.step (incremental : b.macSeq = .incremental) {d : Device} (h : Guarded b s)
    (step : Step b d s s') : Guarded b s' := by
  refine ⟨h.synced.step incremental step, ?_⟩
  cases step with
  | radio step => exact fresh_radio step h.fresh
  | compose frameType payload => exact fresh_compose incremental h frameType payload
  | store => exact fresh_store h
  | command | successRequest | operational | loadDefaults =>
    exact fresh_note ⟨fun _ => rfl, rfl⟩ rfl h.fresh
  | _ => exact h.fresh

theorem guarded_powerUp {log : List Event} (sound : Throughout (Sound b) log)
    (fresh : Throughout Fresh log) : Guarded b (powerUp b log) := by
  refine ⟨(Synced.powerUp b sound).1, ?_⟩
  obtain ⟨-, -, booted⟩ := powerUp_loaded b log
  rw [booted]
  have loaded : Throughout Fresh (loaded b log).log := by
    cases flashed : flash log with
    | some img =>
      rw [loaded_of_image b flashed]
      exact fresh
    | none =>
      rw [loaded_of_blank b flashed]
      have erased : Fresh (.flashErase :: log) := fresh.here.keep flashed.symm rfl
      exact throughout_cons.mpr ⟨erased.save _ _ (fun _ older stored => by cases stored),
        throughout_cons.mpr ⟨erased, fresh⟩⟩
  exact throughout_cons.mpr ⟨loaded.here.keep rfl rfl, loaded⟩

end

def Delivered (origin : List Event) : Prop :=
  origin = [] ∨ ∃ image, origin = [.flashSave .earlierLife image]

theorem Delivered.sound (b : Build) {origin : List Event} (delivered : Delivered origin) :
    Throughout (Sound b) origin ∧ Throughout Fresh origin := by
  have blank : Throughout (Sound b) [] ∧ Throughout Fresh [] :=
    ⟨throughout_nil.mpr (sound_blank b), throughout_nil.mpr fresh_nil⟩
  rcases delivered with rfl | ⟨image, rfl⟩
  · exact blank
  · exact ⟨throughout_cons.mpr ⟨sound_written b image, blank.1⟩,
      throughout_cons.mpr ⟨fresh_nil.save _ image (fun _ older stored => by cases stored), blank.2⟩⟩

theorem reached_guarded {κ : Type} [DecidableEq κ] {b : Build} (incremental : b.macSeq = .incremental)
    {locks : Bool} {origin : List Event} (delivered : Delivered origin) {s : Sys κ}
    (reached : Reached b locks origin s) : Guarded b s.device := by
  refine reached.preserves
    (P := fun log => Throughout (Sound b) log ∧ Throughout Fresh log) (delivered.sound b)
    (fun _ both => guarded_powerUp both.1 both.2) ?_
    (fun _ _ h cut => ⟨h.synced.sound.suffix cut, h.fresh.suffix cut⟩)
  exact fun d d' move h => star_preserves (fun _ _ step h => h.step incremental step) move.steps h

/-- No nonce secures two frames, in whatever order the tasks run and wherever the power is cut;
the counters in the nonces grow and the counter a boot would load is not below any of them. -/
theorem nonces_used_once {κ : Type} [DecidableEq κ] {b : Build}
    (incremental : b.macSeq = .incremental) {locks : Bool} {origin : List Event}
    (delivered : Delivered origin) {s : Sys κ} (reached : Reached b locks origin s)
    (unwrapped : NotWrapped s.device.log) :
    (noncesUsed s.device.log).Nodup ∧
      (noncesUsed s.device.log).Pairwise (fun n older => counterOctets older < counterOctets n) ∧
      ∀ image, flash s.device.log = some image →
        ∀ n ∈ noncesUsed s.device.log, counterOctets n ≤ counterOf (imageCell image) := by
  have fresh := (reached_guarded incremental delivered reached).fresh.here
  have growing := fresh.growing unwrapped
  refine ⟨growing.imp (fun less same => ?_), growing, fresh.covered unwrapped⟩
  rw [same] at less
  exact UInt32.lt_irrefl _ less

/-- The history of a chip whose power was cut right after its first toggle was secured. -/
def cutLife : List Event :=
  ((follow (shipped (AesCipher.aesCcm tagSize)) false (fun _ _ => True)
    (start Unit (shipped (AesCipher.aesCcm tagSize)) []) toggleMoves).map
    (fun s => s.device.log.dropWhile (fun e => nonceUsed e = none))).getD []

theorem two_lives_nonces : ∃ s : Sys Unit, (noncesUsed s.device.log).length = 2 ∧
    (noncesUsed s.device.log).Nodup := by
  have chip : TaskChip Unit (shipped (AesCipher.aesCcm tagSize)) false [] cutLife := by
    unfold cutLife
    cases first : follow (shipped (AesCipher.aesCcm tagSize)) false (fun _ _ => True)
        (start Unit (shipped (AesCipher.aesCcm tagSize)) []) toggleMoves with
    | none => exact .origin
    | some s =>
      exact .run .origin (Runs.run_of_follow _ first) List.nil_suffix (List.dropWhile_suffix _)
  have seen : (follow (shipped (AesCipher.aesCcm tagSize)) false (fun _ _ => True)
      (start Unit (shipped (AesCipher.aesCcm tagSize)) cutLife) toggleMoves).map
      (fun s => (decide (NotWrapped s.device.log), (noncesUsed s.device.log).length)) =
      some (true, 2) := by
    decide +kernel
  obtain ⟨s, run, same⟩ := Option.map_eq_some_iff.mp seen
  obtain ⟨unwrapped, two⟩ := Prod.mk.inj same
  have delivered : Delivered [] := Or.inl rfl
  exact ⟨s, two, (nonces_used_once rfl delivered ⟨cutLife, chip, Runs.run_of_follow _ run⟩
    (of_decide_eq_true unwrapped)).1⟩

end GreenPower.NonceUse
