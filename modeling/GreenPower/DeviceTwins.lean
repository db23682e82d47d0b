import GreenPower.AttemptIndependence
import GreenPower.Lockstep
import GreenPower.StaleBytes

set_option autoImplicit false

/-!
Devices with the same core: everything but the two frame buffers, the shadow of the flash and
the records. They send the same and take the same states on the same actions, as long as no
command that is handed over ends behind its payload.
-/
namespace GreenPower.DeviceTwins
open MemoryArray BuildOptions DeviceState Security NonVolatile FrameBuild FrameLayout
  IncomingCommand IncomingMessage FrameAcceptance ReceiveOutcome SendReceive CommissioningCommand
  Commissioning GpdTask DeviceSteps RequestPayload AttemptTrace CompleteFrame ReceiveBounds
  StaleBytes Lockstep
open AttemptLockstep (ownAddr requestBytes)
open EventLog (star_preserves)
open Relation (ReflTransGen)

def core (s : Device) : Device :=
  { s with
    gpdNvData := fun _ => 0
    txMpdu := .untouched (fun _ => 0)
    rxMpdu := .untouched (fun _ => 0)
    log := [] }

/-- What can be seen of a device: the frames with all that went into them, transmissions, receive
windows and states. -/
def isEmitted : Event → Bool
  | .txFifo .. => true
  | .startTx .. => true
  | .startRx .. => true
  | .setState .. => true
  | _ => false

def emitted (log : List Event) : List Event := log.filter isEmitted

def emittedSince (s s' : Device) : List Event :=
  (emitted (s'.log.take (s'.log.length - s.log.length))).reverse

/-- The packet is as long as its length octet announces, which counts the MAC footer. -/
def Complete (packet : List UInt8) : Prop :=
  2 ≤ (heard packet 0).toNat ∧ frameEnd (heard packet) ≤ packet.length

instance (packet : List UInt8) : Decidable (Complete packet) := by
  unfold Complete
  infer_instance

def WholeCommand (b : Build) : Event → Prop
  | .incomingCommand start length command =>
    commandEnd b (store (fun _ => 0) start command) start ≤ start + length
  | _ => True

instance (b : Build) (e : Event) : Decidable (WholeCommand b e) := by
  unfold WholeCommand
  split <;> infer_instance

def Whole (b : Build) (s : Device) : Prop := ∀ e ∈ s.log, WholeCommand b e

instance (b : Build) (s : Device) : Decidable (Whole b s) := by
  unfold Whole
  infer_instance

def Valid (b : Build) (s : Device) : Prop :=
  s.gpdNode.addr = ownAddr b ∧ ∀ window ∈ s.air, ∀ packet ∈ window, Complete packet

abbrev SameCore (b : Build) (past past' : List Event) (s t : Device) : Prop :=
  Twins core (fun s => emitted s.log) (Valid b) past past' s t

abbrev Keeps (b : Build) (past past' : List Event) (f : Device → Device) : Prop :=
  Respects (SameCore b past past') (Whole b) f

theorem emitted_append (new log : List Event) :
    emitted (new ++ log) = emitted new ++ emitted log := List.filter_append new log

theorem emittedSince_eq {s s' : Device} (grown : s.log <:+ s'.log) {new : List Event}
    (h : emitted s'.log = new ++ emitted s.log) : emittedSince s s' = new.reverse := by
  obtain ⟨events, grown⟩ := grown
  rw [← grown, emitted_append] at h
  unfold emittedSince
  rw [← grown, List.length_append, Nat.add_sub_cancel, List.take_left, List.append_cancel_right h]

theorem Whole.suffix {b : Build} {s s' : Device} (whole : Whole b s') (grown : s.log <:+ s'.log) :
    Whole b s := fun e he => whole e (grown.subset he)

theorem commandEnd_agree (b : Build) {f g : Cells UInt8} {start n : ℕ}
    (agree : ∀ i, start ≤ i → i < n → f i = g i) (inside : commandEnd b f start ≤ n) :
    commandEnd b g start = commandEnd b f start := by
  have first := (lt_commandEnd b f start).trans_le inside
  unfold commandEnd at inside ⊢
  rw [← agree start le_rfl first]
  split_ifs at inside ⊢ with config reply
  · rfl
  · have options := (lt_replyEnd b f (start + 1)).trans_le inside
    unfold replyEnd
    rw [← agree (start + 1) (Nat.le_succ start) options]
  · rfl

theorem frameEnd_of_handedOver {own : EmberGpdAddr} {cell : Cells UInt8}
    (handed : HandedOver own cell) :
    payloadFinger cell + gpdfAppPayloadLength cell + micLength cell = frameEnd cell := by
  have inside := handedOver_inside handed
  have positive : 1 ≤ payloadFinger cell := by
    unfold payloadFinger frameCounterFinger srcIdFinger
    omega
  rw [gpdfAppPayloadLength_eq]
  unfold frameEnd at inside ⊢
  omega

theorem wholeFrame_of_whole {b : Build} {packet : List UInt8} {s : Device}
    (complete : Complete packet) (whole : Whole b (railCbGeneric b packet s)) :
    WholeFrame b s (store s.rxMpdu.cell 0 packet) := by
  have first : 0 < packet.length := lt_of_lt_of_le (Nat.succ_pos _) complete.2
  refine ⟨(heard_agree s.rxMpdu.cell packet 0 first) ▸ complete.1, fun handed => ?_⟩
  have reported := (ReceptionRecord.packet_incomingCommand_iff b s packet _ _ _).mpr
    ⟨handed, rfl, rfl, rfl⟩
  obtain ⟨new, log, mem⟩ := reported
  have within := whole _ (log ▸ List.mem_append_left _ mem)
  have ends := frameEnd_of_handedOver handed
  unfold WholeCommand at within
  simp only at within
  generalize securedBuffer b s.ccmKey s.nonceRx (store s.rxMpdu.cell 0 packet) = cell at within ⊢
  generalize payloadFinger (store s.rxMpdu.cell 0 packet) = start at within ends ⊢
  generalize gpdfAppPayloadLength (store s.rxMpdu.cell 0 packet) = length at within ends ⊢
  have agree : ∀ i, start ≤ i → i < start + length →
      store (fun _ => 0) start (load cell start length) i = cell i := by
    intro i lo hi
    have inside : i - start < (load cell start length).length := by
      rw [load_length]
      omega
    rw [store_at _ start _ i (i - start) inside (by omega), load_get, Nat.add_sub_cancel' lo]
  rw [commandEnd_agree b agree within]
  omega

theorem core_railCbGeneric (b : Build) (packet : List UInt8) (s : Device) :
    core (railCbGeneric b packet s) =
      { core s with
        gpdNode := (reactionTo b (store s.rxMpdu.cell 0 packet) s).gpdNode s.gpdNode
        ccmKey := (reactionTo b (store s.rxMpdu.cell 0 packet) s).ccmKey s.gpdNode s.ccmKey
        nonceRx := nonceAfter b (store s.rxMpdu.cell 0 packet) s } :=
  congrArg (fun p => core p.1) (left_eq b (store s.rxMpdu.cell 0 packet)
    { s with rxMpdu := s.rxMpdu.store 0 packet })

theorem emitted_railCbGeneric (b : Build) (packet : List UInt8) (s : Device) :
    emitted (railCbGeneric b packet s).log =
      emitted (reactionTo b (store s.rxMpdu.cell 0 packet) s).events ++ emitted s.log := by
  obtain ⟨_, s', quiet, react⟩ := railCbGeneric_react b packet s
  have reaction : packetReaction b packet s = reactionTo b (store s.rxMpdu.cell 0 packet) s :=
    frameReaction_eq b (store s.rxMpdu.cell 0 packet) { s with rxMpdu := s.rxMpdu.store 0 packet }
  have unseen : emitted (receptionEvents b { s with rxMpdu := s.rxMpdu.store 0 packet }) = [] := by
    refine List.filter_eq_nil_iff.mpr (fun e he => ?_)
    cases arrival_of_receptionEvents b _ e he <;> exact Bool.false_ne_true
  rw [react, reaction]
  change emitted (_ ++ s'.log) = _
  rw [emitted_append, quiet.log, emitted_append, unseen, List.nil_append]

theorem radio_log_suffix {s s' : Device} (run : ReflTransGen RadioStep s s') : s.log <:+ s'.log :=
  star_preserves (I := fun s' => s.log <:+ s'.log) (fun _ _ step h => h.trans step.log_suffix) run
    List.suffix_rfl

section
variable {b : Build} {past past' : List Event}

theorem agreed_core {α : Type} (v : Device → α) (reads : ∀ s, v s = v (core s)) :
    Agreed (SameCore b past past') v := by
  intro s t twins
  rw [reads s, reads t, twins.same]

/-- One whole frame has one effect, whatever else is in the buffer. -/
theorem keeps_railCbGeneric {packet : List UInt8} (complete : Complete packet) :
    Keeps b past past' (railCbGeneric b packet) := by
  refine ⟨fun t whole => whole.suffix (radio_log_suffix (railCbGeneric_radio b packet t)),
    fun s t twins whole => ?_⟩
  have frame := wholeFrame_of_whole complete whole
  have same : SameFrame (store t.rxMpdu.cell 0 packet) (store s.rxMpdu.cell 0 packet) := by
    refine sameFrame_of_agree frame.footer (fun i inside => ?_)
    have first : 0 < packet.length := lt_of_lt_of_le (Nat.succ_pos _) complete.2
    have announced : frameEnd (store t.rxMpdu.cell 0 packet) = frameEnd (heard packet) := by
      unfold frameEnd nwkPayloadLength
      rw [heard_agree t.rxMpdu.cell packet 0 first]
    have brought : i < packet.length := lt_of_lt_of_le (announced ▸ inside) complete.2
    exact (heard_agree t.rxMpdu.cell packet i brought).symm.trans
      (heard_agree s.rxMpdu.cell packet i brought)
  have reaction : reactionTo b (store s.rxMpdu.cell 0 packet) s =
      reactionTo b (store t.rxMpdu.cell 0 packet) t :=
    (agreed_core (reactionTo b (store s.rxMpdu.cell 0 packet)) (fun _ => rfl) s t twins).trans
      (reactionTo_of_wholeFrame frame same)
  have counter : nonceAfter b (store s.rxMpdu.cell 0 packet) s =
      nonceAfter b (store t.rxMpdu.cell 0 packet) t :=
    (agreed_core (nonceAfter b (store s.rxMpdu.cell 0 packet)) (fun _ => rfl) s t twins).trans
      (nonceAfter_of_wholeFrame frame same)
  have left := emitted_railCbGeneric b packet s
  rw [reaction] at left
  refine twins.change ?_ ?_ left (emitted_railCbGeneric b packet t)
  · rw [core_railCbGeneric, core_railCbGeneric, reaction, counter]
    generalize reactionTo b (store t.rxMpdu.cell 0 packet) t = r
    exact congrArg (fun k : Device => { k with
      gpdNode := r.gpdNode k.gpdNode
      ccmKey := r.ccmKey k.gpdNode k.ccmKey
      nonceRx := nonceAfter b (store t.rxMpdu.cell 0 packet) t }) twins.same
  · rw [core_railCbGeneric]
    generalize reactionTo b (store t.rxMpdu.cell 0 packet) t = r
    cases r <;> exact twins.holds

/-- A function that goes by the core alone, and adds its events to the records. -/
theorem keeps_of_core {f : Device → Device} (added : Device → List Event)
    (reads : ∀ s, core (f s) = core (f (core s))) (log : ∀ s, (f s).log = added s ++ s.log)
    (emits : ∀ s, emitted (added s) = emitted (added (core s)))
    (addr : ∀ s, (f s).gpdNode.addr = s.gpdNode.addr) (air : ∀ s, (f s).air = s.air) :
    Keeps b past past' f := by
  have grows (s : Device) : s.log <:+ (f s).log := ⟨added s, (log s).symm⟩
  refine respects_of_view (fun k => core (f k)) (fun k => emitted (added k))
    (fun t whole => whole.suffix (grows t)) reads (fun s => ?_) (fun k valid => ?_)
  · rw [log, emitted_append, emits]
  · refine ⟨(addr k).trans valid.1, ?_⟩
    change ∀ window ∈ (f k).air, ∀ packet ∈ window, Complete packet
    rw [air]
    exact valid.2

theorem keeps_silent {f : Device → Device} (reads : ∀ s, core (f s) = core (f (core s)))
    (log : ∀ s, (f s).log = s.log) (addr : ∀ s, (f s).gpdNode.addr = s.gpdNode.addr)
    (air : ∀ s, (f s).air = s.air) : Keeps b past past' f :=
  keeps_of_core (fun _ => []) reads log (fun _ => rfl) addr air

theorem keeps_gpdNode (g : EmberGpd → EmberGpd) (addr : ∀ gpd, (g gpd).addr = gpd.addr) :
    Keeps b past past' (fun s => { s with gpdNode := g s.gpdNode }) :=
  keeps_silent (fun _ => rfl) (fun _ => rfl) (fun s => addr s.gpdNode) (fun _ => rfl)

theorem keeps_record (e : Device → Event) (reads : ∀ s, e s = e (core s)) :
    Keeps b past past' (fun s => s.record (e s)) :=
  keeps_of_core (fun s => [e s]) (fun _ => rfl) (fun _ => rfl) (fun s => by rw [reads s])
    (fun _ => rfl) (fun _ => rfl)

theorem keeps_scheduledReceive (channel : UInt8) :
    Keeps b past past' (emberAfGpdScheduledReceive b channel) := by
  have started : Keeps b past past' (fun s => s.record (.startRx channel (nonce s.nonceRx))) :=
    keeps_record _ (fun _ => rfl)
  refine ⟨fun t whole => ?_, fun s t twins whole => ?_⟩
  · cases air : t.air with
    | nil =>
      rw [AttemptLockstep.scheduledReceive_nil air] at whole
      exact started.back t whole
    | cons window rest =>
      rw [AttemptLockstep.scheduledReceive_cons air] at whole
      have received := radio_log_suffix (window_radio b window
        { t.record (.startRx channel (nonce t.nonceRx)) with air := rest })
      exact started.back t (whole.suffix received)
  · have same : s.air = t.air := agreed_core Device.air (fun _ => rfl) s t twins
    cases air : t.air with
    | nil =>
      rw [AttemptLockstep.scheduledReceive_nil air] at whole ⊢
      rw [AttemptLockstep.scheduledReceive_nil (same.trans air)]
      exact started.keeps s t twins whole
    | cons window rest =>
      rw [AttemptLockstep.scheduledReceive_cons air] at whole ⊢
      rw [AttemptLockstep.scheduledReceive_cons (same.trans air)]
      have complete : ∀ w ∈ window :: rest, ∀ packet ∈ w, Complete packet := air ▸ twins.holds.2
      have received := radio_log_suffix (window_radio b window
        { t.record (.startRx channel (nonce t.nonceRx)) with air := rest })
      have begun := started.keeps s t twins (whole.suffix received)
      have opened : SameCore b past past'
          { s.record (.startRx channel (nonce s.nonceRx)) with air := rest }
          { t.record (.startRx channel (nonce t.nonceRx)) with air := rest } :=
        ⟨congrArg (fun k : Device => { k with air := rest }) begun.same,
          ⟨twins.holds.1, fun w hw => complete w (List.mem_cons_of_mem _ hw)⟩, begun.traced⟩
      exact (respects_foldl window (fun packet hp =>
        keeps_railCbGeneric (complete window List.mem_cons_self packet hp))).keeps _ _ opened whole

theorem keeps_startTx : Keeps b past past' (startTx b) := by
  have sent : Keeps b past past' (fun s => s.record
      (.startTx s.gpdNode.skipCca s.gpdNode.channel s.gpdNode.securityFrameCounter)) :=
    keeps_record _ (fun _ => rfl)
  have received : Keeps b past past' (fun s => emberAfGpdScheduledReceive b s.gpdNode.channel
      (s.record (.startTx s.gpdNode.skipCca s.gpdNode.channel s.gpdNode.securityFrameCounter))) :=
    Carries.reading (agreed_core (fun s => s.gpdNode.channel) (fun _ => rfl))
      (fun channel => (keeps_scheduledReceive channel).comp sent)
  exact Carries.ite (agreed_core (fun s => s.gpdNode.rxAfterTx ≠ 0) (fun _ => rfl)) received sent

/-- A save of the flash is not seen from outside. -/
theorem keeps_saving {f : Device → Device} (save : Device → Event)
    (unseen : ∀ s, isEmitted (save s) = false) (reads : ∀ s, core (f s) = core (f (core s)))
    (log : ∀ s, (f s).log = save s :: s.log)
    (addr : ∀ s, (f s).gpdNode.addr = s.gpdNode.addr) (air : ∀ s, (f s).air = s.air) :
    Keeps b past past' f := by
  refine keeps_of_core (fun s => [save s]) reads log (fun s => ?_) addr air
  simp only [emitted, List.filter, unseen]

theorem keeps_updateFrameCounter : Keeps b past past' (updateFrameCounter b) := by
  cases mode : b.macSeq with
  | random =>
    rw [funext (updateFrameCounter_random mode)]
    exact keeps_silent (fun _ => rfl) (fun _ => rfl) (fun _ => rfl) (fun _ => rfl)
  | incremental =>
    rw [funext (updateFrameCounter_incremental mode)]
    exact keeps_saving _ (fun _ => rfl) (fun _ => rfl) (fun _ => rfl) (fun _ => rfl) (fun _ => rfl)

/-- The frame of the standard; frame types without a builder leave nothing to send. -/
def sentFrame (b : Build) (frameType : UInt8) (payload : List UInt8) (s : Device) : List UInt8 :=
  if frameType = nwkFcFrameTypeData ∨ frameType = nwkFcFrameTypeMaint then
    built b.ccm s.ccmKey (nonce s.nonceTx) frameType payload s.gpdNode
  else []

theorem writeTxFifo_sent (b : Build) (frameType : UInt8) {payload : List UInt8}
    (short : payload.length ≤ 59) (s : Device) :
    ∃ mpdu, writeTxFifo b frameType payload s =
      { s with
        txMpdu := mpdu
        log := .txFifo frameType payload s.gpdNode (sentFrame b frameType payload s) ::
          (secureEvents frameType s ++ s.log) } := by
  unfold sentFrame
  by_cases kind : frameType = nwkFcFrameTypeData ∨ frameType = nwkFcFrameTypeMaint
  · rw [if_pos kind]
    exact writeTxFifo_built b kind short s
  · rw [if_neg kind]
    obtain ⟨data, maint⟩ := not_or.mp kind
    have eq := writeTxFifo_out b frameType payload s
    unfold emberBuildOutGoingPdu at eq
    rw [if_neg data, if_neg maint] at eq
    exact ⟨_, eq⟩

theorem keeps_writeTxFifo (frameType : UInt8) {payload : List UInt8} (short : payload.length ≤ 59) :
    Keeps b past past' (writeTxFifo b frameType payload) := by
  have sent := writeTxFifo_sent b frameType short
  have unseen (s : Device) : emitted (secureEvents frameType s) = [] := by
    unfold secureEvents
    split_ifs <;> rfl
  refine keeps_of_core (fun s => .txFifo frameType payload s.gpdNode (sentFrame b frameType payload s)
    :: secureEvents frameType s) (fun s => ?_) (fun s => ?_) (fun s => ?_) (fun s => ?_) (fun s => ?_)
  · obtain ⟨_, left⟩ := sent s
    obtain ⟨_, right⟩ := sent (core s)
    rw [left, right]
    rfl
  · obtain ⟨_, eq⟩ := sent s
    rw [eq]
    rfl
  · change _ :: emitted _ = _ :: emitted _
    rw [unseen, unseen]
    rfl
  · obtain ⟨_, eq⟩ := sent s
    rw [eq]
  · obtain ⟨_, eq⟩ := sent s
    rw [eq]

theorem keeps_send (frameType : UInt8) (payload : List UInt8) (n : ℕ) :
    Keeps b past past' (emberAfGpdfSend b frameType payload n) :=
  ((keeps_startTx.iterate (max 1 n)).comp (keeps_writeTxFifo frameType (List.length_take_le _ _))).comp
    keeps_updateFrameCounter

end

end GreenPower.DeviceTwins
