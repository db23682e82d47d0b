import GreenPower.AttemptTrace
import GreenPower.CompleteFrame

set_option autoImplicit false

/-!
Two devices side by side. What decides their course, apart from the radio, are their settings:
everything but the key and the frame counter. Devices with the same settings that hear the same
readable packets stay alike, function by function.
-/
namespace GreenPower.AttemptLockstep
open MemoryArray ByteWord BuildOptions DeviceState Security NonVolatile FrameBuild FrameLayout
  IncomingCommand IncomingMessage ReceiveOutcome SendReceive CommissioningCommand Commissioning
  GpdTask DeviceSteps RequestPayload AttemptTrace CompleteFrame

def common (gpd : EmberGpd) : EmberGpd := { gpd with securityKey := zeroKey, securityFrameCounter := 0 }

def counterCleared (nonce : Cells UInt8) : Cells UInt8 := store nonce 8 [0, 0, 0, 0]

structure Settings where
  gpdNode : EmberGpd
  nonceTx : Cells UInt8
  nonceRx : Cells UInt8
  chReqSubstate : UInt8
  applicationDescriptionState : UInt8
  air : List (List (List UInt8))
  descriptions : List (List UInt8 × Bool)

def settings (s : Device) : Settings where
  gpdNode := common s.gpdNode
  nonceTx := counterCleared s.nonceTx
  nonceRx := counterCleared s.nonceRx
  chReqSubstate := s.chReqSubstate
  applicationDescriptionState := s.applicationDescriptionState
  air := s.air
  descriptions := s.descriptions

def ownAddr (b : Build) : EmberGpdAddr := { zeroAddr with appId := appIdSrcId, srcId := b.srcId }

/-- `s` and `t` had seen `past` and `past'` and have seen the same since; as far as `erase`
leaves them, their settings are the same. -/
structure Alike (b : Build) (erase : Settings → Settings) (past past' : List Seen)
    (s t : Device) : Prop where
  settings : erase (settings s) = erase (settings t)
  seen : ∃ new, seen b s.log = new ++ past ∧ seen b t.log = new ++ past'
  own : s.gpdNode.addr = ownAddr b
  readable : ∀ window ∈ s.air, ∀ packet ∈ window, Readable b (ownAddr b) packet

theorem counterCleared_eq_iff {f g : Cells UInt8} :
    counterCleared f = counterCleared g ↔ ∀ i, i < 8 ∨ 12 ≤ i → f i = g i := by
  constructor
  · intro h i out
    have same := congrFun h i
    unfold counterCleared at same
    rwa [store_outside _ _ _ _ (by simpa using out),
      store_outside _ _ _ _ (by simpa using out)] at same
  · intro h
    funext i
    unfold counterCleared
    by_cases out : i < 8 ∨ 12 ≤ i
    · rw [store_outside _ _ _ _ (by simpa using out), store_outside _ _ _ _ (by simpa using out)]
      exact h i out
    · have inside : i - 8 < [(0 : UInt8), 0, 0, 0].length := by
        simp only [List.length_cons, List.length_nil]
        omega
      rw [store_at f 8 _ i (i - 8) inside (by omega), store_at g 8 _ i (i - 8) inside (by omega)]

theorem counterCleared_store (f : Cells UInt8) (value : UInt32) :
    counterCleared (store f 8 (copy4Bytes value)) = counterCleared f :=
  counterCleared_eq_iff.mpr (fun i out => store_outside f 8 _ i (by simpa using out))

section
variable {b : Build} {erase erase' : Settings → Settings} {past past' : List Seen}
  {s t s' t' : Device}

/-- The same change of the settings and the same sightings on both sides. -/
theorem Alike.change (h : Alike b erase past past' s t) (g : Settings → Settings)
    (new : List Seen) (hs : erase' (AttemptLockstep.settings s') = g (erase (AttemptLockstep.settings s)))
    (ht : erase' (AttemptLockstep.settings t') = g (erase (AttemptLockstep.settings t)))
    (ss : AttemptTrace.seen b s'.log = new ++ AttemptTrace.seen b s.log)
    (st : AttemptTrace.seen b t'.log = new ++ AttemptTrace.seen b t.log)
    (addr : s'.gpdNode.addr = s.gpdNode.addr) (air : s'.air = s.air) :
    Alike b erase' past past' s' t' := by
  obtain ⟨older, hs', ht'⟩ := h.seen
  refine ⟨?_, ⟨new ++ older, ?_, ?_⟩, addr.trans h.own, ?_⟩
  · rw [hs, ht, h.settings]
  · rw [ss, hs', List.append_assoc]
  · rw [st, ht', List.append_assoc]
  · rw [air]
    exact h.readable

structure Hidden (b : Build) (s s' : Device) : Prop where
  settings : settings s' = settings s
  seen : seen b s'.log = seen b s.log

theorem Hidden.trans (h : Hidden b s s') {s'' : Device} (h' : Hidden b s' s'') : Hidden b s s'' :=
  ⟨h'.settings.trans h.settings, h'.seen.trans h.seen⟩

theorem Alike.hidden (h : Alike b erase past past' s t) (hs : Hidden b s s')
    (ht : Hidden b t t') : Alike b erase past past' s' t' :=
  h.change id [] (congrArg erase hs.settings) (congrArg erase ht.settings) hs.seen ht.seen
    (congrArg (fun a : Settings => a.gpdNode.addr) hs.settings)
    (congrArg (fun a : Settings => a.air) hs.settings)

theorem Alike.weaken (h : Alike b erase past past' s t) (g : Settings → Settings)
    (coarser : ∀ a, erase' a = g (erase a)) : Alike b erase' past past' s t :=
  h.change g [] (coarser _) (coarser _) rfl rfl rfl rfl

theorem Alike.get (h : Alike b id past past' s t) {α : Type} (field : Settings → α) :
    field (AttemptLockstep.settings s) = field (AttemptLockstep.settings t) :=
  congrArg field h.settings

theorem Alike.gpd (h : Alike b id past past' s t) {α : Type} (field : EmberGpd → α) :
    field (common s.gpdNode) = field (common t.gpdNode) :=
  h.get (fun a => field a.gpdNode)

theorem Alike.ownRight (h : Alike b id past past' s t) : t.gpdNode.addr = ownAddr b :=
  (h.gpd EmberGpd.addr).symm.trans h.own

theorem updateFrameCounter_hidden (b : Build) (s : Device) :
    Hidden b s (updateFrameCounter b s) := by
  unfold updateFrameCounter
  cases b.macSeq with
  | random => exact ⟨rfl, rfl⟩
  | incremental =>
    refine ⟨?_, rfl⟩
    have tx := counterCleared_store s.nonceTx (s.gpdNode.securityFrameCounter + 1)
    have rx := counterCleared_store s.nonceRx (s.gpdNode.securityFrameCounter + 1)
    simp only [emberGpdSaveGpdFrameCounterToNV, nvStore, emberGpdSetFcIntoTxNonce,
      emberGpdSetFcIntoRxNonce, settings, Device.record, tx, rx]
    rfl

/-- Two payloads of one command that differ in the frame counter at most. -/
structure SameCommand (b : Build) (payload payload' : List UInt8) : Prop where
  command : payload.head? = payload'.head?
  content : withoutCounter b payload = withoutCounter b payload'

theorem SameCommand.refl (b : Build) (payload : List UInt8) : SameCommand b payload payload :=
  ⟨rfl, rfl⟩

theorem secureEvents_seen (b : Build) (frameType : UInt8) (s : Device) :
    seen b (secureEvents frameType s) = [] := by
  unfold secureEvents
  split_ifs <;> rfl

theorem controlOctets_common (frameType : UInt8) (command : Option UInt8) (gpd : EmberGpd) :
    controlOctets frameType command gpd = controlOctets frameType command (common gpd) := rfl

theorem writeTxFifo_seen {frameType : UInt8}
    (kind : frameType = nwkFcFrameTypeData ∨ frameType = nwkFcFrameTypeMaint)
    {payload : List UInt8} (hp : payload.length ≤ 59) (s : Device) :
    settings (writeTxFifo b frameType payload s) = settings s ∧
      seen b (writeTxFifo b frameType payload s).log =
        [.frame frameType (withoutCounter b payload)
          (controlOctets frameType payload.head? (common s.gpdNode))] ++ seen b s.log := by
  obtain ⟨mpdu, eq⟩ := writeTxFifo_built b kind hp s
  rw [eq]
  refine ⟨rfl, ?_⟩
  rw [← controlOctets_common, ← frameControl_built b.ccm s.ccmKey (nonce s.nonceTx)]
  change _ :: seen b (secureEvents frameType s ++ s.log) = _
  rw [seen_append, secureEvents_seen]
  rfl

theorem Alike.writeTxFifo (h : Alike b id past past' s t) {frameType : UInt8}
    (kind : frameType = nwkFcFrameTypeData ∨ frameType = nwkFcFrameTypeMaint)
    {payload payload' : List UInt8} (hp : payload.length ≤ 59) (hp' : payload'.length ≤ 59)
    (same : SameCommand b payload payload') :
    Alike b id past past' (writeTxFifo b frameType payload s)
      (writeTxFifo b frameType payload' t) := by
  obtain ⟨hs, ss⟩ := writeTxFifo_seen (b := b) kind hp s
  obtain ⟨ht, st⟩ := writeTxFifo_seen (b := b) kind hp' t
  rw [← same.content, ← same.command, ← h.gpd (controlOctets frameType payload.head?)] at st
  exact h.change id _ hs ht ss st (congrArg (fun a : Settings => a.gpdNode.addr) hs)
    (congrArg (fun a : Settings => a.air) hs)

theorem quiet_hidden {size : ℕ} {new : List Event} (quiet : Quiet size new s s')
    (arrivals : ∀ e ∈ new, Arrival e) : Hidden b s s' := by
  have unseen : seen b new = [] :=
    List.filterMap_eq_nil_iff.mpr (fun e he => by cases arrivals e he <;> rfl)
  refine ⟨?_, ?_⟩
  · obtain ⟨cell, touched, nonceRx, -, outside, rfl⟩ := quiet
    have same := counterCleared_eq_iff.mpr outside
    simp only [settings, same]
  · rw [quiet.log, seen_append, unseen, List.nil_append]

theorem Alike.react (h : Alike b id past past' s t) (r : Reaction) :
    Alike b id past past' (react r s) (react r t) := by
  refine h.change (fun a => { a with gpdNode := common (r.gpdNode a.gpdNode) }) (AttemptTrace.seen b r.events)
    ?_ ?_ (seen_append b _ _) (seen_append b _ _) ?_ rfl
  · cases r <;> rfl
  · cases r <;> rfl
  · cases r <;> rfl

/-- One readable packet has one effect. -/
theorem Alike.receive (h : Alike b id past past' s t) {packet : List UInt8}
    (readable : Readable b (ownAddr b) packet) :
    Alike b id past past' (railCbGeneric b packet s) (railCbGeneric b packet t) := by
  obtain ⟨_, s', quiet, hs⟩ := railCbGeneric_react b packet s
  obtain ⟨_, t', quiet', ht⟩ := railCbGeneric_react b packet t
  have left := packetReaction_of_readable (s := s) (h.own ▸ readable)
  have right := packetReaction_of_readable (s := t) (h.ownRight ▸ readable)
  have nonce := counterCleared_eq_iff.mp (h.get (fun a => a.nonceRx))
  have reaction : packetReaction b packet s = packetReaction b packet t := by
    rw [left, right, h.own, h.ownRight, heardReaction_congr b _ _ nonce]
  rw [hs, ht, reaction]
  exact (h.hidden (quiet_hidden quiet (arrival_of_receptionEvents b _))
    (quiet_hidden quiet' (arrival_of_receptionEvents b _))).react _

theorem Alike.window (h : Alike b id past past' s t) (window : List (List UInt8))
    (readable : ∀ packet ∈ window, Readable b (ownAddr b) packet) :
    Alike b id past past' (window.foldl (fun s packet => railCbGeneric b packet s) s)
      (window.foldl (fun s packet => railCbGeneric b packet s) t) := by
  induction window generalizing s t with
  | nil => exact h
  | cons packet window ih =>
    exact ih (h.receive (readable packet List.mem_cons_self))
      (fun p hp => readable p (List.mem_cons_of_mem _ hp))

theorem scheduledReceive_nil {channel : UInt8} (air : s.air = []) :
    emberAfGpdScheduledReceive b channel s = s.record (.startRx channel (nonce s.nonceRx)) := by
  unfold emberAfGpdScheduledReceive
  simp only [Device.record, air]

theorem scheduledReceive_cons {channel : UInt8} {window : List (List UInt8)}
    {rest : List (List (List UInt8))} (air : s.air = window :: rest) :
    emberAfGpdScheduledReceive b channel s =
      window.foldl (fun s packet => railCbGeneric b packet s)
        { s.record (.startRx channel (nonce s.nonceRx)) with air := rest } := by
  unfold emberAfGpdScheduledReceive
  simp only [Device.record, air]

theorem Alike.scheduledReceive (h : Alike b id past past' s t) (channel : UInt8) :
    Alike b id past past' (emberAfGpdScheduledReceive b channel s)
      (emberAfGpdScheduledReceive b channel t) := by
  have air : s.air = t.air := h.get (fun a => a.air)
  have started : Alike b id past past' (s.record (.startRx channel (nonce s.nonceRx)))
      (t.record (.startRx channel (nonce t.nonceRx))) :=
    h.change id [.window channel] rfl rfl rfl rfl rfl rfl
  have readable := h.readable
  cases hair : s.air with
  | nil =>
    rw [scheduledReceive_nil hair, scheduledReceive_nil (air ▸ hair)]
    exact started
  | cons window rest =>
    rw [hair] at readable
    rw [scheduledReceive_cons hair, scheduledReceive_cons (air ▸ hair)]
    have opened : Alike b id past past'
        { s.record (.startRx channel (nonce s.nonceRx)) with air := rest }
        { t.record (.startRx channel (nonce t.nonceRx)) with air := rest } :=
      ⟨congrArg (fun a : Settings => { a with air := rest }) started.settings, started.seen,
        started.own, fun w hw => readable w (List.mem_cons_of_mem _ hw)⟩
    exact opened.window window (readable window List.mem_cons_self)

theorem Alike.startTx (h : Alike b id past past' s t) :
    Alike b id past past' (startTx b s) (startTx b t) := by
  have skipCca : s.gpdNode.skipCca = t.gpdNode.skipCca := h.gpd EmberGpd.skipCca
  have channel : s.gpdNode.channel = t.gpdNode.channel := h.gpd EmberGpd.channel
  have rxAfterTx : s.gpdNode.rxAfterTx = t.gpdNode.rxAfterTx := h.gpd EmberGpd.rxAfterTx
  have sent : Alike b id past past'
      (s.record (.startTx s.gpdNode.skipCca s.gpdNode.channel s.gpdNode.securityFrameCounter))
      (t.record (.startTx s.gpdNode.skipCca s.gpdNode.channel t.gpdNode.securityFrameCounter)) :=
    h.change id [.transmission s.gpdNode.skipCca s.gpdNode.channel] rfl rfl rfl rfl rfl rfl
  unfold SendReceive.startTx
  simp only
  rw [← skipCca, ← channel, ← rxAfterTx]
  split_ifs
  · exact sent.scheduledReceive _
  · exact sent

theorem Alike.iterate {f : Device → Device}
    (step : ∀ s t, Alike b erase past past' s t → Alike b erase past past' (f s) (f t)) (n : ℕ)
    (h : Alike b erase past past' s t) : Alike b erase past past' (f^[n] s) (f^[n] t) := by
  induction n generalizing s t with
  | zero => exact h
  | succ n ih => exact ih (step s t h)

theorem Alike.send (h : Alike b id past past' s t) {frameType : UInt8}
    (kind : frameType = nwkFcFrameTypeData ∨ frameType = nwkFcFrameTypeMaint)
    {payload payload' : List UInt8} (n : ℕ)
    (same : SameCommand b (payload.take srcIdMaxPayloadSize) (payload'.take srcIdMaxPayloadSize)) :
    Alike b id past past' (emberAfGpdfSend b frameType payload n s)
      (emberAfGpdfSend b frameType payload' n t) := by
  have updated := h.hidden (updateFrameCounter_hidden b s) (updateFrameCounter_hidden b t)
  have written := updated.writeTxFifo kind (List.length_take_le _ _) (List.length_take_le _ _) same
  exact written.iterate (fun _ _ h => h.startTx) _

end

end GreenPower.AttemptLockstep
