import GreenPower.StaleBytes
import GreenPower.PowerCycle
import GreenPower.CommissioningReply

set_option autoImplicit false

/-!
The counter in the two nonces and the counter in the header of the frame they serve. The
incremental mode writes it into both nonces of every call; in the random mode they agree only if
they hold the drawn value already.
-/
namespace GreenPower.NonceAgreement
open MemoryArray ByteWord BuildOptions DeviceState Security FrameBuild FrameLayout FrameFields
  FrameReadBack IncomingCommand IncomingMessage FrameAcceptance ReceiveOutcome CompleteFrame
  SendReceive GpdTask DeviceSteps FramesOnAir AttemptTrace FieldRanges PowerCycle StaleBytes
open Relation (ReflTransGen)

structure Call where
  device : Device
  frameType : UInt8
  payload : List UInt8
  repeatNumber : ℕ

/-- What the program does from `d` on, in an action that began in `e`, and the calls it makes,
the newest first. -/
inductive Course (b : Build) (d : Device) : List Call → Device → Device → Prop
  | start : Course b d [] d d
  | aside {calls : List Call} {e s s' : Device} (course : Course b d calls e s)
      (step : Step b e s s') (silent : sendLog s'.log = sendLog s.log) : Course b d calls e s'
  | receive {calls : List Call} {e s : Device} (course : Course b d calls e s)
      (packet : List UInt8) : Course b d calls e (railCbGeneric b packet s)
  | send {calls : List Call} {e s : Device} (course : Course b d calls e s) (frameType : UInt8)
      (payload : List UInt8) (repeatNumber : ℕ) :
      Course b d (⟨s, frameType, payload, repeatNumber⟩ :: calls) e
        (emberAfGpdfSend b frameType payload repeatNumber s)
  | next {calls : List Call} {e s : Device} (course : Course b d calls e s) : Course b d calls s s

def ccmNonce : Event → Option (List UInt8)
  | .secure _ _ _ nonce => some nonce
  | _ => none

def windowNonce : Event → Option (List UInt8)
  | .startRx _ nonce => some nonce
  | _ => none

/-- The octets `emberGpdSetFcIntoTxNonce` and `emberGpdSetFcIntoRxNonce` write. -/
def nonceCounter (nonce : List UInt8) : List UInt8 := (nonce.drop 8).take 4

/-- The counter field of a frame at level 2 or 3, as a reader of the header finds it. -/
def headerCounter (frame : List UInt8) : List UInt8 :=
  let cell := store (fun _ => 0) 0 frame
  load cell (counterStart cell) 4

/-- The records show one frame, encrypted under a nonce with the counter of its header, and no
window that opens with another one. -/
def NoncesAgree (events : List Event) : Prop :=
  ∃ frame, events.filterMap frameWritten = [frame] ∧
    (events.filterMap ccmNonce).map nonceCounter = [headerCounter frame] ∧
    ∀ nonce ∈ events.filterMap windowNonce, nonceCounter nonce = headerCounter frame

/-- The counter of an encrypted key that is handed over, as it is put into the receive nonce. -/
def deliveredCounter (b : Build) (cell : Cells UInt8) (s : Device) : Option UInt32 :=
  let buffer := securedBuffer b s.ccmKey s.nonceRx cell
  let start := payloadFinger cell
  if HandedOver s.gpdNode.addr cell ∧ buffer start = cmdCommissioningReply ∧
      keyPresent (buffer (start + 1)) = true ∧ keyEncrypted (buffer (start + 1)) = true ∧
      b.keyEncrypt = true then
    some (readWord buffer (keyIndex (start + 1) (buffer (start + 1)) + keyLength + micLengthBytes))
  else none

def lastDelivered (b : Build) : List (List UInt8) → Device → Option UInt32
  | [], _ => none
  | packet :: packets, s =>
    (lastDelivered b packets (railCbGeneric b packet s)).or
      (deliveredCounter b (s.rxMpdu.store 0 packet).cell s)

structure Window where
  device : Device
  packets : List (List UInt8)

def Window.counter (b : Build) (w : Window) : Option UInt32 := lastDelivered b w.packets w.device

def opened (s : Device) : Device :=
  let s := s.record (.startTx s.gpdNode.skipCca s.gpdNode.channel s.gpdNode.securityFrameCounter)
  { s.record (.startRx s.gpdNode.channel (nonce s.nonceRx)) with air := s.air.tail }

def windows (b : Build) : ℕ → Device → List Window
  | 0, _ => []
  | n + 1, s => ⟨opened s, s.air.headD []⟩ :: windows b n (startTx b s)

namespace Call

def events (b : Build) (call : Call) : List Event :=
  let log := (emberAfGpdfSend b call.frameType call.payload call.repeatNumber call.device).log
  log.take (log.length - call.device.log.length)

def SecuredData (call : Call) : Prop :=
  call.frameType = nwkFcFrameTypeData ∧ Secured call.device.gpdNode.securityLevel

def counter (b : Build) (call : Call) : UInt32 := nextCounter b call.device.randoms call.device

/-- The incremental mode writes the counter; in the random mode it has to be there. -/
def Carries (b : Build) (call : Call) (nonce : Cells UInt8) : Prop :=
  b.macSeq = .incremental ∨ load nonce 8 4 = copy4Bytes (call.counter b)

def earlierWindows (b : Build) (call : Call) : List Window :=
  windows b (call.repeatNumber - 1) (writeTxFifo b call.frameType
    (call.payload.take srcIdMaxPayloadSize) (updateFrameCounter b call.device))

structure CountersCarried (b : Build) (call : Call) : Prop where
  tx : call.Carries b call.device.nonceTx
  rx : call.device.gpdNode.rxAfterTx ≠ 0 → call.Carries b call.device.nonceRx
  windows : call.device.gpdNode.rxAfterTx ≠ 0 → ∀ w ∈ call.earlierWindows b,
    ∀ c ∈ w.counter b, c = call.counter b

end Call

section
variable {b : Build} {d e s s' : Device} {calls : List Call}

theorem Course.acts (course : Course b d calls e s) (acts : Acts b e s s') :
    ∃ more, Course b d (more ++ calls) e s' := by
  induction acts with
  | refl => exact ⟨[], course⟩
  | tail acts act ih =>
    obtain ⟨more, course⟩ := ih
    cases act with
    | aside step silent => exact ⟨more, course.aside step silent⟩
    | receive packet => exact ⟨more, course.receive packet⟩
    | send frameType payload repeatNumber => exact ⟨_ :: more, course.send _ _ _⟩

theorem Course.performs (course : Course b d calls s s) (actions : List Action) :
    ∃ more, Course b d (more ++ calls) (actions.foldl (perform b) s)
      (actions.foldl (perform b) s) := by
  induction actions generalizing calls s with
  | nil => exact ⟨[], course⟩
  | cons a actions ih =>
    obtain ⟨first, course⟩ := course.acts (perform_acts b s a)
    obtain ⟨rest, course⟩ := ih course.next
    exact ⟨rest ++ first, by rwa [List.append_assoc]⟩

theorem Course.running (course : Course b d calls e s) (run : Running b d d) :
    Running b e s := by
  induction course with
  | start => exact run
  | aside course step silent ih => exact ih.step step
  | receive course packet ih => exact ih.steps (Act.steps b _ (.receive packet _))
  | send course frameType payload repeatNumber ih =>
    exact ih.steps (send_steps b _ frameType payload repeatNumber _)
  | next course ih => exact ih.next

/-- Each call is made in a reachable state. -/
theorem Course.call_running (course : Course b d calls e s) (run : Running b d d) {call : Call}
    (member : call ∈ calls) : ∃ e, Running b e call.device := by
  induction course with
  | start => cases member
  | aside course step silent ih => exact ih member
  | receive course packet ih => exact ih member
  | send course frameType payload repeatNumber ih =>
    rcases List.mem_cons.mp member with rfl | earlier
    · exact ⟨_, course.running run⟩
    · exact ih earlier
  | next course ih => exact ih member

theorem call_events (b : Build) (call : Call) {new : List Event}
    (log : (emberAfGpdfSend b call.frameType call.payload call.repeatNumber call.device).log =
      new ++ call.device.log) : call.events b = new := by
  unfold Call.events
  simp only
  rw [log, List.length_append, Nat.add_sub_cancel, List.take_left]

theorem send_log (b : Build) (call : Call) :
    (emberAfGpdfSend b call.frameType call.payload call.repeatNumber call.device).log =
      call.events b ++ call.device.log := by
  obtain ⟨new, log, -⟩ :=
    send_puts b call.frameType call.payload call.repeatNumber call.device
  rw [call_events b call log, log]

theorem receive_silent (b : Build) (packet : List UInt8) (s : Device) :
    sendLog (railCbGeneric b packet s).log = sendLog s.log := by
  obtain ⟨new, log, heard⟩ := handler_heard b { s with rxMpdu := s.rxMpdu.store 0 packet }
  have received : (railCbGeneric b packet s).log = new ++ s.log := log
  have unsent : new.filter ofSend = [] :=
    List.filter_eq_nil_iff.mpr (fun x member => by simp [(heard x member).ofSend])
  unfold sendLog
  rw [received, List.filter_append, unsent, List.nil_append]

/-- Nothing is sent or listened to but by the calls. -/
theorem Course.sendLog_eq (course : Course b d calls e s) : sendLog s.log =
    calls.flatMap (fun call => sendLog (call.events b)) ++ sendLog d.log := by
  induction course with
  | start => rfl
  | aside course step silent ih => rw [silent, ih]
  | receive course packet ih => rw [receive_silent, ih]
  | @send calls e s course frameType payload repeatNumber ih =>
    have log := send_log b ⟨s, frameType, payload, repeatNumber⟩
    simp only at log
    rw [log, List.flatMap_cons, List.append_assoc, ← ih]
    exact List.filter_append _ _
  | next course ih => exact ih

theorem frameWritten_none {x : Event} (h : ofSend x = false) : frameWritten x = none := by
  cases x <;> first | rfl | cases h

theorem ccmNonce_none {x : Event} (h : ofSend x = false) : ccmNonce x = none := by
  cases x <;> first | rfl | cases h

theorem windowNonce_none {x : Event} (h : ofSend x = false) : windowNonce x = none := by
  cases x <;> first | rfl | cases h

theorem filterMap_unshown {α : Type} {f : Event → Option α}
    (none : ∀ {x}, ofSend x = false → f x = none) {new : List Event}
    (silent : ∀ x ∈ new, ofSend x = false) : new.filterMap f = [] :=
  List.filterMap_eq_nil_iff.mpr (fun x member => none (silent x member))

theorem nonceAfter_eq (b : Build) (cell : Cells UInt8) (s : Device) : nonceAfter b cell s =
    (deliveredCounter b cell s).elim s.nonceRx (fun c => store s.nonceRx 8 (copy4Bytes c)) := by
  unfold nonceAfter deliveredCounter commandNonce
  by_cases handed : HandedOver s.gpdNode.addr cell
  · simp only [handed, if_true, true_and]
    split_ifs <;> rfl
  · simp only [handed, if_false, false_and]
    rfl

theorem packet_counter (b : Build) (packet : List UInt8) (s : Device) :
    load (railCbGeneric b packet s).nonceRx 8 4 =
      (deliveredCounter b (s.rxMpdu.store 0 packet).cell s).elim (load s.nonceRx 8 4)
        copy4Bytes := by
  have handled : (railCbGeneric b packet s).nonceRx =
      nonceAfter b (s.rxMpdu.store 0 packet).cell s :=
    handler_nonceRx b { s with rxMpdu := s.rxMpdu.store 0 packet }
  rw [handled, nonceAfter_eq]
  cases deliveredCounter b (s.rxMpdu.store 0 packet).cell s with
  | none => rfl
  | some c => exact load_store_same s.nonceRx 8 (copy4Bytes c)

theorem window_counter (b : Build) (packets : List (List UInt8)) (s : Device) :
    load (packets.foldl (fun s packet => railCbGeneric b packet s) s).nonceRx 8 4 =
      (lastDelivered b packets s).elim (load s.nonceRx 8 4) copy4Bytes := by
  induction packets generalizing s with
  | nil => rfl
  | cons packet packets ih =>
    rw [List.foldl_cons, ih, packet_counter, lastDelivered]
    cases lastDelivered b packets (railCbGeneric b packet s) <;> rfl

theorem startTx_opened (b : Build) {s : Device} (listens : s.gpdNode.rxAfterTx ≠ 0) :
    startTx b s = (s.air.headD []).foldl (fun s packet => railCbGeneric b packet s) (opened s) := by
  unfold startTx emberAfGpdScheduledReceive opened
  simp only
  rw [if_pos listens]
  obtain ⟨_, _, _, _, _, _, _, _, _, air, _, _, _⟩ := s
  cases air <;> rfl

theorem startTx_rxAfterTx (b : Build) {s : Device} (listens : s.gpdNode.rxAfterTx ≠ 0) :
    (startTx b s).gpdNode.rxAfterTx = s.gpdNode.rxAfterTx := by
  rw [startTx_opened b listens]
  exact EventLog.star_preserves (I := fun t => t.gpdNode.rxAfterTx = s.gpdNode.rxAfterTx)
    (fun _ _ step h => (step.kept rxAfterTx_kept).trans h) (window_radio b _ (opened s)) rfl

theorem copy4Bytes_inj {v w : UInt32} : copy4Bytes v = copy4Bytes w ↔ v = w := by
  refine ⟨fun same => ?_, congrArg copy4Bytes⟩
  rw [← word32_copy4Bytes v, same, word32_copy4Bytes]

/-- What transmissions show: no frame, no encryption, and these windows. -/
structure Shows (new : List Event) (windows : List (List UInt8)) : Prop where
  frames : new.filterMap frameWritten = []
  ccm : new.filterMap ccmNonce = []
  windows : new.filterMap windowNonce = windows

theorem Shows.append {new new' : List Event} {ws ws' : List (List UInt8)} (h : Shows new ws)
    (h' : Shows new' ws') : Shows (new' ++ new) (ws' ++ ws) where
  frames := by rw [List.filterMap_append, h.frames, h'.frames, List.append_nil]
  ccm := by rw [List.filterMap_append, h.ccm, h'.ccm, List.append_nil]
  windows := by rw [List.filterMap_append, h.windows, h'.windows]

theorem shows_silent {new : List Event} (silent : ∀ x ∈ new, ofSend x = false) : Shows new [] :=
  ⟨filterMap_unshown frameWritten_none silent, filterMap_unshown ccmNonce_none silent,
    filterMap_unshown windowNonce_none silent⟩

theorem startTx_shows (b : Build) {s : Device} (listens : s.gpdNode.rxAfterTx ≠ 0) : ∃ new,
    (startTx b s).log = new ++ s.log ∧ Shows new [nonce s.nonceRx] := by
  obtain ⟨new, log, heard⟩ := window_heard b (s.air.headD []) (opened s)
  refine ⟨new ++ [.startRx s.gpdNode.channel (nonce s.nonceRx), .startTx s.gpdNode.skipCca
    s.gpdNode.channel s.gpdNode.securityFrameCounter], ?_, ?_⟩
  · rw [startTx_opened b listens, log, List.append_assoc]
    rfl
  · have front : Shows new [] := shows_silent (fun x member => (heard x member).ofSend)
    exact Shows.append ⟨rfl, rfl, rfl⟩ front

theorem startTx_closed_shows (b : Build) {s : Device} (closed : ¬ s.gpdNode.rxAfterTx ≠ 0) :
    (startTx b s).log = [.startTx s.gpdNode.skipCca s.gpdNode.channel
        s.gpdNode.securityFrameCounter] ++ s.log ∧
      (startTx b s).gpdNode = s.gpdNode := by
  unfold startTx
  simp only
  rw [if_neg closed]
  exact ⟨rfl, rfl⟩

theorem closed_rounds_show (b : Build) (n : ℕ) {s : Device} (closed : ¬ s.gpdNode.rxAfterTx ≠ 0) :
    ∃ new, ((startTx b)^[n] s).log = new ++ s.log ∧ Shows new [] := by
  induction n generalizing s with
  | zero => exact ⟨[], rfl, rfl, rfl, rfl⟩
  | succ n ih =>
    obtain ⟨log, same⟩ := startTx_closed_shows b closed
    obtain ⟨rest, log', shows⟩ := ih (s := startTx b s) (by rwa [same])
    have sent : Shows [.startTx s.gpdNode.skipCca s.gpdNode.channel
        s.gpdNode.securityFrameCounter] [] := ⟨rfl, rfl, rfl⟩
    refine ⟨_, ?_, sent.append shows⟩
    rw [Function.iterate_succ_apply, log', log, List.append_assoc]

theorem nonceCounter_nonce (cell : Cells UInt8) : nonceCounter (nonce cell) = load cell 8 4 := by
  rfl

/-- Every window of the transmissions opens with `counter` if the first one does and those before
the last one leave it so. -/
theorem open_rounds_show (b : Build) (counter : UInt32) (n : ℕ) {s : Device}
    (listens : s.gpdNode.rxAfterTx ≠ 0) : ∃ new ws, ((startTx b)^[n + 1] s).log = new ++ s.log ∧
      Shows new ws ∧ ((∀ nonce ∈ ws, nonceCounter nonce = copy4Bytes counter) ↔
        load s.nonceRx 8 4 = copy4Bytes counter ∧
          ∀ w ∈ windows b n s, ∀ c ∈ w.counter b, c = counter) := by
  induction n generalizing s with
  | zero =>
    obtain ⟨new, log, shows⟩ := startTx_shows b listens
    refine ⟨new, _, log, shows, ?_⟩
    rw [List.forall_mem_singleton, nonceCounter_nonce]
    simp [windows]
  | succ n ih =>
    obtain ⟨first, log, shows⟩ := startTx_shows b listens
    have still : (startTx b s).gpdNode.rxAfterTx ≠ 0 := by rwa [startTx_rxAfterTx b listens]
    obtain ⟨rest, ws, log', shows', agree⟩ := ih still
    refine ⟨rest ++ first, _, ?_, shows.append shows', ?_⟩
    · rw [Function.iterate_succ_apply, log', log, List.append_assoc]
    · have left : load (startTx b s).nonceRx 8 4 =
          ((⟨opened s, s.air.headD []⟩ : Window).counter b).elim (load s.nonceRx 8 4)
            copy4Bytes := by
        rw [startTx_opened b listens]
        exact window_counter b _ (opened s)
      have kept (same : load s.nonceRx 8 4 = copy4Bytes counter) :
          load (startTx b s).nonceRx 8 4 = copy4Bytes counter ↔
            ∀ c ∈ (⟨opened s, s.air.headD []⟩ : Window).counter b, c = counter := by
        rw [left]
        cases (⟨opened s, s.air.headD []⟩ : Window).counter b with
        | none => simpa using same
        | some c => simpa using copy4Bytes_inj
      rw [List.forall_mem_append, agree, List.forall_mem_singleton, nonceCounter_nonce, windows,
        List.forall_mem_cons]
      constructor
      · rintro ⟨⟨second, later⟩, same⟩
        exact ⟨same, (kept same).mp second, later⟩
      · rintro ⟨same, second, later⟩
        exact ⟨⟨(kept same).mpr second, later⟩, same⟩

theorem headerCounter_built (ccm : Ccm) (key : Key) (nonce : List UInt8) {payload : List UInt8}
    {gpd : EmberGpd} (happ : gpd.addr.appId = appIdSrcId) (secured : Secured gpd.securityLevel)
    (hp : payload.length ≤ 59) :
    headerCounter (built ccm key nonce nwkFcFrameTypeData payload gpd) =
      copy4Bytes gpd.securityFrameCounter := by
  have low : gpd.securityLevel ≤ 3 := by
    rcases secured with level | level <;> rw [level] <;> decide
  have reads := dataFrame_reads (fun _ => 0) ccm key nonce payload happ low hp
  rw [← reads.counter (reads.secured.mpr secured), copy4Bytes_word32 _ (load_length _ _ _)]
  rfl

structure Counted (b : Build) (call : Call) (u : Device) : Prop where
  gpdNode : u.gpdNode =
    { call.device.gpdNode with securityFrameCounter := call.counter b }
  log : ∃ new, u.log = new ++ call.device.log ∧ Shows new []
  tx : load u.nonceTx 8 4 = copy4Bytes (call.counter b) ↔ call.Carries b call.device.nonceTx
  rx : load u.nonceRx 8 4 = copy4Bytes (call.counter b) ↔ call.Carries b call.device.nonceRx

theorem counted (b : Build) (call : Call) :
    Counted b call (updateFrameCounter b call.device) := by
  cases sequence : b.macSeq with
  | incremental =>
    have counter : call.counter b = call.device.gpdNode.securityFrameCounter + 1 := by
      unfold Call.counter nextCounter
      rw [sequence]
    have stored (cell : Cells UInt8) : load (store cell 8
        (copy4Bytes (call.device.gpdNode.securityFrameCounter + 1))) 8 4 =
          copy4Bytes (call.counter b) := by
      rw [counter]
      exact load_store_same cell 8 (copy4Bytes (call.device.gpdNode.securityFrameCounter + 1))
    rw [updateFrameCounter_incremental sequence]
    refine ⟨?_, ⟨[_], rfl, rfl, rfl, rfl⟩, ?_, ?_⟩
    · rw [counter]
    · exact iff_of_true (stored _) (Or.inl sequence)
    · exact iff_of_true (stored _) (Or.inl sequence)
  | random =>
    have counter : call.counter b = (call.device.randoms.headD 0).toUInt8.toUInt32 := by
      unfold Call.counter nextCounter
      rw [sequence]
    have other : b.macSeq ≠ .incremental := by
      rw [sequence]
      decide
    rw [updateFrameCounter_random sequence]
    refine ⟨?_, ⟨[], rfl, rfl, rfl, rfl⟩, ?_, ?_⟩
    · rw [counter]
    · exact (or_iff_right other).symm
    · exact (or_iff_right other).symm

structure Composed (b : Build) (call : Call) (t : Device) : Prop where
  rxAfterTx : t.gpdNode.rxAfterTx = call.device.gpdNode.rxAfterTx
  rx : load t.nonceRx 8 4 = copy4Bytes (call.counter b) ↔ call.Carries b call.device.nonceRx
  log : ∃ new frame, t.log = new ++ call.device.log ∧ new.filterMap frameWritten = [frame] ∧
    headerCounter frame = copy4Bytes (call.counter b) ∧ new.filterMap windowNonce = [] ∧
    ((new.filterMap ccmNonce).map nonceCounter = [copy4Bytes (call.counter b)] ↔
      call.Carries b call.device.nonceTx)

theorem composed (b : Build) (call : Call) (data : call.SecuredData)
    (srcId : call.device.gpdNode.addr.appId = appIdSrcId) :
    Composed b call (writeTxFifo b call.frameType (call.payload.take srcIdMaxPayloadSize)
      (updateFrameCounter b call.device)) := by
  have short : (call.payload.take srcIdMaxPayloadSize).length ≤ 59 := List.length_take_le _ _
  generalize call.payload.take srcIdMaxPayloadSize = sent at short
  have update := counted b call
  obtain ⟨front, log, shows⟩ := update.log
  obtain ⟨mpdu, written⟩ := writeTxFifo_built b (Or.inl data.1) short
    (updateFrameCounter b call.device)
  generalize updateFrameCounter b call.device = u at *
  have level : u.gpdNode.securityLevel = call.device.gpdNode.securityLevel := by
    rw [update.gpdNode]
  have window : u.gpdNode.rxAfterTx = call.device.gpdNode.rxAfterTx := by rw [update.gpdNode]
  have secured : secureEvents call.frameType u =
      [.secure u.gpdNode.securityLevel u.ccmKey u.gpdNode.securityKey (nonce u.nonceTx)] :=
    if_pos ⟨data.1, level ▸ data.2⟩
  rw [secured, log, data.1] at written
  rw [data.1, written]
  refine ⟨window, update.rx, _,
    built b.ccm u.ccmKey (nonce u.nonceTx) nwkFcFrameTypeData sent u.gpdNode,
    (List.append_assoc [_, _] front call.device.log).symm, ?_, ?_, ?_, ?_⟩
  · rw [List.filterMap_append, shows.frames]
    rfl
  · rw [update.gpdNode]
    exact headerCounter_built b.ccm u.ccmKey (nonce u.nonceTx) srcId data.2 short
  · rw [List.filterMap_append, shows.windows]
    rfl
  · rw [List.filterMap_append, shows.ccm, ← update.tx]
    exact List.singleton_inj

/-- What the call shows, from what its transmissions show. -/
theorem Composed.agree_iff {call : Call} {t : Device} (h : Composed b call t) {new : List Event}
    {ws : List (List UInt8)} (grown : (emberAfGpdfSend b call.frameType call.payload
      call.repeatNumber call.device).log = new ++ t.log) (shows : Shows new ws) :
    NoncesAgree (call.events b) ↔ call.Carries b call.device.nonceTx ∧
      ∀ nonce ∈ ws, nonceCounter nonce = copy4Bytes (call.counter b) := by
  obtain ⟨front, frame, log, written, header, closed, tx⟩ := h.log
  have events : call.events b = new ++ front :=
    call_events b call (by rw [grown, log, List.append_assoc])
  have frames : (call.events b).filterMap frameWritten = [frame] := by
    rw [events, List.filterMap_append, shows.frames, written, List.nil_append]
  have ccm : (call.events b).filterMap ccmNonce = front.filterMap ccmNonce := by
    rw [events, List.filterMap_append, shows.ccm, List.nil_append]
  have opens : (call.events b).filterMap windowNonce = ws := by
    rw [events, List.filterMap_append, shows.windows, closed, List.append_nil]
  unfold NoncesAgree
  rw [frames, ccm, opens, ← tx, ← header]
  constructor
  · rintro ⟨frame', one, agree⟩
    rw [List.singleton_inj.mp one]
    exact agree
  · exact fun agree => ⟨frame, rfl, agree⟩

theorem call_agrees_iff (b : Build) (call : Call) (data : call.SecuredData)
    (srcId : call.device.gpdNode.addr.appId = appIdSrcId) :
    NoncesAgree (call.events b) ↔ call.CountersCarried b := by
  have start := composed b call data srcId
  have rounds : max 1 call.repeatNumber = call.repeatNumber - 1 + 1 := by omega
  have sent : emberAfGpdfSend b call.frameType call.payload call.repeatNumber call.device =
      (startTx b)^[call.repeatNumber - 1 + 1] (writeTxFifo b call.frameType
        (call.payload.take srcIdMaxPayloadSize) (updateFrameCounter b call.device)) := by
    rw [← rounds]
    rfl
  by_cases listens : call.device.gpdNode.rxAfterTx ≠ 0
  · obtain ⟨new, ws, grown, shows, opens⟩ := open_rounds_show b (call.counter b)
      (call.repeatNumber - 1) (start.rxAfterTx.symm ▸ listens)
    rw [← sent] at grown
    rw [start.agree_iff grown shows, opens, start.rx]
    constructor
    · rintro ⟨tx, rx, later⟩
      exact ⟨tx, fun _ => rx, fun _ => later⟩
    · rintro ⟨tx, rx, later⟩
      exact ⟨tx, rx listens, later listens⟩
  · obtain ⟨new, grown, shows⟩ := closed_rounds_show b (call.repeatNumber - 1 + 1)
      (start.rxAfterTx.symm ▸ listens)
    rw [← sent] at grown
    rw [start.agree_iff grown shows]
    constructor
    · rintro ⟨tx, -⟩
      exact ⟨tx, fun opened => absurd opened listens, fun opened => absurd opened listens⟩
    · rintro ⟨tx, -, -⟩
      exact ⟨tx, fun nonce member => nomatch member⟩

/-- In every run, the nonces and the header agree on the counter in exactly these calls. -/
theorem nonces_agree_iff (b : Build) {d : Device} (run : Running b d d)
    (actions : List Action) : ∃ calls,
      Course b d calls (actions.foldl (perform b) d) (actions.foldl (perform b) d) ∧
      sendLog (actions.foldl (perform b) d).log =
        calls.flatMap (fun call => sendLog (call.events b)) ++ sendLog d.log ∧
      ∀ call ∈ calls, call.SecuredData →
        (NoncesAgree (call.events b) ↔ call.CountersCarried b) := by
  obtain ⟨calls, course⟩ := Course.performs (.start : Course b d [] d d) actions
  refine ⟨_, course, course.sendLog_eq, fun call member data => ?_⟩
  obtain ⟨e, reached⟩ := course.call_running run member
  have addr := (CommissioningReply.configured_of_running reached).addr
  exact call_agrees_iff b call data (congrArg EmberGpdAddr.appId addr)

end

def randomBuild : Build := { shipped (AesCipher.aesCcm tagSize) with macSeq := .random }

def toggle : List Action := [.command .send, .stack [] [7] []]

theorem toggle_nonces : ∃ calls,
    Course randomBuild (powerUp randomBuild []) calls
      (toggle.foldl (perform randomBuild) (powerUp randomBuild []))
      (toggle.foldl (perform randomBuild) (powerUp randomBuild [])) ∧
    sendLog (toggle.foldl (perform randomBuild) (powerUp randomBuild [])).log =
      calls.flatMap (fun call => sendLog (call.events randomBuild)) ++
        sendLog (powerUp randomBuild []).log ∧
    ∀ call ∈ calls, call.SecuredData →
      (NoncesAgree (call.events randomBuild) ↔ call.CountersCarried randomBuild) :=
  nonces_agree_iff randomBuild .fresh toggle

def toggleCall : Call where
  device := { emberGpdSetState appStateOperationalCommandRequest (powerUp randomBuild []) with
    air := [], randoms := [7], descriptions := [] }
  frameType := nwkFcFrameTypeData
  payload := [cmdToggle]
  repeatNumber := cmdResendNumber

/-- The toggle says 7 in its header, and is encrypted with the counter of the boot. -/
theorem drawn_counter_unused : ∃ (b : Build) (d s : Device) (calls : List Call) (call : Call),
    Running b d d ∧ Course b d calls s s ∧ call ∈ calls ∧ call.SecuredData ∧
      ¬ NoncesAgree (call.events b) := by
  have course : Course randomBuild (powerUp randomBuild []) [toggleCall] _ _ :=
    (((Course.start.aside (.command _ _ (Or.inr rfl)) rfl).next.aside
      (.environment _ [] [7] []) rfl).send nwkFcFrameTypeData [cmdToggle] cmdResendNumber).next
  have data : toggleCall.SecuredData := ⟨rfl, by decide +kernel⟩
  have counter : toggleCall.counter randomBuild = 7 := rfl
  have boot : load toggleCall.device.nonceTx 8 4 = copy4Bytes 0 := by decide +kernel
  refine ⟨_, _, _, _, toggleCall, .fresh, course, List.mem_singleton_self _, data, fun agree => ?_⟩
  have carried := (call_agrees_iff randomBuild toggleCall data (by decide +kernel)).mp agree
  rcases carried.tx with incremental | same
  · cases incremental
  · rw [counter, boot] at same
    exact absurd same (by decide)

end GreenPower.NonceAgreement
