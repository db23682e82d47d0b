import GreenPower.ProgramSends
import GreenPower.Runs
import GreenPower.AesCipher

set_option autoImplicit false

/-!
Transmissions against the calls that follow them. Starting one does not wait for it, so whatever
comes next in `GpdTask` can come before it is complete.
-/
namespace GreenPower.TransmitCompletion
open MemoryArray BuildOptions DeviceState NonVolatile SendReceive Commissioning GpdTask DeviceSteps
  FramesOnAir ProgramSends Runs

inductive RailCall where
  | writeTxFifo (data : List UInt8)
  | idle
  | startTx (channel : UInt8)
  deriving DecidableEq

/-- The calls behind a record, for sends that open no window. Each transmission begins with an
idle. -/
def recordCalls : Event → List RailCall
  | .txFifo _ _ _ frame => [.writeTxFifo frame]
  | .startTx _ channel _ => [.idle, .startTx channel]
  | _ => []

def railCalls (log : List Event) : List RailCall := log.reverse.flatMap recordCalls

structure Radio where
  /-- The calls `GpdTask` is still going to make. -/
  todo : List RailCall
  txFifo : List UInt8
  /-- The transmission that was started and is not complete. -/
  pending : Option (List UInt8)
  sent : List (List UInt8)
  cancelled : List (List UInt8)

inductive Move where
  | task
  | txPacketSent

/-- Both a reset of the FIFO and `RAIL_Idle` end a pending transmission. -/
def call (s : Radio) : RailCall → Radio
  | .writeTxFifo data =>
    { s with txFifo := data, pending := none, cancelled := s.pending.toList ++ s.cancelled }
  | .idle => { s with pending := none, cancelled := s.pending.toList ++ s.cancelled }
  | .startTx _ => { s with pending := some s.txFifo }

def step (s : Radio) : Move → Option Radio
  | .task =>
    match s.todo with
    | [] => none
    | c :: rest => some (call { s with todo := rest } c)
  | .txPacketSent =>
    match s.pending with
    | none => none
    | some frame => some { s with pending := none, sent := frame :: s.sent }

def idleRadio (calls : List RailCall) : Radio where
  todo := calls
  txFifo := []
  pending := none
  sent := []
  cancelled := []

def NeverCancels (calls : List RailCall) : Prop :=
  ∀ s, RunOf step (fun _ _ => True) (idleRadio calls) s → s.cancelled = []

def Disturbs : RailCall → Prop
  | .startTx _ => False
  | _ => True

def Undisturbed (calls : List RailCall) : Prop :=
  ∀ before channel after, calls = before ++ .startTx channel :: after → ∀ c ∈ after, ¬ Disturbs c

structure Inv (calls : List RailCall) (s : Radio) : Prop where
  clean : s.cancelled = []
  made : ∃ done, calls = done ++ s.todo ∧
    (s.pending ≠ none → ∃ channel, .startTx channel ∈ done)

theorem not_pending_of_disturbs {calls done rest : List RailCall} {c : RailCall}
    (undisturbed : Undisturbed calls) (made : calls = done ++ c :: rest) (disturbs : Disturbs c)
    {pending : Option (List UInt8)}
    (started : pending ≠ none → ∃ channel, .startTx channel ∈ done) : pending = none := by
  by_contra waits
  obtain ⟨channel, member⟩ := started waits
  obtain ⟨before, after, rfl⟩ := List.append_of_mem member
  have order : calls = before ++ .startTx channel :: (after ++ c :: rest) := by
    rw [made, List.append_assoc, List.cons_append]
  exact undisturbed before channel _ order c (by simp) disturbs

theorem inv_step {calls : List RailCall} (undisturbed : Undisturbed calls) {s s' : Radio} {m : Move}
    (next : step s m = some s') (h : Inv calls s) : Inv calls s' := by
  obtain ⟨clean, done, made, started⟩ := h
  cases m with
  | task =>
    unfold step at next
    cases todo : s.todo with
    | nil =>
      simp only [todo] at next
      cases next
    | cons c rest =>
      simp only [todo, Option.some.injEq] at next
      rw [todo] at made
      have order : calls = (done ++ [c]) ++ rest := by
        rw [made, List.append_assoc]
        rfl
      obtain rfl := next
      cases c with
      | startTx channel =>
        exact ⟨clean, done ++ [.startTx channel], order, fun _ => ⟨channel, by simp⟩⟩
      | writeTxFifo data =>
        have quiet := not_pending_of_disturbs undisturbed made trivial started
        refine ⟨?_, done ++ [.writeTxFifo data], order, fun waits => absurd rfl waits⟩
        change s.pending.toList ++ s.cancelled = []
        rw [quiet, clean]
        rfl
      | idle =>
        have quiet := not_pending_of_disturbs undisturbed made trivial started
        refine ⟨?_, done ++ [.idle], order, fun waits => absurd rfl waits⟩
        change s.pending.toList ++ s.cancelled = []
        rw [quiet, clean]
        rfl
  | txPacketSent =>
    unfold step at next
    cases pending : s.pending with
    | none =>
      simp only [pending] at next
      cases next
    | some frame =>
      simp only [pending, Option.some.injEq] at next
      obtain rfl := next
      exact ⟨clean, done, made, fun waits => absurd rfl waits⟩

theorem neverCancels_of_undisturbed {calls : List RailCall} (undisturbed : Undisturbed calls) :
    NeverCancels calls := by
  intro s run
  have begun : Inv calls (idleRadio calls) := ⟨rfl, [], rfl, fun waits => absurd rfl waits⟩
  exact (run.preserves (fun _ _ _ next _ h => inv_step undisturbed next h) begun).clean

theorem task_run (first rest : List RailCall) : ∀ s : Radio, s.todo = first ++ rest →
    ∃ s', RunOf step (fun _ _ => True) s s' ∧ s'.todo = rest := by
  induction first with
  | nil => exact fun s todo => ⟨s, .refl, todo⟩
  | cons c first ih =>
    intro s todo
    have next : step s .task = some (call { s with todo := first ++ rest } c) := by
      unfold step
      rw [todo]
      rfl
    have left : (call { s with todo := first ++ rest } c).todo = first ++ rest := by
      cases c <;> rfl
    obtain ⟨s', run, todo'⟩ := ih _ left
    exact ⟨s', (RunOf.refl.tail .task trivial next).trans run, todo'⟩

theorem pending_cancelled (calls : List RailCall) : ∀ s : Radio, s.todo = calls →
    s.pending ≠ none → (∃ c ∈ calls, Disturbs c) →
    ∃ s', RunOf step (fun _ _ => True) s s' ∧ s'.cancelled ≠ [] := by
  induction calls with
  | nil =>
    rintro s - - ⟨c, member, -⟩
    cases member
  | cons c calls ih =>
    rintro s todo pending ⟨d, member, disturbs⟩
    have next : step s .task = some (call { s with todo := calls } c) := by
      unfold step
      rw [todo]
    obtain ⟨frame, waits⟩ := Option.ne_none_iff_exists'.mp pending
    have first : RunOf step (fun _ _ => True) s _ := RunOf.refl.tail .task trivial next
    cases c with
    | startTx channel =>
      have later : d ∈ calls := by
        rcases List.mem_cons.mp member with rfl | later
        · exact disturbs.elim
        · exact later
      obtain ⟨s', run, cancelled⟩ := ih (call { s with todo := calls } (.startTx channel)) rfl
        (by simp [call]) ⟨d, later, disturbs⟩
      exact ⟨s', first.trans run, cancelled⟩
    | writeTxFifo data => exact ⟨_, first, by simp [call, waits]⟩
    | idle => exact ⟨_, first, by simp [call, waits]⟩

theorem not_neverCancels {before after : List RailCall} {channel : UInt8}
    (disturbed : ∃ c ∈ after, Disturbs c) :
    ¬ NeverCancels (before ++ .startTx channel :: after) := by
  intro never
  obtain ⟨s, run, todo⟩ := task_run before (.startTx channel :: after) (idleRadio _) rfl
  have next : step s .task = some (call { s with todo := after } (.startTx channel)) := by
    unfold step
    rw [todo]
  obtain ⟨s', rest, cancelled⟩ := pending_cancelled after
    (call { s with todo := after } (.startTx channel)) rfl (by simp [call]) disturbed
  exact cancelled (never s' ((run.tail .task trivial next).trans rest))

/-- From `s` to `s'` the device makes `n` transmissions and opens no window. -/
inductive ClosedSends (b : Build) (s : Device) : Device → ℕ → Prop
  | refl : ClosedSends b s s 0
  | quiet {s' s'' : Device} {n : ℕ} {new : List Event} (sends : ClosedSends b s s' n)
      (log : s''.log = new ++ s'.log) (off : ∀ e ∈ new, ¬ OnRadio e) : ClosedSends b s s'' n
  | send {s' : Device} {n : ℕ} (sends : ClosedSends b s s' n) (clear : s'.gpdNode.rxAfterTx = 0)
      (frameType : UInt8) (payload : List UInt8) (repeatNumber : ℕ) :
      ClosedSends b s (emberAfGpdfSend b frameType payload repeatNumber s') (n + max 1 repeatNumber)

theorem railCalls_append (new log : List Event) :
    railCalls (new ++ log) = railCalls log ++ railCalls new := by
  unfold railCalls
  rw [List.reverse_append, List.flatMap_append]

theorem railCalls_off {new : List Event} (off : ∀ e ∈ new, ¬ OnRadio e) : railCalls new = [] := by
  unfold railCalls
  rw [List.flatMap_eq_nil_iff]
  intro e member
  have quiet := off e (List.mem_reverse.mp member)
  cases e <;> first | rfl | exact absurd trivial quiet

def transmissions (channel : UInt8) (n : ℕ) : List RailCall :=
  (List.replicate n [.idle, .startTx channel]).flatten

theorem startTx_iterate_closed (b : Build) (n : ℕ) {s : Device} (clear : s.gpdNode.rxAfterTx = 0) :
    ∃ new, ((startTx b)^[n] s).log = new ++ s.log ∧
      railCalls new = transmissions s.gpdNode.channel n := by
  induction n generalizing s with
  | zero => exact ⟨[], rfl, rfl⟩
  | succ n ih =>
    have once : startTx b s = s.record
        (.startTx s.gpdNode.skipCca s.gpdNode.channel s.gpdNode.securityFrameCounter) := by
      unfold startTx
      simp only
      rw [if_neg (not_not.mpr clear)]
    rw [Function.iterate_succ_apply, once]
    obtain ⟨new, log, calls⟩ := ih (s := s.record
      (.startTx s.gpdNode.skipCca s.gpdNode.channel s.gpdNode.securityFrameCounter)) clear
    refine ⟨new ++ [.startTx s.gpdNode.skipCca s.gpdNode.channel s.gpdNode.securityFrameCounter],
      ?_, ?_⟩
    · rw [log, List.append_assoc]
      rfl
    · rw [railCalls_append, calls]
      rfl

/-- A frame is written, then each transmission idles the radio and starts. -/
theorem send_calls (b : Build) (frameType : UInt8) (payload : List UInt8) (repeatNumber : ℕ)
    {s : Device} (clear : s.gpdNode.rxAfterTx = 0) : ∃ new frame,
      (emberAfGpdfSend b frameType payload repeatNumber s).log = new ++ s.log ∧
      railCalls new = .writeTxFifo frame :: transmissions s.gpdNode.channel (max 1 repeatNumber) := by
  obtain ⟨front, c, counted, off, gpd⟩ := updateFrameCounter_offRadio b s
  obtain ⟨mpdu, frame, written⟩ := writeTxFifo_eq b frameType (payload.take srcIdMaxPayloadSize)
    (updateFrameCounter b s)
  have composed : (writeTxFifo b frameType (payload.take srcIdMaxPayloadSize)
      (updateFrameCounter b s)).gpdNode = { s.gpdNode with securityFrameCounter := c } := by
    rw [written]
    exact gpd
  obtain ⟨new, log, calls⟩ := startTx_iterate_closed b (max 1 repeatNumber)
    (s := writeTxFifo b frameType (payload.take srcIdMaxPayloadSize) (updateFrameCounter b s))
    (by rw [composed]; exact clear)
  rw [composed] at calls
  refine ⟨new ++ (.txFifo frameType (payload.take srcIdMaxPayloadSize) (updateFrameCounter b s).gpdNode
    frame :: (secureEvents frameType (updateFrameCounter b s) ++ front)), frame, ?_, ?_⟩
  · change ((startTx b)^[max 1 repeatNumber] _).log = _
    rw [log, written, counted]
    simp only [List.append_assoc, List.cons_append]
  · have quiet := railCalls_off (secureEvents_offRadio frameType (updateFrameCounter b s))
    rw [railCalls_append, calls, ← List.singleton_append, railCalls_append, railCalls_append, quiet,
      railCalls_off off]
    rfl

/-- What the calls of `n` transmissions are like: none, one start at the end, or a start that an
idle follows. -/
inductive Shape : ℕ → List RailCall → Prop
  | none : Shape 0 []
  | one (frame : List UInt8) (channel : UInt8) :
      Shape 1 [.writeTxFifo frame, .idle, .startTx channel]
  | more {n : ℕ} (before : List RailCall) (channel : UInt8) (after : List RailCall)
      (idles : .idle ∈ after) : Shape (n + 2) (before ++ .startTx channel :: after)

theorem Shape.send {n : ℕ} {calls : List RailCall} (h : Shape n calls) (frame : List UInt8)
    (channel : UInt8) (k : ℕ) :
    Shape (n + (k + 1)) (calls ++ .writeTxFifo frame :: transmissions channel (k + 1)) := by
  cases h with
  | none =>
    cases k with
    | zero => exact .one frame channel
    | succ k =>
      rw [Nat.zero_add]
      exact .more [.writeTxFifo frame, .idle] channel (transmissions channel (k + 1))
        List.mem_cons_self
  | one first channel' =>
    have shape := Shape.more (n := k) [.writeTxFifo first, .idle] channel'
      (.writeTxFifo frame :: transmissions channel (k + 1)) (by simp [transmissions])
    rwa [Nat.add_comm 1]
  | more before channel' after idles =>
    rename_i n
    have shape := Shape.more (n := n + (k + 1)) before channel'
      (after ++ .writeTxFifo frame :: transmissions channel (k + 1))
      (List.mem_append_left _ idles)
    rw [List.append_assoc, List.cons_append, Nat.add_right_comm]
    exact shape

theorem Shape.neverCancels_iff {n : ℕ} {calls : List RailCall} (h : Shape n calls) :
    NeverCancels calls ↔ n ≤ 1 := by
  cases h with
  | none =>
    refine iff_of_true (neverCancels_of_undisturbed ?_) (Nat.zero_le 1)
    intro before channel after order
    exact absurd order (by simp)
  | one frame channel =>
    refine iff_of_true (neverCancels_of_undisturbed ?_) le_rfl
    intro before channel' after order c member
    have nothing : after = [] := by
      rcases before with _ | ⟨_, _ | ⟨_, _ | ⟨_, _⟩⟩⟩ <;> simp at order
      exact order.2.2.2
    rw [nothing] at member
    cases member
  | more before channel after idles =>
    exact iff_of_false (not_neverCancels ⟨.idle, idles, trivial⟩) (by omega)

theorem ClosedSends.shape {b : Build} {s s' : Device} {n : ℕ} (sends : ClosedSends b s s' n) :
    ∃ new, s'.log = new ++ s.log ∧ Shape n (railCalls new) := by
  induction sends with
  | refl => exact ⟨[], rfl, .none⟩
  | quiet _ log off ih =>
    rename_i quiet _
    obtain ⟨new, log', shape⟩ := ih
    refine ⟨quiet ++ new, ?_, ?_⟩
    · rw [log, log', List.append_assoc]
    · rw [railCalls_append, railCalls_off off, List.append_nil]
      exact shape
  | send _ clear frameType payload repeatNumber ih =>
    obtain ⟨new, log', shape⟩ := ih
    obtain ⟨own, frame, log, calls⟩ := send_calls b frameType payload repeatNumber clear
    obtain ⟨k, times⟩ := Nat.exists_eq_add_of_le' (Nat.le_max_left 1 repeatNumber)
    rw [times] at calls ⊢
    refine ⟨own ++ new, ?_, ?_⟩
    · rw [log, log', List.append_assoc]
    · rw [railCalls_append, calls]
      exact shape.send frame _ k

/-- No order of the completions cancels anything exactly if there is a single transmission. -/
theorem transmissions_complete_iff (b : Build) {s s' : Device} {n : ℕ}
    (sends : ClosedSends b s s' n) : ∃ new, s'.log = new ++ s.log ∧
      (NeverCancels (railCalls new) ↔ n ≤ 1) := by
  obtain ⟨new, log, shape⟩ := sends.shape
  exact ⟨new, log, shape.neverCancels_iff⟩

theorem requestOnChannel_closed {b : Build} {s s' : Device} {n : ℕ} (channel : UInt8)
    (sends : ClosedSends b s s' n) (clear : s'.gpdNode.rxAfterTx = 0) :
    ClosedSends b s (requestOnChannel b channel s') (n + 1) ∧
      (requestOnChannel b channel s').gpdNode.rxAfterTx = 0 := by
  have set : ClosedSends b s { s' with gpdNode.channel := channel } n :=
    sends.quiet (show _ = [] ++ s'.log from rfl) (fun _ none => nomatch none)
  refine ⟨set.send clear _ _ cmdResendNumber, ?_⟩
  exact (emberAfGpdfSend_kept rxAfterTx_kept b _ _ _ _).trans clear

theorem round_closed {b : Build} (channels : List UInt8) {s s' : Device} {n : ℕ}
    (sends : ClosedSends b s s' n) (clear : s'.gpdNode.rxAfterTx = 0) :
    ClosedSends b s (channels.foldl (fun s channel => requestOnChannel b channel s) s')
        (n + channels.length) ∧
      (channels.foldl (fun s channel => requestOnChannel b channel s) s').gpdNode.rxAfterTx = 0 := by
  induction channels generalizing s' n with
  | nil => exact ⟨sends, clear⟩
  | cons channel channels ih =>
    obtain ⟨first, clear⟩ := requestOnChannel_closed channel sends clear
    rw [List.length_cons, Nat.add_comm channels.length, ← Nat.add_assoc]
    exact ih first clear

theorem rounds_closed {b : Build} (times : ℕ) {s s' : Device} {n : ℕ}
    (sends : ClosedSends b s s' n) (clear : s'.gpdNode.rxAfterTx = 0) :
    ClosedSends b s ((fun s => b.appChannelSet.foldl (fun s channel =>
      requestOnChannel b channel s) s)^[times] s') (n + times * b.appChannelSet.length) := by
  induction times generalizing s' n with
  | zero =>
    rw [Nat.zero_mul]
    exact sends
  | succ times ih =>
    obtain ⟨first, clear⟩ := round_closed b.appChannelSet sends clear
    rw [Function.iterate_succ_apply, Nat.succ_mul, Nat.add_comm (times * _), ← Nat.add_assoc]
    exact ih first clear

theorem sweep_closed (b : Build) (s : Device) :
    ClosedSends b s (gpdCommissioningChannelRequestStateOnAllChannel b s)
      (b.numberOfChannelRequestPerChannelWithAcSet * b.appChannelSet.length) := by
  have flags : ClosedSends b s
      { s with gpdNode := { s.gpdNode with rxAfterTx := 0, autoCommissioning := true } } 0 :=
    ClosedSends.refl.quiet (show _ = [] ++ s.log from rfl) (fun _ none => nomatch none)
  have sends := rounds_closed b.numberOfChannelRequestPerChannelWithAcSet flags rfl
  rwa [Nat.zero_add] at sends

def unwindowed : Device :=
  { powerUp (shipped (AesCipher.aesCcm tagSize)) [] with gpdNode.rxAfterTx := 0 }

theorem single_send_completes : ∃ new,
    (sendToggle (shipped (AesCipher.aesCcm tagSize)) unwindowed).log = new ++ unwindowed.log ∧
      (NeverCancels (railCalls new) ↔ 1 ≤ 1) :=
  transmissions_complete_iff (shipped (AesCipher.aesCcm tagSize))
    (ClosedSends.refl.send (rfl : unwindowed.gpdNode.rxAfterTx = 0) _ _ cmdResendNumber)

/-- The shipped sweep makes 64 transmissions. -/
theorem shipped_sweep_cancels : ∃ s new,
    (gpdCommissioningChannelRequestStateOnAllChannel (shipped (AesCipher.aesCcm tagSize)) s).log =
        new ++ s.log ∧ ¬ NeverCancels (railCalls new) := by
  have sends := sweep_closed (shipped (AesCipher.aesCcm tagSize))
    (powerUp (shipped (AesCipher.aesCcm tagSize)) [])
  obtain ⟨new, log, shape⟩ := sends.shape
  exact ⟨_, new, log, fun never => absurd (shape.neverCancels_iff.mp never)
    (by decide : ¬ 4 * 16 ≤ 1)⟩

end GreenPower.TransmitCompletion
