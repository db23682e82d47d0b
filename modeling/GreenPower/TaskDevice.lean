import GreenPower.TaskSteps
import GreenPower.FieldRanges
import GreenPower.CommissioningHistory

set_option autoImplicit false

/-!
The device under the tasks. A move of the task system is, on the device, a run of elementary
changes, so what these keep holds in whatever order the tasks, the clients, the radio's interrupt
and the timeouts come, also when a frame is handled between a round and its store.
-/
namespace GreenPower.TaskDevice
open MemoryArray BuildOptions DeviceState NonVolatile IncomingMessage ReceiveOutcome SendReceive
  Commissioning GpdTask EventLog DeviceSteps CrashConsistency FieldRanges CommissioningHistory
  TaskSystem TaskSteps
open Relation (ReflTransGen)

theorem handler_radio (b : Build) (s : Device) :
    ReflTransGen RadioStep s (emberGpdIncomingMessageHandler b s) := by
  obtain ⟨s', quiet, h⟩ := emberGpdIncomingMessageHandler_react b s
  rw [h]
  exact (ReflTransGen.single (.arrival quiet (arrival_of_receptionEvents b s))).tail
    (.reaction _ s' (frameReaction_inRange b s))

theorem packet_radio (packet : List UInt8) (s : Device) :
    RadioStep s { s with rxMpdu := s.rxMpdu.store 0 packet } := by
  have stored : Quiet packet.length [] s { s with rxMpdu := s.rxMpdu.store 0 packet } :=
    (Quiet.refl _ s).storeRx 0 packet (by omega)
  exact .arrival stored (fun _ member => nomatch member)

section
variable {κ : Type} [DecidableEq κ] {b : Build} {locks : Bool} {s s' : Sys κ}

inductive DeviceMove (b : Build) (d : Device) : Device → Prop
  | still : DeviceMove b d d
  | command (id : CmdId) : DeviceMove b d (commandBranch id d)
  | round (i : Surroundings) : DeviceMove b d (stateSwitch b (i.set d))
  | store : DeviceMove b d (emberGpdStoreSecDataToNV d)
  | packet (packet : List UInt8) : DeviceMove b d { d with rxMpdu := d.rxMpdu.store 0 packet }
  | handle : DeviceMove b d (emberGpdIncomingMessageHandler b d)

theorem Tick.device {m : Move κ} (tick : Tick b locks s m s') : DeviceMove b s.device s'.device := by
  cases tick with
  | command => exact .command s.gpdCmdId
  | round i => exact .round i
  | store => exact .store
  | packet packet => exact .packet packet
  | handlePacket => exact .handle
  | _ => exact .still

theorem DeviceMove.steps {d d' : Device} (move : DeviceMove b d d') : Steps b d d d' := by
  cases move with
  | still => exact .refl
  | command id =>
    cases id with
    | commission => exact .single (.command d _ (Or.inl rfl))
    | decommission => exact .refl
    | send => exact .single (.command d _ (Or.inr rfl))
  | round i =>
    have set : Steps b d d (i.set d) := .single (.environment d i.air i.randoms i.descriptions)
    exact set.trans (stateSwitch_steps b d _ rfl)
  | store => exact .single (.store d)
  | packet packet => exact .single (.radio (packet_radio packet d))
  | handle => exact steps_of_radio b d (handler_radio b d)

/-- The device of a run, move by move. -/
theorem run_device {I : Device → Prop} (keeps : ∀ d d', DeviceMove b d d' → I d → I d')
    (run : Run b locks s s') (h : I s.device) : I s'.device :=
  run_preserves (I := fun s => I s.device) (fun _ _ _ tick _ => keeps _ _ (Tick.device tick)) run h

end

/-- The history of a chip whose flash was as `origin` at first: runs of the tasks that ended in a
power cut at any event. -/
inductive TaskChip (κ : Type) [DecidableEq κ] (b : Build) (locks : Bool) (origin : List Event) :
    List Event → Prop
  | origin : TaskChip κ b locks origin origin
  | run {log log' : List Event} {s : Sys κ} (chip : TaskChip κ b locks origin log)
      (run : Run b locks (start κ b log) s) (since : log <:+ log') (cut : log' <:+ s.device.log) :
      TaskChip κ b locks origin log'

def Reached {κ : Type} [DecidableEq κ] (b : Build) (locks : Bool) (origin : List Event)
    (s : Sys κ) : Prop := ∃ log, TaskChip κ b locks origin log ∧ Run b locks (start κ b log) s

section
variable {κ : Type} [DecidableEq κ] {b : Build} {locks : Bool} {origin log : List Event}

/-- What holds at first, after each power up and after each move holds in every life. -/
theorem TaskChip.preserves {P : List Event → Prop} {I : Device → Prop} (first : P origin)
    (boots : ∀ log, P log → I (powerUp b log)) (keeps : ∀ d d', DeviceMove b d d' → I d → I d')
    (ends : ∀ d log, I d → log <:+ d.log → P log) (chip : TaskChip κ b locks origin log) : P log := by
  induction chip with
  | origin => exact first
  | run chip run since cut ih => exact ends _ _ (run_device keeps run (boots _ ih)) cut

theorem Reached.preserves {P : List Event → Prop} {I : Device → Prop} {s : Sys κ} (first : P origin)
    (boots : ∀ log, P log → I (powerUp b log)) (keeps : ∀ d d', DeviceMove b d d' → I d → I d')
    (ends : ∀ d log, I d → log <:+ d.log → P log) (reached : Reached b locks origin s) :
    I s.device := by
  obtain ⟨log, chip, run⟩ := reached
  exact run_device keeps run (boots log (chip.preserves first boots keeps ends))

/-- The fields of a device on a chip that was blank stay in range in every order of the tasks. -/
theorem reached_ranged (configured : Configured b) {s : Sys κ} (reached : Reached b locks [] s) :
    Ranged b s.device := by
  have running : Running b s.device s.device := by
    refine reached.preserves (P := fun log => Running b (powerUp b log) (powerUp b log))
      (I := fun d => Running b d d) .fresh (fun _ h => h) ?_ (fun _ _ h cut => h.reboot cut)
    exact fun d d' move run => (run.steps move.steps).next
  exact (running.ranged configured).2

def toggleMoves : List (Move Unit) :=
  List.replicate 4 (.client () .send) ++ List.replicate 18 (.gpdTask ⟨[], [], []⟩)

theorem toggled_reached : ∃ s : Sys Unit,
    Reached (shipped (AesCipher.aesCcm tagSize)) false [] s ∧
      s.device.gpdNode.gpdState = appStateOperational := by
  have seen : (follow (shipped (AesCipher.aesCcm tagSize)) false (fun _ _ => True)
      (start Unit (shipped (AesCipher.aesCcm tagSize)) []) toggleMoves).map
      (fun s => s.device.gpdNode.gpdState) = some appStateOperational := by
    decide +kernel
  obtain ⟨s, run, state⟩ := Option.map_eq_some_iff.mp seen
  exact ⟨s, ⟨[], .origin, Runs.run_of_follow _ run⟩, state⟩

theorem toggled_ranged : ∃ s : Sys Unit, s.device.gpdNode.gpdState = appStateOperational ∧
    Ranged (shipped (AesCipher.aesCcm tagSize)) s.device := by
  obtain ⟨s, reached, operational⟩ := toggled_reached
  exact ⟨s, operational, reached_ranged (shipped_configured _) reached⟩

/-- A round that answers a reply is one move, any other move leaves an earned state earned. -/
theorem DeviceMove.earned (bidir : b.bidirCapable = true) {d d' : Device}
    (move : DeviceMove b d d') (h : Earned d) : Earned d' := by
  by_cases replied : d.gpdNode.gpdState = appStateCommissioningReplyReceived
  swap
  · exact h.steps replied move.steps
  cases move with
  | still => exact h
  | command id =>
    cases id with
    | commission => exact h.command (Or.inl rfl)
    | decommission => exact h
    | send => exact h.command (Or.inr rfl)
  | round i =>
    have set : Earned (i.set d) := ⟨h.recorded.same rfl rfl, h.ram⟩
    exact set.success_round bidir replied
  | store => exact h.store
  | packet packet => exact h.radio (packet_radio packet d)
  | handle => exact star_preserves (fun _ _ step h => h.radio step) (handler_radio b d) h

/-- The device is operational only after a reply and a success frame, or a send command, in every
order of the tasks; so is every image that was in flash at any moment. -/
theorem reached_earned (bidir : b.bidirCapable = true) {s : Sys κ}
    (reached : Reached b locks [] s) : Earned s.device :=
  reached.preserves (P := Throughout Honest) (throughout_nil.mpr honest_nil)
    (fun _ history => earned_powerUp history) (fun _ _ move => move.earned bidir)
    (fun _ _ earned cut => earned.recorded.history.suffix cut)

theorem toggled_earned : ∃ s : Sys Unit, s.device.gpdNode.gpdState = appStateOperational ∧
    Earned s.device := by
  obtain ⟨s, reached, operational⟩ := toggled_reached
  exact ⟨s, operational, reached_earned rfl reached⟩

end

end GreenPower.TaskDevice
