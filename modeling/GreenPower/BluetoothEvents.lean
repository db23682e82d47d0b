import GreenPower.BgapiSharing
import GreenPower.GpdTask
import GreenPower.ByteWord

set_option autoImplicit false

/-!
The events of the Bluetooth stack. `BluetoothTask` puts one into `bluetooth_evt`; the handler of
`bluetoothAppTask` reads it there again at every branch while it calls the two stacks. A move is a
move of the tasks of BGAPI with what it does to the slot and to the application's variables; a
`gpd_cmd_*` is one move here.
-/
namespace GreenPower.BluetoothEvents
open EventFlags FlagGroup BgapiTasks BgapiSharing GpdTask ByteWord

/-- An event as it lies in the buffer of the stack; a write request has the two fields. -/
structure Evt where
  header : UInt32
  connection : UInt8
  characteristic : UInt16
  deriving DecidableEq

/-- `BGLIB_MSG_ID`. -/
def msgId (header : UInt32) : UInt32 := header &&& 0xffff00f8

def geckoEvtSystemBootId : UInt32 := 0x000100a0
def geckoEvtLeConnectionOpenedId : UInt32 := 0x000800a0
def geckoEvtLeConnectionClosedId : UInt32 := 0x010800a0
def geckoEvtGattServerUserWriteRequestId : UInt32 := 0x020a00a0

def gattdbGpdCommissioning : UInt16 := 23
def gattdbGpdDecommissioning : UInt16 := 25
def gattdbGpdToggle : UInt16 := 27
def gattdbOtaControl : UInt16 := 30

def bgErrSuccess : UInt8 := 0

def geckoCmdLeGapSetAdvertiseTiming (handle : UInt8) (intervalMin intervalMax : UInt32)
    (duration : UInt16) (maxevents : UInt8) : GeckoCmd where
  id := 0x0e030020
  handler := .leGapSetAdvertiseTiming
  payload := [handle] ++ bytes32 intervalMin ++ bytes32 intervalMax ++
    [duration.toUInt8, (duration >>> 8).toUInt8, maxevents]
  free := by decide
  short := by simp

def geckoCmdGattServerSendUserWriteResponse (connection : UInt8) (characteristic : UInt16)
    (attErrorcode : UInt8) : GeckoCmd where
  id := 0x040a0020
  handler := .gattServerSendUserWriteResponse
  payload := [connection, characteristic.toUInt8, (characteristic >>> 8).toUInt8, attErrorcode]
  free := by decide
  short := by simp

def geckoCmdLeConnectionClose (connection : UInt8) : GeckoCmd where
  id := 0x04080020
  handler := .leConnectionClose
  payload := [connection]
  free := by decide
  short := by simp

def geckoCmdSystemReset (dfu : UInt8) : GeckoCmd where
  id := 0x01010020
  handler := .systemReset
  payload := [dfu]
  free := by decide
  short := by simp

inductive Call where
  | gpd (id : CmdId)
  | gecko (cmd : GeckoCmd)
  deriving DecidableEq

/-- The statements of the handler. -/
inductive Op where
  | switch
  | ifBootToDfu
  | ifWritten (characteristic : UInt16)
  | gpd (id : CmdId)
  | gecko (cmd : GeckoCmd)
  | respond (characteristic : UInt16)
  | setBootToDfu
  | closeConnection
  deriving DecidableEq

def startAdvertising : Op := .gecko (geckoCmdLeGapStartAdvertising 0 2 2)

def writtenBody (characteristic : UInt16) : List Op :=
  if characteristic = gattdbGpdCommissioning then [.gpd .commission, .respond characteristic]
  else if characteristic = gattdbGpdDecommissioning then [.respond characteristic]
  else if characteristic = gattdbGpdToggle then [.gpd .send, .respond characteristic]
  else if characteristic = gattdbOtaControl then
    [.setBootToDfu, .respond characteristic, .closeConnection]
  else []

/-- What a statement leads to, reading the slot and `boot_to_dfu` at that moment. -/
def expand (evt : Evt) (bootToDfu : Bool) : Op → List Op
  | .switch =>
    if msgId evt.header = geckoEvtSystemBootId then
      [.gecko (geckoCmdLeGapSetAdvertiseTiming 0 1600 1600 0 0), startAdvertising]
    else if msgId evt.header = geckoEvtLeConnectionClosedId then [.ifBootToDfu]
    else if msgId evt.header = geckoEvtLeConnectionOpenedId then []
    else if msgId evt.header = geckoEvtGattServerUserWriteRequestId then
      [.ifWritten gattdbGpdCommissioning, .ifWritten gattdbGpdDecommissioning,
        .ifWritten gattdbGpdToggle, .ifWritten gattdbOtaControl]
    else []
  | .ifBootToDfu => if bootToDfu then [.gecko (geckoCmdSystemReset 2)] else [startAdvertising]
  | .ifWritten characteristic =>
    if evt.characteristic = characteristic then writtenBody characteristic else []
  | _ => []

/-- The call a statement makes, with the connection read from the slot at that moment. -/
def call (evt : Evt) : Op → Option Call
  | .gpd id => some (.gpd id)
  | .gecko cmd => some (.gecko cmd)
  | .respond characteristic =>
    some (.gecko (geckoCmdGattServerSendUserWriteResponse evt.connection characteristic
      bgErrSuccess))
  | .closeConnection => some (.gecko (geckoCmdLeConnectionClose evt.connection))
  | _ => none

/-- `boot_to_dfu`, the calls made so far, newest first, and the statements still to be executed. -/
structure App where
  bootToDfu : Bool
  calls : List Call
  todo : List Op

def sets : Op → Bool
  | .setBootToDfu => true
  | _ => false

def perform (evt : Evt) (op : Op) (rest : List Op) (a : App) : App where
  bootToDfu := a.bootToDfu || sets op
  calls := (call evt op).toList ++ a.calls
  todo := expand evt a.bootToDfu op ++ rest

structure Sys where
  tasks : BgapiTasks.Sys
  bluetoothEvt : Evt
  app : App
  /-- What `gecko_wait_event` returned, newest first. -/
  given : List Evt

def start : Sys where
  tasks := BgapiTasks.start
  bluetoothEvt := ⟨0, 0, 0⟩
  app := ⟨false, [], []⟩
  given := []

inductive Move where
  | bluetoothTask (pending : Bool) (ticks : UInt32) (evt : Evt)
  | bluetoothAppTask
  | other (m : BgapiTasks.Move)

/-- The moves that are not the two tasks' own; inside a command `bluetoothAppTask` makes them. -/
def Other (t : BgapiTasks.Sys) : BgapiTasks.Move → Prop
  | .bluetoothTask _ _ => False
  | .bluetoothAppTask => False
  | .caller k _ => k = .bluetoothAppTask → t.caller .bluetoothAppTask ≠ .outside
  | _ => True

instance (t : BgapiTasks.Sys) : DecidablePred (Other t)
  | .bluetoothTask _ _ | .bluetoothAppTask => inferInstanceAs (Decidable False)
  | .caller _ _ => inferInstanceAs (Decidable (_ = _ → _ ≠ _))
  | .timeout | .linklayerTask | .bluetoothLLCallback | .bluetoothUpdate =>
    inferInstanceAs (Decidable True)

def Takes (pending : Bool) (t : BgapiTasks.Sys) : Prop :=
  t.bluetoothTask = .events ∧ pending = true ∧ .evtHandled ∈ t.flags

instance (pending : Bool) (t : BgapiTasks.Sys) : Decidable (Takes pending t) := by
  unfold Takes
  infer_instance

def handlerStep (s : Sys) : Option Sys :=
  if s.tasks.caller .bluetoothAppTask = .outside then
    match s.app.todo with
    | [] => (bluetoothAppStep s.tasks).map (fun t => { s with tasks := t })
    | op :: rest =>
      match call s.bluetoothEvt op with
      | some (.gecko cmd) =>
        (callerStep .bluetoothAppTask cmd s.tasks).map
          (fun t => { s with tasks := t, app := perform s.bluetoothEvt op rest s.app })
      | _ => some { s with app := perform s.bluetoothEvt op rest s.app }
  else none

def step (osTick : UInt32) (s : Sys) : Move → Option Sys
  | .bluetoothTask pending ticks evt =>
    (bluetoothTaskStep osTick pending ticks s.tasks).map (fun t =>
      if Takes pending s.tasks then
        { s with tasks := t, bluetoothEvt := evt, given := evt :: s.given }
      else { s with tasks := t })
  | .bluetoothAppTask =>
    if s.tasks.bluetoothAppTask = .handle then handlerStep s
    else (bluetoothAppStep s.tasks).map (fun t =>
      if t.bluetoothAppTask = .handle then { s with tasks := t, app.todo := [.switch] }
      else { s with tasks := t })
  | .other m =>
    if Other s.tasks m then (BgapiTasks.step osTick s.tasks m).map (fun t => { s with tasks := t })
    else none

def weight : Op → ℕ
  | .switch => 30
  | .ifBootToDfu => 3
  | .ifWritten _ => 5
  | _ => 1

theorem expand_weight (evt : Evt) (bootToDfu : Bool) (op : Op) :
    ((expand evt bootToDfu op).map weight).sum < weight op := by
  cases op with
  | switch =>
    simp only [expand]
    split_ifs <;> simp [weight, startAdvertising]
  | ifBootToDfu =>
    simp only [expand]
    split_ifs <;> simp [weight, startAdvertising]
  | ifWritten characteristic =>
    simp only [expand, writtenBody]
    split_ifs <;> simp [weight]
  | gpd | gecko | respond | setBootToDfu | closeConnection => exact Nat.one_pos

/-- The handler to its end, with this event in the slot all the time. -/
def finish (evt : Evt) (a : App) : App :=
  match _ : a.todo with
  | [] => a
  | op :: rest => finish evt (perform evt op rest a)
termination_by (a.todo.map weight).sum
decreasing_by
  rename_i todo
  have less := expand_weight evt a.bootToDfu op
  simp only [perform, todo, List.map_append, List.sum_append, List.map_cons, List.sum_cons]
  omega

def otaWrite (evt : Evt) : Bool :=
  msgId evt.header = geckoEvtGattServerUserWriteRequestId ∧ evt.characteristic = gattdbOtaControl

def response (evt : Evt) : Call :=
  .gecko (geckoCmdGattServerSendUserWriteResponse evt.connection evt.characteristic bgErrSuccess)

def writtenReaction (evt : Evt) : List Call :=
  if evt.characteristic = gattdbGpdCommissioning then [response evt, .gpd .commission]
  else if evt.characteristic = gattdbGpdDecommissioning then [response evt]
  else if evt.characteristic = gattdbGpdToggle then [response evt, .gpd .send]
  else if evt.characteristic = gattdbOtaControl then
    [.gecko (geckoCmdLeConnectionClose evt.connection), response evt]
  else []

def reaction (evt : Evt) (bootToDfu : Bool) : List Call :=
  if msgId evt.header = geckoEvtSystemBootId then
    [.gecko (geckoCmdLeGapStartAdvertising 0 2 2),
      .gecko (geckoCmdLeGapSetAdvertiseTiming 0 1600 1600 0 0)]
  else if msgId evt.header = geckoEvtLeConnectionClosedId then
    [.gecko (if bootToDfu then geckoCmdSystemReset 2 else geckoCmdLeGapStartAdvertising 0 2 2)]
  else if msgId evt.header = geckoEvtGattServerUserWriteRequestId then
    writtenReaction evt
  else []

def bootToDfuAfter (given : List Evt) : Bool := given.any otaWrite

def reactions : List Evt → List Call
  | [] => []
  | evt :: older => reaction evt (bootToDfuAfter older) ++ reactions older

theorem finish_nil (evt : Evt) (bootToDfu : Bool) (calls : List Call) :
    finish evt ⟨bootToDfu, calls, []⟩ = ⟨bootToDfu, calls, []⟩ := by
  rw [finish]

theorem finish_cons (evt : Evt) (bootToDfu : Bool) (calls : List Call) (op : Op) (rest : List Op) :
    finish evt ⟨bootToDfu, calls, op :: rest⟩ =
      finish evt ⟨bootToDfu || sets op, (call evt op).toList ++ calls,
        expand evt bootToDfu op ++ rest⟩ := by
  rw [finish]
  rfl

theorem finish_perform {evt : Evt} {a : App} {op : Op} {rest : List Op} (todo : a.todo = op :: rest) :
    finish evt (perform evt op rest a) = finish evt a := by
  obtain ⟨bootToDfu, calls, todo'⟩ := a
  obtain rfl : todo' = op :: rest := todo
  rw [finish_cons]
  rfl

/-- A statement that only looks. -/
theorem finish_test (evt : Evt) (bootToDfu : Bool) (calls : List Call) {op : Op} (rest : List Op)
    (silent : call evt op = none) (same : sets op = false) :
    finish evt ⟨bootToDfu, calls, op :: rest⟩ =
      finish evt ⟨bootToDfu, calls, expand evt bootToDfu op ++ rest⟩ := by
  rw [finish_cons, silent, same, Bool.or_false]
  rfl

theorem finish_call (evt : Evt) (bootToDfu : Bool) (calls : List Call) {op : Op} (rest : List Op)
    {c : Call} (makes : call evt op = some c) (same : sets op = false)
    (last : expand evt bootToDfu op = []) :
    finish evt ⟨bootToDfu, calls, op :: rest⟩ = finish evt ⟨bootToDfu, c :: calls, rest⟩ := by
  rw [finish_cons, makes, same, last, Bool.or_false]
  rfl

theorem finish_ifWritten (evt : Evt) (bootToDfu : Bool) (calls : List Call) (c : UInt16)
    (rest : List Op) : finish evt ⟨bootToDfu, calls, .ifWritten c :: rest⟩ =
      finish evt ⟨bootToDfu, calls,
        (if evt.characteristic = c then writtenBody c else []) ++ rest⟩ :=
  finish_test evt bootToDfu calls rest rfl rfl

/-- Statements one after the other. -/
theorem finish_append (evt : Evt) (bootToDfu : Bool) (calls : List Call) (ops rest : List Op) :
    finish evt ⟨bootToDfu, calls, ops ++ rest⟩ =
      finish evt { finish evt ⟨bootToDfu, calls, ops⟩ with todo := rest } := by
  induction size : (ops.map weight).sum using Nat.strong_induction_on
    generalizing bootToDfu calls ops with
  | h n ih =>
    subst size
    cases ops with
    | nil =>
      rw [finish_nil]
      rfl
    | cons op ops =>
      have less := expand_weight evt bootToDfu op
      rw [List.cons_append, finish_cons, finish_cons evt bootToDfu calls op ops,
        ← List.append_assoc]
      apply ih _ _ _ _ _ rfl
      simp only [List.map_append, List.sum_append, List.map_cons, List.sum_cons]
      omega

theorem finish_unwritten (evt : Evt) (bootToDfu : Bool) (calls : List Call) {cs : List UInt16}
    (none : evt.characteristic ∉ cs) :
    finish evt ⟨bootToDfu, calls, cs.map .ifWritten⟩ = ⟨bootToDfu, calls, []⟩ := by
  induction cs with
  | nil => exact finish_nil evt bootToDfu calls
  | cons c cs ih =>
    rw [List.mem_cons, not_or] at none
    rw [List.map_cons, finish_ifWritten, if_neg none.1]
    exact ih none.2

theorem finish_respond (evt : Evt) (bootToDfu : Bool) (calls : List Call) (rest : List Op) :
    finish evt ⟨bootToDfu, calls, .respond evt.characteristic :: rest⟩ =
      finish evt ⟨bootToDfu, response evt :: calls, rest⟩ :=
  finish_call evt bootToDfu calls rest rfl rfl rfl

theorem finish_body (evt : Evt) (bootToDfu : Bool) (calls : List Call) :
    finish evt ⟨bootToDfu, calls, writtenBody evt.characteristic⟩ =
      ⟨bootToDfu || decide (evt.characteristic = gattdbOtaControl), writtenReaction evt ++ calls,
        []⟩ := by
  have other {c : UInt16} (same : evt.characteristic = c) (different : c ≠ gattdbOtaControl) :
      (bootToDfu || decide (evt.characteristic = gattdbOtaControl)) = bootToDfu := by
    rw [same, decide_eq_false different, Bool.or_false]
  unfold writtenBody writtenReaction
  split_ifs with commissioning decommissioning toggle ota
  · rw [finish_call evt bootToDfu calls _ (c := .gpd .commission) rfl rfl rfl, finish_respond,
      finish_nil, other commissioning (by decide)]
    rfl
  · rw [finish_respond, finish_nil, other decommissioning (by decide)]
    rfl
  · rw [finish_call evt bootToDfu calls _ (c := .gpd .send) rfl rfl rfl, finish_respond,
      finish_nil, other toggle (by decide)]
    rfl
  · rw [finish_cons]
    change finish evt ⟨bootToDfu || true, calls, [.respond evt.characteristic, .closeConnection]⟩ = _
    rw [finish_respond, finish_call evt _ _ _
      (c := .gecko (geckoCmdLeConnectionClose evt.connection)) rfl rfl rfl, finish_nil,
      decide_eq_true ota]
    rfl
  · rw [finish_nil, decide_eq_false ota, Bool.or_false]
    rfl

/-- Of the four `if`s at most one is taken. -/
theorem finish_written (evt : Evt) (bootToDfu : Bool) (calls : List Call) {cs : List UInt16}
    (distinct : cs.Nodup) : finish evt ⟨bootToDfu, calls, cs.map .ifWritten⟩ =
      finish evt ⟨bootToDfu, calls,
        if evt.characteristic ∈ cs then writtenBody evt.characteristic else []⟩ := by
  induction cs with
  | nil => rfl
  | cons c cs ih =>
    obtain ⟨new, distinct⟩ := List.nodup_cons.mp distinct
    rw [List.map_cons, finish_ifWritten]
    by_cases here : evt.characteristic = c
    · subst here
      rw [if_pos rfl, if_pos List.mem_cons_self, finish_append, finish_body,
        finish_unwritten _ _ _ new]
    · have same : evt.characteristic ∈ c :: cs ↔ evt.characteristic ∈ cs := by simp [here]
      rw [if_neg here]
      simp only [same]
      exact ih distinct

theorem finish_switch (evt : Evt) (bootToDfu : Bool) (calls : List Call) :
    finish evt ⟨bootToDfu, calls, [.switch]⟩ =
      ⟨bootToDfu || otaWrite evt, reaction evt bootToDfu ++ calls, []⟩ := by
  have noWrite {id : UInt32} (same : msgId evt.header = id)
      (different : id ≠ geckoEvtGattServerUserWriteRequestId) :
      (bootToDfu || otaWrite evt) = bootToDfu := by
    unfold otaWrite
    rw [decide_eq_false (fun both => different (same.symm.trans both.1)), Bool.or_false]
  rw [finish_test evt bootToDfu calls [] rfl rfl, List.append_nil]
  simp only [expand]
  unfold reaction
  by_cases boot : msgId evt.header = geckoEvtSystemBootId
  · rw [if_pos boot, if_pos boot, finish_call evt _ _ _ rfl rfl rfl,
      finish_call evt _ _ _ (c := .gecko (geckoCmdLeGapStartAdvertising 0 2 2)) rfl rfl rfl,
      finish_nil, noWrite boot (by decide)]
    rfl
  rw [if_neg boot, if_neg boot]
  by_cases closed : msgId evt.header = geckoEvtLeConnectionClosedId
  · rw [if_pos closed, if_pos closed, finish_test evt _ _ _ rfl rfl, noWrite closed (by decide)]
    cases bootToDfu with
    | true =>
      change finish evt ⟨true, calls, [.gecko (geckoCmdSystemReset 2)]⟩ = _
      rw [finish_call evt _ _ _ rfl rfl rfl, finish_nil]
      rfl
    | false =>
      change finish evt ⟨false, calls, [startAdvertising]⟩ = _
      rw [finish_call evt _ _ _ (c := .gecko (geckoCmdLeGapStartAdvertising 0 2 2)) rfl rfl rfl,
        finish_nil]
      rfl
  rw [if_neg closed, if_neg closed]
  by_cases opened : msgId evt.header = geckoEvtLeConnectionOpenedId
  · have other : msgId evt.header ≠ geckoEvtGattServerUserWriteRequestId := by
      rw [opened]
      decide
    rw [if_pos opened, if_neg other, finish_nil, noWrite opened (by decide)]
    rfl
  rw [if_neg opened]
  by_cases write : msgId evt.header = geckoEvtGattServerUserWriteRequestId
  · have distinct : [gattdbGpdCommissioning, gattdbGpdDecommissioning, gattdbGpdToggle,
        gattdbOtaControl].Nodup := by
      decide
    have tests := finish_written evt bootToDfu calls distinct
    have body : (if evt.characteristic ∈ [gattdbGpdCommissioning, gattdbGpdDecommissioning,
        gattdbGpdToggle, gattdbOtaControl] then writtenBody evt.characteristic else []) =
        writtenBody evt.characteristic := by
      unfold writtenBody
      split_ifs <;> simp_all
    have ota : otaWrite evt = decide (evt.characteristic = gattdbOtaControl) := by
      unfold otaWrite
      simp [write]
    rw [body, finish_body] at tests
    rw [if_pos write, if_pos write, ota]
    exact tests
  · rw [if_neg write, if_neg write, finish_nil, noWrite rfl write]
    rfl

/-- What the handler still does adds to the calls made so far. -/
theorem finish_calls (evt : Evt) (a : App) : a.calls <:+ (finish evt a).calls := by
  induction size : (a.todo.map weight).sum using Nat.strong_induction_on generalizing a with
  | h n ih =>
    subst size
    obtain ⟨bootToDfu, calls, todo⟩ := a
    cases todo with
    | nil =>
      rw [finish_nil]
    | cons op rest =>
      have less := expand_weight evt bootToDfu op
      rw [finish_cons]
      refine (List.suffix_append (call evt op).toList calls).trans (ih _ ?_ ⟨bootToDfu || sets op,
        (call evt op).toList ++ calls, expand evt bootToDfu op ++ rest⟩ rfl)
      simp only [List.map_append, List.sum_append, List.map_cons, List.sum_cons]
      omega

end GreenPower.BluetoothEvents
