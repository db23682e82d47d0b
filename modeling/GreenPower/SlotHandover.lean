import GreenPower.ReceiveSlot

set_option autoImplicit false

/-!
Frames through the receive slot: each is passed on once and whole, and the slot is not written
before its handler returns.
-/
namespace GreenPower.SlotHandover
open MemoryArray BuildOptions DeviceState IncomingMessage EventFlags FlagGroup Runs ReceiveSlot
open TaskSystem (Flag TaskId taskMask gpdTaskMask linklayerMask gpdUpdates)

variable {b : Build} {s s' : Sys} {m : Move}

def whole (packet : List UInt8) : Call := ⟨packet, UInt16.ofNat packet.length⟩

def Waiting (s : Sys) : Prop :=
  .ll ∈ s.gpdEventFlags.flags ∨ s.gpdLinklayerTask = .switch

def Parsing (s : Sys) : Prop := ∃ data dataSize, s.gpdLinklayerTask = .handler data dataSize

def slot (s : Sys) : Call :=
  ⟨bytesAt s.gpdLlEvt.data s.gpdLlEvt.dataSize s.device, s.gpdLlEvt.dataSize⟩

def AtPend (s : Sys) : Prop := s.gpdLinklayerTask = .pend ∨ s.gpdLinklayerTask = .waiting

structure Holds (s : Sys) (frame : List UInt8) : Prop where
  idle : s.receiving = false
  short : frame.length < 2 ^ 16
  evt : s.gpdLlEvt = ⟨.packetReceived, .rxMpdu, UInt16.ofNat frame.length⟩
  device : s.device = { s.before with rxMpdu := s.before.rxMpdu.store 0 frame }

inductive Phase (s : Sys) : Prop
  | free (clear : .ll ∉ s.gpdEventFlags.flags) (point : AtPend s)
      (called : s.called = s.copied.map whole) (returned : s.returned = s.called)
  | flagged (flag : .ll ∈ s.gpdEventFlags.flags) (point : AtPend s) (frame : List UInt8)
      (rest : List (List UInt8)) (holds : Holds s frame) (copied : s.copied = frame :: rest)
      (called : s.called = rest.map whole) (returned : s.returned = s.called)
  | taken (clear : .ll ∉ s.gpdEventFlags.flags) (point : s.gpdLinklayerTask = .switch)
      (frame : List UInt8) (rest : List (List UInt8)) (holds : Holds s frame)
      (copied : s.copied = frame :: rest) (called : s.called = rest.map whole)
      (returned : s.returned = s.called)
  | parsed (clear : .ll ∉ s.gpdEventFlags.flags) (frame : List UInt8)
      (point : s.gpdLinklayerTask = .handler .rxMpdu (UInt16.ofNat frame.length))
      (rest : List (List UInt8)) (holds : Holds s frame) (copied : s.copied = frame :: rest)
      (called : s.called = s.copied.map whole) (returned : s.returned = rest.map whole)

theorem Holds.bytes {frame : List UInt8} (h : Holds s frame) :
    (⟨bytesAt .rxMpdu (UInt16.ofNat frame.length) s.device, UInt16.ofNat frame.length⟩ : Call) =
      whole frame := by
  have size : (UInt16.ofNat frame.length).toNat = frame.length :=
    UInt16.toNat_ofNat_of_lt h.short
  change Call.mk (load s.device.rxMpdu.cell 0 _) _ = _
  rw [h.device, size]
  change Call.mk (load (MemoryArray.store _ 0 frame) 0 frame.length) _ = _
  rw [load_store_same]
  rfl

theorem Holds.slot {frame : List UInt8} (h : Holds s frame) : slot s = whole frame := by
  unfold SlotHandover.slot
  rw [h.evt]
  exact h.bytes

def slotView (s : Sys) :=
  (s.gpdLinklayerTask, s.gpdLlEvt, s.device, s.before, s.copied, s.called, s.returned)

theorem Holds.keep {frame : List UInt8} (h : Holds s frame) (same : slotView s' = slotView s)
    (idle : s.receiving = false → s'.receiving = false) : Holds s' frame := by
  simp only [slotView, Prod.mk.injEq] at same
  obtain ⟨-, evt, device, before, -⟩ := same
  refine ⟨idle h.idle, h.short, evt.trans h.evt, ?_⟩
  rw [device, before]
  exact h.device

theorem Phase.keep (h : Phase s) (same : slotView s' = slotView s)
    (flag : .ll ∈ s'.gpdEventFlags.flags ↔ .ll ∈ s.gpdEventFlags.flags)
    (idle : s.receiving = false → s'.receiving = false) : Phase s' := by
  have view := same
  simp only [slotView, Prod.mk.injEq] at view
  obtain ⟨at', -, -, -, copied', called', returned'⟩ := view
  have pend (point : AtPend s) : AtPend s' := by
    unfold AtPend
    rw [at']
    exact point
  cases h with
  | free clear point called returned =>
    refine .free (fun here => clear (flag.mp here)) (pend point) ?_ ?_
    · rw [called', copied']
      exact called
    · rw [returned', called']
      exact returned
  | flagged here point frame rest holds copied called returned =>
    exact .flagged (flag.mpr here) (pend point) frame rest (holds.keep same idle)
      (copied'.trans copied) (called'.trans called) (by rw [returned', called', returned])
  | taken clear point frame rest holds copied called returned =>
    exact .taken (fun here => clear (flag.mp here)) (at'.trans point) frame rest
      (holds.keep same idle) (copied'.trans copied) (called'.trans called)
      (by rw [returned', called', returned])
  | parsed clear frame point rest holds copied called returned =>
    exact .parsed (fun here => clear (flag.mp here)) frame (at'.trans point) rest
      (holds.keep same idle) (copied'.trans copied) (by rw [called', copied', called])
      (returned'.trans returned)

/-- With the link-layer task at its pend and its flag clear, nothing is under way. -/
theorem Phase.done (h : Phase s) (point : AtPend s) (clear : .ll ∉ s.gpdEventFlags.flags) :
    s.called = s.copied.map whole ∧ s.returned = s.called := by
  cases h with
  | free _ _ called returned => exact ⟨called, returned⟩
  | flagged here => exact absurd here clear
  | taken _ there | parsed _ _ there => rcases point with at' | at' <;> cases at'.symm.trans there

theorem Phase.receiving (h : Phase s) (receiving : s.receiving = true) :
    AtPend s ∧ s.called = s.copied.map whole ∧ s.returned = s.called := by
  cases h with
  | free _ point called returned => exact ⟨point, called, returned⟩
  | flagged _ _ _ _ holds | taken _ _ _ _ holds | parsed _ _ _ _ holds =>
    exact absurd (holds.idle.symm.trans receiving) (by decide)

theorem Phase.at_switch (h : Phase s) (point : s.gpdLinklayerTask = .switch) :
    .ll ∉ s.gpdEventFlags.flags ∧ ∃ frame rest, Holds s frame ∧ s.copied = frame :: rest ∧
      s.called = rest.map whole ∧ s.returned = s.called := by
  cases h with
  | free _ there | flagged _ there =>
    rcases there with at' | at' <;> cases at'.symm.trans point
  | taken clear _ frame rest holds copied called returned =>
    exact ⟨clear, frame, rest, holds, copied, called, returned⟩
  | parsed _ _ there => cases there.symm.trans point

theorem Phase.in_handler (h : Phase s) {data : DataPointer} {dataSize : UInt16}
    (point : s.gpdLinklayerTask = .handler data dataSize) :
    .ll ∉ s.gpdEventFlags.flags ∧ ∃ frame rest, Holds s frame ∧ data = .rxMpdu ∧
      dataSize = UInt16.ofNat frame.length ∧ s.copied = frame :: rest ∧
      s.called = s.copied.map whole ∧ s.returned = rest.map whole := by
  cases h with
  | free _ there | flagged _ there =>
    rcases there with at' | at' <;> cases at'.symm.trans point
  | taken _ there => cases there.symm.trans point
  | parsed clear frame there rest holds copied called returned =>
    obtain ⟨rfl, rfl⟩ := LinklayerPoint.handler.inj (there.symm.trans point)
    exact ⟨clear, frame, rest, holds, rfl, rfl, copied, called, returned⟩

theorem tick_phase (h : Tick b s m s') (meets : ByPriority s m) (group : GroupSound s)
    (phase : Phase s) : Phase s' := by
  have quiet (idle : linklayerReady s = false) :
      AtPend s ∧ .ll ∉ s.gpdEventFlags.flags ∧ s.called = s.copied.map whole ∧
        s.returned = s.called := by
    obtain ⟨point, clear⟩ := group.blocked idle
    exact ⟨Or.inr point, clear, phase.done (Or.inr point) clear⟩
  cases h with
  | packet packet receiving short =>
    obtain ⟨point, called, returned⟩ := phase.receiving receiving
    exact .flagged (Finset.mem_union_right _ (Finset.mem_singleton_self _)) point packet s.copied
      ⟨rfl, short, rfl, rfl⟩ rfl called returned
  | rxError => exact phase.keep rfl Iff.rfl (fun _ => rfl)
  | letimerIrq => exact phase.keep rfl Iff.rfl id
  | post flag other => exact phase.keep rfl (mem_post_other _ (Ne.symm other)) id
  | timeout => exact phase.keep rfl Iff.rfl id
  | wake got =>
    obtain ⟨here, clear⟩ := group.took got
    cases phase with
    | flagged _ _ frame rest holds copied called returned =>
      exact .taken clear rfl frame rest ⟨holds.idle, holds.short, holds.evt, holds.device⟩ copied
        called returned
    | free none | taken none | parsed none => exact absurd here none
  | block point apart =>
    have clear : .ll ∉ s.gpdEventFlags.flags :=
      fun here => Finset.disjoint_left.mp apart here (Finset.mem_singleton_self _)
    obtain ⟨called, returned⟩ := phase.done (Or.inl point) clear
    exact .free clear (Or.inr rfl) called returned
  | call point type =>
    obtain ⟨clear, frame, rest, holds, copied, called, returned⟩ := phase.at_switch point
    refine .parsed clear frame ?_ rest ⟨holds.idle, holds.short, holds.evt, holds.device⟩ copied
      ?_ (returned.trans called)
    · change LinklayerPoint.handler _ _ = _
      rw [holds.evt]
    · change slot s :: s.called = s.copied.map whole
      rw [holds.slot, called, copied]
      rfl
  | skip point type =>
    obtain ⟨-, frame, rest, holds, -⟩ := phase.at_switch point
    rw [holds.evt] at type
    cases type
  | comeBack data dataSize point =>
    obtain ⟨clear, frame, rest, holds, rfl, rfl, copied, called, returned⟩ :=
      phase.in_handler point
    refine .free ?_ (Or.inl rfl) called ?_
    · change .ll ∉ (gpdUpdates _ _).flags
      unfold gpdUpdates
      split_ifs
      · exact fun here => clear ((mem_post_other _ (by decide)).mp here)
      · exact clear
    · change Call.mk _ _ :: s.returned = s.called
      rw [holds.bytes, returned, called, copied]
      rfl
  | stack =>
    obtain ⟨point, clear, called, returned⟩ := quiet meets
    exact .free clear point called returned
  | stackWake work sends got =>
    obtain ⟨point, clear, called, returned⟩ := quiet meets
    refine .free ?_ point called returned
    intro here
    have back : .ll ∈ (_ \ _ : Finset Flag) := got.flags ▸ here
    exact clear (Finset.mem_sdiff.mp back).1
  | stackBlock =>
    obtain ⟨point, clear, called, returned⟩ := quiet meets
    exact .free clear point called returned

structure Inv (s : Sys) : Prop where
  group : GroupSound s
  phase : Phase s

theorem inv_initial (d : Device) : Inv (initial d) where
  group := by
    have apart : TaskId.gpdLinklayerTask ≠ (TaskId.gpdTask : TaskId Empty) := by simp
    let g : FlagGroup (TaskId Empty) Flag := ⟨∅, fun _ => .running⟩
    have created : Disciplined taskMask g :=
      ⟨fun _ _ pending => (nomatch pending), fun _ _ ready => (nomatch ready)⟩
    have unready : Held .gpdLinklayerTask g := held_of_not_ready (fun _ ready => (nomatch ready))
    refine ⟨⟨created.block (Finset.disjoint_empty_left _), ?_⟩, ?_, fun point => (nomatch point)⟩
    · intro t free
      exact setWait_other _ _ (fun same => free (same ▸ rfl))
    · exact unready.setWait_other apart _
  phase := .free (by simp [initial]) (Or.inl rfl) rfl rfl

theorem Inv.run (inv : Inv s) (run : Run b s s') : Inv s' :=
  run.preserves (fun _ _ _ next meets inv =>
    ⟨(step_tick next).group inv.group, tick_phase (step_tick next) meets inv.group inv.phase⟩) inv

def workLeft (s : Sys) : ℕ :=
  if .ll ∈ s.gpdEventFlags.flags then 3
  else
    match s.gpdLinklayerTask with
    | .pend => 0
    | .waiting => 0
    | .switch => 2
    | .handler _ _ => 1

theorem workLeft_le (s : Sys) : workLeft s ≤ 3 := by
  unfold workLeft
  split_ifs
  · exact le_refl 3
  · split <;> omega

theorem workLeft_congr (flag : .ll ∈ s'.gpdEventFlags.flags ↔ .ll ∈ s.gpdEventFlags.flags)
    (point : s'.gpdLinklayerTask = s.gpdLinklayerTask) : workLeft s' = workLeft s := by
  unfold workLeft
  rw [point]
  simp only [flag]

theorem workLeft_atPend (point : AtPend s) (clear : .ll ∉ s.gpdEventFlags.flags) :
    workLeft s = 0 := by
  unfold workLeft
  rw [if_neg clear]
  rcases point with at' | at' <;> rw [at']

theorem workLeft_switch (clear : .ll ∉ s.gpdEventFlags.flags)
    (point : s.gpdLinklayerTask = .switch) : workLeft s = 2 := by
  unfold workLeft
  rw [if_neg clear, point]

theorem workLeft_handler (clear : .ll ∉ s.gpdEventFlags.flags) {data : DataPointer}
    {dataSize : UInt16} (point : s.gpdLinklayerTask = .handler data dataSize) :
    workLeft s = 1 := by
  unfold workLeft
  rw [if_neg clear, point]

/-- Before its work is done nothing but the link-layer task gets on with it. -/
theorem tick_progress (h : Tick b s m s') (meets : ByPriority s m) (inv : Inv s)
    (some : workLeft s ≠ 0) : s'.returned = s.copied.map whole ∨
      s'.copied = s.copied ∧ workLeft s' ≠ 0 ∧ s'.turns + workLeft s' ≤ s.turns + workLeft s := by
  have unready (idle : linklayerReady s = false) : workLeft s = 0 := by
    obtain ⟨point, clear⟩ := inv.group.blocked idle
    exact workLeft_atPend (Or.inr point) clear
  have same (flag : .ll ∈ s'.gpdEventFlags.flags ↔ .ll ∈ s.gpdEventFlags.flags)
      (point : s'.gpdLinklayerTask = s.gpdLinklayerTask) (copied : s'.copied = s.copied)
      (turns : s'.turns = s.turns) : s'.copied = s.copied ∧ workLeft s' ≠ 0 ∧
        s'.turns + workLeft s' ≤ s.turns + workLeft s := by
    rw [workLeft_congr flag point, turns]
    exact ⟨copied, some, le_refl _⟩
  cases h with
  | packet packet receiving =>
    obtain ⟨point, called, returned⟩ := inv.phase.receiving receiving
    exact Or.inl (returned.trans called)
  | rxError | letimerIrq | timeout => exact Or.inr (same Iff.rfl rfl rfl rfl)
  | post flag other => exact Or.inr (same (mem_post_other _ (Ne.symm other)) rfl rfl rfl)
  | @wake found g got =>
    obtain ⟨here, clear⟩ := inv.group.took got
    have before : workLeft s = 3 := if_pos here
    right
    rw [workLeft_switch clear rfl, before]
    exact ⟨rfl, by decide, by change s.turns + 1 + 2 ≤ _; omega⟩
  | block point apart =>
    have clear : .ll ∉ s.gpdEventFlags.flags :=
      fun here => Finset.disjoint_left.mp apart here (Finset.mem_singleton_self _)
    exact absurd (workLeft_atPend (Or.inl point) clear) some
  | call point type =>
    obtain ⟨clear, -⟩ := inv.phase.at_switch point
    rw [workLeft_switch clear point]
    refine Or.inr ⟨rfl, ?_, ?_⟩ <;> simp [workLeft, clear]
  | skip point type =>
    obtain ⟨-, frame, rest, holds, -⟩ := inv.phase.at_switch point
    rw [holds.evt] at type
    cases type
  | comeBack data dataSize point =>
    obtain ⟨clear, frame, rest, holds, rfl, rfl, copied, called, returned⟩ :=
      inv.phase.in_handler point
    left
    change Call.mk _ _ :: s.returned = _
    rw [holds.bytes, returned, copied]
    rfl
  | stack | stackWake | stackBlock => exact absurd (unready meets) some

theorem tick_returned (h : Tick b s m s') : s.returned <:+ s'.returned := by
  cases h with
  | comeBack => exact List.suffix_cons _ _
  | packet | rxError | letimerIrq | post | timeout | wake | block | call | skip | stack
      | stackWake | stackBlock => exact List.suffix_rfl

theorem Inv.workLeft_zero (inv : Inv s) (none : workLeft s = 0) :
    s.returned = s.copied.map whole := by
  cases inv.phase with
  | free _ _ called returned => exact returned.trans called
  | flagged flag => cases (if_pos flag).symm.trans none
  | taken clear point => cases (workLeft_switch clear point).symm.trans none
  | parsed clear frame point => cases (workLeft_handler clear point).symm.trans none

theorem Inv.served (inv : Inv s) (run : Run b s s') (turns : s.turns + 3 ≤ s'.turns) :
    s.copied.map whole <:+ s'.returned := by
  let Behind (t : Sys) : Prop := Inv t ∧ (s.copied.map whole <:+ t.returned ∨
    t.copied = s.copied ∧ workLeft t ≠ 0 ∧ t.turns + workLeft t ≤ s.turns + 3)
  have kept : Behind s' := by
    refine run.preserves (I := Behind) ?_ ⟨inv, ?_⟩
    · rintro t m t' next meets ⟨inv', done | ⟨copied, some, bound⟩⟩
      · exact ⟨inv'.run (RunOf.refl.tail m meets next),
          Or.inl (done.trans (tick_returned (step_tick next)))⟩
      · refine ⟨inv'.run (RunOf.refl.tail m meets next), ?_⟩
        rcases tick_progress (step_tick next) meets inv' some with done | ⟨same, left, less⟩
        · left
          rw [done, copied]
        · exact Or.inr ⟨same.trans copied, left, less.trans bound⟩
    · by_cases none : workLeft s = 0
      · left
        rw [inv.workLeft_zero none]
      · exact Or.inr ⟨rfl, none, Nat.add_le_add_left (workLeft_le s) _⟩
  rcases kept.2 with done | ⟨-, some, bound⟩
  · exact done
  · omega

/-- The frame in the slot, while it waits or is being parsed. -/
theorem Phase.occupied (h : Phase s) (occupied : Waiting s ∨ Parsing s) :
    ∃ frame, Holds s frame ∧ s.copied.head? = some frame := by
  cases h with
  | free clear point =>
    rcases occupied with (flag | there) | ⟨data, dataSize, there⟩
    · exact absurd flag clear
    · rcases point with at' | at' <;> cases at'.symm.trans there
    · rcases point with at' | at' <;> cases at'.symm.trans there
  | flagged _ _ frame rest holds copied | taken _ _ frame rest holds copied
      | parsed _ frame _ rest holds copied =>
    exact ⟨frame, holds, congrArg List.head? copied⟩

theorem Inv.ready (inv : Inv s) (occupied : Waiting s ∨ Parsing s) : linklayerReady s = true := by
  by_contra idle
  obtain ⟨point, clear⟩ := inv.group.blocked (Bool.eq_false_iff.mpr idle)
  rcases occupied with (flag | there) | ⟨data, dataSize, there⟩
  · exact clear flag
  · cases point.symm.trans there
  · cases point.symm.trans there

theorem linklayerStep_of_ready (group : GroupSound s) (ready : linklayerReady s = true) :
    linklayerStep b s ≠ none := by
  unfold linklayerStep
  split
  · split <;> simp
  · rename_i point
    have wait := group.parked point
    unfold linklayerReady at ready
    unfold resume
    simp only [point] at ready
    split at ready
    · rename_i running
      exact absurd running wait
    · cases ready
    · rename_i found held
      simp [held]
  · split <;> simp
  · simp

/-- Besides the calls and the slot it says what the link-layer task does to the device: the interrupt,
the wake-up and the handler together are one reception as `railCbGeneric` has it. -/
structure SlotEnough (b : Build) (s : Sys) : Prop where
  passed : ¬ Waiting s → s.called = s.copied.map whole
  waiting : Waiting s → ∃ frame rest,
    s.copied = frame :: rest ∧ s.called = rest.map whole ∧ slot s = whole frame
  returned : ¬ Parsing s → s.returned = s.called
  parsing : Parsing s → ∃ frame rest,
    s.copied = frame :: rest ∧ s.returned = rest.map whole ∧ slot s = whole frame
  kept : Waiting s ∨ Parsing s → ∀ packet, step b s (.packet packet) = none
  first : Waiting s ∨ Parsing s → ∀ work sends, ¬ ByPriority s (.gpdTask work sends)
  ready : Waiting s ∨ Parsing s → step b s .gpdLinklayerTask ≠ none
  parsed : Parsing s → ∀ s', step b s .gpdLinklayerTask = some s' → ∃ frame rest,
    s.copied = frame :: rest ∧ s'.returned = whole frame :: s.returned ∧
      s'.device = railCbGeneric b frame s.before
  alone : ¬ Parsing s → ∀ s', step b s .gpdLinklayerTask = some s' →
    s'.returned = s.returned ∧ s'.device = s.device
  served : ∀ s', Run b s s' → s.turns + 3 ≤ s'.turns → s.copied.map whole <:+ s'.returned

theorem Inv.reception (inv : Inv s) (parsing : Parsing s)
    (next : step b s .gpdLinklayerTask = some s') : ∃ frame rest, s.copied = frame :: rest ∧
      s'.returned = whole frame :: s.returned ∧ s'.device = railCbGeneric b frame s.before := by
  obtain ⟨data, dataSize, point⟩ := parsing
  obtain ⟨-, frame, rest, holds, rfl, rfl, copied, -⟩ := inv.phase.in_handler point
  refine ⟨frame, rest, copied, ?_⟩
  obtain ⟨t, moved, rfl⟩ := Option.map_eq_some_iff.mp next
  unfold linklayerStep at moved
  simp only [point, Option.some.injEq] at moved
  rw [← moved]
  refine ⟨congrArg (· :: s.returned) holds.bytes, ?_⟩
  change emberGpdIncomingMessageHandler b s.device = _
  rw [holds.device]
  rfl

theorem linklayer_alone (outside : ¬ Parsing s) (next : step b s .gpdLinklayerTask = some s') :
    s'.returned = s.returned ∧ s'.device = s.device := by
  cases step_tick next with
  | wake | block | call | skip => exact ⟨rfl, rfl⟩
  | comeBack data dataSize point => exact absurd ⟨data, dataSize, point⟩ outside

theorem Inv.slotEnough (inv : Inv s) : SlotEnough b s where
  passed := by
    intro done
    cases inv.phase with
    | free _ _ called => exact called
    | flagged flag => exact absurd (Or.inl flag) done
    | taken _ point => exact absurd (Or.inr point) done
    | parsed _ _ _ _ _ _ called => exact called
  waiting := by
    intro waiting
    cases inv.phase with
    | free clear point =>
      rcases waiting with flag | there
      · exact absurd flag clear
      · rcases point with at' | at' <;> cases at'.symm.trans there
    | flagged _ _ frame rest holds copied called | taken _ _ frame rest holds copied called =>
      exact ⟨frame, rest, copied, called, holds.slot⟩
    | parsed clear frame point =>
      rcases waiting with flag | there
      · exact absurd flag clear
      · cases point.symm.trans there
  returned := by
    intro done
    cases inv.phase with
    | free _ _ _ returned => exact returned
    | flagged _ _ _ _ _ _ _ returned => exact returned
    | taken _ _ _ _ _ _ _ returned => exact returned
    | parsed _ frame point => exact absurd ⟨_, _, point⟩ done
  parsing := by
    rintro ⟨data, dataSize, point⟩
    obtain ⟨-, frame, rest, holds, -, -, copied, -, returned⟩ := inv.phase.in_handler point
    exact ⟨frame, rest, copied, returned, holds.slot⟩
  kept := by
    intro occupied packet
    obtain ⟨frame, holds, -⟩ := inv.phase.occupied occupied
    exact if_neg (fun open' => absurd (holds.idle.symm.trans open'.1) (by decide))
  first := by
    intro occupied work sends idle
    exact absurd (idle.symm.trans (inv.ready occupied)) (by decide)
  ready := by
    intro occupied stuck
    exact linklayerStep_of_ready inv.group (inv.ready occupied) (Option.map_eq_none_iff.mp stuck)
  parsed := fun parsing _ next => inv.reception parsing next
  alone := fun outside _ next => linklayer_alone outside next
  served := fun s' run turns => inv.served run turns

theorem single_slot_enough (b : Build) (d : Device) {s : Sys} (run : Run b (initial d) s) :
    SlotEnough b s :=
  ((inv_initial d).run run).slotEnough

/-- A send of two transmissions, each with a receive window of 100 ms. -/
def twoWindows : Send where
  gpd := { zeroGpd with rxAfterTx := 1, rxOffset := 1, minRxWindow := 100, channel := 11 }
  txMpdu := [3, 1, 8, 0]
  txRailDurationsUs := [100, 100]

def channelConfiguration : List UInt8 := [13, 1, 8, 0, 255, 255, 255, 255, 13, 243, 0, 0, 0, 0]

def stackMoves (n : ℕ) : List Move := List.replicate n (.gpdTask (ramCleared []) [twoWindows])

def handOver : List Move := [.gpdLinklayerTask, .gpdLinklayerTask]

def twoReceptions : List Move :=
  [.gpdLinklayerTask, .post .stack] ++ stackMoves 11 ++ [.letimerIrq] ++ stackMoves 8 ++
    [.packet channelConfiguration] ++ handOver ++ [.gpdLinklayerTask, .gpdLinklayerTask] ++
    [.letimerIrq] ++ stackMoves 10 ++ [.letimerIrq] ++ stackMoves 8 ++
    [.packet (channelConfiguration ++ [7])] ++ handOver

theorem second_frame_parsed : ∃ s : Sys,
    s.copied = [channelConfiguration ++ [7], channelConfiguration] ∧ Parsing s ∧
    SlotEnough (shipped (AesCipher.aesCcm tagSize)) s := by
  have seen : (follow (step (shipped (AesCipher.aesCcm tagSize))) ByPriority
      (initial (ramCleared [])) twoReceptions).map (fun s => (s.copied, s.gpdLinklayerTask)) =
      some ([channelConfiguration ++ [7], channelConfiguration], .handler .rxMpdu 15) := by
    decide +kernel
  obtain ⟨s, run, same⟩ := Option.map_eq_some_iff.mp seen
  obtain ⟨copied, point⟩ := Prod.mk.inj same
  exact ⟨s, copied, ⟨_, _, point⟩, single_slot_enough _ _ (run_of_follow _ run)⟩

end GreenPower.SlotHandover
