import GreenPower.CrashConsistency

set_option autoImplicit false

/-!
The key in the CCM context, `gpd->securityKey` and the key the device accepted last. They are
the same whenever a data frame is secured, unless a reply was rejected since: that leaves the
TC link key in the context and clears the key.
-/
namespace GreenPower.KeyAgreement
open MemoryArray BuildOptions DeviceState Security NonVolatile FrameBuild ReceiveOutcome SendReceive
  Commissioning GpdTask EventLog DeviceSteps CrashConsistency

def keyAccepted : Event → Option Key
  | .booted securityKey => some securityKey
  | .replyAccepted newKey => newKey
  | _ => none

/-- The key loaded at boot or delivered by a reply, whichever was accepted last. -/
def acceptedKey (log : List Event) : Option Key := log.findSome? keyAccepted

/-- Since then a reply was rejected, or the device was decommissioned. -/
def Disturbed : List Event → Prop
  | [] => False
  | e :: log => keyAccepted e = none ∧ ((e = .replyRejected ∨ e = .decommissioned) ∨ Disturbed log)

instance : DecidablePred Disturbed := go
where
  go : (log : List Event) → Decidable (Disturbed log)
    | [] => inferInstanceAs (Decidable False)
    | e :: log =>
      have := go log
      inferInstanceAs (Decidable (keyAccepted e = none ∧
        ((e = .replyRejected ∨ e = .decommissioned) ∨ Disturbed log)))

/-- If the newest event is a CCM run on an outgoing frame, it used the accepted key. -/
def RightKey (log : List Event) : Prop :=
  ∀ level ccmKey securityKey nonce older, log = .secure level ccmKey securityKey nonce :: older →
    ¬ Disturbed older → ccmKey = securityKey ∧ acceptedKey older = some securityKey

structure Agreed (s : Device) : Prop where
  sound : Throughout RightKey s.log
  key : ¬ Disturbed s.log → acceptedKey s.log = some s.gpdNode.securityKey
  ccm : ¬ Disturbed s.log → s.gpdNode.securityLevel ≠ securityLevelNone →
    s.ccmKey = s.gpdNode.securityKey

def Neutral : Event → Prop
  | .booted _ => False
  | .replyAccepted (some _) => False
  | .replyRejected => False
  | .decommissioned => False
  | _ => True

section
variable {log : List Event}

theorem Neutral.keyAccepted {e : Event} (h : Neutral e) : KeyAgreement.keyAccepted e = none := by
  cases e with
  | booted => exact h.elim
  | replyAccepted newKey =>
    cases newKey with
    | none => rfl
    | some key => exact h.elim
  | _ => rfl

theorem acceptedKey_neutral {e : Event} (h : Neutral e) :
    acceptedKey (e :: log) = acceptedKey log := by
  unfold acceptedKey
  rw [List.findSome?_cons, h.keyAccepted]

theorem disturbed_neutral {e : Event} (h : Neutral e) : Disturbed (e :: log) ↔ Disturbed log := by
  have rejected : e ≠ .replyRejected := by
    rintro rfl
    exact h
  have decommissioned : e ≠ .decommissioned := by
    rintro rfl
    exact h
  simp only [Disturbed, h.keyAccepted, rejected, decommissioned, or_self, false_or, true_and]

theorem not_disturbed_accepted {e : Event} {key : Key} (h : keyAccepted e = some key) :
    ¬ Disturbed (e :: log) ∧ acceptedKey (e :: log) = some key := by
  constructor
  · rintro ⟨none, -⟩
    rw [h] at none
    cases none
  · unfold acceptedKey
    rw [List.findSome?_cons, h]

theorem rightKey_of_other {e : Event} (h : ∀ l k k' n, e ≠ .secure l k k' n) :
    RightKey (e :: log) := by
  intro level ccmKey securityKey nonce older eq
  exact absurd (List.cons.inj eq).1 (h _ _ _ _)

end

section
variable {s : Device}

theorem Agreed.extend (h : Agreed s) {s' : Device} {e : Event} (log : s'.log = e :: s.log)
    (other : ∀ l k k' n, e ≠ .secure l k k' n) (neutral : Neutral e)
    (key : s'.gpdNode.securityKey = s.gpdNode.securityKey)
    (ccm : ¬ Disturbed s.log → s'.gpdNode.securityLevel ≠ securityLevelNone →
      s'.ccmKey = s.gpdNode.securityKey) : Agreed s' := by
  refine ⟨?_, ?_, ?_⟩
  · rw [log]
    exact throughout_cons.mpr ⟨rightKey_of_other other, h.sound⟩
  · rw [log, disturbed_neutral neutral, acceptedKey_neutral neutral, key]
    exact h.key
  · rw [log, disturbed_neutral neutral, key]
    exact ccm

/-- Steps without an event. -/
theorem Agreed.same (h : Agreed s) {s' : Device} (log : s'.log = s.log)
    (key : s'.gpdNode.securityKey = s.gpdNode.securityKey)
    (ccm : ¬ Disturbed s.log → s'.gpdNode.securityLevel ≠ securityLevelNone →
      s'.ccmKey = s.gpdNode.securityKey) : Agreed s' := by
  refine ⟨?_, ?_, ?_⟩
  · rw [log]
    exact h.sound
  · rw [log, key]
    exact h.key
  · rw [log, key]
    exact ccm

/-- Nothing about keys in the event and the keys and the level as before. -/
theorem Agreed.note (h : Agreed s) {s' : Device} {e : Event} (log : s'.log = e :: s.log)
    (other : ∀ l k k' n, e ≠ .secure l k k' n) (neutral : Neutral e)
    (key : s'.gpdNode.securityKey = s.gpdNode.securityKey)
    (level : s'.gpdNode.securityLevel = s.gpdNode.securityLevel) (ccmKey : s'.ccmKey = s.ccmKey) :
    Agreed s' :=
  h.extend log other neutral key (fun undisturbed secured =>
    ccmKey.trans (h.ccm undisturbed (level ▸ secured)))

theorem Agreed.updateFrameCounter (h : Agreed s) (b : Build) : Agreed (updateFrameCounter b s) := by
  unfold SendReceive.updateFrameCounter
  cases b.macSeq with
  | random => exact h.same rfl rfl h.ccm
  | incremental => exact h.note rfl (fun _ _ _ _ => nofun) trivial rfl rfl rfl

theorem securityLevel_ne_none {level : UInt8} (h : Secured level) : level ≠ securityLevelNone := by
  rintro rfl
  exact not_secured_none h

theorem Agreed.secure (h : Agreed s) (frameType : UInt8) :
    Agreed { s with log := secureEvents frameType s ++ s.log } := by
  have neutral : Neutral (.secure s.gpdNode.securityLevel s.ccmKey s.gpdNode.securityKey
    (nonce s.nonceTx)) := trivial
  unfold secureEvents
  split_ifs with secured
  · refine ⟨throughout_cons.mpr ⟨?_, h.sound⟩, ?_, ?_⟩
    · intro level ccmKey securityKey n older eq undisturbed
      obtain ⟨event, rfl⟩ := List.cons.inj eq
      obtain ⟨rfl, rfl, rfl, rfl⟩ := Event.secure.inj event
      exact ⟨h.ccm undisturbed (securityLevel_ne_none secured.2), h.key undisturbed⟩
    · rw [List.singleton_append, disturbed_neutral neutral, acceptedKey_neutral neutral]
      exact h.key
    · rw [List.singleton_append, disturbed_neutral neutral]
      exact h.ccm
  · exact h

theorem Agreed.compose (h : Agreed s) (b : Build) (frameType : UInt8) (payload : List UInt8) :
    Agreed (writeTxFifo b frameType payload (SendReceive.updateFrameCounter b s)) := by
  have updated := h.updateFrameCounter b
  generalize SendReceive.updateFrameCounter b s = s1 at updated
  obtain ⟨mpdu, frame, eq⟩ := writeTxFifo_eq b frameType payload s1
  rw [eq]
  exact (updated.secure frameType).note rfl (fun _ _ _ _ => nofun) trivial rfl rfl rfl

theorem Agreed.arrivals (h : Agreed s) {new : List Event} (arrivals : ∀ e ∈ new, Arrival e) :
    Agreed { s with log := new ++ s.log } := by
  induction new with
  | nil => exact h
  | cons e new ih =>
    have older := ih (fun x hx => arrivals x (List.mem_cons_of_mem _ hx))
    cases arrivals e List.mem_cons_self with
    | decrypt => exact older.note rfl (fun _ _ _ _ => nofun) trivial rfl rfl rfl
    | incomingCommand => exact older.note rfl (fun _ _ _ _ => nofun) trivial rfl rfl rfl

theorem Agreed.quiet (h : Agreed s) {size : ℕ} {new : List Event} {s' : Device}
    (quiet : Quiet size new s s') (arrivals : ∀ e ∈ new, Arrival e) : Agreed s' := by
  obtain ⟨cell, t, nonceRx, _, _, rfl⟩ := quiet
  exact (h.arrivals arrivals).same rfl rfl (h.arrivals arrivals).ccm

/-- After an accepted reply the context holds the device's key again. -/
theorem Agreed.reaction (h : Agreed s) (r : Reaction) : Agreed (react r s) := by
  cases r with
  | ignored => exact h.same rfl rfl h.ccm
  | channelConfig channel => exact h.note rfl (fun _ _ _ _ => nofun) trivial rfl rfl rfl
  | replyAccepted newKey level keyType =>
    have replied : Agreed { s with
        gpdNode := { s.gpdNode with
          securityKey := newKey.getD s.gpdNode.securityKey
          securityLevel := level
          securityKeyType := keyType }
        ccmKey := newKey.getD s.gpdNode.securityKey
        log := .replyAccepted newKey :: s.log } := by
      cases newKey with
      | none => exact h.extend rfl (fun _ _ _ _ => nofun) trivial rfl (fun _ _ => rfl)
      | some key =>
        have accepted : acceptedKey (.replyAccepted (some key) :: s.log) = some key :=
          (not_disturbed_accepted rfl).2
        exact ⟨throughout_cons.mpr ⟨rightKey_of_other (fun _ _ _ _ => nofun), h.sound⟩,
          fun _ => accepted, fun _ _ => rfl⟩
    exact replied.note rfl (fun _ _ _ _ => nofun) trivial rfl rfl rfl
  | replyRejected =>
    have disturbed : Disturbed (.replyRejected :: s.log) := ⟨rfl, Or.inl (Or.inl rfl)⟩
    exact ⟨throughout_cons.mpr ⟨rightKey_of_other (fun _ _ _ _ => nofun), h.sound⟩,
      fun undisturbed => absurd disturbed undisturbed,
      fun undisturbed => absurd disturbed undisturbed⟩

theorem Agreed.radio {s' : Device} (step : RadioStep s s') (h : Agreed s) : Agreed s' := by
  cases step with
  | startTx => exact h.note rfl (fun _ _ _ _ => nofun) trivial rfl rfl rfl
  | startRx => exact h.note rfl (fun _ _ _ _ => nofun) trivial rfl rfl rfl
  | nextWindow => exact h.same rfl rfl h.ccm
  | arrival quiet arrivals => exact h.quiet quiet arrivals
  | reaction r range => exact h.reaction r

theorem Agreed.setState (h : Agreed s) (st : ApplicationState) :
    Agreed (IncomingCommand.emberGpdSetState st s) :=
  h.note rfl (fun _ _ _ _ => nofun) trivial rfl rfl rfl

/-- The context is out of step only while the level is zero. -/
theorem Agreed.step {b : Build} {d s' : Device} (step : Step b d s s') (h : Agreed s) :
    Agreed s' := by
  cases step with
  | radio step => exact h.radio step
  | compose frameType payload => exact h.compose b frameType payload
  | store => exact h.note rfl (fun _ _ _ _ => nofun) trivial rfl rfl rfl
  | clearSecurity => exact h.same rfl rfl (fun _ secured => absurd rfl secured)
  | clearLevel => exact h.same rfl rfl (fun _ secured => absurd rfl secured)
  | restoreLevel => exact h.same rfl rfl (fun _ _ => rfl)
  | encryptKey oobKey level => exact h.same rfl rfl (fun _ secured => absurd level secured)
  | command st known => exact h.setState st
  | successRequest replied => exact h.setState _
  | operational done => exact h.setState _
  | loadDefaults invalid =>
    have disturbed : Disturbed (.decommissioned :: s.log) := ⟨rfl, Or.inl (Or.inr rfl)⟩
    exact ⟨throughout_cons.mpr ⟨rightKey_of_other (fun _ _ _ _ => nofun), h.sound⟩,
      fun undisturbed => absurd disturbed undisturbed,
      fun undisturbed => absurd disturbed undisturbed⟩
  | _ => exact h.same rfl rfl h.ccm

theorem Agreed.perform (h : Agreed s) (b : Build) (a : Action) : Agreed (perform b s a) :=
  star_preserves (fun _ _ step h => h.step step) (perform_steps b s a) h

end

section
variable (b : Build) {log : List Event}

theorem powerUp_keys (log : List Event) :
    (powerUp b log).ccmKey = (powerUp b log).gpdNode.securityKey :=
  rfl

/-- A boot saves the default data on a blank chip and then reports the key it loaded. -/
theorem rightKey_powerUp (h : Throughout RightKey log) :
    Throughout RightKey (powerUp b log).log := by
  obtain ⟨-, -, booted⟩ := powerUp_loaded b log
  rw [booted]
  refine throughout_cons.mpr ⟨rightKey_of_other (fun _ _ _ _ => nofun), ?_⟩
  cases flashed : DeviceState.flash log with
  | some img =>
    rw [loaded_of_image b flashed]
    exact h
  | none =>
    rw [loaded_of_blank b flashed]
    exact throughout_cons.mpr ⟨rightKey_of_other (fun _ _ _ _ => nofun),
      throughout_cons.mpr ⟨rightKey_of_other (fun _ _ _ _ => nofun), h⟩⟩

theorem Agreed.powerUp (h : Throughout RightKey log) : Agreed (powerUp b log) := by
  obtain ⟨gpd, -, booted⟩ := powerUp_loaded b log
  refine ⟨rightKey_powerUp b h, fun _ => ?_, fun _ _ => powerUp_keys b log⟩
  rw [booted, gpd]
  exact (not_disturbed_accepted rfl).2

theorem Agreed.life (h : Throughout RightKey log) (actions : List Action) :
    Agreed (life b log actions) :=
  List.foldlRecOn actions (GpdTask.perform b) (Agreed.powerUp b h)
    (fun _ agreed a _ => agreed.perform b a)

theorem rightKey_nil : RightKey [] := fun _ _ _ _ _ eq => by cases eq

theorem chip_rightKey (chip : Chip b log) : Throughout RightKey log := by
  induction chip with
  | fresh => exact throughout_nil.mpr rightKey_nil
  | written img =>
    exact throughout_cons.mpr ⟨rightKey_of_other (fun _ _ _ _ => nofun),
      throughout_nil.mpr rightKey_nil⟩
  | life actions chip since cut ih => exact (Agreed.life b ih actions).sound.suffix cut

/-- On every chip and in every life: a data frame is secured with the device's key, and that is
the key accepted last, as long as no reply was rejected since. -/
theorem frames_secured_with_accepted_key (chip : Chip b log) :
    ∀ level ccmKey securityKey nonce newer older,
      log = newer ++ .secure level ccmKey securityKey nonce :: older → ¬ Disturbed older →
        ccmKey = securityKey ∧ acceptedKey older = some securityKey := by
  rintro level ccmKey securityKey nonce newer older rfl undisturbed
  exact ((chip_rightKey b chip).suffix (List.suffix_append newer _)).here level ccmKey securityKey
    nonce older rfl undisturbed

end

theorem take_append_secure {log older : List Event} {n : ℕ} {e : Event}
    (h : log.drop n = e :: older) : log = log.take n ++ e :: older := by
  rw [← h, List.take_append_drop]

def bootedKey : Key := Vector.ofFn (fun i => 0x11 * UInt8.ofNat i)

/-- The toggle of a fresh chip. -/
theorem toggled_secured_with_booted_key :
    ∃ level ccmKey nonce older, toggledLog = toggledLog.take 5 ++
      .secure level ccmKey bootedKey nonce :: older ∧
      ccmKey = bootedKey ∧ acceptedKey older = some bootedKey := by
  have secured : toggledLog.drop 5 = .secure 3 bootedKey bootedKey
      [0x78, 0x56, 0x34, 0x12, 0x78, 0x56, 0x34, 0x12, 1, 0, 0, 0, 5] :: toggledLog.drop 6 := by
    decide +kernel
  have chip : Chip (shipped (AesCipher.aesCcm tagSize)) toggledLog :=
    .life [.command .send, .stack [] [] []] .fresh List.nil_suffix List.suffix_rfl
  have log := take_append_secure secured
  exact ⟨_, _, _, _, log, frames_secured_with_accepted_key _ chip _ _ _ _ _ _ log
    (by decide +kernel)⟩

def rejectedReplyFrame : List UInt8 :=
  [36, 0x01, 0x08, 0, 0xff, 0xff, 0xff, 0xff, 0x0d, 0xf0, 0x06] ++ List.replicate 24 0

def rejectedReplyLog : List Event :=
  (life (shipped (AesCipher.aesCcm tagSize)) [] [.command .send,
    .stack [[rejectedReplyFrame]] [] [], .command .send, .stack [] [] []]).log

/-- The second toggle is secured with the TC link key. -/
theorem rejectedReply_secures_with_linkKey :
    Chip (shipped (AesCipher.aesCcm tagSize)) rejectedReplyLog ∧
      ¬ ∀ level ccmKey securityKey nonce newer older,
        rejectedReplyLog = newer ++ .secure level ccmKey securityKey nonce :: older →
          ccmKey = securityKey ∧ acceptedKey older = some securityKey := by
  refine ⟨.life _ .fresh List.nil_suffix List.suffix_rfl, fun all => ?_⟩
  have secured : rejectedReplyLog.drop 5 = .secure 3 keyDefaultTCLink zeroKey
      [0x78, 0x56, 0x34, 0x12, 0x78, 0x56, 0x34, 0x12, 2, 0, 0, 0, 5] ::
        rejectedReplyLog.drop 6 := by
    decide +kernel
  obtain ⟨same, -⟩ := all _ _ _ _ _ _ (take_append_secure secured)
  exact absurd same (by decide)

end GreenPower.KeyAgreement
