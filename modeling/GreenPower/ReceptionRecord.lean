import GreenPower.ReceiveOutcome

set_option autoImplicit false

/-!
The events a received frame leaves in the log, and when: the deliveries to
`emberGpdIncomingCommandHandler` and the runs of `emberDecryptRxBuffer`.
-/
namespace GreenPower.ReceptionRecord
open MemoryArray BuildOptions DeviceState IncomingMessage FrameAcceptance ReceiveOutcome

def Reports (s s' : Device) (e : Event) : Prop := ∃ new, s'.log = new ++ s.log ∧ e ∈ new

def HandsOver (s s' : Device) : Prop :=
  ∃ start length command, Reports s s' (.incomingCommand start length command)

theorem reports_iff {s s' : Device} {new : List Event} (h : s'.log = new ++ s.log) (e : Event) :
    Reports s s' e ↔ e ∈ new := by
  constructor
  · rintro ⟨new', h', he⟩
    rw [h] at h'
    rwa [List.append_cancel_right h']
  · intro he
    exact ⟨new, h, he⟩

theorem handler_log (b : Build) (s : Device) : (emberGpdIncomingMessageHandler b s).log =
    ((frameReaction b s).events ++ receptionEvents b s) ++ s.log := by
  obtain ⟨s', q, h⟩ := emberGpdIncomingMessageHandler_react b s
  rw [h, List.append_assoc, ← q.log]
  rfl

theorem handler_gpdNode (b : Build) (s : Device) :
    (emberGpdIncomingMessageHandler b s).gpdNode = (frameReaction b s).gpdNode s.gpdNode := by
  obtain ⟨s', q, h⟩ := emberGpdIncomingMessageHandler_react b s
  rw [h]
  change (frameReaction b s).gpdNode s'.gpdNode = _
  rw [q.gpdNode]

theorem reaction_events (r : Reaction) : ∀ e ∈ r.events, (∃ st, e = .setState st) ∨
    (∃ key, e = .replyAccepted key) ∨ e = .replyRejected := by
  cases r <;> simp [Reaction.events]

/-- What is handed over, if anything: the payload as it stands after data frame security. -/
theorem incomingCommand_reported_iff (b : Build) (s : Device) (start length : ℕ)
    (command : List UInt8) :
    Reports s (emberGpdIncomingMessageHandler b s) (.incomingCommand start length command) ↔
      (Accepted s.rxMpdu.cell s.gpdNode.addr ∧ gpdfAppPayloadLength s.rxMpdu.cell ≠ 0) ∧
        start = payloadFinger s.rxMpdu.cell ∧ length = gpdfAppPayloadLength s.rxMpdu.cell ∧
        command = load (securedBuffer b s.ccmKey s.nonceRx s.rxMpdu.cell) start length := by
  rw [reports_iff (handler_log b s), List.mem_append]
  constructor
  · rintro (h | h)
    · rcases reaction_events _ _ h with ⟨_, h⟩ | ⟨_, h⟩ | h <;> cases h
    · unfold receptionEvents payloadEvents at h
      by_cases accepted : Accepted s.rxMpdu.cell s.gpdNode.addr
      · rw [if_pos accepted] at h
        rcases List.mem_append.mp h with h | h
        · by_cases payload : gpdfAppPayloadLength s.rxMpdu.cell ≠ 0
          · rw [if_pos payload, List.mem_singleton, commandEvent] at h
            cases h
            exact ⟨⟨accepted, payload⟩, rfl, rfl, rfl⟩
          · rw [if_neg payload] at h
            cases h
        · revert h
          simp only [securityEvents, decryptEvent]
          split_ifs <;> simp
      · rw [if_neg accepted] at h
        cases h
  · rintro ⟨⟨accepted, payload⟩, rfl, rfl, rfl⟩
    unfold receptionEvents payloadEvents
    rw [if_pos accepted, if_pos payload]
    exact Or.inr List.mem_cons_self

theorem handsOver_iff (b : Build) (s : Device) : HandsOver s (emberGpdIncomingMessageHandler b s) ↔
    Accepted s.rxMpdu.cell s.gpdNode.addr ∧ gpdfAppPayloadLength s.rxMpdu.cell ≠ 0 := by
  simp only [HandsOver, incomingCommand_reported_iff]
  constructor
  · rintro ⟨_, _, _, h, _⟩
    exact h
  · intro h
    exact ⟨_, _, _, h, rfl, rfl, rfl⟩

def Delivers (gpdCommand : UInt8) (s s' : Device) : Prop :=
  ∃ start length rest, Reports s s' (.incomingCommand start length (gpdCommand :: rest))

theorem delivers_iff (b : Build) (s : Device) (gpdCommand : UInt8) :
    Delivers gpdCommand s (emberGpdIncomingMessageHandler b s) ↔
      (Accepted s.rxMpdu.cell s.gpdNode.addr ∧ gpdfAppPayloadLength s.rxMpdu.cell ≠ 0) ∧
        securedBuffer b s.ccmKey s.nonceRx s.rxMpdu.cell (payloadFinger s.rxMpdu.cell) =
          gpdCommand := by
  simp only [Delivers, incomingCommand_reported_iff]
  constructor
  · rintro ⟨start, length, rest, h, rfl, rfl, command⟩
    obtain ⟨n, hn⟩ := Nat.exists_eq_succ_of_ne_zero h.2
    rw [hn, Nat.succ_eq_add_one, load_succ] at command
    exact ⟨h, (List.cons.inj command).1.symm⟩
  · rintro ⟨h, rfl⟩
    obtain ⟨n, hn⟩ := Nat.exists_eq_succ_of_ne_zero h.2
    refine ⟨_, _, load (securedBuffer b s.ccmKey s.nonceRx s.rxMpdu.cell)
      (payloadFinger s.rxMpdu.cell + 1) n, h, rfl, rfl, ?_⟩
    rw [hn, Nat.succ_eq_add_one, load_succ]

theorem decrypt_reported_iff (b : Build) (s : Device) (authStart encrLength authLength : ℕ)
    (status : Status) :
    Reports s (emberGpdIncomingMessageHandler b s)
      (.decrypt authStart encrLength authLength status) ↔
      Accepted s.rxMpdu.cell s.gpdNode.addr ∧ .decrypt authStart encrLength authLength status ∈
        securityEvents b s.ccmKey s.nonceRx s.rxMpdu.cell := by
  rw [reports_iff (handler_log b s), List.mem_append]
  constructor
  · rintro (h | h)
    · rcases reaction_events _ _ h with ⟨_, h⟩ | ⟨_, h⟩ | h <;> cases h
    · unfold receptionEvents at h
      by_cases accepted : Accepted s.rxMpdu.cell s.gpdNode.addr
      · rw [if_pos accepted] at h
        rcases List.mem_append.mp h with h | h
        · revert h
          simp only [commandEvent]
          split_ifs <;> simp
        · exact ⟨accepted, h⟩
      · simp [accepted] at h
  · rintro ⟨accepted, h⟩
    unfold receptionEvents
    rw [if_pos accepted]
    exact Or.inr (List.mem_append_right _ h)

section
variable (b : Build) (s : Device) (packet : List UInt8)

/-- The two kinds of reports for a packet of the radio. -/
theorem packet_incomingCommand_iff (start length : ℕ) (command : List UInt8) :
    let cell := store s.rxMpdu.cell 0 packet
    Reports s (railCbGeneric b packet s) (.incomingCommand start length command) ↔
      (Accepted cell s.gpdNode.addr ∧ gpdfAppPayloadLength cell ≠ 0) ∧
        start = payloadFinger cell ∧ length = gpdfAppPayloadLength cell ∧
        command = load (securedBuffer b s.ccmKey s.nonceRx cell) start length :=
  incomingCommand_reported_iff b { s with rxMpdu := s.rxMpdu.store 0 packet } start length command

theorem packet_decrypt_iff (authStart encrLength authLength : ℕ) (status : Status) :
    let cell := store s.rxMpdu.cell 0 packet
    Reports s (railCbGeneric b packet s) (.decrypt authStart encrLength authLength status) ↔
      Accepted cell s.gpdNode.addr ∧ .decrypt authStart encrLength authLength status ∈
        securityEvents b s.ccmKey s.nonceRx cell :=
  decrypt_reported_iff b { s with rxMpdu := s.rxMpdu.store 0 packet } authStart encrLength
    authLength status

end

/-- Without a delivery nothing happens to `gpdNode`. -/
theorem gpdNode_of_not_handsOver (b : Build) (s : Device)
    (h : ¬ HandsOver s (emberGpdIncomingMessageHandler b s)) :
    (emberGpdIncomingMessageHandler b s).gpdNode = s.gpdNode := by
  rw [handler_gpdNode]
  unfold frameReaction payloadReaction
  split_ifs with accepted payload
  · exact absurd ((handsOver_iff b s).mpr ⟨accepted, payload⟩) h
  · rfl
  · rfl

end GreenPower.ReceptionRecord
