import GreenPower.FrameAuthentication

set_option autoImplicit false

/-!
Memory safety of the receive path: the ranges of the 128-byte buffer it touches and the
lengths it computes in eight bits from the announced length.
-/
namespace GreenPower.ReceiveBounds
open MemoryArray ByteWord BuildOptions DeviceState FrameBuild IncomingMessage FrameAcceptance
  ReceiveOutcome ReceptionRecord FrameAuthentication AesCipher

/-- `cell` has arrived in the receive buffer and is not looked at yet. -/
def arrived (cell : Cells UInt8) (s : Device) : Device := { s with rxMpdu := .untouched cell }

def announcedEnd (cell : Cells UInt8) : ℤ := (cell 0).toNat - macFooterSize

/-- All accesses are inside the buffers and the lengths passed on are the true differences. -/
structure BoundedReception (b : Build) (cell : Cells UInt8) (s : Device) : Prop where
  reads : (emberGpdIncomingMessageHandler b (arrived cell s)).rxMpdu.Within rxMpduSize
  decrypted : ∀ authStart encrLength authLength status,
    Reports (arrived cell s) (emberGpdIncomingMessageHandler b (arrived cell s))
      (.decrypt authStart encrLength authLength status) →
    encrLength ≤ tempDataOutSize ∧
      (securityLevel cell = securityLevelLongAuthOnly →
        (authLength : ℤ) = announcedEnd cell - authStartSrcId + 1 - micLengthBytes) ∧
      (securityLevel cell = securityLevelLongFull →
        (encrLength : ℤ) =
          announcedEnd cell - authStartSrcId + 1 - authFixedLenSrcId - micLengthBytes)

/-- The announced lengths for which the arithmetic of a secured frame is exact. -/
def LengthsInRange (cell : Cells UInt8) : Prop :=
  2 ≤ (cell 0).toNat ∧
    (appId cell = appIdSrcId → frameType cell = nwkFcFrameTypeData →
      (securityLevel cell = securityLevelLongAuthOnly → 13 ≤ (cell 0).toNat) ∧
      (securityLevel cell = securityLevelLongFull →
        23 ≤ (cell 0).toNat ∧ (cell 0).toNat ≤ 103))

theorem nwkPayloadLength_of_le {cell : Cells UInt8} (h : 2 ≤ (cell 0).toNat) :
    nwkPayloadLength cell = (cell 0).toNat - 2 := by
  have hlt := (cell 0).toNat_lt
  unfold nwkPayloadLength uint8 macFooterSize
  omega

theorem nwkPayloadLength_of_lt {cell : Cells UInt8} (h : (cell 0).toNat < 2) :
    254 ≤ nwkPayloadLength cell := by
  unfold nwkPayloadLength uint8 macFooterSize
  omega

theorem authLengthAuthOnly_eq {cell : Cells UInt8} (h : 13 ≤ (cell 0).toNat) :
    authLengthAuthOnly cell = (cell 0).toNat - 13 := by
  have hlt := (cell 0).toNat_lt
  unfold authLengthAuthOnly
  rw [nwkPayloadLength_of_le (by omega)]
  unfold uint8 authStartSrcId micLengthBytes
  omega

theorem encrLengthFull_eq {cell : Cells UInt8} (h : 23 ≤ (cell 0).toNat) :
    encrLengthFull cell = (cell 0).toNat - 23 := by
  have hlt := (cell 0).toNat_lt
  unfold encrLengthFull
  rw [nwkPayloadLength_of_le (by omega)]
  unfold uint8 authStartSrcId micLengthBytes authFixedLenSrcId
  omega

theorem within_of_touched {m : Mem UInt8} {cell : Cells UInt8} {t : List (ℕ × ℕ)} {size limit : ℕ}
    (h : ∀ r ∈ t, r.1 + r.2 ≤ size)
    (hm : m.touched = t ++ (Mem.untouched cell).touched) (le : size ≤ limit) :
    m.Within limit := by
  intro r hr
  rw [hm, Mem.untouched, List.append_nil] at hr
  exact (h r hr).trans le

theorem reach_le {cell : Cells UInt8} (short : (cell 0).toNat ≤ 127)
    (range : Secured (securityLevel cell) → LengthsInRange cell) : reach cell ≤ 128 := by
  have fields : fieldsReach cell ≤ 128 := by
    unfold fieldsReach
    split_ifs with secured
    · have two := (range secured).1
      rw [nwkPayloadLength_of_le two]
      simp only [tagSize]
      omega
    · omega
  have security : securityReach cell ≤ 128 := by
    unfold securityReach
    split_ifs with data auth full
    · have low := ((range (Or.inl auth)).2 data.1 data.2).1 auth
      rw [authLengthAuthOnly_eq low]
      simp only [authStartSrcId, tagSize]
      omega
    · have low := (((range (Or.inr full)).2 data.1 data.2).2 full).1
      rw [encrLengthFull_eq low]
      simp only [authStartSrcId, authFixedLenSrcId, tagSize]
      omega
    · omega
    · omega
  unfold reach
  omega

theorem securityEvents_mem {b : Build} {key : Key} {nonceRx cell : Cells UInt8}
    {authStart encrLength authLength : ℕ} {status : Status}
    (h : .decrypt authStart encrLength authLength status ∈ securityEvents b key nonceRx cell) :
    (appId cell = appIdSrcId ∧ frameType cell = nwkFcFrameTypeData) ∧
      (securityLevel cell = securityLevelLongAuthOnly ∧ encrLength = 0 ∧
        authLength = authLengthAuthOnly cell ∨
      securityLevel cell = securityLevelLongFull ∧ encrLength = encrLengthFull cell) := by
  revert h
  unfold securityEvents decryptEvent
  split_ifs with data auth full <;> simp_all

theorem securityEvents_auth (b : Build) (key : Key) (nonceRx : Cells UInt8) {cell : Cells UInt8}
    (app : appId cell = appIdSrcId) (data : frameType cell = nwkFcFrameTypeData)
    (level : securityLevel cell = securityLevelLongAuthOnly) :
    ∃ status, .decrypt (authStartSrcId - 1) 0 (authLengthAuthOnly cell) status ∈
      securityEvents b key nonceRx cell := by
  unfold securityEvents
  rw [if_pos ⟨app, data⟩, if_pos level]
  exact ⟨_, List.mem_singleton.mpr rfl⟩

theorem securityEvents_full (b : Build) (key : Key) (nonceRx : Cells UInt8) {cell : Cells UInt8}
    (app : appId cell = appIdSrcId) (data : frameType cell = nwkFcFrameTypeData)
    (level : securityLevel cell = securityLevelLongFull) :
    ∃ status, .decrypt authStartSrcId (encrLengthFull cell) authFixedLenSrcId status ∈
      securityEvents b key nonceRx cell := by
  have other : securityLevel cell ≠ securityLevelLongAuthOnly := by
    rw [level]
    decide
  unfold securityEvents
  rw [if_pos ⟨app, data⟩, if_neg other, if_pos level]
  exact ⟨_, List.mem_singleton.mpr rfl⟩

theorem bounded_of_lengthsInRange (b : Build) (cell : Cells UInt8) (s : Device)
    (short : (cell 0).toNat ≤ 127)
    (range : Accepted cell s.gpdNode.addr → Secured (securityLevel cell) → LengthsInRange cell) :
    BoundedReception b cell s := by
  constructor
  · by_cases accepted : Accepted cell s.gpdNode.addr
    · obtain ⟨s', q, h⟩ := emberGpdIncomingMessageHandler_react b (arrived cell s)
      obtain ⟨t, ht, touched⟩ := q.touched
      rw [h]
      exact within_of_touched ht touched (reach_le short (range accepted))
    · obtain ⟨t, ht, h⟩ := headerRead_of_not_accepted b
        (show ¬ Accepted (arrived cell s).rxMpdu.cell (arrived cell s).gpdNode.addr from accepted)
      rw [h]
      exact within_of_touched ht rfl (by decide)
  · intro authStart encrLength authLength status reported
    obtain ⟨accepted, member⟩ := (decrypt_reported_iff b _ _ _ _ _).mp reported
    obtain ⟨⟨app, data⟩, ⟨level, rfl, rfl⟩ | ⟨level, rfl⟩⟩ := securityEvents_mem member
    · have low := ((range accepted (Or.inl level)).2 app data).1 level
      have other : securityLevel cell ≠ securityLevelLongFull := by
        rw [show securityLevel cell = _ from level]
        decide
      refine ⟨Nat.zero_le _, fun _ => ?_, fun full => absurd full other⟩
      change (authLengthAuthOnly cell : ℤ) = _
      rw [authLengthAuthOnly_eq low]
      simp only [announcedEnd, macFooterSize, authStartSrcId, micLengthBytes]
      omega
    · obtain ⟨low, high⟩ := ((range accepted (Or.inr level)).2 app data).2 level
      have other : securityLevel cell ≠ securityLevelLongAuthOnly := by
        rw [show securityLevel cell = _ from level]
        decide
      refine ⟨?_, fun auth => absurd auth other, fun _ => ?_⟩
      · change encrLengthFull cell ≤ _
        rw [encrLengthFull_eq low]
        simp only [tempDataOutSize]
        omega
      · change (encrLengthFull cell : ℤ) = _
        rw [encrLengthFull_eq low]
        simp only [announcedEnd, macFooterSize, authStartSrcId, micLengthBytes, authFixedLenSrcId]
        omega

theorem lengthsInRange_of_bounded (b : Build) (cell : Cells UInt8) (s : Device)
    (bounded : BoundedReception b cell s) (accepted : Accepted cell s.gpdNode.addr)
    (secured : Secured (securityLevel cell)) : LengthsInRange cell := by
  have reported {authStart encrLength authLength : ℕ} {status : Status}
      (h : .decrypt authStart encrLength authLength status ∈
        securityEvents b s.ccmKey s.nonceRx cell) :=
    bounded.decrypted _ _ _ _ ((decrypt_reported_iff b (arrived cell s) _ _ _ _).mpr ⟨accepted, h⟩)
  constructor
  · by_contra low
    have far := nwkPayloadLength_of_lt (not_le.mp low)
    have inside := bounded.reads _ (handler_touches_mic b (arrived cell s) accepted secured)
    change nwkPayloadLength cell - tagSize + 4 ≤ rxMpduSize at inside
    simp only [tagSize, rxMpduSize] at inside
    omega
  · intro app data
    constructor
    · intro level
      obtain ⟨status, member⟩ := securityEvents_auth b s.ccmKey s.nonceRx app data level
      have exact := (reported member).2.1 level
      simp only [announcedEnd, macFooterSize, authStartSrcId, micLengthBytes] at exact
      omega
    · intro level
      obtain ⟨status, member⟩ := securityEvents_full b s.ccmKey s.nonceRx app data level
      obtain ⟨small, -, exact⟩ := reported member
      have exact := exact level
      simp only [announcedEnd, macFooterSize, authStartSrcId, micLengthBytes, authFixedLenSrcId,
        tempDataOutSize] at exact small
      omega

theorem reception_bounded_iff (b : Build) (cell : Cells UInt8) (s : Device)
    (short : (cell 0).toNat ≤ 127) :
    BoundedReception b cell s ↔
      (Accepted cell s.gpdNode.addr → Secured (securityLevel cell) → LengthsInRange cell) :=
  ⟨lengthsInRange_of_bounded b cell s, bounded_of_lengthsInRange b cell s short⟩

def truncatedFrame : Cells UInt8 :=
  store (fun _ => 0) 0 [12, 0x01, 0x08, 0, 0xff, 0xff, 0xff, 0xff, 0x8c, 0x98, 0x78, 0x56, 0x34,
    0x12]

theorem truncated_reception_unbounded : ∃ cell s, (cell 0).toNat ≤ 127 ∧
    ¬ BoundedReception (shipped (aesCcm tagSize)) cell s := by
  refine ⟨truncatedFrame, receiving [], by decide, fun bounded => ?_⟩
  have range := lengthsInRange_of_bounded _ _ _ bounded (by decide +kernel) (by decide +kernel)
  have low := ((range.2 (by decide +kernel) (by decide +kernel)).2 (by decide +kernel)).1
  revert low
  decide

theorem truncated_reception_iff : BoundedReception (shipped (aesCcm tagSize)) truncatedFrame
    (receiving []) ↔ (Accepted truncatedFrame (receiving []).gpdNode.addr →
      Secured (securityLevel truncatedFrame) → LengthsInRange truncatedFrame) :=
  reception_bounded_iff _ truncatedFrame (receiving []) (by decide)

end GreenPower.ReceiveBounds
