import GreenPower.MemoryArray
import GreenPower.ByteWord

set_option autoImplicit false

/-!
The fields of a Green Power frame by octet and bit position, as a reader of the standard finds
them. The length byte is octet 0; all fields follow from the frame alone.
-/
namespace GreenPower.FrameFields
open MemoryArray ByteWord

section
variable (frame : Cells UInt8)

def macFrameControl : ℕ := (frame 1).toNat + 256 * (frame 2).toNat

def GreenPowerMac : Prop := macFrameControl frame = 0x0801 ∨ macFrameControl frame = 0x0C01

def nwkStart : ℕ := if macFrameControl frame = 0x0C01 then 14 else 8

def nwkControl : UInt8 := frame (nwkStart frame)

def extControl : UInt8 := frame (nwkStart frame + 1)

def Extended : Prop := bitField (nwkControl frame) 7 1 = 1

def DataFrame : Prop := bitField (nwkControl frame) 0 2 = 0

def MaintenanceFrame : Prop := bitField (nwkControl frame) 0 2 = 1

instance : Decidable (Extended frame) := by unfold Extended; infer_instance
instance : Decidable (DataFrame frame) := by unfold DataFrame; infer_instance

def CarriesSrcId : Prop :=
  DataFrame frame ∧ Extended frame ∧ bitField (extControl frame) 0 3 = 0

instance : Decidable (CarriesSrcId frame) := by unfold CarriesSrcId; infer_instance

def srcIdStart : ℕ := nwkStart frame + 1 + (if Extended frame then 1 else 0)

def headerEnd : ℕ := srcIdStart frame + (if CarriesSrcId frame then 4 else 0)

/-- The payload's end: the length byte also counts the two FCS bytes behind it. -/
def frameEnd : ℕ := (frame 0).toNat - 1

def Unsecured : Prop := Extended frame → bitField (extControl frame) 3 2 = 0

def protocolVersion : ℕ := bitField (nwkControl frame) 2 4

/-- Levels 2 and 3 carry a frame counter behind the source id and a MIC at the end. -/
def SecurityFields : Prop :=
  Extended frame ∧ (bitField (extControl frame) 3 2 = 2 ∨ bitField (extControl frame) 3 2 = 3)

instance : Decidable (SecurityFields frame) := by unfold SecurityFields; infer_instance

end

end GreenPower.FrameFields
