import GreenPower.MemoryArray
import GreenPower.ByteWord
import GreenPower.AesCipher
import GreenPower.NonVolatile
import GreenPower.FrameBuild
import GreenPower.IncomingCommand
import GreenPower.IncomingMessage
import GreenPower.SendReceive
import GreenPower.GpdTask
import GreenPower.AddressGate
import GreenPower.SecuredReception
import GreenPower.AcceptanceRule
import GreenPower.ReceiveBounds
import GreenPower.CrashConsistency
import GreenPower.KeyAgreement
import GreenPower.AttemptIndependence
import GreenPower.EventFlags
import GreenPower.SlotServer
import GreenPower.TaskSystem
import GreenPower.TaskSteps
import GreenPower.CommandHandshake
import GreenPower.RoundPacing
import GreenPower.EventDelivery
import GreenPower.FramesOnAir
import GreenPower.CommandService
import GreenPower.BgapiSharing
import GreenPower.FieldRanges
import GreenPower.CommissioningHistory
import GreenPower.AttemptSecurity
import GreenPower.StaleBytes
import GreenPower.PowerCycle
import GreenPower.CommissioningReply
import GreenPower.LeTimer
import GreenPower.TimerInterrupt
import GreenPower.ProgramSends
import GreenPower.ReceiveWindows
import GreenPower.PolledLoop
import GreenPower.ResponseLoops
import GreenPower.TransmitCompletion
import GreenPower.ReceiveSlot
import GreenPower.SlotHandover
import GreenPower.FieldReader
import GreenPower.RequestGrammar
import GreenPower.RequestReadBack
import GreenPower.Lockstep
import GreenPower.DeviceTwins
import GreenPower.DeviceTwinRuns
import GreenPower.Decommissioning
import GreenPower.NonceAgreement
import GreenPower.DescriptionTransfer
import GreenPower.MbedtlsCcm
import GreenPower.EngineCalls
import GreenPower.TaskDevice
import GreenPower.NonceUse
import GreenPower.BluetoothEvents
import GreenPower.BluetoothDelivery
import GreenPower.LinkedList
import GreenPower.KernelServices
import GreenPower.KernelLists
import GreenPower.KernelInvariant
import GreenPower.KernelRuns
import GreenPower.KernelScheduling
import GreenPower.KernelRefinement
import GreenPower.DeltaList
import GreenPower.Sleeptimer
import GreenPower.SleeptimerLists
import GreenPower.SleeptimerClock
import GreenPower.SleeptimerRuns
import GreenPower.IeeeAddressing
import GreenPower.IeeeFrames
import GreenPower.IeeeSends
import GreenPower.SentFrames
