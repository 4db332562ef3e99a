import BoardSim.Preload
import BoardSim.Platform
import BoardSim.Proofs.Bytes
import BoardSim.Proofs.Device.Run
import BoardSim.Proofs.CryptoBlock.Session
import BoardSim.Proofs.CryptoBlock.Tracking
import BoardSim.Proofs.CryptoBlock.Verdict
import BoardSim.Proofs.CryptoBlock.Completion
import BoardSim.Proofs.Bus.Access
import BoardSim.Proofs.Bus.RangeIndex
import BoardSim.Proofs.Bus.Refusal
import BoardSim.Proofs.Bus.Routing
import BoardSim.Proofs.Flash.History
import BoardSim.Proofs.Flash.Access
import BoardSim.Proofs.SerialMemory.Command
import BoardSim.Proofs.SerialMemory.Transfer
import BoardSim.Proofs.Timers.Run
import BoardSim.Proofs.Timers.Countdown
import BoardSim.Proofs.Platform.Standard
import BoardSim.Proofs.Platform.FlashHistory
import BoardSim.Proofs.Platform.Reset
import BoardSim.Proofs.Device.Safety
import BoardSim.Proofs.Bus.Safety
import BoardSim.Proofs.Bus.Dispatch
import BoardSim.Proofs.Platform.Safety
import BoardSim.Proofs.Platform.Construction
import BoardSim.Proofs.Bus.IndexRun
import BoardSim.Proofs.Bus.Requests
import BoardSim.Proofs.Bus.Injection
import BoardSim.Proofs.Device.Footprint
import BoardSim.Proofs.Bus.Independence
import BoardSim.Proofs.Platform.Independence
import BoardSim.Proofs.Device.PlainRegisters
import BoardSim.Proofs.Bus.PlainRegisters
import BoardSim.Proofs.Platform.PlainRegisters
import BoardSim.Proofs.Bus.Refresh
import BoardSim.Proofs.Device.History
import BoardSim.Proofs.Reconfig.Commands
import BoardSim.Proofs.CryptoBlock.StatusReads
import BoardSim.Proofs.Mailbox.Queues
import BoardSim.Proofs.FlashController.Commands
import BoardSim.Proofs.SerialMemory.Transcript
import BoardSim.Proofs.Timers.Readings
import BoardSim.Proofs.Platform.FlashLoading
import BoardSim.Proofs.SerialMemory.Loading
import BoardSim.Proofs.Size.Cut
import BoardSim.Proofs.Platform.SizeTexts
import BoardSim.Proofs.Bus.Observation
import BoardSim.Proofs.Device.ReadEffects
import BoardSim.Proofs.Platform.ReadEffects
import BoardSim.Proofs.SortedMap
import BoardSim.Proofs.WordBank.Contents
import BoardSim.Proofs.PageMap.Pages
import BoardSim.Proofs.Bus.Snapshots
import BoardSim.Proofs.Bus.Policy
import BoardSim.Proofs.Platform.FlashContent
