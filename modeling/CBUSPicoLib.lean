import CBUSPicoLib.Can.BufferQueue
import CBUSPicoLib.Can.CircularBuffer
import CBUSPicoLib.Can.Frame
import CBUSPicoLib.Can.InterruptedGet
import CBUSPicoLib.Can.InterruptedRead
import CBUSPicoLib.Config.ByteStore
import CBUSPicoLib.Config.Coherence
import CBUSPicoLib.Config.ConditionalErase
import CBUSPicoLib.Config.EventCells
import CBUSPicoLib.Config.EventLearning
import CBUSPicoLib.Config.EventLookup
import CBUSPicoLib.Config.EventTable
import CBUSPicoLib.Config.EventUnlearning
import CBUSPicoLib.Config.ExternalEeprom
import CBUSPicoLib.Config.ExternalReset
import CBUSPicoLib.Config.FactoryReset
import CBUSPicoLib.Config.Flash
import CBUSPicoLib.Config.Identity
import CBUSPicoLib.Config.Layout
import CBUSPicoLib.Config.Persistence
import CBUSPicoLib.Config.PowerFailure
import CBUSPicoLib.Config.SlotBytes
import CBUSPicoLib.GridConnect.Bridge
import CBUSPicoLib.GridConnect.Codec
import CBUSPicoLib.GridConnect.Decoding
import CBUSPicoLib.GridConnect.Framing
import CBUSPicoLib.GridConnect.Grammar
import CBUSPicoLib.GridConnect.Outgoing
import CBUSPicoLib.GridConnect.Recovery
import CBUSPicoLib.GridConnect.RoundTrip
import CBUSPicoLib.GridConnect.Server
import CBUSPicoLib.GridConnect.Transmission
import CBUSPicoLib.Library.BoundedStore
import CBUSPicoLib.Library.Broadcast
import CBUSPicoLib.Library.ByteBitmap
import CBUSPicoLib.Library.DelimitedStream
import CBUSPicoLib.Library.DropOldest
import CBUSPicoLib.Library.Histories
import CBUSPicoLib.Library.IndependentCells
import CBUSPicoLib.Library.InterruptedWrites
import CBUSPicoLib.Library.Memory
import CBUSPicoLib.Library.RetrySlot
import CBUSPicoLib.Library.Ring
import CBUSPicoLib.Library.Runs
import CBUSPicoLib.Library.SampledSignal
import CBUSPicoLib.Library.Service
import CBUSPicoLib.Library.SessionTable
import CBUSPicoLib.Library.ShiftRegister
import CBUSPicoLib.Library.SlotLedger
import CBUSPicoLib.Library.TaggedLog
import CBUSPicoLib.Library.TaggedTable
import CBUSPicoLib.Library.WrappedClock
import CBUSPicoLib.LongMessage.BufferBounds
import CBUSPicoLib.LongMessage.ContextAccount
import CBUSPicoLib.LongMessage.CrcAlgebra
import CBUSPicoLib.LongMessage.CrcBursts
import CBUSPicoLib.LongMessage.CrcOff
import CBUSPicoLib.LongMessage.Demultiplexing
import CBUSPicoLib.LongMessage.Endings
import CBUSPicoLib.LongMessage.Extended
import CBUSPicoLib.LongMessage.ExtendedReception
import CBUSPicoLib.LongMessage.ExtendedSending
import CBUSPicoLib.LongMessage.ForeignFragments
import CBUSPicoLib.LongMessage.Fragments
import CBUSPicoLib.LongMessage.Interleaving
import CBUSPicoLib.LongMessage.Outgoing
import CBUSPicoLib.LongMessage.Pieces
import CBUSPicoLib.LongMessage.Plain
import CBUSPicoLib.LongMessage.PlainBounds
import CBUSPicoLib.LongMessage.Reception
import CBUSPicoLib.LongMessage.ReceptionSteps
import CBUSPicoLib.LongMessage.Restarts
import CBUSPicoLib.LongMessage.RoundTrip
import CBUSPicoLib.LongMessage.SendContexts
import CBUSPicoLib.LongMessage.SendingRuns
import CBUSPicoLib.LongMessage.SessionReports
import CBUSPicoLib.LongMessage.Streams
import CBUSPicoLib.LongMessage.Verdicts
import CBUSPicoLib.Node.AddressConflict
import CBUSPicoLib.Node.Answers
import CBUSPicoLib.Node.Authority
import CBUSPicoLib.Node.Base
import CBUSPicoLib.Node.CommandSteps
import CBUSPicoLib.Node.Commands
import CBUSPicoLib.Node.Conclusion
import CBUSPicoLib.Node.Debounce
import CBUSPicoLib.Node.Enumeration
import CBUSPicoLib.Node.EnumerationRuns
import CBUSPicoLib.Node.EventBackup
import CBUSPicoLib.Node.EventBus
import CBUSPicoLib.Node.EventListing
import CBUSPicoLib.Node.EventReading
import CBUSPicoLib.Node.EventReception
import CBUSPicoLib.Node.EventStore
import CBUSPicoLib.Node.EventStoreAnswers
import CBUSPicoLib.Node.EventStoreRuns
import CBUSPicoLib.Node.EventTraffic
import CBUSPicoLib.Node.EventWire
import CBUSPicoLib.Node.Events
import CBUSPicoLib.Node.ExternalBytes
import CBUSPicoLib.Node.ExternalPowerFailure
import CBUSPicoLib.Node.ExternalStorage
import CBUSPicoLib.Node.FlimConsistency
import CBUSPicoLib.Node.Forwarding
import CBUSPicoLib.Node.HandlingTrace
import CBUSPicoLib.Node.LongPress
import CBUSPicoLib.Node.ModeLeds
import CBUSPicoLib.Node.Modes
import CBUSPicoLib.Node.ModuleWrites
import CBUSPicoLib.Node.NodeVariables
import CBUSPicoLib.Node.Parameters
import CBUSPicoLib.Node.PermanentData
import CBUSPicoLib.Node.PowerCycle
import CBUSPicoLib.Node.PowerFailure
import CBUSPicoLib.Node.Process
import CBUSPicoLib.Node.QueueSelection
import CBUSPicoLib.Node.ResetGuard
import CBUSPicoLib.Node.Storage
import CBUSPicoLib.Node.SwitchAndLeds
import CBUSPicoLib.Node.Teaching
import CBUSPicoLib.Node.Unlearning
