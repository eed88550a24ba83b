import LibCec.Schemes.BoundedBuffer
import LibCec.Schemes.ByteStuffing
import LibCec.AdapterMessage
import LibCec.Receiver
import LibCec.Transmission
import LibCec.FrameAssembly
import LibCec.FrameSizes
import LibCec.MessageQueue
import LibCec.Attribution
import LibCec.Bus
import LibCec.Source
import LibCec.Client
import LibCec.Registration
import LibCec.Frame
import LibCec.SourceFrame
import LibCec.ClientFrame
import LibCec.ClientSteps
import LibCec.Allocation
import LibCec.Reallocation
import LibCec.RegistrationFrame
import LibCec.ReadModifyWrite
import LibCec.Stall
import LibCec.Ownership
import LibCec.Isolation
import LibCec.RequestedTypes
import LibCec.TypeChange
import LibCec.Commands
import LibCec.Keypress
import LibCec.VendorCommands
import LibCec.ActiveSource
import LibCec.AbortDiscipline
import LibCec.Refusal
import LibCec.Requests
import LibCec.Replies
import LibCec.AdapterSettings
import LibCec.AddressPoll
import LibCec.EepromWrite
import LibCec.Connection
import LibCec.AckMask
import LibCec.CommandFormat
import LibCec.PacketCount
import LibCec.ComboKeys
import LibCec.PresentedVendor
import LibCec.Schemes.Schedule
import LibCec.ThreadLifeCycle
import LibCec.ResponseEvents
import LibCec.Callbacks
import LibCec.QueueEntries
import LibCec.HandlerUse
import LibCec.HandlerCalls
import LibCec.KeySteps
import LibCec.DoubleTap
import LibCec.KeyTimers
import LibCec.KeyReleases
import LibCec.ComboWindow
import LibCec.StandbyThrottle
import LibCec.ReleaseEvidence
import LibCec.ControlledMode
import LibCec.TransmitStatistics
import LibCec.WriteFailures
import LibCec.LibraryFrame
import LibCec.LibraryRegistration
import LibCec.LineTimeout
import LibCec.MaskRecord
import LibCec.TransmitRetries
import LibCec.StreamPath
import LibCec.AddressLookup
import LibCec.Announcement
import LibCec.SourceAgreement
import LibCec.Schemes.Erasure
import LibCec.PendingActivation
import LibCec.SettleTime
import LibCec.HandlerCast
import LibCec.ImageViewOnCheck
import LibCec.OperandReads
import LibCec.OperandFootprint
import LibCec.AbsentOperands
import LibCec.TvPower
import LibCec.OperandRefusal
import LibCec.VendorRefusal
import LibCec.RefusedOperands
import LibCec.Serialization
import LibCec.PortAddress
import LibCec.Schemes.FifoQueues
import LibCec.InputBuffer
import LibCec.PollBookkeeping
import LibCec.Acknowledgements
import LibCec.TypeChangeQueue
import LibCec.AddressChange
import LibCec.AddressRequest
import LibCec.AddressSet
import LibCec.ImxAddress
import LibCec.Edid
import LibCec.Schemes.Tokens
import LibCec.Schemes.HexText
import LibCec.CommandText
import LibCec.PowerUpRouting
import LibCec.RpiAddressLost
import LibCec.RpiRequests
import LibCec.Schemes.Debounce
import LibCec.LinuxAddress
import LibCec.ReceivePath
import LibCec.SerialPort
import LibCec.SerialReader
import LibCec.Schemes.SingleWriter
import LibCec.InformationExchange
import LibCec.InformationView
import LibCec.InformationNetwork
import LibCec.Schemes.MarkedFrames
import LibCec.TegraFrames
import LibCec.CallbackDelivery
import LibCec.Schemes.Handles
import LibCec.LinuxConnection
import LibCec.LibraryOpening
