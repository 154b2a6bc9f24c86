import GMediaRender.Runs
import GMediaRender.UpdateLog
import GMediaRender.PrefixCode
import GMediaRender.EntityCode
import GMediaRender.AliasClosure
import GMediaRender.HeapBlock
import GMediaRender.LockOrder
import GMediaRender.OwnedHeap
import GMediaRender.XmlDoc
import GMediaRender.XmlReader
import GMediaRender.XmlText
import GMediaRender.VariableContainer
import GMediaRender.LastChangeStream
import GMediaRender.TransactionBatching
import GMediaRender.ThreadTotals
import GMediaRender.StartupBrackets
import GMediaRender.Subscription
import GMediaRender.XmlEscape
import GMediaRender.EventEscape
import GMediaRender.AttributeEscape
import GMediaRender.Webserver
import GMediaRender.HandleTable
import GMediaRender.WebSessions
import GMediaRender.StateVariables
import GMediaRender.NotificationTrace
import GMediaRender.ChangeLogger
import GMediaRender.UpnpTime
import GMediaRender.TimeFormat
import GMediaRender.TimeRoundTrip
import GMediaRender.OutputSilan
import GMediaRender.ReplyWaits
import GMediaRender.ActionRequest
import GMediaRender.EventHistory
import GMediaRender.EventReader
import GMediaRender.ControllerView
import GMediaRender.ControlView
import GMediaRender.ServiceIsolation
import GMediaRender.StoredSettings
import GMediaRender.UpnpTransport
import GMediaRender.SeekTargets
import GMediaRender.UpnpControl
import GMediaRender.ContainerMemory
import GMediaRender.ContainerRuns
import GMediaRender.UpnpDevice
import GMediaRender.ArgumentLookup
import GMediaRender.ErrorReports
import GMediaRender.LoggedValues
import GMediaRender.FailedActions
import GMediaRender.Signatures
import GMediaRender.ControlInvariants
import GMediaRender.TransportMemory
import GMediaRender.MemoryRefinement
import GMediaRender.RendererSystem
import GMediaRender.MemoryRuns
import GMediaRender.DeckModel
import GMediaRender.DeckRefinement
import GMediaRender.PlayedUri
import GMediaRender.PlayingState
import GMediaRender.StreamEnds
import GMediaRender.TransportValues
import GMediaRender.EndOfStream
import GMediaRender.TransportSteps
import GMediaRender.TransportInvariants
import GMediaRender.PublishedConstraints
import GMediaRender.ServiceDescription
import GMediaRender.DeviceDescription
import GMediaRender.RendererDescription
import GMediaRender.AdvertisedActions
import GMediaRender.PublishedTimes
import GMediaRender.StreamPairs
import GMediaRender.ResponseReads
import GMediaRender.OutputCalls
import GMediaRender.Watchdog
import GMediaRender.Amplifier
import GMediaRender.PlayerMessages
import GMediaRender.LockDiscipline
import GMediaRender.MimeTypes
import GMediaRender.ProtocolInfo
import GMediaRender.IrDecoder
import GMediaRender.IrFrames
import GMediaRender.IrRepeats
import GMediaRender.IrSilence
import GMediaRender.Waveforms
import GMediaRender.LircSilan
import GMediaRender.DeferredWork
import GMediaRender.KeyReports
import GMediaRender.RemoteControl
