import Dnp3.Library.Scanner
import Dnp3.Library.Memory
import Dnp3.Library.Codec
import Dnp3.Library.Ieee754
import Dnp3.Library.Fill
import Dnp3.Library.Tally
import Dnp3.Library.Runs
import Dnp3.Link.Crc
import Dnp3.Link.Frame
import Dnp3.Link.Parser
import Dnp3.Link.ParserScan
import Dnp3.App.GroupVariation
import Dnp3.App.Measurements
import Dnp3.App.Objects
import Dnp3.App.IINField
import Dnp3.App.HeaderWriter
import Dnp3.App.Parser
import Dnp3.App.WrittenHeader
import Dnp3.App.RoundTrip
import Dnp3.App.HeaderRoom
import Dnp3.App.Decode
import Dnp3.Openpal.LinkedList
import Dnp3.Outstation.EventCount
import Dnp3.Outstation.SOERecord
import Dnp3.Outstation.EventWriter
import Dnp3.Outstation.EventBuffer
import Dnp3.Outstation.EventCounts
import Dnp3.Outstation.EventSelection
import Dnp3.Outstation.Cell
import Dnp3.Outstation.DatabaseBuffers
import Dnp3.Outstation.StaticLoad
import Dnp3.Outstation.StaticRead
import Dnp3.Outstation.StaticSelection
import Dnp3.Outstation.StaticResponse
import Dnp3.App.APDUHandler
import Dnp3.Outstation.AssignClass
import Dnp3.App.ParsedHeaders
import Dnp3.Master.MeasurementHandler
import Dnp3.Outstation.EventLoad
import Dnp3.App.APDUHeader
import Dnp3.Outstation.RequestHandlers
import Dnp3.Outstation.OutstationContext
import Dnp3.Outstation.OutstationCases
import Dnp3.Outstation.RepeatedRequests
import Dnp3.Outstation.ConfirmTimeout
import Dnp3.Outstation.DeferredRequests
import Dnp3.Outstation.SelectBeforeOperate
import Dnp3.Outstation.ConfirmedEvents
import Dnp3.Outstation.LoadedFragments
import Dnp3.Outstation.ReadResponses
import Dnp3.Outstation.ReadRuns
import Dnp3.Library.RunningBest
import Dnp3.Master.MasterScheduler
import Dnp3.Transport.TransportChannels
import Dnp3.Transport.Reassembly
import Dnp3.Transport.Segmentation
import Dnp3.Link.Format
import Dnp3.Asiodnp3.LinkLayerRouter
import Dnp3.Asiodnp3.RouterSessions
import Dnp3.Master.MultidropTaskLock
import Dnp3.App.HandledParser
import Dnp3.App.CollectionBounds
import Dnp3.App.HandledHeaders
import Dnp3.App.ParserPasses
import Dnp3.App.APDUBuilders
import Dnp3.Master.CommandSet
import Dnp3.Master.MasterTask
import Dnp3.Master.MasterContext
import Dnp3.Master.MasterMoves
import Dnp3.Master.MasterSettled
import Dnp3.Master.ConfirmSessions
import Dnp3.Master.TaskDemands
import Dnp3.Master.AdhocTasks
import Dnp3.Master.TaskStarts
import Dnp3.Master.TaskSession
import Dnp3.App.WrittenFront
import Dnp3.Master.TaskRequests
import Dnp3.Master.SessionRuns
import Dnp3.Master.PollAcceptance
import Dnp3.Master.CommandEchoes
import Dnp3.Master.SelectedCommands
import Dnp3.Outstation.EventOrder
import Dnp3.Openpal.LinkedNodes
import Dnp3.Outstation.IndexSearch
import Dnp3.Outstation.OverflowIndication
import Dnp3.Master.StartTimeouts
import Dnp3.App.PrefixedRoom
import Dnp3.Outstation.CommandEcho
import Dnp3.Outstation.SelectArming
import Dnp3.App.Group120
import Dnp3.App.FreeFormat
import Dnp3.Library.CyclicCode
import Dnp3.Link.CrcBursts
import Dnp3.Link.ParserLoops
import Dnp3.Openpal.ListCalls
import Dnp3.Library.OrderedMap
import Dnp3.Secauth.OutstationUserDatabase
import Dnp3.Secauth.SessionStore
import Dnp3.Outstation.Transmissions
import Dnp3.Link.LinkContext
import Dnp3.Link.LinkMoves
import Dnp3.Link.LinkHandlers
import Dnp3.Link.TransmitBuffers
import Dnp3.Link.SentMessages
import Dnp3.Link.ReportedStatus
import Dnp3.Link.KeepAlive
import Dnp3.Asiodnp3.ContextSessions
import Dnp3.Secauth.OutstationSecurity
import Dnp3.Outstation.AnsweredRequests
import Dnp3.Secauth.OutstationAuthContext
import Dnp3.Secauth.OutstationAuthMoves
import Dnp3.Secauth.AuthenticatedRequests
import Dnp3.Secauth.SessionKeysInUse
import Dnp3.Link.PassedData
import Dnp3.Transport.Conversation
import Dnp3.Transport.TransportLayer
import Dnp3.Transport.TransportStack
import Dnp3.Secauth.AuthTransmissions
