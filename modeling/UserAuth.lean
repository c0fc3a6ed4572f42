import UserAuth.Lib.Mealy
import UserAuth.Common.Defines
import UserAuth.Lib.LittleEndian
import UserAuth.Common.Attributes
import UserAuth.Pool.Context
import UserAuth.Pool.ContextPool
import UserAuth.Lib.Emplace
import UserAuth.Pool.Promotion
import UserAuth.Pool.PoolRun
import UserAuth.Pool.DialogTakeover
import UserAuth.Base.FiniteStateMachine
import UserAuth.Schedule.ScheduleNode
import UserAuth.Engine.EngineReply
import UserAuth.Contexts.SimpleAuth
import UserAuth.Contexts.ContextFactory
import UserAuth.Contexts.BaseContext
import UserAuth.Contexts.SudoAuth
import UserAuth.Remote.RemoteMessage
import UserAuth.Remote.RemoteAuthInvoker
import UserAuth.Widget.WidgetContext
import UserAuth.Widget.WidgetLifecycle
import UserAuth.Widget.WidgetToken
import UserAuth.Widget.WidgetLaunch
import UserAuth.Credential.CredentialUpdated
import UserAuth.Credential.CredentialContext
import UserAuth.Credential.EnrollContext
import UserAuth.Credential.DeleteContext
import UserAuth.Credential.Outcome
import UserAuth.Contexts.ContextObject
import UserAuth.Pool.Handshake
import UserAuth.Pool.StartCancel
import UserAuth.Pool.HandshakeRun
import UserAuth.Pool.Fixpoint
import UserAuth.Pool.Fairness
import UserAuth.Lib.FirstMatch
import UserAuth.Pool.Conservation
import UserAuth.Remote.ConnectListener
import UserAuth.Remote.RemoteExecutorStub
import UserAuth.Remote.RemoteService
import UserAuth.Remote.BeginExecute
import UserAuth.Remote.PeerIsolation
import UserAuth.Remote.RemoteSession
import UserAuth.Remote.SessionIsolation
import UserAuth.Executor.CoAuthService
import UserAuth.Executor.Registration
import UserAuth.Schedule.ResourceListener
import UserAuth.Schedule.ExecutorLoss
import UserAuth.Engine.EngineSession
import UserAuth.Session.SessionObject
import UserAuth.Session.SessionLeak
import UserAuth.Session.CrossCancel
import UserAuth.Common.AttributeCodec
import UserAuth.Common.TypedValue
import UserAuth.Common.SetterLimits
import UserAuth.Contexts.SudoRun
import UserAuth.Schedule.ScheduleRun
import UserAuth.Schedule.ScheduleSafety
import UserAuth.Schedule.ScheduleProgress
import UserAuth.Schedule.ScheduleEnding
import UserAuth.Lib.Callers
import UserAuth.Remote.InvokerLifetime
import UserAuth.Remote.RemoteAuth
import UserAuth.Remote.RemoteAuthLifetime
import UserAuth.Widget.WidgetChildren
import UserAuth.Widget.WidgetRelease
import UserAuth.Lib.TreeErase
import UserAuth.Widget.WidgetRequests
import UserAuth.Widget.WidgetStarts
import UserAuth.Widget.WidgetSuccess
import UserAuth.Widget.WidgetTasks
import UserAuth.Widget.WidgetServed
import UserAuth.Remote.SoftBusMessage
import UserAuth.Remote.ListenerRun
import UserAuth.Lib.TwinMaps
import UserAuth.Remote.SoftBusManager
import UserAuth.Remote.SocketMaps
import UserAuth.Remote.BaseSocket
import UserAuth.Remote.RequestRun
import UserAuth.Remote.RequestStages
import UserAuth.Remote.RequestAck
import UserAuth.Remote.ServerSocket
import UserAuth.Remote.AckIsolation
import UserAuth.Common.AttributesArray
import UserAuth.Remote.RemoteMsgUtil
import UserAuth.Executor.NodeReferences
import UserAuth.Base.EventQueue
import UserAuth.Contexts.AuthUser
import UserAuth.Credential.PinUpdateNotice
import UserAuth.Session.UserRecognition
import UserAuth.Remote.RemoteExecutions
import UserAuth.Schedule.ResultAttribution
import UserAuth.Widget.WidgetClient
import UserAuth.Widget.NoticeIsolation
import UserAuth.Engine.EngineStateManager
import UserAuth.Base.ThreadHandlerManager
import UserAuth.Framework.EventListenerCallbackManager
import UserAuth.Base.DeferredDeletion
import UserAuth.Framework.AsyncCommand
import UserAuth.Framework.CommandFinish
import UserAuth.Lib.Tabulation
import UserAuth.Widget.AuthWidget
import UserAuth.Widget.WidgetTypes
import UserAuth.Framework.Driver
import UserAuth.Common.AttributeWire
import UserAuth.Framework.CallbackManager
import UserAuth.Framework.DriverManager
import UserAuth.Framework.ExecutorProperties
import UserAuth.Framework.ExecutorAnswers
import UserAuth.Framework.ScheduleBegin
import UserAuth.Session.RecognitionListeners
import UserAuth.Executor.ResourceNodeUtils
import UserAuth.Executor.RiskEventManager
import UserAuth.Executor.RiskEvents
import UserAuth.Executor.TemplateCacheManager
import UserAuth.Executor.TemplateCaches
import UserAuth.Engine.LoadMode
import UserAuth.Engine.LoadModeRun
import UserAuth.Credential.EnrollExclusion
import UserAuth.Credential.UserDeletionRun
