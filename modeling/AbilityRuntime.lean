import AbilityRuntime.AbilityCache.Consistency
import AbilityRuntime.AbilityRecord.ResultCallers
import AbilityRuntime.AgentCards.CardRuns
import AbilityRuntime.AgentConnect.HostDisconnectRuns
import AbilityRuntime.AgentConnect.PreflightRuns
import AbilityRuntime.AppExitReason.ReasonDeletion
import AbilityRuntime.AppExitReason.ReasonRounds
import AbilityRuntime.AppExitReason.SignalReasons
import AbilityRuntime.AppFreeze.Watchdog
import AbilityRuntime.AppRunning.AppDebugManager
import AbilityRuntime.AppRunning.ConfigurationRuns
import AbilityRuntime.AppRunning.FocusState
import AbilityRuntime.AppRunning.QuickFixReplies
import AbilityRuntime.AppRunning.SpecifiedResponses
import AbilityRuntime.AppRunning.Transitions
import AbilityRuntime.AppRunning.UserConfigurationRuns
import AbilityRuntime.AppRunning.WindowBatches
import AbilityRuntime.AppState.ObserverRuns
import AbilityRuntime.AutoStartup.AutoStartupRuns
import AbilityRuntime.CliFunction.FunctionRuns
import AbilityRuntime.CliTool.EventDispatcherRuns
import AbilityRuntime.CliTool.InputDelivery
import AbilityRuntime.CliTool.SessionRecord
import AbilityRuntime.CliTool.ToolUtil
import AbilityRuntime.ClientConnection.ConnectionOrder
import AbilityRuntime.ClientConnection.ConnectionRuns
import AbilityRuntime.Connection.ConnectResults
import AbilityRuntime.Connection.ConnectionEvents
import AbilityRuntime.Connection.DataAbilityConnections
import AbilityRuntime.Connection.LoadAbilityQueue
import AbilityRuntime.DataObs.NotifyChange
import AbilityRuntime.DataObs.RegistrationLimits
import AbilityRuntime.DeepLink.ReservedLinks
import AbilityRuntime.DialogSession.DialogSessionManager
import AbilityRuntime.ExitReason.RecoverInfoRuns
import AbilityRuntime.FreeInstall.InstallRuns
import AbilityRuntime.InsightIntent.IntentCacheRuns
import AbilityRuntime.KeepAlive.PriorityRuns
import AbilityRuntime.Kiosk.KioskRuns
import AbilityRuntime.LocalCall.CallContainer
import AbilityRuntime.LocalCall.CallRuns
import AbilityRuntime.Mission.MissionIds
import AbilityRuntime.Mission.MissionListRuns
import AbilityRuntime.Mission.MissionTimes
import AbilityRuntime.Mission.MissionUpdates
import AbilityRuntime.Mission.TaskDataPersistenceMgr
import AbilityRuntime.ModObjDispatcher.MetadataClosed
import AbilityRuntime.ModObjDispatcher.StructRegistry
import AbilityRuntime.PendingWant.AgentCounts
import AbilityRuntime.ProcessCache.CacheRuns
import AbilityRuntime.RateLimit.Windows
import AbilityRuntime.SceneBoard.BatchRuns
import AbilityRuntime.SceneBoard.ByCallCache
import AbilityRuntime.SceneBoard.KilledRecords
import AbilityRuntime.SceneBoard.PendingStates
import AbilityRuntime.SceneBoard.QueueRuns
import AbilityRuntime.ServiceMap.KeyRuns
import AbilityRuntime.Skill.SkillExecuteRuns
import AbilityRuntime.Skill.SkillParamRoundTrip
import AbilityRuntime.Startup.ManagerRuns
import AbilityRuntime.Startup.TaskCollection
import AbilityRuntime.TaskHandler.EventHandlerWrap
import AbilityRuntime.TaskHandler.TaskHandlerWrap
import AbilityRuntime.UIExtension.AgentUILaunches
import AbilityRuntime.UIExtension.CallerTokens
import AbilityRuntime.UIExtension.PreloadRuns
import AbilityRuntime.UIExtension.RecordIdRuns
import AbilityRuntime.UIExtension.StartingRecords
import AbilityRuntime.UIExtension.UIExtensionRuns
import AbilityRuntime.UriPermission.GrantModes
import AbilityRuntime.UriPermission.ManualRevokes
import AbilityRuntime.UriPermission.RawDataCodec
import AbilityRuntime.UriPermission.Runs
