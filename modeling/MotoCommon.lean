import MotoCommon.ConcProg
import MotoCommon.ConcInterleave
import MotoCommon.ConcLocks
import MotoCommon.Containers
import MotoCommon.AdpfTypes
import MotoCommon.AdpfConfig
import MotoCommon.UClampVoter
import MotoCommon.SessionTaskMap
import MotoCommon.SessionTaskMapLinks
import MotoCommon.SessionTaskMapViews
import MotoCommon.SessionRecords
import MotoCommon.GpuCalculationHelpers
import MotoCommon.World
import MotoCommon.PowerSessionManager
import MotoCommon.PowerHintSession
import MotoCommon.DeadThreads
import MotoCommon.ManagerSections
import MotoCommon.Actions
import MotoCommon.TimeoutProtocol
import MotoCommon.RunRules
import MotoCommon.SessionDemands
import MotoCommon.CpuBoost
import MotoCommon.LockDiscipline
import MotoCommon.ExpiryRace
import MotoCommon.LostBoost
import MotoCommon.BackgroundWorker
import MotoCommon.WorkerDelivery
import MotoCommon.GpuCapacity
import MotoCommon.GpuBoost
import MotoCommon.SessionAgreement
import MotoCommon.HeuristicRecords
import MotoCommon.CappedRange
import MotoCommon.SessionOrder
import MotoCommon.TaskProfiles
import MotoCommon.SessionStatus
import MotoCommon.BoostHint
import MotoCommon.BoostHintRuns
import MotoCommon.RequeueTimer
import MotoCommon.SingleTimeout
import MotoCommon.GpuCapacityNode
import MotoCommon.InteractionHandler
import MotoCommon.LabelledRuns
import MotoCommon.InteractionHint
import MotoCommon.InteractionCoverage
import MotoCommon.WorkerPool
import MotoCommon.PowerModes
import MotoCommon.SessionTaskMapExact
import MotoCommon.UclampLoop
import MotoCommon.EffectiveClamp
import MotoCommon.RecordWindow
import MotoCommon.PidLoop
import MotoCommon.PidDivisors
import MotoCommon.RefreshProfile
import MotoCommon.Pthread
import MotoCommon.UsbThreads
import MotoCommon.CString
import MotoCommon.UeventScan
import MotoCommon.UsbRoles
import MotoCommon.UsbPorts
import MotoCommon.UsbPortQueries
import MotoCommon.Lights
import MotoCommon.UsbGadget
import MotoCommon.GpuAttribution
import MotoCommon.SplitReads
import MotoCommon.GpuFrequency
import MotoCommon.ControlVariable
import MotoCommon.HeuristicDecision
import MotoCommon.VoteWindow
import MotoCommon.TouchFirmware
import MotoCommon.PthreadLogic
import MotoCommon.PthreadSim
import MotoCommon.UsbRoleSwitch
import MotoCommon.HidlPower
import MotoCommon.HidlRestart
import MotoCommon.CText
import MotoCommon.PowerStats
import MotoCommon.RwLock
import MotoCommon.WorkerLifetime
import MotoCommon.Histories
import MotoCommon.TouchUpgrade
import MotoCommon.TouchBoots
import MotoCommon.UsbSettings
