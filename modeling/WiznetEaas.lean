import WiznetEaas.FlashAreas
import WiznetEaas.BootLoader
import WiznetEaas.FirmwareInstall
import WiznetEaas.OtaFidelity
import WiznetEaas.CStrings
import WiznetEaas.Crc16
import WiznetEaas.DeviceCommon
import WiznetEaas.HttpInterface
import WiznetEaas.FirmwareArming
import WiznetEaas.MqttSession
import WiznetEaas.SessionOwnership
import WiznetEaas.MqttMessages
import WiznetEaas.Polling
import WiznetEaas.FleetProvisioning
import WiznetEaas.ProvisionedRecord
import WiznetEaas.JobList
import WiznetEaas.JobMessages
import WiznetEaas.JobProcedures
import WiznetEaas.JobDispatch
import WiznetEaas.JobCalls
import WiznetEaas.JobQueue
import WiznetEaas.JobStatus
import WiznetEaas.JobsTask
import WiznetEaas.JobReplies
import WiznetEaas.Timeouts
import WiznetEaas.CBuffers
import WiznetEaas.HttpRestore
import WiznetEaas.JobBuffers
import WiznetEaas.SubscriptionTable
import WiznetEaas.OtaVerdict
import WiznetEaas.OtaArrivals
import WiznetEaas.OtaConfinement
import WiznetEaas.FlashStores
import WiznetEaas.JobRecord
import WiznetEaas.TaskFlags
import WiznetEaas.RefreshEpisodes
import WiznetEaas.IdleTask
import WiznetEaas.TaskSystem
import WiznetEaas.StartSignal
import WiznetEaas.SocketSharing
import WiznetEaas.AreaCopies
import WiznetEaas.Crc16CcitMaker
import WiznetEaas.BurstErrors
import WiznetEaas.JobSlots
import WiznetEaas.DuplicateJobs
import WiznetEaas.FirmwareVersion
import WiznetEaas.Numerals
import WiznetEaas.IpAddress
import WiznetEaas.OtaParams
import WiznetEaas.Tokens
import WiznetEaas.UnreadComponents
import WiznetEaas.SessionChanges
import WiznetEaas.UrlParser
import WiznetEaas.UrlSafety
import WiznetEaas.FlashRounding
import WiznetEaas.InstallConfinement
import WiznetEaas.BootConsole
import WiznetEaas.TopicDispatch
import WiznetEaas.RegistrationToken
import WiznetEaas.CFormat
import WiznetEaas.FormattedStrings
import WiznetEaas.ClockReadings
import WiznetEaas.PollingPace
import WiznetEaas.DhcpRenewal
import WiznetEaas.TlsContexts
import WiznetEaas.JsonText
import WiznetEaas.JsonTokens
import WiznetEaas.StatusPayload
import WiznetEaas.PulseDivider
import WiznetEaas.SecondTick
import WiznetEaas.Restarts
import WiznetEaas.PowerLoss
import WiznetEaas.UpdateAtomicity
import WiznetEaas.StartUp
import WiznetEaas.PersistedFlags
import WiznetEaas.Recovery
import WiznetEaas.SystemRecovery
import WiznetEaas.OfferQueues
import WiznetEaas.JobOrder
import WiznetEaas.TimedLoops
import WiznetEaas.FirmwareWaits
import WiznetEaas.ReleasedImage
import WiznetEaas.UpdateHistory
import WiznetEaas.RebootRequests
import WiznetEaas.JsonRequests
import WiznetEaas.ProvisioningRequests
