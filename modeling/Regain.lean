import Regain.Hub.Safety.Permission
import Regain.Hub.Source.AlpacaRun
import Regain.Hub.Camera.JsonImageAgreement
import Regain.Hub.Camera.SupervisorRun
import Regain.Hub.Coordination.FocuserRun
import Regain.Hub.Coordination.Calibration
import Regain.Hub.Coordination.CameraRun
import Regain.Hub.Coordination.HostedRun
import Regain.Hub.Runtime.ServiceRun
import Regain.Hub.Ipc.Agreement
import Regain.Hub.Configuration.StoreRun
import Regain.Hub.Weather.Diagnostic
import Regain.Hub.Weather.Expiry
import Regain.Hub.Source.SamplingRun
import Regain.Hub.Typed.Cached
import Regain.Core.ManagedWhiteBalance
import Regain.Core.Thermal
import Regain.Core.CoolingHold
import Regain.Core.CoolingOutcomes
import Regain.Core.UsbPeripheralsFence
import Regain.Core.ControlOutcomes
import Regain.Core.ContinuousDelivery
import Regain.Zwo.HostTimedFrame
import Regain.Zwo.CoolingQueueFence
import Regain.Qhy.WheelRun
import Regain.Qhy.CleanupRun
import Regain.Zwo.DirectServerLatch
import Regain.Hub.Source.Leases
import Regain.Hub.Source.ScheduleRun
import Regain.Mount.Monitor
import Regain.Hub.Resume.Fence
import Regain.Zwo.LogicalAngle
import Regain.Alpaca.PublisherOutcomes
import Regain.Alpaca.Camera.Run
import Regain.Zwo.Descriptors
import Regain.DeepSkyDad.PanelRun
import Regain.Wanderer.TilterRun
import Regain.Zwo.ReadoutSafe
import Regain.Zwo.HostSettingsRun
import Regain.Zwo.BayerVideoRun
import Regain.Zwo.AccessoryRun
import Regain.Zwo.DefectSpread
import Regain.Qhy.Crop
import Regain.Qhy.Framing
import Regain.Transport.UsbTarget
import Regain.Hub.Camera.Reservations
import Regain.Alpaca.ImageStream
