import Go2Navigation.Numeric.Double
import Go2Navigation.Foundation.Reactor
import Go2Navigation.Bridge.Command
import Go2Navigation.Bridge.History
import Go2Navigation.Bridge.Watchdog
import Go2Navigation.Bridge.ClockSteps
import Go2Navigation.Bridge.Velocity
import Go2Navigation.Bridge.FailedStop
import Go2Navigation.Bridge.Shutdown
import Go2Navigation.Attitude.OdomTf
import Go2Navigation.Attitude.Filter
import Go2Navigation.Attitude.Documented
import Go2Navigation.Attitude.Agreement
import Go2Navigation.Cloud.PointCloud
import Go2Navigation.Cloud.Preprocessor
import Go2Navigation.Foundation.Records
import Go2Navigation.Cloud.RingFilter
import Go2Navigation.Attitude.AutoMode
import Go2Navigation.Bags.Restamp
import Go2Navigation.Attitude.Lifted
import Go2Navigation.Attitude.UnitRotation
import Go2Navigation.Bridge.Layout
import Go2Navigation.Cloud.Reads
import Go2Navigation.Cloud.Thresholds
import Go2Navigation.Cloud.Composition
import Go2Navigation.Attitude.Calibration
import Go2Navigation.Geometry.Arc
import Go2Navigation.Attitude.ShorterArc
import Go2Navigation.Attitude.Poisoning
import Go2Navigation.Bridge.Serial
import Go2Navigation.Attitude.Forgetting
import Go2Navigation.Bridge.Cadence
import Go2Navigation.Robot.MotorCrc
import Go2Navigation.Lidar.Ptc
import Go2Navigation.Lidar.Barrier
import Go2Navigation.Lidar.FrameSplit
import Go2Navigation.Foundation.Circular
import Go2Navigation.Foundation.Monitor
import Go2Navigation.Foundation.Slice
import Go2Navigation.Lidar.BlockingRing
import Go2Navigation.Lidar.MappedFile
import Go2Navigation.Lidar.PacketLoss
import Go2Navigation.Lidar.PcapSaver
import Go2Navigation.Lidar.PcapSource
import Go2Navigation.Lidar.Replay
import Go2Navigation.Lidar.Wakeups
