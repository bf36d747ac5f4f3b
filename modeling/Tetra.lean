import Tetra.Lib.Grid
import Tetra.Lib.Approach
import Tetra.Lib.SignMagnitude
import Tetra.Lib.Decimal
import Tetra.Lib.ReplyQueue
import Tetra.Lib.FixedPoint
import Tetra.Serial.DriveStatus
import Tetra.Serial.WheelVelocities
import Tetra.Serial.OdometryFormat
import Tetra.Serial.Ports
import Tetra.Serial.Gpio
import Tetra.Serial.Fields
import Tetra.Serial.Common
import Tetra.Serial.Frames
import Tetra.Serial.Command
import Tetra.Serial.Drive
import Tetra.Serial.FixedLength
import Tetra.Serial.Power
import Tetra.Serial.Encoding
import Tetra.Serial.Parameters
import Tetra.Serial.Odometry
import Tetra.Serial.Counted
import Tetra.Serial.Polls
import Tetra.Serial.Bounds
import Tetra.Serial.Calls
import Tetra.Serial.Agreement
import Tetra.Serial.Handle
import Tetra.Interface.PowerCheck
import Tetra.Interface.Services
import Tetra.Interface.Board
import Tetra.Drive.Interlock
import Tetra.Drive.MoveMode
import Tetra.Drive.Ramp
import Tetra.Drive.Services
import Tetra.Wall.Bounds
import Tetra.Wall.Coverage
import Tetra.Wall.DenseGrid
import Tetra.Wall.Published
import Tetra.Service.Motion
import Tetra.Service.Goals
import Tetra.Service.HomeDocking
import Tetra.Service.Decisions
import Tetra.Service.TagRecord
import Tetra.Service.YawCorrection
import Tetra.Service.MarkerTimeout
import Tetra.Service.MarkerChoice
import Tetra.Service.Stops
import Tetra.Service.SpeedLimits
import Tetra.Service.ReturnHome
import Tetra.Service.LoadedLocation
import Tetra.Service.SavedLocation
import Tetra.Service.Independence
import Tetra.Service.DockingRun
import Tetra.Lib.Scanner
import Tetra.Web.Frame
import Tetra.Web.FrameFormat
import Tetra.Web.Messages
import Tetra.Web.Delivery
import Tetra.Web.Request
import Tetra.Web.RequestFormat
import Tetra.Web.Uri
import Tetra.Web.Handlers
import Tetra.Web.Connection
import Tetra.Web.Multipart
import Tetra.Lidar.Channels
import Tetra.Lidar.Scans
import Tetra.Camera.ImuPublisher
import Tetra.Lib.Float64
import Tetra.Lib.Interpolation
import Tetra.Camera.ImuInterpolation
import Tetra.Interface.StatusLights
import Tetra.Camera.Monitoring
import Tetra.Camera.QosParameters
import Tetra.Service.CostmapReset
import Tetra.Web.VideoServer
