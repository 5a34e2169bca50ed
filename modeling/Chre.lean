import Chre.Wifi.RequestManager
import Chre.Wifi.ScanMonitor
import Chre.Wifi.ErrorPaths
import Chre.Sensors.SensorRequest
import Chre.Sensors.SensorType
import Chre.Platform.Slpi.PlatformSensor
import Chre.Platform.Slpi.Discovery
import Chre.Platform.Slpi.Indication
import Chre.EventLoop.Model
import Chre.EventLoop.Frame
import Chre.EventLoop.Steps
import Chre.EventLoop.Accounting
import Chre.EventLoop.Order
import Chre.EventLoop.Drain
import Chre.EventLoop.Lifecycle
import Chre.EventLoop.Unload
import Chre.EventLoop.Run
import Chre.EventLoop.RunOrder
import Chre.EventLoop.AppIds
import Chre.EventLoop.Rounds
import Chre.EventLoop.Shutdown
import Chre.EventLoop.EndOrder
import Chre.EventLoop.Teardown
import Chre.Host.SocketClient
import Chre.Host.ReceiveThread
import Chre.Host.Calls
import Chre.Host.Send
