import YoloUno.Lib.Runs
import YoloUno.Lib.LineDiscipline
import YoloUno.Lib.Numeral
import YoloUno.Lib.Counter
import YoloUno.Lib.Terminal
import YoloUno.Lib.Keyed
import YoloUno.Lib.Crc
import YoloUno.Lib.Json
import YoloUno.Arduino.WString
import YoloUno.Power.Board
import YoloUno.Power.Task
import YoloUno.Power.Command
import YoloUno.Power.Accepted
import YoloUno.Power.SleepTime
import YoloUno.Power.Editor
import YoloUno.Power.Leds
import YoloUno.Power.BootCount
import YoloUno.Power.Screen
import YoloUno.Sensor.Dht20
import YoloUno.Sensor.Monitor
import YoloUno.Dashboard.Page
import YoloUno.Dashboard.RelayState
import YoloUno.Power.Frame
import YoloUno.Power.Console
import YoloUno.Dashboard.Picked
import YoloUno.Dashboard.Connection
import YoloUno.Dashboard.Circuit
import YoloUno.Sensor.Held
import YoloUno.Sensor.Checksum
import YoloUno.Sensor.Pace
import YoloUno.Sensor.Bus
import YoloUno.Dashboard.Retry
import YoloUno.Dashboard.Wire
import YoloUno.Dashboard.Panel
import YoloUno.Dashboard.Whole
import YoloUno.Dashboard.Remote
import YoloUno.Dashboard.Confirmed
