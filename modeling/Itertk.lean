import Itertk.Client.SensorTable
import Itertk.Client.ReadRange
import Itertk.Client.StaleBytes
import Itertk.Client.Rejection
import Itertk.Client.UartRoundTrip
import Itertk.Client.Segmentation
import Itertk.Itsip.Receivers
import Itertk.Web.SerialConfig
import Itertk.Web.Authorization
import Itertk.Web.Framing
import Itertk.Web.ReadOnly
import Itertk.Web.UniqueNames
import Itertk.Web.RootAuthority
import Itertk.Web.PortRights
import Itertk.Web.Identity
import Itertk.Web.Outputs
import Itertk.Web.Connections
import Itertk.Daemon.Persistence
import Itertk.Client.PollMode
import Itertk.Threads.Reconnect
import Itertk.Threads.Heartbeat
import Itertk.Threads.Durability
import Itertk.Threads.SessionMatch
import Itertk.Threads.DataSockets
import Itertk.Cgi.Session
import Itertk.Daemon.LineMode
import Itertk.Web.LineAgreement
import Itertk.Client.UartFailure
import Itertk.Client.DeviceAttr
import Itertk.Discovery.Addressed
import Itertk.Discovery.RoundTrip
import Itertk.Gpio.Alarm
import Itertk.Gpio.PinReads
import Itertk.Client.UartFrame
import Itertk.Client.PortIndices
import Itertk.Client.AlarmReport
import Itertk.Client.RecvBounds
import Itertk.Client.PortSymmetry
import Itertk.Client.ReplyForm
import Itertk.Client.ReplyBounds
import Itertk.Daemon.Terminal
import Itertk.Web.TableIndices
import Itertk.Web.ConfStatus
import Itertk.Web.Answers
import Itertk.Web.Login
import Itertk.Itsip.RecvLoop
import Itertk.Itsip.HalfRead
import Itertk.Dns.Query
import Itertk.Dns.ReadBounds
import Itertk.Dns.Answers
import Itertk.Address.IpText
import Itertk.Cgi.NetForm
import Itertk.Discovery.Omitted
import Itertk.Client.WriteLoop
import Itertk.Cgi.Upgrade
import Itertk.Client.ConnectServer
import Itertk.Daemon.FileWrite
import Itertk.Itsip.Clock
import Itertk.Threads.SlotAbstraction
import Itertk.Web.FactoryReset
import Itertk.Base.Ring
import Itertk.Base.Search
import Itertk.Cgi.UrlEncoded
import Itertk.Cgi.PutBack
import Itertk.Cgi.Multipart
import Itertk.Cgi.SentForm
import Itertk.Cgi.Request
import Itertk.Base.Registers
import Itertk.Itsip.Calls
import Itertk.Web.Exchange
import Itertk.Base.Controls
import Itertk.Cgi.Forms
import Itertk.Cgi.Pages
import Itertk.Web.Browsers
import Itertk.Base.Feed
import Itertk.Base.Paths
import Itertk.Base.Progress
import Itertk.Boa.Delivery
import Itertk.Boa.Environ
import Itertk.Boa.Post
