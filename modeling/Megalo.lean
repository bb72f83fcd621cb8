import Megalo.Session.Grace
import Megalo.Slave.Life
import Megalo.Redis.Linearizable
import Megalo.Redis.Stream
import Megalo.Redis.Layout
import Megalo.Controller.Shutdown
import Megalo.Frontend.Playing
import Megalo.Cluster.Identity
import Megalo.Cluster.Absorbing
import Megalo.Cluster.Finalize
import Megalo.Cluster.Farewell
import Megalo.Cluster.Counters
import Megalo.Cluster.Registration
import Megalo.Master.Agreement
import Megalo.Master.Delivery
import Megalo.Cluster.Targets
import Megalo.Slave.Death
import Megalo.Frontend.Report
import Megalo.Frontend.Restored
import Megalo.Frontend.Sockets
import Megalo.Frontend.Metrics
import Megalo.Frontend.Hydration
import Megalo.Scene.Grabbed
import Megalo.Scene.Reported
import Megalo.Auth.Signing
import Megalo.Auth.Gate
import Megalo.Proto.SlaveState
import Megalo.Slave.Config
import Megalo.Slave.Process
import Megalo.Scene.Cooldown
import Megalo.Scene.Timing
import Megalo.Scene.Board
import Megalo.Scene.Desktop
import Megalo.Http.Handlers
import Megalo.Http.Session
import Megalo.Http.Answers
import Megalo.Controller.Fleet
import Megalo.Frontend.Markup
import Megalo.Library.Json
import Megalo.Library.JsonStruct
import Megalo.Wire.Records
