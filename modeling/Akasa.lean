import Akasa.Mqtt
import Akasa.V3.Session
import Akasa.HookDispatch
import Akasa.V3.HandlePacket
import Akasa.V3.OnlineLoop
import Akasa.V3.Online
import Akasa.V3.Offline
import Akasa.HookService.Task
import Akasa.HookService.World
import Akasa.Tests.MockConn
import Akasa.V5.Session
