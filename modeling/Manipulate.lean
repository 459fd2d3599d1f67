import Manipulate.Iter
import Manipulate.Memory
import Manipulate.Memory.RoundTrip
import Manipulate.Memory.Heap
import Manipulate.Memory.Refinement
import Manipulate.Mongo
import Manipulate.Websocket.State
import Manipulate.Websocket.Step
import Manipulate.Websocket.Registry
import Manipulate.Websocket.Lifecycle
import Manipulate.Websocket.Subscribe
import Manipulate.Websocket.Handlers
import Manipulate.Websocket.Url
import Manipulate.Websocket.Crud
