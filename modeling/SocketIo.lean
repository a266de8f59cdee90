import SocketIo.Text
import SocketIo.Base64
import SocketIo.Collections
import SocketIo.Server.Sid
import SocketIo.Server.Tables
import SocketIo.Server.Machine
import SocketIo.Server.Lookup
import SocketIo.Server.Fresh
import SocketIo.Server.Members
import SocketIo.Client.Client
import SocketIo.Engine.Polling
