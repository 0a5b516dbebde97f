import P2pandaNet.Address
import P2pandaNet.Select
import P2pandaNet.Children
import P2pandaNet.Supervisor
import P2pandaNet.Runs
import P2pandaNet.Faults
import P2pandaNet.Wakes
import P2pandaNet.Builder
import P2pandaNet.SyncSession
import P2pandaNet.PingPong
import P2pandaNet.Dummy
