import Mathlib.Data.List.Basic

/-!
# Node addresses

The address data the network module passes between the endpoint, the discovery services and the
engine: a node's public key, the relay it can be reached through and its direct socket addresses
(`iroh_net::NodeAddr`). iroh keeps the direct addresses in a `BTreeSet`; the model keeps the list
they are built from, in order, so an equality of lists here gives the equality of iroh's sets.
-/

namespace P2pandaNet.Address

/-- A node's identity, its 32-byte Ed25519 public key (`PublicKey`, `NodeId`). -/
structure NodeId where
  bytes : List UInt8
  size : bytes.length = 32
  deriving DecidableEq

inductive IpAddr where
  | v4 (bits : BitVec 32)
  | v6 (bits : BitVec 128)
  deriving DecidableEq, Repr

structure SocketAddr where
  ip : IpAddr
  port : UInt16
  deriving DecidableEq, Repr

/-- A relay server's URL; `port` is the port written in the URL, if any (`Url::port`). -/
structure RelayUrl where
  text : String
  port : Option UInt16
  deriving DecidableEq, Repr

/-- A relay server the node uses (`iroh_net::relay::RelayNode`). -/
structure RelayNode where
  url : RelayUrl
  stunOnly : Bool
  stunPort : UInt16
  deriving DecidableEq, Repr

structure NodeAddr where
  nodeId : NodeId
  relayUrl : Option RelayUrl
  directAddresses : List SocketAddr
  deriving DecidableEq

namespace NodeAddr

/-- `NodeAddr::new`: the bare identity, with no relay and no direct address. -/
def new (nodeId : NodeId) : NodeAddr := ⟨nodeId, none, []⟩

def withRelayUrl (a : NodeAddr) (url : RelayUrl) : NodeAddr := { a with relayUrl := some url }

def withDirectAddresses (a : NodeAddr) (addrs : List SocketAddr) : NodeAddr :=
  { a with directAddresses := addrs }

@[simp] theorem new_nodeId (n : NodeId) : (new n).nodeId = n := rfl
@[simp] theorem new_relayUrl (n : NodeId) : (new n).relayUrl = none := rfl
@[simp] theorem new_directAddresses (n : NodeId) : (new n).directAddresses = [] := rfl
@[simp] theorem withRelayUrl_nodeId (a : NodeAddr) (u : RelayUrl) :
    (a.withRelayUrl u).nodeId = a.nodeId := rfl
@[simp] theorem withRelayUrl_relayUrl (a : NodeAddr) (u : RelayUrl) :
    (a.withRelayUrl u).relayUrl = some u := rfl
@[simp] theorem withRelayUrl_directAddresses (a : NodeAddr) (u : RelayUrl) :
    (a.withRelayUrl u).directAddresses = a.directAddresses := rfl
@[simp] theorem withDirectAddresses_nodeId (a : NodeAddr) (s : List SocketAddr) :
    (a.withDirectAddresses s).nodeId = a.nodeId := rfl
@[simp] theorem withDirectAddresses_relayUrl (a : NodeAddr) (s : List SocketAddr) :
    (a.withDirectAddresses s).relayUrl = a.relayUrl := rfl
@[simp] theorem withDirectAddresses_directAddresses (a : NodeAddr) (s : List SocketAddr) :
    (a.withDirectAddresses s).directAddresses = s := rfl

end NodeAddr

end P2pandaNet.Address
