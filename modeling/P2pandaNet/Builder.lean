import P2pandaNet.Children

/-!
# `NetworkBuilder` and `build`

The builder collects the node's configuration; `build` binds the endpoint, registers the gossip
and sync protocols next to the custom ones, tells the endpoint which ALPNs to accept, spawns the
supervisor, waits for a first direct address and hands the configured direct node addresses to
the engine. The endpoint, the gossip overlay and the engine are outside the sources; what `build`
observes of them is an `Environment`, and the constants of other crates are section variables.
-/

namespace P2pandaNet.Builder

open Address Children

/-- The identifier shared by all peers of one network, 32 bytes (`NetworkId`). -/
structure NetworkId where
  bytes : List UInt8
  size : bytes.length = 32
  deriving DecidableEq

/-- Modelled from the spec (`crate::config` is not among the sources): the fields the `config` test
sets and `from_config` reads. -/
structure Config where
  networkId : NetworkId
  bindPort : UInt16
  directNodeAddresses : List (NodeId × List SocketAddr × Option RelayUrl)
  relay : Option RelayUrl

inductive RelayMode where
  | disabled
  | custom (node : RelayNode)
  deriving DecidableEq, Repr

/-- The relay node `build` keeps for itself, if one is set. -/
def RelayMode.relayNode : RelayMode → Option RelayNode
  | .disabled => none
  | .custom node => some node

/-- The builder's fields that `build` reads; `S` is the sync configuration and `H` a protocol
handler. -/
structure NetworkBuilder (S H : Type) where
  bindPort : Option UInt16
  directNodeAddresses : List NodeAddr
  networkId : NetworkId
  protocols : ProtocolMap H
  relayMode : RelayMode
  secretKey : Option (List UInt8)
  syncConfig : Option S

namespace NetworkBuilder

variable {S H : Type}

def new (networkId : NetworkId) : NetworkBuilder S H :=
  ⟨none, [], networkId, .empty, .disabled, none, none⟩

def setBindPort (b : NetworkBuilder S H) (port : UInt16) : NetworkBuilder S H :=
  { b with bindPort := some port }

def relay (b : NetworkBuilder S H) (url : RelayUrl) (stunOnly : Bool) (stunPort : UInt16) :
    NetworkBuilder S H :=
  { b with relayMode := .custom ⟨url, stunOnly, stunPort⟩ }

def directAddress (b : NetworkBuilder S H) (nodeId : NodeId) (addresses : List SocketAddr)
    (relayAddr : Option RelayUrl) : NetworkBuilder S H :=
  let nodeAddr := (NodeAddr.new nodeId).withDirectAddresses addresses
  let nodeAddr := match relayAddr with
    | some url => nodeAddr.withRelayUrl url
    | none => nodeAddr
  { b with directNodeAddresses := b.directNodeAddresses ++ [nodeAddr] }

/-- `private_key`: the key's 32 bytes become the endpoint's secret key. -/
def privateKey (b : NetworkBuilder S H) (key : List UInt8) : NetworkBuilder S H :=
  { b with secretKey := some key }

def sync (b : NetworkBuilder S H) (config : S) : NetworkBuilder S H :=
  { b with syncConfig := some config }

def protocol (b : NetworkBuilder S H) (protocolName : Alpn) (handler : H) : NetworkBuilder S H :=
  { b with protocols := b.protocols.insert protocolName handler }

/-- `from_config` (`bind_port` is `setBindPort` here). `defaultStunPort` is `DEFAULT_STUN_PORT` of `crate::addrs`. -/
def fromConfig (defaultStunPort : UInt16) (config : Config) : NetworkBuilder S H :=
  let b := (new config.networkId).setBindPort config.bindPort
  let b := config.directNodeAddresses.foldl (fun b (pk, addrs, relay) => b.directAddress pk addrs relay) b
  match config.relay with
  | some url => b.relay url false (url.port.getD defaultStunPort)
  | none => b

/-- The address a `(public key, addresses, relay)` entry of the configuration stands for. -/
def entryAddr : NodeId × List SocketAddr × Option RelayUrl → NodeAddr
  | (pk, addrs, relay) => ⟨pk, relay, addrs⟩

theorem directAddress_eq (b : NetworkBuilder S H) (pk : NodeId) (addrs : List SocketAddr)
    (relay : Option RelayUrl) :
    b.directAddress pk addrs relay = { b with directNodeAddresses := b.directNodeAddresses ++ [entryAddr (pk, addrs, relay)] } := by
  cases relay <;> rfl

theorem foldl_directAddress (entries : List (NodeId × List SocketAddr × Option RelayUrl))
    (b : NetworkBuilder S H) :
    entries.foldl (fun b (pk, addrs, relay) => b.directAddress pk addrs relay) b =
      { b with directNodeAddresses := b.directNodeAddresses ++ entries.map entryAddr } := by
  induction entries generalizing b with
  | nil => simp
  | cons e es ih =>
    obtain ⟨pk, addrs, relay⟩ := e
    rw [List.foldl_cons, ih]
    simp [directAddress_eq]

/-- `from_config` sets the configured port, network id and direct node addresses, in order, no key,
and the configured relay with its own or the default STUN port. -/
theorem fromConfig_eq (defaultStunPort : UInt16) (config : Config) :
    (fromConfig defaultStunPort config : NetworkBuilder S H) =
      ⟨some config.bindPort, config.directNodeAddresses.map entryAddr, config.networkId, .empty,
        (config.relay.map fun url => RelayMode.custom ⟨url, false, url.port.getD defaultStunPort⟩).getD
          .disabled,
        none, none⟩ := by
  cases h : config.relay <;> simp [fromConfig, h, foldl_directAddress, new, setBindPort, relay]

end NetworkBuilder

section Build

variable {S H E : Type} (gossipAlpn syncAlpn : Alpn) (defaultBindPort : UInt16)

/-- The sockets `build` binds: IPv4 on the bind port, IPv6 on the port after it (the `u16` addition
wraps as in a release build; a debug build panics). -/
def bindAddrs (bindPort : Option UInt16) : SocketAddr × SocketAddr :=
  let port := bindPort.getD defaultBindPort
  (⟨.v4 0, port⟩, ⟨.v6 0, port + 1⟩)

/-- The protocols `build` registers: gossip under `GOSSIP_ALPN`, then the sync handler, if any,
under `SYNC_CONNECTION_ALPN`, replacing custom ones there. -/
def registerProtocols (gossip : H) (syncHandler : Option H) (protocols : ProtocolMap H) :
    ProtocolMap H :=
  let protocols := protocols.insert gossipAlpn gossip
  match syncHandler with
  | some handler => protocols.insert syncAlpn handler
  | none => protocols

/-- The address `build` gives `add_peer` for a configured direct node address: the node's own
relay is added to an address that names none. -/
def bootstrapAddr (relay : Option RelayNode) (directAddr : NodeAddr) : NodeAddr :=
  match directAddr.relayUrl, relay with
  | none, some node => directAddr.withRelayUrl node.url
  | _, _ => directAddr

theorem bootstrapAddr_eq (relay : Option RelayNode) (a : NodeAddr) :
    bootstrapAddr relay a = { a with relayUrl := a.relayUrl <|> relay.map RelayNode.url } := by
  unfold bootstrapAddr
  rcases a with ⟨id, _ | url, addrs⟩ <;> cases relay <;> rfl

/-- What `build` observes of the endpoint it binds and of the engine it creates. -/
structure Environment (E : Type) where
  bind : SocketAddr × SocketAddr → Except String Unit
  nodeAddr : Except String NodeAddr
  setAlpns : List Alpn → Except String Unit
  firstDirectAddresses : Option (Option (List DirectAddr))
  engine : E

/-- What a successful `build` leaves behind: the ALPNs the endpoint accepts, the protocols the
supervisor dispatches to, and the engine with the bootstrap peers added. -/
structure Built (H E : Type) where
  alpns : List Alpn
  protocols : ProtocolMap H
  engine : E

/-- The bootstrap loop `for .. { network.add_peer(..).await?; }`: the first failure is returned. -/
def addPeers (addPeer : E → NodeAddr → Except String E) : E → List NodeAddr → Except String E
  | e, [] => .ok e
  | e, a :: as =>
    match addPeer e a with
    | .ok e' => addPeers addPeer e' as
    | .error err => .error err

/-- `build`, step by step; `firstDirectAddresses` is `none` when the wait timed out and `some none`
when the stream ended. -/
def build (addPeer : E → NodeAddr → Except String E) (gossip : H) (syncHandler : S → H)
    (env : Environment E) (b : NetworkBuilder S H) : Except String (Built H E) := do
  env.bind (bindAddrs defaultBindPort b.bindPort)
  let _ ← env.nodeAddr
  let relay := b.relayMode.relayNode
  let protocols := registerProtocols gossipAlpn syncAlpn gossip (b.syncConfig.map syncHandler) b.protocols
  env.setAlpns protocols.alpns
  match env.firstDirectAddresses with
  | none => throw "waiting for endpoint"
  | some none => throw "no endpoints given to establish at least one connection"
  | some (some _) =>
    let engine ← addPeers addPeer env.engine (b.directNodeAddresses.map (bootstrapAddr relay))
    pure ⟨protocols.alpns, protocols, engine⟩

theorem except_bind_eq_ok {α β : Type} {x : Except String α} {f : α → Except String β} {b : β}
    (h : x >>= f = .ok b) : ∃ a, x = .ok a ∧ f a = .ok b := by
  cases x with
  | error e => cases h
  | ok a => exact ⟨a, rfl, h⟩

/-- Every step of a successful `build` succeeded, in order, and the endpoint was told to accept
exactly the ALPNs of the protocols the supervisor dispatches to. -/
theorem build_eq_ok (addPeer : E → NodeAddr → Except String E) (gossip : H)
    (syncHandler : S → H) (env : Environment E) (b : NetworkBuilder S H) (built : Built H E)
    (h : build gossipAlpn syncAlpn defaultBindPort addPeer gossip syncHandler env b = .ok built) :
    env.bind (bindAddrs defaultBindPort b.bindPort) = .ok () ∧ (∃ a, env.nodeAddr = .ok a) ∧
      built.protocols = registerProtocols gossipAlpn syncAlpn gossip (b.syncConfig.map syncHandler)
        b.protocols ∧
      built.alpns = built.protocols.alpns ∧ env.setAlpns built.alpns = .ok () ∧
      (∃ addrs, env.firstDirectAddresses = some (some addrs)) ∧
      addPeers addPeer env.engine (b.directNodeAddresses.map (bootstrapAddr b.relayMode.relayNode)) =
        .ok built.engine := by
  unfold build at h
  obtain ⟨⟨⟩, hbind, h⟩ := except_bind_eq_ok h
  obtain ⟨a, haddr, h⟩ := except_bind_eq_ok h
  obtain ⟨⟨⟩, hset, h⟩ := except_bind_eq_ok h
  split at h
  · cases h
  · cases h
  · obtain ⟨engine, hpeers, h⟩ := except_bind_eq_ok h
    cases h
    exact ⟨hbind, ⟨a, haddr⟩, rfl, rfl, hset, ⟨_, ‹_›⟩, hpeers⟩

/-- On a built network the sync handler, then the gossip handler, wins over a custom one: a handler
registered under a core ALPN is never reached. -/
theorem built_protocols_get (addPeer : E → NodeAddr → Except String E) (gossip : H)
    (syncHandler : S → H) (env : Environment E) (b : NetworkBuilder S H) (built : Built H E)
    (h : build gossipAlpn syncAlpn defaultBindPort addPeer gossip syncHandler env b = .ok built)
    (alpn : Alpn) :
    built.protocols.get alpn =
      if b.syncConfig.isSome ∧ alpn = syncAlpn then b.syncConfig.map syncHandler
      else if alpn = gossipAlpn then some gossip else b.protocols.get alpn := by
  obtain ⟨-, -, hp, -⟩ := build_eq_ok gossipAlpn syncAlpn defaultBindPort addPeer gossip
    syncHandler env b built h
  rw [hp]
  cases b.syncConfig <;> by_cases ha : alpn = syncAlpn <;> simp [registerProtocols, ha]

theorem addPeers_record (peers as : List NodeAddr) :
    addPeers (fun peers a => .ok (peers ++ [a])) peers as = .ok (peers ++ as) := by
  induction as generalizing peers with
  | nil => simp [addPeers]
  | cons a as ih => simp [addPeers, ih]

/-- A successful `build` has handed the engine the configured direct node addresses, in order, each
with its own relay URL or else the node's. -/
theorem build_bootstraps (gossip : H) (syncHandler : S → H) (env : Environment (List NodeAddr))
    (b : NetworkBuilder S H) (built : Built H (List NodeAddr))
    (h : build gossipAlpn syncAlpn defaultBindPort (fun peers a => .ok (peers ++ [a])) gossip
      syncHandler env b = .ok built) :
    built.engine = env.engine ++ b.directNodeAddresses.map fun a =>
      { a with relayUrl := a.relayUrl <|> b.relayMode.relayNode.map RelayNode.url } := by
  obtain ⟨-, -, -, -, -, -, hpeers⟩ := build_eq_ok gossipAlpn syncAlpn defaultBindPort _ gossip
    syncHandler env b built h
  rw [addPeers_record, Except.ok.injEq, funext (bootstrapAddr_eq b.relayMode.relayNode)] at hpeers
  exact hpeers.symm

end Build

/-- A network built with only the gossip protocol, on ALPN `[1]`. -/
def gossipOnly : NetworkBuilder Unit Unit := .new ⟨List.replicate 32 1, rfl⟩

/-- An endpoint that binds, knows its own address, accepts the ALPNs it is given and yields one
(empty) list of direct addresses. -/
def quietEndpoint : Environment (List NodeAddr) :=
  ⟨fun _ => .ok (), .ok ⟨⟨List.replicate 32 7, rfl⟩, none, []⟩, fun _ => .ok (), some (some []), []⟩

/-- A builder with sync and a custom handler, `5`, registered under the gossip ALPN `[1]`; the
gossip handler is `0` and the sync handler `1`, on ALPN `[2]`. -/
def shadowing : NetworkBuilder Unit Nat :=
  ((NetworkBuilder.new ⟨List.replicate 32 1, rfl⟩).sync ()).protocol [1] 5

theorem built_protocols_get_shadowing :
    build [1] [2] 2022 (fun peers a => .ok (peers ++ [a])) 0 (fun _ => 1) quietEndpoint shadowing =
        .ok ⟨[[2], [1]], ⟨[([2], 1), ([1], 0), ([1], 5)]⟩, []⟩ ∧
      (⟨[([2], 1), ([1], 0), ([1], 5)]⟩ : ProtocolMap Nat).get [1] =
        if shadowing.syncConfig.isSome ∧ [1] = ([2] : Alpn) then shadowing.syncConfig.map fun _ => 1
        else if [1] = ([1] : Alpn) then some 0 else shadowing.protocols.get [1] :=
  have hb : build [1] [2] 2022 (fun peers a => .ok (peers ++ [a])) 0 (fun _ => 1) quietEndpoint
      shadowing = .ok ⟨[[2], [1]], ⟨[([2], 1), ([1], 0), ([1], 5)]⟩, []⟩ := rfl
  ⟨hb, built_protocols_get [1] [2] 2022 _ 0 _ _ _ ⟨[[2], [1]], ⟨[([2], 1), ([1], 0), ([1], 5)]⟩, []⟩
    hb [1]⟩

/-- Two bootstrap peers on loopback, the first behind a relay of its own, and the node's relay. -/
def peerA : NodeId := ⟨List.replicate 32 2, rfl⟩

def peerB : NodeId := ⟨List.replicate 32 3, rfl⟩

def peerRelay : RelayUrl := ⟨"peer-relay", some 443⟩

def nodeRelay : RelayUrl := ⟨"node-relay", none⟩

def bootstrapping : NetworkBuilder Unit Unit :=
  ((gossipOnly.relay nodeRelay false 3478).directAddress peerA [⟨.v4 0x7f000001, 2022⟩]
    (some peerRelay)).directAddress peerB [⟨.v4 0x7f000001, 2024⟩] none

/-- What `build` hands the engine for `bootstrapping`: the first peer keeps its own relay and the
second is given the node's. -/
def bootstrapped : List NodeAddr :=
  [⟨peerA, some peerRelay, [⟨.v4 0x7f000001, 2022⟩]⟩, ⟨peerB, some nodeRelay, [⟨.v4 0x7f000001, 2024⟩]⟩]

theorem build_bootstraps_relayed :
    build [1] [2] 2022 (fun peers a => .ok (peers ++ [a])) () (fun _ => ()) quietEndpoint
        bootstrapping = .ok ⟨[[1]], ⟨[([1], ())]⟩, bootstrapped⟩ ∧
      bootstrapped = quietEndpoint.engine ++ bootstrapping.directNodeAddresses.map fun a =>
        { a with relayUrl := a.relayUrl <|> bootstrapping.relayMode.relayNode.map RelayNode.url } :=
  ⟨rfl, build_bootstraps [1] [2] 2022 () (fun _ => ()) quietEndpoint bootstrapping _ rfl⟩

end P2pandaNet.Builder
