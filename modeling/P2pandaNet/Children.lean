import Mathlib.Data.List.Dedup
import P2pandaNet.Address
import P2pandaNet.Select

/-!
# The supervisor's child tasks

`NetworkInner::spawn` keeps two kinds of child task in its `JoinSet`: one that hands every change
of the endpoint's direct addresses to the discovery services, and one per accepted inbound
connection, which passes the connection to the handler registered for its ALPN
(`handle_connection`). Both log their failures and end with `Ok(())`; besides that, a child can
only panic, in code it calls outside the sources, since nothing aborts a child while the loop
runs (`Child.canFinish`). The address-update task loops over a `select!` whose one branch takes
`Some(endpoints)` off the stream: a `None` disables it, so `else` breaks the loop at once.
-/

namespace P2pandaNet.Children

open Address Select

/-- An application-layer protocol identifier, the bytes agreed in the TLS handshake. -/
abbrev Alpn := List UInt8

/-- Modelled from the spec (`crate::protocols` is not among the sources): the router's map `ALPN →
ProtocolHandler`, as its entries, the latest insertion first. -/
structure ProtocolMap (H : Type) where
  entries : List (Alpn × H)

namespace ProtocolMap

variable {H : Type}

def empty : ProtocolMap H := ⟨[]⟩

def insert (m : ProtocolMap H) (alpn : Alpn) (handler : H) : ProtocolMap H :=
  ⟨(alpn, handler) :: m.entries⟩

def get (m : ProtocolMap H) (alpn : Alpn) : Option H := m.entries.lookup alpn

/-- The ALPNs the endpoint is told to accept, each once. -/
def alpns (m : ProtocolMap H) : List Alpn := (m.entries.map Prod.fst).dedup

@[simp] theorem get_empty (alpn : Alpn) : (empty : ProtocolMap H).get alpn = none := rfl

@[simp] theorem get_insert (m : ProtocolMap H) (a b : Alpn) (h : H) :
    (m.insert a h).get b = if b = a then some h else m.get b := by
  by_cases hb : b = a
  · subst hb; simp [get, insert]
  · simp [get, insert, List.lookup_cons, beq_false_of_ne hb, hb]

end ProtocolMap

/-- An inbound connection in its handshake (`iroh_net::endpoint::Connecting`): what `alpn()`
yields when the handshake ends, the agreed ALPN or the handshake's error. -/
structure Connecting where
  alpn : Except String Alpn

/-- How `handle_connection` ends; each case is one line it logs, or none. -/
inductive Handled where
  | invalidHandshake (err : String)
  | unsupportedAlpn
  | endedWithError (err : String)
  | accepted
  deriving DecidableEq, Repr

def Handled.warning : Handled → Option String
  | .invalidHandshake err => some ("ignoring connection: invalid handshake: " ++ err)
  | .unsupportedAlpn => some "ignoring connection: unsupported alpn protocol"
  | .endedWithError err => some ("handling incoming connection ended with error: " ++ err)
  | .accepted => none

section Handle

variable {H : Type} (accept : H → Connecting → Except String Unit)

/-- `handle_connection`: wait for the handshake, look the ALPN up and let its handler accept;
`accept` is what `ProtocolHandler::accept` returns. -/
def handleConnection (c : Connecting) (protocols : ProtocolMap H) : Handled :=
  match c.alpn with
  | .error err => .invalidHandshake err
  | .ok alpn =>
    match protocols.get alpn with
    | none => .unsupportedAlpn
    | some handler =>
      match accept handler c with
      | .error err => .endedWithError err
      | .ok () => .accepted

/-- The task spawned for an accepted connection: `handle_connection(..).await; Ok(())`. -/
def connectionTask (c : Connecting) (protocols : ProtocolMap H) : Handled × Except String Unit :=
  (handleConnection accept c protocols, .ok ())

end Handle

/-- A direct address of the local endpoint (`iroh_net::endpoint::DirectAddr`); its kind (local,
STUN, port-mapped) is not read. -/
structure DirectAddr where
  addr : SocketAddr
  deriving DecidableEq, Repr

/-- The addresses the task hands to `update_local_address`, one per item of the endpoint's
`direct_addresses()` stream. -/
def announce (myNodeAddr : NodeAddr) : List (List DirectAddr) → List NodeAddr
  | [] => []
  | endpoints :: rest =>
    let next := { myNodeAddr with directAddresses := endpoints.map DirectAddr.addr }
    next :: announce next rest

/-- The node's own address before any direct address is known: its id, and its relay if it has
one. -/
def localNodeAddr (nodeId : NodeId) (relay : Option RelayNode) : NodeAddr :=
  match relay with
  | some node => (NodeAddr.new nodeId).withRelayUrl node.url
  | none => NodeAddr.new nodeId

/-- The address-update task; `update` is what `update_local_address` returns, whose errors are
logged, so the task returns `Ok(())`. -/
def addressUpdatesTask (update : NodeAddr → Except String Unit) (nodeId : NodeId)
    (relay : Option RelayNode) (stream : List (List DirectAddr)) :
    List (NodeAddr × Except String Unit) × Except String Unit :=
  ((announce (localNodeAddr nodeId relay) stream).map fun a => (a, update a), .ok ())

/-- The accumulator only ever has its direct addresses replaced: every announcement is the
node's own address with exactly the addresses of the latest stream item. -/
theorem announce_eq_map (a : NodeAddr) (stream : List (List DirectAddr)) :
    announce a stream = stream.map fun e => { a with directAddresses := e.map DirectAddr.addr } := by
  induction stream generalizing a with
  | nil => rfl
  | cons e rest ih => simp [announce, ih]

/-- The task tells the discovery services, for each item of the stream and in order, the node's id
and relay with that item's addresses, and returns `Ok(())`. -/
theorem addressUpdatesTask_announces (update : NodeAddr → Except String Unit) (nodeId : NodeId)
    (relay : Option RelayNode) (stream : List (List DirectAddr)) :
    (addressUpdatesTask update nodeId relay stream).1.map Prod.fst =
        stream.map (fun e => ⟨nodeId, relay.map RelayNode.url, e.map DirectAddr.addr⟩) ∧
      (addressUpdatesTask update nodeId relay stream).2 = .ok () := by
  refine ⟨?_, rfl⟩
  cases relay <;> simp [addressUpdatesTask, announce_eq_map, localNodeAddr, Function.comp_def]

/-- The address-update task between two wakes: the node's address so far, what it has told the
discovery services, and whether its loop has broken. -/
structure AddressTask where
  myNodeAddr : NodeAddr
  told : List (NodeAddr × Except String Unit)
  broken : Bool

def addressWake (update : NodeAddr → Except String Unit) (t : AddressTask)
    (item : Poll (Option (List DirectAddr))) : AddressTask :=
  if t.broken then t else
  match (pollBranches false [(false, someArm item id)]).1 with
  | .run endpoints =>
    let next := { t.myNodeAddr with directAddresses := endpoints.map DirectAddr.addr }
    ⟨next, t.told ++ [(next, update next)], false⟩
  | .otherwise => { t with broken := true }
  | .waiting => t

/-- The items a stream yields at the task's wakes before it ends. -/
def itemsBeforeEnd {α : Type} : List (Poll (Option α)) → List α
  | [] => []
  | .pending :: ps => itemsBeforeEnd ps
  | .ready none :: _ => []
  | .ready (some a) :: ps => a :: itemsBeforeEnd ps

/-- Whether a stream has ended by the last of the task's wakes. -/
def ended {α : Type} : List (Poll (Option α)) → Bool
  | [] => false
  | .ready none :: _ => true
  | _ :: ps => ended ps

theorem addressWake_broken (update : NodeAddr → Except String Unit) (a : NodeAddr)
    (told : List (NodeAddr × Except String Unit)) (ps : List (Poll (Option (List DirectAddr)))) :
    ps.foldl (addressWake update) ⟨a, told, true⟩ = ⟨a, told, true⟩ := by
  induction ps with
  | nil => rfl
  | cons p ps ih => simpa [addressWake] using ih

theorem addressWakes_told (update : NodeAddr → Except String Unit) (a : NodeAddr)
    (told : List (NodeAddr × Except String Unit)) (ps : List (Poll (Option (List DirectAddr)))) :
    (ps.foldl (addressWake update) ⟨a, told, false⟩).told =
        told ++ (announce a (itemsBeforeEnd ps)).map (fun x => (x, update x)) ∧
      (ps.foldl (addressWake update) ⟨a, told, false⟩).broken = ended ps := by
  induction ps generalizing a told with
  | nil => simp [itemsBeforeEnd, announce, ended]
  | cons p ps ih =>
    rcases p with _ | _ | endpoints
    · simpa [addressWake, pollBranches, someArm, itemsBeforeEnd, ended] using ih a told
    · simp [addressWake, pollBranches, someArm, itemsBeforeEnd, ended, announce, addressWake_broken]
    · simp [addressWake, pollBranches, someArm, itemsBeforeEnd, ended, announce, ih]

/-- Over any wakes, the task has told the discovery services what `addressUpdatesTask` tells them
for the items before the end, and has broken exactly at the end. -/
theorem addressWakes_eq_task (update : NodeAddr → Except String Unit) (nodeId : NodeId)
    (relay : Option RelayNode) (ps : List (Poll (Option (List DirectAddr)))) :
    (ps.foldl (addressWake update) ⟨localNodeAddr nodeId relay, [], false⟩).told =
        (addressUpdatesTask update nodeId relay (itemsBeforeEnd ps)).1 ∧
      (ps.foldl (addressWake update) ⟨localNodeAddr nodeId relay, [], false⟩).broken = ended ps := by
  simpa [addressUpdatesTask] using addressWakes_told update (localNodeAddr nodeId relay) [] ps

/-- A child of the supervisor's `JoinSet`. -/
inductive Child where
  | addressUpdates
  | connection (c : Connecting)

section Finish

variable {H : Type} (accept : H → Connecting → Except String Unit) (protocols : ProtocolMap H)

/-- Whether a child calls code outside the sources that may panic: the discovery services, or a
protocol handler the connection reaches. -/
def Child.callsOut : Child → Bool
  | .addressUpdates => true
  | .connection c =>
    match handleConnection accept c protocols with
    | .invalidHandshake _ | .unsupportedAlpn => false
    | .endedWithError _ | .accepted => true

/-- The results `join_next` can hand back for a child: its task's `Ok(())`, or a panic of code it
calls out to; nothing aborts a child while the loop runs. -/
def Child.canFinish (c : Child) : JoinResult → Bool
  | .ok (.ok ()) => true
  | .error .panic => c.callsOut accept protocols
  | _ => false

/-- A connection whose handshake fails, or agrees on an ALPN with no handler, calls nothing
outside the sources. -/
theorem callsOut_connection_eq_false (c : Connecting)
    (hno : ∀ alpn, c.alpn = .ok alpn → protocols.get alpn = none) :
    (Child.connection c).callsOut accept protocols = false := by
  unfold Child.callsOut handleConnection
  rcases hc : c.alpn with err | alpn <;> simp [hc, hno]

/-- A child that calls nothing outside the sources can only end with its own `Ok(())`. -/
theorem canFinish_of_callsOut_eq_false {c : Child} (hc : c.callsOut accept protocols = false)
    {res : JoinResult} (h : c.canFinish accept protocols res = true) : res = .ok (.ok ()) := by
  rcases res with (_ | _) | (_ | _) <;> simp_all [Child.canFinish]

end Finish

end P2pandaNet.Children
