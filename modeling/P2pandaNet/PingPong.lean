import P2pandaNet.SyncSession

/-!
# The ping-pong sync protocol

`PingPongProtocol` of the tests. The initiator sends the topic and a `Ping`, reports the
handshake and reads one message: it panics on a `Topic`, fails on a `Ping`, and reports `PONG`
on a `Pong`. The acceptor reports every topic it reads, answers the first `Ping` with a `Pong`
and fails on a `Pong`. Both flush their sinks when they leave the loop. Each side is proved to
end as its plan says, against every stream and whichever of its writes fails first.
-/

namespace P2pandaNet.PingPong

open SyncSession

/-- The messages of the protocol (`Message`). -/
inductive Message (T : Type) where
  | topic (t : T)
  | ping
  | pong

def pingHeader : List UInt8 := "PING".toUTF8.toList
def pongHeader : List UInt8 := "PONG".toUTF8.toList

/-- Program points of `PingPongProtocol::initiate`. -/
inductive Initiate where
  | sendTopic
  | sendPing
  | handshake
  | receive
  | pong
  | flushSink
  | flushApp
  | finished
  | failed (e : SyncError)
  | panicked

/-- Program points of `PingPongProtocol::accept`. -/
inductive Accept (T : Type) where
  | receive
  | handshake (t : T)
  | ping
  | sendPong
  | flushSink
  | flushApp
  | finished
  | failed (e : SyncError)
  | panicked

variable {T : Type}

def initiate (topic : T) : Initiate → Action (Message T) (FromSync T) Initiate
  | .sendTopic => .write (.sinkSend (.topic topic)) .sendPing .failed
  | .sendPing => .write (.sinkSend .ping) .handshake .failed
  | .handshake => .write (.appSend (.handshakeSuccess topic)) .receive .failed
  | .receive => .recv fun
    | none => .flushSink
    | some (.error e) => .failed e
    | some (.ok (.topic _)) => .panicked
    | some (.ok .ping) => .failed (.unexpectedBehaviour "unexpected Ping message received")
    | some (.ok .pong) => .pong
  | .pong => .write (.appSend (.data pongHeader none)) .flushSink fun _ => .panicked
  | .flushSink => .write .sinkFlush .flushApp .failed
  | .flushApp => .write .appFlush .finished .failed
  | .finished => .done (.ok ())
  | .failed e => .done (.error e)
  | .panicked => .panic

def accept : Accept T → Action (Message T) (FromSync T) (Accept T)
  | .receive => .recv fun
    | none => .flushSink
    | some (.error e) => .failed e
    | some (.ok (.topic t)) => .handshake t
    | some (.ok .ping) => .ping
    | some (.ok .pong) => .failed (.unexpectedBehaviour "unexpected Pong message received")
  | .handshake t => .write (.appSend (.handshakeSuccess t)) .receive .failed
  | .ping => .write (.appSend (.data pingHeader none)) .sendPong fun _ => .panicked
  | .sendPong => .write (.sinkSend .pong) .flushSink .failed
  | .flushSink => .write .sinkFlush .flushApp .failed
  | .flushApp => .write .appFlush .finished .failed
  | .finished => .done (.ok ())
  | .failed e => .done (.error e)
  | .panicked => .panic

/-- What the initiator does after its opening writes, by the first item of the stream. -/
def initiatorReply : List (Except SyncError (Message T)) → Bool → Plan (Message T) (FromSync T)
  | [], true => flushes
  | [], false => ⟨[], .waiting⟩
  | .error e :: _, _ => ⟨[], .returned (.error e)⟩
  | .ok (.topic _) :: _, _ => ⟨[], .panicked⟩
  | .ok .ping :: _, _ =>
    ⟨[], .returned (.error (.unexpectedBehaviour "unexpected Ping message received"))⟩
  | .ok .pong :: _, _ =>
    ⟨(.appSend (.data pongHeader none), true) :: flushes.writes, .returned (.ok ())⟩

/-- The initiator's plan: the topic, the `Ping` and the handshake, then its reply. -/
def initiatorPlan (topic : T) (items : List (Except SyncError (Message T))) (closed : Bool) :
    Plan (Message T) (FromSync T) :=
  ⟨(.sinkSend (.topic topic), false) :: (.sinkSend .ping, false) ::
      (.appSend (.handshakeSuccess topic), false) :: (initiatorReply items closed).writes,
    (initiatorReply items closed).ending⟩

/-- The acceptor's plan: a handshake for every topic up to the first other item; a `Ping` is
reported, `unwrap`ped, and answered with a `Pong`. -/
def acceptorPlan : List (Except SyncError (Message T)) → Bool → Plan (Message T) (FromSync T)
  | [], true => flushes
  | [], false => ⟨[], .waiting⟩
  | .error e :: _, _ => ⟨[], .returned (.error e)⟩
  | .ok (.topic t) :: items, closed =>
    ⟨(.appSend (.handshakeSuccess t), false) :: (acceptorPlan items closed).writes,
      (acceptorPlan items closed).ending⟩
  | .ok .ping :: _, _ =>
    ⟨(.appSend (.data pingHeader none), true) :: (.sinkSend .pong, false) :: flushes.writes,
      .returned (.ok ())⟩
  | .ok .pong :: _, _ =>
    ⟨[], .returned (.error (.unexpectedBehaviour "unexpected Pong message received"))⟩

theorem initiate_flushSink (topic : T) (items : List (Except SyncError (Message T)))
    (closed : Bool) : Follows (initiate topic) .flushSink items closed flushes 2 :=
  follows_write (by rfl) (fun _ => by rfl)
    (follows_write (by rfl) (fun _ => by rfl) (follows_done (by rfl)))

/-- The initiator's loop body runs once: every message it reads ends the loop. -/
theorem initiate_receive (topic : T) :
    ∀ items closed, Follows (initiate topic) .receive items closed (initiatorReply items closed) 4
  | [], true => Follows.mono (follows_end (by rfl) (initiate_flushSink topic [] true)) (by omega)
  | [], false => Follows.mono (follows_wait (by rfl)) (by omega)
  | .error _ :: _, _ => Follows.mono (follows_recv (by rfl) (follows_done (by rfl))) (by omega)
  | .ok (.topic _) :: _, _ =>
    Follows.mono (follows_recv (by rfl) (follows_panic (by rfl))) (by omega)
  | .ok .ping :: _, _ => Follows.mono (follows_recv (by rfl) (follows_done (by rfl))) (by omega)
  | .ok .pong :: items, closed =>
    follows_recv (by rfl)
      (follows_write (by rfl) (fun _ => by rfl) (initiate_flushSink topic items closed))

theorem initiate_follows (topic : T) (items : List (Except SyncError (Message T))) (closed : Bool) :
    Follows (initiate topic) .sendTopic items closed (initiatorPlan topic items closed) 7 :=
  follows_write (by rfl) (fun _ => by rfl) (follows_write (by rfl) (fun _ => by rfl)
    (follows_write (by rfl) (fun _ => by rfl) (initiate_receive topic items closed)))

theorem accept_flushSink (items : List (Except SyncError (Message T))) (closed : Bool) :
    Follows accept .flushSink items closed flushes 2 :=
  follows_write (by rfl) (fun _ => by rfl)
    (follows_write (by rfl) (fun _ => by rfl) (follows_done (by rfl)))

/-- The acceptor's loop, one item at a time: a topic goes round again, every other item ends it. -/
theorem accept_receive :
    ∀ items closed, Follows (@accept T) .receive items closed (acceptorPlan items closed)
      (2 * items.length + 3)
  | [], true => follows_end (by rfl) (accept_flushSink [] true)
  | [], false => Follows.mono (follows_wait (by rfl)) (by omega)
  | .error _ :: _, _ => Follows.mono (follows_recv (by rfl) (follows_done (by rfl))) (by omega)
  | .ok (.topic _) :: items, closed =>
    Follows.mono (follows_recv (by rfl)
      (follows_write (by rfl) (fun _ => by rfl) (accept_receive items closed)))
      (by simp only [List.length_cons]; omega)
  | .ok .ping :: items, closed =>
    Follows.mono (follows_recv (by rfl) (follows_write (by rfl) (fun _ => by rfl)
      (follows_write (by rfl) (fun _ => by rfl) (accept_flushSink items closed))))
      (by simp only [List.length_cons]; omega)
  | .ok .pong :: _, _ => Follows.mono (follows_recv (by rfl) (follows_done (by rfl))) (by omega)

/-- Against any stream, ended or left open, and whichever write fails first, each side of the
ping-pong protocol, given enough steps, ends as its plan says. -/
theorem pingPong_sides (topic : T) (envI envA : Surroundings (Message T)) (n : Nat)
    (hn : 2 * envA.items.length + 7 ≤ n) :
    outcome (initiate topic) (Side.run (initiate topic) n ⟨.sendTopic, [], []⟩ envI) =
        (initiatorPlan topic envI.items envI.closed).outcome envI.breaks ∧
      outcome accept (Side.run accept n ⟨.receive, [], []⟩ envA) =
        (acceptorPlan envA.items envA.closed).outcome envA.breaks :=
  ⟨initiate_follows topic envI.items envI.closed envI.breaks n (by omega),
    accept_receive envA.items envA.closed envA.breaks n (by omega)⟩

/-- An initiator whose report of `PONG` fails, and an acceptor whose `Pong` fails to send. -/
def pongUnreported : Surroundings (Message Nat) :=
  ⟨[.ok .pong], true, some (3, .external "app")⟩

def pongUnsent : Surroundings (Message Nat) :=
  ⟨[.ok (.topic 5), .ok .ping], false, some (2, .external "reset")⟩

theorem pingPong_sides_failing_writes :
    2 * pongUnsent.items.length + 7 ≤ 11 ∧
      (outcome (initiate 5) (Side.run (initiate 5) 11 ⟨.sendTopic, [], []⟩ pongUnreported) =
          (initiatorPlan 5 pongUnreported.items pongUnreported.closed).outcome pongUnreported.breaks ∧
        outcome accept (Side.run accept 11 ⟨.receive, [], []⟩ pongUnsent) =
          (acceptorPlan pongUnsent.items pongUnsent.closed).outcome pongUnsent.breaks) ∧
      (initiatorPlan 5 pongUnreported.items pongUnreported.closed).outcome pongUnreported.breaks =
        (.panicked, [.topic 5, .ping], [.handshakeSuccess 5]) ∧
      (acceptorPlan pongUnsent.items pongUnsent.closed).outcome pongUnsent.breaks =
        (.returned (.error (.external "reset")), [], [.handshakeSuccess 5, .data pingHeader none]) :=
  ⟨by decide, pingPong_sides 5 pongUnreported pongUnsent 11 (by decide), rfl, rfl⟩

end P2pandaNet.PingPong
