import P2pandaNet.SyncSession

/-!
# The dummy sync protocol

`DummyProtocol` of the tests "fulfills basic protocol requirements but nothing more". The
initiator sends the topic and `Done`, reports the handshake and reads one message: it panics on
a `Topic` and stops at `Done`. The acceptor reports every topic it reads up to `Done` and then
sends one `Done`. Both flush their sinks at the end. As for the ping-pong protocol, each side is
proved to end as its plan says, against every stream and whichever of its writes fails first.
-/

namespace P2pandaNet.Dummy

open SyncSession

/-- The messages of the protocol (`DummyProtocolMessage`). -/
inductive Message (T : Type) where
  | topic (t : T)
  | done

/-- Program points of `DummyProtocol::initiate`. -/
inductive Initiate where
  | sendTopic
  | sendDone
  | handshake
  | receive
  | flushSink
  | flushApp
  | finished
  | failed (e : SyncError)
  | panicked

/-- Program points of `DummyProtocol::accept`. -/
inductive Accept (T : Type) where
  | receive
  | handshake (t : T)
  | sendDone
  | flushSink
  | flushApp
  | finished
  | failed (e : SyncError)

variable {T : Type}

def initiate (topic : T) : Initiate → Action (Message T) (FromSync T) Initiate
  | .sendTopic => .write (.sinkSend (.topic topic)) .sendDone .failed
  | .sendDone => .write (.sinkSend .done) .handshake .failed
  | .handshake => .write (.appSend (.handshakeSuccess topic)) .receive .failed
  | .receive => .recv fun
    | none => .flushSink
    | some (.error e) => .failed e
    | some (.ok (.topic _)) => .panicked
    | some (.ok .done) => .flushSink
  | .flushSink => .write .sinkFlush .flushApp .failed
  | .flushApp => .write .appFlush .finished .failed
  | .finished => .done (.ok ())
  | .failed e => .done (.error e)
  | .panicked => .panic

def accept : Accept T → Action (Message T) (FromSync T) (Accept T)
  | .receive => .recv fun
    | none => .sendDone
    | some (.error e) => .failed e
    | some (.ok (.topic t)) => .handshake t
    | some (.ok .done) => .sendDone
  | .handshake t => .write (.appSend (.handshakeSuccess t)) .receive .failed
  | .sendDone => .write (.sinkSend .done) .flushSink .failed
  | .flushSink => .write .sinkFlush .flushApp .failed
  | .flushApp => .write .appFlush .finished .failed
  | .finished => .done (.ok ())
  | .failed e => .done (.error e)

/-- What the initiator does after its opening writes, by the first item of the stream. -/
def initiatorReply : List (Except SyncError (Message T)) → Bool → Plan (Message T) (FromSync T)
  | [], true => flushes
  | [], false => ⟨[], .waiting⟩
  | .error e :: _, _ => ⟨[], .returned (.error e)⟩
  | .ok (.topic _) :: _, _ => ⟨[], .panicked⟩
  | .ok .done :: _, _ => flushes

/-- The initiator's plan: the topic, `Done` and the handshake, then its reply. -/
def initiatorPlan (topic : T) (items : List (Except SyncError (Message T))) (closed : Bool) :
    Plan (Message T) (FromSync T) :=
  ⟨(.sinkSend (.topic topic), false) :: (.sinkSend .done, false) ::
      (.appSend (.handshakeSuccess topic), false) :: (initiatorReply items closed).writes,
    (initiatorReply items closed).ending⟩

/-- The acceptor's answer once its loop is left: one `Done`, then the flushes. -/
def answer : Plan (Message T) (FromSync T) :=
  ⟨(.sinkSend .done, false) :: flushes.writes, .returned (.ok ())⟩

/-- The acceptor's plan: a handshake for every topic up to `Done` or the end of the stream, then
its answer. -/
def acceptorPlan : List (Except SyncError (Message T)) → Bool → Plan (Message T) (FromSync T)
  | [], true => answer
  | [], false => ⟨[], .waiting⟩
  | .error e :: _, _ => ⟨[], .returned (.error e)⟩
  | .ok (.topic t) :: items, closed =>
    ⟨(.appSend (.handshakeSuccess t), false) :: (acceptorPlan items closed).writes,
      (acceptorPlan items closed).ending⟩
  | .ok .done :: _, _ => answer

theorem initiate_flushSink (topic : T) (items : List (Except SyncError (Message T)))
    (closed : Bool) : Follows (initiate topic) .flushSink items closed flushes 2 :=
  follows_write (by rfl) (fun _ => by rfl) (follows_write (by rfl) (fun _ => by rfl)
    (follows_done (by rfl)))

/-- The initiator's loop body runs once: a `Topic` panics and `Done` ends the loop. -/
theorem initiate_receive (topic : T) :
    ∀ items closed, Follows (initiate topic) .receive items closed (initiatorReply items closed) 3
  | [], true => follows_end (by rfl) (initiate_flushSink topic [] true)
  | [], false => Follows.mono (follows_wait (by rfl)) (by omega)
  | .error _ :: _, _ => Follows.mono (follows_recv (by rfl) (follows_done (by rfl))) (by omega)
  | .ok (.topic _) :: _, _ =>
    Follows.mono (follows_recv (by rfl) (follows_panic (by rfl))) (by omega)
  | .ok .done :: items, closed => follows_recv (by rfl) (initiate_flushSink topic items closed)

theorem initiate_follows (topic : T) (items : List (Except SyncError (Message T))) (closed : Bool) :
    Follows (initiate topic) .sendTopic items closed (initiatorPlan topic items closed) 6 :=
  follows_write (by rfl) (fun _ => by rfl) (follows_write (by rfl) (fun _ => by rfl)
    (follows_write (by rfl) (fun _ => by rfl) (initiate_receive topic items closed)))

theorem accept_sendDone (items : List (Except SyncError (Message T))) (closed : Bool) :
    Follows accept .sendDone items closed answer 3 :=
  follows_write (by rfl) (fun _ => by rfl) (follows_write (by rfl) (fun _ => by rfl)
    (follows_write (by rfl) (fun _ => by rfl) (follows_done (by rfl))))

/-- The acceptor's loop, one item at a time: a topic goes round again, every other item ends it. -/
theorem accept_receive :
    ∀ items closed, Follows (@accept T) .receive items closed (acceptorPlan items closed)
      (2 * items.length + 4)
  | [], true => follows_end (by rfl) (accept_sendDone [] true)
  | [], false => Follows.mono (follows_wait (by rfl)) (by omega)
  | .error _ :: _, _ => Follows.mono (follows_recv (by rfl) (follows_done (by rfl))) (by omega)
  | .ok (.topic _) :: items, closed =>
    Follows.mono (follows_recv (by rfl)
      (follows_write (by rfl) (fun _ => by rfl) (accept_receive items closed)))
      (by simp only [List.length_cons]; omega)
  | .ok .done :: items, closed =>
    Follows.mono (follows_recv (by rfl) (accept_sendDone items closed))
      (by simp only [List.length_cons]; omega)

/-- Against any stream, ended or left open, and whichever write fails first, each side of the dummy
protocol, given enough steps, ends as its plan says. -/
theorem dummy_sides (topic : T) (envI envA : Surroundings (Message T)) (n : Nat)
    (hn : 2 * envA.items.length + 6 ≤ n) :
    outcome (initiate topic) (Side.run (initiate topic) n ⟨.sendTopic, [], []⟩ envI) =
        (initiatorPlan topic envI.items envI.closed).outcome envI.breaks ∧
      outcome accept (Side.run accept n ⟨.receive, [], []⟩ envA) =
        (acceptorPlan envA.items envA.closed).outcome envA.breaks :=
  ⟨initiate_follows topic envI.items envI.closed envI.breaks n (by omega),
    accept_receive envA.items envA.closed envA.breaks n (by omega)⟩

/-- An initiator that reads a `Topic`, and an acceptor whose flush of the sink fails. -/
def topicBack : Surroundings (Message Nat) := ⟨[.ok (.topic 6)], false, none⟩

def flushFails : Surroundings (Message Nat) :=
  ⟨[.ok (.topic 5), .ok .done], false, some (2, .external "flush")⟩

theorem dummy_sides_topic_back :
    2 * flushFails.items.length + 6 ≤ 10 ∧
      (outcome (initiate 5) (Side.run (initiate 5) 10 ⟨.sendTopic, [], []⟩ topicBack) =
          (initiatorPlan 5 topicBack.items topicBack.closed).outcome topicBack.breaks ∧
        outcome accept (Side.run accept 10 ⟨.receive, [], []⟩ flushFails) =
          (acceptorPlan flushFails.items flushFails.closed).outcome flushFails.breaks) ∧
      (initiatorPlan 5 topicBack.items topicBack.closed).outcome topicBack.breaks =
        (.panicked, [.topic 5, .done], [.handshakeSuccess 5]) ∧
      (acceptorPlan flushFails.items flushFails.closed).outcome flushFails.breaks =
        (.returned (.error (.external "flush")), [.done], [.handshakeSuccess 5]) :=
  ⟨by decide, dummy_sides 5 topicBack flushFails 10 (by decide), rfl, rfl⟩

end P2pandaNet.Dummy
