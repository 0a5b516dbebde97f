import P2pandaNet.Runs

/-!
# Which faults the supervisor survives

In `Supervisor` the environment chooses what `join_next` hands back. Here that choice is tied to
the children: a poll is `faithful` when `join_next` yields `None` only from an empty `JoinSet`,
and otherwise names a child of the set with a result that child can end with (`canFinish`).
Over runs of faithful polls, the only completed children that end the loop are panicked ones
that call code outside the sources, a protocol handler or the discovery services. A connection
whose handshake fails or whose ALPN has no handler runs no such code: when it completes, it is
taken off the `JoinSet` and the loop goes on with the other children and the engine as they
were, so an unknown ALPN neither stops the node nor affects other connections.
-/

namespace P2pandaNet.Faults

open Address Select Children Supervisor Runs

variable {E H : Type} {addPeer : E → NodeAddr → Except String E}
  (accept : H → Connecting → Except String Unit) (protocols : ProtocolMap H)

/-- A poll whose `join_next` result is one the `JoinSet` can yield. -/
def faithful (s : State E) (r : Ready) : Bool :=
  match r.joinNext with
  | .ready (some (i, res)) =>
    match s.joinSet[i]? with
    | some c => c.canFinish accept protocols res
    | none => false
  | .ready none => s.joinSet.isEmpty
  | .pending => true

/-- The fatal polls: the token is cancelled, a panicked child that calls out completes, or the
discovery stream yields an error. -/
def Fatal (c : Bool) (s : State E) (r : Ready) : Prop :=
  c = true ∨
    (∃ i child, s.joinSet[i]? = some child ∧ child.callsOut accept protocols = true ∧
      select c s r = .run (.joined (some (i, .error .panic)))) ∨
    ∃ err, select c s r = .run (.discovered (.error err))

/-- At a faithful poll, a completed child that panicked is one that calls out. -/
theorem ends_iff_fatal (c : Bool) (s : State E) (r : Ready)
    (hf : faithful accept protocols s r = true) :
    Ends c s r ↔ Fatal accept protocols c s r := by
  refine or_congr Iff.rfl (or_congr_left ?_)
  constructor
  · rintro ⟨i, hsel⟩
    simp only [faithful, (select_eq_joined hsel).2] at hf
    cases hc : s.joinSet[i]? with
    | none => simp [hc] at hf
    | some child => exact ⟨i, child, hc, by simpa [hc, Child.canFinish] using hf, hsel⟩
  · rintro ⟨i, -, -, -, hsel⟩
    exact ⟨i, hsel⟩

/-- Over every run of faithful polls, the loop halts exactly at a `Fatal` poll: a child that calls
nothing outside the sources never stops the node. -/
theorem run_isHalted_iff_fatal (hadd : ∀ e a, ∃ e', addPeer e a = .ok e') (events : List Event)
    (n : Node E) (s : State E) (hs : n.loop = .running s)
    (hfaith : ∀ pre r post s', events = pre ++ .poll r :: post →
      (run addPeer n pre).loop = .running s' → faithful accept protocols s' r = true) :
    (run addPeer n events).loop.isHalted ↔
      ∃ pre r post, events = pre ++ .poll r :: post ∧
        ∃ s', (run addPeer n pre).loop = .running s' ∧
          Fatal accept protocols (run addPeer n pre).cancelled s' r := by
  rw [run_isHalted_iff_halting_poll events n s hs]
  exact exists_congr fun pre => exists_congr fun r => exists_congr fun post =>
    and_congr_right fun he => exists_congr fun s' => and_congr_right fun hs' =>
      (step_poll_halts_iff hadd _ s' hs' r).trans
        (ends_iff_fatal accept protocols _ s' r (hfaith pre r post s' he hs'))

/-- Whether every poll of a trace that meets a running loop is faithful, checked along the run. -/
def faithfulRun (addPeer : E → NodeAddr → Except String E) (n : Node E) : List Event → Bool
  | [] => true
  | e :: es =>
    (match e, n.loop with
      | .poll r, .running s => faithful accept protocols s r
      | _, _ => true) && faithfulRun addPeer (step addPeer n e) es

theorem faithfulRun_spec (addPeer : E → NodeAddr → Except String E) (n : Node E)
    (events : List Event) (h : faithfulRun accept protocols addPeer n events = true) :
    ∀ pre r post s', events = pre ++ .poll r :: post →
      (run addPeer n pre).loop = .running s' → faithful accept protocols s' r = true := by
  induction events generalizing n with
  | nil => simp
  | cons e es ih =>
    simp only [faithfulRun, Bool.and_eq_true] at h
    rintro (_ | ⟨e', pre⟩) r post s' he hs'
    · obtain ⟨rfl, -⟩ := List.cons.inj he
      have hn : n.loop = .running s' := hs'
      simpa [hn] using h.1
    · obtain ⟨rfl, hes⟩ := List.cons.inj he
      exact ih _ h.2 pre r post s' hes hs'

/-- A handler that accepts every connection, and the gossip ALPN `[1]` routed to it. -/
def acceptAll (_ : Unit) (_ : Connecting) : Except String Unit := .ok ()

def gossipRouter : ProtocolMap Unit := ProtocolMap.empty.insert [1] ()

/-- A connection that agreed on ALPN `[9]`, which `gossipRouter` does not route. -/
def strayConnection : Connecting := ⟨.ok [9]⟩

/-- The stray connection is accepted, its child completes with `Ok(())`, and then the
address-update child panics. -/
def childrenComplete : List Event :=
  [.poll ⟨.ready (some ⟨.ok strayConnection⟩), .pending, .pending⟩,
    .poll ⟨.pending, .pending, .ready (some (1, .ok (.ok ())))⟩,
    .poll ⟨.pending, .pending, .ready (some (0, .error .panic))⟩]

theorem run_isHalted_iff_fatal_children_complete :
    (∀ peers a, ∃ e', recordPeer peers a = .ok e') ∧
      (init ([] : List NodeAddr)).loop = .running ⟨[.addressUpdates], []⟩ ∧
      (∀ pre r post s', childrenComplete = pre ++ .poll r :: post →
        (run recordPeer (init []) pre).loop = .running s' →
          faithful acceptAll gossipRouter s' r = true) ∧
      ((run recordPeer (init []) childrenComplete).loop.isHalted ↔
        ∃ pre r post, childrenComplete = pre ++ .poll r :: post ∧
          ∃ s', (run recordPeer (init []) pre).loop = .running s' ∧
            Fatal acceptAll gossipRouter (run recordPeer (init []) pre).cancelled s' r) := by
  have hfaith := faithfulRun_spec acceptAll gossipRouter recordPeer (init []) childrenComplete rfl
  exact ⟨fun _ _ => ⟨_, rfl⟩, rfl, hfaith,
    run_isHalted_iff_fatal acceptAll gossipRouter (fun _ _ => ⟨_, rfl⟩) _ _ _ rfl hfaith⟩

/-- An unknown ALPN never stops the node or touches other connections: the loop goes on with that
child removed and the rest as they were. -/
theorem unhandled_connection_isolated (n : Node E) (s : State E) (hs : n.loop = .running s)
    (r : Ready) (hf : faithful accept protocols s r = true) (i : Nat) (res : JoinResult)
    (c : Connecting) (hsel : select n.cancelled s r = .run (.joined (some (i, res))))
    (hc : s.joinSet[i]? = some (.connection c))
    (hno : ∀ alpn, c.alpn = .ok alpn → protocols.get alpn = none) :
    (step addPeer n (.poll r)).loop = .running ⟨s.joinSet.eraseIdx i, s.engine⟩ := by
  have hres : res = .ok (.ok ()) := by
    simp only [faithful, (select_eq_joined hsel).2, hc] at hf
    exact canFinish_of_callsOut_eq_false accept protocols
      (callsOut_connection_eq_false accept protocols c hno) hf
  subst hres
  simp [step, hs, iteration, hsel, handle, finish]

/-- The stray connection completing while a second connection is still open. -/
def strayDone : Ready := ⟨.pending, .pending, .ready (some (0, .ok (.ok ())))⟩

def twoConnections : State (List NodeAddr) :=
  ⟨[.connection strayConnection, .connection ⟨.ok [1]⟩], []⟩

theorem unhandled_connection_isolated_stray :
    (⟨false, .running twoConnections⟩ : Node (List NodeAddr)).loop = .running twoConnections ∧
      faithful acceptAll gossipRouter twoConnections strayDone = true ∧
      select false twoConnections strayDone = .run (.joined (some (0, .ok (.ok ())))) ∧
      twoConnections.joinSet[0]? = some (.connection strayConnection) ∧
      (∀ alpn, strayConnection.alpn = .ok alpn → gossipRouter.get alpn = none) ∧
      (step recordPeer ⟨false, .running twoConnections⟩ (.poll strayDone)).loop =
        .running ⟨twoConnections.joinSet.eraseIdx 0, twoConnections.engine⟩ := by
  have hno : ∀ alpn, strayConnection.alpn = .ok alpn → gossipRouter.get alpn = none := by
    rintro alpn ⟨⟩
    rfl
  exact ⟨rfl, rfl, rfl, rfl, hno, unhandled_connection_isolated acceptAll gossipRouter
    ⟨false, .running twoConnections⟩ twoConnections rfl strayDone rfl 0 _ strayConnection rfl rfl
    hno⟩

end P2pandaNet.Faults
