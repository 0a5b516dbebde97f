import P2pandaNet.Children

/-!
# The supervisor loop of `NetworkInner::spawn`

Once the address-update task is spawned and the discovery services are subscribed to, `spawn`
loops over one `biased` `select!` with four branches: the cancel token, the endpoint's inbound
connections, the discovery stream, and the `JoinSet` of child tasks. The cancel token is shared
with `Network::shutdown`, which may cancel it at any time, so a run is a trace of environment
events: a cancellation, or a poll of the `select!` together with what each branch's future
yields at that poll. When the loop breaks, `spawn` runs `NetworkInner::shutdown`, whose errors it
ignores, and aborts the children still in the `JoinSet`.

The engine is not among the sources: its state is a type parameter and `add_peer` a function
that returns the engine's next state or an error.
-/

namespace P2pandaNet.Supervisor

open Address Select Children

/-- A peer found by a discovery service (`p2panda_discovery::DiscoveryEvent`); only its address
is read. -/
structure DiscoveryEvent where
  nodeAddr : NodeAddr

/-- An inbound connection attempt (`iroh_net::endpoint::Incoming`): what its `accept()` returns. -/
structure Incoming where
  accept : Except String Connecting

/-- What the futures of the three environment-driven branches yield at one poll. A finished child
is named by its position in the `JoinSet`. -/
structure Ready where
  accept : Poll (Option Incoming)
  discovery : Poll (Option (Except String DiscoveryEvent))
  joinNext : Poll (Option (Nat × JoinResult))

/-- The branch the `select!` runs, with what its pattern bound. -/
inductive Branch where
  | cancelled
  | incoming (i : Incoming)
  | discovered (e : Except String DiscoveryEvent)
  | joined (res : Option (Nat × JoinResult))

/-- The loop's own state: the running children and the engine. -/
structure State (E : Type) where
  joinSet : List Child
  engine : E

/-- The loop after it broke: `NetworkInner::shutdown` ran and `join_set.shutdown()` aborted the
children that were left. -/
structure Halted (E : Type) where
  engine : E
  aborted : List Child

inductive Loop (E : Type) where
  | running (s : State E)
  | halted (h : Halted E)

def Loop.isHalted {E : Type} : Loop E → Bool
  | .running _ => false
  | .halted _ => true

/-- The node as the loop sees it: the cancel token and the loop. -/
structure Node (E : Type) where
  cancelled : Bool
  loop : Loop E

inductive Event where
  | cancel
  | poll (r : Ready)

/-- What a handler tells the loop: go round again, or `break`, with the loop's state at that
point. -/
inductive Control (E : Type) where
  | proceed (s : State E)
  | stop (s : State E)

def Control.isStop {E : Type} : Control E → Bool
  | .proceed _ => false
  | .stop _ => true

@[simp] theorem Control.isStop_proceed {E : Type} (s : State E) : (Control.proceed s).isStop = false :=
  rfl
@[simp] theorem Control.isStop_stop {E : Type} (s : State E) : (Control.stop s).isStop = true := rfl

variable {E : Type}

/-- The branches in source order. `cancelled()` is ready exactly when the token is cancelled,
and its pattern `_` never refuses. -/
def arms (cancelled : Bool) (s : State E) (r : Ready) : List (Arm Branch) :=
  [if cancelled then .matched .cancelled else .pending,
    someArm r.accept .incoming,
    someArm r.discovery .discovered,
    guardedArm (!s.joinSet.isEmpty) r.joinNext .joined]

def select (cancelled : Bool) (s : State E) (r : Ready) : Selected Branch :=
  biased (arms cancelled s r)

/-- The cancel branch is polled first: a cancelled token wins over every other branch. -/
@[simp] theorem select_true (s : State E) (r : Ready) : select true s r = .run .cancelled := rfl

/-- The cancel branch is never disabled, so the loop's `else => break` is dead. -/
theorem select_ne_otherwise (c : Bool) (s : State E) (r : Ready) : select c s r ≠ .otherwise := by
  cases c <;> simp [select, arms]

theorem select_eq_cancelled (c : Bool) (s : State E) (r : Ready) :
    select c s r = .run .cancelled ↔ c = true := by
  cases c with
  | true => simp
  | false =>
    simp only [Bool.false_eq_true, iff_false]
    intro h
    simpa [arms, eq_comm (a := Arm.matched Branch.cancelled)] using biased_run_mem h

/-- The join branch runs only on a non-empty `JoinSet`, with what `join_next` yielded. -/
theorem select_eq_joined {c : Bool} {s : State E} {r : Ready} {res : Option (Nat × JoinResult)}
    (h : select c s r = .run (.joined res)) : s.joinSet ≠ [] ∧ r.joinNext = .ready res := by
  have hm := biased_run_mem h
  cases c <;> simpa [arms, eq_comm (a := Arm.matched (Branch.joined res))] using hm

/-- The `JoinSet` once `join_next` has returned a finished task. -/
def finish (joinSet : List Child) : Option (Nat × JoinResult) → List Child
  | some (i, _) => joinSet.eraseIdx i
  | none => joinSet

section Handle

variable (addPeer : E → NodeAddr → Except String E)

/-- The handlers of the four branches. -/
def handle (s : State E) : Branch → Control E
  | .cancelled => .stop s
  | .incoming i =>
    match i.accept with
    | .error _ => .proceed s
    | .ok c => .proceed { s with joinSet := s.joinSet ++ [.connection c] }
  | .discovered (.ok event) =>
    match addPeer s.engine event.nodeAddr with
    | .ok engine => .proceed { s with engine := engine }
    | .error _ => .stop s
  | .discovered (.error _) => .stop s
  | .joined res =>
    let s' := { s with joinSet := finish s.joinSet res }
    match res with
    | some (_, .error outer) =>
      if outer.isPanic then .stop s' else if outer.isCancelled then .proceed s' else .stop s'
    | _ => .proceed s'

/-- The handlers that `break`: cancellation, a discovery error, a failed `add_peer` and a panicked
child; every other branch goes round again. -/
theorem handle_eq_stop (s : State E) (b : Branch) :
    (handle addPeer s b).isStop ↔
      b = .cancelled ∨ (∃ err, b = .discovered (.error err)) ∨
      (∃ ev err, b = .discovered (.ok ev) ∧ addPeer s.engine ev.nodeAddr = .error err) ∨
      ∃ i, b = .joined (some (i, .error .panic)) := by
  cases b with
  | cancelled => simp [handle]
  | incoming i => obtain ⟨_ | c⟩ := i <;> simp [handle]
  | discovered e =>
    rcases e with err | ev
    · simp [handle]
    · cases h : addPeer s.engine ev.nodeAddr <;> simp [handle, h]
  | joined res =>
    rcases res with _ | ⟨i, (_ | _) | (_ | _)⟩ <;>
      simp [handle, JoinError.isPanic, JoinError.isCancelled]

/-- One pass of the loop body at a poll; `none` while the `select!` keeps waiting. -/
def iteration (cancelled : Bool) (s : State E) (r : Ready) : Option (Control E) :=
  match select cancelled s r with
  | .run b => some (handle addPeer s b)
  | .otherwise => some (.stop s)
  | .waiting => none

/-- What `spawn` does after the loop. -/
def halt (s : State E) : Halted E := ⟨s.engine, s.joinSet⟩

def step (n : Node E) : Event → Node E
  | .cancel => { n with cancelled := true }
  | .poll r =>
    match n.loop with
    | .halted _ => n
    | .running s =>
      match iteration addPeer n.cancelled s r with
      | none => n
      | some (.proceed s') => { n with loop := .running s' }
      | some (.stop s') => { n with loop := .halted (halt s') }

/-- A poll of a running loop halts it exactly when the branch it selects has a handler that
breaks. -/
theorem step_poll_isHalted (n : Node E) (s : State E) (hs : n.loop = .running s) (r : Ready) :
    (step addPeer n (.poll r)).loop.isHalted ↔
      ∃ b, select n.cancelled s r = .run b ∧ (handle addPeer s b).isStop := by
  cases hsel : select n.cancelled s r with
  | run b => cases hh : handle addPeer s b <;> simp [step, hs, iteration, hsel, hh, Loop.isHalted]
  | otherwise => exact absurd hsel (select_ne_otherwise _ _ _)
  | waiting => simp [step, hs, iteration, hsel, Loop.isHalted]

/-- A halted loop stays halted; only the token can still change. -/
theorem step_halted (n : Node E) (h : Halted E) (hn : n.loop = .halted h) (e : Event) :
    (step addPeer n e).loop = .halted h := by
  cases e <;> simp [step, hn]

def run (n : Node E) : List Event → Node E
  | [] => n
  | e :: es => run (step addPeer n e) es

@[simp] theorem run_nil (n : Node E) : run addPeer n [] = n := rfl
@[simp] theorem run_cons (n : Node E) (e : Event) (es : List Event) :
    run addPeer n (e :: es) = run addPeer (step addPeer n e) es := rfl

theorem run_append (n : Node E) (es fs : List Event) :
    run addPeer n (es ++ fs) = run addPeer (run addPeer n es) fs := by
  induction es generalizing n with
  | nil => rfl
  | cons e es ih => exact ih _

end Handle

/-- The node right after `spawn` enters its loop: the address-update task is the only child. -/
def init (engine : E) : Node E := ⟨false, .running ⟨[.addressUpdates], engine⟩⟩

end P2pandaNet.Supervisor
