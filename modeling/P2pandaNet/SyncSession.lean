import Mathlib.Data.List.Basic

/-!
# One side of a sync session

A sync protocol's `initiate` and `accept` each run against a CBOR stream from the peer, a CBOR
sink to it and the application's sink `app_tx`. The stream yields the peer's messages in order,
an `Err` for one that fails to decode, and `None` once the peer has closed its half; while the
peer keeps that half open, `stream.next()` waits. Every send and flush may fail: a `?` returns
the error and an `unwrap` panics, so the first failing write ends the side.

A side's behaviour is described by a `Plan`: the writes it makes in order, and how it ends if
none of them fails. `Follows` says that a side's runs end as a plan says, whatever write fails
first, and the lemmas below build it up one action at a time.
-/

namespace P2pandaNet.SyncSession

/-- The errors a side returns (`p2panda_sync::SyncError`): the protocols' own `UnexpectedBehaviour`,
and those of the codec and the sinks. -/
inductive SyncError where
  | unexpectedBehaviour (msg : String)
  | external (msg : String)
  deriving DecidableEq, Repr

/-- What a side hands its application (`p2panda_sync::FromSync`). -/
inductive FromSync (T : Type) where
  | handshakeSuccess (topic : T)
  | data (header : List UInt8) (payload : Option (List UInt8))
  deriving DecidableEq, Repr

/-- The writes of a side: into the sink to the peer, into `app_tx`, and the flushes of the two. -/
inductive Write (M A : Type) where
  | sinkSend (m : M)
  | sinkFlush
  | appSend (a : A)
  | appFlush
  deriving DecidableEq, Repr

variable {M A P : Type}

def Write.sent : Write M A → List M
  | .sinkSend m => [m]
  | _ => []

def Write.reported : Write M A → List A
  | .appSend a => [a]
  | _ => []

/-- What a side does at a program point: a write names where its success and its failure lead,
and `recv` is `stream.next().await`. -/
inductive Action (M A P : Type) where
  | write (w : Write M A) (next : P) (fail : SyncError → P)
  | recv (next : Option (Except SyncError M) → P)
  | done (result : Except SyncError Unit)
  | panic

/-- How a failing write ends the side: an `unwrap` panics, a `?` returns the error. -/
def failure : Bool → SyncError → Action M A P
  | true, _ => .panic
  | false, e => .done (.error e)

/-- What a side meets: the items of the peer's half, whether the peer closes it after them, and,
if a write fails, how many writes succeed before it and its error. -/
structure Surroundings (M : Type) where
  items : List (Except SyncError M)
  closed : Bool
  breaks : Option (Nat × SyncError)

/-- A side between two steps: its program point, and what it has sent and reported so far. -/
structure Side (M A P : Type) where
  pc : P
  sent : List M
  reported : List A

namespace Side

/-- The side after a write that succeeded. -/
def record (s : Side M A P) (w : Write M A) (next : P) : Side M A P :=
  ⟨next, s.sent ++ w.sent, s.reported ++ w.reported⟩

/-- The side with `sent` and `reported` written before everything it has written. -/
def after (s : Side M A P) (sent : List M) (reported : List A) : Side M A P :=
  ⟨s.pc, sent ++ s.sent, reported ++ s.reported⟩

/-- One step; `none` once the side has returned or panicked, or while it waits on a drained
stream whose peer keeps its half open. -/
def step (act : P → Action M A P) (s : Side M A P) (env : Surroundings M) :
    Option (Side M A P × Surroundings M) :=
  match act s.pc, env.breaks, env.items with
  | .write w next _, none, _ => some (s.record w next, env)
  | .write w next _, some (k + 1, e), _ =>
    some (s.record w next, { env with breaks := some (k, e) })
  | .write _ _ fail, some (0, e), _ => some ({ s with pc := fail e }, env)
  | .recv next, _, i :: items => some ({ s with pc := next (some i) }, { env with items := items })
  | .recv next, _, [] => if env.closed then some ({ s with pc := next none }, env) else none
  | .done _, _, _ | .panic, _, _ => none

def run (act : P → Action M A P) :
    Nat → Side M A P → Surroundings M → Side M A P × Surroundings M
  | 0, s, env => (s, env)
  | n + 1, s, env =>
    match s.step act env with
    | some (s', env') => run act n s' env'
    | none => (s, env)

variable {act : P → Action M A P}

/-- A side never reads what it has written: a step is the same after any earlier writes. -/
theorem step_after (s : Side M A P) (sent : List M) (reported : List A) (env : Surroundings M) :
    (s.after sent reported).step act env =
      (s.step act env).map fun r => (r.1.after sent reported, r.2) := by
  unfold step
  split <;> simp_all [record, after]

theorem run_after (n : Nat) (s : Side M A P) (sent : List M) (reported : List A)
    (env : Surroundings M) :
    run act n (s.after sent reported) env =
      ((run act n s env).1.after sent reported, (run act n s env).2) := by
  induction n generalizing s env with
  | zero => rfl
  | succ n ih =>
    simp only [run, step_after]
    cases s.step act env with
    | none => rfl
    | some r => exact ih r.1 r.2

theorem run_of_step_eq_none {s : Side M A P} {env : Surroundings M} (h : s.step act env = none)
    (n : Nat) : run act n s env = (s, env) := by
  cases n <;> simp [run, h]

end Side

/-- How a side stands after a run: returned, panicked, waiting on a drained stream whose peer
keeps its half open, or still running for want of steps. -/
inductive Ending where
  | returned (result : Except SyncError Unit)
  | panicked
  | waiting
  | running

def Side.ending (act : P → Action M A P) (s : Side M A P) (env : Surroundings M) : Ending :=
  match act s.pc with
  | .done r => .returned r
  | .panic => .panicked
  | .recv _ => if env.items.isEmpty && !env.closed then .waiting else .running
  | .write .. => .running

/-- What a run shows of a side: how it stands, what it sent its peer and what it reported. -/
def outcome (act : P → Action M A P) (r : Side M A P × Surroundings M) :
    Ending × List M × List A :=
  (r.1.ending act r.2, r.1.sent, r.1.reported)

/-- A plan: the writes a side makes in order, each with whether it is `unwrap`ped, and how the
side ends if none of them fails. -/
structure Plan (M A : Type) where
  writes : List (Write M A × Bool)
  ending : Ending

/-- What a plan's writes leave when the write after the first `k` fails with `e`
(`some (k, e)`): the writes before it are made, and the failing one ends the side. -/
def cut (ending : Ending) : List (Write M A × Bool) → Option (Nat × SyncError) →
    Ending × List M × List A
  | [], _ => (ending, [], [])
  | (_, u) :: _, some (0, e) => (if u then .panicked else .returned (.error e), [], [])
  | (w, _) :: ws, some (k + 1, e) =>
    let o := cut ending ws (some (k, e))
    (o.1, w.sent ++ o.2.1, w.reported ++ o.2.2)
  | (w, _) :: ws, none =>
    let o := cut ending ws none
    (o.1, w.sent ++ o.2.1, w.reported ++ o.2.2)

/-- `sink.flush().await?; app_tx.flush().await?; Ok(())`, with which every side here ends. -/
def flushes : Plan M A := ⟨[(.sinkFlush, false), (.appFlush, false)], .returned (.ok ())⟩

def Plan.outcome (p : Plan M A) (breaks : Option (Nat × SyncError)) : Ending × List M × List A :=
  cut p.ending p.writes breaks

/-- From `p`, against a stream of `items`, closed after them or not, every run of `fuel` steps or
more ends as `plan` says, whichever write fails first. -/
def Follows (act : P → Action M A P) (p : P) (items : List (Except SyncError M)) (closed : Bool)
    (plan : Plan M A) (fuel : Nat) : Prop :=
  ∀ breaks n, fuel ≤ n →
    outcome act (Side.run act n ⟨p, [], []⟩ ⟨items, closed, breaks⟩) = plan.outcome breaks

section Follows

variable {act : P → Action M A P} {p : P} {items : List (Except SyncError M)} {closed : Bool}
  {plan : Plan M A} {fuel : Nat}

theorem Follows.mono (h : Follows act p items closed plan fuel) {fuel' : Nat}
    (hf : fuel ≤ fuel') :
    Follows act p items closed plan fuel' :=
  fun breaks n hn => h breaks n (le_trans hf hn)

theorem follows_done {r : Except SyncError Unit} (hp : act p = .done r) :
    Follows act p items closed ⟨[], .returned r⟩ 0 := by
  intro breaks n _
  rw [Side.run_of_step_eq_none (by simp [Side.step, hp])]
  simp [outcome, Side.ending, hp, Plan.outcome, cut]

theorem follows_panic (hp : act p = .panic) : Follows act p items closed ⟨[], .panicked⟩ 0 := by
  intro breaks n _
  rw [Side.run_of_step_eq_none (by simp [Side.step, hp])]
  simp [outcome, Side.ending, hp, Plan.outcome, cut]

/-- On a drained stream whose peer keeps its half open, `stream.next()` waits. -/
theorem follows_wait {next : Option (Except SyncError M) → P} (hp : act p = .recv next) :
    Follows act p [] false ⟨[], .waiting⟩ 0 := by
  intro breaks n _
  rw [Side.run_of_step_eq_none (by simp [Side.step, hp])]
  simp [outcome, Side.ending, hp, Plan.outcome, cut]

theorem follows_recv {next : Option (Except SyncError M) → P} (hp : act p = .recv next)
    {i : Except SyncError M} (h : Follows act (next (some i)) items closed plan fuel) :
    Follows act p (i :: items) closed plan (fuel + 1) := by
  intro breaks n hn
  obtain ⟨n, rfl⟩ : ∃ m, n = m + 1 := ⟨n - 1, by omega⟩
  simp only [Side.run, Side.step, hp]
  exact h breaks n (by omega)

/-- A closed, drained stream yields `None`. -/
theorem follows_end {next : Option (Except SyncError M) → P} (hp : act p = .recv next)
    (h : Follows act (next none) [] true plan fuel) : Follows act p [] true plan (fuel + 1) := by
  intro breaks n hn
  obtain ⟨n, rfl⟩ : ∃ m, n = m + 1 := ⟨n - 1, by omega⟩
  simp only [Side.run, Side.step, hp, if_true]
  exact h breaks n (by omega)

/-- A write: the plan from its success, with the write in front, and its failure ending the side
as its `?` or `unwrap` does. -/
theorem follows_write {w : Write M A} {next : P} {fail : SyncError → P} {u : Bool}
    {ws : List (Write M A × Bool)} {ending : Ending} (hp : act p = .write w next fail)
    (hfail : ∀ e, act (fail e) = failure u e)
    (h : Follows act next items closed ⟨ws, ending⟩ fuel) :
    Follows act p items closed ⟨(w, u) :: ws, ending⟩ (fuel + 1) := by
  intro breaks n hn
  obtain ⟨n, rfl⟩ : ∃ m, n = m + 1 := ⟨n - 1, by omega⟩
  have hrec : (⟨p, [], []⟩ : Side M A P).record w next =
      (⟨next, [], []⟩ : Side M A P).after w.sent w.reported := by
    simp [Side.record, Side.after]
  rcases breaks with _ | ⟨_ | k, e⟩
  case some.mk.zero =>
    simp only [Side.run, Side.step, hp]
    rw [Side.run_of_step_eq_none (by cases u <;> simp [Side.step, hfail, failure])]
    cases u <;> simp [outcome, Side.ending, hfail, failure, Plan.outcome, cut]
  all_goals
    simp only [Side.run, Side.step, hp, hrec, Side.run_after]
    exact congrArg (fun o => (o.1, w.sent ++ o.2.1, w.reported ++ o.2.2)) (h _ n (by omega))

end Follows

end P2pandaNet.SyncSession
