import P2pandaNet.Supervisor

/-!
# The loop under tokio's own `select!`

`Supervisor` reads each poll as a `select!` of its own. In the task that runs `spawn`, a
`select!` lasts from the wake that enters it to the wake at which a handler runs: its
precondition is evaluated once when it is entered, and a branch disabled at a wake stays
disabled, its future never polled again, for the rest of that `select!`. Here the task keeps that
mask, and a run of wakes is matched, event for event, by a run of the one-poll model: a wake is
a poll at which the branches disabled so far yield `None` (`translate`). Conversely every run of
the model is one of the task, with each `None` read as still pending (`hide`). So every theorem
about runs of `Supervisor.run` holds of the task as tokio runs it.
-/

namespace P2pandaNet.Wakes

open Address Select Children Supervisor

variable {E : Type}

/-- What the branches' futures yield at a wake, before the mask: the token, `accept()`, the
discovery stream and `join_next`. -/
def polled (c : Bool) (r : Ready) : List (Arm Branch) :=
  [if c then .matched .cancelled else .pending, someArm r.accept .incoming,
    someArm r.discovery .discovered, guardedArm true r.joinNext .joined]

/-- The mask a `select!` is entered with: only the join branch has a precondition,
`!join_set.is_empty()`. -/
def preconditions (s : State E) : List Bool := [false, false, false, s.joinSet.isEmpty]

/-- The task running the loop: the node, and the mask of the `select!` it waits in, `none`
between two `select!`s. -/
structure Task (E : Type) where
  node : Node E
  mask : Option (List Bool)

section Wake

variable (addPeer : E → NodeAddr → Except String E)

/-- One event for the task: a wake enters a `select!` if it waits in none, polls the unmasked
branches, and runs a handler or keeps waiting. -/
def wakeStep (t : Task E) : Event → Task E
  | .cancel => { t with node := { t.node with cancelled := true } }
  | .poll r =>
    match t.node.loop with
    | .halted _ => t
    | .running s =>
      let woken := pollBranches false
        ((t.mask.getD (preconditions s)).zip (polled t.node.cancelled r))
      match woken.1 with
      | .run b =>
        match handle addPeer s b with
        | .proceed s' => ⟨{ t.node with loop := .running s' }, none⟩
        | .stop s' => ⟨{ t.node with loop := .halted (halt s') }, none⟩
      | .otherwise => ⟨{ t.node with loop := .halted (halt s) }, none⟩
      | .waiting => { t with mask := some woken.2 }

def wakeRun (t : Task E) : List Event → Task E
  | [] => t
  | e :: es => wakeRun (wakeStep addPeer t e) es

/-- A wake as a poll of the model, given the mask bits of the endpoint and of the discovery
stream: a disabled branch yields `None`. -/
def revealReady (a d : Bool) (r : Ready) : Ready :=
  ⟨if a then .ready none else r.accept, if d then .ready none else r.discovery, r.joinNext⟩

/-- An event as the model reads it under the mask the task holds. -/
def reveal (mask : Option (List Bool)) : Event → Event
  | .cancel => .cancel
  | .poll r => .poll (revealReady ((mask.getD []).getD 1 false) ((mask.getD []).getD 2 false) r)

/-- The model's events for a run of wakes: each read with the mask the task holds at it. -/
def translate (t : Task E) : List Event → List Event
  | [] => []
  | e :: es => reveal t.mask e :: translate (wakeStep addPeer t e) es

end Wake

/-- The masks a task can hold: the cancel branch is never disabled, and the join branch is disabled
exactly when the `JoinSet` is empty. -/
def Masked (t : Task E) : Prop :=
  ∀ m, t.mask = some m → ∃ s a d, t.node.loop = .running s ∧ m = [false, a, d, s.joinSet.isEmpty]

theorem Masked.mask_eq {t : Task E} (ht : Masked t) {s : State E}
    (hs : t.node.loop = .running s) : ∃ a d,
      t.mask.getD (preconditions s) = [false, a, d, s.joinSet.isEmpty] ∧
        ∀ r, reveal t.mask (.poll r) = .poll (revealReady a d r) := by
  cases hm : t.mask with
  | none => exact ⟨false, false, rfl, fun r => rfl⟩
  | some m =>
    obtain ⟨s', a, d, hs', rfl⟩ := ht m hm
    obtain rfl : s' = s := Loop.running.inj (hs'.symm.trans hs)
    exact ⟨a, d, rfl, fun r => rfl⟩

/-- A wake selects what the model selects at the poll it reads as. -/
theorem wake_select (c : Bool) (s : State E) (a d : Bool) (r : Ready) :
    (pollBranches false ([false, a, d, s.joinSet.isEmpty].zip (polled c r))).1 =
      select c s (revealReady a d r) := by
  rw [pollBranches_fst]
  cases a <;> cases d <;> cases hj : s.joinSet.isEmpty <;>
    simp [select, arms, polled, revealReady, Arm.masked, someArm, guardedArm, hj]

/-- A wake that keeps waiting adds the refused values of the endpoint and the discovery stream to
the mask; the cancel and join branches refuse nothing. -/
theorem wake_mask (c : Bool) (s : State E) (a d : Bool) (r : Ready)
    (h : (pollBranches false ([false, a, d, s.joinSet.isEmpty].zip (polled c r))).1 = .waiting) :
    (pollBranches false ([false, a, d, s.joinSet.isEmpty].zip (polled c r))).2 =
      [false, a || (someArm r.accept Branch.incoming).refused,
        d || (someArm r.discovery Branch.discovered).refused, s.joinSet.isEmpty] := by
  rw [pollBranches_snd _ _ (fun b hb => by simp [hb] at h)]
  cases c <;> rcases r with ⟨_, _, _ | _⟩ <;> simp [polled, guardedArm, Arm.refused]

section Simulation

variable (addPeer : E → NodeAddr → Except String E)

/-- A wake of a running task is the model's step at the poll it reads as; if it keeps waiting, the
refused values are added to the mask. -/
theorem wakeStep_poll (t : Task E) (s : State E) (hl : t.node.loop = .running s) (a d : Bool)
    (hmask : t.mask.getD (preconditions s) = [false, a, d, s.joinSet.isEmpty]) (r : Ready) :
    (wakeStep addPeer t (.poll r)).node = step addPeer t.node (.poll (revealReady a d r)) ∧
      ((wakeStep addPeer t (.poll r)).mask = none ∨
        (wakeStep addPeer t (.poll r)).node = t.node ∧
          (wakeStep addPeer t (.poll r)).mask =
            some [false, a || (someArm r.accept Branch.incoming).refused,
              d || (someArm r.discovery Branch.discovered).refused, s.joinSet.isEmpty]) := by
  have hsel := wake_select t.node.cancelled s a d r
  cases hw : (pollBranches false
      ([false, a, d, s.joinSet.isEmpty].zip (polled t.node.cancelled r))).1 with
  | run b =>
    rw [hw] at hsel
    cases hh : handle addPeer s b <;> simp [wakeStep, step, iteration, hl, hmask, hw, hh, ← hsel]
  | otherwise =>
    rw [hw] at hsel
    simp [wakeStep, step, iteration, hl, hmask, hw, ← hsel]
  | waiting =>
    rw [hw] at hsel
    simp [wakeStep, step, iteration, hl, hmask, hw, ← hsel, wake_mask _ s a d r hw]

/-- One event of the task is one step of the model on the event as the task's mask reads it, and
the mask stays one the task can hold. -/
theorem wakeStep_node (t : Task E) (ht : Masked t) (e : Event) :
    (wakeStep addPeer t e).node = step addPeer t.node (reveal t.mask e) ∧
      Masked (wakeStep addPeer t e) := by
  cases e with
  | cancel => exact ⟨rfl, ht⟩
  | poll r =>
    cases hl : t.node.loop with
    | halted h => exact ⟨by simp [wakeStep, reveal, step, hl], by simpa [wakeStep, hl] using ht⟩
    | running s =>
      obtain ⟨a, d, hmask, hrev⟩ := ht.mask_eq hl
      obtain ⟨hnode, hnone | ⟨hn, h⟩⟩ := wakeStep_poll addPeer t s hl a d hmask r
      · exact ⟨hrev r ▸ hnode, fun m hm => by simp [hnone] at hm⟩
      · exact ⟨hrev r ▸ hnode, fun m hm => ⟨s, _, _, hn ▸ hl, (Option.some.inj (h.symm.trans hm)).symm⟩⟩

/-- Every run of wakes is the model's run over the events as the task's masks read them. -/
theorem wakeRun_node (t : Task E) (ht : Masked t) (events : List Event) :
    (wakeRun addPeer t events).node = run addPeer t.node (translate addPeer t events) := by
  induction events generalizing t with
  | nil => rfl
  | cons e es ih =>
    obtain ⟨hnode, hmasked⟩ := wakeStep_node addPeer t ht e
    rw [wakeRun, translate, run_cons, ← hnode]
    exact ih _ hmasked

/-- A `None` of the endpoint or of the discovery stream read as still pending. -/
def noneAsPending {α : Type} : Poll (Option α) → Poll (Option α)
  | .ready none => .pending
  | p => p

def hide : Event → Event
  | .cancel => .cancel
  | .poll r => .poll ⟨noneAsPending r.accept, noneAsPending r.discovery, r.joinNext⟩

/-- The cancel branch is never disabled, so a branch that yields `None` selects what a pending
one does: both are passed over, and `else` is out of reach. -/
theorem select_hide (c : Bool) (s : State E) (r : Ready) :
    select c s ⟨noneAsPending r.accept, noneAsPending r.discovery, r.joinNext⟩ = select c s r := by
  cases c
  · rcases r with ⟨_ | _ | _, _ | _ | _, _⟩ <;> simp [select, arms, noneAsPending, someArm]
  · rfl

theorem step_hide (n : Node E) (e : Event) : step addPeer n (hide e) = step addPeer n e := by
  cases e with
  | cancel => rfl
  | poll r => simp only [hide, step, iteration, select_hide]

@[simp] theorem someArm_noneAsPending_refused {α β : Type} (p : Poll (Option α)) (f : α → β) :
    (someArm (noneAsPending p) f).refused = false := by
  rcases p with _ | _ | _ <;> rfl

/-- The masks of a task that has taken no `None`: its preconditions. -/
def Fresh (t : Task E) : Prop :=
  ∀ m, t.mask = some m → ∃ s, t.node.loop = .running s ∧ m = preconditions s

theorem Fresh.masked {t : Task E} (h : Fresh t) : Masked t := fun m hm => by
  obtain ⟨s, hs, rfl⟩ := h m hm
  exact ⟨s, false, false, hs, rfl⟩

theorem Fresh.reveal_eq {t : Task E} (h : Fresh t) (e : Event) : reveal t.mask e = e := by
  cases e with
  | cancel => rfl
  | poll r =>
    cases hm : t.mask with
    | none => simp [reveal, revealReady]
    | some m =>
      obtain ⟨s, -, rfl⟩ := h m hm
      simp [reveal, revealReady, preconditions]

theorem Fresh.getD_eq {t : Task E} (h : Fresh t) {s : State E} (hs : t.node.loop = .running s) :
    t.mask.getD (preconditions s) = preconditions s := by
  cases hm : t.mask with
  | none => rfl
  | some m =>
    obtain ⟨s', hs', rfl⟩ := h m hm
    rw [Loop.running.inj (hs'.symm.trans hs)]
    rfl

/-- A wake at which the endpoint and the discovery stream yield no `None` leaves a task fresh, and
it is the model's step. -/
theorem wakeStep_hide (t : Task E) (hf : Fresh t) (e : Event) :
    (wakeStep addPeer t (hide e)).node = step addPeer t.node e ∧
      Fresh (wakeStep addPeer t (hide e)) := by
  obtain ⟨hnode, -⟩ := wakeStep_node addPeer t hf.masked (hide e)
  refine ⟨by rw [hnode, hf.reveal_eq, step_hide], fun m hm => ?_⟩
  cases e with
  | cancel => exact hf m hm
  | poll r =>
    cases hl : t.node.loop with
    | halted h =>
      have ht : wakeStep addPeer t (hide (.poll r)) = t := by simp [hide, wakeStep, hl]
      rw [ht] at hm ⊢
      exact hf m hm
    | running s =>
      simp only [hide] at hm ⊢
      obtain ⟨-, h | ⟨hn, h⟩⟩ := wakeStep_poll addPeer t s hl false false (hf.getD_eq hl)
        ⟨noneAsPending r.accept, noneAsPending r.discovery, r.joinNext⟩
      · simp [h] at hm
      · refine ⟨s, hn ▸ hl, ?_⟩
        simpa [preconditions, h] using hm.symm

theorem wakeRun_hide (t : Task E) (hf : Fresh t) (events : List Event) :
    (wakeRun addPeer t (events.map hide)).node = run addPeer t.node events := by
  induction events generalizing t with
  | nil => rfl
  | cons e es ih =>
    obtain ⟨hnode, hfresh⟩ := wakeStep_hide addPeer t hf e
    rw [List.map_cons, wakeRun, run_cons, ← hnode]
    exact ih _ hfresh

/-- The one-poll model is exact for tokio's `select!`: every run of wakes ends where the model ends
on the events they read as, and every model run is a task run. -/
theorem wakeRun_agrees_with_run (n : Node E) (events : List Event) :
    (wakeRun addPeer ⟨n, none⟩ events).node = run addPeer n (translate addPeer ⟨n, none⟩ events) ∧
      (wakeRun addPeer ⟨n, none⟩ (events.map hide)).node = run addPeer n events :=
  ⟨wakeRun_node addPeer _ (fun _ hm => by cases hm) events,
    wakeRun_hide addPeer _ (fun _ hm => by cases hm) events⟩

theorem wakeRun_append (t : Task E) (xs ys : List Event) :
    wakeRun addPeer t (xs ++ ys) = wakeRun addPeer (wakeRun addPeer t xs) ys := by
  induction xs generalizing t with
  | nil => rfl
  | cons e es ih => exact ih _

/-- A wake at which neither the endpoint nor the discovery stream has an item: each is still
pending or yields `None`. -/
def idle (r : Ready) : Bool :=
  match r.accept, r.discovery with
  | .ready (some _), _ | _, .ready (some _) => false
  | _, _ => true

/-- With the token not cancelled and the `JoinSet` empty, an idle poll keeps the `select!`
waiting on the cancel branch, whatever the mask has disabled. -/
theorem select_idle (s : State E) (hempty : s.joinSet = []) (a d : Bool) (r : Ready)
    (hr : idle r = true) : select false s (revealReady a d r) = .waiting := by
  rcases r with ⟨_ | _ | _, _ | _ | _, _⟩ <;> cases a <;> cases d <;>
    simp_all [idle, select, arms, revealReady, someArm, guardedArm]

/-- Idle wakes leave the node and the shape of the mask as they are. -/
theorem idle_wakeRun (t : Task E) (ht : Masked t) (s : State E) (hs : t.node.loop = .running s)
    (hempty : s.joinSet = []) (hc : t.node.cancelled = false) (rs : List Ready)
    (hidle : ∀ r ∈ rs, idle r = true) :
    (wakeRun addPeer t (rs.map .poll)).node = t.node ∧ Masked (wakeRun addPeer t (rs.map .poll)) := by
  induction rs generalizing t with
  | nil => exact ⟨rfl, ht⟩
  | cons r rs ih =>
    obtain ⟨hnode, hmasked⟩ := wakeStep_node addPeer t ht (.poll r)
    obtain ⟨a, d, -, hrev⟩ := ht.mask_eq hs
    have hsame : (wakeStep addPeer t (.poll r)).node = t.node := by
      rw [hnode, hrev]
      simp [step, hs, iteration, hc, select_idle s hempty a d r (hidle r (.head _))]
    obtain ⟨h1, h2⟩ := ih _ hmasked (hsame ▸ hs) (hsame ▸ hc) fun r' hr' => hidle r' (.tail _ hr')
    exact ⟨h1.trans hsame, h2⟩

/-- The loop's `else` never runs: with the `JoinSet` empty, wakes with no item leave the node as it
is, and it ends only at the next wake after a cancellation. -/
theorem idle_loop_ends_only_on_cancel (t : Task E) (ht : Masked t) (s : State E)
    (hs : t.node.loop = .running s) (hempty : s.joinSet = []) (hc : t.node.cancelled = false)
    (rs : List Ready) (hidle : ∀ r ∈ rs, idle r = true) (r : Ready) :
    (wakeRun addPeer t (rs.map .poll)).node = t.node ∧
      (wakeRun addPeer t (rs.map .poll ++ [.cancel, .poll r])).node.loop = .halted (halt s) := by
  obtain ⟨hnode, hmasked⟩ := idle_wakeRun addPeer t ht s hs hempty hc rs hidle
  refine ⟨hnode, ?_⟩
  set t' := wakeRun addPeer t (rs.map .poll)
  have hc' : Masked (wakeStep addPeer t' .cancel) := (wakeStep_node addPeer t' hmasked .cancel).2
  rw [wakeRun_append, wakeRun, wakeRun, wakeRun, (wakeStep_node addPeer _ hc' (.poll r)).1]
  have hl : (wakeStep addPeer t' .cancel).node.loop = .running s := by
    simp [wakeStep, hnode, hs]
  simp [reveal, step, hl, iteration, handle, wakeStep, hnode, hs]

end Simulation

/-- A node whose endpoint and discovery stream have both ended and whose children are all done,
between two `select!`s. -/
def drained : Task (List NodeAddr) := ⟨⟨false, .running ⟨[], []⟩⟩, none⟩

def closedSources : Ready := ⟨.ready none, .ready none, .pending⟩

theorem idle_loop_ends_only_on_cancel_drained :
    Masked drained ∧ drained.node.loop = .running ⟨[], []⟩ ∧
      (⟨[], []⟩ : State (List NodeAddr)).joinSet = [] ∧ drained.node.cancelled = false ∧
      (∀ r ∈ [closedSources, closedSources], idle r = true) ∧
      (wakeRun (fun peers a => .ok (peers ++ [a])) drained
          ([closedSources, closedSources].map .poll)).node = drained.node ∧
      (wakeRun (fun peers a => .ok (peers ++ [a])) drained
          ([closedSources, closedSources].map .poll ++ [.cancel, .poll closedSources])).node.loop =
        .halted (halt ⟨[], []⟩) :=
  ⟨(fun _ hm => by cases hm), rfl, rfl, rfl, by decide,
    idle_loop_ends_only_on_cancel _ drained (fun _ hm => by cases hm) _ rfl rfl rfl _ (by decide)
      closedSources⟩

end P2pandaNet.Wakes
