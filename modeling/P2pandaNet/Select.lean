import Mathlib.Data.List.Basic

/-!
# Tokio's `select!` and `JoinSet` results

The supervisor loop is one `tokio::select!` with the `biased` flag. At each poll the macro goes
through its branches top to bottom: a branch whose future is still pending is passed over, a
branch whose future is ready with a value its pattern refuses is disabled for the rest of that
`select!`, and the first ready branch whose pattern matches runs its handler. `else` runs only
when every branch is disabled; otherwise the task sleeps until a future wakes it.

A poll is described by what each branch's future yields at that poll. Since the environment may
yield anything at any poll, a branch disabled at an earlier poll of the same `select!` is the
same as one that yields a refused value again, so one poll describes every way a `select!` ends.
Within one `select!` the macro keeps a mask of disabled branches: a false precondition sets a
branch's bit before anything is polled, and a refused value sets it at a wake (`pollBranches`).
-/

namespace P2pandaNet.Select

/-- The cause of a `tokio::task::JoinError`: tokio builds one only for a task that was cancelled
or one that panicked. -/
inductive JoinError where
  | cancelled
  | panic
  deriving DecidableEq, Repr

namespace JoinError

def isPanic : JoinError → Bool
  | panic => true
  | cancelled => false

def isCancelled : JoinError → Bool
  | cancelled => true
  | panic => false

end JoinError

/-- What `JoinSet::<Result<()>>::join_next` yields for a finished task: the task's own
`anyhow::Result<()>`, or the `JoinError` that ended it. -/
abbrev JoinResult := Except JoinError (Except String Unit)

/-- What a future yields when it is polled. -/
inductive Poll (α : Type) where
  | pending
  | ready (value : α)
  deriving DecidableEq, Repr

/-- A branch of a `select!` at one poll: still pending, disabled, or matched with the handler
input it carries. -/
inductive Arm (β : Type) where
  | pending
  | disabled
  | matched (b : β)
  deriving DecidableEq, Repr

/-- The end of one poll of a `select!`: run a handler, run `else`, or keep waiting. -/
inductive Selected (β : Type) where
  | run (b : β)
  | otherwise
  | waiting
  deriving DecidableEq, Repr

variable {α β : Type}

/-- A pending branch keeps the `select!` waiting where the branches after it would run `else`. -/
def Selected.orWaiting : Selected β → Selected β
  | .otherwise => .waiting
  | s => s

@[simp] theorem Selected.orWaiting_run (b : β) : (Selected.run b).orWaiting = .run b := rfl
@[simp] theorem Selected.orWaiting_otherwise : (Selected.otherwise : Selected β).orWaiting = .waiting := rfl
@[simp] theorem Selected.orWaiting_waiting : (Selected.waiting : Selected β).orWaiting = .waiting := rfl
@[simp] theorem Selected.orWaiting_ne_otherwise (s : Selected β) : s.orWaiting ≠ .otherwise := by
  cases s <;> simp
@[simp] theorem Selected.orWaiting_orWaiting (s : Selected β) : s.orWaiting.orWaiting = s.orWaiting := by
  cases s <;> rfl

/-- `tokio::select! { biased; .. }`: the first matched branch in source order runs; `else` runs
only when no branch can still complete. -/
def biased : List (Arm β) → Selected β
  | [] => .otherwise
  | .matched b :: _ => .run b
  | .disabled :: arms => biased arms
  | .pending :: arms => (biased arms).orWaiting

@[simp] theorem biased_nil : biased ([] : List (Arm β)) = .otherwise := rfl
@[simp] theorem biased_matched (b : β) (arms : List (Arm β)) :
    biased (.matched b :: arms) = .run b := rfl
@[simp] theorem biased_disabled (arms : List (Arm β)) :
    biased (.disabled :: arms) = biased arms := rfl
@[simp] theorem biased_pending (arms : List (Arm β)) :
    biased (.pending :: arms) = (biased arms).orWaiting := rfl

/-- The branch that runs is one of the matched branches. -/
theorem biased_run_mem {arms : List (Arm β)} {b : β} (h : biased arms = .run b) :
    .matched b ∈ arms := by
  induction arms with
  | nil => simp at h
  | cons a arms ih =>
    cases a with
    | pending => cases hb : biased arms <;> simp_all
    | disabled => exact List.mem_cons_of_mem _ (ih h)
    | matched b' => simp_all

/-- A branch `Some(x) = fut => ..`: a ready `None` does not match and disables the branch. -/
def someArm (p : Poll (Option α)) (f : α → β) : Arm β :=
  match p with
  | .pending => .pending
  | .ready none => .disabled
  | .ready (some a) => .matched (f a)

/-- A branch `x = fut, if cond => ..`: a false precondition disables the branch before its
future is polled; the irrefutable pattern matches whatever the future yields. -/
def guardedArm (cond : Bool) (p : Poll α) (f : α → β) : Arm β :=
  if cond then
    match p with
    | .pending => .pending
    | .ready a => .matched (f a)
  else .disabled

@[simp] theorem someArm_eq_matched (p : Poll (Option α)) (f : α → β) (b : β) :
    someArm p f = .matched b ↔ ∃ a, p = .ready (some a) ∧ f a = b := by
  rcases p with _ | _ | a <;> simp [someArm]

@[simp] theorem guardedArm_eq_matched (c : Bool) (p : Poll α) (f : α → β) (b : β) :
    guardedArm c p f = .matched b ↔ c = true ∧ ∃ a, p = .ready a ∧ f a = b := by
  cases c <;> rcases p with _ | a <;> simp [guardedArm]

/-- A poll result its pattern refuses, which disables the branch. -/
def Arm.refused : Arm β → Bool
  | .disabled => true
  | _ => false

/-- A branch as a wake sees it: disabled by the mask, or what its future yields. -/
def Arm.masked : Bool × Arm β → Arm β
  | (true, _) => .disabled
  | (false, a) => a

/-- One wake of the macro's `poll_fn`, `biased`: over the branches with their mask bits, the outcome
and the mask with the bits this wake set. -/
def pollBranches (isPending : Bool) : List (Bool × Arm β) → Selected β × List Bool
  | [] => (if isPending then .waiting else .otherwise, [])
  | (true, _) :: bs => let r := pollBranches isPending bs; (r.1, true :: r.2)
  | (false, .pending) :: bs => let r := pollBranches true bs; (r.1, false :: r.2)
  | (false, .disabled) :: bs => let r := pollBranches isPending bs; (r.1, true :: r.2)
  | (false, .matched b) :: bs => (.run b, false :: bs.map Prod.fst)

/-- A wake ends as `biased` over the branches with the masked ones disabled; once a branch was
pending, `else` turns into waiting. -/
theorem pollBranches_fst (p : Bool) (bs : List (Bool × Arm β)) :
    (pollBranches p bs).1 =
      if p then (biased (bs.map Arm.masked)).orWaiting else biased (bs.map Arm.masked) := by
  induction bs generalizing p with
  | nil => cases p <;> rfl
  | cons x bs ih =>
    rcases x with ⟨_ | _, _ | _ | b⟩ <;> cases p <;> simp [pollBranches, Arm.masked, ih]

/-- A wake that runs no handler polls every branch: its mask adds exactly the refused ones. -/
theorem pollBranches_snd (p : Bool) (bs : List (Bool × Arm β))
    (h : ∀ b, (pollBranches p bs).1 ≠ .run b) :
    (pollBranches p bs).2 = bs.map fun x => x.1 || x.2.refused := by
  induction bs generalizing p with
  | nil => rfl
  | cons x bs ih =>
    rcases x with ⟨_ | _, _ | _ | b⟩
    · simpa [pollBranches, Arm.refused] using ih true h
    · simpa [pollBranches, Arm.refused] using ih p h
    · exact absurd rfl (h b)
    all_goals simpa [pollBranches, Arm.refused] using ih p h

end P2pandaNet.Select
