import P2pandaNet.Supervisor

/-!
# Runs of the supervisor loop

Which polls end the loop, over every trace of cancellations and polls. With an engine whose
`add_peer` never fails, the loop breaks on exactly three kinds of poll: one at which the token is
already cancelled, where the cancel branch is the one that runs; one that completes a child that
panicked; and one that takes a provider error off the discovery stream. A failed `accept()`, a
connection whose handshake fails or whose ALPN has no handler (its child ends with `Ok(())`), a
child's own error and a cancelled child all go round again.
-/

namespace P2pandaNet.Runs

open Address Select Children Supervisor

variable {E : Type} {addPeer : E → NodeAddr → Except String E}

/-- The polls that end the loop when `add_peer` never fails: a cancelled token, a panicked child's
completion, or an error off the discovery stream. -/
def Ends (c : Bool) (s : State E) (r : Ready) : Prop :=
  c = true ∨
    (∃ i, select c s r = .run (.joined (some (i, .error .panic)))) ∨
    ∃ err, select c s r = .run (.discovered (.error err))

theorem run_of_halted (n : Node E) (h : Halted E) (hn : n.loop = .halted h) (es : List Event) :
    (run addPeer n es).loop = .halted h := by
  induction es generalizing n with
  | nil => exact hn
  | cons e es ih => exact ih _ (step_halted addPeer n h hn e)

/-- With the token cancelled, a poll of a running loop halts it with the state it had. -/
theorem step_poll_cancelled (n : Node E) (s : State E) (hs : n.loop = .running s)
    (hc : n.cancelled = true) (r : Ready) : (step addPeer n (.poll r)).loop = .halted (halt s) := by
  simp [step, hs, iteration, hc, handle]

/-- One poll of a running loop halts it exactly on the polls of `Ends`. -/
theorem step_poll_halts_iff (hadd : ∀ e a, ∃ e', addPeer e a = .ok e') (n : Node E)
    (s : State E) (hs : n.loop = .running s) (r : Ready) :
    (step addPeer n (.poll r)).loop.isHalted ↔ Ends n.cancelled s r := by
  rw [step_poll_isHalted addPeer n s hs r]
  constructor
  · rintro ⟨b, hb, hh⟩
    rcases (handle_eq_stop addPeer s b).1 hh with
      rfl | ⟨err, rfl⟩ | ⟨ev, err, rfl, he⟩ | ⟨i, rfl⟩
    · exact .inl ((select_eq_cancelled _ _ _).1 hb)
    · exact .inr (.inr ⟨err, hb⟩)
    · obtain ⟨e', he'⟩ := hadd s.engine ev.nodeAddr
      simp [he] at he'
    · exact .inr (.inl ⟨i, hb⟩)
  · rintro (hc | ⟨i, hb⟩ | ⟨err, hb⟩)
    · exact ⟨_, (select_eq_cancelled _ _ _).2 hc, (handle_eq_stop addPeer s _).2 (by simp)⟩
    all_goals exact ⟨_, hb, (handle_eq_stop addPeer s _).2 (by simp)⟩

/-- Splitting a trace at a poll: the poll is its first event, or lies in its tail. -/
theorem exists_poll_cons (P : List Event → Ready → Prop) (e : Event) (es : List Event) :
    (∃ pre r post, e :: es = pre ++ .poll r :: post ∧ P pre r) ↔
      (∃ r, e = .poll r ∧ P [] r) ∨ ∃ pre r post, es = pre ++ .poll r :: post ∧ P (e :: pre) r := by
  simp only [List.cons_eq_append_iff]
  constructor
  · rintro ⟨pre, r, post, ⟨rfl, h⟩ | ⟨pre', rfl, rfl⟩, hp⟩
    · obtain ⟨rfl, rfl⟩ := List.cons.inj h
      exact .inl ⟨r, rfl, hp⟩
    · exact .inr ⟨pre', r, post, rfl, hp⟩
  · rintro (⟨r, rfl, hp⟩ | ⟨pre, r, post, rfl, hp⟩)
    · exact ⟨[], r, es, .inl ⟨rfl, rfl⟩, hp⟩
    · exact ⟨e :: pre, r, post, .inr ⟨pre, rfl, rfl⟩, hp⟩

/-- A trace leaves a running loop halted exactly when one of its polls, reached with the loop
still running, halts it. -/
theorem run_isHalted_iff_halting_poll (events : List Event) (n : Node E) (s : State E)
    (hs : n.loop = .running s) :
    (run addPeer n events).loop.isHalted ↔
      ∃ pre r post, events = pre ++ .poll r :: post ∧
        ∃ s', (run addPeer n pre).loop = .running s' ∧
          (step addPeer (run addPeer n pre) (.poll r)).loop.isHalted := by
  induction events generalizing n s with
  | nil => simp [hs, Loop.isHalted]
  | cons e es ih =>
    rw [run_cons, exists_poll_cons]
    cases e with
    | cancel => simpa [step, hs] using ih (step addPeer n .cancel) s (by simp [step, hs])
    | poll r =>
      cases hl : (step addPeer n (.poll r)).loop with
      | halted h => simp [run_of_halted _ h hl, hs, hl, Loop.isHalted]
      | running s' => simpa [hs, hl, Loop.isHalted] using ih _ s' hl

/-- From a running loop, a trace leaves the loop halted exactly when one of its polls, reached
with the loop still running, is one of `Ends`. -/
theorem run_isHalted_iff (hadd : ∀ e a, ∃ e', addPeer e a = .ok e') (events : List Event)
    (n : Node E) (s : State E) (hs : n.loop = .running s) :
    (run addPeer n events).loop.isHalted ↔
      ∃ pre r post, events = pre ++ .poll r :: post ∧
        ∃ s', (run addPeer n pre).loop = .running s' ∧ Ends (run addPeer n pre).cancelled s' r := by
  rw [run_isHalted_iff_halting_poll events n s hs]
  exact exists_congr fun pre => exists_congr fun r => exists_congr fun post =>
    and_congr_right fun _ => exists_congr fun s' => and_congr_right fun hs' =>
      step_poll_halts_iff hadd _ s' hs' r

/-- An engine whose `add_peer` always succeeds, recording the peers it was given. -/
def recordPeer (peers : List NodeAddr) (a : NodeAddr) : Except String (List NodeAddr) :=
  .ok (peers ++ [a])

/-- A poll at which only the discovery stream is ready, with a provider error. -/
def discoveryFailure : Ready := ⟨.pending, .ready (some (.error "mdns: socket closed")), .pending⟩

theorem run_isHalted_iff_discovery_failure :
    (∀ peers a, ∃ e', recordPeer peers a = .ok e') ∧
      (init ([] : List NodeAddr)).loop = .running ⟨[.addressUpdates], []⟩ ∧
      ((run recordPeer (init []) [.poll discoveryFailure]).loop.isHalted ↔
        ∃ pre r post, [Event.poll discoveryFailure] = pre ++ .poll r :: post ∧
          ∃ s', (run recordPeer (init []) pre).loop = .running s' ∧
            Ends (run recordPeer (init []) pre).cancelled s' r) :=
  ⟨fun _ _ => ⟨_, rfl⟩, rfl, run_isHalted_iff (fun _ _ => ⟨_, rfl⟩) _ _ _ rfl⟩

/-- With the token cancelled, every later event leaves the loop as it was, or halts it with the
state it had: no connection, discovery item or child is handled any more. -/
theorem run_of_cancelled (post : List Event) (n : Node E) (hc : n.cancelled = true) :
    (run addPeer n post).loop = n.loop ∨
      ∃ s, n.loop = .running s ∧ (run addPeer n post).loop = .halted (halt s) := by
  induction post generalizing n with
  | nil => exact .inl rfl
  | cons e es ih =>
    cases e with
    | cancel => simpa [step] using ih { n with cancelled := true } rfl
    | poll r =>
      cases hl : n.loop with
      | halted h => exact .inl (run_of_halted _ h (step_halted addPeer n h hl _) es)
      | running s => exact .inr ⟨s, rfl, run_of_halted _ _ (step_poll_cancelled n s hl hc r) es⟩

/-- Once the token is cancelled the loop handles nothing more: it stays as it was at the
cancellation, or halts with that very state. -/
theorem nothing_handled_after_cancel (n : Node E) (pre post : List Event) :
    (run addPeer n (pre ++ .cancel :: post)).loop = (run addPeer n pre).loop ∨
      ∃ s, (run addPeer n pre).loop = .running s ∧
        (run addPeer n (pre ++ .cancel :: post)).loop = .halted (halt s) := by
  rw [run_append, run_cons]
  exact run_of_cancelled post _ rfl

/-- `Network::shutdown` cancels the token and awaits the loop's task: the first poll after the
cancellation ends the loop. -/
theorem shutdown_halts_at_next_poll (n : Node E) (s : State E) (hs : n.loop = .running s)
    (r : Ready) (post : List Event) :
    (run addPeer n (.cancel :: .poll r :: post)).loop = .halted (halt s) :=
  run_of_halted _ _ (step_poll_cancelled (step addPeer n .cancel) s hs rfl r) post

theorem shutdown_halts_at_first_poll :
    (init ([] : List NodeAddr)).loop = .running ⟨[.addressUpdates], []⟩ ∧
      (run recordPeer (init []) [.cancel, .poll discoveryFailure]).loop =
        .halted (halt ⟨[.addressUpdates], []⟩) :=
  ⟨rfl, shutdown_halts_at_next_poll _ _ rfl _ []⟩

/-- At every iteration of every run of `spawn`'s loop, the poll ends the loop exactly when it is one
of `Ends`; a cancelled token ends it with the state it had. -/
theorem iteration_ends_loop_iff (hadd : ∀ e a, ∃ e', addPeer e a = .ok e') (engine : E)
    (events : List Event) (s : State E) (hs : (run addPeer (init engine) events).loop = .running s)
    (r : Ready) :
    ((run addPeer (init engine) (events ++ [.poll r])).loop.isHalted ↔
        Ends (run addPeer (init engine) events).cancelled s r) ∧
      ((run addPeer (init engine) events).cancelled = true →
        select (run addPeer (init engine) events).cancelled s r = .run .cancelled ∧
          (run addPeer (init engine) (events ++ [.poll r])).loop = .halted (halt s)) := by
  rw [run_append]
  exact ⟨step_poll_halts_iff hadd _ s hs r,
    fun hc => ⟨(select_eq_cancelled _ _ _).2 hc, step_poll_cancelled _ s hs hc r⟩⟩

theorem iteration_ends_loop_iff_first_poll :
    (∀ peers a, ∃ e', recordPeer peers a = .ok e') ∧
      (run recordPeer (init []) [.cancel]).loop = .running ⟨[.addressUpdates], []⟩ ∧
      (((run recordPeer (init []) ([.cancel] ++ [.poll discoveryFailure])).loop.isHalted ↔
          Ends (run recordPeer (init []) [.cancel]).cancelled
            ⟨[.addressUpdates], ([] : List NodeAddr)⟩ discoveryFailure) ∧
        ((run recordPeer (init []) [.cancel]).cancelled = true →
          select (run recordPeer (init []) [.cancel]).cancelled
              ⟨[.addressUpdates], ([] : List NodeAddr)⟩ discoveryFailure = .run .cancelled ∧
            (run recordPeer (init []) ([.cancel] ++ [.poll discoveryFailure])).loop =
              .halted (halt ⟨[.addressUpdates], []⟩))) :=
  ⟨fun _ _ => ⟨_, rfl⟩, rfl, iteration_ends_loop_iff (fun _ _ => ⟨_, rfl⟩) [] [.cancel] _ rfl _⟩

/-- A provider error on the discovery stream ends the loop at the first poll, with the token not
cancelled and no child completed. -/
theorem discovery_error_halts_loop :
    (run recordPeer (init []) [.poll discoveryFailure]).loop.isHalted = true ∧
      (init ([] : List NodeAddr)).cancelled = false ∧
      select false ⟨[.addressUpdates], ([] : List NodeAddr)⟩ discoveryFailure =
        .run (.discovered (.error "mdns: socket closed")) :=
  ⟨rfl, rfl, rfl⟩

end P2pandaNet.Runs
