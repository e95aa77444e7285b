import WordServer.Proofs.Server.Pool
import WordServer.Server.Loop

/-!
# The serve loop over whole runs

`Takes` says what each step of a server can do, and `of_run?` that what every step keeps, every run
keeps.

`permits_of_run` is what a run keeps of the pool: no permit is lost, whatever the order of the steps,
and only a shutdown that was asked for ends the loop. `signal_of_run` is what it keeps of the signal:
a shutdown that is asked for after the loop has subscribed waits until the loop has ended. One that
is asked for before, even while the server listens already, is lost (`not_forall_signal_waits`), and
the loop serves on.
-/

namespace WordServer.ServeLoop

/-! ## Steps and runs -/

/-- What a server can do in a step. -/
inductive Takes (server : ServeLoop) : Step → ServeLoop → Prop
  | listen (hphase : server.phase = .constructed) :
      Takes server .listen { server with phase := .listening }
  | serve (hphase : server.phase = .listening) :
      Takes server .serve { server with phase := .serving, signal := server.signal.subscribe }
  | request : Takes server .request { server with signal := server.signal.send }
  | turn {step : Pool.Step} {pool : Pool} (hphase : server.phase = .serving)
      (hgoes : step ≠ .stop) (hpool : server.pool.step? step = some pool) :
      Takes server (.turn step) { server with pool }
  | takeSignal (hphase : server.phase = .serving) (hwaiting : server.signal.waiting = true) :
      Takes server .takeSignal
        { phase := .ended
          signal := { server.signal with waiting := false }
          pool := server.pool.stepOrStay .stop }

theorem takes_of_step? {server after : ServeLoop} {step : Step}
    (h : server.step? step = some after) : Takes server step after := by
  cases step with
  | listen =>
    simp only [step?, Option.ite_none_right_eq_some, Option.some.injEq] at h
    obtain ⟨hphase, rfl⟩ := h
    exact .listen hphase
  | serve =>
    simp only [step?, Option.ite_none_right_eq_some, Option.some.injEq] at h
    obtain ⟨hphase, rfl⟩ := h
    exact .serve hphase
  | request =>
    simp only [step?, Option.some.injEq] at h
    rw [← h]
    exact .request
  | turn step =>
    simp only [step?, Option.ite_none_right_eq_some, Option.map_eq_some_iff] at h
    obtain ⟨⟨hphase, hgoes⟩, pool, hpool, rfl⟩ := h
    exact .turn hphase hgoes hpool
  | takeSignal =>
    simp only [step?, Option.ite_none_right_eq_some, Option.some.injEq] at h
    obtain ⟨⟨hphase, hwaiting⟩, rfl⟩ := h
    exact .takeSignal hphase hwaiting

/-- **What every step keeps, every run keeps.** -/
theorem of_run? {Holds : List Step → ServeLoop → Prop}
    (hkeeps : ∀ {steps server step after}, Holds steps server → Takes server step after →
      Holds (steps ++ [step]) after)
    {steps later : List Step} {server after : ServeLoop} (h : Holds steps server)
    (hrun : server.run? later = some after) : Holds (steps ++ later) after := by
  induction later generalizing steps server with
  | nil =>
    rw [run?, Option.some.injEq] at hrun
    rw [List.append_nil, ← hrun]
    exact h
  | cons step later ih =>
    rw [run?] at hrun
    cases hstep : server.step? step with
    | none => simp [hstep] at hrun
    | some next =>
      rw [hstep] at hrun
      rw [← List.singleton_append, ← List.append_assoc]
      exact ih (hkeeps h (takes_of_step? hstep)) hrun

theorem run?_append (server : ServeLoop) (steps later : List Step) :
    server.run? (steps ++ later) = (server.run? steps).bind (·.run? later) := by
  induction steps generalizing server with
  | nil => rfl
  | cons step steps ih =>
    rw [List.cons_append, run?, run?]
    cases server.step? step with
    | none => rfl
    | some next => exact ih next

/-! ## The pool -/

/-- The step of the accept loop that a step is. -/
def Step.turn? : Step → Option Pool.Step
  | .turn step => some step
  | _ => none

/-- The turns of the accept loop. -/
def turns (steps : List Step) : List Pool.Step :=
  steps.filterMap Step.turn?

theorem turns_concat (steps : List Step) (step : Step) :
    turns (steps ++ [step]) = turns steps ++ step.turn?.toList := by
  cases h : step.turn? <;> simp [turns, h]

/-- What a server holds after steps. -/
structure Holds (maxConnections : Nat) (steps : List Step) (server : ServeLoop) : Prop where
  capacity : server.pool.capacity = max 1 maxConnections
  follows : server.phase ≠ .ended → Pool.Follows (turns steps) server.pool
  released : server.phase = .ended → server.pool.free = max 1 maxConnections ∧
    server.pool.accepting = false ∧ server.pool.tasks = []
  ended_iff : server.phase = .ended ↔ .takeSignal ∈ steps
  requested : server.signal.waiting = true ∨ server.phase = .ended → .request ∈ steps

theorem holds_ofLimit (maxConnections : Nat) : Holds maxConnections [] (ofLimit maxConnections) where
  capacity := rfl
  follows _ := Pool.follows_ofLimit maxConnections
  released h := by cases h
  ended_iff := by simp [ofLimit]
  requested := by simp [ofLimit]

/-- A step that leaves the phase and the pool as they are. -/
theorem Holds.of_frame {maxConnections : Nat} {steps : List Step} {server after : ServeLoop}
    {step : Step} (h : Holds maxConnections steps server) (hturn : step.turn? = none)
    (htake : step ≠ .takeSignal) (hphase : after.phase = .ended ↔ server.phase = .ended)
    (hpool : after.pool = server.pool)
    (hwaiting : after.signal.waiting = true →
      server.signal.waiting = true ∨ .request ∈ steps ++ [step]) :
    Holds maxConnections (steps ++ [step]) after := by
  have hturns : turns (steps ++ [step]) = turns steps := by simp [turns_concat, hturn]
  refine ⟨?_, ?_, ?_, ?_, ?_⟩
  · rw [hpool]
    exact h.capacity
  · rw [hpool, hturns, ne_eq, hphase]
    exact h.follows
  · rw [hpool, hphase]
    exact h.released
  · rw [hphase, h.ended_iff]
    simp [Ne.symm htake]
  · rintro (hsignal | hended)
    · rcases hwaiting hsignal with hbefore | hmem
      · exact List.mem_append_left _ (h.requested (.inl hbefore))
      · exact hmem
    · exact List.mem_append_left _ (h.requested (.inr (hphase.1 hended)))

theorem Holds.next {maxConnections : Nat} {steps : List Step} {server after : ServeLoop}
    {step : Step} (h : Holds maxConnections steps server) (hstep : Takes server step after) :
    Holds maxConnections (steps ++ [step]) after := by
  cases hstep with
  | listen hphase => exact h.of_frame rfl (by simp) (by simp [hphase]) rfl .inl
  | serve hphase =>
    exact h.of_frame rfl (by simp) (by simp [hphase]) rfl (by simp [ShutdownSignal.subscribe])
  | request => exact h.of_frame rfl (by simp) Iff.rfl rfl (by simp)
  | @turn step pool hphase hgoes hpool =>
    have hserving : server.phase ≠ .ended := by simp [hphase]
    have hcapacity := (Pool.takes_of_step? hpool).2.capacity_eq
    refine ⟨hcapacity.trans h.capacity, fun _ => ?_, fun hended => absurd hended hserving, ?_, ?_⟩
    · simpa [turns_concat, Step.turn?] using (h.follows hserving).next hpool hgoes
    · simpa using h.ended_iff
    · exact fun hsignal => List.mem_append_left _ (h.requested hsignal)
  | takeSignal hphase hwaiting =>
    have hfollows := h.follows (by simp [hphase])
    have hrequest := h.requested (.inl hwaiting)
    rw [hfollows.stepOrStay_stop]
    refine ⟨h.capacity, by simp, fun _ => ⟨?_, rfl, rfl⟩, by simp, by simp [hrequest]⟩
    exact hfollows.free_halt.trans h.capacity

theorem mem_joined_turns {steps : List Step} {number : Nat} :
    number ∈ Pool.joined (turns steps) ↔ .turn (.join number) ∈ steps := by
  simp only [Pool.joined, turns, List.filterMap_filterMap, List.mem_filterMap]
  constructor
  · rintro ⟨step, hmem, hstep⟩
    cases step with
    | turn turn => cases turn <;> simp_all [Step.turn?, Pool.Step.joined?]
    | _ => simp [Step.turn?] at hstep
  · intro hmem
    exact ⟨_, hmem, rfl⟩

theorem mem_ended_turns {steps : List Step} {number : Nat} :
    number ∈ Pool.ended (turns steps) ↔ ∃ outcome, .turn (.finish number outcome) ∈ steps := by
  simp only [Pool.ended, turns, List.filterMap_filterMap, List.mem_filterMap]
  constructor
  · rintro ⟨step, hmem, hstep⟩
    cases step with
    | turn turn =>
      cases turn with
      | finish ended outcome =>
        simp only [Step.turn?, Option.bind_some, Pool.Step.ended?, Option.some.injEq] at hstep
        exact ⟨outcome, hstep ▸ hmem⟩
      | _ => simp [Step.turn?, Pool.Step.ended?] at hstep
    | _ => simp [Step.turn?] at hstep
  · rintro ⟨outcome, hmem⟩
    exact ⟨_, hmem, rfl⟩

/-- While fewer sessions run than may, the pending accept has a permit or can get one. -/
theorem accepting_or_acquires {maxConnections : Nat} {steps : List Step} {server : ServeLoop}
    (h : Holds maxConnections steps server) (hserving : server.phase = .serving)
    (hroom : server.pool.running < max 1 maxConnections) :
    server.pool.accepting = true ∨ (server.step? (.turn .acquire)).isSome := by
  have hfollows := h.follows (by simp [hserving])
  cases hidle : server.pool.accepting with
  | true => exact .inl rfl
  | false =>
    have hpermits := hfollows.permits
    have hheld : server.pool.pendingPermits = 0 := by simp [Pool.pendingPermits, hidle]
    have hfree : 0 < server.pool.free := by
      rw [h.capacity] at hpermits
      omega
    exact .inr (by simp [step?, Pool.step?, hserving, hfollows.goes, hidle, hfree])

/-- **No permit is lost.** Whatever steps a server has taken, and in whatever order: each of its
permits, of which there is one at least, is free, held by the pending accept, or held by a session
that has not ended. So at most as many sessions run at once, and while fewer do the pending accept
has a permit or can get one. The live index holds the connections that were begun and not joined,
and no two connections have the same label. The loop has ended exactly if it has taken a signal,
which is one that was asked for, and then all permits are free again. -/
theorem permits_of_run (maxConnections : Nat) (steps : List Step) (server : ServeLoop)
    (hrun : (ofLimit maxConnections).run? steps = some server) :
    let pool := server.pool
    let begun := Pool.begun (turns steps)
    pool.free + pool.pendingPermits + pool.running = max 1 maxConnections ∧
    pool.running ≤ max 1 maxConnections ∧
    (server.phase = .serving → pool.running < max 1 maxConnections →
      pool.accepting = true ∨ (server.step? (.turn .acquire)).isSome) ∧
    (server.phase ≠ .ended →
      pool.live = begun.filter (fun connection => .turn (.join connection.1) ∉ steps) ∧
      pool.tasks.map PoolTask.number = pool.live.map Prod.fst ∧
      ∀ task ∈ pool.tasks,
        task.finished = true ↔ ∃ outcome, .turn (.finish task.number outcome) ∈ steps) ∧
    (begun.map Prod.snd).Nodup ∧
    (server.phase = .ended ↔ .takeSignal ∈ steps) ∧
    (server.phase = .ended → .request ∈ steps) ∧
    (server.phase = .ended →
      pool.free = max 1 maxConnections ∧ pool.accepting = false ∧ pool.tasks = []) := by
  intro pool begun
  have h : Holds maxConnections steps server :=
    of_run? (fun h hstep => h.next hstep) (holds_ofLimit maxConnections) hrun
  have hpermits : pool.free + pool.pendingPermits + pool.running = max 1 maxConnections := by
    by_cases hended : server.phase = .ended
    · obtain ⟨hfree, hidle, htasks⟩ := h.released hended
      simp [pool, Pool.pendingPermits, Pool.running, hfree, hidle, htasks]
    · exact (h.follows hended).permits.trans h.capacity
  refine ⟨hpermits, by omega, accepting_or_acquires h, ?_, Pool.nodup_labels _, h.ended_iff,
    fun hended => h.requested (.inr hended), h.released⟩
  intro hserving
  have hfollows := h.follows hserving
  refine ⟨?_, hfollows.numbers, ?_⟩
  · simpa only [mem_joined_turns] using hfollows.live
  · intro task htask
    rw [← mem_ended_turns]
    rw [hfollows.tasks] at htask
    obtain ⟨connection, -, rfl⟩ := List.mem_map.1 htask
    exact decide_eq_true_iff

/-- Of two sessions one crashes, and is joined while the next accept holds its permit. -/
theorem permits_of_run_crash :
    let steps : List Step :=
      [.listen, .serve, .turn .acquire, .turn (.accept "unix"), .turn .acquire,
        .turn (.accept "unix"), .turn (.finish 0 .crash), .turn .acquire, .turn (.join 0)]
    ∃ server, (ofLimit 2).run? steps = some server ∧
      server.pool.free + server.pool.pendingPermits + server.pool.running = 2 ∧
      server.pool.live = [(1, "unix#2")] ∧ server.phase ≠ .ended := by
  intro steps
  have hrun : (ofLimit 2).run? steps = some
      { phase := .serving
        signal := { subscribed := true }
        pool :=
          { capacity := 2, free := 1, accepting := false, tasks := [⟨1, false⟩]
            live := [(1, "unix#2")], accepted := 2, stopped := false } } := by
    decide +kernel
  obtain ⟨hpermits, -, -, hlive, -, hended, -⟩ := permits_of_run 2 steps _ hrun
  exact ⟨_, hrun, hpermits, (hlive (by decide)).1.trans (by decide +kernel), by decide⟩

/-! ## The signal -/

/-- The loop has subscribed, and a shutdown that was asked for since waits for it. -/
structure Awaits (later : List Step) (server : ServeLoop) : Prop where
  subscribed : server.signal.subscribed = true
  phase : server.phase = .serving ∨ server.phase = .ended
  waits : .request ∈ later → server.phase = .serving → server.signal.waiting = true
  unasked : .request ∉ later → server.phase = .serving ∧ server.signal.waiting = false

theorem Awaits.next {later : List Step} {server after : ServeLoop} {step : Step}
    (h : Awaits later server) (hstep : Takes server step after) :
    Awaits (later ++ [step]) after := by
  cases hstep with
  | listen hphase => exact absurd h.phase (by simp [hphase])
  | serve hphase => exact absurd h.phase (by simp [hphase])
  | request =>
    have hsend : server.signal.send.waiting = true := by simp [ShutdownSignal.send, h.subscribed]
    exact ⟨h.subscribed, h.phase, fun _ _ => hsend, by simp⟩
  | turn hphase hgoes hpool =>
    refine ⟨h.subscribed, h.phase, ?_, ?_⟩
    · simpa using h.waits
    · simpa using h.unasked
  | takeSignal hphase hwaiting =>
    refine ⟨h.subscribed, .inr rfl, by simp, ?_⟩
    -- a signal waits only if it was asked for
    intro hunasked
    have hsilent := h.unasked (by simpa using hunasked)
    rw [hwaiting] at hsilent
    exact absurd hsilent.2 (by simp)

/-- The loop subscribes when it begins to serve, and takes no notice of what was asked for before. -/
theorem awaits_of_serve {server after : ServeLoop} (h : server.step? .serve = some after) :
    Awaits [] after := by
  cases takes_of_step? h with
  | serve hphase => exact ⟨rfl, .inl rfl, by simp, fun _ => ⟨rfl, rfl⟩⟩

/-- **A shutdown waits for a loop that has subscribed.** Whatever a server has done before it began
to serve, and since: a shutdown that was asked for since waits until the loop has ended, and the
loop can take it. If none was asked for since, whether or not one was before, the loop serves on and
has no signal to take. -/
theorem signal_of_run (maxConnections : Nat) (before later : List Step) (server : ServeLoop)
    (hrun : (ofLimit maxConnections).run? (before ++ .serve :: later) = some server) :
    (.request ∈ later → server.phase = .ended ∨
      server.phase = .serving ∧ server.signal.waiting = true ∧
        (server.step? .takeSignal).isSome) ∧
    (.request ∉ later →
      server.phase = .serving ∧ server.signal.waiting = false ∧
        server.step? .takeSignal = none) := by
  have h : Awaits later server := by
    rw [run?_append, Option.bind_eq_some_iff] at hrun
    obtain ⟨ready, -, hrun⟩ := hrun
    rw [run?] at hrun
    cases hserve : ready.step? .serve with
    | none => simp [hserve] at hrun
    | some served =>
      rw [hserve] at hrun
      exact of_run? (fun h hstep => h.next hstep) (awaits_of_serve hserve) hrun
  constructor
  · intro hasked
    rcases h.phase with hserving | hended
    · have hwaiting := h.waits hasked hserving
      exact .inr ⟨hserving, hwaiting, by simp [step?, hserving, hwaiting]⟩
    · exact .inl hended
  · intro hunasked
    obtain ⟨hserving, hsilent⟩ := h.unasked hunasked
    exact ⟨hserving, hsilent, by simp [step?, hsilent]⟩

/-- Asked for once before the loop begins, and once while it backs off from a failed accept. -/
theorem signal_of_run_twice :
    let before : List Step := [.listen, .request]
    let later : List Step := [.turn .acquire, .turn .acceptFails, .request, .turn .acquire]
    .request ∈ later ∧ ∃ server,
      (ofLimit 1).run? (before ++ .serve :: later) = some server ∧
      (server.phase = .ended ∨ server.phase = .serving ∧ server.signal.waiting = true ∧
        (server.step? .takeSignal).isSome) := by
  intro before later
  have hrun : (ofLimit 1).run? (before ++ .serve :: later) = some
      { phase := .serving
        signal := { subscribed := true, waiting := true }
        pool :=
          { capacity := 1, free := 0, accepting := true, tasks := [], live := [], accepted := 0
            stopped := false } } := by
    decide
  have hasked : .request ∈ later := by decide
  exact ⟨hasked, _, hrun, (signal_of_run 1 before later _ hrun).1 hasked⟩

/-- A shutdown that is asked for before the loop begins, even of a server that listens already, is
lost: the loop serves, and no signal waits for it. -/
theorem not_forall_signal_waits :
    ¬ ∀ (maxConnections : Nat) (before later : List Step) (server : ServeLoop),
      (ofLimit maxConnections).run? (before ++ .request :: later) = some server →
        server.phase = .serving → server.signal.waiting = true := by
  intro h
  have hlost := h 4 [.listen] [.serve, .turn .acquire, .turn (.accept "unix")] _ rfl rfl
  exact absurd hlost (by decide)

end WordServer.ServeLoop
