import Mathlib.Data.List.Nodup
import WordServer.Proofs.Text.Numeral
import WordServer.Server.Pool

/-!
# What a pool holds

A pool that has not stopped is what its history makes it (`Follows`): its live index holds the
connections that were begun and whose tasks were not joined, each under its label, its tasks are the
same with a mark on those that have ended, and no permit is lost: each is free, held by the pending
accept, or held by a task that has not ended.

`Takes` says what each step can do, and `Follows.next` that a step keeps all of this. Labels of
connections are distinct whatever their origins, because a label ends with the number of the
connection (`nodup_labels`).
-/

namespace WordServer.Pool

/-! ## Steps -/

/-- What a pool can do in a step. -/
inductive Takes (pool : Pool) : Step → Pool → Prop
  | acquire (hidle : pool.accepting = false) (hfree : 0 < pool.free) :
      Takes pool .acquire { pool with free := pool.free - 1, accepting := true }
  | accept {origin : String} (hpending : pool.accepting = true) :
      Takes pool (.accept origin) (pool.start origin)
  | acceptFails (hpending : pool.accepting = true) : Takes pool .acceptFails pool.dropPending
  | abandon : Takes pool .abandon pool.dropPending
  | finish {number : Nat} {outcome : TaskEnd} (hrunning : ⟨number, false⟩ ∈ pool.tasks) :
      Takes pool (.finish number outcome) (pool.finishTask number)
  | join {number : Nat} (hended : ⟨number, true⟩ ∈ pool.tasks) :
      Takes pool (.join number) (pool.dropPending.joinTask number)
  | stop : Takes pool .stop pool.halt

/-- A step is taken only by a pool that has not stopped. -/
theorem takes_of_step? {pool next : Pool} {step : Step} (h : pool.step? step = some next) :
    pool.stopped = false ∧ Takes pool step next := by
  unfold step? at h
  split at h
  · cases h
  · rename_i hgoes
    refine ⟨Bool.eq_false_iff.2 hgoes, ?_⟩
    cases step with
    | acquire =>
      simp only [Option.ite_none_right_eq_some, Option.some.injEq, Bool.and_eq_true,
        Bool.not_eq_true', decide_eq_true_eq] at h
      obtain ⟨⟨hidle, hfree⟩, rfl⟩ := h
      exact .acquire hidle hfree
    | accept origin =>
      simp only [Option.ite_none_right_eq_some, Option.some.injEq] at h
      obtain ⟨hpending, rfl⟩ := h
      exact .accept hpending
    | acceptFails =>
      simp only [Option.ite_none_right_eq_some, Option.some.injEq] at h
      obtain ⟨hpending, rfl⟩ := h
      exact .acceptFails hpending
    | abandon =>
      simp only [Option.some.injEq] at h
      rw [← h]
      exact .abandon
    | finish number outcome =>
      simp only [Option.ite_none_right_eq_some, Option.some.injEq] at h
      obtain ⟨hrunning, rfl⟩ := h
      exact .finish hrunning
    | join number =>
      simp only [Option.ite_none_right_eq_some, Option.some.injEq] at h
      obtain ⟨hended, rfl⟩ := h
      exact .join hended
    | stop =>
      simp only [Option.some.injEq] at h
      rw [← h]
      exact .stop

theorem Takes.capacity_eq {pool next : Pool} {step : Step} (h : Takes pool step next) :
    next.capacity = pool.capacity := by
  cases h <;> rfl

/-! ## Histories -/

/-- The origin of the connection that a step accepts. -/
def Step.origin? : Step → Option String
  | .accept origin => some origin
  | _ => none

/-- The number of the task that a step ends. -/
def Step.ended? : Step → Option Nat
  | .finish number _ => some number
  | _ => none

/-- The number of the task that a step joins. -/
def Step.joined? : Step → Option Nat
  | .join number => some number
  | _ => none

/-- The label of a connection. -/
def label (number : Nat) (origin : String) : String :=
  origin ++ "#" ++ toString (number + 1)

/-- The connections that were accepted, each with its number and its label. -/
def begun (steps : List Step) : List (Nat × String) :=
  (steps.filterMap Step.origin?).mapIdx fun number origin => (number, label number origin)

/-- The numbers of the tasks that have ended. -/
def ended (steps : List Step) : List Nat :=
  steps.filterMap Step.ended?

/-- The numbers of the tasks that were joined. -/
def joined (steps : List Step) : List Nat :=
  steps.filterMap Step.joined?

theorem begun_concat_of_origin {step : Step} {origin : String} (h : step.origin? = some origin)
    (steps : List Step) :
    begun (steps ++ [step]) =
      begun steps ++ [((begun steps).length, label (begun steps).length origin)] := by
  simp [begun, h, List.mapIdx_concat]

theorem begun_concat_of_none {step : Step} (h : step.origin? = none) (steps : List Step) :
    begun (steps ++ [step]) = begun steps := by
  simp [begun, h]

theorem numbers_begun (steps : List Step) :
    (begun steps).map Prod.fst = List.range (begun steps).length := by
  refine List.ext_getElem (by simp) fun number _ _ => ?_
  simp [begun]

/-! ## Labels -/

theorem toList_label (number : Nat) (origin : String) :
    (label number origin).toList = origin.toList ++ '#' :: Text.decimal (number + 1) := by
  simp [label, Text.decimal, Nat.repr]

theorem label_inj {number number' : Nat} {origin origin' : String}
    (h : label number origin = label number' origin') : number = number' := by
  -- read from the end up to the `#`: an origin may hold a `#`, the digits of a number do not
  have htext := congrArg (fun text : String => text.toList.reverse.takeWhile (· != '#')) h
  have hdigits (n : Nat) : ∀ c ∈ (Text.decimal n).reverse, (c != '#') = true := by
    intro c hc
    have hdigit := Text.isDigit_of_mem_decimal (List.mem_reverse.1 hc)
    rw [bne_iff_ne]
    rintro rfl
    exact absurd hdigit (by decide)
  simp only [toList_label, List.reverse_append, List.reverse_cons, List.append_assoc,
    List.takeWhile_append_of_pos (hdigits _)] at htext
  have hvalue := congrArg (fun digits : List Char => Text.digitsValue digits.reverse) htext
  simpa [Text.digitsValue_decimal] using hvalue

/-- **No two connections have the same label.** -/
theorem nodup_labels (steps : List Step) : ((begun steps).map Prod.snd).Nodup := by
  rw [List.Nodup, List.pairwise_iff_getElem]
  intro i j hi hj hlt heq
  simp only [begun, List.getElem_map, List.getElem_mapIdx] at heq
  have := label_inj heq
  omega

/-! ## Permits of running tasks -/

section Running

variable {tasks : List PoolTask} {number : Nat}

theorem eq_of_number_eq (hnodup : (tasks.map PoolTask.number).Nodup) {task other : PoolTask}
    (htask : task ∈ tasks) (hother : other ∈ tasks) (heq : task.number = other.number) :
    task = other :=
  List.inj_on_of_nodup_map hnodup htask hother heq

/-- One task fewer runs once a running task has ended. -/
theorem countP_finish (hnodup : (tasks.map PoolTask.number).Nodup)
    (hrunning : ⟨number, false⟩ ∈ tasks) :
    (tasks.map fun task => if task.number = number then { task with finished := true } else task
      ).countP (!·.finished) + 1 = tasks.countP (!·.finished) := by
  induction tasks with
  | nil => cases hrunning
  | cons task tasks ih =>
    have htask := eq_of_number_eq hnodup List.mem_cons_self hrunning
    rw [List.map_cons, List.nodup_cons] at hnodup
    by_cases hnumber : task.number = number
    · have hothers : (tasks.map fun task =>
          if task.number = number then { task with finished := true } else task) = tasks := by
        refine (List.map_congr_left fun other hother => if_neg fun heq => hnodup.1 ?_).trans
          (List.map_id tasks)
        rw [hnumber, ← heq]
        exact List.mem_map_of_mem hother
      rw [List.map_cons, hothers, htask hnumber]
      simp
    · have hmem : ⟨number, false⟩ ∈ tasks := by
        rcases List.mem_cons.1 hrunning with rfl | hmem
        · exact absurd rfl hnumber
        · exact hmem
      rw [List.map_cons, if_neg hnumber, List.countP_cons, List.countP_cons, ← ih hnodup.2 hmem]
      omega

/-- As many tasks run once a task that has ended is forgotten. -/
theorem countP_join (hnodup : (tasks.map PoolTask.number).Nodup)
    (hended : ⟨number, true⟩ ∈ tasks) :
    (tasks.filter (·.number != number)).countP (!·.finished) = tasks.countP (!·.finished) := by
  rw [List.countP_filter]
  refine List.countP_congr fun task htask => ?_
  have hother : task.finished = false → task.number ≠ number := by
    rintro hrunning rfl
    rw [eq_of_number_eq hnodup htask hended rfl] at hrunning
    cases hrunning
  cases hfinished : task.finished <;> simp_all

end Running

/-! ## What a history makes of a pool -/

/-- The pool is what steps have made of it, none of which stopped it. -/
structure Follows (steps : List Step) (pool : Pool) : Prop where
  goes : pool.stopped = false
  accepted : pool.accepted = (begun steps).length
  live : pool.live = (begun steps).filter (·.1 ∉ joined steps)
  tasks : pool.tasks = pool.live.map fun connection =>
    ⟨connection.1, decide (connection.1 ∈ ended steps)⟩
  known : ∀ number, number ∈ ended steps ∨ number ∈ joined steps → number < (begun steps).length
  permits : pool.free + pool.pendingPermits + pool.running = pool.capacity

theorem follows_ofLimit (maxConnections : Nat) : Follows [] (ofLimit maxConnections) where
  goes := rfl
  accepted := rfl
  live := rfl
  tasks := rfl
  known := by simp [ended, joined]
  permits := rfl

namespace Follows

variable {steps : List Step} {pool after : Pool} {step : Step}

theorem numbers (h : Follows steps pool) :
    pool.tasks.map PoolTask.number = pool.live.map Prod.fst := by
  rw [h.tasks, List.map_map]
  rfl

theorem nodup_numbers (h : Follows steps pool) : (pool.tasks.map PoolTask.number).Nodup := by
  rw [h.numbers, h.live]
  have hsublist : ((begun steps).filter (·.1 ∉ joined steps)).map Prod.fst |>.Sublist
      ((begun steps).map Prod.fst) := List.filter_sublist.map Prod.fst
  rw [numbers_begun] at hsublist
  exact List.nodup_range.sublist hsublist

theorem number_lt (h : Follows steps pool) {task : PoolTask} (htask : task ∈ pool.tasks) :
    task.number < (begun steps).length := by
  have hmem : task.number ∈ (begun steps).map Prod.fst := by
    have hnumber : task.number ∈ pool.tasks.map PoolTask.number := List.mem_map_of_mem htask
    rw [h.numbers, h.live] at hnumber
    exact (List.filter_sublist.map Prod.fst).subset hnumber
  rwa [numbers_begun, List.mem_range] at hmem

/-- A step that begins, ends and joins no task only moves a permit. -/
theorem next_of_idle (h : Follows steps pool) (horigin : step.origin? = none)
    (hended : step.ended? = none) (hjoined : step.joined? = none)
    (hsame : after = { pool with free := after.free, accepting := after.accepting })
    (hpermits : after.free + after.pendingPermits = pool.free + pool.pendingPermits) :
    Follows (steps ++ [step]) after := by
  have hbegun := begun_concat_of_none horigin steps
  have hend : ended (steps ++ [step]) = ended steps := by simp [ended, hended]
  have hjoin : joined (steps ++ [step]) = joined steps := by simp [joined, hjoined]
  rw [hsame] at hpermits ⊢
  refine ⟨h.goes, ?_, ?_, ?_, ?_, ?_⟩
  · rw [hbegun]
    exact h.accepted
  · rw [hbegun, hjoin]
    exact h.live
  · rw [hend]
    exact h.tasks
  · rw [hbegun, hend, hjoin]
    exact h.known
  · rw [hpermits]
    exact h.permits

theorem next_accept (h : Follows steps pool) {origin : String} (hpending : pool.accepting = true) :
    Follows (steps ++ [.accept origin]) (pool.start origin) := by
  have hbegun := begun_concat_of_origin (show (Step.accept origin).origin? = some origin from rfl)
    steps
  have hend : ended (steps ++ [.accept origin]) = ended steps := by simp [ended, Step.ended?]
  have hjoin : joined (steps ++ [.accept origin]) = joined steps := by simp [joined, Step.joined?]
  -- the new task is not one that has ended or was joined, since those were begun before
  have hnew (number : Nat) (hnumber : number ∈ ended steps ∨ number ∈ joined steps) :
      number ≠ (begun steps).length := Nat.ne_of_lt (h.known number hnumber)
  refine ⟨h.goes, ?_, ?_, ?_, ?_, ?_⟩
  · rw [hbegun]
    simp [start, h.accepted]
  · have hopen : (begun steps).length ∉ joined steps := fun hmem => hnew _ (.inr hmem) rfl
    rw [hbegun, hjoin]
    simp [start, h.live, h.accepted, hopen, nextLabel, label]
  · have hrunning : (begun steps).length ∉ ended steps := fun hmem => hnew _ (.inl hmem) rfl
    rw [hend]
    simp [start, h.tasks, h.accepted, hrunning]
  · rw [hbegun, hend, hjoin]
    intro number hnumber
    have hknown := h.known number hnumber
    simp only [List.length_append, List.length_singleton]
    omega
  · have hheld : pool.pendingPermits = 1 := by simp [pendingPermits, hpending]
    have hmore : (pool.start origin).running = pool.running + 1 := by
      simp [running, start, List.countP_append]
    have hpermits := h.permits
    change pool.free + 0 + (pool.start origin).running = pool.capacity
    omega

theorem next_finish (h : Follows steps pool) {number : Nat} (outcome : TaskEnd)
    (hrunning : ⟨number, false⟩ ∈ pool.tasks) :
    Follows (steps ++ [.finish number outcome]) (pool.finishTask number) := by
  have hbegun := begun_concat_of_none (show (Step.finish number outcome).origin? = none from rfl)
    steps
  have hend : ended (steps ++ [.finish number outcome]) = ended steps ++ [number] := by
    simp [ended, Step.ended?]
  have hjoin : joined (steps ++ [.finish number outcome]) = joined steps := by
    simp [joined, Step.joined?]
  refine ⟨h.goes, ?_, ?_, ?_, ?_, ?_⟩
  · rw [hbegun]
    exact h.accepted
  · rw [hbegun, hjoin]
    exact h.live
  · rw [hend]
    simp only [finishTask, h.tasks, List.map_map]
    refine List.map_congr_left fun connection _ => ?_
    by_cases hnumber : connection.1 = number <;> simp [hnumber]
  · rw [hbegun, hend, hjoin]
    intro other hother
    rcases hother with hmem | hmem
    · rcases List.mem_append.1 hmem with hmem | hmem
      · exact h.known other (.inl hmem)
      · rw [List.mem_singleton.1 hmem]
        exact h.number_lt hrunning
    · exact h.known other (.inr hmem)
  · have hfewer : (pool.finishTask number).running + 1 = pool.running :=
      countP_finish h.nodup_numbers hrunning
    have hpermits := h.permits
    change pool.free + 1 + pool.pendingPermits + (pool.finishTask number).running = pool.capacity
    omega

theorem next_join (h : Follows steps pool) {number : Nat} (hended : ⟨number, true⟩ ∈ pool.tasks) :
    Follows (steps ++ [.join number]) (pool.dropPending.joinTask number) := by
  have hbegun := begun_concat_of_none (show (Step.join number).origin? = none from rfl) steps
  have hend : ended (steps ++ [.join number]) = ended steps := by simp [ended, Step.ended?]
  have hjoin : joined (steps ++ [.join number]) = joined steps ++ [number] := by
    simp [joined, Step.joined?]
  refine ⟨h.goes, ?_, ?_, ?_, ?_, ?_⟩
  · rw [hbegun]
    exact h.accepted
  · rw [hbegun, hjoin]
    simp only [joinTask, dropPending, h.live, List.filter_filter]
    refine List.filter_congr fun connection _ => ?_
    by_cases hnumber : connection.1 = number <;> simp [hnumber]
  · rw [hend]
    simp only [joinTask, dropPending, h.tasks, List.filter_map]
    rfl
  · rw [hbegun, hend, hjoin]
    intro other hother
    rcases hother with hmem | hmem
    · exact h.known other (.inl hmem)
    · rcases List.mem_append.1 hmem with hmem | hmem
      · exact h.known other (.inr hmem)
      · rw [List.mem_singleton.1 hmem]
        exact h.number_lt hended
  · have hsame : (pool.dropPending.joinTask number).running = pool.running :=
      countP_join h.nodup_numbers hended
    have hpermits := h.permits
    change pool.free + pool.pendingPermits + 0 + (pool.dropPending.joinTask number).running =
      pool.capacity
    omega

/-- **Every step but the last keeps what a history makes of a pool.** -/
theorem next (h : Follows steps pool) (hstep : pool.step? step = some after)
    (hgoes : step ≠ .stop) : Follows (steps ++ [step]) after := by
  cases (takes_of_step? hstep).2 with
  | acquire hidle hfree =>
    have hheld : pool.pendingPermits = 0 := by simp [pendingPermits, hidle]
    refine h.next_of_idle rfl rfl rfl rfl ?_
    change pool.free - 1 + 1 = pool.free + pool.pendingPermits
    omega
  | accept hpending => exact h.next_accept hpending
  | acceptFails _ | abandon =>
    exact h.next_of_idle rfl rfl rfl rfl (by simp [dropPending, pendingPermits])
  | finish hrunning => exact h.next_finish _ hrunning
  | join hended => exact h.next_join hended
  | stop => exact absurd rfl hgoes

theorem stepOrStay_stop (h : Follows steps pool) : pool.stepOrStay .stop = pool.halt := by
  simp [stepOrStay, step?, h.goes]

/-- Stopping gives every permit back. -/
theorem free_halt (h : Follows steps pool) : pool.halt.free = pool.capacity :=
  h.permits

end Follows

end WordServer.Pool
