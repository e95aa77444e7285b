import WordServer.Proofs.Json.Record
import WordServer.Proofs.Service.Call

/-!
# The lifecycle over whole runs

`Moves` says all that a message does to the lifecycle and the client: it begins the service,
prepares its end, ends it, or leaves both alone, and which of these is decided by the message and
the lifecycle before it. Every message makes such a move (`moves_dispatch`), so that what a run
keeps follows from what a move keeps: the lifecycle never goes back, and a client once known stays
the same.

`lifecycle_of_run` puts it together for every run of a fresh service.
-/

namespace WordServer.Service

/-- The places of a service in their order. -/
def Lifecycle.rank : Lifecycle → Nat
  | .uninitialized => 0
  | .running => 1
  | .shuttingDown => 2
  | .exited => 3

/-! ## Messages that begin -/

/-- What params say of the client's process, by name or in the first place. -/
def processIdOf (params : Json) : Option Json :=
  params.first? "processId"

/-- A process that a client may name: none, null, or an integer of 64 bits. -/
def IsProcessId (value : Option Json) : Prop :=
  value = none ∨ value = some .null ∨ ∃ pid, value = some (.int pid) ∧ RequestId.IsSigned pid

/-- A message that begins a service that has not begun: its params can be read, and name a process
that may be named. -/
def Begins (message : Message) : Prop :=
  ∃ params, message.call? = some ("initialize", params) ∧
    (StartParams.read? (Router.normalParams params)).isSome ∧
    IsProcessId (processIdOf (Router.normalParams params))

/-- Params that are left out or null begin a service as well as any that can be read and name a
process that may be named. -/
theorem begins_iff_params (message : Message) :
    Begins message ↔ ∃ params, message.call? = some ("initialize", params) ∧
      (params = none ∨ params = some .null ∨
        ∃ value, params = some value ∧ (StartParams.read? value).isSome ∧
          IsProcessId (processIdOf value)) := by
  constructor
  · rintro ⟨params, hcall, hread, hprocess⟩
    refine ⟨params, hcall, ?_⟩
    rcases Router.normalParams_eq_iff.1 (Eq.refl (Router.normalParams params)) with
      ⟨hnone | hnull, -⟩ | ⟨hvalue, -⟩
    · exact .inl hnone
    · exact .inr (.inl hnull)
    · exact .inr (.inr ⟨_, hvalue, hread, hprocess⟩)
  · have hempty : (StartParams.read? (.obj [])).isSome ∧ IsProcessId (processIdOf (.obj [])) :=
      ⟨rfl, .inl rfl⟩
    rintro ⟨params, hcall, rfl | rfl | ⟨value, rfl, hread, hprocess⟩⟩
    · exact ⟨none, hcall, hempty⟩
    · exact ⟨some .null, hcall, hempty⟩
    · have hnull : value ≠ .null := by
        rintro rfl
        cases hread
      have hsame : Router.normalParams (some value) = value :=
        Router.normalParams_eq_iff.2 (.inr ⟨rfl, hnull⟩)
      exact ⟨some value, hcall, by rwa [hsame], by rwa [hsame]⟩

theorem Begins.method?_eq {message : Message} (h : Begins message) :
    message.method? = some "initialize" := by
  obtain ⟨params, hcall, -⟩ := h
  rw [Message.method?_eq_map_call?, hcall]
  rfl

/-- The process that is read is the one that the params name; null names none. -/
theorem processId_of_read? {value : Json} {params : StartParams}
    (h : StartParams.read? value = some params) :
    params.processId = (processIdOf value).filter (!·.isNull) := by
  obtain ⟨record, last, hopened, h⟩ := Json.record?_eq_some h
  obtain ⟨processId, _, hprocess, h⟩ := Json.Fields.bind_eq_some h
  obtain ⟨raw, hraw, hfilter⟩ := Json.Fields.spare_eq_some hprocess
  have hkept : params.processId = processId := by
    -- the other eight fields follow, and the record holds what was read first
    obtain ⟨_, _, -, h⟩ := Json.Fields.bind_eq_some h
    obtain ⟨_, _, -, h⟩ := Json.Fields.bind_eq_some h
    obtain ⟨_, _, -, h⟩ := Json.Fields.bind_eq_some h
    obtain ⟨_, _, -, h⟩ := Json.Fields.bind_eq_some h
    obtain ⟨_, _, -, h⟩ := Json.Fields.bind_eq_some h
    obtain ⟨_, _, -, h⟩ := Json.Fields.bind_eq_some h
    obtain ⟨_, _, -, h⟩ := Json.Fields.bind_eq_some h
    obtain ⟨_, _, -, h⟩ := Json.Fields.bind_eq_some h
    cases h
    rfl
  rw [hkept, hfilter, processIdOf, Json.first?_eq hopened hraw]

theorem isSome_clientProcess?_iff (value : Option Json) :
    (clientProcess? (value.filter (!·.isNull))).isSome ↔ IsProcessId value := by
  cases value with
  | none => simp [clientProcess?, IsProcessId]
  | some value =>
    rw [Option.filter_some]
    cases value with
    | int n =>
      have hread : (Json.int64? (.int n)).isSome ↔ RequestId.IsSigned n := by
        rw [Json.int64?, Json.intWithin?, apply_ite Option.isSome, RequestId.IsSigned]
        split <;> simp <;> omega
      simpa [clientProcess?, IsProcessId, Json.isNull] using hread
    | _ => simp [clientProcess?, IsProcessId, Json.isNull, Json.int64?, Json.intWithin?]

/-! ## One message -/

theorem callOf?_shutdown {message : Message} (h : message.method? = some "shutdown") :
    callOf? message = some (some .shutdown) := by
  obtain ⟨params, hcall⟩ := exists_call?_of_method? h
  rw [callOf?_of_call? hcall]
  rfl

theorem callOf?_exit {message : Message} (h : message.method? = some "exit") :
    callOf? message = some (some .exit) := by
  obtain ⟨params, hcall⟩ := exists_call?_of_method? h
  rw [callOf?_of_call? hcall]
  rfl

theorem callOf?_start {message : Message} {params : Option Json}
    (h : message.call? = some ("initialize", params)) :
    callOf? message = some ((StartParams.read? (Router.normalParams params)).map .start) := by
  rw [callOf?_of_call? h]
  rfl

/-- A message begins when it is read as a start with a process that may be named. -/
theorem begins_iff (message : Message) :
    Begins message ↔ ∃ params, callOf? message = some (some (.start params)) ∧
      (clientProcess? params.processId).isSome := by
  constructor
  · rintro ⟨raw, hcall, hread, hprocess⟩
    obtain ⟨params, hparams⟩ := Option.isSome_iff_exists.1 hread
    refine ⟨params, ?_, ?_⟩
    · rw [callOf?_start hcall, hparams]
      rfl
    · rw [processId_of_read? hparams]
      exact (isSome_clientProcess?_iff _).2 hprocess
  · rintro ⟨params, hcall, hclient⟩
    obtain ⟨raw, hraw⟩ := exists_call?_of_method? (method?_of_callOf? hcall)
    rw [callOf?_start hraw, Option.some.injEq] at hcall
    obtain ⟨read, hread, hstart⟩ := Option.map_eq_some_iff.1 hcall
    cases hstart
    refine ⟨raw, hraw, Option.isSome_of_eq_some hread, ?_⟩
    rw [processId_of_read? hread] at hclient
    exact (isSome_clientProcess?_iff _).1 hclient

/-- What a message does to the lifecycle and the client. -/
inductive Moves (message : Message) (before after : State) : Prop
  | begins (hbefore : before.lifecycle = .uninitialized) (hmessage : Begins message)
      (hafter : after.lifecycle = .running) (hclient : after.client.isSome)
  | shutsDown (hbefore : before.lifecycle = .running) (hmessage : message.method? = some "shutdown")
      (hafter : after.lifecycle = .shuttingDown) (hclient : after.client = before.client)
  | exits (hmessage : message.method? = some "exit") (hafter : after.lifecycle = .exited)
      (hclient : after.client = before.client)
  | stays (hbegin : before.lifecycle = .uninitialized → ¬ Begins message)
      (hshutdown : before.lifecycle = .running → message.method? ≠ some "shutdown")
      (hexit : message.method? ≠ some "exit") (hafter : after.lifecycle = before.lifecycle)
      (hclient : after.client = before.client)

theorem frame_whenRunning {run : State → Outcome} {state : State}
    (hrun : (run state).2.lifecycle = state.lifecycle ∧ (run state).2.client = state.client) :
    (whenRunning run state).2.lifecycle = state.lifecycle ∧
      (whenRunning run state).2.client = state.client := by
  unfold whenRunning
  split
  · exact hrun
  · exact ⟨rfl, rfl⟩

/-- Only three calls concern the lifecycle or the client. -/
theorem Call.frame_run (suggester : Suggester) (call : Call) (state : State)
    (hstart : ∀ params, call ≠ .start params) (hshutdown : call ≠ .shutdown)
    (hexit : call ≠ .exit) :
    (call.run suggester state).2.lifecycle = state.lifecycle ∧
      (call.run suggester state).2.client = state.client := by
  cases call with
  | start params => exact absurd rfl (hstart params)
  | started => exact ⟨rfl, rfl⟩
  | shutdown => exact absurd rfl hshutdown
  | exit => exact absurd rfl hexit
  | setTrace level => exact ⟨rfl, rfl⟩
  | didOpen document => exact frame_whenRunning ⟨rfl, rfl⟩
  | didChange params => exact frame_whenRunning ⟨rfl, rfl⟩
  | didClose uri => exact frame_whenRunning ⟨rfl, rfl⟩
  | didSave params =>
    apply frame_whenRunning
    cases params.text with
    | none => exact ⟨rfl, rfl⟩
    | some text =>
      dsimp only
      cases state.documents.setText? params.uri text none <;> exact ⟨rfl, rfl⟩
  | completion cursor =>
    simp only [run, Service.completion]
    cases gate state with
    | error failure => exact ⟨rfl, rfl⟩
    | ok _ => cases state.documents.get? cursor.uri <;> exact ⟨rfl, rfl⟩

/-- A message that does nothing to the lifecycle and the client, if it is none of the three that
could. -/
theorem Moves.of_frame {message : Message} {before after : State}
    (hstart : ∀ params, callOf? message = some (some (.start params)) →
      before.lifecycle = .uninitialized → clientProcess? params.processId = none)
    (hshutdown : callOf? message = some (some .shutdown) → before.lifecycle ≠ .running)
    (hexit : callOf? message ≠ some (some .exit))
    (hframe : after.lifecycle = before.lifecycle ∧ after.client = before.client) :
    Moves message before after := by
  refine .stays ?_ ?_ ?_ hframe.1 hframe.2
  · intro hbefore hbegins
    obtain ⟨params, hcall, hclient⟩ := (begins_iff message).1 hbegins
    rw [hstart params hcall hbefore] at hclient
    cases hclient
  · intro hbefore hmethod
    exact hshutdown (callOf?_shutdown hmethod) hbefore
  · intro hmethod
    exact hexit (callOf?_exit hmethod)

theorem moves_start {message : Message} {params : StartParams}
    (hcall : callOf? message = some (some (.start params))) (state : State) :
    Moves message state (start params state).2 := by
  unfold start
  split
  · rename_i hbegun
    refine .of_frame ?_ (by simp [hcall]) (by simp [hcall]) ⟨rfl, rfl⟩
    intro _ _ hbefore
    exact absurd hbefore hbegun
  · rename_i hfresh
    cases hclient : clientProcess? params.processId with
    | none =>
      refine .of_frame ?_ (by simp [hcall]) (by simp [hcall]) ⟨rfl, rfl⟩
      intro other hother _
      rw [hcall] at hother
      cases hother
      exact hclient
    | some client =>
      refine .begins (Decidable.not_not.1 hfresh) ((begins_iff message).2 ?_) rfl rfl
      exact ⟨params, hcall, Option.isSome_of_eq_some hclient⟩

theorem moves_shutdown {message : Message} (hcall : callOf? message = some (some .shutdown))
    (state : State) : Moves message state (shutdown () state).2 := by
  cases hlifecycle : state.lifecycle with
  | running =>
    simp only [shutdown, gate, hlifecycle]
    exact .shutsDown hlifecycle (method?_of_callOf? hcall) rfl rfl
  | _ =>
    simp only [shutdown, gate, hlifecycle]
    exact .of_frame (by simp [hcall]) (by simp [hlifecycle]) (by simp [hcall]) ⟨rfl, rfl⟩

theorem isOk_start_iff (params : StartParams) (state : State) :
    (start params state).1.isOk = true ↔
      state.lifecycle = .uninitialized ∧ (clientProcess? params.processId).isSome := by
  unfold start
  split
  · rename_i hbegun
    simp [Except.isOk, Except.toBool, hbegun]
  · rename_i hfresh
    cases clientProcess? params.processId <;>
      simp [Except.isOk, Except.toBool, Decidable.not_not.1 hfresh]

theorem isOk_shutdown_iff (state : State) :
    (shutdown () state).1.isOk = true ↔ state.lifecycle = .running := by
  cases hlifecycle : state.lifecycle <;>
    simp [shutdown, gate, hlifecycle, Except.isOk, Except.toBool]

/-! ## What a move keeps -/

/-- A client is known only to a service that has begun. -/
def ClientBegun (state : State) : Prop :=
  state.client.isSome → state.lifecycle ≠ .uninitialized

namespace Moves

variable {message : Message} {before after : State}

theorem rank_le (h : Moves message before after) :
    before.lifecycle.rank ≤ after.lifecycle.rank := by
  cases h with
  | begins hbefore _ hafter _ => simp [hbefore, hafter, Lifecycle.rank]
  | shutsDown hbefore _ hafter _ => simp [hbefore, hafter, Lifecycle.rank]
  | exits _ hafter _ => cases before.lifecycle <;> simp [hafter, Lifecycle.rank]
  | stays _ _ _ hafter _ => exact Nat.le_of_eq (by rw [hafter])

theorem clientBegun (h : Moves message before after) (hbefore : ClientBegun before) :
    ClientBegun after := by
  cases h with
  | begins _ _ hafter _ => simp [ClientBegun, hafter]
  | shutsDown _ _ hafter _ => simp [ClientBegun, hafter]
  | exits _ hafter _ => simp [ClientBegun, hafter]
  | stays _ _ _ hafter hclient =>
    unfold ClientBegun
    rw [hafter, hclient]
    exact hbefore

theorem client_eq (h : Moves message before after) (hbegun : ClientBegun before)
    {client : ClientProcess} (hclient : before.client = some client) :
    after.client = some client := by
  cases h with
  | begins hbefore _ _ _ => exact absurd hbefore (hbegun (Option.isSome_of_eq_some hclient))
  | shutsDown _ _ _ hsame => rw [hsame, hclient]
  | exits _ _ hsame => rw [hsame, hclient]
  | stays _ _ _ _ hsame => rw [hsame, hclient]

/-- Each step of the lifecycle has its message, and no other message makes it. -/
theorem lifecycle (h : Moves message before after) :
    (before.lifecycle = .uninitialized ∧ after.lifecycle = .running ↔
      before.lifecycle = .uninitialized ∧ Begins message) ∧
    (before.lifecycle = .running ∧ after.lifecycle = .shuttingDown ↔
      before.lifecycle = .running ∧ message.method? = some "shutdown") ∧
    (before.lifecycle ≠ .exited ∧ after.lifecycle = .exited ↔
      before.lifecycle ≠ .exited ∧ message.method? = some "exit") ∧
    (after.lifecycle ≠ before.lifecycle →
      before.lifecycle = .uninitialized ∧ after.lifecycle = .running ∨
      before.lifecycle = .running ∧ after.lifecycle = .shuttingDown ∨
      before.lifecycle ≠ .exited ∧ after.lifecycle = .exited) := by
  cases h with
  | begins hbefore hmessage hafter _ =>
    simp [hbefore, hafter, hmessage, hmessage.method?_eq]
  | shutsDown hbefore hmessage hafter _ =>
    simp [hbefore, hafter, hmessage]
  | exits hmessage hafter _ =>
    have hnot : ¬ Begins message := by
      intro hbegins
      simp [hbegins.method?_eq] at hmessage
    simp [hafter, hmessage, hnot, eq_comm]
  | stays hbegin hshutdown hexit hafter _ =>
    rw [hafter]
    cases hlifecycle : before.lifecycle <;> simp_all

end Moves

/-! ## Every message moves -/

variable [Json.Wording]

/-- **Every message makes a move.** -/
theorem moves_dispatch (suggester : Suggester) (message : Message) (state : State) :
    Moves message state ((router suggester).dispatch message state).2 := by
  rw [state_dispatch_eq]
  cases hcall : callOf? message with
  | none => exact .of_frame (by simp [hcall]) (by simp [hcall]) (by simp [hcall]) ⟨rfl, rfl⟩
  | some call =>
    cases call with
    | none => exact .of_frame (by simp [hcall]) (by simp [hcall]) (by simp [hcall]) ⟨rfl, rfl⟩
    | some call =>
      change Moves message state (call.run suggester state).2
      cases call with
      | start params => exact moves_start hcall state
      | shutdown => exact moves_shutdown hcall state
      | exit => exact .exits (method?_of_callOf? hcall) rfl rfl
      | _ =>
        refine .of_frame (by simp [hcall]) (by simp [hcall]) (by simp [hcall]) ?_
        exact Call.frame_run suggester _ state (by simp) (by simp) (by simp)

/-! ## Which messages succeed -/

/-- Whether a message calls a method and its handler gives a result. -/
def succeeds (suggester : Suggester) (method : String) (state : State) (message : Message) : Bool :=
  message.method? == some method && ((router suggester).result? message state).any Except.isOk

theorem succeeds_iff (suggester : Suggester) (method : String) (state : State) (message : Message) :
    succeeds suggester method state message = true ↔
      ∃ call, callOf? message = some (some call) ∧ call.method = method ∧
        (call.run suggester state).1.isOk = true := by
  rw [succeeds, result?_eq, Bool.and_eq_true, beq_iff_eq]
  constructor
  · rintro ⟨hmethod, hok⟩
    cases hcall : callOf? message with
    | none => simp [hcall] at hok
    | some call =>
      cases call with
      | none => simp [hcall, Call.respond, Except.isOk, Except.toBool] at hok
      | some call =>
        rw [method?_of_callOf? hcall, Option.some.injEq] at hmethod
        exact ⟨call, rfl, hmethod, by simpa [hcall, Call.respond] using hok⟩
  · rintro ⟨call, hcall, rfl, hok⟩
    exact ⟨method?_of_callOf? hcall, by simpa [hcall, Call.respond] using hok⟩

theorem succeeds_start_iff (suggester : Suggester) (state : State) (message : Message) :
    succeeds suggester "initialize" state message = true ↔
      state.lifecycle = .uninitialized ∧ Begins message := by
  rw [succeeds_iff, begins_iff]
  constructor
  · rintro ⟨call, hcall, hmethod, hok⟩
    cases call with
    | start params =>
      obtain ⟨hfresh, hclient⟩ := (isOk_start_iff params state).1 hok
      exact ⟨hfresh, params, hcall, hclient⟩
    | _ => simp [Call.method] at hmethod
  · rintro ⟨hfresh, params, hcall, hclient⟩
    exact ⟨.start params, hcall, rfl, (isOk_start_iff params state).2 ⟨hfresh, hclient⟩⟩

theorem succeeds_shutdown_iff (suggester : Suggester) (state : State) (message : Message) :
    succeeds suggester "shutdown" state message = true ↔
      state.lifecycle = .running ∧ message.method? = some "shutdown" := by
  rw [succeeds_iff]
  constructor
  · rintro ⟨call, hcall, hmethod, hok⟩
    cases call with
    | shutdown => exact ⟨(isOk_shutdown_iff state).1 hok, method?_of_callOf? hcall⟩
    | _ => simp [Call.method] at hmethod
  · rintro ⟨hrunning, hmethod⟩
    exact ⟨.shutdown, callOf?_shutdown hmethod, rfl, (isOk_shutdown_iff state).2 hrunning⟩

/-! ## Runs -/

variable (suggester : Suggester)

/-- The state after messages. -/
def after (state : State) (messages : List Message) : State :=
  messages.foldl (fun state message => ((router suggester).dispatch message state).2) state

/-- How often a method succeeds while messages are handled. -/
def successes (method : String) : State → List Message → Nat
  | _, [] => 0
  | state, message :: messages =>
    (if succeeds suggester method state message then 1 else 0) +
      successes method ((router suggester).dispatch message state).2 messages

variable {suggester}

theorem rank_le_after (state : State) (messages : List Message) :
    state.lifecycle.rank ≤ (after suggester state messages).lifecycle.rank := by
  induction messages generalizing state with
  | nil => exact Nat.le_refl _
  | cons message messages ih =>
    have hmove := (moves_dispatch suggester message state).rank_le
    exact Nat.le_trans hmove (ih _)

theorem clientBegun_after {state : State} (h : ClientBegun state) (messages : List Message) :
    ClientBegun (after suggester state messages) := by
  induction messages generalizing state with
  | nil => exact h
  | cons message messages ih => exact ih ((moves_dispatch suggester message state).clientBegun h)

theorem client_after {state : State} (h : ClientBegun state) {client : ClientProcess}
    (hclient : state.client = some client) (messages : List Message) :
    (after suggester state messages).client = some client := by
  induction messages generalizing state with
  | nil => exact hclient
  | cons message messages ih =>
    have hmove := moves_dispatch suggester message state
    exact ih (hmove.clientBegun h) (hmove.client_eq h hclient)

/-- A method that succeeds below a rank only, and brings the service there, succeeds once. -/
theorem successes_le {method : String} {rank : Nat}
    (hsucceeds : ∀ state message, succeeds suggester method state message = true →
      state.lifecycle.rank < rank ∧
        rank ≤ ((router suggester).dispatch message state).2.lifecycle.rank)
    (state : State) (messages : List Message) :
    successes suggester method state messages ≤ if rank ≤ state.lifecycle.rank then 0 else 1 := by
  induction messages generalizing state with
  | nil => exact Nat.zero_le _
  | cons message messages ih =>
    have hmove := (moves_dispatch suggester message state).rank_le
    have hrest := ih ((router suggester).dispatch message state).2
    rw [successes]
    cases hone : succeeds suggester method state message with
    | true =>
      obtain ⟨hbelow, hthere⟩ := hsucceeds state message hone
      rw [if_pos hthere] at hrest
      rw [if_neg (Nat.not_le.2 hbelow), if_pos rfl]
      omega
    | false =>
      rw [if_neg Bool.false_ne_true]
      split at hrest <;> split <;> omega

/-- A message makes a client known exactly if it begins the service. -/
theorem isSome_client_dispatch (state : State) (message : Message) :
    ((router suggester).dispatch message state).2.client.isSome ↔
      state.client.isSome ∨ succeeds suggester "initialize" state message = true := by
  rw [succeeds_start_iff]
  cases moves_dispatch suggester message state with
  | begins hbefore hmessage _ hclient => simp [hbefore, hmessage, hclient]
  | shutsDown hbefore _ _ hclient => simp [hbefore, hclient]
  | exits hmessage _ hclient =>
    have hnot : ¬ Begins message := by
      intro hbegins
      simp [hbegins.method?_eq] at hmessage
    simp [hclient, hnot]
  | stays hbegin _ _ _ hclient =>
    rw [hclient]
    refine (or_iff_left ?_).symm
    rintro ⟨hfresh, hbegins⟩
    exact hbegin hfresh hbegins

theorem isSome_client_after (state : State) (messages : List Message) :
    (after suggester state messages).client.isSome ↔
      state.client.isSome ∨ 0 < successes suggester "initialize" state messages := by
  induction messages generalizing state with
  | nil => simp [after, successes]
  | cons message messages ih =>
    rw [successes]
    refine (ih _).trans ?_
    rw [isSome_client_dispatch, or_assoc]
    cases succeeds suggester "initialize" state message with
    | true => exact iff_of_true (.inr (.inl rfl)) (.inr (Nat.add_pos_left Nat.one_pos _))
    | false => simp

theorem successes_start_le_one (state : State) (messages : List Message) :
    successes suggester "initialize" state messages ≤ 1 := by
  have hbound : successes suggester "initialize" state messages ≤
      if 1 ≤ state.lifecycle.rank then 0 else 1 := by
    refine successes_le ?_ state messages
    intro state message hsucceeds
    obtain ⟨hfresh, hbegins⟩ := (succeeds_start_iff suggester state message).1 hsucceeds
    obtain ⟨-, hafter⟩ := (moves_dispatch suggester message state).lifecycle.1.2 ⟨hfresh, hbegins⟩
    simp [hfresh, hafter, Lifecycle.rank]
  split at hbound <;> omega

theorem successes_shutdown_le_one (state : State) (messages : List Message) :
    successes suggester "shutdown" state messages ≤ 1 := by
  have hbound : successes suggester "shutdown" state messages ≤
      if 2 ≤ state.lifecycle.rank then 0 else 1 := by
    refine successes_le ?_ state messages
    intro state message hsucceeds
    have hshutdown := (succeeds_shutdown_iff suggester state message).1 hsucceeds
    obtain ⟨-, hafter⟩ := (moves_dispatch suggester message state).lifecycle.2.1.2 hshutdown
    simp [hshutdown.1, hafter, Lifecycle.rank]
  split at hbound <;> omega

/-- **The lifecycle over a whole run.** Whatever messages a fresh service handles, its lifecycle
never goes back; it begins exactly at a message that begins, prepares its end exactly at a
`shutdown` while it runs, ends exactly at an `exit`, and stays where it is at every other message.
It is begun once and shut down once at most; a client is known exactly if it was begun, and stays
the same to the end. -/
theorem lifecycle_of_run (suggester : Suggester) (messages : List Message) (message : Message)
    (later : List Message) :
    let now := after suggester {} messages
    let next := after suggester {} (messages ++ [message])
    let last := after suggester {} (messages ++ later)
    now.lifecycle.rank ≤ last.lifecycle.rank ∧
    (now.lifecycle = .uninitialized ∧ next.lifecycle = .running ↔
      now.lifecycle = .uninitialized ∧ Begins message) ∧
    (now.lifecycle = .running ∧ next.lifecycle = .shuttingDown ↔
      now.lifecycle = .running ∧ message.method? = some "shutdown") ∧
    (now.lifecycle ≠ .exited ∧ next.lifecycle = .exited ↔
      now.lifecycle ≠ .exited ∧ message.method? = some "exit") ∧
    (next.lifecycle ≠ now.lifecycle →
      now.lifecycle = .uninitialized ∧ next.lifecycle = .running ∨
      now.lifecycle = .running ∧ next.lifecycle = .shuttingDown ∨
      now.lifecycle ≠ .exited ∧ next.lifecycle = .exited) ∧
    successes suggester "initialize" {} messages ≤ 1 ∧
    successes suggester "shutdown" {} messages ≤ 1 ∧
    (now.client.isSome ↔ 0 < successes suggester "initialize" {} messages) ∧
    ∀ client, now.client = some client → last.client = some client := by
  intro now next last
  have hnext : next = ((router suggester).dispatch message now).2 := by
    simp [next, now, after]
  have hlast : last = after suggester now later := by
    simp [last, now, after]
  obtain ⟨hbegin, hshutdown, hexit, hother⟩ := (moves_dispatch suggester message now).lifecycle
  rw [← hnext] at hbegin hshutdown hexit hother
  have hbegun : ClientBegun now := clientBegun_after (by simp [ClientBegun]) messages
  refine ⟨?_, hbegin, hshutdown, hexit, hother, ?_, ?_, ?_, ?_⟩
  · rw [hlast]
    exact rank_le_after now later
  · exact successes_start_le_one {} messages
  · exact successes_shutdown_le_one {} messages
  · simpa using isSome_client_after {} messages
  · intro client hclient
    rw [hlast]
    exact client_after hbegun hclient later

end WordServer.Service
