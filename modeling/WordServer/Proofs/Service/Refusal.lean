import WordServer.Proofs.Service.Lifecycle

/-!
# What the lifecycle refuses

`refusal?` says which requests the lifecycle does not allow, and with which code they are to be
answered. A refused request is answered with an error that names it, and changes nothing. Its code
is the one of the lifecycle if the params can be read, and otherwise the one of params that cannot:
they are read before the lifecycle is looked at (`dispatch_of_refused`). A request to shut down is
never held up that way, since it takes any params; a request for completions is
(`not_forall_code_of_refused`).
-/

namespace WordServer.Service

/-- The code that answers a method which the lifecycle does not allow. -/
def refusal? (lifecycle : Lifecycle) (method : String) : Option ErrorCode :=
  if method = "initialize" then
    if lifecycle = .uninitialized then none else some .invalidRequest
  else if method = "shutdown" ∨ method = "textDocument/completion" then
    match lifecycle with
    | .uninitialized => some .serverNotInitialized
    | .running => none
    | .shuttingDown | .exited => some .invalidRequest
  else none

theorem mem_of_refusal? {lifecycle : Lifecycle} {method : String} {code : ErrorCode}
    (h : refusal? lifecycle method = some code) :
    method = "initialize" ∨ method = "shutdown" ∨ method = "textDocument/completion" := by
  unfold refusal? at h
  split at h
  · exact .inl ‹_›
  · split at h
    · exact .inr ‹_›
    · cases h

/-- What is refused is read as a call of its own method, unless its params cannot be read. -/
theorem exists_callOf?_of_refusal? {lifecycle : Lifecycle} {message : Message} {method : String}
    {code : ErrorCode} (hmethod : message.method? = some method)
    (h : refusal? lifecycle method = some code) : ∃ call, callOf? message = some call := by
  obtain ⟨params, hcall⟩ := exists_call?_of_method? hmethod
  rcases mem_of_refusal? h with rfl | rfl | rfl
  · exact ⟨_, callOf?_of_call? hcall⟩
  · exact ⟨_, callOf?_of_call? hcall⟩
  · exact ⟨_, callOf?_of_call? hcall⟩

/-- The gate turns away what the lifecycle does not allow, with the code of the lifecycle. -/
theorem gate_of_refusal? {state : State} {method : String} {code : ErrorCode}
    (hmethod : method = "shutdown" ∨ method = "textDocument/completion")
    (h : refusal? state.lifecycle method = some code) :
    ∃ failure, gate state = .error failure ∧ failure.code = code := by
  have hother : method ≠ "initialize" := by
    rintro rfl
    simp at hmethod
  rw [refusal?.eq_def, if_neg hother, if_pos hmethod] at h
  cases hlifecycle : state.lifecycle with
  | running => simp [hlifecycle] at h
  | uninitialized =>
    rw [hlifecycle] at h
    cases h
    exact ⟨_, by rw [gate, hlifecycle], rfl⟩
  | shuttingDown =>
    rw [hlifecycle] at h
    cases h
    exact ⟨_, by rw [gate, hlifecycle], rfl⟩
  | exited =>
    rw [hlifecycle] at h
    cases h
    exact ⟨_, by rw [gate, hlifecycle], rfl⟩

/-- A call that was read fails with the code of the lifecycle, where that does not allow it. -/
theorem Call.error_of_refusal? (suggester : Suggester) {call : Call} {state : State}
    {code : ErrorCode} (h : refusal? state.lifecycle call.method = some code) :
    ∃ failure, (call.run suggester state).1 = .error failure ∧ failure.code = code := by
  cases call with
  | start params =>
    have hbegun : state.lifecycle ≠ .uninitialized := by
      intro hfresh
      simp [refusal?, Call.method, hfresh] at h
    simp only [refusal?, Call.method, hbegun, if_true, if_false] at h
    cases h
    exact ⟨_, by rw [run, Service.start, if_pos hbegun], rfl⟩
  | shutdown =>
    obtain ⟨failure, hgate, hcode⟩ := gate_of_refusal? (.inl rfl) h
    exact ⟨failure, by rw [run, Service.shutdown, hgate], hcode⟩
  | completion cursor =>
    obtain ⟨failure, hgate, hcode⟩ := gate_of_refusal? (.inr rfl) h
    exact ⟨failure, by rw [run, Service.completion, hgate], hcode⟩
  | _ => simp [refusal?, Call.method] at h

theorem dispatch_request_of_error [Json.Wording] {suggester : Suggester} {request : Request}
    {state : State} {call : Option Call} {failure : Failure}
    (hcall : callOf? (.request request) = some call)
    (hfailure : (Call.respond suggester state (misfitOf (.request request)) call).1 =
      .error failure) :
    (router suggester).dispatch (.request request) state =
      (some (.error { id := some request.id, error := failure.errorObject }), state) := by
  rw [dispatch_request hcall, hfailure, Call.state_respond_of_error hfailure]
  rfl

/-- **A refused request is told so, and changes nothing.** The code of the answer is the one of the
lifecycle where the params can be read, as those of a request to shut down always can; where they
cannot, that comes first. -/
theorem dispatch_of_refused [Json.Wording] (suggester : Suggester) (request : Request) (state : State)
    (code : ErrorCode) (hrefused : refusal? state.lifecycle request.method = some code) :
    ∃ error, (router suggester).dispatch (.request request) state =
        (some (.error { id := some request.id, error }), state) ∧
      error.code = (if (callOf? (.request request)).join.isSome then code else .invalidParams) ∧
      (request.method = "shutdown" → error.code = code) := by
  have hexists : ∃ call, callOf? (.request request) = some call :=
    exists_callOf?_of_refusal? rfl hrefused
  obtain ⟨call, hcall⟩ := hexists
  cases call with
  | none =>
    refine ⟨_, dispatch_request_of_error hcall rfl, ?_, ?_⟩
    · rw [hcall]
      rfl
    · intro hshutdown
      have hmethod : (Message.request request).method? = some "shutdown" := congrArg some hshutdown
      rw [callOf?_shutdown hmethod] at hcall
      cases hcall
  | some call =>
    have hmethod : call.method = request.method :=
      (Option.some.inj (method?_of_callOf? hcall)).symm
    rw [← hmethod] at hrefused
    obtain ⟨failure, hfailure, hcode⟩ := Call.error_of_refusal? suggester hrefused
    have hobject : failure.errorObject.code = code := failure.code_errorObject.trans hcode
    refine ⟨_, dispatch_request_of_error hcall hfailure, ?_, fun _ => hobject⟩
    rw [hcall]
    exact hobject

theorem dispatch_of_refused_second_start :
    refusal? withLetter.lifecycle "initialize" = some .invalidRequest ∧
      ∃ error, (router .silent).dispatch
          (.request { id := .number 2, method := "initialize", params := none }) withLetter =
          (some (.error { id := some (.number 2), error }), withLetter) ∧
        error.code = .invalidRequest := by
  have hrefused : refusal? withLetter.lifecycle "initialize" = some .invalidRequest := rfl
  obtain ⟨error, hdispatch, hcode, -⟩ := dispatch_of_refused .silent
    { id := .number 2, method := "initialize", params := none } withLetter _ hrefused
  exact ⟨hrefused, error, hdispatch, hcode⟩

/-- A request for completions that does not say where. -/
def bareCompletion : Request :=
  { id := .number 1, method := "textDocument/completion", params := none }

theorem not_forall_code_of_refused :
    ¬ ∀ (messages : List Message) (request : Request) (code : ErrorCode),
      refusal? (after .silent {} messages).lifecycle request.method = some code →
      ∃ error, (router .silent).dispatch (.request request) (after .silent {} messages) =
          (some (.error { id := some request.id, error }), after .silent {} messages) ∧
        error.code = code := by
  intro h
  obtain ⟨error, hdispatch, hcode⟩ := h [] bareCompletion .serverNotInitialized rfl
  have hanswer : ((router .silent).dispatch (.request bareCompletion) {}).1 =
      some (.error
        { id := some (.number 1)
          error := (Failure.invalidParams (misfitOf (.request bareCompletion))).errorObject }) := rfl
  have hsame := hanswer.symm.trans (congrArg Prod.fst hdispatch)
  cases hsame
  cases hcode

end WordServer.Service
