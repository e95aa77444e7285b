import WordServer.Proofs.Message.Malformed
import WordServer.Proofs.Service.Call
import WordServer.Proofs.Session.Transcript
import WordServer.Proofs.Wire.RoundTrip

/-!
# Replies that reach another session

What happens when a reply of one session is sent to another (`turn_of_reply`). Everything that a
session of the service writes is a reply in the sense of `IsReply`. One that names its request reads
back as it is and is dropped: nothing is written, nothing counted but the frame, and the state is
the same. One without an identifier does not read back. It is the answer to a payload whose request
is not known, and the other session answers it in turn, with a reply that has no identifier either;
so two sessions that read what the other writes never stop (`written_of_unnamed_reply`).
-/

namespace WordServer

/-! ## Replies and how they read back -/

/-- The replies of a service: a result that reads back, or an error with no data but words. -/
inductive Message.IsReply : Message → Prop
  | response {id : RequestId} {result : Json} (hid : id.IsCanonical) (hresult : result.IsRegular)
      (hdepth : result.depth < Json.greatestDepth) : IsReply (.response { id, result })
  | error {id : Option RequestId} {error : ErrorObject} (hid : ∀ known ∈ id, known.IsCanonical)
      (hdata : ∀ value ∈ error.data, ∃ words, value = .str words) :
      IsReply (.error { id, error })

theorem Json.isRegular_str (words : String) : (Json.str words).IsRegular :=
  ⟨rfl, rfl⟩

theorem ErrorObject.depth_toJson {error : ErrorObject}
    (h : ∀ value ∈ error.data, ∃ words, value = .str words) : error.toJson.depth = 1 := by
  obtain ⟨code, message, data⟩ := error
  cases data with
  | none => rfl
  | some value =>
    obtain ⟨words, rfl⟩ := h value rfl
    rfl

namespace Message.IsReply

variable {message : Message}

theorem method?_eq_none (h : message.IsReply) : message.method? = none := by
  cases h <;> rfl

theorem depth_le (h : message.IsReply) : message.toJson.depth ≤ Json.greatestDepth := by
  cases h with
  | @response id result _ _ hdepth =>
    simp only [toJson, Response.toJson, Json.depth, Json.depthMembers, id.depth_toJson]
    omega
  | @error id error _ hdata =>
    have herror := ErrorObject.depth_toJson hdata
    cases id with
    | none =>
      simp [toJson, ErrorReply.toJson, Json.depth, Json.depthMembers, herror, Json.greatestDepth]
    | some id =>
      simp [toJson, ErrorReply.toJson, Json.depth, Json.depthMembers, herror, id.depth_toJson,
        Json.greatestDepth]

/-- A reply that names its request reads back. -/
theorem decodeMessage_of_id (h : message.IsReply) {id : RequestId} (hid : message.id? = some id) :
    decodeMessage "utf-8" message.encode = .ok message := by
  have hregular : message.IsRegular := by
    cases h with
    | response hcanonical hresult _ => exact .response hcanonical hresult
    | error hcanonical hdata =>
      cases hid
      refine .error (hcanonical id rfl) ?_
      intro value hvalue
      obtain ⟨words, rfl⟩ := hdata value hvalue
      exact ⟨Json.isRegular_str words, by simp⟩
  rw [encode, decodeMessage_utf8]
  exact hregular.messageOfText_write h.depth_le .compact

/-- A reply without an identifier is no message to whoever reads it. -/
theorem decodeMessage_of_no_id (h : message.IsReply) (hid : message.id? = none) :
    decodeMessage "utf-8" message.encode = .error (.missingMethod none) := by
  have hdepth := h.depth_le
  cases h with
  | response => cases hid
  | @error id error _ hdata =>
    cases hid
    have herror : error.toJson.isExact = true := by
      apply ErrorObject.isExact_toJson
      intro value hvalue
      obtain ⟨words, rfl⟩ := hdata value hvalue
      exact Json.isRegular_str words
    have hexact : (Message.error { id := none, error }).toJson.isExact = true := by
      rw [toJson, ErrorReply.toJson, Json.isExact_obj]
      simp only [List.forall_mem_cons]
      exact ⟨rfl, rfl, herror, List.forall_mem_nil _⟩
    obtain ⟨entries, hsorted, hfind⟩ := exists_sorted_toJson (.error { id := none, error })
    have hidMember : Entries.lookup "id" entries = some .null := hfind "id"
    have hmethodMember : Entries.lookup "method" entries = none := hfind "method"
    have herrorMember : Entries.lookup "error" entries = some error.toJson.sorted := hfind "error"
    have hnull : (some Json.null).filter (fun value => !value.isNull) = none := rfl
    rw [encode, write, decodeMessage_write hexact hdepth, hsorted]
    simp [classify, classifyReply, hidMember, hnull, hmethodMember, herrorMember]

end Message.IsReply

/-! ## What the service replies -/

/-- A request that was read has its identifier in the one form. -/
theorem isCanonical_of_classify {value : Json} {request : Request}
    (h : classify value = .ok (.request request)) : request.id.IsCanonical := by
  obtain ⟨members, -, hsay⟩ := classify_eq_ok_iff.1 h
  cases hsay with
  | request _ _ hid => exact hid.canonical

theorem exists_classify_of_decodeMessage {charset : String} {content : List UInt8}
    {message : Message} (h : decodeMessage charset content = .ok message) :
    ∃ value, classify value = .ok message := by
  rw [decodeMessage] at h
  cases htext : payloadText charset content with
  | error cause =>
    rw [htext] at h
    cases h
  | ok text =>
    rw [htext] at h
    change messageOfText text = .ok message at h
    rw [messageOfText] at h
    cases hvalue : Json.read? text with
    | none =>
      rw [hvalue] at h
      cases h
    | some value =>
      rw [hvalue] at h
      exact ⟨value, h⟩

/-- Every answer to a malformed payload is a reply. -/
theorem Malformed.isReply_reply (cause : Malformed) (reason : String) :
    (cause.reply reason).IsReply := by
  refine .error (fun known hknown => cause.canonical_of_id? hknown) ?_
  intro value hvalue
  cases hvalue
  exact ⟨_, rfl⟩

namespace Service

/-- What a handler may give: a result that reads back, or a failure with no data but words. -/
def IsAnswer : Except Failure Json → Prop
  | .ok result => result.IsRegular ∧ result.depth < Json.greatestDepth
  | .error failure => ∀ value ∈ failure.errorObject.data, ∃ words, value = .str words

theorem isAnswer_null : IsAnswer (.ok .null) :=
  ⟨⟨rfl, rfl⟩, by decide⟩

theorem isAnswer_plain (code : ErrorCode) (message : String) :
    IsAnswer (.error (.plain code message)) := by
  intro value hvalue
  cases hvalue

theorem isAnswer_notOpen (uri : String) : IsAnswer (.error (notOpen uri)) := by
  intro value hvalue
  cases hvalue
  exact ⟨_, rfl⟩

theorem isAnswer_introduction : IsAnswer (.ok introduction) :=
  ⟨⟨by decide +kernel, by decide +kernel⟩, by decide +kernel⟩

theorem all_completionItem {test : Json → Bool} (labels : List String)
    (hitem : ∀ label, (completionItem label).all test = true) :
    Json.allItems test (labels.map completionItem) = true := by
  simp [Json.allItems_eq, hitem]

theorem depth_completions (labels : List String) :
    Json.depthItems (labels.map completionItem) ≤ 1 := by
  induction labels with
  | nil => exact Nat.zero_le 1
  | cons label labels ih =>
    have hlabel : (completionItem label).depth = 1 := rfl
    rw [List.map_cons, Json.depthItems, hlabel]
    exact Nat.max_le.2 ⟨Nat.le_refl 1, ih⟩

theorem isAnswer_completions (labels : List String) :
    IsAnswer (.ok (.arr (labels.map completionItem))) := by
  have hdepth := depth_completions labels
  refine ⟨⟨all_completionItem labels fun _ => rfl, all_completionItem labels fun _ => rfl⟩, ?_⟩
  rw [Json.depth, Json.greatestDepth]
  omega

theorem isAnswer_gate (state : State) {failure : Failure} (h : gate state = .error failure) :
    IsAnswer (.error failure) := by
  cases hlifecycle : state.lifecycle <;> rw [gate, hlifecycle] at h <;> cases h
  all_goals exact isAnswer_plain _ _

theorem isAnswer_whenRunning {run : State → Outcome} {state : State}
    (h : IsAnswer (run state).1) : IsAnswer (whenRunning run state).1 := by
  unfold whenRunning
  split
  · exact h
  · exact isAnswer_null

/-- **Every call gives an answer that can be told.** -/
theorem Call.isAnswer_run (suggester : Suggester) (call : Call) (state : State) :
    IsAnswer (call.run suggester state).1 := by
  cases call with
  | start params =>
    simp only [run, Service.start]
    split
    · exact isAnswer_plain _ _
    · cases clientProcess? params.processId with
      | none => exact isAnswer_plain _ _
      | some client => exact isAnswer_introduction
  | started => exact isAnswer_null
  | shutdown =>
    simp only [run, Service.shutdown]
    cases hgate : gate state with
    | error failure => exact isAnswer_gate state hgate
    | ok _ => exact isAnswer_null
  | exit => exact isAnswer_null
  | setTrace level => exact isAnswer_null
  | didOpen document => exact isAnswer_whenRunning isAnswer_null
  | didChange params =>
    apply isAnswer_whenRunning
    dsimp only
    split
    · exact isAnswer_null
    · exact isAnswer_notOpen params.uri
  | didClose uri => exact isAnswer_whenRunning isAnswer_null
  | didSave params =>
    apply isAnswer_whenRunning
    cases params.text with
    | none => exact isAnswer_null
    | some text =>
      dsimp only
      cases state.documents.setText? params.uri text none with
      | none => exact isAnswer_notOpen params.uri
      | some documents => exact isAnswer_null
  | completion cursor =>
    simp only [run, Service.completion]
    cases hgate : gate state with
    | error failure => exact isAnswer_gate state hgate
    | ok _ =>
      dsimp only
      cases state.documents.get? cursor.uri with
      | none => exact isAnswer_notOpen cursor.uri
      | some document => exact isAnswer_completions _

section Wording

variable [Json.Wording]

theorem isAnswer_of_result? {suggester : Suggester} {message : Message} {state : State}
    {result : Except Failure Json}
    (h : (router suggester).result? message state = some result) : IsAnswer result := by
  rw [result?_eq] at h
  obtain ⟨call, -, rfl⟩ := Option.map_eq_some_iff.1 h
  cases call with
  | some call => exact call.isAnswer_run suggester state
  | none =>
    intro value hvalue
    cases hvalue
    exact ⟨_, rfl⟩

/-- The answer to a request with a proper identifier is a reply. -/
theorem isReply_replyTo {suggester : Suggester} {message : Message} {state : State} {id : RequestId}
    (hid : id.IsCanonical) :
    (Router.replyTo id ((router suggester).result? message state)).IsReply := by
  have hknown : ∀ known ∈ some id, known.IsCanonical := by
    rintro known ⟨⟩
    exact hid
  cases hresult : (router suggester).result? message state with
  | none =>
    refine .error hknown ?_
    intro value hvalue
    cases hvalue
  | some result =>
    have hanswer := isAnswer_of_result? hresult
    cases result with
    | ok value => exact .response hid hanswer.1 hanswer.2
    | error failure => exact .error hknown hanswer

end Wording

end Service

namespace Session

open Wire (Frame Event eventsOf writeFrame)

variable {σ : Type}

section Wording

variable [Json.Wording]

/-- **Whatever the service answers a frame with is a reply.** -/
theorem isReply_of_replyOf {suggester : Suggester} {state : Service.State} {frame : Frame}
    {reply : Message} (h : replyOf (Service.protocol suggester) state frame = some reply) :
    reply.IsReply := by
  unfold replyOf at h
  cases hmessage : messageOf frame with
  | error cause =>
    rw [hmessage] at h
    cases h
    exact cause.isReply_reply _
  | ok message =>
    rw [hmessage] at h
    simp only [Router.reply_dispatch] at h
    cases message with
    | request request =>
      cases h
      obtain ⟨value, hvalue⟩ := exists_classify_of_decodeMessage hmessage
      exact Service.isReply_replyTo (isCanonical_of_classify hvalue)
    | _ => cases h

theorem exists_replyOf_of_mem_replies {protocol : Protocol σ} {state : σ} {frames : List Frame}
    {reply : Message} (h : some reply ∈ replies protocol state frames) :
    ∃ state frame, replyOf protocol state frame = some reply := by
  induction frames generalizing state with
  | nil => cases h
  | cons frame frames ih =>
    rcases List.mem_cons.1 h with hfirst | hrest
    · exact ⟨state, frame, hfirst.symm⟩
    · exact ih hrest

/-- What a session has sent after a run answers a frame, unless it was sent before. -/
theorem mem_sent_run {session : Session σ} {reply : Message} (h : reply ∈ session.run.2.sent) :
    reply ∈ session.sent ∨ ∃ state frame, replyOf session.protocol state frame = some reply := by
  by_cases hopen : session.phase = .closed
  · rw [run, if_pos hopen] at h
    exact .inl h
  · obtain ⟨frames, result, unread, hserves⟩ :=
      exists_serves session.protocol session.limit session.state session.input
    simp only [run_of_serves hopen hserves, absorb, List.mem_append, List.mem_reverse,
      List.mem_filterMap, id_eq, exists_eq_right] at h
    rcases h with hnew | hold
    · exact .inr (exists_replyOf_of_mem_replies hnew)
    · exact .inl hold

end Wording

/-! ## A reply that is read by another session -/

/-- The frame that is read from a payload as it is written. -/
def frameOf (payload : List UInt8) : Frame :=
  ⟨payload.length, none, payload⟩

/-- The charset of a frame that names none is UTF-8. -/
theorem messageOf_frameOf (payload : List UInt8) :
    messageOf (frameOf payload) = decodeMessage "utf-8" payload := rfl

theorem length_writeFrame_pos (content : List UInt8) : 0 < (writeFrame content).length := by
  simp only [writeFrame, Wire.writtenHeader, List.length_append, List.length_cons]
  omega

/-- The session after a frame that asked for nothing. -/
def passed (session : Session σ) (rest : List Event) : Session σ :=
  { session with
    input := rest
    stats := { session.stats with frames := session.stats.frames + 1 } }

/-- The session after frames that were answered with errors, because their payloads are no messages.
-/
def refused (session : Session σ) (errors : List ErrorReply) (rest : List Event) : Session σ :=
  { session with
    input := rest
    sent := (errors.map Message.error).reverse ++ session.sent
    written := session.written ++ errors.flatMap fun error => writeFrame (Message.error error).encode
    stats :=
      { frames := session.stats.frames + errors.length
        replies := session.stats.replies + errors.length
        rejected := session.stats.rejected + errors.length } }

theorem refused_refused (session : Session σ) (first others : List ErrorReply)
    (middle rest : List Event) :
    (session.refused first middle).refused others rest =
      session.refused (first ++ others) rest := by
  simp [refused, Nat.add_assoc]

theorem stateOf_of_malformed {protocol : Protocol σ} {state : σ} {frame : Frame} {cause : Malformed}
    (hmessage : messageOf frame = .error cause) : stateOf protocol state frame = state := by
  rw [stateOf, hmessage]

/-- A turn is over when its frame is handled; the state decides whether another follows. -/
def settled (session : Session σ) : Turn σ :=
  if session.protocol.finished session.state then .ended (.ok ()) session else .goesOn session

section Wording

variable [Json.Wording]

theorem turn_of_frame {session : Session σ} {frame : Frame} {rest : List Event}
    (hread : Wire.readFrame session.limit session.input = (.frame frame, rest)) :
    session.turn = (session.handle frame rest).settled := by
  rw [turn, hread]
  rfl

theorem turn_of_payload {session : Session σ} {payload : List UInt8} {rest : List Event}
    (hinput : session.input = eventsOf (writeFrame payload) ++ rest)
    (hlimit : payload.length ≤ session.limit) (hcount : session.limit < Text.countBound) :
    session.turn = (session.handle (frameOf payload) rest).settled := by
  have hread := Wire.readFrame_writeFrame hlimit (Nat.lt_of_le_of_lt hlimit hcount) rest
  rw [← hinput] at hread
  exact turn_of_frame hread

theorem handle_of_reply {frame : Frame} {reply : Message} (hmessage : messageOf frame = .ok reply)
    (hreply : reply.method? = none) (session : Session σ) (rest : List Event) :
    session.handle frame rest = session.passed rest := by
  have hanswer : answer session.protocol frame session.state = (none, false, session.state) := by
    cases reply with
    | request request => cases hreply
    | notification notification => cases hreply
    | _ => simp [answer_eq, replyOf, isRejected, stateOf, hmessage, Router.dispatch]
  simp [handle, hanswer, passed]

theorem handle_of_malformed {frame : Frame} {cause : Malformed}
    (hmessage : messageOf frame = .error cause) (session : Session σ) (rest : List Event) :
    session.handle frame rest = session.refused [rejection frame cause] rest := by
  have hanswer : answer session.protocol frame session.state =
      (some (.error (rejection frame cause)), true, session.state) := by
    simp [answer_eq, replyOf, isRejected, stateOf, hmessage]
  simp [handle, hanswer, refused]

theorem turn_of_written {session : Session σ} {reply : Message} {rest : List Event}
    (hreply : reply.IsReply)
    (hinput : session.input = eventsOf (writeFrame reply.encode) ++ rest)
    (hlimit : reply.encode.length ≤ session.limit) (hcount : session.limit < Text.countBound) :
    session.turn =
      match reply.id? with
      | some _ => (session.passed rest).settled
      | none =>
        (session.refused [(Malformed.missingMethod none).errorReply] rest).settled := by
  rw [turn_of_payload hinput hlimit hcount]
  cases hid : reply.id? with
  | some id =>
    have hmessage := hreply.decodeMessage_of_id hid
    rw [← messageOf_frameOf] at hmessage
    rw [handle_of_reply hmessage hreply.method?_eq_none]
  | none =>
    have hmessage := hreply.decodeMessage_of_no_id hid
    rw [← messageOf_frameOf] at hmessage
    rw [handle_of_malformed hmessage]
    rfl

/-- The payload is no message, and this is the error that it is answered with. -/
def IsRefused (payload : List UInt8) (error : ErrorReply) : Prop :=
  ∃ cause, decodeMessage "utf-8" payload = .error cause ∧
    rejection (frameOf payload) cause = error

theorem handle_of_isRefused {payload : List UInt8} {error : ErrorReply} (h : IsRefused payload error)
    (session : Session σ) (rest : List Event) :
    session.handle (frameOf payload) rest = session.refused [error] rest := by
  obtain ⟨cause, hmessage, rfl⟩ := h
  rw [← messageOf_frameOf] at hmessage
  exact handle_of_malformed hmessage session rest

/-- Payloads that are no messages are served one after the other. -/
theorem serves_of_malformed {protocol : Protocol σ} {limit : Nat} {state : σ}
    {refusals : List (List UInt8 × ErrorReply)}
    (hrefusals : ∀ refusal ∈ refusals,
      IsRefused refusal.1 refusal.2 ∧ refusal.1.length ≤ limit)
    (hcount : limit < Text.countBound) (hgoes : protocol.finished state = false) :
    Serves protocol limit state (eventsOf (refusals.flatMap fun refusal => writeFrame refusal.1))
      (refusals.map fun refusal => frameOf refusal.1) (.ok ()) [] := by
  induction refusals with
  | nil => exact .endOfStream (Wire.readFrame_nil limit)
  | cons refusal refusals ih =>
    obtain ⟨⟨⟨cause, hmessage, -⟩, hlength⟩, hothers⟩ := List.forall_mem_cons.1 hrefusals
    rw [← messageOf_frameOf] at hmessage
    have hstays : stateOf protocol state (frameOf refusal.1) = state := stateOf_of_malformed hmessage
    have hread := Wire.readFrame_writeFrame hlength (Nat.lt_of_le_of_lt hlength hcount)
    rw [List.flatMap_cons, Wire.eventsOf_append]
    refine .next (hread _) ?_ ?_
    · exact hstays.symm ▸ hgoes
    · exact hstays.symm ▸ ih hothers

/-- A session that absorbs them has refused them. -/
theorem absorb_of_malformed {refusals : List (List UInt8 × ErrorReply)}
    (hrefusals : ∀ refusal ∈ refusals, IsRefused refusal.1 refusal.2) (session : Session σ)
    (unread : List Event) :
    session.absorb (refusals.map fun refusal => frameOf refusal.1) unread =
      session.refused (refusals.map Prod.snd) unread := by
  induction refusals generalizing session with
  | nil => simp [refused]
  | cons refusal refusals ih =>
    obtain ⟨hrefused, hothers⟩ := List.forall_mem_cons.1 hrefusals
    rw [List.map_cons, ← absorb_handle session _ unread, handle_of_isRefused hrefused, ih hothers,
      refused_refused]
    rfl

theorem run_of_malformed {refusals : List (List UInt8 × ErrorReply)} {session : Session σ}
    (hopen : session.phase ≠ .closed)
    (hrefusals : ∀ refusal ∈ refusals,
      IsRefused refusal.1 refusal.2 ∧ refusal.1.length ≤ session.limit)
    (hcount : session.limit < Text.countBound)
    (hgoes : session.protocol.finished session.state = false)
    (hinput : session.input = eventsOf (refusals.flatMap fun refusal => writeFrame refusal.1)) :
    session.run =
      (.ok (), { session.refused (refusals.map Prod.snd) [] with phase := .closed }) := by
  have hserves := serves_of_malformed hrefusals hcount hgoes
  rw [← hinput] at hserves
  rw [run_of_serves hopen hserves,
    absorb_of_malformed fun refusal hrefusal => (hrefusals refusal hrefusal).1]

/-- A session of the service that is about to read some bytes. -/
def reading (bytes : List UInt8) : Session Service.State :=
  { peer := "peer"
    limit := 1000
    protocol := Service.protocol .silent
    state := {}
    input := eventsOf bytes }

theorem run_reading {refusals : List (List UInt8 × ErrorReply)}
    (hrefusals : ∀ refusal ∈ refusals,
      IsRefused refusal.1 refusal.2 ∧ refusal.1.length ≤ 1000) :
    (reading (refusals.flatMap fun refusal => writeFrame refusal.1)).run.2 =
      { (reading []).refused (refusals.map Prod.snd) [] with phase := .closed } := by
  have hrun := @run_of_malformed _ _ refusals (reading _) (by simp [reading]) hrefusals
    (show 1000 < Text.countBound by decide) rfl rfl
  rw [hrun]
  rfl

theorem run_reading_one {payload : List UInt8} {error : ErrorReply} (h : IsRefused payload error)
    (hlength : payload.length ≤ 1000) :
    (reading (writeFrame payload)).run.2 =
      { (reading []).refused [error] [] with phase := .closed } := by
  have hrun := @run_reading _ [(payload, error)] (by simpa using ⟨h, hlength⟩)
  simpa using hrun

/-- **A reply that reaches another session.** Take any reply that a session of the service writes,
and any other session, in any state, that reads it next. If the reply names its request, the other
session writes nothing, rejects nothing and keeps its state: it only counts a frame. If the reply
has no identifier, the other session rejects it and answers, with a reply that has no identifier
either. -/
theorem turn_of_reply (suggester : Suggester) (first : Session Service.State)
    (hfirst : first.protocol = Service.protocol suggester) (hfresh : first.sent = [])
    (reply : Message) (hreply : reply ∈ first.run.2.sent) (second : Session σ) (rest : List Event)
    (hinput : second.input = eventsOf (writeFrame reply.encode) ++ rest)
    (hlimit : reply.encode.length ≤ second.limit) (hcount : second.limit < Text.countBound) :
    second.turn =
      match reply.id? with
      | some _ => (second.passed rest).settled
      | none => (second.refused [(Malformed.missingMethod none).errorReply] rest).settled := by
  rcases mem_sent_run hreply with hold | ⟨state, frame, hanswer⟩
  · rw [hfresh] at hold
    cases hold
  · rw [hfirst] at hanswer
    exact turn_of_written (isReply_of_replyOf hanswer) hinput hlimit hcount

end Wording

theorem length_encode_reply {cause : Malformed}
    (h : cause ∈ [.notAnObject, .missingMethod none, .missingMethod (some (.int 9))]) :
    cause.reply.encode.length ≤ 1000 := by
  simp only [List.mem_cons, List.not_mem_nil, or_false] at h
  -- the text is spelled out first: the writer itself is slow to evaluate
  rw [Message.encode, Message.write, Malformed.reply, Malformed.errorReply, Message.toJson]
  simp only [ErrorReply.toJson, ErrorObject.toJson, Malformed.errorObject, presentMember,
    Json.write, Json.compact, Json.compactMembers]
  rcases h with rfl | rfl | rfl <;> decide +kernel

theorem turn_of_reply_nine :
    let payload := Text.Utf8.encode (Json.write .compact (.obj [("id", .int 9)]))
    let first := reading (writeFrame payload)
    let reply := (Malformed.missingMethod (some (.int 9))).reply
    let second : Session Service.State :=
      { reading (writeFrame reply.encode) with state := Service.withLetter }
    reply ∈ first.run.2.sent ∧ reply.id? = some (.number 9) ∧
      second.turn = .goesOn (second.passed []) := by
  intro payload first reply second
  have hmalformed : decodeMessage "utf-8" payload = .error (.missingMethod (some (.int 9))) :=
    decodeMessage_write (by decide) (by decide)
  have hshort : payload.length ≤ 1000 := by decide +kernel
  have hreply : reply ∈ first.run.2.sent := by
    rw [run_reading_one ⟨_, hmalformed, rfl⟩ hshort]
    exact List.mem_singleton_self reply
  have hlength : reply.encode.length ≤ 1000 := length_encode_reply (by simp)
  refine ⟨hreply, rfl, ?_⟩
  exact turn_of_reply .silent first rfl rfl reply hreply second [] (List.append_nil _).symm hlength
    (show 1000 < Text.countBound by decide)

/-- A reply without an identifier is answered, and so are the answers: the second session rejects
what the first wrote and writes a reply of its own, and a session that reads such replies writes as
many of the same. -/
theorem written_of_unnamed_reply :
    let first := reading (writeFrame (Wire.bytesOf "[]"))
    let second := reading first.run.2.written
    Malformed.notAnObject.reply ∈ first.run.2.sent ∧
      second.run.2.stats.rejected = 1 ∧ second.run.2.written ≠ [] ∧
      ∀ n, let stream := (List.replicate n second.run.2.written).flatten
        (reading stream).run.2.written = stream := by
  intro first second
  have hlist : decodeMessage "utf-8" (Wire.bytesOf "[]") = .error .notAnObject :=
    @decodeMessage_write (.arr []) rfl (by decide)
  have hfirst := run_reading_one ⟨_, hlist, rfl⟩ (by decide +kernel)
  have hwritten : first.run.2.written = writeFrame Malformed.notAnObject.reply.encode := by
    rw [hfirst]
    exact List.append_nil _
  have hunnamed := (Malformed.isReply_reply .notAnObject "").decodeMessage_of_no_id rfl
  have hsecond := run_reading_one ⟨_, hunnamed, rfl⟩ (length_encode_reply (by simp))
  rw [← hwritten] at hsecond
  have hanswer : second.run.2.written = writeFrame (Malformed.missingMethod none).reply.encode := by
    rw [hsecond]
    exact List.append_nil _
  refine ⟨?_, ?_, ?_, ?_⟩
  · rw [hfirst]
    exact List.mem_singleton_self _
  · rw [hsecond]
    rfl
  · rw [hanswer]
    exact List.ne_nil_of_length_pos (length_writeFrame_pos _)
  · intro n stream
    have hagain := (Malformed.isReply_reply (.missingMethod none) "").decodeMessage_of_no_id rfl
    have hrefusals : ∀ refusal ∈ List.replicate n
        ((Malformed.missingMethod none).reply.encode, (Malformed.missingMethod none).errorReply),
        IsRefused refusal.1 refusal.2 ∧ refusal.1.length ≤ 1000 := by
      intro refusal hrefusal
      rw [List.eq_of_mem_replicate hrefusal]
      exact ⟨⟨_, hagain, rfl⟩, length_encode_reply (by simp)⟩
    have hrun := run_reading hrefusals
    simp only [List.flatMap_replicate] at hrun
    simp only [stream, hanswer]
    rw [hrun]
    simp only [refused, reading, List.map_replicate, List.flatMap_replicate, List.nil_append]
    rfl

end Session

end WordServer
