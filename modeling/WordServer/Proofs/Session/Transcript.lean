import Mathlib.Data.List.Forall2
import WordServer.Proofs.Dispatch.Router
import WordServer.Proofs.Wire.Reader
import WordServer.Session

/-!
# What a session does with a stream

A session is a fold over the frames of its stream. `Serves` says which frames it serves and how it
ends, one frame after the other: it stops at the end of the stream, at the first frame that cannot be
read, and behind the first message after which the state asks to end. `run_eq_fold` is the whole of
it: the frames, the replies in their order, the counts, and that a session runs once.

`serve_of_serves` is the loop against the fold, for a session in the middle of its work; the bound on
its turns is never used up, because every frame takes an event.
-/

namespace WordServer.Session

open Wire (Frame Event Reading readFrame readFrames)

variable {σ : Type}

/-! ## One frame -/

/-- The message of a frame, or why its payload is none. -/
def messageOf (frame : Frame) : Except Malformed Message :=
  decodeMessage frame.mediaType.charset frame.content

def isRequest (frame : Frame) : Bool :=
  match messageOf frame with
  | .ok (.request _) => true
  | _ => false

def isRejected (frame : Frame) : Bool :=
  match messageOf frame with
  | .error _ => true
  | .ok _ => false

theorem not_isRequest_and_isRejected (frame : Frame) :
    ¬ (isRequest frame = true ∧ isRejected frame = true) := by
  unfold isRequest isRejected
  cases messageOf frame with
  | error cause => simp
  | ok message => cases message <;> simp

def stateOf (protocol : Protocol σ) (state : σ) (frame : Frame) : σ :=
  match messageOf frame with
  | .ok message => (protocol.router.dispatch message state).2
  | .error _ => state

def stateAfter (protocol : Protocol σ) (state : σ) (frames : List Frame) : σ :=
  frames.foldl (stateOf protocol) state

@[simp] theorem stateAfter_cons (protocol : Protocol σ) (state : σ) (frame : Frame)
    (frames : List Frame) :
    stateAfter protocol state (frame :: frames) =
      stateAfter protocol (stateOf protocol state frame) frames := rfl

theorem stateAfter_append (protocol : Protocol σ) (state : σ) (frames more : List Frame) :
    stateAfter protocol state (frames ++ more) =
      stateAfter protocol (stateAfter protocol state frames) more :=
  List.foldl_append

/-! ## Where a session stops -/

/-- The frames that are served from a stream, the result, and what is left unread. -/
inductive Serves (protocol : Protocol σ) (limit : Nat) :
    σ → List Event → List Frame → Except Wire.Fault Unit → List Event → Prop
  | endOfStream {state : σ} {input unread : List Event}
      (hread : readFrame limit input = (.finished, unread)) :
      Serves protocol limit state input [] (.ok ()) unread
  | fault {state : σ} {input unread : List Event} {fault : Wire.Fault}
      (hread : readFrame limit input = (.failed fault, unread)) :
      Serves protocol limit state input [] (.error fault) unread
  | exit {state : σ} {input rest : List Event} {frame : Frame}
      (hread : readFrame limit input = (.frame frame, rest))
      (hexit : protocol.finished (stateOf protocol state frame) = true) :
      Serves protocol limit state input [frame] (.ok ()) rest
  | next {state : σ} {input rest unread : List Event} {frame : Frame} {frames : List Frame}
      {result : Except Wire.Fault Unit}
      (hread : readFrame limit input = (.frame frame, rest))
      (hgoes : protocol.finished (stateOf protocol state frame) = false)
      (hrest : Serves protocol limit (stateOf protocol state frame) rest frames result unread) :
      Serves protocol limit state input (frame :: frames) result unread

/-- Something is served from every stream: a frame leaves less of it. -/
theorem exists_serves (protocol : Protocol σ) (limit : Nat) (state : σ) (input : List Event) :
    ∃ frames result unread, Serves protocol limit state input frames result unread := by
  induction hlength : input.length using Nat.strongRecOn generalizing state input with
  | ind length ih =>
    rcases hread : readFrame limit input with ⟨reading, rest⟩
    cases reading with
    | finished => exact ⟨_, _, _, .endOfStream hread⟩
    | failed fault => exact ⟨_, _, _, .fault hread⟩
    | frame frame =>
      cases hexit : protocol.finished (stateOf protocol state frame) with
      | true => exact ⟨_, _, _, .exit hread hexit⟩
      | false =>
        have hshorter := Wire.length_lt_of_readFrame hread
        obtain ⟨frames, result, unread, hserves⟩ :=
          ih rest.length (by omega) (stateOf protocol state frame) rest rfl
        exact ⟨_, _, _, .next hread hexit hserves⟩

/-- How a session ends that has served frames: `state` is what they made of the state, and `rest` is
what is behind them in the stream. -/
inductive Ends (protocol : Protocol σ) (limit : Nat) (state : σ) (frames : List Frame)
    (rest : List Event) : Except Wire.Fault Unit → List Event → Prop
  | exit (hframes : frames ≠ []) (hexit : protocol.finished state = true) :
      Ends protocol limit state frames rest (.ok ()) rest
  | endOfStream {unread : List Event} (hgoes : frames ≠ [] → protocol.finished state = false)
      (hread : readFrame limit rest = (.finished, unread)) :
      Ends protocol limit state frames rest (.ok ()) unread
  | fault {unread : List Event} {fault : Wire.Fault}
      (hgoes : frames ≠ [] → protocol.finished state = false)
      (hread : readFrame limit rest = (.failed fault, unread)) :
      Ends protocol limit state frames rest (.error fault) unread

theorem Ends.cons {protocol : Protocol σ} {limit : Nat} {state : σ} {frame : Frame}
    {frames : List Frame} {rest unread : List Event} {result : Except Wire.Fault Unit}
    (hgoes : protocol.finished (stateOf protocol state frame) = false)
    (h : Ends protocol limit (stateAfter protocol state (frame :: frames)) frames rest result
      unread) :
    Ends protocol limit (stateAfter protocol state (frame :: frames)) (frame :: frames) rest result
      unread := by
  have hfirst : (frames ≠ [] →
      protocol.finished (stateAfter protocol state (frame :: frames)) = false) →
      protocol.finished (stateAfter protocol state (frame :: frames)) = false := by
    intro hothers
    cases frames with
    | nil => exact hgoes
    | cons other frames => exact hothers (by simp)
  cases h with
  | exit hframes hexit => exact .exit (by simp) hexit
  | endOfStream hothers hread => exact .endOfStream (fun _ => hfirst hothers) hread
  | fault hothers hread => exact .fault (fun _ => hfirst hothers) hread

/-- The frames that are served are the first that reading yields, the session goes on after each but
the last, and behind the last it ends. -/
theorem Serves.first {protocol : Protocol σ} {limit : Nat} {state : σ} {input unread : List Event}
    {frames : List Frame} {result : Except Wire.Fault Unit}
    (h : Serves protocol limit state input frames result unread) :
    ∃ rest, readFrames limit frames.length input = (frames.map .frame, rest) ∧
      (∀ n, 0 < n → n < frames.length →
        protocol.finished (stateAfter protocol state (frames.take n)) = false) ∧
      Ends protocol limit (stateAfter protocol state frames) frames rest result unread := by
  induction h with
  | @endOfStream _ input _ hread =>
    exact ⟨input, rfl, by simp, .endOfStream (by simp) hread⟩
  | @fault _ input _ _ hread =>
    exact ⟨input, rfl, by simp, .fault (by simp) hread⟩
  | @exit state _ rest frame hread hexit =>
    refine ⟨rest, by simp [readFrames, hread], ?_, .exit (by simp) hexit⟩
    intro n hpos hlt
    simp only [List.length_singleton] at hlt
    omega
  | @next state _ _ _ frame frames _ hread hgoes _ ih =>
    obtain ⟨last, hfirst, hearly, hends⟩ := ih
    refine ⟨last, by simp [readFrames, hread, hfirst], ?_, hends.cons hgoes⟩
    intro n hpos hlt
    simp only [List.length_cons] at hlt
    cases n with
    | zero => omega
    | succ n =>
      cases n with
      | zero => exact hgoes
      | succ n => exact hearly (n + 1) (by omega) (by omega)

/-! ## What frames are answered with -/

variable [Json.Wording]

def replyOf (protocol : Protocol σ) (state : σ) (frame : Frame) : Option Message :=
  match messageOf frame with
  | .ok message => (protocol.router.dispatch message state).1
  | .error cause => some (.error (rejection frame cause))

/-- The reply is what the payload calls for: a request gets one with its identifier, a payload that
is no message gets the error that says so, and anything else gets none. -/
def Fits (frame : Frame) (reply : Option Message) : Prop :=
  match messageOf frame with
  | .ok (.request request) =>
    ∃ message, reply = some message ∧ message.id? = some request.id ∧ message.method? = none
  | .ok (.notification _) | .ok (.response _) | .ok (.error _) => reply = none
  | .error cause => reply = some (.error (rejection frame cause))

theorem answer_eq (protocol : Protocol σ) (frame : Frame) (state : σ) :
    answer protocol frame state =
      (replyOf protocol state frame, isRejected frame, stateOf protocol state frame) := by
  unfold answer replyOf isRejected stateOf messageOf
  cases decodeMessage frame.mediaType.charset frame.content <;> rfl

theorem fits_replyOf (protocol : Protocol σ) (state : σ) (frame : Frame) :
    Fits frame (replyOf protocol state frame) := by
  unfold Fits replyOf
  cases messageOf frame with
  | error cause => rfl
  | ok message =>
    cases message with
    | request request => exact ⟨_, rfl, Router.id?_replyTo request.id _⟩
    | notification notification => rfl
    | response response => rfl
    | error reply => rfl

theorem isSome_replyOf (protocol : Protocol σ) (state : σ) (frame : Frame) :
    (replyOf protocol state frame).isSome = (isRequest frame || isRejected frame) := by
  unfold replyOf isRequest isRejected
  cases messageOf frame with
  | error cause => rfl
  | ok message => cases message <;> rfl

/-- What each frame is answered with, in the state that the frames before it have left. -/
def replies (protocol : Protocol σ) : σ → List Frame → List (Option Message)
  | _, [] => []
  | state, frame :: frames =>
    replyOf protocol state frame :: replies protocol (stateOf protocol state frame) frames

theorem replies_append (protocol : Protocol σ) (state : σ) (frames more : List Frame) :
    replies protocol state (frames ++ more) =
      replies protocol state frames ++
        replies protocol (stateAfter protocol state frames) more := by
  induction frames generalizing state with
  | nil => rfl
  | cons frame frames ih =>
    rw [List.cons_append, replies, ih, replies, stateAfter_cons, List.cons_append]

theorem fits_replies (protocol : Protocol σ) (state : σ) (frames : List Frame) :
    List.Forall₂ Fits frames (replies protocol state frames) := by
  induction frames generalizing state with
  | nil => exact .nil
  | cons frame frames ih => exact .cons (fits_replyOf protocol state frame) (ih _)

/-- The session after frames, of which the last left `unread`. -/
def absorb (session : Session σ) (frames : List Frame) (unread : List Event) : Session σ :=
  { session with
    state := stateAfter session.protocol session.state frames
    input := unread
    sent := ((replies session.protocol session.state frames).filterMap id).reverse ++ session.sent
    written := session.written ++
      ((replies session.protocol session.state frames).filterMap id).flatMap
        fun reply => Wire.writeFrame reply.encode
    stats :=
      { frames := session.stats.frames + frames.length
        replies := session.stats.replies + (frames.countP isRequest + frames.countP isRejected)
        rejected := session.stats.rejected + frames.countP isRejected } }

@[simp] theorem absorb_nil (session : Session σ) (unread : List Event) :
    session.absorb [] unread = { session with input := unread } := by
  simp [absorb, replies, stateAfter]

/-- A frame that is handled is the first of those that are absorbed. -/
theorem absorb_handle (session : Session σ) (frame : Frame) (rest : List Event)
    (frames : List Frame) (unread : List Event) :
    (session.handle frame rest).absorb frames unread = session.absorb (frame :: frames) unread := by
  have hsome := isSome_replyOf session.protocol session.state frame
  have hnot := not_isRequest_and_isRejected frame
  simp only [absorb, handle, answer_eq, stateAfter_cons, replies, List.length_cons, List.countP_cons,
    hsome, mk.injEq, SessionStats.mk.injEq, true_and]
  refine ⟨?_, ?_, ?_, ?_, ?_⟩
  · cases replyOf session.protocol session.state frame <;> simp
  · cases replyOf session.protocol session.state frame <;> simp
  · omega
  · cases hrequest : isRequest frame <;> cases hrejected : isRejected frame <;> simp_all <;> omega
  · omega

/-! ## The loop -/

/-- What a turn can do: stop at the end or at a fault, or handle a frame and then stop or go on. -/
theorem turn_eq (session : Session σ) :
    session.turn =
      match readFrame session.limit session.input with
      | (.finished, rest) => .ended (.ok ()) (session.absorb [] rest)
      | (.failed fault, rest) => .ended (.error fault) (session.absorb [] rest)
      | (.frame frame, rest) =>
        if session.protocol.finished (stateOf session.protocol session.state frame) then
          .ended (.ok ()) (session.handle frame rest)
        else .goesOn (session.handle frame rest) := by
  unfold turn
  rcases readFrame session.limit session.input with ⟨reading, rest⟩
  cases reading with
  | finished => simp only [absorb_nil]
  | failed fault => simp only [absorb_nil]
  | frame frame => simp only [handle, answer_eq]

theorem handle_eq_absorb (session : Session σ) (frame : Frame) (rest : List Event) :
    session.handle frame rest = session.absorb [frame] rest := by
  rw [← absorb_handle session frame rest [] rest, absorb_nil]
  rfl

/-- **The loop is the fold.** With more turns than events, a session absorbs what is to be served from
its stream. -/
theorem serve_of_serves {turns : Nat} {session : Session σ} {frames : List Frame}
    {result : Except Wire.Fault Unit} {unread : List Event}
    (h : Serves session.protocol session.limit session.state session.input frames result unread)
    (hturns : session.input.length < turns) :
    serve turns session = (result, session.absorb frames unread) := by
  induction turns generalizing session frames with
  | zero => omega
  | succ turns ih =>
    rw [serve, turn_eq]
    cases h with
    | endOfStream hread => rw [hread]
    | fault hread => rw [hread]
    | exit hread hexit => simp only [hread, hexit, if_true, handle_eq_absorb]
    | @next _ _ rest _ frame frames _ hread hgoes hrest =>
      -- the frame took an event, so fewer are left than turns
      have hshorter := Wire.length_lt_of_readFrame hread
      have hfewer : rest.length < turns := by omega
      have hstate : (session.handle frame rest).state =
          stateOf session.protocol session.state frame := by
        simp only [handle, answer_eq]
      rw [← hstate] at hrest
      simp only [hread, hgoes, Bool.false_eq_true, if_false]
      rw [@ih (session.handle frame rest) frames hrest hfewer, absorb_handle]

/-- A session that is not closed absorbs what is to be served from its stream. -/
theorem run_of_serves {session : Session σ} (hopen : session.phase ≠ .closed)
    {frames : List Frame} {result : Except Wire.Fault Unit} {unread : List Event}
    (h : Serves session.protocol session.limit session.state session.input frames result unread) :
    session.run = (result, { session.absorb frames unread with phase := .closed }) := by
  have hserve := @serve_of_serves σ _ (session.input.length + 1) { session with phase := .serving }
    _ _ _ h (Nat.lt_succ_self _)
  rw [run, if_neg hopen, hserve]
  rfl

/-! ## A whole run -/

/-- The bytes that were put on the stream are the replies that were sent, in their order. -/
def WritesSent (session : Session σ) : Prop :=
  session.written = session.sent.reverse.flatMap fun reply => Wire.writeFrame reply.encode

theorem WritesSent.absorb {session : Session σ} (h : session.WritesSent) (frames : List Frame)
    (unread : List Event) : (session.absorb frames unread).WritesSent := by
  unfold WritesSent at h ⊢
  simp only [Session.absorb, h, List.reverse_append, List.reverse_reverse, List.flatMap_append]

/-- Whatever is served, what is written is what is sent. -/
theorem WritesSent.run {session : Session σ} (h : session.WritesSent) :
    session.run.2.WritesSent := by
  by_cases hopen : session.phase = .closed
  · rw [Session.run, if_pos hopen]
    exact h
  · obtain ⟨frames, result, unread, hserves⟩ :=
      exists_serves session.protocol session.limit session.state session.input
    rw [run_of_serves hopen hserves]
    exact h.absorb frames unread

/-- **A session is a fold over its frames.** A session that is run serves the frames that the reader
yields, up to the end of the stream, a frame that cannot be read, or the first message after which
the state asks to end. It has written one reply for each request and each payload that is no message,
in order, and counted them; it is closed, and running it again changes nothing. -/
theorem run_eq_fold (peer : String) (limit : Nat) (protocol : Protocol σ) (state : σ)
    (input : List Event) :
    let session : Session σ := { peer, limit, protocol, state, input }
    let after := session.run.2
    ∃ (frames : List Frame) (rest : List Event),
      readFrames limit frames.length input = (frames.map .frame, rest) ∧
      (∀ n, 0 < n → n < frames.length →
        protocol.finished (stateAfter protocol state (frames.take n)) = false) ∧
      Ends protocol limit (stateAfter protocol state frames) frames rest session.run.1 after.input ∧
      after.state = stateAfter protocol state frames ∧
      List.Forall₂ Fits frames (replies protocol state frames) ∧
      after.written = ((replies protocol state frames).filterMap id).flatMap
        (fun reply => Wire.writeFrame reply.encode) ∧
      after.stats.frames = frames.length ∧
      after.stats.rejected = frames.countP isRejected ∧
      after.stats.replies = frames.countP isRequest + frames.countP isRejected ∧
      after.phase = .closed ∧ after.run = (.ok (), after) := by
  intro session after
  obtain ⟨frames, result, unread, hserves⟩ := exists_serves protocol limit state input
  have hrun : session.run = (result, { session.absorb frames unread with phase := .closed }) :=
    run_of_serves (by simp [session]) hserves
  obtain ⟨rest, hfirst, hearly, hends⟩ := hserves.first
  refine ⟨frames, rest, hfirst, hearly, ?_⟩
  simp only [after, hrun]
  refine ⟨hends, rfl, fits_replies protocol state frames, ?_, ?_, ?_, ?_, trivial, ?_⟩
  · simp [absorb, session]
  · simp [absorb, session]
  · simp [absorb, session]
  · simp [absorb, session]
  · simp [run]

end WordServer.Session
