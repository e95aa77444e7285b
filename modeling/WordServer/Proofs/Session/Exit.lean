import WordServer.Proofs.Message.RoundTrip
import WordServer.Proofs.Service.Lifecycle
import WordServer.Proofs.Session.Transcript
import WordServer.Proofs.Wire.RoundTrip

/-!
# The end of a session by `exit`

Frames at the front of a stream are served before anything behind them is looked at
(`Serves.after_frames`). A session of the service goes on until a message calls `exit`, since no
other message ends the service (`lifecycle_stateOf_ne_exited`), and `exit` always does: its params
are not looked at and the lifecycle does not matter (`answer_of_exit`).

So what stands behind the `exit` in the stream has no influence on anything: `run_of_exit` says that
of two runs, and that an `exit` sent as a request is answered first.
-/

namespace WordServer

namespace Wire

/-- The bytes of a frame: header lines that say the length and the type of its content, an empty
line, and the content. -/
def Frame.IsSpelled (frame : Frame) (bytes : List UInt8) : Prop :=
  ∃ lines, bytes = lines.flatMap HeaderLine.bytes ++ [13, 10] ++ frame.content ∧
    Says lines frame.content.length frame.contentType ∧ frame.length = frame.content.length

theorem Frame.IsSpelled.readFrame_append {frame : Frame} {bytes : List UInt8}
    (h : frame.IsSpelled bytes) {limit : Nat} (hlimit : frame.content.length ≤ limit)
    (rest : List Event) : readFrame limit (eventsOf bytes ++ rest) = (.frame frame, rest) := by
  obtain ⟨lines, rfl, hsays, hlength⟩ := h
  exact readFrame_eq_frame_iff.2 ⟨lines, frame.content, rfl, hsays, hlimit, rfl, hlength⟩

theorem isSpelled_writeFrame {payload : List UInt8} (hcount : payload.length < Text.countBound) :
    Frame.IsSpelled ⟨payload.length, none, payload⟩ (writeFrame payload) := by
  rw [writeFrame_eq hcount]
  exact ⟨_, rfl, says_writtenLine hcount, rfl⟩

end Wire

namespace Session

open Wire (Frame Event eventsOf readFrame)

/-! ## Frames at the front -/

section Front

variable {σ : Type} {protocol : Protocol σ} {limit : Nat}

/-- **Frames at the front of a stream are served first**, as long as the state asks to go on. -/
theorem Serves.after_frames {GoesOn : σ → Prop}
    (hgoes : ∀ state, GoesOn state → protocol.finished state = false)
    {frames : List Frame} {pieces : List (List UInt8)}
    (hpieces : List.Forall₂ Frame.IsSpelled frames pieces)
    (hlimit : ∀ frame ∈ frames, frame.content.length ≤ limit)
    (hkeeps : ∀ frame ∈ frames, ∀ state, GoesOn state → GoesOn (stateOf protocol state frame))
    {state : σ} (hstate : GoesOn state) {rest unread : List Event} {more : List Frame}
    {result : Except Wire.Fault Unit}
    (hrest : GoesOn (stateAfter protocol state frames) →
      Serves protocol limit (stateAfter protocol state frames) rest more result unread) :
    Serves protocol limit state (eventsOf pieces.flatten ++ rest) (frames ++ more) result
      unread := by
  induction hpieces generalizing state with
  | nil => exact hrest hstate
  | @cons frame bytes frames pieces hspelled _ ih =>
    obtain ⟨hfirst, hothers⟩ := List.forall_mem_cons.1 hlimit
    obtain ⟨hkeepsFirst, hkeepsOthers⟩ := List.forall_mem_cons.1 hkeeps
    have hnext := hkeepsFirst state hstate
    rw [List.flatten_cons, Wire.eventsOf_append, List.append_assoc]
    exact .next (hspelled.readFrame_append hfirst _) (hgoes _ hnext)
      (ih hothers hkeepsOthers hnext hrest)

end Front

/-! ## Messages that call `exit` -/

/-- The payload is a message that calls `exit`, with any params. -/
def Exits (frame : Frame) : Prop :=
  ∃ message, messageOf frame = .ok message ∧ message.method? = some "exit"

/-- What an `exit` is answered with. -/
def exitReply : Message → Option Message
  | .request request => some (.response { id := request.id, result := .null })
  | _ => none

section Wording

variable [Json.Wording] {suggester : Suggester} {frame : Frame} {message : Message}

theorem finished_eq_false_iff (state : Service.State) :
    (Service.protocol suggester).finished state = false ↔ state.lifecycle ≠ .exited := by
  simp [Service.protocol, Service.exitRequested]

theorem lifecycle_stateOf_ne_exited (hframe : ¬ Exits frame) (state : Service.State)
    (hstate : state.lifecycle ≠ .exited) :
    (stateOf (Service.protocol suggester) state frame).lifecycle ≠ .exited := by
  unfold stateOf
  cases hmessage : messageOf frame with
  | error cause => exact hstate
  | ok message =>
    have hmethod : message.method? ≠ some "exit" := fun h => hframe ⟨message, hmessage, h⟩
    have hmoves := (Service.moves_dispatch suggester message state).lifecycle.2.2.1
    exact fun hafter => hmethod (hmoves.1 ⟨hstate, hafter⟩).2

/-- `exit` succeeds in every state, whatever its params. -/
theorem answer_of_exit (hmessage : messageOf frame = .ok message)
    (hexit : message.method? = some "exit") (state : Service.State) :
    replyOf (Service.protocol suggester) state frame = exitReply message ∧
      stateOf (Service.protocol suggester) state frame = { state with lifecycle := .exited } := by
  have hcall := Service.callOf?_exit hexit
  unfold replyOf stateOf
  simp only [hmessage, Service.protocol]
  constructor
  · rw [Router.reply_dispatch, Service.result?_eq, hcall]
    cases message <;> rfl
  · rw [Service.state_dispatch_eq, hcall]
    rfl

/-- **Exit cuts a session off.** Frames of which none calls `exit`, malformed ones among them, then
one that does, then anything: the session ends behind the `exit` without a fault and leaves the rest
unread. So two such sessions that differ in the rest end in the same state, which is the ended one,
with the same counts and the same bytes written. Those are what the frames before were answered
with, and the reply to the `exit`, if it was sent as a request. -/
theorem run_of_exit (suggester : Suggester) (peer : String) (limit : Nat) {frames : List Frame}
    {pieces : List (List UInt8)} (hpieces : List.Forall₂ Frame.IsSpelled frames pieces)
    (hlimit : ∀ frame ∈ frames, frame.content.length ≤ limit)
    (hstays : ∀ frame ∈ frames, ¬ Exits frame) {last : Frame} {bytes : List UInt8}
    (hlast : last.IsSpelled bytes) (hfits : last.content.length ≤ limit) {message : Message}
    (hmessage : messageOf last = .ok message) (hexit : message.method? = some "exit")
    (t₁ t₂ : List UInt8) :
    let protocol := Service.protocol suggester
    let session (t : List UInt8) : Session Service.State :=
      { peer, limit, protocol, state := {}, input := eventsOf (pieces.flatten ++ bytes ++ t) }
    let first := (session t₁).run
    let second := (session t₂).run
    first.1 = .ok () ∧ second.1 = .ok () ∧
    first.2.input = eventsOf t₁ ∧ second.2.input = eventsOf t₂ ∧
    first.2.stats = second.2.stats ∧ first.2.written = second.2.written ∧
    first.2.state = second.2.state ∧ first.2.state.lifecycle = .exited ∧
    first.2.stats.frames = frames.length + 1 ∧
    first.2.written = ((replies protocol {} frames).filterMap id ++
      (exitReply message).toList).flatMap fun reply => Wire.writeFrame reply.encode := by
  intro protocol session first second
  have hserves (t : List UInt8) : Serves protocol limit {} (session t).input (frames ++ [last])
      (.ok ()) (eventsOf t) := by
    have hexited (state : Service.State) :
        protocol.finished (stateOf protocol state last) = true := by
      rw [(answer_of_exit hmessage hexit state).2]
      rfl
    simp only [session, Wire.eventsOf_append, List.append_assoc]
    refine @Serves.after_frames _ protocol limit (·.lifecycle ≠ .exited)
      (fun state => (finished_eq_false_iff state).2) _ _ hpieces hlimit
      (fun frame hframe => lifecycle_stateOf_ne_exited (hstays frame hframe)) _ (by decide) _ _ _ _
      fun _ => ?_
    exact .exit (hlast.readFrame_append hfits _) (hexited _)
  have hrun (t : List UInt8) : (session t).run =
      (.ok (), { (session t).absorb (frames ++ [last]) (eventsOf t) with phase := .closed }) :=
    run_of_serves (by simp [session]) (hserves t)
  let state := stateAfter protocol {} frames
  have hreply : replyOf protocol state last = exitReply message :=
    (answer_of_exit hmessage hexit state).1
  have hstate : stateOf protocol state last = { state with lifecycle := .exited } :=
    (answer_of_exit hmessage hexit state).2
  have hfirst : first = _ := hrun t₁
  have hsecond : second = _ := hrun t₂
  rw [hfirst, hsecond]
  refine ⟨rfl, rfl, rfl, rfl, rfl, rfl, rfl, ?_, ?_, ?_⟩
  · have hlifecycle : (stateAfter protocol {} (frames ++ [last])).lifecycle = .exited := by
      rw [stateAfter_append]
      exact congrArg Service.State.lifecycle hstate
    exact hlifecycle
  · simp [absorb, session]
  · have hreplies : replies protocol {} (frames ++ [last]) =
        replies protocol {} frames ++ [exitReply message] := by
      rw [replies_append, ← hreply]
      rfl
    simp only [absorb, session, hreplies, List.nil_append, List.filterMap_append]
    cases exitReply message <;> rfl

end Wording

/-- An `exit` that is sent as a request before the service was begun. -/
def earlyExit : Message :=
  .request { id := .number 3, method := "exit", params := some (.int 7) }

theorem messageOf_earlyExit :
    messageOf ⟨earlyExit.encode.length, none, earlyExit.encode⟩ = .ok earlyExit := by
  have hregular : earlyExit.IsRegular := by
    refine .request (by decide) (by decide) ?_
    rintro value hvalue
    cases hvalue
    exact ⟨by decide, by decide⟩
  have hdepth : earlyExit.toJson.depth ≤ Json.greatestDepth := by decide
  have hread := hregular.messageOfText_write hdepth .compact
  rw [← decodeMessage_utf8] at hread
  exact hread

theorem length_encode_earlyExit : earlyExit.encode.length ≤ 1000 := by
  -- the text is spelled out first: the writer itself is slow to evaluate
  rw [Message.encode, Message.write, earlyExit, Message.toJson]
  simp only [Request.toJson, presentMember, Json.write, Json.compact, Json.compactMembers]
  decide +kernel

/-- A payload that is no message, the early `exit`, and a byte that begins no frame. -/
theorem run_of_exit_early :
    let payload := Text.Utf8.encode (Json.write .compact (.arr []))
    let session (t : List UInt8) : Session Service.State :=
      { peer := "peer"
        limit := 1000
        protocol := Service.protocol .silent
        state := {}
        input := eventsOf ([Wire.writeFrame payload].flatten ++
          Wire.writeFrame earlyExit.encode ++ t) }
    let after := (session [67]).run
    after.1 = .ok () ∧ after.2.written = (session []).run.2.written ∧
      after.2.state.lifecycle = .exited ∧ after.2.stats.frames = 2 ∧
      after.2.written = Wire.writeFrame Malformed.notAnObject.reply.encode ++
        Wire.writeFrame (Message.response { id := .number 3, result := .null }).encode := by
  intro payload session after
  have hpayload : messageOf ⟨payload.length, none, payload⟩ = .error .notAnObject :=
    @decodeMessage_write (.arr []) rfl (by decide)
  have hlength : payload.length ≤ 1000 := by decide
  have hcount (length : Nat) (h : length ≤ 1000) : length < Text.countBound :=
    Nat.lt_of_le_of_lt h (by decide)
  have hpieces : List.Forall₂ Frame.IsSpelled [⟨payload.length, none, payload⟩]
      [Wire.writeFrame payload] :=
    .cons (Wire.isSpelled_writeFrame (hcount _ hlength)) .nil
  have hstays : ∀ frame ∈ [(⟨payload.length, none, payload⟩ : Frame)], ¬ Exits frame := by
    rintro frame hframe ⟨message, hmessage, -⟩
    rw [List.mem_singleton.1 hframe, hpayload] at hmessage
    cases hmessage
  obtain ⟨hresult, -, -, -, -, hsame, -, hstate, hframes, hwritten⟩ :=
    run_of_exit .silent "peer" 1000 hpieces (by simpa using hlength) hstays
      (Wire.isSpelled_writeFrame (hcount _ length_encode_earlyExit)) length_encode_earlyExit
      messageOf_earlyExit rfl [67] []
  dsimp only [after, session] at hresult hsame hstate hframes hwritten ⊢
  refine ⟨hresult, hsame, hstate, hframes, ?_⟩
  rw [hwritten]
  simp only [replies, replyOf, hpayload, exitReply, earlyExit]
  rfl

end Session

end WordServer
