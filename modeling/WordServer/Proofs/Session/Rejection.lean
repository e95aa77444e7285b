import WordServer.Proofs.Session.Replies

/-!
# Rejections

A payload that is no message is answered with one error and is otherwise passed over. What the
answer says depends on the payload and its charset alone: which of the two codes it has, and which
identifier. What the session does depends on nothing else either: it writes the answer, counts it,
keeps the state of the protocol, and goes on unless that state had asked to end before
(`handle_of_malformed`, `turn_of_frame`). So in a run that serves such a frame the other frames are
served as if it were not there (`stateAfter_of_malformed`, `replies_of_malformed`).

An `id` past 64 bits is a number but names no request, and the answer has none
(`turn_of_far_identifier`).
-/

namespace WordServer.Session

open Wire (Frame Event readFrame writeFrame)

section Malformed

variable {σ : Type} {protocol : Protocol σ} {state : σ} {frame : Frame} {cause : Malformed}
  (hmessage : messageOf frame = .error cause)

include hmessage

theorem stateAfter_of_malformed (front back : List Frame) :
    stateAfter protocol state (front ++ frame :: back) =
      stateAfter protocol state (front ++ back) := by
  rw [stateAfter_append, stateAfter_append, stateAfter_cons, stateOf_of_malformed hmessage]

variable [Json.Wording]

theorem replyOf_of_malformed :
    replyOf protocol state frame = some (.error (rejection frame cause)) := by
  rw [replyOf, hmessage]

theorem replies_of_malformed (front back : List Frame) :
    replies protocol state (front ++ frame :: back) =
      replies protocol state front ++
        some (.error (rejection frame cause)) ::
          replies protocol (stateAfter protocol state front) back := by
  rw [replies_append, replies, replyOf_of_malformed hmessage, stateOf_of_malformed hmessage]

end Malformed

/-- **A payload that is no message is answered and changes nothing.** For every payload that cannot
be decoded in its charset there is one error reply, whose frame is `bytes`: the line that says its
length, an empty line, and JSON with a code and an identifier. The code is that of a parse error
exactly if the charset is unknown, the bytes are none of it or the text is not JSON, and else that of
an invalid request. The identifier is the `id` of the payload, if that is an object whose `id` is a
string or an integer of 64 bits, and else null.

Every session that reads the payload, in whatever state, writes this frame, keeps the state of its
protocol, and goes on behind the payload unless the state asks to end. A run that serves such a frame
comes to the state that the other frames make, and has written the reply between the replies to the
frames before and behind. -/
theorem rejection_of_malformed [Json.Wording] {charset : String} {content : List UInt8}
    {cause : Malformed} (h : decodeMessage charset content = .error cause) :
    ∃ (reply : ErrorReply) (payload bytes : List UInt8) (code : Int) (shown : Json),
      (Message.error reply).encode = payload ∧
      bytes = Wire.bytesOf "Content-Length: " ++ Text.Utf8.encode (Text.decimal payload.length) ++
        [13, 10, 13, 10] ++ payload ∧
      SaysError payload code shown ∧ TellsOf charset content code shown ∧
      ∀ (σ : Type) (session : Session σ) (frame : Frame),
        frame.mediaType.charset = charset → frame.content = content →
        (∀ rest, readFrame session.limit session.input = (.frame frame, rest) →
          ∃ after : Session σ,
            session.turn = (if session.protocol.finished session.state then .ended (.ok ()) after
              else .goesOn after) ∧
            after =
              { session with
                input := rest
                sent := .error reply :: session.sent
                written := session.written ++ bytes
                stats :=
                  { frames := session.stats.frames + 1
                    replies := session.stats.replies + 1
                    rejected := session.stats.rejected + 1 } }) ∧
        ∀ (front back : List Frame) (result : Except Wire.Fault Unit) (unread : List Event),
          session.phase ≠ .closed →
          Serves session.protocol session.limit session.state session.input
            (front ++ frame :: back) result unread →
          let before := (replies session.protocol session.state front).filterMap id
          let behind := (replies session.protocol
            (stateAfter session.protocol session.state front) back).filterMap id
          session.run.2.state = stateAfter session.protocol session.state (front ++ back) ∧
          session.run.2.sent.reverse = session.sent.reverse ++ before ++ .error reply :: behind ∧
          session.run.2.written = session.written ++
            before.flatMap (fun sent => writeFrame sent.encode) ++ bytes ++
              behind.flatMap fun sent => writeFrame sent.encode := by
  have hsaid := cause.saysError_reply (notJsonReason charset content)
  refine ⟨_, _, _, _, _, rfl, rfl, hsaid, Malformed.tellsOf h, ?_⟩
  intro σ session frame hcharset hcontent
  have hmessage : messageOf frame = .error cause := by
    rw [messageOf, hcharset, hcontent, h]
  have hreply : cause.errorReply (notJsonReason charset content) = rejection frame cause := by
    rw [rejection, hcharset, hcontent]
  constructor
  · intro rest hread
    refine ⟨session.refused [rejection frame cause] rest, ?_, ?_⟩
    · rw [turn_of_frame hread, handle_of_malformed hmessage]
      rfl
    · rw [← hreply]
      simp only [refused, List.flatMap_singleton]
      rfl
  · intro front back result unread hopen hserves before behind
    have hreplies : (replies session.protocol session.state (front ++ frame :: back)).filterMap id =
        before ++ .error (rejection frame cause) :: behind := by
      rw [replies_of_malformed hmessage, List.filterMap_append]
      rfl
    rw [run_of_serves hopen hserves, hreply]
    refine ⟨stateAfter_of_malformed hmessage front back, ?_, ?_⟩
    · simp only [absorb, hreplies, List.reverse_append, List.reverse_reverse, List.append_assoc]
    · simp only [absorb, hreplies, List.flatMap_append, List.flatMap_cons, writeFrame,
        Wire.writtenHeader, List.append_assoc]

/-- The method of this request is a number and its identifier is past the signed ones. -/
theorem rejection_of_malformed_method :
    let asked : Json := .obj [("id", .int 18446744073709551615), ("method", .int 5)]
    let payload := Text.Utf8.encode (asked.write .compact)
    decodeMessage "utf-8" payload = .error (.invalidMethod (some (.int 18446744073709551615))) ∧
      ∃ (answer : List UInt8) (after : Session Service.State),
        (reading (writeFrame payload)).turn = .goesOn after ∧ after.state = {} ∧
        after.written = Wire.bytesOf "Content-Length: " ++
          Text.Utf8.encode (Text.decimal answer.length) ++ [13, 10, 13, 10] ++ answer ∧
        SaysError answer (-32600) (.int 18446744073709551615) := by
  intro asked payload
  have hmalformed : decodeMessage "utf-8" payload =
      .error (.invalidMethod (some (.int 18446744073709551615))) :=
    decodeMessage_write (by decide) (by decide)
  have hsaid : PayloadSays "utf-8" payload asked := payloadSays_write (by decide) (by decide)
  have hshort : payload.length ≤ 1000 := by decide +kernel
  have hread : readFrame 1000 (Wire.eventsOf (writeFrame payload)) =
      (.frame ⟨payload.length, none, payload⟩, []) := by
    have hcount : payload.length < Text.countBound := Nat.lt_of_le_of_lt hshort (by decide)
    simpa using Wire.readFrame_writeFrame hshort hcount []
  obtain ⟨reply, answer, bytes, code, shown, -, hbytes, herror, htells, hserved⟩ :=
    rejection_of_malformed hmalformed
  obtain ⟨hturns, -⟩ := hserved _ (reading (writeFrame payload)) ⟨payload.length, none, payload⟩
    rfl rfl
  obtain ⟨after, hturn, hafter⟩ := hturns [] hread
  have hcode : code = -32600 :=
    htells.invalidRequest.2 fun hnot => hnot.not_payloadSays asked hsaid
  have hshown : shown = .int 18446744073709551615 :=
    htells.id_of_shows _ ⟨asked, hsaid, rfl, .int (by decide) (by decide)⟩
  rw [hcode, hshown] at herror
  refine ⟨hmalformed, answer, after, hturn, ?_, ?_, herror⟩
  · rw [hafter]
    rfl
  · rw [hafter, hbytes]
    rfl

/-- The identifier of this request is past 64 bits, and the answer does not have it. -/
theorem turn_of_far_identifier :
    let payload := Wire.bytesOf "\x7b\"id\":18446744073709551616,\"method\":5\x7d"
    (∃ cause, decodeMessage "utf-8" payload = .error cause) ∧
      ∃ (answer : List UInt8) (after : Session Service.State),
        (reading (writeFrame payload)).turn = .goesOn after ∧
        after.written = writeFrame answer ∧ SaysError answer (-32600) .null ∧
        ∀ code, ¬ SaysError answer code (.int 18446744073709551616) := by
  intro payload
  let far : Json := .float ⟨false, ⟨4503599627370496, 12⟩⟩
  have hread : Json.read? "\x7b\"id\":18446744073709551616,\"method\":5\x7d".toList =
      some (.obj [("id", far), ("method", .int 5)]) := by decide +kernel
  have hmalformed : decodeMessage "utf-8" payload = .error (.invalidMethod (some far)) := by
    simp only [payload, Wire.bytesOf]
    rw [decodeMessage_utf8, messageOfText, hread]
    rfl
  have hshort : payload.length ≤ 1000 := by decide +kernel
  have hanswer : SaysError (Malformed.invalidMethod (some far)).reply.encode (-32600) .null :=
    Malformed.saysError_reply _ ""
  have hturn : (reading (writeFrame payload)).turn = _ :=
    turn_of_payload (List.append_nil _).symm hshort (show 1000 < Text.countBound by decide)
  rw [handle_of_isRefused ⟨_, hmalformed, rfl⟩] at hturn
  refine ⟨⟨_, hmalformed⟩, _, _, hturn, List.append_nil _, hanswer, ?_⟩
  intro code hfar
  cases (hanswer.unique hfar).2

end WordServer.Session
