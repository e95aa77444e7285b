import Mathlib.Data.List.Forall2
import WordServer.Caller
import WordServer.Proofs.Message.RoundTrip
import WordServer.Proofs.Wire.RoundTrip

/-!
# What a caller sends is what a reader gets

An `Ask` is what a caller is asked to send, and `makeAll` sends one after the other. What goes out
does not depend on the layout: the messages of `numbered`, in which the requests count up from zero
and the notifications take no number (`filterMap_id?_numbered`). Each of them reads back in either
layout and from its own frame, so that the reader of the stream gets the messages as they were asked
for (`readFrames_makeAll`).
-/

namespace WordServer.Caller

/-- What a caller is asked to send. -/
inductive Ask where
  | request (method : String) (params : Option Json)
  | notification (method : String) (params : Option Json)
  deriving DecidableEq, Repr

namespace Ask

def method : Ask → String
  | .request method _ | .notification method _ => method

def params : Ask → Option Json
  | .request _ params | .notification _ params => params

def isRequest : Ask → Bool
  | .request _ _ => true
  | .notification _ _ => false

/-- The message that carries an ask, if the next request has a number. -/
def message (number : Nat) : Ask → Message
  | .request method params => .request { id := .number number, method, params }
  | .notification method params => .notification { method, params }

/-- A message is what was asked for: of the same kind, with the same method and params. -/
inductive Carries : Ask → Message → Prop
  | request {id : RequestId} {method : String} {params : Option Json} :
      Carries (.request method params) (.request { id, method, params })
  | notification {method : String} {params : Option Json} :
      Carries (.notification method params) (.notification { method, params })

theorem carries_message (number : Nat) (ask : Ask) : ask.Carries (ask.message number) := by
  cases ask with
  | request method params => exact .request
  | notification method params => exact .notification

theorem isRegular_message {ask : Ask} {number : Nat} (hnumber : number < Text.signedBound)
    (hmethod : ask.method ≠ "") (hparams : ∀ value ∈ ask.params, value.IsRegular) :
    (ask.message number).IsRegular := by
  cases ask with
  | request method params =>
    have hid : (RequestId.number number).IsCanonical := ⟨by omega, by omega⟩
    exact .request hid hmethod hparams
  | notification method params => exact .notification hmethod hparams

theorem depthMembers_presentMember {name : String} {value : Option Json} {bound : Nat}
    (h : ∀ v ∈ value, v.depth ≤ bound) :
    Json.depthMembers (presentMember name value) ≤ bound := by
  cases value with
  | none => exact Nat.zero_le _
  | some value => simpa [presentMember, Json.depthMembers] using h value rfl

theorem depth_message {ask : Ask} {bound : Nat} (h : ∀ value ∈ ask.params, value.depth ≤ bound)
    (number : Nat) : (ask.message number).toJson.depth ≤ bound + 1 := by
  cases ask with
  | request method params =>
    have hparams : Json.depthMembers (presentMember "params" params) ≤ bound :=
      depthMembers_presentMember h
    simpa [message, Message.toJson, Request.toJson, RequestId.toJson, Json.depth,
      Json.depthMembers] using hparams
  | notification method params =>
    have hparams : Json.depthMembers (presentMember "params" params) ≤ bound :=
      depthMembers_presentMember h
    simpa [message, Message.toJson, Notification.toJson, Json.depth,
      Json.depthMembers] using hparams

end Ask

/-! ## Asks one after the other -/

/-- Sends what is asked for, and gives the identifier if it is a request. -/
def make (caller : Caller) : Ask → Option RequestId × Caller
  | .request method params =>
    let (id, caller) := caller.request method params
    (some id, caller)
  | .notification method params => (none, caller.notify method params)

def makeAll (caller : Caller) : List Ask → List (Option RequestId) × Caller
  | [] => ([], caller)
  | ask :: asks =>
    let (id, caller) := caller.make ask
    let (ids, caller) := caller.makeAll asks
    (id :: ids, caller)

/-- The messages of asks, if the next request has a number: each request takes one. -/
def numbered (number : Nat) : List Ask → List Message
  | [] => []
  | ask :: asks =>
    ask.message number :: numbered (if ask.isRequest then number + 1 else number) asks

theorem make_eq (caller : Caller) (ask : Ask) :
    caller.make ask =
      ((ask.message caller.next).id?,
        { caller with
          next := if ask.isRequest then caller.next + 1 else caller.next
          sent := ask.message caller.next :: caller.sent }) := by
  cases ask <;> rfl

/-- What a caller has sent and said after asks: the numbered messages and their identifiers. -/
theorem makeAll_eq (caller : Caller) (asks : List Ask) :
    (caller.makeAll asks).1 = (numbered caller.next asks).map Message.id? ∧
      (caller.makeAll asks).2.layout = caller.layout ∧
      (caller.makeAll asks).2.sent = (numbered caller.next asks).reverse ++ caller.sent := by
  induction asks generalizing caller with
  | nil => exact ⟨rfl, rfl, rfl⟩
  | cons ask asks ih =>
    rw [makeAll, make_eq]
    obtain ⟨hids, hlayout, hsent⟩ := ih
      { caller with
        next := if ask.isRequest then caller.next + 1 else caller.next
        sent := ask.message caller.next :: caller.sent }
    refine ⟨?_, hlayout, ?_⟩
    · rw [numbered, List.map_cons]
      exact congrArg _ hids
    · rw [numbered, List.reverse_cons, List.append_assoc]
      exact hsent

theorem forall₂_carries_numbered (number : Nat) (asks : List Ask) :
    List.Forall₂ Ask.Carries asks (numbered number asks) := by
  induction asks generalizing number with
  | nil => exact .nil
  | cons ask asks ih => exact .cons (ask.carries_message number) (ih _)

/-- The requests are numbered one after the other, whatever is sent between them. -/
theorem filterMap_id?_numbered (number : Nat) (asks : List Ask) :
    (numbered number asks).filterMap Message.id? =
      (List.range' number (asks.countP Ask.isRequest)).map fun n : Nat => RequestId.number n := by
  induction asks generalizing number with
  | nil => rfl
  | cons ask asks ih =>
    rw [numbered, List.countP_cons]
    cases ask with
    | request method params =>
      have hid : ((Ask.request method params).message number).id? = some (.number number) := rfl
      rw [List.filterMap_cons_some hid, ih]
      simp [Ask.isRequest, List.range'_succ]
    | notification method params =>
      have hid : ((Ask.notification method params).message number).id? = none := rfl
      rw [List.filterMap_cons_none hid, ih]
      simp [Ask.isRequest]

theorem exists_of_mem_numbered {number : Nat} {asks : List Ask} {message : Message}
    (h : message ∈ numbered number asks) :
    ∃ ask ∈ asks, ∃ n ≤ number + asks.countP Ask.isRequest, message = ask.message n := by
  induction asks generalizing number with
  | nil => cases h
  | cons ask asks ih =>
    rcases List.mem_cons.1 h with rfl | h
    · exact ⟨ask, List.mem_cons_self, number, Nat.le_add_right _ _, rfl⟩
    · obtain ⟨other, hother, n, hn, rfl⟩ := ih h
      refine ⟨other, List.mem_cons_of_mem ask hother, n, ?_, rfl⟩
      rw [List.countP_cons]
      cases hask : ask.isRequest with
      | true => simp only [hask, if_true] at hn ⊢; omega
      | false => simpa [hask] using hn

/-! ## What the reader gets -/

theorem written_makeAll (layout : Json.Layout) (asks : List Ask) :
    (({ layout } : Caller).makeAll asks).2.written =
      ((numbered 0 asks).map fun message => Text.Utf8.encode (message.write layout)).flatMap
        Wire.writeFrame := by
  obtain ⟨-, hlayout, hsent⟩ := makeAll_eq { layout } asks
  rw [written, hlayout, hsent, List.append_nil, List.reverse_reverse, List.flatMap_map]

theorem decodeMessage_write_of_mem_numbered {asks : List Ask}
    (hmethod : ∀ ask ∈ asks, ask.method ≠ "")
    (hparams : ∀ ask ∈ asks, ∀ value ∈ ask.params, value.IsRegular ∧ value.depth ≤ 126)
    (hcount : asks.countP Ask.isRequest < Text.signedBound) {message : Message}
    (h : message ∈ numbered 0 asks) (layout : Json.Layout) :
    decodeMessage "utf-8" (Text.Utf8.encode (message.write layout)) = .ok message := by
  obtain ⟨ask, hask, n, hn, rfl⟩ := exists_of_mem_numbered h
  have hregular : (ask.message n).IsRegular :=
    Ask.isRegular_message (by omega) (hmethod ask hask)
      fun value hvalue => (hparams ask hask value hvalue).1
  have hdepth : (ask.message n).toJson.depth ≤ Json.greatestDepth :=
    Ask.depth_message (fun value hvalue => (hparams ask hask value hvalue).2) n
  rw [decodeMessage_utf8]
  exact hregular.messageOfText_write hdepth layout

/-- **A reader gets what was asked for**, from any cut of the stream into chunks: one frame for each
ask and then the end of the stream. The frames hold the messages in the order of the asks, the same
in either layout, with the requests numbered from zero, and the caller has given out these numbers. -/
theorem readFrames_makeAll (layout : Json.Layout) (limit : UInt64) {asks : List Ask}
    (hmethod : ∀ ask ∈ asks, ask.method ≠ "")
    (hparams : ∀ ask ∈ asks, ∀ value ∈ ask.params, value.IsRegular ∧ value.depth ≤ 126)
    (hcount : asks.countP Ask.isRequest < Text.signedBound)
    (hlimit : ∀ message ∈ numbered 0 asks,
      (Text.Utf8.encode (message.write layout)).length ≤ limit.toNat)
    (capacity : Nat) {chunks : List (List UInt8)}
    (hchunks : chunks.flatten = (({ layout } : Caller).makeAll asks).2.written) :
    let read := (Wire.Buffered.ofDelivery capacity (chunks.map .bytes)).readFrames limit.toNat
      asks.length
    ∃ payloads : List (List UInt8),
      read.1 = payloads.map (fun payload => .frame ⟨payload.length, none, payload⟩) ∧
      (read.2.readFrame limit.toNat).1 = .finished ∧
      payloads.map (decodeMessage "utf-8") = (numbered 0 asks).map .ok ∧
      List.Forall₂ Ask.Carries asks (numbered 0 asks) ∧
      (numbered 0 asks).filterMap Message.id? =
        (List.range (asks.countP Ask.isRequest)).map (fun n : Nat => .number n) ∧
      (({ layout } : Caller).makeAll asks).1 = (numbered 0 asks).map Message.id? := by
  intro read
  let payloads := (numbered 0 asks).map fun message => Text.Utf8.encode (message.write layout)
  have hlength : payloads.length = asks.length :=
    (List.length_map _).trans (forall₂_carries_numbered 0 asks).length_eq.symm
  have hfits : ∀ payload ∈ payloads, payload.length ≤ limit.toNat := List.forall_mem_map.2 hlimit
  have hbound : ∀ payload ∈ payloads, payload.length < Text.countBound :=
    fun payload hpayload => Nat.lt_of_le_of_lt (hfits payload hpayload) limit.toNat_lt
  have hread : Wire.Buffered.Agrees read
      (Wire.readFrames limit.toNat asks.length (Wire.Delivery.events (chunks.map .bytes))) :=
    Wire.Buffered.readFrames_agrees _ _ (Wire.Buffered.ofDelivery_capacity_pos capacity _)
  have hframes := Wire.readFrames_flatMap_writeFrame hfits hbound []
  rw [List.append_nil, hlength] at hframes
  rw [Wire.events_map_bytes, hchunks, written_makeAll, hframes] at hread
  have hnext := Wire.Buffered.readFrame_agrees limit.toNat hread.capacity
  rw [hread.left] at hnext
  refine ⟨payloads, hread.result, hnext.result, ?_, forall₂_carries_numbered 0 asks, ?_,
    (makeAll_eq { layout } asks).1⟩
  · rw [List.map_map]
    exact List.map_congr_left fun message hmessage =>
      decodeMessage_write_of_mem_numbered hmethod hparams hcount hmessage layout
  · rw [filterMap_id?_numbered, List.range_eq_range']

/-- Two requests with a notification between them, and with params, none and null. -/
def shortTalk : List Ask :=
  [ .request "initialize" (some (.obj [("processId", .null), ("title", .str "é\n😀")])),
    .notification "initialized" none,
    .request "shutdown" (some .null) ]

theorem readFrames_makeAll_shortTalk :
    let written := (({ layout := .indented } : Caller).makeAll shortTalk).2.written
    let chunks := [written.take 20, written.drop 20]
    let read := (Wire.Buffered.ofDelivery 16 (chunks.map .bytes)).readFrames (256 : UInt64).toNat 3
    ∃ payloads : List (List UInt8),
      read.1 = payloads.map (fun payload => .frame ⟨payload.length, none, payload⟩) ∧
      (read.2.readFrame (256 : UInt64).toNat).1 = .finished ∧
      payloads.map (decodeMessage "utf-8") = (numbered 0 shortTalk).map .ok ∧
      (({ layout := .indented } : Caller).makeAll shortTalk).1 =
        [some (.number 0), none, some (.number 1)] := by
  intro written chunks read
  have hmethod : ∀ ask ∈ shortTalk, ask.method ≠ "" := by decide
  have hparams : ∀ ask ∈ shortTalk, ∀ value ∈ ask.params, value.IsRegular ∧ value.depth ≤ 126 := by
    intro ask hask value hvalue
    simp only [shortTalk, List.mem_cons, List.not_mem_nil, or_false] at hask
    rcases hask with rfl | rfl | rfl
    · cases hvalue
      exact ⟨⟨by decide, by decide⟩, by decide⟩
    · cases hvalue
    · cases hvalue
      exact ⟨⟨by decide, by decide⟩, by decide⟩
  have hlimit : ∀ message ∈ numbered 0 shortTalk,
      (Text.Utf8.encode (message.write .indented)).length ≤ (256 : UInt64).toNat := by
    decide +kernel
  have hchunks : chunks.flatten = written := by
    simp [chunks]
  obtain ⟨payloads, hframes, hend, hdecoded, -, -, hids⟩ :=
    readFrames_makeAll .indented 256 hmethod hparams (by decide) hlimit 16 hchunks
  exact ⟨payloads, hframes, hend, hdecoded, hids⟩

end WordServer.Caller
