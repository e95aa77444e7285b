import WordServer.Proofs.Json.Record
import WordServer.Proofs.Json.RoundTrip
import WordServer.Proofs.Message.Classify
import WordServer.Proofs.Text.Utf8

/-!
# Messages read back

A message that is encoded and decoded again is the same message (`decodeMessage_encode`). Its
members are written in a fixed order and read by name, so all that is needed is that reading puts
them under their names (`classify_sorted`): the kinds are told apart by which names are there,
whatever stands under them.
-/

namespace WordServer

/-- A value that reads back as itself: every number an integer of 64 bits and every object in order
of its names. -/
structure Json.IsRegular (value : Json) : Prop where
  exact : value.isExact = true
  ordered : value.inOrder = true

/-- The messages that are carried as they are: calls with a method and any params, answers with any
result, and errors that name a request and have data other than null. -/
inductive Message.IsRegular : Message → Prop
  | request {id : RequestId} {method : String} {params : Option Json} (hid : id.IsCanonical)
      (hmethod : method ≠ "") (hparams : ∀ value ∈ params, value.IsRegular) :
      IsRegular (.request { id, method, params })
  | notification {method : String} {params : Option Json} (hmethod : method ≠ "")
      (hparams : ∀ value ∈ params, value.IsRegular) :
      IsRegular (.notification { method, params })
  | response {id : RequestId} {result : Json} (hid : id.IsCanonical) (hresult : result.IsRegular) :
      IsRegular (.response { id, result })
  | error {id : RequestId} {error : ErrorObject} (hid : id.IsCanonical)
      (hdata : ∀ value ∈ error.data, value.IsRegular ∧ value ≠ .null) :
      IsRegular (.error { id := some id, error })

/-! ## Identifiers -/

namespace RequestId

theorem isExact_toJson {id : RequestId} (h : id.IsCanonical) : id.toJson.isExact = true := by
  have hnames := namesRequest_toJson h
  cases id with
  | number n => exact Json.isExact_int.2 (namesRequest_int_iff.1 hnames)
  | unsigned n => exact Json.isExact_int.2 (namesRequest_int_iff.1 hnames)
  | text s => rfl

theorem sorted_toJson (id : RequestId) : id.toJson.sorted = id.toJson := by
  cases id <;> rfl

theorem depth_toJson (id : RequestId) : id.toJson.depth = 0 := by
  cases id <;> rfl

end RequestId

/-! ## Members as they are written -/

theorem lookup_presentMember (name other : String) (value : Option Json) :
    Entries.lookup other (presentMember name value) = if name = other then value else none := by
  cases value with
  | none => simp [presentMember]
  | some value => simp [presentMember, Entries.lookup]

theorem isExact_presentMember (name : String) {value : Option Json}
    (h : ∀ v ∈ value, v.isExact = true) :
    ∀ member ∈ presentMember name value, member.2.isExact = true := by
  cases value with
  | none => simp [presentMember]
  | some value => simpa [presentMember] using h

theorem map_sorted_eq_self {value : Option Json} (h : ∀ v ∈ value, v.IsRegular) :
    value.map Json.sorted = value := by
  cases value with
  | none => rfl
  | some value => rw [Option.map_some, Json.sorted_eq_self value (h value rfl).ordered]

theorem ErrorCode.isExact_toJson (code : ErrorCode) : code.toJson.isExact = true := by
  cases code <;> decide

namespace ErrorObject

theorem isExact_toJson {error : ErrorObject} (h : ∀ value ∈ error.data, value.IsRegular) :
    error.toJson.isExact = true := by
  rw [toJson, Json.isExact_obj]
  simp only [List.forall_mem_cons]
  exact ⟨error.code.isExact_toJson, rfl, isExact_presentMember "data" fun value hvalue => (h value hvalue).exact⟩

/-- An error object reads back from its members in any order. -/
theorem read?_sorted_toJson {error : ErrorObject}
    (h : ∀ value ∈ error.data, value.IsRegular ∧ value ≠ .null) :
    read? error.toJson.sorted = some error := by
  have hnodup : (Entries.names (("code", error.code.toJson) :: ("message", .str error.message) ::
      presentMember "data" error.data)).Nodup := by
    cases error.data <;> simp [Entries.names, presentMember]
  obtain ⟨entries, hsorted, hfind⟩ := Json.exists_sorted_obj hnodup
  have hcode : Entries.lookup "code" entries = some error.code.toJson := hfind "code"
  have hmessage : Entries.lookup "message" entries = some (.str error.message) := hfind "message"
  have hdata : Entries.lookup "data" entries = error.data := by
    have hregular : ∀ value ∈ error.data, value.IsRegular := fun value hvalue => (h value hvalue).1
    rw [hfind]
    simp [Entries.lookup, lookup_presentMember, map_sorted_eq_self hregular]
  have hcodeRead : ErrorCode.ofJson? error.code.toJson = some error.code :=
    ErrorCode.ofCode?_code error.code
  have hmessageRead : Json.string? (.str error.message) = some error.message := rfl
  rw [toJson, hsorted, read?, Json.record?,
    Json.Fields.bind_eq (Json.Fields.required_named hcode hcodeRead),
    Json.Fields.bind_eq (Json.Fields.required_named hmessage hmessageRead)]
  obtain ⟨code, message, data⟩ := error
  cases data with
  | none =>
    rw [Json.Fields.bind_eq (Json.Fields.optional_named_none hdata)]
    rfl
  | some value =>
    rw [Json.Fields.bind_eq (Json.Fields.optional_named_some hdata (h value rfl).2 rfl)]
    rfl

end ErrorObject

namespace Message

theorem IsRegular.isExact_toJson {message : Message} (h : message.IsRegular) :
    message.toJson.isExact = true := by
  cases h with
  | request hid _ hparams =>
    rw [toJson, Request.toJson, Json.isExact_obj]
    simp only [List.forall_mem_cons]
    exact ⟨rfl, RequestId.isExact_toJson hid, rfl,
      isExact_presentMember "params" fun value hvalue => (hparams value hvalue).exact⟩
  | notification _ hparams =>
    rw [toJson, Notification.toJson, Json.isExact_obj]
    simp only [List.forall_mem_cons]
    exact ⟨rfl, rfl,
      isExact_presentMember "params" fun value hvalue => (hparams value hvalue).exact⟩
  | response hid hresult =>
    rw [toJson, Response.toJson, Json.isExact_obj]
    simp only [List.forall_mem_cons]
    exact ⟨rfl, RequestId.isExact_toJson hid, hresult.exact, List.forall_mem_nil _⟩
  | error hid hdata =>
    rw [toJson, ErrorReply.toJson, Json.isExact_obj]
    simp only [List.forall_mem_cons]
    exact ⟨rfl, RequestId.isExact_toJson hid,
      ErrorObject.isExact_toJson fun value hvalue => (hdata value hvalue).1, List.forall_mem_nil _⟩

/-- Every kind of message has different names for its members, so each stays under its name. -/
theorem exists_sorted_toJson (message : Message) :
    ∃ entries : Entries Json, message.toJson.sorted = .obj entries ∧
      ∀ name, Entries.lookup name entries = (message.toJson.member? name).map Json.sorted := by
  cases message with
  | request request =>
    refine Json.exists_sorted_obj ?_
    cases request.params <;> simp [Entries.names, presentMember]
  | notification notification =>
    refine Json.exists_sorted_obj ?_
    cases notification.params <;> simp [Entries.names, presentMember]
  | response response =>
    refine Json.exists_sorted_obj ?_
    simp [Entries.names]
  | error reply =>
    refine Json.exists_sorted_obj ?_
    simp [Entries.names]

/-- **The kinds are told apart**: a message that is put in order is classified as itself. -/
theorem IsRegular.classify_sorted {message : Message} (h : message.IsRegular) :
    classify message.toJson.sorted = .ok message := by
  obtain ⟨entries, hsorted, hfind⟩ := message.exists_sorted_toJson
  rw [hsorted]
  cases h with
  | @request id method params hid hmethod hparams =>
    have hidMember : Entries.lookup "id" entries = some id.toJson :=
      (hfind "id").trans (congrArg some id.sorted_toJson)
    have hmethodMember : Entries.lookup "method" entries = some (.str method) := hfind "method"
    have hparamsMember : Entries.lookup "params" entries = params := by
      rw [hfind]
      simp [toJson, Request.toJson, Json.member?, Entries.lookup, lookup_presentMember,
        map_sorted_eq_self hparams]
    rw [← hparamsMember]
    exact classify_of_membersSay (.request hmethodMember hmethod ⟨hid, hidMember⟩)
  | @notification method params hmethod hparams =>
    have hidMember : Entries.lookup "id" entries = none := by
      rw [hfind]
      simp [toJson, Notification.toJson, Json.member?, Entries.lookup, lookup_presentMember]
    have hmethodMember : Entries.lookup "method" entries = some (.str method) := hfind "method"
    have hparamsMember : Entries.lookup "params" entries = params := by
      rw [hfind]
      simp [toJson, Notification.toJson, Json.member?, Entries.lookup, lookup_presentMember,
        map_sorted_eq_self hparams]
    rw [← hparamsMember]
    exact classify_of_membersSay (.notification hmethodMember hmethod (.inl hidMember))
  | @response id result hid hresult =>
    have hidMember : Entries.lookup "id" entries = some id.toJson :=
      (hfind "id").trans (congrArg some id.sorted_toJson)
    have hresultMember : Entries.lookup "result" entries = some result :=
      (hfind "result").trans (congrArg some (Json.sorted_eq_self result hresult.ordered))
    exact classify_of_membersSay
      (.response (.inl (hfind "method")) ⟨hid, hidMember⟩ (hfind "error") hresultMember)
  | @error id error hid hdata =>
    have hidMember : Entries.lookup "id" entries = some id.toJson :=
      (hfind "id").trans (congrArg some id.sorted_toJson)
    have herrorMember : Entries.lookup "error" entries = some error.toJson.sorted := hfind "error"
    rw [classify_of_membersSay (.error (.inl (hfind "method")) ⟨hid, hidMember⟩ herrorMember),
      replyError, ErrorObject.read?_sorted_toJson hdata]

/-- A message reads back from its text, in either layout. -/
theorem IsRegular.messageOfText_write {message : Message} (h : message.IsRegular)
    (hdepth : message.toJson.depth ≤ Json.greatestDepth) (layout : Json.Layout) :
    messageOfText (message.write layout) = .ok message := by
  have hread := Json.read?_write layout h.isExact_toJson hdepth
  rw [messageOfText, write, hread]
  exact h.classify_sorted

end Message

/-! ## Payloads -/

/-- Text that is encoded in UTF-8 is what the payload says. -/
theorem decodeMessage_utf8 (text : List Char) :
    decodeMessage "utf-8" (Text.Utf8.encode text) = messageOfText text := by
  have hcharset : Wire.Charset.ofName? "utf-8" = some .utf8 := rfl
  have htext : payloadText "utf-8" (Text.Utf8.encode text) = .ok text := by
    rw [payloadText, hcharset]
    simp only [Wire.Charset.decode, Text.Utf8.decode_encode]
    rfl
  rw [decodeMessage, htext]
  rfl

theorem decodeMessage_write {value : Json} (hexact : value.isExact = true)
    (hdepth : value.depth ≤ Json.greatestDepth) :
    decodeMessage "utf-8" (Text.Utf8.encode (value.write .compact)) = classify value.sorted := by
  rw [decodeMessage_utf8, messageOfText, Json.read?_write .compact hexact hdepth]

/-- **A message reads back**: what is encoded decodes to the same message, for every regular message
that nests at most 127 deep. -/
theorem decodeMessage_encode {message : Message} (h : message.IsRegular)
    (hdepth : message.toJson.depth ≤ 127) :
    decodeMessage "utf-8" message.encode = .ok message := by
  rw [Message.encode, decodeMessage_utf8]
  exact h.messageOfText_write hdepth .compact

/-- A request past the signed identifiers, with a control, a quote and a character beyond the basic
plane in its params, and the least and the greatest integer. -/
def farRequest : Message :=
  .request
    { id := .unsigned 9223372036854775808
      method := "textDocument/completion"
      params := some (.obj [
        ("bounds", .arr [.int (-9223372036854775808), .int 18446744073709551615]),
        ("text", .str "\x01\"\\😀"),
        ("version", .null)]) }

theorem decodeMessage_encode_farRequest :
    farRequest.IsRegular ∧ farRequest.toJson.depth ≤ 127 ∧
      decodeMessage "utf-8" farRequest.encode = .ok farRequest := by
  have hregular : farRequest.IsRegular := by
    refine .request (by decide) (by decide) ?_
    rintro value hvalue
    cases hvalue
    exact ⟨by decide, by decide⟩
  have hdepth : farRequest.toJson.depth ≤ 127 := by decide
  exact ⟨hregular, hdepth, decodeMessage_encode hregular hdepth⟩

end WordServer
