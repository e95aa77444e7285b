import WordServer.Message.Decode
import WordServer.Proofs.Message.RoundTrip
import WordServer.Proofs.Wire.Charset

/-!
# Payloads that are no messages

A payload is `Unreadable`, because its charset is not known, its bytes are none of that charset or
its text is not JSON, or it says a value (`PayloadSays`), and never both. What is wrong with a value
that is no message is found by its members (`classify_eq_error`), and whichever rule is broken first,
the identifier that the value shows is kept. So the answer to a malformed payload tells the two apart
by its code, and carries the identifier of the payload in the same form (`Malformed.tellsOf`); the
answer itself is JSON that says the two (`Malformed.saysError_reply`).
-/

namespace WordServer

variable {charset : String} {content : List UInt8} {text : List Char} {value : Json}
  {cause : Malformed}

/-! ## What a payload says -/

/-- The text that bytes are in the charset with a name. -/
def TextOf (charset : String) (content : List UInt8) (text : List Char) : Prop :=
  ∃ known : Wire.Charset, charset ∈ known.names ∧ known.Holds content text

/-- The value that a payload says in the charset with a name. -/
def PayloadSays (charset : String) (content : List UInt8) (value : Json) : Prop :=
  ∃ text, TextOf charset content text ∧ Json.read? text = some value

/-- The payloads that say nothing. -/
inductive Unreadable (charset : String) (content : List UInt8) : Prop
  | unsupportedCharset (h : ∀ known : Wire.Charset, charset ∉ known.names)
  | invalidBytes {known : Wire.Charset} (hname : charset ∈ known.names)
      (h : ∀ text, ¬ known.Holds content text)
  | notJson {text : List Char} (htext : TextOf charset content text)
      (h : Json.read? text = none)

theorem payloadText_eq_ok_iff :
    payloadText charset content = .ok text ↔ TextOf charset content text := by
  unfold payloadText TextOf
  constructor
  · intro h
    cases hname : Wire.Charset.ofName? charset with
    | none =>
      rw [hname] at h
      cases h
    | some known =>
      rw [hname] at h
      exact ⟨known, Wire.Charset.ofName?_eq_some_iff.1 hname,
        Wire.Charset.decode_eq_ok_iff.1 (Wire.Charset.mapError_eq_ok_iff.1 h)⟩
  · rintro ⟨known, hname, hholds⟩
    rw [Wire.Charset.ofName?_eq_some_iff.2 hname]
    exact Wire.Charset.mapError_eq_ok_iff.2 (Wire.Charset.decode_eq_ok_iff.2 hholds)

theorem TextOf.unique {other : List Char} (h : TextOf charset content text)
    (h' : TextOf charset content other) : text = other := by
  rw [← payloadText_eq_ok_iff] at h h'
  exact Except.ok.inj (h.symm.trans h')

theorem PayloadSays.unique {other : Json} (h : PayloadSays charset content value)
    (h' : PayloadSays charset content other) : value = other := by
  obtain ⟨text, htext, hread⟩ := h
  obtain ⟨text', htext', hread'⟩ := h'
  rw [htext'.unique htext, hread] at hread'
  exact Option.some.inj hread'

theorem textOf_utf8_encode (text : List Char) :
    TextOf "utf-8" (Text.Utf8.encode text) text :=
  ⟨.utf8, List.mem_singleton.2 rfl, .utf8 text⟩

theorem Unreadable.not_payloadSays (h : Unreadable charset content) (value : Json) :
    ¬ PayloadSays charset content value := by
  rintro ⟨text, htext, hread⟩
  cases h with
  | unsupportedCharset hnames =>
    obtain ⟨known, hname, -⟩ := htext
    exact hnames known hname
  | invalidBytes hname hbytes =>
    obtain ⟨other, hother, hholds⟩ := htext
    rw [← Wire.Charset.ofName?_eq_some_iff] at hname hother
    cases hname.symm.trans hother
    exact hbytes text hholds
  | notJson hother hnot =>
    rw [hother.unique htext, hread] at hnot
    cases hnot

/-! ## What is wrong with a payload -/

theorem unreadable_of_payloadText (h : payloadText charset content = .error cause) :
    Unreadable charset content ∧ cause.code = .parseError ∧ cause.id? = none := by
  unfold payloadText at h
  cases hname : Wire.Charset.ofName? charset with
  | none =>
    rw [hname] at h
    cases h
    exact ⟨.unsupportedCharset (Wire.Charset.ofName?_eq_none_iff.1 hname), rfl, rfl⟩
  | some known =>
    simp only [hname] at h
    cases hdecode : known.decode content with
    | error reason =>
      rw [hdecode] at h
      cases h
      refine ⟨.invalidBytes (Wire.Charset.ofName?_eq_some_iff.1 hname) ?_, rfl, rfl⟩
      intro text hholds
      rw [Wire.Charset.decode_eq_ok_iff.2 hholds] at hdecode
      cases hdecode
    | ok text =>
      rw [hdecode] at h
      cases h

/-- A payload that cannot be read is told so, without an identifier; any other is classified. -/
theorem cases_of_malformed (h : decodeMessage charset content = .error cause) :
    (Unreadable charset content ∧ cause.code = .parseError ∧ cause.id? = none) ∨
      ∃ value, PayloadSays charset content value ∧ classify value = .error cause := by
  unfold decodeMessage at h
  cases htext : payloadText charset content with
  | error other =>
    rw [htext] at h
    cases h
    exact .inl (unreadable_of_payloadText htext)
  | ok text =>
    rw [htext] at h
    change messageOfText text = .error cause at h
    rw [payloadText_eq_ok_iff] at htext
    cases hread : Json.read? text with
    | none =>
      rw [messageOfText, hread] at h
      cases h
      exact .inl ⟨.notJson htext hread, rfl, rfl⟩
    | some value =>
      rw [messageOfText, hread] at h
      exact .inr ⟨value, ⟨text, htext, hread⟩, h⟩

/-- A null is no identifier in any case. -/
theorem bind_filter_isNull (raw : Option Json) :
    (raw.filter (!·.isNull)).bind RequestId.ofJson? = raw.bind RequestId.ofJson? := by
  cases raw with
  | none => rfl
  | some value => cases value <;> rfl

theorem classifyReply_eq_error {raw : Option Json} {members : Entries Json}
    (h : classifyReply raw members = .error cause) :
    cause.code = .invalidRequest ∧ cause.id? = raw.bind RequestId.ofJson? := by
  unfold classifyReply at h
  dsimp only at h
  split at h
  · cases h
    exact ⟨rfl, rfl⟩
  · split at h
    · cases h
      exact ⟨rfl, rfl⟩
    · split at h
      · rename_i hid
        cases h
        exact ⟨rfl, hid.symm⟩
      · split at h
        · cases h
        · cases h

/-- **A value that is no message keeps its identifier**, whichever rule it breaks. -/
theorem classify_eq_error (h : classify value = .error cause) :
    cause.code = .invalidRequest ∧ cause.id? = (value.member? "id").bind RequestId.ofJson? := by
  cases value with
  | obj members =>
    rw [Json.member?, ← bind_filter_isNull]
    rw [classify] at h
    split at h
    · exact classifyReply_eq_error h
    · exact classifyReply_eq_error h
    · split at h
      · cases h
        exact ⟨rfl, rfl⟩
      · split at h
        · cases h
        · rename_i hraw
          split at h
          · cases h
          · rename_i hid
            cases h
            rw [hraw]
            exact ⟨rfl, hid.symm⟩
    · cases h
      exact ⟨rfl, rfl⟩
  | _ =>
    cases h
    exact ⟨rfl, rfl⟩

/-! ## What the answer says -/

/-- The payload is the JSON of an error reply with a code and an identifier. -/
def SaysError (payload : List UInt8) (code : Int) (id : Json) : Prop :=
  ∃ message words : String,
    PayloadSays "utf-8" payload
      (.obj [
        ("error", .obj [("code", .int code), ("data", .str words), ("message", .str message)]),
        ("id", id),
        ("jsonrpc", .str "2.0")])

/-- The payload is an object whose `id` names a request: a string, or an integer of 64 bits. -/
def ShowsId (charset : String) (content : List UInt8) (id : Json) : Prop :=
  ∃ value, PayloadSays charset content value ∧ value.member? "id" = some id ∧ id.NamesRequest

/-- A code and an identifier tell what is known of a payload that is no message: whether it could be
read, and what it shows of an identifier. -/
structure TellsOf (charset : String) (content : List UInt8) (code : Int) (id : Json) : Prop where
  parseError : code = -32700 ↔ Unreadable charset content
  invalidRequest : code = -32600 ↔ ¬ Unreadable charset content
  id_of_shows : ∀ shown, ShowsId charset content shown → id = shown
  id_of_not_shows : (∀ shown, ¬ ShowsId charset content shown) → id = .null

theorem payloadSays_write (hexact : value.isExact = true) (hdepth : value.depth ≤ Json.greatestDepth) :
    PayloadSays "utf-8" (Text.Utf8.encode (value.write .compact)) value.sorted :=
  ⟨_, textOf_utf8_encode _, Json.read?_write .compact hexact hdepth⟩

/-- A payload is the JSON of one error reply at most. -/
theorem SaysError.unique {payload : List UInt8} {code code' : Int} {id id' : Json}
    (h : SaysError payload code id) (h' : SaysError payload code' id') : code = code' ∧ id = id' := by
  obtain ⟨message, words, hsaid⟩ := h
  obtain ⟨message', words', hsaid'⟩ := h'
  have hsame := hsaid.unique hsaid'
  simp only [Json.obj.injEq, List.cons.injEq, Prod.mk.injEq, Json.int.injEq, true_and] at hsame
  exact ⟨hsame.1.1, hsame.2.1⟩

namespace Malformed

/-- The identifier of the answer as it is written. -/
def writtenId (cause : Malformed) : Json :=
  (cause.id?.map RequestId.toJson).getD .null

theorem canonical_of_id? {id : RequestId} (h : cause.id? = some id) : id.IsCanonical := by
  cases cause with
  | missingMethod raw | invalidMethod raw =>
    obtain ⟨value, -, hvalue⟩ := Option.bind_eq_some_iff.1 h
    exact (RequestId.ofJson?_eq_some_iff.1 hvalue).1
  | _ => cases h

/-- An identifier is written as a value that is no object or array. -/
theorem writtenId_cases (cause : Malformed) :
    cause.writtenId.isExact = true ∧ cause.writtenId.depth = 0 ∧
      cause.writtenId.sorted = cause.writtenId := by
  unfold writtenId
  cases hid : cause.id? with
  | none => exact ⟨rfl, rfl, rfl⟩
  | some id =>
    exact ⟨RequestId.isExact_toJson (canonical_of_id? hid), id.depth_toJson, id.sorted_toJson⟩

/-- **The answer is the JSON of an error reply**, whatever words it has. -/
theorem saysError_reply (cause : Malformed) (reason : String) :
    SaysError (cause.reply reason).encode cause.code.code cause.writtenId := by
  obtain ⟨hid, hdepth, hsorted⟩ := cause.writtenId_cases
  have hjson : (cause.reply reason).toJson =
      .obj [
        ("jsonrpc", .str "2.0"),
        ("id", cause.writtenId),
        ("error", .obj [
          ("code", cause.code.toJson),
          ("message", .str (cause.errorObject reason).message),
          ("data", .str (cause.message reason))])] := rfl
  have hexact : (cause.reply reason).toJson.isExact = true := by
    rw [hjson, Json.isExact_obj]
    simp only [List.forall_mem_cons, Json.isExact_obj]
    exact ⟨rfl, hid, ⟨cause.code.isExact_toJson, rfl, rfl, List.forall_mem_nil _⟩, List.forall_mem_nil _⟩
  have hshallow : (cause.reply reason).toJson.depth ≤ Json.greatestDepth := by
    simp [hjson, Json.depth, Json.depthMembers, hdepth, ErrorCode.toJson, Json.greatestDepth]
  -- reading puts the members in the order of their names
  have hread : (cause.reply reason).toJson.sorted =
      .obj [
        ("error", .obj [
          ("code", .int cause.code.code),
          ("data", .str (cause.message reason)),
          ("message", .str (cause.errorObject reason).message)]),
        ("id", cause.writtenId),
        ("jsonrpc", .str "2.0")] := by
    have herror : "error" < "id" ∧ "id" < "jsonrpc" := by decide
    have hcode : ¬ "message" < "code" ∧ ¬ "data" < "code" ∧ "data" < "message" := by decide
    have hother : "code" ≠ "message" ∧ "code" ≠ "data" := by decide
    simp only [hjson, Json.sorted, Json.sortedMembers, Json.object, Entries.ofList, Entries.put,
      List.foldl_cons, List.foldl_nil, herror, hcode, hother, if_true, if_false, ErrorCode.toJson,
      hsorted]
  refine ⟨(cause.errorObject reason).message, cause.message reason, ?_⟩
  rw [← hread]
  exact payloadSays_write hexact hshallow

/-- **The answer to a malformed payload tells of it** by its code and its identifier. -/
theorem tellsOf (h : decodeMessage charset content = .error cause) :
    TellsOf charset content cause.code.code cause.writtenId := by
  rcases cases_of_malformed h with ⟨hunreadable, hcode, hid⟩ | ⟨value, hsaid, hclassify⟩
  · have hnothing (shown : Json) : ¬ ShowsId charset content shown := by
      rintro ⟨value, hsaid, -⟩
      exact hunreadable.not_payloadSays value hsaid
    refine ⟨?_, ?_, fun shown hshown => absurd hshown (hnothing shown), fun _ => ?_⟩
    · exact iff_of_true (by rw [hcode]; rfl) hunreadable
    · exact iff_of_false (by rw [hcode]; decide) (not_not_intro hunreadable)
    · rw [writtenId, hid]
      rfl
  · obtain ⟨hcode, hid⟩ := classify_eq_error hclassify
    have hreadable : ¬ Unreadable charset content := fun hnot => hnot.not_payloadSays value hsaid
    refine ⟨?_, ?_, ?_, ?_⟩
    · exact iff_of_false (by rw [hcode]; decide) hreadable
    · exact iff_of_true (by rw [hcode]; rfl) hreadable
    · rintro shown ⟨other, hother, hmember, hnames⟩
      rw [hother.unique hsaid] at hmember
      obtain ⟨id, hread⟩ := Option.isSome_iff_exists.1 ((RequestId.isSome_ofJson?_iff _).2 hnames)
      rw [writtenId, hid, hmember, Option.bind_some, hread, Option.map_some, Option.getD_some]
      exact (RequestId.ofJson?_eq_some_iff.1 hread).2
    · intro hnothing
      suffices hnone : (value.member? "id").bind RequestId.ofJson? = none by
        rw [writtenId, hid, hnone]
        rfl
      rw [Option.bind_eq_none_iff]
      intro raw hmember
      by_contra hsome
      have hnames := (RequestId.isSome_ofJson?_iff raw).1 (Option.isSome_iff_ne_none.2 hsome)
      exact hnothing raw ⟨value, hsaid, hmember, hnames⟩

end Malformed

end WordServer
