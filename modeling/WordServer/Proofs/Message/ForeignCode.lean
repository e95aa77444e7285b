import WordServer.Proofs.Entries
import WordServer.Proofs.Json.Record
import WordServer.Proofs.Message.Classify

/-!
# Errors with a code of no known kind

The codes of errors are a closed set. An error of a reply that has another code cannot be read as an
error object, and what is kept of it is picked from its members (`replyError_of_foreign`). So its
message and its data are those that it would have with a known code if it is an object whose data is
not null. A null stays as data, and an array, which has its fields in place and not by name, loses
them (`classify_of_foreign_code`).
-/

namespace WordServer

/-- The value with another code in the place of its own. -/
def Json.withCode (code : ErrorCode) : Json → Json
  | .obj members => .obj (Entries.put "code" code.toJson members)
  | .arr (_ :: rest) => .arr (code.toJson :: rest)
  | value => value

theorem ErrorCode.ofCode?_eq_none {n : Int} (h : ∀ code : ErrorCode, code.code ≠ n) :
    ofCode? n = none := by
  refine List.find?_eq_none.2 ?_
  intro code _ hcode
  exact h code (eq_of_beq hcode)

theorem Json.string?_eq_some {value : Json} {s : String} (h : value.string? = some s) :
    value = .str s := by
  cases value with
  | str t =>
    cases h
    rfl
  | _ => cases h

/-! ## What an error object is read from -/

namespace ErrorObject

variable {error : ErrorObject}

theorem fields_of_read?_obj {members : Entries Json} (h : read? (.obj members) = some error) :
    (Entries.lookup "code" members).bind ErrorCode.ofJson? = some error.code ∧
      Entries.lookup "message" members = some (.str error.message) ∧
      error.data = (Entries.lookup "data" members).filter (!·.isNull) := by
  obtain ⟨⟨_, last⟩, hfields, rfl⟩ := Option.map_eq_some_iff.1 h
  obtain ⟨code, _, hcode, hfields⟩ := Json.Fields.bind_eq_some hfields
  obtain ⟨message, _, hmessage, hfields⟩ := Json.Fields.bind_eq_some hfields
  obtain ⟨data, _, hdata, hfields⟩ := Json.Fields.bind_eq_some hfields
  cases hfields
  obtain ⟨rawCode, hnext, hreadCode⟩ := Json.Fields.required_eq_some hcode
  obtain ⟨hlookupCode, rfl⟩ := Json.Fields.next_named_eq_some hnext
  obtain ⟨rawMessage, hnext, hreadMessage⟩ := Json.Fields.required_eq_some hmessage
  obtain ⟨hlookupMessage, rfl⟩ := Json.Fields.next_named_eq_some hnext
  obtain ⟨rawData, hnext, hkept, -⟩ := Json.Fields.optional_eq_some hdata
  obtain ⟨hlookupData, -⟩ := Json.Fields.next_named_eq_some hnext
  refine ⟨?_, ?_, ?_⟩
  · rw [hlookupCode, Option.bind_some, hreadCode]
  · rw [hlookupMessage, Json.string?_eq_some hreadMessage]
  · rw [hlookupData, hkept]

theorem fields_of_read?_arr {items : List Json} (h : read? (.arr items) = some error) :
    ∃ code data, items = [code, .str error.message, data] ∧
      ErrorCode.ofJson? code = some error.code ∧ error.data = (some data).filter (!·.isNull) := by
  rw [read?, Json.record?] at h
  split at h
  · rename_i hfields
    cases h
    obtain ⟨code, _, hcode, hfields⟩ := Json.Fields.bind_eq_some hfields
    obtain ⟨message, _, hmessage, hfields⟩ := Json.Fields.bind_eq_some hfields
    obtain ⟨data, _, hdata, hfields⟩ := Json.Fields.bind_eq_some hfields
    cases hfields
    obtain ⟨rawCode, hnext, hreadCode⟩ := Json.Fields.required_eq_some hcode
    obtain ⟨afterCode, rfl, rfl⟩ := Json.Fields.next_positional_eq_some hnext
    obtain ⟨rawMessage, hnext, hreadMessage⟩ := Json.Fields.required_eq_some hmessage
    obtain ⟨afterMessage, rfl, rfl⟩ := Json.Fields.next_positional_eq_some hnext
    obtain ⟨rawData, hnext, hkept, hnamed⟩ := Json.Fields.optional_eq_some hdata
    cases rawData with
    | none => cases hnamed rfl
    | some rawData =>
      obtain ⟨afterData, rfl, hlast⟩ := Json.Fields.next_positional_eq_some hnext
      cases hlast
      rw [Json.string?_eq_some hreadMessage]
      exact ⟨rawCode, rawData, rfl, hreadCode, hkept⟩
  · cases h

/-- An error object is not read where the code is none of the closed set. -/
theorem read?_eq_none_of_foreign {value raw : Json} (hcode : value.first? "code" = some raw)
    (hforeign : ErrorCode.ofJson? raw = none) : read? value = none := by
  rw [Option.eq_none_iff_forall_ne_some]
  intro error hread
  cases value with
  | obj members =>
    have hknown := (fields_of_read?_obj hread).1
    have hlookup : Entries.lookup "code" members = some raw := hcode
    rw [hlookup, Option.bind_some, hforeign] at hknown
    cases hknown
  | arr items =>
    obtain ⟨code, data, rfl, hknown, -⟩ := fields_of_read?_arr hread
    cases hcode
    rw [hforeign] at hknown
    cases hknown
  | _ => cases hcode

end ErrorObject

/-! ## What is kept of an error -/

theorem filter_isNull_eq_self_iff (raw : Option Json) :
    raw = raw.filter (!·.isNull) ↔ raw ≠ some .null := by
  cases raw with
  | none => simp
  | some value => cases value <;> simp [Json.isNull, Option.filter]

section Foreign

variable {value : Json} {n : Int} {known : ErrorCode} {told : ErrorObject}

theorem replyError_of_foreign (hcode : value.first? "code" = some (.int n))
    (hforeign : ∀ code : ErrorCode, code.code ≠ n) :
    replyError value =
      { code := .unknownErrorCode
        message := ((value.member? "message").bind Json.string?).getD ""
        data := value.member? "data" } := by
  have hnone : ErrorCode.ofJson? (.int n) = none := ErrorCode.ofCode?_eq_none hforeign
  rw [replyError, ErrorObject.read?_eq_none_of_foreign hcode hnone]

/-- An object keeps its message and whatever it has as data. -/
theorem replyError_of_foreign_obj {fields : Entries Json}
    (hcode : (Json.obj fields).first? "code" = some (.int n))
    (hforeign : ∀ code : ErrorCode, code.code ≠ n)
    (htold : ErrorObject.read? ((Json.obj fields).withCode known) = some told) :
    replyError (.obj fields) =
        { code := .unknownErrorCode
          message := told.message
          data := Entries.lookup "data" fields } ∧
      (Entries.lookup "data" fields = told.data ↔ Entries.lookup "data" fields ≠ some .null) := by
  obtain ⟨-, hmessage, hdata⟩ := ErrorObject.fields_of_read?_obj htold
  rw [Entries.lookup_put, if_neg (by decide)] at hmessage hdata
  constructor
  · rw [replyError_of_foreign hcode hforeign, Json.member?, Json.member?, hmessage]
    rfl
  · rw [hdata]
    exact filter_isNull_eq_self_iff _

/-- An array keeps nothing. -/
theorem replyError_of_foreign_arr {items : List Json}
    (hcode : (Json.arr items).first? "code" = some (.int n))
    (hforeign : ∀ code : ErrorCode, code.code ≠ n) :
    replyError (.arr items) = { code := .unknownErrorCode, message := "" } := by
  rw [replyError_of_foreign hcode hforeign]
  rfl

end Foreign

theorem Lacks.put {members : Entries Json} {name other : String} (h : Lacks members name)
    (hne : other ≠ name) (value : Json) : Lacks (Entries.put other value members) name := by
  unfold Lacks
  rw [Entries.lookup_put, if_neg hne]
  exact h

theorem CarriesId.put {members : Entries Json} {id : RequestId} {other : String}
    (h : CarriesId members id) (hne : other ≠ "id") (value : Json) :
    CarriesId (Entries.put other value members) id := by
  refine ⟨h.canonical, ?_⟩
  rw [Entries.lookup_put, if_neg hne, h.lookup_id]

/-- **What is kept of an error with a foreign code.** Take a reply with an identifier whose `error`
would be read as an error object, with a message and data, if its code were one of the closed set.
Its code is an integer that is not, so that the reply has the code of an unknown error. If `error` is
an object, the message is kept and the data are what stands there, null or not; if it is an array,
the message is empty and there are no data. So nothing but the code is lost exactly if `error` is an
object whose `data` is not null, or is an array that has no message and no data to lose. -/
theorem classify_of_foreign_code {members : Entries Json} {id : RequestId} {value : Json} {n : Int}
    {known : ErrorCode} {told : ErrorObject} (hmethod : Lacks members "method")
    (hid : CarriesId members id) (herror : Entries.lookup "error" members = some value)
    (hcode : value.first? "code" = some (.int n)) (hforeign : ∀ code : ErrorCode, code.code ≠ n)
    (htold : ErrorObject.read? (value.withCode known) = some told) :
    classify (.obj (Entries.put "error" (value.withCode known) members)) =
        .ok (.error { id := some id, error := told }) ∧
      ∃ error, classify (.obj members) = .ok (.error { id := some id, error }) ∧
        error.code = .unknownErrorCode ∧
        (∀ fields, value = .obj fields →
          error.message = told.message ∧ error.data = Entries.lookup "data" fields) ∧
        (∀ items, value = .arr items → error.message = "" ∧ error.data = none) ∧
        (error.message = told.message ∧ error.data = told.data ↔
          (∃ fields, value = .obj fields ∧ Entries.lookup "data" fields ≠ some .null) ∨
          ∃ items, value = .arr items ∧ told.message = "" ∧ told.data = none) := by
  refine ⟨?_, replyError value, classify_of_membersSay (.error hmethod hid herror), ?_⟩
  · have hread : replyError (value.withCode known) = told := by
      rw [replyError, htold]
    rw [← hread]
    refine classify_of_membersSay (.error (hmethod.put (by decide) _) (hid.put (by decide) _) ?_)
    rw [Entries.lookup_put, if_pos rfl]
  · cases value with
    | obj fields =>
      obtain ⟨hkept, hdata⟩ := replyError_of_foreign_obj hcode hforeign htold
      rw [hkept]
      refine ⟨rfl, ?_, ?_, ?_⟩
      · rintro _ ⟨⟩
        exact ⟨rfl, rfl⟩
      · rintro _ ⟨⟩
      · simpa using hdata
    | arr items =>
      rw [replyError_of_foreign_arr hcode hforeign]
      refine ⟨rfl, ?_, ?_, ?_⟩
      · rintro _ ⟨⟩
      · rintro _ ⟨⟩
        exact ⟨rfl, rfl⟩
      · simp [@eq_comm _ "", @eq_comm _ none]
    | _ => cases hcode

/-- A reply with an error, to the request with the number three. -/
def replyWith (error : Json) : Entries Json := [("error", error), ("id", .int 3)]

theorem ErrorCode.code_ne_one (code : ErrorCode) : code.code ≠ 1 := by
  cases code <;> decide

theorem carriesId_replyWith (error : Json) : CarriesId (replyWith error) (.number 3) :=
  ⟨by decide, rfl⟩

theorem classify_of_foreign_code_one :
    let value : Json := .obj [("code", .int 1), ("data", .arr [.int 2]), ("message", .str "m")]
    let told : ErrorObject := { code := .parseError, message := "m", data := some (.arr [.int 2]) }
    value.first? "code" = some (.int 1) ∧
      ErrorObject.read? (value.withCode .parseError) = some told ∧
      ∃ error, classify (.obj (replyWith value)) =
          .ok (.error { id := some (.number 3), error }) ∧
        error.code = .unknownErrorCode ∧ error.message = "m" ∧
        error.data = some (.arr [.int 2]) := by
  intro value told
  have htold : ErrorObject.read? (value.withCode .parseError) = some told := rfl
  obtain ⟨-, error, hclassify, hcode, hkept, -⟩ := classify_of_foreign_code (.inl rfl)
    (carriesId_replyWith value) rfl rfl ErrorCode.code_ne_one htold
  obtain ⟨hmessage, hdata⟩ := hkept _ rfl
  exact ⟨rfl, htold, error, hclassify, hcode, hmessage, hdata⟩

/-- An array with a foreign code loses its message. -/
theorem not_forall_foreign_code_kept :
    ¬ ∀ (members : Entries Json) (id : RequestId) (value : Json) (n : Int) (known : ErrorCode)
        (told : ErrorObject),
      Lacks members "method" → CarriesId members id →
      Entries.lookup "error" members = some value → value.first? "code" = some (.int n) →
      (∀ code : ErrorCode, code.code ≠ n) →
      ErrorObject.read? (value.withCode known) = some told →
      classify (.obj members) =
        .ok (.error { id := some id, error := { told with code := .unknownErrorCode } }) := by
  intro h
  have hkept := h (replyWith (.arr [.int 1, .str "m", .int 7])) (.number 3) _ 1 .parseError
    { code := .parseError, message := "m", data := some (.int 7) } (.inl rfl)
    (carriesId_replyWith _) rfl rfl ErrorCode.code_ne_one rfl
  have hlost : classify (.obj (replyWith (.arr [.int 1, .str "m", .int 7]))) =
      .ok (.error
        { id := some (.number 3), error := { code := .unknownErrorCode, message := "" } }) := rfl
  rw [hlost] at hkept
  simp at hkept

end WordServer
