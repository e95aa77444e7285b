import Mathlib.Data.List.Forall2
import WordServer.Proofs.Json.Record
import WordServer.Proofs.Message.RequestId
import WordServer.Service.Params

/-!
# Params by their members

What params say that name an open document, member by member. Each record has a structure that ties
its fields to the members of a value, and it is read from a value exactly if the value says it
(`OpenedDocument.read?_eq_some_iff` and its like). A member that may be left out may be null as
well, except the version of a document that is opened.
-/

namespace WordServer

namespace Json

variable {raw : Option Json}

theorem string?_eq_some_iff {value : Json} {s : String} :
    value.string? = some s ↔ value = .str s := by
  cases value <;> simp [string?]

theorem int64?_eq_some_iff {value : Json} {n : Int} :
    value.int64? = some n ↔ value = .int n ∧ RequestId.IsSigned n := by
  cases value with
  | int m =>
    rw [RequestId.int64?_int, Option.ite_none_right_eq_some, Option.some.injEq, Json.int.injEq,
      and_comm]
    exact and_congr_right fun hsame => by rw [hsame]
  | _ => simp [int64?, intWithin?]

/-- A member that may be null or left out is what stands there otherwise. -/
theorem elim_nullable_some_iff {x : Option Json} :
    raw.elim (some none) (Fields.nullable some) = some x ↔ raw.filter (!·.isNull) = x := by
  rcases raw with _ | value
  · simp
  · cases value <;> simp [Fields.nullable, isNull, Option.filter]

theorem elim_nullable_string?_iff {x : Option String} :
    raw.elim (some none) (Fields.nullable string?) = some x ↔
      raw.filter (!·.isNull) = x.map .str := by
  rcases raw with _ | value
  · cases x <;> simp
  · cases value <;> cases x <;> simp [Fields.nullable, isNull, string?]

theorem elim_nullable_int64?_iff {x : Option Int} :
    raw.elim (some none) (Fields.nullable int64?) = some x ↔
      raw.filter (!·.isNull) = x.map .int ∧ ∀ n ∈ x, RequestId.IsSigned n := by
  rcases raw with _ | value
  · cases x <;> simp
  · have hread (n : Int) := @int64?_eq_some_iff value n
    cases value <;> cases x <;> simp_all [Fields.nullable, isNull]

theorem elim_int64?_iff {default n : Int} :
    raw.elim (some default) int64? = some n ↔
      raw = some (.int n) ∧ RequestId.IsSigned n ∨ raw = none ∧ n = default := by
  cases raw with
  | none => simp [eq_comm]
  | some value => simp [int64?_eq_some_iff]

/-- The values of a list are read one by one. -/
theorem list?_eq_some_iff {α : Type} {read : Json → Option α} {value : Json} {xs : List α} :
    value.list? read = some xs ↔
      ∃ items, value = .arr items ∧ List.Forall₂ (fun item x => read item = some x) items xs := by
  have hitems (items : List Json) : items.mapM read = some xs ↔
      List.Forall₂ (fun item x => read item = some x) items xs := by
    induction items generalizing xs with
    | nil => simp [eq_comm]
    | cons item items ih =>
      simp only [List.mapM_cons, Option.bind_eq_bind, Option.bind_eq_some_iff,
        List.forall₂_cons_left_iff, Option.pure_def, Option.some.injEq]
      constructor
      · rintro ⟨x, hx, others, hothers, rfl⟩
        exact ⟨x, others, hx, ih.1 hothers, rfl⟩
      · rintro ⟨x, others, hx, hothers, rfl⟩
        exact ⟨x, hx, others, ih.2 hothers, rfl⟩
  cases value with
  | arr items => simp [list?, hitems]
  | _ => simp [list?]

end Json

namespace Service

open Json Json.Fields

/-- What a value says of a document that is opened. -/
structure OpenedDocument.SaidBy (value : Json) (document : OpenedDocument) : Prop where
  uri : value.field? 0 "uri" = some (.str document.uri)
  language : (value.field? 1 "languageId").filter (!·.isNull) = document.languageId.map .str
  version : value.field? 2 "version" = some (.int document.version) ∧
      RequestId.IsSigned document.version ∨
    value.field? 2 "version" = none ∧ document.version = 0
  text : value.field? 3 "text" = some (.str document.text)

theorem OpenedDocument.read?_eq_some_iff {value : Json} {document : OpenedDocument} :
    read? value = some document ↔ value.IsRecord 4 ∧ SaidBy value document := by
  refine record?_eq_some_iff fun x last => ?_
  simp only [bind_required_behind, bind_spare_behind, bind_defaulted_behind, pure_eq_some_iff,
    Option.bind_eq_some_iff, string?_eq_some_iff, exists_eq_right, elim_nullable_string?_iff,
    elim_int64?_iff]
  constructor
  · rintro ⟨uri, huri, language, hlanguage, version, hversion, text, htext, rfl, rfl⟩
    exact ⟨⟨huri, hlanguage, hversion, htext⟩, rfl⟩
  · rintro ⟨⟨huri, hlanguage, hversion, htext⟩, rfl⟩
    exact ⟨_, huri, _, hlanguage, _, hversion, _, htext, rfl, rfl⟩

theorem readOpened?_eq_some_iff {params : Json} {opened : OpenedDocument} :
    readOpened? params = some opened ↔
      params.IsRecord 1 ∧ ∃ document, params.field? 0 "textDocument" = some document ∧
        document.IsRecord 4 ∧ OpenedDocument.SaidBy document opened := by
  simp only [readOpened?, record?_required_eq_some_iff, OpenedDocument.read?_eq_some_iff]

/-- What a value says of a change. -/
structure Change.SaidBy (value : Json) (change : Change) : Prop where
  range : (value.field? 0 "range").filter (!·.isNull) = change.range
  text : value.field? 1 "text" = some (.str change.text)

theorem Change.read?_eq_some_iff {value : Json} {change : Change} :
    read? value = some change ↔ value.IsRecord 2 ∧ SaidBy value change := by
  refine record?_eq_some_iff fun x last => ?_
  simp only [bind_required_behind, bind_spare_behind, pure_eq_some_iff, Option.bind_eq_some_iff,
    string?_eq_some_iff, exists_eq_right, elim_nullable_some_iff]
  constructor
  · rintro ⟨range, hrange, text, htext, rfl, rfl⟩
    exact ⟨⟨hrange, htext⟩, rfl⟩
  · rintro ⟨⟨hrange, htext⟩, rfl⟩
    exact ⟨_, hrange, _, htext, rfl, rfl⟩

/-- What a value says of the changes of a document. -/
structure ChangedDocument.SaidBy (value : Json) (params : ChangedDocument) : Prop where
  document : ∃ document, value.field? 0 "textDocument" = some document ∧ document.IsRecord 2 ∧
    document.field? 0 "uri" = some (.str params.uri) ∧
    (document.field? 1 "version").filter (!·.isNull) = params.version.map .int ∧
    ∀ n ∈ params.version, RequestId.IsSigned n
  changes : ∃ items, value.field? 1 "contentChanges" = some (.arr items) ∧
    List.Forall₂ (fun item change => item.IsRecord 2 ∧ Change.SaidBy item change) items
      params.changes

theorem readVersioned?_eq_some_iff {value : Json} {uri : String} {version : Option Int} :
    readVersioned? value = some (uri, version) ↔
      value.IsRecord 2 ∧ value.field? 0 "uri" = some (.str uri) ∧
        (value.field? 1 "version").filter (!·.isNull) = version.map .int ∧
        ∀ n ∈ version, RequestId.IsSigned n := by
  refine @record?_eq_some_iff _ _ value 2 (fun named =>
    value.field? 0 "uri" = some (.str named.1) ∧
      (value.field? 1 "version").filter (!·.isNull) = named.2.map .int ∧
      ∀ n ∈ named.2, RequestId.IsSigned n) (fun x last => ?_) (uri, version)
  simp only [bind_required_behind, bind_spare_behind, pure_eq_some_iff, Option.bind_eq_some_iff,
    string?_eq_some_iff, exists_eq_right, elim_nullable_int64?_iff]
  constructor
  · rintro ⟨uri, huri, version, hversion, rfl, rfl⟩
    exact ⟨⟨huri, hversion⟩, rfl⟩
  · rintro ⟨⟨huri, hversion⟩, rfl⟩
    exact ⟨_, huri, _, hversion, rfl, rfl⟩

theorem ChangedDocument.read?_eq_some_iff {value : Json} {params : ChangedDocument} :
    read? value = some params ↔ value.IsRecord 2 ∧ SaidBy value params := by
  refine record?_eq_some_iff fun x last => ?_
  simp only [bind_required_behind, pure_eq_some_iff, Option.bind_eq_some_iff, list?_eq_some_iff,
    Change.read?_eq_some_iff]
  constructor
  · rintro ⟨⟨uri, version⟩, ⟨document, hdocument, hnamed⟩, changes, ⟨_, hitems, items, rfl, hall⟩,
      rfl, rfl⟩
    exact ⟨⟨⟨document, hdocument, readVersioned?_eq_some_iff.1 hnamed⟩, items, hitems, hall⟩, rfl⟩
  · rintro ⟨⟨⟨document, hdocument, hnamed⟩, items, hitems, hall⟩, rfl⟩
    exact ⟨(x.uri, x.version), ⟨document, hdocument, readVersioned?_eq_some_iff.2 hnamed⟩, x.changes,
      ⟨_, hitems, items, rfl, hall⟩, rfl, rfl⟩

theorem readUri?_eq_some_iff {value : Json} {uri : String} :
    readUri? value = some uri ↔ value.IsRecord 1 ∧ value.field? 0 "uri" = some (.str uri) := by
  simp only [readUri?, record?_required_eq_some_iff, string?_eq_some_iff, exists_eq_right]

theorem readClosed?_eq_some_iff {params : Json} {uri : String} :
    readClosed? params = some uri ↔
      params.IsRecord 1 ∧ ∃ document, params.field? 0 "textDocument" = some document ∧
        document.IsRecord 1 ∧ document.field? 0 "uri" = some (.str uri) := by
  simp only [readClosed?, record?_required_eq_some_iff, readUri?_eq_some_iff]

/-- What a value says of a document that was saved. -/
structure SavedDocument.SaidBy (value : Json) (params : SavedDocument) : Prop where
  document : ∃ document, value.field? 0 "textDocument" = some document ∧ document.IsRecord 1 ∧
    document.field? 0 "uri" = some (.str params.uri)
  text : (value.field? 1 "text").filter (!·.isNull) = params.text.map .str

theorem SavedDocument.read?_eq_some_iff {value : Json} {params : SavedDocument} :
    read? value = some params ↔ value.IsRecord 2 ∧ SaidBy value params := by
  refine record?_eq_some_iff fun x last => ?_
  simp only [bind_required_behind, bind_spare_behind, pure_eq_some_iff, Option.bind_eq_some_iff,
    readUri?_eq_some_iff, elim_nullable_string?_iff]
  constructor
  · rintro ⟨uri, hdocument, text, htext, rfl, rfl⟩
    exact ⟨⟨hdocument, htext⟩, rfl⟩
  · rintro ⟨⟨hdocument, htext⟩, rfl⟩
    exact ⟨_, hdocument, _, htext, rfl, rfl⟩

end Service

end WordServer
