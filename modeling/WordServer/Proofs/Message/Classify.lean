import WordServer.Message.Decode
import WordServer.Proofs.Message.RequestId

/-!
# Values that are messages

Which message a value is depends on five members of it. `MembersSay` says so without an order in
which they are looked at: its four cases exclude each other, because a method is there or is not, an
identifier is there or is not, and an error counts before a result. `classify` gives the message that
the members say and fails where they say none (`classify_eq_ok_iff`). Null stands for a method or an
identifier that is missing, but for nothing else: params, a result or an error that is null is there.
-/

namespace WordServer

variable {members others : Entries Json} {message : Message} {id : RequestId} {value : Json}

/-- The member under a name is missing or null. -/
def Lacks (members : Entries Json) (name : String) : Prop :=
  Entries.lookup name members = none ∨ Entries.lookup name members = some .null

/-- The member `id` is an identifier as it is written, in its one form. -/
structure CarriesId (members : Entries Json) (id : RequestId) : Prop where
  canonical : id.IsCanonical
  lookup_id : Entries.lookup "id" members = some id.toJson

/-- The message that the members of an object say. -/
inductive MembersSay (members : Entries Json) : Message → Prop
  | notification {method : String} (hmethod : Entries.lookup "method" members = some (.str method))
      (hne : method ≠ "") (hid : Lacks members "id") :
      MembersSay members (.notification { method, params := Entries.lookup "params" members })
  | request {method : String} {id : RequestId}
      (hmethod : Entries.lookup "method" members = some (.str method)) (hne : method ≠ "")
      (hid : CarriesId members id) :
      MembersSay members (.request { id, method, params := Entries.lookup "params" members })
  | response {id : RequestId} {result : Json} (hmethod : Lacks members "method")
      (hid : CarriesId members id) (herror : Entries.lookup "error" members = none)
      (hresult : Entries.lookup "result" members = some result) :
      MembersSay members (.response { id, result })
  | error {id : RequestId} {error : Json} (hmethod : Lacks members "method")
      (hid : CarriesId members id) (herror : Entries.lookup "error" members = some error) :
      MembersSay members (.error { id := some id, error := replyError error })

/-! ## Identifiers among the members -/

theorem filter_isNull_eq_none_iff {name : String} :
    (Entries.lookup name members).filter (!·.isNull) = none ↔ Lacks members name := by
  unfold Lacks
  cases Entries.lookup name members with
  | none => simp
  | some raw => cases raw <;> simp [Json.isNull, Option.filter]

theorem CarriesId.filter_eq (h : CarriesId members id) :
    (Entries.lookup "id" members).filter (!·.isNull) = some id.toJson := by
  rw [h.lookup_id, Option.filter_some, if_pos (by rw [id.isNull_toJson]; rfl)]

theorem CarriesId.ofJson?_eq (h : CarriesId members id) :
    RequestId.ofJson? id.toJson = some id :=
  RequestId.ofJson?_toJson h.canonical

theorem carriesId_of_filter {raw : Json}
    (hraw : (Entries.lookup "id" members).filter (!·.isNull) = some raw)
    (hid : RequestId.ofJson? raw = some id) : CarriesId members id := by
  obtain ⟨hcanonical, rfl⟩ := RequestId.ofJson?_eq_some_iff.1 hid
  exact ⟨hcanonical, (Option.filter_eq_some_iff.1 hraw).1⟩

theorem exists_carriesId_iff :
    (∃ id, CarriesId members id) ↔
      ∃ raw, Entries.lookup "id" members = some raw ∧ raw.NamesRequest := by
  constructor
  · rintro ⟨id, hcanonical, hlookup⟩
    exact ⟨id.toJson, hlookup, RequestId.namesRequest_toJson hcanonical⟩
  · rintro ⟨raw, hlookup, hnames⟩
    obtain ⟨id, hid⟩ := Option.isSome_iff_exists.1 ((RequestId.isSome_ofJson?_iff raw).2 hnames)
    obtain ⟨hcanonical, rfl⟩ := RequestId.ofJson?_eq_some_iff.1 hid
    exact ⟨id, hcanonical, hlookup⟩

/-! ## Classification -/

theorem membersSay_of_classifyReply (hmethod : Lacks members "method")
    (h : classifyReply ((Entries.lookup "id" members).filter (!·.isNull)) members = .ok message) :
    MembersSay members message := by
  unfold classifyReply at h
  dsimp only at h
  split at h
  · cases h
  · rename_i hpresent
    split at h
    · cases h
    · rename_i raw hraw
      split at h
      · cases h
      · rename_i id hid
        have hcarries : CarriesId members id := carriesId_of_filter hraw hid
        split at h
        · rename_i error herror
          cases h
          exact .error hmethod hcarries herror
        · rename_i herror
          cases h
          -- no error is there, so that what is there is a result
          obtain ⟨result, hresult⟩ : ∃ result, Entries.lookup "result" members = some result := by
            rw [herror] at hpresent
            exact Option.ne_none_iff_exists'.1 (by simpa using hpresent)
          rw [hresult, Option.getD_some]
          exact .response hmethod hcarries herror hresult

theorem membersSay_of_classify (h : classify (.obj members) = .ok message) :
    MembersSay members message := by
  rw [classify] at h
  split at h
  · rename_i hmethod
    exact membersSay_of_classifyReply (.inl hmethod) h
  · rename_i hmethod
    exact membersSay_of_classifyReply (.inr hmethod) h
  · rename_i method hmethod
    split at h
    · cases h
    · rename_i hfilled
      have hne : method ≠ "" := by simpa using hfilled
      split at h
      · rename_i hid
        cases h
        exact .notification hmethod hne (filter_isNull_eq_none_iff.1 hid)
      · rename_i raw hraw
        split at h
        · rename_i id hid
          cases h
          exact .request hmethod hne (carriesId_of_filter hraw hid)
        · cases h
  · cases h

/-- Members without a method are classified as a reply. -/
theorem classify_of_lacks (h : Lacks members "method") :
    classify (.obj members) =
      classifyReply ((Entries.lookup "id" members).filter (!·.isNull)) members := by
  rcases h with hmethod | hmethod <;> rw [classify, hmethod]

theorem classify_of_membersSay (h : MembersSay members message) :
    classify (.obj members) = .ok message := by
  cases h with
  | notification hmethod hne hid =>
    have hnone := filter_isNull_eq_none_iff.2 hid
    simp [classify, hmethod, hne, hnone]
  | request hmethod hne hid =>
    simp [classify, hmethod, hne, hid.filter_eq, hid.ofJson?_eq]
  | response hmethod hid herror hresult =>
    rw [classify_of_lacks hmethod]
    simp [classifyReply, hid.filter_eq, hid.ofJson?_eq, herror, hresult]
  | error hmethod hid herror =>
    rw [classify_of_lacks hmethod]
    simp [classifyReply, hid.filter_eq, hid.ofJson?_eq, herror]

/-- **A value is classified as the message that its members say.** -/
theorem classify_eq_ok_iff :
    classify value = .ok message ↔ ∃ members, value = .obj members ∧ MembersSay members message := by
  constructor
  · intro h
    cases value with
    | obj members => exact ⟨members, rfl, membersSay_of_classify h⟩
    | _ => cases h
  · rintro ⟨members, rfl, hsay⟩
    exact classify_of_membersSay hsay

/-- The members by which a value is classified. -/
def classifyingNames : List String := ["id", "method", "params", "result", "error"]

/-- Members under other names play no part, also where no message is said. -/
theorem classify_congr
    (h : ∀ name ∈ classifyingNames, Entries.lookup name members = Entries.lookup name others) :
    classify (.obj members) = classify (.obj others) := by
  have hid := h "id" (by simp [classifyingNames])
  have hmethod := h "method" (by simp [classifyingNames])
  have hparams := h "params" (by simp [classifyingNames])
  have hresult := h "result" (by simp [classifyingNames])
  have herror := h "error" (by simp [classifyingNames])
  have hreply (id : Option Json) : classifyReply id members = classifyReply id others := by
    simp only [classifyReply, hresult, herror]
  simp only [classify, hid, hmethod, hparams, hreply]

/-! ## The values that are messages -/

/-- The members of a message: a method that is not empty with an identifier or none, or an identifier
with a result or an error and no method. -/
def AreMessage (members : Entries Json) : Prop :=
  (∃ method, Entries.lookup "method" members = some (.str method) ∧ method ≠ "" ∧
    (Lacks members "id" ∨ ∃ raw, Entries.lookup "id" members = some raw ∧ raw.NamesRequest)) ∨
  (Lacks members "method" ∧ (∃ raw, Entries.lookup "id" members = some raw ∧ raw.NamesRequest) ∧
    (Entries.lookup "result" members ≠ none ∨ Entries.lookup "error" members ≠ none))

theorem exists_membersSay_iff : (∃ message, MembersSay members message) ↔ AreMessage members := by
  unfold AreMessage
  rw [← exists_carriesId_iff]
  constructor
  · rintro ⟨message, hsay⟩
    cases hsay with
    | notification hmethod hne hid => exact .inl ⟨_, hmethod, hne, .inl hid⟩
    | request hmethod hne hid => exact .inl ⟨_, hmethod, hne, .inr ⟨_, hid⟩⟩
    | response hmethod hid _ hresult =>
      exact .inr ⟨hmethod, ⟨_, hid⟩, .inl (by rw [hresult]; exact Option.some_ne_none _)⟩
    | error hmethod hid herror =>
      exact .inr ⟨hmethod, ⟨_, hid⟩, .inr (by rw [herror]; exact Option.some_ne_none _)⟩
  · rintro (⟨method, hmethod, hne, hid | ⟨id, hid⟩⟩ | ⟨hmethod, ⟨id, hid⟩, hpresent⟩)
    · exact ⟨_, .notification hmethod hne hid⟩
    · exact ⟨_, .request hmethod hne hid⟩
    · cases herror : Entries.lookup "error" members with
      | some error => exact ⟨_, .error hmethod hid herror⟩
      | none =>
        have hresult : Entries.lookup "result" members ≠ none := by
          rcases hpresent with hresult | hnot
          · exact hresult
          · exact absurd herror hnot
        obtain ⟨result, hresult⟩ := Option.ne_none_iff_exists'.1 hresult
        exact ⟨_, .response hmethod hid herror hresult⟩

/-- **The messages are the objects with one of four shapes.** A value is a message exactly if it is
an object whose `method` is a string that is not empty, beside an `id` that is missing, null, a
string or an integer of 64 bits, or whose `method` is missing or null, beside an `id` that is such a
string or integer and a `result` or an `error`. Which message it is, and what that carries, is what
`MembersSay` says. Objects that agree on the five names are classified alike, with the same message
or for the same cause with none. -/
theorem classify_by_members :
    (∀ value, (∃ message, classify value = .ok message) ↔
      ∃ members, value = .obj members ∧ AreMessage members) ∧
    (∀ value message, classify value = .ok message ↔
      ∃ members, value = .obj members ∧ MembersSay members message) ∧
    ∀ members others : Entries Json,
      (∀ name ∈ classifyingNames, Entries.lookup name members = Entries.lookup name others) →
      classify (.obj members) = classify (.obj others) := by
  refine ⟨?_, fun value message => classify_eq_ok_iff, fun members others => classify_congr⟩
  intro value
  simp only [classify_eq_ok_iff, ← exists_membersSay_iff]
  constructor
  · rintro ⟨message, members, rfl, hsay⟩
    exact ⟨members, rfl, message, hsay⟩
  · rintro ⟨members, rfl, message, hsay⟩
    exact ⟨message, members, rfl, hsay⟩

end WordServer
