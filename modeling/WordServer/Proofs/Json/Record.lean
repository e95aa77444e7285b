import WordServer.Json.Record

/-!
# Reading the fields of a record

Fields are read one after another, each from what the ones before it left: `bind_eq` runs the first
of them, and `bind_eq_some` takes a reading that succeeded apart. The other lemmas say what one
field gives: from an object in which its member is known, or in any record that could be read.

A field has a name and a place, and stands under the one in an object and at the other in an array
(`field?`). Reading fields from the first on is reading each where it stands (`required_behind`,
`defaulted_behind`), so that a record says what its fields say in both forms (`record?_eq_some_iff`).
-/

namespace WordServer.Json

namespace Fields

variable {α β : Type} {name : String} {members : Entries Json} {value : Json}

/-- One field after another: what the first gives is passed on. -/
theorem bind_eq {first : Fields α} {others : α → Fields β} {record next : Record} {x : α}
    (h : first record = some (x, next)) : (first >>= others) record = others x next := by
  change (first record >>= fun read => others read.1 read.2) = others x next
  rw [h]
  rfl

/-- Fields that are read one after another are each read. -/
theorem bind_eq_some {first : Fields α} {others : α → Fields β} {record last : Record} {y : β}
    (h : (first >>= others) record = some (y, last)) :
    ∃ x next, first record = some (x, next) ∧ others x next = some (y, last) := by
  obtain ⟨⟨x, next⟩, hfirst, hothers⟩ := Option.bind_eq_some_iff.1 h
  exact ⟨x, next, hfirst, hothers⟩

/-- A spare field gives the value that is there, unless it is null. -/
theorem spare_eq_some {record last : Record} {x : Option Json}
    (h : spare name some record = some (x, last)) :
    ∃ raw, next name record = some (raw, last) ∧ x = raw.filter (!·.isNull) := by
  obtain ⟨raw, middle, hnext, hvalue⟩ := bind_eq_some h
  cases raw with
  | none =>
    cases hvalue
    exact ⟨none, hnext, rfl⟩
  | some value =>
    obtain ⟨y, hy, hlast⟩ := Option.bind_eq_some_iff.1 hvalue
    cases hlast
    refine ⟨some value, hnext, ?_⟩
    cases value <;> cases hy <;> rfl

/-- A required field gives what its value is read as. -/
theorem required_eq_some {read : Json → Option α} {record last : Record} {x : α}
    (h : required name read record = some (x, last)) :
    ∃ raw, next name record = some (some raw, last) ∧ read raw = some x := by
  obtain ⟨raw, middle, hnext, hvalue⟩ := bind_eq_some h
  cases raw with
  | none => cases hvalue
  | some raw =>
    obtain ⟨y, hy, hlast⟩ := Option.bind_eq_some_iff.1 hvalue
    cases hlast
    exact ⟨raw, hnext, hy⟩

/-- An optional field gives the value that is there, unless it is null; it is missing only where
fields are given by name. -/
theorem optional_eq_some {record last : Record} {x : Option Json}
    (h : optional name some record = some (x, last)) :
    ∃ raw, next name record = some (raw, last) ∧ x = raw.filter (!·.isNull) ∧
      (raw = none → byName last = some (true, last)) := by
  obtain ⟨raw, middle, hnext, hvalue⟩ := bind_eq_some h
  cases raw with
  | none =>
    obtain ⟨named, after, hnamed, hrest⟩ := bind_eq_some hvalue
    cases middle with
    | named members =>
      cases hnamed
      cases hrest
      exact ⟨none, hnext, rfl, fun _ => rfl⟩
    | positional items =>
      cases hnamed
      cases hrest
  | some value =>
    obtain ⟨y, hy, hlast⟩ := Option.bind_eq_some_iff.1 hvalue
    cases hlast
    refine ⟨some value, hnext, ?_, fun hnone => absurd hnone (Option.some_ne_none value)⟩
    cases value <;> cases hy <;> rfl

theorem next_named_eq_some {raw : Option Json} {last : Record}
    (h : next name (.named members) = some (raw, last)) :
    Entries.lookup name members = raw ∧ last = .named members := by
  cases h
  exact ⟨rfl, rfl⟩

theorem next_positional_eq_some {items : List Json} {last : Record}
    (h : next name (.positional items) = some (some value, last)) :
    ∃ rest, items = value :: rest ∧ last = .positional rest := by
  cases items with
  | nil => cases h
  | cons item rest =>
    cases h
    exact ⟨rest, rfl, rfl⟩

theorem required_named (h : Entries.lookup name members = some value) {read : Json → Option α}
    {x : α} (hread : read value = some x) :
    required name read (.named members) = some (x, .named members) := by
  have hnext : next name (.named members) = some (some value, .named members) := by
    rw [next, h]
  rw [required, bind_eq hnext]
  simp only [hread]
  rfl

theorem optional_named_none (h : Entries.lookup name members = none) {read : Json → Option α} :
    optional name read (.named members) = some (none, .named members) := by
  have hnext : next name (.named members) = some (none, .named members) := by
    rw [next, h]
  rw [optional, bind_eq hnext]
  rfl

theorem optional_named_some (h : Entries.lookup name members = some value) (hnull : value ≠ .null)
    {read : Json → Option α} {x : α} (hread : read value = some x) :
    optional name read (.named members) = some (some x, .named members) := by
  have hnext : next name (.named members) = some (some value, .named members) := by
    rw [next, h]
  have hvalue : nullable read value = some (some x) := by
    rw [nullable.eq_def]
    split
    · exact absurd rfl hnull
    · rw [hread]
      rfl
  rw [optional, bind_eq hnext]
  simp only [hvalue]
  rfl

end Fields

variable {α : Type}

/-- A record that is read has fields by name or in place. -/
def opened? : Json → Option Record
  | .obj members => some (.named members)
  | .arr items => some (.positional items)
  | _ => none

theorem record?_eq_some {fields : Fields α} {value : Json} {x : α}
    (h : record? fields value = some x) :
    ∃ record last, opened? value = some record ∧ fields record = some (x, last) := by
  unfold record? at h
  split at h
  · obtain ⟨⟨y, last⟩, hfields, rfl⟩ := Option.map_eq_some_iff.1 h
    exact ⟨_, last, rfl, hfields⟩
  · split at h
    · rename_i hfields
      cases h
      exact ⟨_, _, rfl, hfields⟩
    · cases h
  · cases h

/-! ## Fields by name or in place -/

/-- The field of a record with a name and a place. -/
def field? (place : Nat) (name : String) : Json → Option Json
  | .obj members => Entries.lookup name members
  | .arr items => items[place]?
  | _ => none

/-- What is left of a record behind a place. -/
def behind (place : Nat) : Json → Record
  | .obj members => .named members
  | .arr items => .positional (items.drop place)
  | _ => .positional []

/-- An object, or an array with at most so many items. -/
def IsRecord (count : Nat) : Json → Prop
  | .obj _ => True
  | .arr items => items.length ≤ count
  | _ => False

namespace Fields

variable {β : Type} {place : Nat} {value : Json}

/-- The next field behind a place is the one that stands there. -/
theorem next_behind (name : String) (place : Nat) (value : Json) :
    next name (value.behind place) = some (value.field? place name, value.behind (place + 1)) := by
  cases value with
  | arr items =>
    rcases Nat.lt_or_ge place items.length with hlt | hge
    · rw [behind, List.drop_eq_getElem_cons hlt, field?, List.getElem?_eq_getElem hlt]
      rfl
    · rw [behind, behind, field?, List.drop_of_length_le hge, List.getElem?_eq_none hge,
        List.drop_of_length_le (Nat.le_succ_of_le hge)]
      rfl
  | _ => rfl

/-- What a field gives is passed on, if it gives anything. -/
theorem bind_map {first : Fields α} {others : α → Fields β} {record next : Record} {x : Option α}
    (h : first record = x.map (·, next)) : (first >>= others) record = x.bind (others · next) := by
  change (first record >>= fun read => others read.1 read.2) = _
  rw [h]
  cases x <;> rfl

@[simp] theorem required_behind (name : String) (read : Json → Option α) :
    required name read (value.behind place) =
      ((value.field? place name).bind read).map (·, value.behind (place + 1)) := by
  rw [required, bind_eq (next_behind name place value)]
  cases value.field? place name with
  | none => rfl
  | some raw => cases h : read raw <;> simp [h] <;> rfl

theorem defaulted_behind (name : String) (default : α) (read : Json → Option α) :
    defaulted name default read (value.behind place) =
      ((value.field? place name).elim (some default) read).map (·, value.behind (place + 1)) := by
  rw [defaulted, bind_eq (next_behind name place value)]
  cases value.field? place name with
  | none => rfl
  | some raw => cases h : read raw <;> simp [h] <;> rfl

@[simp] theorem bind_required_behind (name : String) (read : Json → Option α)
    (others : α → Fields β) :
    (required name read >>= others) (value.behind place) =
      ((value.field? place name).bind read).bind (others · (value.behind (place + 1))) :=
  bind_map (required_behind name read)

@[simp] theorem bind_defaulted_behind (name : String) (default : α) (read : Json → Option α)
    (others : α → Fields β) :
    (defaulted name default read >>= others) (value.behind place) =
      ((value.field? place name).elim (some default) read).bind
        (others · (value.behind (place + 1))) :=
  bind_map (defaulted_behind name default read)

@[simp] theorem bind_spare_behind (name : String) (read : Json → Option α)
    (others : Option α → Fields β) :
    (spare name read >>= others) (value.behind place) =
      ((value.field? place name).elim (some none) (nullable read)).bind
        (others · (value.behind (place + 1))) :=
  bind_map (defaulted_behind name none (nullable read))

@[simp] theorem pure_eq_some_iff {x y : α} {record last : Record} :
    (pure x : Fields α) record = some (y, last) ↔ y = x ∧ last = record := by
  change some (x, record) = some (y, last) ↔ _
  simp [eq_comm]

end Fields

/-- **A record says what its fields say**, if it has no more of them than are read. -/
theorem record?_eq_some_iff {fields : Fields α} {value : Json} {count : Nat} {Says : α → Prop}
    (h : ∀ x last, fields (value.behind 0) = some (x, last) ↔ Says x ∧ last = value.behind count)
    {x : α} : record? fields value = some x ↔ value.IsRecord count ∧ Says x := by
  have hread : (∃ last, fields (value.behind 0) = some (x, last)) ↔ Says x :=
    ⟨fun ⟨last, hlast⟩ => ((h x last).1 hlast).1, fun hsaid => ⟨_, (h x _).2 ⟨hsaid, rfl⟩⟩⟩
  rw [← hread]
  cases value with
  | obj members => simp [record?, IsRecord, behind]
  | arr items =>
    have hall : fields (.positional items) = fields ((Json.arr items).behind 0) := rfl
    rw [record?, hall]
    cases hfields : fields ((Json.arr items).behind 0) with
    | none => simp
    | some outcome =>
      obtain ⟨y, last⟩ := outcome
      rw [((h y last).1 hfields).2]
      -- what is left of the array is nothing exactly if it is short enough
      rcases Nat.lt_or_ge count items.length with hlong | hshort
      · rw [behind, List.drop_eq_getElem_cons hlong]
        simp [IsRecord, Nat.not_le.2 hlong]
      · rw [behind, List.drop_of_length_le hshort]
        simp [IsRecord, hshort]
  | _ => simp [record?, IsRecord]

/-- A record of one field says what the field says. -/
theorem record?_required_eq_some_iff {name : String} {read : Json → Option α} {value : Json} {x : α} :
    record? (Fields.required name read) value = some x ↔
      value.IsRecord 1 ∧ ∃ raw, value.field? 0 name = some raw ∧ read raw = some x := by
  refine @record?_eq_some_iff _ _ value 1
    (fun x => ∃ raw, value.field? 0 name = some raw ∧ read raw = some x) (fun x last => ?_) x
  simp only [Fields.required_behind, Option.map_eq_some_iff, Option.bind_eq_some_iff, Prod.mk.injEq]
  constructor
  · rintro ⟨y, hread, rfl, rfl⟩
    exact ⟨hread, rfl⟩
  · rintro ⟨hread, rfl⟩
    exact ⟨_, hread, rfl, rfl⟩

/-- The field that a record is read from first: by its name, or in the first place. -/
def first? (name : String) : Json → Option Json :=
  field? 0 name

theorem first?_eq {name : String} {value : Json} {record last : Record} {raw : Option Json}
    (hopened : opened? value = some record) (hraw : Fields.next name record = some (raw, last)) :
    value.first? name = raw := by
  have hbehind : record = value.behind 0 := by
    cases value <;> cases hopened <;> rfl
  rw [hbehind, Fields.next_behind] at hraw
  exact congrArg Prod.fst (Option.some.inj hraw)

end WordServer.Json
