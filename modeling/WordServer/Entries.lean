/-!
# Entries by name

Association lists whose keys are strictly increasing. They hold the members of a JSON object, the
routes of a router, the open documents and the options of an address, so that every listing of them
is in key order and a name occurs once. `put` keeps the order, and `lookup` sees the last value put.
-/

namespace WordServer

/-- Named values in strictly increasing order of their names. -/
abbrev Entries (α : Type u) := List (String × α)

namespace Entries

variable {α : Type u}

/-- The value under a name. -/
def lookup (name : String) : Entries α → Option α
  | [] => none
  | (key, value) :: rest => if key = name then some value else lookup name rest

/-- Sets the value under a name, at the place the name has in the order. -/
def put (name : String) (value : α) : Entries α → Entries α
  | [] => [(name, value)]
  | (key, old) :: rest =>
    if name < key then (name, value) :: (key, old) :: rest
    else if key = name then (name, value) :: rest
    else (key, old) :: put name value rest

/-- Forgets a name. -/
def remove (name : String) (entries : Entries α) : Entries α :=
  entries.filter fun entry => entry.1 ≠ name

/-- The names, in order. -/
def names (entries : Entries α) : List String :=
  entries.map Prod.fst

/-- Whether a name has a value. -/
def has (name : String) (entries : Entries α) : Bool :=
  (lookup name entries).isSome

/-- The entries of a list of pairs; of a repeated name the last value stays. -/
def ofList (pairs : List (String × α)) : Entries α :=
  pairs.foldl (fun entries pair => put pair.1 pair.2 entries) []

/-- The order that `put` keeps: names strictly increase. -/
def Ordered (entries : Entries α) : Prop :=
  (names entries).Pairwise (· < ·)

@[simp]
theorem lookup_nil (name : String) : lookup name ([] : Entries α) = none := rfl

/-- A value put is the value found. -/
theorem lookup_put_self (name : String) (value : α) (entries : Entries α) :
    lookup name (put name value entries) = some value := by
  induction entries with
  | nil => simp [put, lookup]
  | cons entry rest ih =>
    obtain ⟨key, old⟩ := entry
    unfold put
    by_cases hlt : name < key
    · simp [hlt, lookup]
    · by_cases heq : key = name
      · simp [heq, lookup]
      · simp [hlt, heq, lookup, ih]

/-- Putting one name leaves every other alone. -/
theorem lookup_put_of_ne {name other : String} (h : other ≠ name) (value : α)
    (entries : Entries α) : lookup other (put name value entries) = lookup other entries := by
  induction entries with
  | nil => simp [put, lookup, h.symm]
  | cons entry rest ih =>
    obtain ⟨key, old⟩ := entry
    unfold put
    by_cases hlt : name < key
    · simp [hlt, lookup, h.symm]
    · by_cases heq : key = name
      · subst heq
        simp [lookup, h.symm]
      · simp [hlt, heq, lookup, ih]

end Entries

end WordServer
