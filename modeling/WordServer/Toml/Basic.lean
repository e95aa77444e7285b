import WordServer.Entries

/-!
# Tables of settings

The values of a settings file. A table remembers how it came to be, because that decides whether a
later line may still add to it: one that a header opened takes further headers below it but no
second header, one that dotted keys made takes further dotted keys only, and one written in braces
is finished.
-/

namespace WordServer

/-- How a table came to be. -/
inductive Toml.Origin where
  /-- A header line of its own, or the file itself. -/
  | header
  /-- A header line of a table below it. -/
  | implied
  /-- A dotted key. -/
  | dotted
  /-- Braces. -/
  | inline
  deriving DecidableEq, Repr

/-- A value of a settings file. The values of numbers with a fraction and of dates play no part. -/
inductive Toml where
  | string (s : String)
  | integer (n : Int)
  | float
  | boolean (b : Bool)
  | moment
  | array (items : List Toml)
  | table (origin : Toml.Origin) (entries : List (String × Toml))
  /-- The tables that headers in double brackets opened, last first. -/
  | tables (elements : List (List (String × Toml)))
  deriving Repr

namespace Toml

/-- A table: how it came to be, and what it holds. -/
structure Table where
  origin : Origin
  entries : Entries Toml

namespace Table

/-- The table of a file before its first line. -/
def empty : Table := ⟨.header, []⟩

/-- The table as a value. -/
def toToml (here : Table) : Toml :=
  .table here.origin here.entries

/-- The table with a value under a key. -/
def put (here : Table) (key : String) (value : Toml) : Table :=
  { here with entries := Entries.put key value here.entries }

/-- Changes the table at the end of a path, of which missing parts are made. With `dotted` the path
comes from a dotted key, which may only go through tables that no header has opened; otherwise it
comes from a header. Of tables in double brackets the last is meant. -/
def update (dotted : Bool) (change : Table → Option Table) : List String → Table → Option Table
  | [], here => change here
  | key :: path, here =>
    match Entries.lookup key here.entries with
    | none =>
      (update dotted change path ⟨if dotted then .dotted else .implied, []⟩).map fun child =>
        here.put key child.toToml
    | some (.table .inline _) => none
    | some (.table .header entries) =>
      if dotted then none
      else (update dotted change path ⟨.header, entries⟩).map fun child =>
        here.put key child.toToml
    | some (.table origin entries) =>
      (update dotted change path ⟨origin, entries⟩).map fun child => here.put key child.toToml
    | some (.tables elements) =>
      match elements with
      | [] => none
      | last :: before =>
        (update dotted change path ⟨.header, last⟩).map fun child =>
          here.put key (.tables (child.entries :: before))
    | some _ => none

/-- Adds a pair whose key is dotted, if it has a path: the key has to be free, and a table that only
headers have made takes no dotted keys. -/
def addPair (path : List String) (key : String) (value : Toml) : Table → Option Table :=
  update true (fun here =>
    if (here.origin == .dotted) == path.isEmpty then none
    else if Entries.has key here.entries then none
    else some (here.put key value)) path

/-- Opens a table by a header. -/
def openTable (path : List String) (key : String) : Table → Option Table :=
  update false (fun here =>
    match Entries.lookup key here.entries with
    | none => some (here.put key (.table .header []))
    | some (.table .implied entries) => some (here.put key (.table .header entries))
    | some _ => none) path

/-- Opens one more table of several by a header in double brackets. -/
def openElement (path : List String) (key : String) : Table → Option Table :=
  update false (fun here =>
    match Entries.lookup key here.entries with
    | none => some (here.put key (.tables [[]]))
    | some (.tables elements) => some (here.put key (.tables ([] :: elements)))
    | some _ => none) path

end Table

end Toml

end WordServer
