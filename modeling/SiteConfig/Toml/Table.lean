import SiteConfig.Value

/-!
# Tables under construction

The tables of a TOML text come in pieces: a header names a path, a dotted key names another one
below it, and both may lead through tables that were not written out before. What may be added to a
table depends on how it came to be.

- `Entry`: what a key of a table holds so far.
- `Entries.assign`: a value under a dotted key.
- `Entries.define`, `Entries.append`: a table, or one more table of an array, under a header.
- `Entries.value`: the finished table.
-/

namespace SiteConfig.Toml

/-- How a table came to be. -/
inductive Origin
  /-- By a header of its own. -/
  | defined
  /-- By a header of a table below it. -/
  | implied
  /-- By a dotted key. -/
  | dotted
  deriving DecidableEq, Repr

/-- What a key holds. -/
inductive Entry
  | value (v : Value)
  | table (origin : Origin) (entries : List (String × Entry))
  /-- The tables of an array, each under a header of its own. -/
  | tables (items : List (List (String × Entry)))
  deriving Repr, Inhabited

/-- The entries of a table, each key once. -/
abbrev Entries := List (String × Entry)

namespace Entries

/-- Sets what a key holds. -/
def put (key : String) (entry : Entry) : Entries → Entries
  | [] => [(key, entry)]
  | (k, e) :: rest => if k = key then (k, entry) :: rest else (k, e) :: put key entry rest

/-- Changes the table at a path. Tables that are missing on the way come to be as `origin` says;
an array of tables leads into its last table. A dotted key never leads through a table that has a
header. -/
def updateAt (origin : Origin) (change : Origin → Entries → Option Entries) :
    List String → Origin → Entries → Option Entries
  | [], own, entries => change own entries
  | key :: path, _, entries =>
    match entries.lookup key with
    | none =>
      (updateAt origin change path origin []).map fun below =>
        put key (.table origin below) entries
    | some (.value _) => none
    | some (.table own below) =>
      if origin = .dotted ∧ own = .defined then none
      else (updateAt origin change path own below).map fun below =>
        put key (.table own below) entries
    | some (.tables items) =>
      -- Headers below an array belong to the table that was added last.
      match items.reverse with
      | [] => none
      | last :: front =>
        (updateAt origin change path .defined last).map fun last =>
          put key (.tables (front.reverse ++ [last])) entries

/-- A value under a dotted key, whose last part is `key`, in the table at the path `header`. The
parts before the last only lead through tables that dotted keys made. -/
def assign (header path : List String) (key : String) (v : Value) (entries : Entries) :
    Option Entries :=
  let add (own : Origin) (table : Entries) : Option Entries :=
    if (own = .dotted) = path.isEmpty ∨ (table.lookup key).isSome then none
    else some (put key (.value v) table)
  updateAt .implied (updateAt .dotted add path) header .defined entries

/-- The table with the header `path ++ [key]`. It may be there already if a header below it
implied it. -/
def define (path : List String) (key : String) (entries : Entries) : Option Entries :=
  let add (_ : Origin) (table : Entries) : Option Entries :=
    match table.lookup key with
    | none => some (put key (.table .defined []) table)
    -- What headers below it have put there stays.
    | some (.table .implied below) => some (put key (.table .defined below) table)
    | some _ => none
  updateAt .implied add path .defined entries

/-- One more table in the array with the header `path ++ [key]`. -/
def append (path : List String) (key : String) (entries : Entries) : Option Entries :=
  let add (_ : Origin) (table : Entries) : Option Entries :=
    match table.lookup key with
    | none => some (put key (.tables [[]]) table)
    | some (.tables items) => some (put key (.tables (items ++ [[]])) table)
    | some _ => none
  updateAt .implied add path .defined entries

end Entries

mutual

/-- The finished value of an entry. -/
def Entry.finished : Entry → Value
  | .value v => v
  | .table _ entries => .object (Fields.ofAssignments (finishedFields entries))
  | .tables items => .list (finishedItems items)

/-- The finished fields of a table. -/
def finishedFields : List (String × Entry) → Fields
  | [] => []
  | (key, entry) :: rest => (key, entry.finished) :: finishedFields rest

/-- The finished tables of an array. -/
def finishedItems : List (List (String × Entry)) → List Value
  | [] => []
  | entries :: rest =>
    .object (Fields.ofAssignments (finishedFields entries)) :: finishedItems rest

end

/-- The finished table, its keys in order. -/
def Entries.value (entries : Entries) : Value :=
  .object (Fields.ofAssignments (finishedFields entries))

end SiteConfig.Toml
