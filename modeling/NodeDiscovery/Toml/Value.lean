/-!
# TOML values and tables

What a document says is a table of named values.  A table can be written in several ways, and
how it was begun decides what may still be added to it: a table is given one header at most, and
a dotted key adds only to tables that dotted keys began.

## Main definitions

* `Value`, `Entries` — values and the named values of a table.
* `Origin` — how a table was begun.
* `Key` — a dotted key.
* `Entries.within?` — a change inside the table that a header names.
* `Entries.declare?`, `Entries.extend?`, `Entries.insert?` — what a header, a doubled header and
  a key with a value do to a table.
-/

namespace NodeDiscovery
namespace Toml

/-- How a table was begun. -/
inductive Origin where
  /-- By a header of its own. -/
  | declared
  /-- By the header of a table inside it. -/
  | implied
  /-- By a dotted key. -/
  | dotted
  deriving DecidableEq, Repr

/-- A value of a document.  Floating-point numbers and moments are told apart from other values
and not kept. -/
inductive Value where
  /-- A text. -/
  | text (content : String)
  /-- A whole number. -/
  | integer (n : Int)
  /-- A floating-point number. -/
  | float
  /-- A truth value. -/
  | boolean (b : Bool)
  /-- A date, a time of day or both. -/
  | moment
  /-- A list of values. -/
  | array (items : List Value)
  /-- A table in braces, which nothing is added to afterwards. -/
  | inline (entries : List (String × Value))
  /-- A table that may still be added to. -/
  | table (origin : Origin) (entries : List (String × Value))
  /-- The tables of a doubled header, the last of which may still be added to: the last one and
  those before it. -/
  | tables (latest : List (String × Value)) (earlier : List (List (String × Value)))

/-- The named values of a table, with pairwise distinct names. -/
abbrev Entries := List (String × Value)

/-- A dotted key: the tables that it leads through and the name inside the last of them. -/
structure Key where
  /-- The tables, the outermost first. -/
  path : List String
  /-- The name in the last table. -/
  name : String
  deriving DecidableEq, Repr

/-- All the names of a key. -/
def Key.names (key : Key) : List String :=
  key.path ++ [key.name]

namespace Entries

/-- The value under a name. -/
def find? (name : String) : Entries → Option Value
  | [] => none
  | (name', v) :: rest => if name' = name then some v else find? name rest

/-- Puts a value under a name, in place of any value that was there. -/
def put (name : String) (v : Value) : Entries → Entries
  | [] => [(name, v)]
  | (name', v') :: rest =>
    if name' = name then (name, v) :: rest else (name', v') :: put name v rest

/-- Changes the table that a path of a header leads to.  Tables missing on the way are begun, a
list of tables stands for its last table, and every other value bars the way. -/
def within? (change : Entries → Option Entries) : List String → Entries → Option Entries
  | [], entries => change entries
  | name :: path, entries =>
    match find? name entries with
    | none => (within? change path []).map fun inner => put name (.table .implied inner) entries
    | some (.table origin inner) =>
      (within? change path inner).map fun inner => put name (.table origin inner) entries
    | some (.tables latest earlier) =>
      (within? change path latest).map fun latest => put name (.tables latest earlier) entries
    | some _ => none

/-- Gives the table under a name its header.  The name is free, or another header implied the
table. -/
def declare? (name : String) (entries : Entries) : Option Entries :=
  match find? name entries with
  | none => some (put name (.table .declared []) entries)
  | some (.table .implied inner) => some (put name (.table .declared inner) entries)
  | some _ => none

/-- Adds an empty table to the list of tables under a name.  The name is free or has such a
list. -/
def extend? (name : String) (entries : Entries) : Option Entries :=
  match find? name entries with
  | none => some (put name (.tables [] []) entries)
  | some (.tables latest earlier) => some (put name (.tables [] (earlier ++ [latest])) entries)
  | some _ => none

/-- Puts a value under a name that is free. -/
def add? (name : String) (v : Value) (entries : Entries) : Option Entries :=
  if (find? name entries).isNone then some (put name v entries) else none

/-- Puts a value under a name in the table that the path of a dotted key leads to.  The path
leads through tables without a header and into a table that a dotted key began; `here` says how
the table at hand was begun. -/
def descend? (name : String) (v : Value) (here : Origin) : List String → Entries → Option Entries
  | [], entries => if here = .dotted then add? name v entries else none
  | step :: path, entries =>
    match find? step entries with
    | none =>
      (descend? name v .dotted path []).map fun inner => put step (.table .dotted inner) entries
    | some (.table .declared _) => none
    | some (.table origin inner) =>
      (descend? name v origin path inner).map fun inner => put step (.table origin inner) entries
    | some (.tables latest earlier) =>
      (descend? name v .declared path latest).map fun latest =>
        put step (.tables latest earlier) entries
    | some _ => none

/-- Puts a value under a key in a table with a header. -/
def insert? (key : Key) (v : Value) (entries : Entries) : Option Entries :=
  if key.path = [] then add? key.name v entries
  else descend? key.name v .declared key.path entries

/-! ### What is found after a change -/

@[simp] theorem find?_nil (name : String) : find? name [] = none := rfl

@[simp] theorem find?_put (name name' : String) (v : Value) (entries : Entries) :
    find? name (put name' v entries) = if name = name' then some v else find? name entries := by
  induction entries with
  | nil =>
    by_cases h : name = name'
    · simp [put, find?, h]
    · simp [put, find?, h, Ne.symm h]
  | cons e entries ih =>
    by_cases he : e.1 = name'
    · by_cases h : name = name'
      · simp [put, find?, he, h]
      · simp [put, find?, he, h, Ne.symm h]
    · by_cases h : e.1 = name
      · have : name ≠ name' := h ▸ he
        simp [put, find?, h, this]
      · simp [put, find?, he, h, ih]

end Entries
end Toml
end NodeDiscovery
