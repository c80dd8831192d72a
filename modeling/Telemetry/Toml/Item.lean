import Telemetry.Json.Draft

/-!
# TOML tables

What a TOML document holds, and how its lines build it up: key-value pairs go
into the table of the last header, dotted keys open tables within it, and no
table may be given twice.

* `Item`: a value, a table, or an array of tables; a table remembers how it came
  about (`Opened`);
* `Item.assign?`: adds a key-value pair to a table;
* `Builder`: a document under construction; `Builder.openTable?` and
  `Builder.openElement?` for the two kinds of header;
* `Item.toDraft`: the document as a decoder reads it.
-/

namespace Telemetry.Toml

/-- How a table came about. -/
inductive Opened where
  /-- By a header of its own. -/
  | header
  /-- As part of the path of another header. -/
  | implied
  /-- By a dotted key. -/
  | dotted
  /-- As a value between braces. -/
  | inline
  deriving DecidableEq

/-- A value, a table, or an array of tables. -/
inductive Item where
  | str (s : String)
  | int (n : Int64)
  | bool (b : Bool)
  /-- A number with a fraction or exponent, an infinity or NaN. -/
  | float
  /-- A date, a time, or both. -/
  | date
  | arr (items : List Item)
  | table (opened : Opened) (entries : List (String × Item))
  | tables (elements : List Item)
  deriving Inhabited

/-- The entries of a table in the order of their keys' first appearance. -/
abbrev Entries := List (String × Item)

/-- The entries with another item under a key, at its place if it has one. -/
def Entries.set (key : String) (item : Item) : Entries → Entries
  | [] => [(key, item)]
  | (k, i) :: rest => if k = key then (key, item) :: rest else (k, i) :: Entries.set key item rest

/-- The entries without a key. -/
def Entries.erase (key : String) (entries : Entries) : Entries :=
  entries.filter (·.1 ≠ key)

/-- Changes the table at the end of a path; tables on the way that are not there yet
are opened. A path that is `dotted` enters only tables that no header and no
braces have given; any path enters the last table of an array of tables. -/
def Entries.descend? (dotted : Bool) (change : Opened → Entries → Option Entries) :
    List String → Opened → Entries → Option Entries
  | [], opened, entries => change opened entries
  | key :: path, _, entries =>
    match entries.lookup key with
    | none => do
      let opened : Opened := if dotted then .dotted else .implied
      return entries.set key (.table opened (← descend? dotted change path opened []))
    | some (.table opened inner) =>
      if opened = .inline ∨ (dotted ∧ opened = .header) then none
      else do
        return entries.set key (.table opened (← descend? dotted change path opened inner))
    | some (.tables elements) =>
      match elements.getLast? with
      | some (.table opened inner) => do
        let inner ← descend? dotted change path opened inner
        return entries.set key (.tables (elements.dropLast ++ [.table opened inner]))
      | _ => none
    | some _ => none

/-- Adds a key-value pair to a table. The tables that a dotted key names have to be
its own, and the last key has to be new. -/
def Entries.assign? (entries : Entries) (path : List String) (key : String) (item : Item) :
    Option Entries :=
  entries.descend? true
    (fun opened inner =>
      if (opened == .dotted) == path.isEmpty || (inner.lookup key).isSome then none
      else some (inner.set key item))
    path .header

/-- A document under construction: the tables that are complete, and the table that
key-value pairs go into, with its path and whether it is an element of an array
of tables. -/
structure Builder where
  done : Entries
  path : List String
  isElement : Bool
  current : Entries

namespace Builder

/-- The empty document. -/
def start : Builder := ⟨[], [], false, []⟩

/-- Puts the current table into its place. -/
def finish? (b : Builder) : Option Entries :=
  match b.path.getLast? with
  | none => some b.current
  | some key =>
    b.done.descend? false
      (fun _ inner =>
        if b.isElement then
          match inner.lookup key with
          | none => some (inner.set key (.tables [.table .header b.current]))
          | some (.tables elements) =>
            some (inner.set key (.tables (elements ++ [.table .header b.current])))
          | some _ => none
        else some (inner.set key (.table .header b.current)))
      b.path.dropLast .header

/-- What stands at the end of a path of headers: `none` if the path cannot be
entered. -/
def find? : List String → Entries → Option (Option Item)
  | [], _ => some none
  | [key], entries => some (entries.lookup key)
  | key :: path, entries =>
    match entries.lookup key with
    | none => some none
    | some (.table opened inner) => if opened = .inline then none else find? path inner
    | some (.tables elements) =>
      match elements.getLast? with
      | some (.table _ inner) => find? path inner
      | _ => none
    | some _ => none

/-- Begins the table of a header in single brackets. A table that has only been
implied so far goes on with what it holds. -/
def openTable? (b : Builder) (path : List String) : Option Builder := do
  let done ← b.finish?
  match ← find? path done with
  | none => return ⟨done, path, false, []⟩
  | some (.table .implied inner) => return ⟨done, path, false, inner⟩
  | some _ => none

/-- Begins the table of a header in double brackets. -/
def openElement? (b : Builder) (path : List String) : Option Builder := do
  let done ← b.finish?
  match ← find? path done with
  | none | some (.tables _) => return ⟨done, path, true, []⟩
  | some _ => none

/-- Adds a key-value pair to the current table. -/
def assign? (b : Builder) (path : List String) (key : String) (item : Item) : Option Builder := do
  return { b with current := ← b.current.assign? path key item }

end Builder

namespace Item

mutual

/-- The item as a decoder reads it. No setting takes a number that is no integer,
and a date is read as a table without entries. -/
def toDraft : Item → Draft
  | .str s => .str s
  | .int n => .int ⟨n.toInt, by have := n.le_toInt; have := n.toInt_lt; omega⟩
  | .bool b => .bool b
  | .float => .unusable
  | .date => .obj [] .closed
  | .arr items => .arr (toDrafts items) .closed
  | .table _ entries => .obj (toMembers entries) .closed
  | .tables elements => .arr (toDrafts elements) .closed

/-- The items as a decoder reads them. -/
def toDrafts : List Item → List Draft
  | [] => []
  | i :: rest => toDraft i :: toDrafts rest

/-- The entries as a decoder reads them. -/
def toMembers : List (String × Item) → List (Option String × Draft)
  | [] => []
  | (k, i) :: rest => (some k, toDraft i) :: toMembers rest

end

end Item

end Telemetry.Toml
