/-!
# TOML tables

The values of a TOML document, and the rules by which tables come into being.

## The model

A table remembers how it was made: under a heading of its own, as a step on the way to
a heading, by a dotted key, or inline. What may still be added to it depends on that. A
table made inline is closed. A table that a dotted key made may grow by other dotted
keys and by headings of tables below it, but gets no heading itself. A table made on
the way to a heading may get one later, once. An array made of headings grows at its
end, and stands for its last table in the path of any other heading.

`within` walks along a path of keys, makes the tables that are missing and changes the
one at the end; it fails where the path runs into something that cannot be entered.
-/

namespace StatusWait.Toml

/-- How a table was made. -/
inductive TableKind
  /-- Under its own heading, or as the whole document. -/
  | headed
  /-- On the way to a heading. -/
  | implied
  /-- By a dotted key. -/
  | dotted
  /-- Between braces. -/
  | inline
deriving DecidableEq, Repr

/-- A value. Of bare values only their presence is kept. -/
inductive Value
  | string (s : String)
  /-- A number, a truth value, a date or a time. -/
  | scalar
  /-- An array; `growing` if it is made of headings. -/
  | array (growing : Bool) (items : List Value)
  | table (kind : TableKind) (entries : List (String × Value))
deriving Repr

/-- The entries of a table, in the order in which they came. -/
abbrev Entries := List (String × Value)

namespace Entries

/-- The value of a key. -/
def get? (entries : Entries) (key : String) : Option Value := List.lookup key entries

/-- Give a key a value, in place of the one it had. -/
def put (key : String) (v : Value) : Entries → Entries
  | [] => [(key, v)]
  | e :: es => if e.1 = key then (key, v) :: es else e :: put key v es

/-- Give a new key a value; a key that is there already is refused. -/
def add? (key : String) (v : Value) (entries : Entries) : Option Entries :=
  match entries.get? key with
  | none => some (entries ++ [(key, v)])
  | some _ => none

end Entries

/-- A table with how it was made. -/
abbrev Table := TableKind × Entries

/-- What a path of keys belongs to. -/
inductive Walk
  /-- A heading. -/
  | heading
  /-- The key of an entry. -/
  | entry
deriving DecidableEq, Repr

/-- How the tables are made that a path has to go through. -/
def Walk.makes : Walk → TableKind
  | heading => .implied
  | entry => .dotted

/-- The path may go through a table. -/
def Walk.mayEnter : Walk → TableKind → Bool
  | heading, kind => kind != .inline
  | entry, kind => kind = .implied || kind = .dotted

/-- Change the table at the end of a path. -/
def within (walk : Walk) (change : Table → Option Table) : List String → Table → Option Table
  | [], t => change t
  | key :: path, (kind, entries) =>
      match entries.get? key with
      | none => do
          let (k, es) ← within walk change path (walk.makes, [])
          return (kind, entries.put key (.table k es))
      | some (.table k es) =>
          if walk.mayEnter k then do
            let (k', es') ← within walk change path (k, es)
            return (kind, entries.put key (.table k' es'))
          else none
      | some (.array true items) =>
          match items.getLast? with
          | some (.table k es) => do
              let (k', es') ← within walk change path (k, es)
              return (kind, entries.put key (.array true (items.dropLast ++ [.table k' es'])))
          | _ => none
      | some _ => none

/-- Add the entry `path.key = v`. A dotted key adds only to a table that dotted keys made. -/
def assign (path : List String) (key : String) (v : Value) : Table → Option Table :=
  within .entry
    (fun (kind, entries) =>
      if path = [] || kind = .dotted then (kind, ·) <$> entries.add? key v else none)
    path

/-- Put a table under its heading: a new one, or one that the path to another heading
made. -/
def openTable (key : String) : Table → Option Table
  | (kind, entries) =>
      match entries.get? key with
      | none => some (kind, entries.put key (.table .headed []))
      | some (.table .implied es) => some (kind, entries.put key (.table .headed es))
      | some _ => none

/-- Put one more table at the end of an array made of headings. -/
def openElement (key : String) : Table → Option Table
  | (kind, entries) =>
      match entries.get? key with
      | none => some (kind, entries.put key (.array true [.table .headed []]))
      | some (.array true items) =>
          some (kind, entries.put key (.array true (items ++ [.table .headed []])))
      | some _ => none

end StatusWait.Toml
