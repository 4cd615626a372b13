import StatusWait.Toml.Statement

/-!
# TOML documents

A document is the table that its statements build one after the other. An entry goes
into the table under the last heading.
-/

namespace StatusWait.Toml

/-- A document in the making. -/
structure Draft where
  /-- The entries of the whole document. -/
  entries : Entries
  /-- The path of the last heading. -/
  here : List String
deriving Repr

/-- The document before its first statement. -/
def Draft.empty : Draft := ⟨[], []⟩

/-- What one statement does; none if it goes against the rules for tables. -/
def Draft.add? (d : Draft) : Statement → Option Draft
  | .heading path key => do
      let (_, entries) ← within .heading (openTable key) path (.headed, d.entries)
      return ⟨entries, path ++ [key]⟩
  | .element path key => do
      let (_, entries) ← within .heading (openElement key) path (.headed, d.entries)
      return ⟨entries, path ++ [key]⟩
  | .entry path key value => do
      let (_, entries) ← within .heading (assign path key value) d.here (.headed, d.entries)
      return ⟨entries, d.here⟩

/-- The byte order mark, which a text may begin with. -/
def mark : Char := '\uFEFF'

/-- A text without the byte order mark it may begin with. -/
def dropMark : List Char → List Char
  | c :: cs => if c = mark then cs else c :: cs
  | [] => []

/-- The entries of the document that a text is; none if it is no TOML document. -/
def read (text : String) : Option Entries := do
  let ss ← statements (dropMark text.toList)
  let d ← ss.foldlM Draft.add? Draft.empty
  return d.entries

end StatusWait.Toml
