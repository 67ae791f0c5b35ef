import ListQuery.Text.Blank
import ListQuery.Value.Basic

/-!
# Fragments of statements

A statement is text with parameters in it. While it is put together a parameter has
only the name of what it belongs to; in the end the parameters of each name are
numbered from one, in the order in which they stand in the text. A parameter of a raw
expression has a name of its own, under which no other parameter may go, and no value.

## Main definitions

* `Fragment` is a list of pieces, each a text or a parameter.
* `Fragment.render` numbers the parameters and gives the text and the values.
* `ParameterClash` says why a fragment cannot be rendered.
-/

namespace ListQuery.Sql

/-- A piece of a statement. -/
inductive Piece
  | text (s : String)
  | param (name : String) (value : Value)
  /-- A parameter with a name of its own. -/
  | named (name : String)
  deriving DecidableEq

/-- A part of a statement. -/
abbrev Fragment := List Piece

/-- A finished statement, or a finished part of one: its text, and the values of its
parameters by their names. -/
structure Rendered where
  text : String
  params : List (String × Value)
  deriving DecidableEq

/-- A name that a parameter has of its own and another one by its number. -/
structure ParameterClash where
  name : String
  deriving DecidableEq

/-- What is wrong with such a name. -/
def ParameterClash.message (e : ParameterClash) : String :=
  "Bind parameter '" ++ e.name ++ "' conflicts with unique bind parameter of the same name"

namespace Fragment

/-- A fragment that is a text. -/
def ofText (s : String) : Fragment := [.text s]

/-- A fragment that is a parameter. -/
def ofParam (name : String) (value : Value) : Fragment := [.param name value]

/-- A fragment between brackets. -/
def bracketed (fragment : Fragment) : Fragment := ofText "(" ++ fragment ++ ofText ")"

/-- Whether there is nothing in a fragment. -/
def isEmpty (fragment : Fragment) : Bool := fragment.all fun piece => piece = .text ""

/-- Fragments with a text between them. -/
def separated (separator : String) : List Fragment → Fragment
  | [] => []
  | [fragment] => fragment
  | fragment :: rest => fragment ++ ofText separator ++ separated separator rest

/-- Fragments with a text between them; those with nothing in them are left out. -/
def joined (separator : String) (fragments : List Fragment) : Fragment :=
  separated separator (fragments.filter fun fragment => !fragment.isEmpty)

/-- The name of a parameter by what it belongs to and by its number. -/
def paramName (name : String) (number : Nat) : String := name ++ "_" ++ toString number

/-- The names of the parameters so far. -/
structure Names where
  /-- What the numbered parameters belong to. -/
  bases : List String
  /-- The names of the numbered parameters. -/
  numbered : List String
  /-- The names that parameters have of their own. -/
  own : List String

/-- Renders what follows some parameters, whose names are given. -/
def renderAfter (names : Names) : Fragment → Except ParameterClash Rendered
  | [] => .ok ⟨"", []⟩
  | .text s :: rest => do
    let after ← renderAfter names rest
    pure ⟨s ++ after.text, after.params⟩
  | .param base value :: rest =>
    let name := paramName base (names.bases.count base + 1)
    if names.own.contains name then .error ⟨name⟩
    else do
      let after ← renderAfter ⟨base :: names.bases, name :: names.numbered, names.own⟩ rest
      pure ⟨":" ++ name ++ after.text, (name, value) :: after.params⟩
  | .named name :: rest =>
    if names.numbered.contains name then .error ⟨name⟩
    else do
      let after ← renderAfter ⟨names.bases, names.numbered, name :: names.own⟩ rest
      let params := if names.own.contains name then after.params
        else (name, .null) :: after.params
      pure ⟨":" ++ name ++ after.text, params⟩

/-- Numbers the parameters of a fragment and writes it on one line. -/
def render (fragment : Fragment) : Except ParameterClash Rendered := do
  let rendered ← renderAfter ⟨[], [], []⟩ fragment
  pure ⟨oneLine rendered.text, rendered.params⟩

end Fragment

end ListQuery.Sql
