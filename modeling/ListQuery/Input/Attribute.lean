import ListQuery.Text.Compatibility
import ListQuery.Text.Quoted
import ListQuery.Text.WordChar

/-!
# Attributes that cannot hold a field

An input type keeps each of its fields under an attribute. Some attributes belong to every
type: what they may hold is laid down, and a field is none of it. The others become the
parameters of the function that makes the inputs of the type, so they have to be identifiers,
they have to differ, and each has to be in its compatible form, by which parameters are told
apart.

## Main definitions

* `AttributeError` says why an attribute cannot hold a field.
* `ownAttributeError?` finds the attributes that belong to every type.
* `checkParameters` checks the attributes of a type as parameters.
-/

namespace ListQuery

/-- Why an attribute cannot hold a field of an input type. -/
inductive AttributeError
  /-- The attribute holds the type of a type. -/
  | holdsType
  /-- The attribute of a type holds a text. -/
  | holdsText (type attr : String)
  /-- The attribute of a type holds its bases. -/
  | holdsBases (type attr : String)
  /-- The attribute cannot be changed. -/
  | fixed
  /-- The attribute holds the fields themselves. -/
  | holdsFields (attr : String)
  /-- The character cannot stand in an identifier. -/
  | notAnIdentifier (c : Char)
  /-- The character cannot stand at the start of an identifier. -/
  | notAStart (c : Char)
  | repeated (parameter : String)
  | constant (attr : String)
  /-- The attribute is not in its compatible form. -/
  | unstable (parameter : String)
  deriving DecidableEq

/-- A code point as the standard writes it, in at least four hexadecimal digits. -/
def codePoint (c : Char) : String :=
  let width := if c.toNat < 0x10000 then 4 else if c.toNat < 0x100000 then 5 else 6
  "U+" ++ String.ofList ((hexDigits width c.toNat).map Char.toUpper)

/-- That a character does not belong where it stands, on a line of the function. -/
def invalidCharacter (c : Char) (line : String) : String :=
  "invalid character '" ++ c.toString ++ "' (" ++ codePoint c ++ ") (<string>, line " ++ line ++
    ")"

/-- What is wrong with an attribute. -/
def AttributeError.message : AttributeError → String
  | .holdsType => "__class__ must be set to a class, not 'StrawberryField' object"
  | .holdsText type attr =>
    "can only assign string to " ++ type ++ "." ++ attr ++ ", not 'StrawberryField'"
  | .holdsBases type attr =>
    "can only assign tuple to " ++ type ++ "." ++ attr ++ ", not StrawberryField"
  | .fixed => ""
  | .holdsFields attr =>
    "mutable default <class 'dict'> for field " ++ attr ++
      " is not allowed: use default_factory"
  | .notAnIdentifier c => invalidCharacter c "1"
  | .notAStart c => invalidCharacter c "2"
  | .repeated parameter =>
    "duplicate argument '" ++ parameter ++ "' in function definition (<string>, line 1)"
  | .constant attr => "cannot assign to " ++ attr ++ " (<string>, line 2)"
  | .unstable parameter =>
    "__create_fn__() got an unexpected keyword argument '" ++ parameter ++ "'"

/-- The attributes of a type that cannot be changed. -/
def fixedAttributes : List String :=
  ["__dict__", "__mro__", "__base__", "__flags__", "__basicsize__", "__itemsize__",
   "__dictoffset__", "__weakrefoffset__", "__text_signature__"]

/-- Why an attribute that belongs to every type cannot hold a field of one of them. -/
def ownAttributeError? (type attr : String) : Option AttributeError :=
  if attr = "__class__" then some .holdsType
  else if attr = "__name__" || attr = "__qualname__" then
    some (.holdsText type attr)
  else if attr = "__bases__" then some (.holdsBases type attr)
  else if fixedAttributes.contains attr then some .fixed
  else none

/-- The attribute under which a type keeps the list of its fields. -/
def fieldsAttribute : String := "__annotations__"

/-- The identifier that no parameter can have. -/
def constantAttribute : String := "__debug__"

/-- The parameter for an attribute. -/
def parameterName (attr : String) : String := "_type_" ++ attr

/-- The first text that comes a second time. -/
def secondOccurrence? (before : List String) : List String → Option String
  | [] => none
  | s :: rest => if before.contains s then some s else secondOccurrence? (s :: before) rest

/-- The first character that keeps attributes from being identifiers. -/
def spellingError? (attributes : List String) : Option AttributeError :=
  let chars := attributes.flatMap String.toList
  let starts := attributes.filterMap fun attr => attr.toList.head?
  ((chars.find? fun c => !isIdentifierChar c).map AttributeError.notAnIdentifier).or
    ((starts.find? innerChars.has).map AttributeError.notAStart)

/-- The first attribute whose compatible form another one before it has, or that is a
constant. -/
def formError? (forms : List String) : Option AttributeError :=
  ((secondOccurrence? [] forms).map fun form => .repeated (parameterName form)).or
    (if forms.contains constantAttribute then some (.constant constantAttribute) else none)

/-- Why attributes cannot be the parameters of one function, by what is noticed first: that one
of them is taken, is no identifier, comes twice, is a constant, is not in its compatible form. -/
def parametersError? (attributes : List String) : Option AttributeError :=
  if attributes.contains fieldsAttribute then some (.holdsFields fieldsAttribute)
  else (spellingError? attributes).or <| (formError? (attributes.map compatibleForm)).or <|
    (attributes.find? fun attr => !isCompatible attr).map fun attr =>
      .unstable (parameterName attr)

/-- Attributes that can be the parameters of one function. -/
def checkParameters (attributes : List String) : Except AttributeError Unit :=
  match parametersError? attributes with
  | some e => .error e
  | none => .ok ()

end ListQuery
