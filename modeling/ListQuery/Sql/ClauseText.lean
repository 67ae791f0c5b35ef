import ListQuery.Sql.Clause
import ListQuery.Sql.Raw

/-!
# Conditions as text

How conditions are written in a statement. Brackets stand around a disjunction
inside a conjunction, around a condition on related rows inside either, and around a
negated membership; a conjunction inside a disjunction needs none. A raw expression
without any text is left out of what it stands in.

## Main definitions

* `Test.fragment` writes a test of a column, `Clause.fragment` a condition.
-/

namespace ListQuery.Sql

/-- The sign of a comparison. -/
def Relop.sign : Relop → String
  | .eq => "="
  | .ne => "!="
  | .gt => ">"
  | .ge => ">="
  | .lt => "<"
  | .le => "<="

/-- A word in front of what is negated. -/
def notWord (negated : Bool) : String := if negated then "NOT " else ""

/-- The literal of a truth value in a statement. -/
def truthWord (b : Bool) : String := if b then "true" else "false"

/-- Writes a test of a column, which has a qualified name for the text and a name for the
parameters. -/
def Test.fragment (full name : String) : Test → Fragment
  | .compare op operand =>
    .ofText (full ++ " " ++ op.sign ++ " ") ++ .ofParam name operand
  | .isTruth negated b =>
    .ofText (full ++ (if negated then " != " else " = ") ++ truthWord b)
  | .isNull negated => .ofText (full ++ " IS " ++ notWord negated ++ "NULL")
  | .like negated pattern =>
    .ofText (full ++ " " ++ notWord negated ++ "LIKE ") ++ .ofParam name pattern
  | .ilike negated pattern =>
    .ofText ("lower(" ++ full ++ ") " ++ notWord negated ++ "LIKE lower(") ++
      .ofParam name pattern ++ .ofText ")"
  | .among negated values =>
    let membership : Fragment :=
      .ofText (full ++ " " ++ notWord negated ++ "IN (") ++ .ofParam name (.list values) ++
        .ofText ")"
    if negated then membership.bracketed else membership
  | .between negated low high =>
    .ofText (full ++ " " ++ notWord negated ++ "BETWEEN ") ++ .ofParam name low ++
      .ofText " AND " ++ .ofParam name high
  | .raw expression => rawFragment expression

/-- What a condition stands in. -/
inductive Context
  | alone
  | conjunction
  | disjunction
  deriving DecidableEq

/-- The word between the parts of a conjunction. -/
def andWord : String := " AND "

/-- The word between the parts of a disjunction. -/
def orWord : String := " OR "

namespace Clause

variable {ι : Type}

/-- Whether a condition needs brackets where it stands. -/
def needsBrackets (context : Context) : Clause ι → Bool
  | .related .. => context ≠ .alone
  | .any _ => context = .conjunction
  | _ => false

/-- Puts a written condition between brackets where it needs them. -/
def enclose (context : Context) (clause : Clause ι) (written : Fragment) : Fragment :=
  if clause.needsBrackets context then written.bracketed else written

mutual

/-- Writes a condition. The related rows stand under the name of their table. This is also done if
a relationship leads from a table to itself, where a statement would need an alias to tell them from
the rows that they are related to; the alias is left out, as the name it gets is none of the
condition's own. -/
def fragment (schema : Schema ι) : Clause ι → Fragment
  | .column model col test =>
    test.fragment (qualified (schema model).table col.name) col.name
  | .always => .ofText (truthWord true)
  | .all parts => Fragment.joined andWord (fragments schema .conjunction parts)
  | .any parts => Fragment.joined orWord (fragments schema .disjunction parts)
  | .related model r inner =>
    let own := (schema model).table
    let other := (schema r.target).table
    .ofText ("EXISTS (SELECT 1 FROM " ++ other ++ " WHERE ") ++
      Fragment.joined andWord [.ofText (r.condition own other),
        enclose .conjunction inner (fragment schema inner)] ++ .ofText ")"

/-- Writes conditions that stand in a context. -/
def fragments (schema : Schema ι) (context : Context) : List (Clause ι) → List Fragment
  | [] => []
  | part :: rest => enclose context part (fragment schema part) :: fragments schema context rest

end

end Clause

end ListQuery.Sql
