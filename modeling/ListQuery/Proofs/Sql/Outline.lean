import ListQuery.Sql.Statement

/-!
# Outlines of conditions

A condition holds the operands that its columns are compared with, but they never get into the
text of a statement: there stands a parameter in place of each, named after its column and
numbered. What is left of a condition without its operands, its outline, is all that the text
and the names of the parameters depend on. Raw expressions and truth values, which are written
out, belong to the outline.

## Main definitions

* `Test.outline`, `Clause.outline` and `Fragment.outline` leave out the operands.
* `Rendered.outline` is the text of a statement with the names of its parameters.

## Main results

* `Clause.outline_fragment`: how a condition is written depends on its outline only.
* `Fragment.outline_render`: so does the rendered text.
-/

namespace ListQuery.Sql

/-! ## Fragments -/

/-- A piece of a statement without the value of a parameter. -/
def Piece.outline : Piece → Piece
  | .param name _ => .param name .null
  | piece => piece

theorem Piece.outline_eq_text_iff {piece : Piece} {s : String} :
    piece.outline = .text s ↔ piece = .text s := by
  cases piece <;> simp [Piece.outline]

/-- The text of a finished statement, with the names of its parameters. -/
def Rendered.outline (rendered : Rendered) : String × List String :=
  (rendered.text, rendered.params.map Prod.fst)

namespace Fragment

/-- A part of a statement without the values of its parameters. -/
def outline (fragment : Fragment) : Fragment := fragment.map Piece.outline

@[simp]
theorem outline_append (first second : Fragment) :
    outline (first ++ second) = outline first ++ outline second := List.map_append

@[simp]
theorem outline_ofText (s : String) : outline (ofText s) = ofText s := rfl

@[simp]
theorem outline_ofParam (name : String) (value : Value) :
    outline (ofParam name value) = ofParam name .null := rfl

@[simp]
theorem outline_bracketed (fragment : Fragment) :
    outline fragment.bracketed = bracketed (outline fragment) := by
  simp [bracketed]

@[simp]
theorem isEmpty_outline (fragment : Fragment) : isEmpty (outline fragment) = isEmpty fragment := by
  simp [isEmpty, outline, List.all_map, Function.comp_def, Piece.outline_eq_text_iff]

theorem outline_separated (separator : String) (fragments : List Fragment) :
    outline (separated separator fragments) = separated separator (fragments.map outline) := by
  fun_induction separated separator fragments with
  | case1 => rfl
  | case2 => rfl
  | case3 fragment rest filled ih =>
    cases rest with
    | nil => exact absurd rfl (filled ·)
    | cons next others => simp only [outline_append, outline_ofText, ih, List.map_cons, separated]

theorem outline_joined (separator : String) (fragments : List Fragment) :
    outline (joined separator fragments) = joined separator (fragments.map outline) := by
  rw [joined, joined, outline_separated, List.filter_map]
  simp only [Function.comp_def, isEmpty_outline]

/-- What stands in front of a rendered text stands in front of its outline. -/
theorem outline_prefixed (s : String) (front : List (String × Value))
    (result : Except ParameterClash Rendered) :
    Rendered.outline <$> (do
      let after ← result
      pure (⟨s ++ after.text, front ++ after.params⟩ : Rendered)) =
    (fun after => (s ++ after.1, front.map Prod.fst ++ after.2)) <$>
      (Rendered.outline <$> result) := by
  cases result <;> simp [Rendered.outline, bind, Except.bind, pure, Except.pure, Functor.map,
    Except.map]

/-- The values of parameters do not matter to the text, nor to the names of parameters. -/
theorem outline_renderAfter (fragment : Fragment) : ∀ names : Names,
    Rendered.outline <$> renderAfter names (outline fragment) =
      Rendered.outline <$> renderAfter names fragment := by
  induction fragment with
  | nil => exact fun _ => rfl
  | cons piece rest ih =>
    intro names
    cases piece with
    | text s =>
      have later := congrArg (fun result =>
        (fun after : String × List String => (s ++ after.1, after.2)) <$> result) (ih names)
      exact (outline_prefixed s [] _).trans (later.trans (outline_prefixed s [] _).symm)
    | param base value =>
      simp only [outline, List.map_cons, Piece.outline, renderAfter]
      split
      · rfl
      · -- the names that are taken from here on do not depend on the value
        generalize paramName base (names.bases.count base + 1) = name
        have later := congrArg (fun result =>
          (fun after : String × List String => ((":" ++ name) ++ after.1, name :: after.2)) <$>
            result) (ih ⟨base :: names.bases, name :: names.numbered, names.own⟩)
        exact (outline_prefixed (":" ++ name) [(name, .null)] _).trans
          (later.trans (outline_prefixed (":" ++ name) [(name, value)] _).symm)
    | named name =>
      simp only [outline, List.map_cons, Piece.outline, renderAfter]
      split
      · rfl
      · have later := ih ⟨names.bases, names.numbered, name :: names.own⟩
        split
        · have shifted := congrArg (fun result =>
            (fun after : String × List String => ((":" ++ name) ++ after.1, after.2)) <$> result)
            later
          exact (outline_prefixed (":" ++ name) [] _).trans
            (shifted.trans (outline_prefixed (":" ++ name) [] _).symm)
        · have shifted := congrArg (fun result =>
            (fun after : String × List String => ((":" ++ name) ++ after.1, name :: after.2)) <$>
              result) later
          exact (outline_prefixed (":" ++ name) [(name, .null)] _).trans
            (shifted.trans (outline_prefixed (":" ++ name) [(name, .null)] _).symm)

theorem outline_render (fragment : Fragment) :
    Rendered.outline <$> render (outline fragment) = Rendered.outline <$> render fragment := by
  have oneLined (result : Except ParameterClash Rendered) :
      Rendered.outline <$> (do
        let rendered ← result
        pure (⟨oneLine rendered.text, rendered.params⟩ : Rendered)) =
      (fun rendered => (oneLine rendered.1, rendered.2)) <$> (Rendered.outline <$> result) := by
    cases result <;> rfl
  rw [render, render, oneLined, oneLined, outline_renderAfter]

/-- Fragments with the same outline are rendered as the same text, with the same names of
parameters, whatever stands before and after them. -/
theorem outline_render_congr {first second : Fragment} (same : outline first = outline second)
    (before after : Fragment) :
    Rendered.outline <$> render (before ++ first ++ after) =
      Rendered.outline <$> render (before ++ second ++ after) := by
  rw [← outline_render (before ++ first ++ after), ← outline_render (before ++ second ++ after)]
  simp only [outline_append, same]

end Fragment

/-! ## Conditions -/

/-- A test without the values that it compares with. -/
def Test.outline : Test → Test
  | .compare op _ => .compare op .null
  | .like negated _ => .like negated .null
  | .ilike negated _ => .ilike negated .null
  | .among negated _ => .among negated []
  | .between negated _ _ => .between negated .null .null
  | test => test

theorem Test.outline_negate (test : Test) : test.negate.outline = test.outline.negate := by
  cases test <;> rfl

/-- How a test is written depends on its outline only. -/
theorem Test.outline_fragment (full name : String) (test : Test) :
    (test.outline.fragment full name).outline = (test.fragment full name).outline := by
  cases test with
  | among negated values => cases negated <;> rfl
  | _ => rfl

namespace Clause

variable {ι : Type}

mutual

/-- A condition without the values that its columns are compared with. -/
def outline : Clause ι → Clause ι
  | .column model col test => .column model col test.outline
  | .always => .always
  | .all parts => .all (outlines parts)
  | .any parts => .any (outlines parts)
  | .related model r inner => .related model r (outline inner)

/-- Conditions without the values that their columns are compared with. -/
def outlines : List (Clause ι) → List (Clause ι)
  | [] => []
  | part :: rest => outline part :: outlines rest

end

theorem outlines_eq_map (parts : List (Clause ι)) : outlines parts = parts.map outline := by
  induction parts with
  | nil => rfl
  | cons part rest ih => rw [outlines, ih, List.map_cons]

@[simp]
theorem isAlways_outline (clause : Clause ι) : clause.outline.isAlways = clause.isAlways := by
  cases clause <;> rfl

@[simp]
theorem needsBrackets_outline (context : Context) (clause : Clause ι) :
    clause.outline.needsBrackets context = clause.needsBrackets context := by
  cases clause <;> rfl

theorem outline_conjunction (parts : List (Clause ι)) :
    (conjunction parts).outline = conjunction (parts.map outline) := by
  match parts with
  | [] => rfl
  | [part] => rfl
  | first :: second :: rest => exact congrArg Clause.all (outlines_eq_map _)

theorem outline_disjunction (parts : List (Clause ι)) :
    (disjunction parts).outline = disjunction (parts.map outline) := by
  have void : (parts.map outline).any isAlways = parts.any isAlways := by
    simp only [List.any_map, Function.comp_def, isAlways_outline]
  unfold disjunction
  rw [void]
  split
  · rfl
  · rcases parts with _ | ⟨first, _ | ⟨second, rest⟩⟩
    · rfl
    · rfl
    · exact congrArg Clause.any (outlines_eq_map _)

theorem outline_enclose {context : Context} {clause : Clause ι} {written written' : Fragment}
    (same : written.outline = written'.outline) :
    (enclose context clause.outline written).outline =
      (enclose context clause written').outline := by
  rw [enclose, enclose, needsBrackets_outline]
  split
  · rw [Fragment.outline_bracketed, Fragment.outline_bracketed, same]
  · exact same

mutual

/-- How a condition is written depends on its outline only. -/
theorem outline_fragment (schema : Schema ι) : (clause : Clause ι) →
    (clause.outline.fragment schema).outline = (clause.fragment schema).outline
  | .column model col test => Test.outline_fragment _ _ test
  | .always => rfl
  | .all parts => by
    rw [outline, fragment, fragment, Fragment.outline_joined, Fragment.outline_joined,
      outline_fragments schema .conjunction parts]
  | .any parts => by
    rw [outline, fragment, fragment, Fragment.outline_joined, Fragment.outline_joined,
      outline_fragments schema .disjunction parts]
  | .related model r inner => by
    simp only [outline, fragment, Fragment.outline_append, Fragment.outline_joined, List.map_cons,
      outline_enclose (outline_fragment schema inner)]

theorem outline_fragments (schema : Schema ι) (context : Context) : (parts : List (Clause ι)) →
    (fragments schema context (outlines parts)).map Fragment.outline =
      (fragments schema context parts).map Fragment.outline
  | [] => rfl
  | part :: rest => by
    rw [outlines, fragments, fragments, List.map_cons, List.map_cons,
      outline_enclose (outline_fragment schema part), outline_fragments schema context rest]

end

end Clause

/-- Conditions with the same outline are written in the same way. -/
theorem outline_conditionFragment {ι : Type} (schema : Schema ι) {first second : Option (Clause ι)}
    (same : first.map Clause.outline = second.map Clause.outline) :
    (conditionFragment schema first).outline = (conditionFragment schema second).outline := by
  have written (clause : Option (Clause ι)) :
      (conditionFragment schema (clause.map Clause.outline)).outline =
        (conditionFragment schema clause).outline := by
    cases clause with
    | none => rfl
    | some clause =>
      have outlined := Clause.outline_fragment schema clause
      have empty : (clause.outline.fragment schema).isEmpty = (clause.fragment schema).isEmpty := by
        rw [← Fragment.isEmpty_outline, outlined, Fragment.isEmpty_outline]
      simp only [Option.map_some, conditionFragment, empty]
      split
      · rfl
      · rw [Fragment.outline_append, Fragment.outline_append, outlined]
  rw [← written first, same, written]

end ListQuery.Sql
