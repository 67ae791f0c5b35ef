import ListQuery.Proofs.Find.Inference
import Mathlib.Tactic.ByContra

/-!
# Pages under the two policies

A request for a list is refused for one of the two numbers of its page or for its order, and for
the first of them that is at fault. Nothing else is ever wrong with a request that holds a map:
compiling the filter does not fail, and relations can be inferred from any order that was brought
into its normal form.

The two policies differ only on whole numbers that are out of range. A rejecting configuration
refuses them, a clamping one moves them to the nearest number in range. The range does not depend on
the policy, so what is not rejected is not moved either, and what was moved is not rejected. This
takes a bound on the rows of a page that is itself a whole number, as what is taken may be the
bound.

## Main definitions

* `PageField.Admits` says which numbers are in range, `PageField.IsNearest` which of them is the
  nearest to another number.
* `PageField.Resolves` lists what can become of the value for a number of a page.
* `PoliciesAgree` is what the two policies have in common.
* `stageErrors` lists what is wrong with a request, in the order in which it is checked.

## Main results

* `PageField.resolves_of_resolve`: nothing but this becomes of the value.
* `policiesAgree`: the policies agree wherever everything else is the same.
* `value_assemble_eq_error_iff`: the first error is reported.
* `assemble_pages` puts them together.
-/

namespace ListQuery

/-! ## Numbers in range -/

/-- A bound on the rows of a page is a whole number and leaves room for a row, if there is one. -/
def BoundsPages (maxTake : Option Bound) : Prop :=
  ∀ most, maxTake = some most → ∃ n, 1 ≤ n ∧ most = .int n

/-- A configuration that is made of a whole number, or of none, bounds pages by a whole number. -/
theorem boundsPages_of_make {values : ConfigValues} {config : Config}
    (made : Config.make values = .ok config)
    (whole : values.maxTake = .null ∨ ∃ n, values.maxTake = .int n) :
    BoundsPages config.maxTake := by
  have read : Config.readMaxTake values.maxTake = .ok config.maxTake := by
    simp only [Config.make, bind, Except.bind] at made
    split at made
    · cases made
    · split at made
      · cases made
      · next found =>
        split at made
        · cases made
        · cases made
          exact found
  intro most found
  rw [found] at read
  rcases whole with missing | ⟨n, given⟩
  · rw [missing, Config.readMaxTake, if_pos rfl] at read
    cases read
  · rw [given, Config.readMaxTake, if_neg Value.noConfusion, Config.readBound,
      Bound.positive] at read
    simp only [Bound.ofValue?] at read
    split at read
    · cases read
    · next least =>
      cases read
      rw [Bound.exceededBy_int] at least
      exact ⟨n, Int.not_lt.1 least, rfl⟩

namespace PageField

/-- The number that a page skips or takes; nothing where it takes all. -/
def resolve (config : Config) : PageField → Value → Except PaginationError (Option Bound)
  | .skip, value => (fun n : Nat => some (.int n)) <$> resolveSkip config value
  | .take, value => resolveTake config value

/-- What is skipped and taken where nothing is asked for. -/
def standard : PageField → Option Bound
  | .skip => some (.int 0)
  | .take => none

/-- The numbers that are in range where the rows of a page are bounded, whatever the policy. -/
def Admits (maxTake : Option Bound) : PageField → Int → Prop
  | .skip, n => 0 ≤ n
  | .take, n => 1 ≤ n ∧ ∀ most, maxTake = some most → n ≤ most.toInt

/-- Of the numbers in range one is nearer to a number than all the others. -/
structure IsNearest (maxTake : Option Bound) (field : PageField) (n nearest : Int) : Prop where
  admitted : field.Admits maxTake nearest
  nearer : ∀ other, field.Admits maxTake other → other ≠ nearest →
    (n - nearest).natAbs < (n - other).natAbs

variable {config : Config} {field : PageField} {n : Int}

/-- A number in range is its own nearest. -/
theorem IsNearest.of_admits {maxTake : Option Bound} (admitted : field.Admits maxTake n) :
    field.IsNearest maxTake n n := ⟨admitted, fun other _ apart => by omega⟩

/-- A number out of range is below it, or above the bound on the rows of a page. -/
theorem not_admits_cases {maxTake : Option Bound} (bounded : BoundsPages maxTake)
    (outside : ¬ field.Admits maxTake n) :
    (field = .skip ∧ n < 0) ∨ (field = .take ∧ n < 1) ∨
      (field = .take ∧ ∃ most, maxTake = some (.int most) ∧ 1 ≤ most ∧ most < n) := by
  cases field with
  | skip => exact Or.inl ⟨rfl, Int.not_le.1 outside⟩
  | take =>
    refine Or.inr ?_
    by_cases below : n < 1
    · exact Or.inl ⟨rfl, below⟩
    · have above : ∃ most, maxTake = some most ∧ ¬ n ≤ most.toInt := by
        by_contra none
        exact outside ⟨by omega, by simpa using none⟩
      obtain ⟨most, found, above⟩ := above
      obtain ⟨m, least, rfl⟩ := bounded most found
      exact Or.inr ⟨rfl, m, found, least, Int.not_le.1 above⟩

/-! ## What becomes of a number -/

theorem exceededMaximum?_of_le (bounded : BoundsPages config.maxTake)
    (within : ∀ most, config.maxTake = some most → n ≤ most.toInt) :
    exceededMaximum? config n = none := by
  rw [exceededMaximum?, Option.filter_eq_none_iff]
  intro most found exceeded
  obtain ⟨m, -, rfl⟩ := bounded most found
  have le : n ≤ m := within _ found
  exact absurd (Bound.exceededBy_int.1 exceeded) (Int.not_lt.2 le)

/-- A number in range is taken as it is, under any policy. -/
theorem resolve_of_admits (bounded : BoundsPages config.maxTake)
    (admitted : field.Admits config.maxTake n) :
    field.resolve config (.int n) = .ok (some (.int n)) := by
  cases field with
  | skip =>
    have least : 0 ≤ n := admitted
    rw [resolve, resolveSkip, if_pos least]
    exact congrArg (fun m => Except.ok (some (Bound.int m))) (Int.toNat_of_nonneg least)
  | take =>
    obtain ⟨least, within⟩ := admitted
    rw [resolve, resolveTake, if_neg (Int.not_lt.2 least), exceededMaximum?_of_le bounded within]

theorem resolve_null (config : Config) (field : PageField) :
    field.resolve config .null = .ok field.standard := by cases field <;> rfl

/-- Whatever is no whole number is refused under any policy. -/
theorem resolve_of_other (config : Config) (field : PageField) {value : Value}
    (present : value ≠ .null) (noNumber : ∀ n, value ≠ .int n) :
    field.resolve config value = .error ⟨field, value, .notAnInteger⟩ := by
  cases value with
  | null => exact absurd rfl present
  | int n => exact absurd rfl (noNumber n)
  | _ => cases field <;> rfl

/-- A number out of range is refused, or the nearest in range takes its place. -/
theorem resolve_of_not_admits (bounded : BoundsPages config.maxTake)
    (outside : ¬ field.Admits config.maxTake n) :
    ∃ fault nearest, field.IsNearest config.maxTake n nearest ∧ field.resolve config (.int n) =
      match config.policy with
      | .reject => .error ⟨field, .int n, fault⟩
      | .clamp => .ok (some (.int nearest)) := by
  rcases not_admits_cases bounded outside with ⟨rfl, below⟩ | ⟨rfl, below⟩ |
    ⟨rfl, most, found, least, above⟩
  · -- fewer than no rows are to be skipped
    refine ⟨.below 0, 0, ⟨Int.le_refl 0, fun other admitted _ => ?_⟩, ?_⟩
    · have : 0 ≤ other := admitted
      omega
    · rw [resolve, resolveSkip, if_neg (Int.not_le.2 below)]
      cases config.policy <;> rfl
  · -- no row is to be taken; that one may be is what the bound leaves room for
    refine ⟨.below 1, 1, ⟨⟨Int.le_refl 1, fun most found => ?_⟩, fun other admitted _ => ?_⟩, ?_⟩
    · obtain ⟨m, least, rfl⟩ := bounded most found
      exact least
    · have := admitted.1
      omega
    · rw [resolve, resolveTake, if_pos below]
      cases config.policy <;> rfl
  · -- more rows are to be taken than a page may have
    refine ⟨.above (.int most), most, ⟨⟨least, fun bound there => ?_⟩, fun other admitted _ => ?_⟩,
      ?_⟩
    · rw [found] at there
      cases there
      exact Int.le_refl most
    · have : other ≤ most := admitted.2 _ found
      omega
    · have exceeded : exceededMaximum? config n = some (.int most) := by
        rw [exceededMaximum?, found, Option.filter_some, if_pos (Bound.exceededBy_int.2 above)]
      rw [resolve, resolveTake, if_neg (by omega), exceeded]
      cases config.policy <;> rfl

/-- All that can become of what is given for a number of a page. -/
inductive Resolves (config : Config) (field : PageField) :
    Value → Except PaginationError (Option Bound) → Prop
  | missing : Resolves config field .null (.ok field.standard)
  | inRange {n : Int} (admitted : field.Admits config.maxTake n) :
      Resolves config field (.int n) (.ok (some (.int n)))
  | rejected {n : Int} {fault : PageFault} (reject : config.policy = .reject) :
      Resolves config field (.int n) (.error ⟨field, .int n, fault⟩)
  | clamped {n nearest : Int} (clamp : config.policy = .clamp)
      (near : field.IsNearest config.maxTake n nearest) :
      Resolves config field (.int n) (.ok (some (.int nearest)))
  | noNumber {value : Value} (present : value ≠ .null) (noNumber : ∀ n, value ≠ .int n) :
      Resolves config field value (.error ⟨field, value, .notAnInteger⟩)

theorem resolves_of_resolve (bounded : BoundsPages config.maxTake) {value : Value}
    {result : Except PaginationError (Option Bound)}
    (resolved : field.resolve config value = result) : field.Resolves config value result := by
  subst resolved
  by_cases null : value = .null
  · rw [null, resolve_null]
    exact .missing
  by_cases whole : ∃ n, value = .int n
  · obtain ⟨n, rfl⟩ := whole
    by_cases admitted : field.Admits config.maxTake n
    · rw [resolve_of_admits bounded admitted]
      exact .inRange admitted
    · obtain ⟨fault, nearest, near, resolved⟩ := resolve_of_not_admits bounded admitted
      rw [resolved]
      cases policy : config.policy with
      | reject => exact .rejected policy
      | clamp => exact .clamped policy near
  · rw [resolve_of_other config field null (not_exists.1 whole)]
    exact .noNumber null (not_exists.1 whole)

end PageField

/-! ## The two policies -/

open PageField (IsNearest resolve_null resolve_of_admits resolve_of_other resolves_of_resolve)

/-- What a rejecting configuration and a clamping one have in common, for one of the numbers of a
page. -/
structure PoliciesAgree (rejecting clamping : Config) (field : PageField) : Prop where
  /-- What is not rejected is not moved either. -/
  kept : ∀ value number, field.resolve rejecting value = .ok number →
    field.resolve clamping value = .ok number
  /-- Clamping only refuses what is no whole number. -/
  refused : ∀ value, (∃ e, field.resolve clamping value = .error e) ↔
    value ≠ .null ∧ ∀ n, value ≠ .int n
  /-- A whole number is moved to the nearest in range, and that is not rejected. -/
  moved : ∀ n, ∃ nearest, IsNearest rejecting.maxTake field n nearest ∧
    field.resolve clamping (.int n) = .ok (some (.int nearest)) ∧
    field.resolve rejecting (.int nearest) = .ok (some (.int nearest))

theorem policiesAgree {rejecting clamping : Config} (reject : rejecting.policy = .reject)
    (clamp : clamping.policy = .clamp) (same : clamping.maxTake = rejecting.maxTake)
    (bounded : BoundsPages rejecting.maxTake) (field : PageField) :
    PoliciesAgree rejecting clamping field where
  kept value number resolved := by
    cases resolves_of_resolve bounded resolved with
    | missing => exact resolve_null clamping field
    | inRange admitted =>
      rw [← same] at bounded admitted
      exact resolve_of_admits bounded admitted
    | clamped clamp =>
      -- a rejecting configuration moves nothing
      rw [reject] at clamp
      cases clamp
  refused value := by
    constructor
    · rintro ⟨e, failed⟩
      cases resolves_of_resolve (same ▸ bounded) failed with
      | rejected reject =>
        rw [clamp] at reject
        cases reject
      | noNumber present noNumber => exact ⟨present, noNumber⟩
    · rintro ⟨present, noNumber⟩
      exact ⟨_, resolve_of_other clamping field present noNumber⟩
  moved n := by
    obtain ⟨result, resolved⟩ : ∃ result, field.resolve clamping (.int n) = result := ⟨_, rfl⟩
    rw [resolved]
    cases resolves_of_resolve (same ▸ bounded) resolved with
    | inRange admitted =>
      rw [same] at admitted
      exact ⟨n, .of_admits admitted, rfl, resolve_of_admits bounded admitted⟩
    | @clamped _ nearest _ near =>
      rw [same] at near
      exact ⟨nearest, near, rfl, resolve_of_admits bounded near.admitted⟩
    | rejected reject =>
      rw [clamp] at reject
      cases reject
    | noNumber _ noNumber => exact absurd rfl (noNumber n)

/-! ## Errors -/

/-- The error of a stage, if it fails. -/
def errorOf? {ε α : Type} : Except ε α → Option ε
  | .error e => some e
  | .ok _ => none

theorem errorOf?_eq_some_iff {ε α : Type} {r : Except ε α} {e : ε} :
    errorOf? r = some e ↔ r = .error e := by
  cases r <;> simp [errorOf?]

/-- What is wrong with a request: the errors of its stages, in the order in which they are run. -/
def stageErrors (config : Config) (graph : SortGraph) (args : QueryArgs) : List FindError :=
  ((errorOf? (resolveSkip config args.skip)).map .page).toList ++
    ((errorOf? (resolveTake config args.take)).map .page).toList ++
    ((errorOf? (graph.normalize args.order)).map .sort).toList

variable {config : Config} {graph : SortGraph} {request : Request} {args : QueryArgs}

/-- Where find options cannot be made, the first error of all is reported. -/
theorem value_assemble_eq_error_iff (asked : request.args? = some args) (e : FindError) :
    (assemble config (some graph) request).outcome.value = .error e ↔
      (stageErrors config graph args).head? = some e := by
  have first (fault : FindError) :
      (Except.error fault : Except FindError FindOptions) = .error e ↔ some fault = some e := by
    simp
  rw [value_assemble asked, stageErrors, resolveOrder]
  cases resolveSkip config args.skip with
  | error fault => exact first (.page fault)
  | ok skip =>
    cases resolveTake config args.take with
    | error fault => exact first (.page fault)
    | ok take =>
      cases order : graph.normalize args.order with
      | error fault => exact first (.sort fault)
      | ok normal =>
        -- what comes after the stages does not fail
        change (inferRelations normal >>= fun relations => pure _) = _ ↔ none = some e
        rw [inferRelations_eq order]
        constructor <;> intro impossible <;> cases impossible

/-- Where a number of a page is refused, the error tells which one, and what was given for it. -/
theorem exists_fault_of_resolve (bounded : BoundsPages config.maxTake) {field : PageField}
    {value : Value} {e : PaginationError} (refused : field.resolve config value = .error e) :
    ∃ fault, e = ⟨field, value, fault⟩ := by
  cases resolves_of_resolve bounded refused with
  | rejected => exact ⟨_, rfl⟩
  | noNumber => exact ⟨_, rfl⟩

/-- The errors of stages are about a number of the page or about the order. -/
theorem mem_stageErrors (bounded : BoundsPages config.maxTake) {e : FindError}
    (there : e ∈ stageErrors config graph args) :
    (∃ fault, e = .page ⟨.skip, args.skip, fault⟩) ∨
      (∃ fault, e = .page ⟨.take, args.take, fault⟩) ∨ ∃ fault, e = .sort fault := by
  simp only [stageErrors, List.mem_append, Option.mem_toList, Option.map_eq_some_iff,
    errorOf?_eq_some_iff] at there
  rcases there with (⟨fault, refused, rfl⟩ | ⟨fault, refused, rfl⟩) | ⟨fault, -, rfl⟩
  · have skip : PageField.skip.resolve config args.skip = .error fault := by
      rw [PageField.resolve, refused]
      rfl
    obtain ⟨fault, rfl⟩ := exists_fault_of_resolve bounded skip
    exact Or.inl ⟨fault, rfl⟩
  · obtain ⟨fault, rfl⟩ := @exists_fault_of_resolve _ bounded .take _ _ refused
    exact Or.inr (Or.inl ⟨fault, rfl⟩)
  · exact Or.inr (Or.inr ⟨fault, rfl⟩)

/-! ## Find options -/

/-- What a page takes is in range, unless it takes all. -/
theorem admits_of_resolveTake (bounded : BoundsPages config.maxTake) {value : Value}
    {take : Option Bound} (resolved : resolveTake config value = .ok take) :
    take = none ∨ ∃ n, take = some (.int n) ∧ PageField.take.Admits config.maxTake n := by
  cases @resolves_of_resolve _ .take bounded _ _ resolved with
  | missing => exact Or.inl rfl
  | inRange admitted => exact Or.inr ⟨_, rfl, admitted⟩
  | clamped _ near => exact Or.inr ⟨_, rfl, near.admitted⟩

/-- Pagination with a sort specification, under a configuration that bounds the rows of a page by a
whole number or not at all. Find options are made of a request unless one of its stages fails, and
then the first error is reported; it is about the number of rows to skip, the number of rows to
take, or the order. Otherwise the options skip and take what these stages come to, and what they
take is in range. Rejecting and clamping configurations with the same bound agree on the numbers of
a page. -/
theorem assemble_pages {values : ConfigValues} {config : Config}
    (made : Config.make values = .ok config)
    (whole : values.maxTake = .null ∨ ∃ n, values.maxTake = .int n) (graph : SortGraph)
    {request : Request} {args : QueryArgs} (asked : request.args? = some args) :
    (∀ e, (assemble config (some graph) request).outcome.value = .error e ↔
      (stageErrors config graph args).head? = some e) ∧
    (∀ e ∈ stageErrors config graph args, (∃ fault, e = .page ⟨.skip, args.skip, fault⟩) ∨
      (∃ fault, e = .page ⟨.take, args.take, fault⟩) ∨ ∃ fault, e = .sort fault) ∧
    (∀ options, (assemble config (some graph) request).outcome.value = .ok options →
      resolveSkip config args.skip = .ok options.skip ∧
      resolveTake config args.take = .ok options.take ∧
      (options.take = none ∨ ∃ n, options.take = some (.int n) ∧ 1 ≤ n ∧
        ∀ most, config.maxTake = some most → n ≤ most.toInt)) ∧
    ∀ rejecting clamping : Config, rejecting.policy = .reject → clamping.policy = .clamp →
      rejecting.maxTake = config.maxTake → clamping.maxTake = config.maxTake →
      ∀ field, PoliciesAgree rejecting clamping field := by
  have bounded := boundsPages_of_make made whole
  refine ⟨value_assemble_eq_error_iff asked, fun e => mem_stageErrors bounded, ?_, ?_⟩
  · intro options done
    obtain ⟨skipped, taken, -⟩ := (assemble_eq_ok_iff asked).1 done
    exact ⟨skipped, taken, admits_of_resolveTake bounded taken⟩
  · intro rejecting clamping reject clamp same same' field
    rw [← same] at bounded
    exact policiesAgree reject clamp (same'.trans same.symm) bounded field

/-- A page has five rows at most. -/
def fiveRows (policy : PaginationPolicy) : Config :=
  ⟨policy, some (.int 5), .bool true, .bool false, .int 64⟩

/-- Nine rows, in an order that is none. -/
def nineRows : Value :=
  .map [(.text "order", .map [(.text "title", .text "up")]), (.text "take", .int 9)]

/-- The rows are counted before the order is looked at. -/
theorem assemble_pages_nineRows :
    (assemble (fiveRows .reject) (some answeringNotes) (.raw nineRows)).outcome.value =
        .error (.page ⟨.take, .int 9, .above (.int 5)⟩) ∧
      PoliciesAgree (fiveRows .reject) (fiveRows .clamp) .take ∧
      PageField.take.resolve (fiveRows .clamp) (.int 9) = .ok (some (.int 5)) := by
  obtain ⟨errors, -, -, agree⟩ := @assemble_pages
    { ConfigValues.standard with maxTake := .int 5 } (fiveRows .reject) rfl (Or.inr ⟨5, rfl⟩)
    answeringNotes (.raw nineRows) _ rfl
  have agreed := agree (fiveRows .reject) (fiveRows .clamp) rfl rfl rfl rfl .take
  exact ⟨(errors _).2 rfl, agreed, rfl⟩

end ListQuery
