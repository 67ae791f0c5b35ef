import ListQuery.Find.Config

/-!
# Page bounds

A page skips some rows and takes some. Both numbers must be whole; under the
rejecting policy they must also lie in range, and under the clamping one they are
moved to the nearest number in range. What a page takes may be bounded by the
configuration, and the bound is then what a page that asks for more takes.

## Main definitions

* `resolveSkip` and `resolveTake` check the two numbers.
* `PaginationError` says why one is refused.
-/

namespace ListQuery

/-- The two numbers of a page. -/
inductive PageField
  | skip
  | take
  deriving DecidableEq

/-- The word of a number of a page. -/
def PageField.word : PageField → String
  | .skip => "skip"
  | .take => "take"

/-- What is wrong with a number of a page. -/
inductive PageFault
  | notAnInteger
  | below (least : Nat)
  | above (most : Bound)
  deriving DecidableEq

/-- Why a page is refused: which number, its value, and what is wrong with it. -/
structure PaginationError where
  field : PageField
  value : Value
  fault : PageFault
  deriving DecidableEq

/-- What is wrong with a page. -/
def PaginationError.message (e : PaginationError) : String :=
  let demand := match e.fault with
    | .notAnInteger => " must be an integer, got "
    | .below least => " must be >= " ++ toString least ++ ", got "
    | .above most => " must be <= " ++ most.literal ++ ", got "
  e.field.word ++ demand ++ e.value.literal

/-- The number of rows that a page skips. -/
def resolveSkip (config : Config) : Value → Except PaginationError Nat
  | .null => .ok 0
  | .int n =>
    if 0 ≤ n then .ok n.toNat
    else match config.policy with
      | .clamp => .ok 0
      | .reject => .error ⟨.skip, .int n, .below 0⟩
  | other => .error ⟨.skip, other, .notAnInteger⟩

/-- The bound of a configuration that a number of rows exceeds. -/
def exceededMaximum? (config : Config) (n : Int) : Option Bound :=
  config.maxTake.filter fun most => most.exceededBy n

/-- The number of rows that a page takes; nothing where it takes all. -/
def resolveTake (config : Config) : Value → Except PaginationError (Option Bound)
  | .null => .ok none
  | .int n =>
    if n < 1 then
      match config.policy with
      | .clamp => .ok (some (.int 1))
      | .reject => .error ⟨.take, .int n, .below 1⟩
    else match exceededMaximum? config n with
      | none => .ok (some (.int n))
      | some most =>
        match config.policy with
        | .clamp => .ok (some most)
        | .reject => .error ⟨.take, .int n, .above most⟩
  | other => .error ⟨.take, other, .notAnInteger⟩

end ListQuery
