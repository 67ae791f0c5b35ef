import ListQuery.Filter.Compile
import ListQuery.Number.Numeral
import ListQuery.Text.LowerCase

/-!
# Configuration

A configuration says what is done with page bounds that are out of range, how many
rows a page may have at most, how filters are compiled, and whether raw expressions
may go into queries. It is given by values or read from an environment of settings.

## Main definitions

* `Config` is a configuration, `Config.standard` the one where nothing is chosen.
* `Config.make` checks the values of a configuration.
* `Config.ofEnvironment` reads a configuration from texts under prefixed names.
-/

namespace ListQuery

/-- What is done with page bounds that are out of range. -/
inductive PaginationPolicy
  | reject
  | clamp
  deriving DecidableEq

namespace PaginationPolicy

/-- The word of a policy. -/
def word : PaginationPolicy → String
  | .reject => "reject"
  | .clamp => "clamp"

/-- The policy of a word. -/
def ofWord? (s : String) : Option PaginationPolicy :=
  if s = "reject" then some .reject else if s = "clamp" then some .clamp else none

/-- The policy that a value names. -/
def ofValue? : Value → Option PaginationPolicy
  | .text s => ofWord? s
  | _ => none

@[simp]
theorem ofWord?_word (policy : PaginationPolicy) : ofWord? policy.word = some policy := by
  cases policy <;> rfl

end PaginationPolicy

/-- A configuration. The two flags are kept as they were given and count as truth values. -/
structure Config where
  policy : PaginationPolicy
  maxTake : Option Bound
  warnOnDiscarded : Value
  allowRaw : Value
  maxFilterDepth : Bound
  deriving DecidableEq

/-- The values that a configuration is made of. -/
structure ConfigValues where
  policy : Value
  maxTake : Value
  warnOnDiscarded : Value
  allowRaw : Value
  maxFilterDepth : Value
  deriving DecidableEq

/-- Why a configuration is refused. -/
inductive ConfigError
  | policy (value : Value)
  | bound (e : Bound.Error)
  | flag (text : String)
  | numeral (text : String) (e : NumeralError)
  deriving DecidableEq

/-- What is wrong with a configuration. -/
def ConfigError.message : ConfigError → String
  | .policy value => value.literal ++ " is not a valid PaginationPolicy"
  | .bound e => e.message
  | .flag text => "Invalid boolean setting: " ++ quoted text
  | .numeral text e => e.message text

namespace ConfigValues

/-- The values where nothing is chosen. -/
def standard : ConfigValues where
  policy := .text PaginationPolicy.reject.word
  maxTake := .null
  warnOnDiscarded := .bool true
  allowRaw := .bool false
  maxFilterDepth := Filter.defaultMaxDepth.toValue

/-- The values of a configuration by their names. -/
def ofEntries (entries : Ordered String Value) : ConfigValues where
  policy := (Ordered.find? "pagination_policy" entries).getD standard.policy
  maxTake := (Ordered.find? "max_take" entries).getD standard.maxTake
  warnOnDiscarded :=
    (Ordered.find? "warn_on_discarded_operators" entries).getD standard.warnOnDiscarded
  allowRaw := (Ordered.find? "allow_raw" entries).getD standard.allowRaw
  maxFilterDepth := (Ordered.find? "max_filter_depth" entries).getD standard.maxFilterDepth

/-- The names of the values of a configuration. -/
def names : List String :=
  ["pagination_policy", "max_take", "warn_on_discarded_operators", "allow_raw",
   "max_filter_depth"]

end ConfigValues

namespace Config

/-- The policy that a value names. -/
def readPolicy (value : Value) : Except ConfigError PaginationPolicy :=
  match PaginationPolicy.ofValue? value with
  | some policy => .ok policy
  | none => .error (.policy value)

/-- A bound that must be at least one. -/
def readBound (what : String) (value : Value) : Except ConfigError Bound :=
  (Bound.positive what value).mapError .bound

/-- The bound on the rows of a page, which may be missing. -/
def readMaxTake (value : Value) : Except ConfigError (Option Bound) :=
  if value = .null then .ok none else some <$> readBound "max_take" value

/-- Makes a configuration of values. -/
def make (values : ConfigValues) : Except ConfigError Config := do
  let policy ← readPolicy values.policy
  let maxTake ← readMaxTake values.maxTake
  let maxFilterDepth ← readBound "max_filter_depth" values.maxFilterDepth
  pure ⟨policy, maxTake, values.warnOnDiscarded, values.allowRaw, maxFilterDepth⟩

/-- The configuration where nothing is chosen. -/
def standard : Config := ⟨.reject, none, .bool true, .bool false, Filter.defaultMaxDepth⟩

/-- How filters are compiled under a configuration. -/
def filterSettings (config : Config) : Filter.Settings :=
  ⟨config.warnOnDiscarded.truthy, config.maxFilterDepth⟩

/-- Whether raw expressions may go into a query: where the query or the configuration allows
them. -/
def admitsRaw (config : Config) (allowRaw : Bool) : Bool := allowRaw || config.allowRaw.truthy

/-! ## Settings in an environment -/

/-- The words for yes. -/
def yesWords : List String := ["1", "true", "t", "yes", "y", "on"]

/-- The words for no. -/
def noWords : List String := ["0", "false", "f", "no", "n", "off"]

/-- The flag that a setting gives; a missing setting leaves it as it is. -/
def readFlag (setting : Option String) (standard : Bool) : Except ConfigError Bool :=
  match setting with
  | none => .ok standard
  | some text =>
    let word := lowerCase (strip text)
    if yesWords.contains word then .ok true
    else if noWords.contains word then .ok false
    else .error (.flag text)

/-- The number that a setting gives; a missing or empty setting leaves it as it is. -/
def readNumber (setting : Option String) (standard : Value) : Except ConfigError Value :=
  match setting with
  | none | some "" => .ok standard
  | some text =>
    match readInt text with
    | .ok n => .ok (.int n)
    | .error e => .error (.numeral text e)

/-- The policy that a setting gives; a missing or empty setting leaves it as it is. -/
def readPolicySetting (setting : Option String) : Except ConfigError Value :=
  match setting with
  | none | some "" => .ok ConfigValues.standard.policy
  | some text => do
    let policy ← readPolicy (.text (lowerCase (strip text)))
    pure (.text policy.word)

/-- Reads a configuration from settings whose names start with a given text. -/
def ofEnvironment (start : String) (settings : Ordered String String) :
    Except ConfigError Config := do
  let setting (name : String) : Option String := Ordered.find? (start ++ name) settings
  let policy ← readPolicySetting (setting "PAGINATION_POLICY")
  let maxTake ← readNumber (setting "MAX_TAKE") .null
  let warn ← readFlag (setting "WARN_ON_DISCARDED_OPERATORS") true
  let raw ← readFlag (setting "ALLOW_RAW") false
  let maxDepth ← readNumber (setting "MAX_FILTER_DEPTH") Filter.defaultMaxDepth.toValue
  make ⟨policy, maxTake, .bool warn, .bool raw, maxDepth⟩

end Config

end ListQuery
