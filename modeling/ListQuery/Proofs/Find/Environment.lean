import ListQuery.Proofs.Find.Pages
import ListQuery.Proofs.Number.Decimal

/-!
# Configurations in an environment

A configuration is read from five settings of an environment, whose names start with a text of its
own. A setting may be written in more than one way: there may be white space around a word or a
number, the letters of a word may be in any case, and a flag has several words. What is missing or
empty is not the same in every setting. A bound on the rows of a page is left out in either way, a
flag and a bound on depth are always there.

Each setting is read on its own. So it is enough to tell of each what its reader makes of it: where
it is written, just what was written; otherwise an error about its value, or a value of the right
sort. No other setting of the environment is looked at.

## Main definitions

* `Config.IsValid` holds of the configurations whose bounds leave room for one.
* `Config.IsWritten` says that the settings of an environment write down a configuration.
* `Config.Yields` holds of a result that is an error about a value or has a property.

## Main results

* `Config.make_values`: a valid configuration is made of its own values.
* `Config.ofEnvironment_of_isWritten`: what is written down is read.
* `Config.ofEnvironment_settings`: every valid configuration can be written down, under any start.
* `Config.yields_ofEnvironment`: nothing but valid configurations and errors about values is read.
* `Config.ofEnvironment_congr`: only the five settings matter.
* `Config.ofEnvironment_roundTrips` puts them together.
-/

namespace ListQuery

/-- An error is about which value is given, as against its sort. -/
def ConfigError.IsValueError : ConfigError → Prop
  | .bound (.notANumber _) => False
  | _ => True

namespace Config

variable {α β : Type} {config : Config} {text : String} {setting : Option String}

/-! ## Results -/

/-- A result is an error about a value, or has a property. -/
def Yields (p : α → Prop) (result : Except ConfigError α) : Prop :=
  (∃ e, result = .error e ∧ e.IsValueError) ∨ ∃ x, result = .ok x ∧ p x

theorem yields_ok {p : α → Prop} {x : α} (holds : p x) : Yields p (.ok x) :=
  Or.inr ⟨x, rfl, holds⟩

theorem yields_error {p : α → Prop} {e : ConfigError} (value : e.IsValueError) :
    Yields p (.error e) := Or.inl ⟨e, rfl, value⟩

theorem Yields.bind {p : α → Prop} {q : β → Prop} {result : Except ConfigError α}
    {next : α → Except ConfigError β} (first : Yields p result)
    (later : ∀ x, p x → Yields q (next x)) : Yields q (result >>= next) := by
  rcases first with ⟨e, rfl, value⟩ | ⟨x, rfl, holds⟩
  · exact yields_error value
  · exact later x holds

/-! ## Valid configurations -/

/-- The bounds of a configuration are whole numbers and leave room for one, and its flags are truth
values. -/
structure IsValid (config : Config) : Prop where
  maxTake : BoundsPages config.maxTake
  warnOnDiscarded : ∃ flag, config.warnOnDiscarded = .bool flag
  allowRaw : ∃ flag, config.allowRaw = .bool flag
  maxFilterDepth : ∃ n, 1 ≤ n ∧ config.maxFilterDepth = .int n

/-- The values of a configuration. -/
def values (config : Config) : ConfigValues where
  policy := .text config.policy.word
  maxTake := (config.maxTake.map Bound.toValue).getD .null
  warnOnDiscarded := config.warnOnDiscarded
  allowRaw := config.allowRaw
  maxFilterDepth := config.maxFilterDepth.toValue

theorem readBound_int (what : String) (n : Int) : readBound what (.int n) =
    if n < 1 then .error (.bound (.tooSmall what (.int n))) else .ok (.int n) := by
  rw [readBound, Bound.positive]
  simp only [Bound.ofValue?, Bound.exceededBy_int]
  split <;> rfl

/-- A valid configuration is made of its own values. -/
theorem make_values (valid : config.IsValid) : make config.values = .ok config := by
  have policy : readPolicy config.values.policy = .ok config.policy := by
    rw [readPolicy, values, PaginationPolicy.ofValue?, PaginationPolicy.ofWord?_word]
  have maxTake : readMaxTake config.values.maxTake = .ok config.maxTake := by
    cases most : config.maxTake with
    | none => rw [values, most]; rfl
    | some bound =>
      obtain ⟨n, least, rfl⟩ := valid.maxTake bound most
      rw [values, most]
      simp only [readMaxTake, Option.map_some, Option.getD_some, Bound.toValue, reduceCtorEq,
        if_false, readBound_int, if_neg (Int.not_lt.2 least)]
      rfl
  have maxDepth : readBound "max_filter_depth" config.values.maxFilterDepth =
      .ok config.maxFilterDepth := by
    obtain ⟨n, least, same⟩ := valid.maxFilterDepth
    rw [values, same, Bound.toValue, readBound_int, if_neg (Int.not_lt.2 least)]
  rw [make, policy, maxTake, maxDepth]
  rfl

theorem yields_readPolicy (value : Value) : Yields (fun _ => True) (readPolicy value) := by
  rw [readPolicy]
  split
  · exact yields_ok trivial
  · exact yields_error trivial

theorem yields_readBound (what : String) (n : Int) :
    Yields (fun bound => ∃ n, 1 ≤ n ∧ bound = .int n) (readBound what (.int n)) := by
  rw [readBound_int]
  split
  · exact yields_error trivial
  · next least => exact yields_ok ⟨n, Int.not_lt.1 least, rfl⟩

theorem yields_readMaxTake {value : Value} (given : value = .null ∨ ∃ n, value = .int n) :
    Yields BoundsPages (readMaxTake value) := by
  rcases given with rfl | ⟨n, rfl⟩
  · exact yields_ok nofun
  · rw [readMaxTake, if_neg Value.noConfusion]
    refine (yields_readBound "max_take" n).bind fun most least => yields_ok ?_
    rintro _ ⟨⟩
    exact least

/-- Whole numbers and truth values make a valid configuration, unless one of them is refused. -/
theorem yields_make {given : ConfigValues}
    (maxTake : given.maxTake = .null ∨ ∃ n, given.maxTake = .int n)
    (warnOnDiscarded : ∃ flag, given.warnOnDiscarded = .bool flag)
    (allowRaw : ∃ flag, given.allowRaw = .bool flag)
    (maxFilterDepth : ∃ n, given.maxFilterDepth = .int n) : Yields IsValid (make given) := by
  obtain ⟨depth, number⟩ := maxFilterDepth
  rw [make, number]
  refine (yields_readPolicy given.policy).bind fun policy _ => ?_
  refine (yields_readMaxTake maxTake).bind fun maxTake bounds => ?_
  refine (yields_readBound "max_filter_depth" depth).bind fun maxDepth least => ?_
  exact yields_ok ⟨bounds, warnOnDiscarded, allowRaw, least⟩

/-! ## What a setting yields -/

theorem yields_readPolicySetting (setting : Option String) :
    Yields (fun _ => True) (readPolicySetting setting) := by
  rw [readPolicySetting.eq_def]
  split
  · exact yields_ok trivial
  · exact yields_ok trivial
  · exact (yields_readPolicy _).bind fun policy _ => yields_ok trivial

theorem yields_readNumber (setting : Option String) (standard : Value) :
    Yields (fun value => value = standard ∨ ∃ n, value = .int n) (readNumber setting standard) := by
  rw [readNumber.eq_def]
  split
  · exact yields_ok (Or.inl rfl)
  · exact yields_ok (Or.inl rfl)
  · split
    · next n _ => exact yields_ok (Or.inr ⟨n, rfl⟩)
    · exact yields_error trivial

theorem yields_readFlag (setting : Option String) (standard : Bool) :
    Yields (fun _ => True) (readFlag setting standard) := by
  rw [readFlag.eq_def]
  split
  · exact yields_ok trivial
  · dsimp only
    split
    · exact yields_ok trivial
    · split
      · exact yields_ok trivial
      · exact yields_error trivial

/-- Every environment gives a valid configuration or an error about a value. -/
theorem yields_ofEnvironment (start : String) (settings : Ordered String String) :
    Yields IsValid (ofEnvironment start settings) := by
  refine (yields_readPolicySetting _).bind fun policy _ => ?_
  refine (yields_readNumber _ _).bind fun maxTake most => ?_
  refine (yields_readFlag _ _).bind fun warn _ => ?_
  refine (yields_readFlag _ _).bind fun raw _ => ?_
  refine (yields_readNumber _ _).bind fun maxDepth depth => ?_
  exact yields_make most ⟨warn, rfl⟩ ⟨raw, rfl⟩ (depth.elim (fun same => ⟨_, same⟩) id)

/-! ## Settings that write down a configuration -/

/-- The words for a flag. -/
def flagWords (flag : Bool) : List String := if flag then yesWords else noWords

/-- A text writes a flag: by any of the words for it. -/
def WritesFlag (flag : Value) (text : String) : Prop :=
  ∃ on, flag = .bool on ∧ ∃ word ∈ flagWords on, Spells text word

/-- A text writes a bound: a whole number, by its decimal digits with white space around them. -/
def WritesBound (bound : Bound) (text : String) : Prop :=
  ∃ n : Int, bound = .int n ∧ IsReadable n ∧ IsPadded (toString n).toList text

/-- A setting writes the bound on the rows of a page: it is missing or empty if there is none. -/
def WritesMaxTake : Option Bound → Option String → Prop
  | none, setting => setting = none ∨ setting = some ""
  | some bound, setting => ∃ text, setting = some text ∧ WritesBound bound text

/-- The settings whose names start with a given text write down a configuration, whatever other
settings there are. -/
structure IsWritten (config : Config) (start : String) (settings : Ordered String String) :
    Prop where
  policy : ∃ text, Ordered.find? (start ++ "PAGINATION_POLICY") settings = some text ∧
    Spells text config.policy.word
  maxTake : WritesMaxTake config.maxTake (Ordered.find? (start ++ "MAX_TAKE") settings)
  warnOnDiscarded :
    ∃ text, Ordered.find? (start ++ "WARN_ON_DISCARDED_OPERATORS") settings = some text ∧
      WritesFlag config.warnOnDiscarded text
  allowRaw : ∃ text, Ordered.find? (start ++ "ALLOW_RAW") settings = some text ∧
    WritesFlag config.allowRaw text
  maxFilterDepth : ∃ text, Ordered.find? (start ++ "MAX_FILTER_DEPTH") settings = some text ∧
    WritesBound config.maxFilterDepth text

theorem readPolicySetting_of_spells {policy : PaginationPolicy} (spells : Spells text policy.word) :
    readPolicySetting (some text) = .ok (.text policy.word) := by
  have plain : isAsciiWord policy.word = true := by cases policy <;> decide
  have filled : text ≠ "" := spells.ne_empty plain
  rw [readPolicySetting.eq_def]
  split
  · next missing => cases missing
  · next missing => exact absurd (Option.some.inj missing) filled
  · next same =>
    cases same
    rw [spells.lowerCase_strip plain, readPolicy, PaginationPolicy.ofValue?,
      PaginationPolicy.ofWord?_word]
    rfl

theorem readNumber_of_writesBound {bound : Bound} (writes : WritesBound bound text)
    (standard : Value) : readNumber (some text) standard = .ok bound.toValue := by
  obtain ⟨n, rfl, readable, padded⟩ := writes
  have filled : text ≠ "" := padded.ne_empty (toList_toString_ne_nil n)
  rw [readNumber.eq_def]
  split
  · next missing => cases missing
  · next missing => exact absurd (Option.some.inj missing) filled
  · next same =>
    cases same
    rw [readInt_of_isPadded readable padded]
    rfl

theorem readNumber_of_writesMaxTake {maxTake : Option Bound}
    (writes : WritesMaxTake maxTake setting) :
    readNumber setting .null = .ok ((maxTake.map Bound.toValue).getD .null) := by
  cases maxTake with
  | none => rcases writes with rfl | rfl <;> rfl
  | some bound =>
    obtain ⟨text, rfl, writes⟩ := writes
    exact readNumber_of_writesBound writes .null

theorem readFlag_of_mem {word : String} {on : Bool} (there : word ∈ flagWords on)
    (spells : Spells text word) (standard : Bool) : readFlag (some text) standard = .ok on := by
  have plain : ∀ on, ∀ word ∈ flagWords on, isAsciiWord word = true := by decide
  have yes : ∀ on, ∀ word ∈ flagWords on, yesWords.contains word = on := by decide
  have no : ∀ on, ∀ word ∈ flagWords on, noWords.contains word = !on := by decide
  rw [readFlag.eq_def]
  dsimp only
  rw [spells.lowerCase_strip (plain on word there), yes on word there, no on word there]
  cases on <;> rfl

/-- What is written down is read. -/
theorem ofEnvironment_of_isWritten {start : String} {settings : Ordered String String}
    (valid : config.IsValid) (written : config.IsWritten start settings) :
    ofEnvironment start settings = .ok config := by
  obtain ⟨policy, foundPolicy, policyWord⟩ := written.policy
  obtain ⟨warn, foundWarn, warns, sameWarn, warnWord, warnThere, warnSpelt⟩ :=
    written.warnOnDiscarded
  obtain ⟨raw, foundRaw, allows, sameRaw, rawWord, rawThere, rawSpelt⟩ := written.allowRaw
  obtain ⟨depth, foundDepth, depthWritten⟩ := written.maxFilterDepth
  have values : config.values = ⟨.text config.policy.word,
      (config.maxTake.map Bound.toValue).getD .null, .bool warns, .bool allows,
      config.maxFilterDepth.toValue⟩ := by
    rw [values, sameWarn, sameRaw]
  rw [ofEnvironment]
  dsimp only
  rw [foundPolicy, foundWarn, foundRaw, foundDepth, readPolicySetting_of_spells policyWord,
    readNumber_of_writesMaxTake written.maxTake, readFlag_of_mem warnThere warnSpelt,
    readFlag_of_mem rawThere rawSpelt, readNumber_of_writesBound depthWritten]
  exact (congrArg make values.symm).trans (make_values valid)

/-! ## The settings of a configuration -/

/-- The names of the settings of a configuration. -/
def settingNames : List String :=
  ["PAGINATION_POLICY", "MAX_TAKE", "WARN_ON_DISCARDED_OPERATORS", "ALLOW_RAW", "MAX_FILTER_DEPTH"]

/-- Only the settings of a configuration matter. -/
theorem ofEnvironment_congr {start : String} {settings others : Ordered String String}
    (same : ∀ name ∈ settingNames,
      Ordered.find? (start ++ name) settings = Ordered.find? (start ++ name) others) :
    ofEnvironment start settings = ofEnvironment start others := by
  simp only [settingNames, List.forall_mem_cons] at same
  obtain ⟨policy, maxTake, warn, raw, depth, -⟩ := same
  rw [ofEnvironment, ofEnvironment]
  dsimp only
  rw [policy, maxTake, warn, raw, depth]

/-- The text of a flag. -/
def flagText (flag : Value) : String := if flag.truthy then "true" else "false"

/-- The texts of a configuration by the names of its settings: in small letters, with no white
space. -/
def texts (config : Config) : Ordered String String :=
  [("PAGINATION_POLICY", config.policy.word),
   ("MAX_TAKE", (config.maxTake.map Bound.literal).getD ""),
   ("WARN_ON_DISCARDED_OPERATORS", flagText config.warnOnDiscarded),
   ("ALLOW_RAW", flagText config.allowRaw),
   ("MAX_FILTER_DEPTH", config.maxFilterDepth.literal)]

/-- The settings that write down a configuration. -/
def settings (config : Config) (start : String) : Ordered String String :=
  config.texts.map fun entry => (start ++ entry.1, entry.2)

theorem find?_start (start name : String) (entries : Ordered String String) :
    Ordered.find? (start ++ name) (entries.map fun entry => (start ++ entry.1, entry.2)) =
      Ordered.find? name entries := by
  have same (other : String) : (start ++ other == start ++ name) = (other == name) := by
    rw [Bool.eq_iff_iff, beq_iff_eq, beq_iff_eq]
    exact String.append_right_inj start
  induction entries with
  | nil => rfl
  | cons entry rest ih => rw [List.map_cons, Ordered.find?, Ordered.find?, same, ih]

theorem writesFlag_flagText (on : Bool) : WritesFlag (.bool on) (flagText (.bool on)) := by
  cases on with
  | false => exact ⟨false, rfl, "false", by decide, spells_self (by decide)⟩
  | true => exact ⟨true, rfl, "true", by decide, spells_self (by decide)⟩

theorem writesBound_literal {n : Int} (readable : IsReadable n) :
    WritesBound (.int n) (Bound.int n).literal := by
  have shown : (Bound.int n).literal = toString n := rfl
  rw [shown]
  exact ⟨n, rfl, readable, isPadded_self _⟩

/-- Under any start, a valid configuration is written down by its settings. -/
theorem isWritten_settings (valid : config.IsValid)
    (readable : ∀ n, config.maxTake = some (.int n) ∨ config.maxFilterDepth = .int n →
      IsReadable n) (start : String) : config.IsWritten start (config.settings start) := by
  obtain ⟨bounds, ⟨warns, sameWarn⟩, ⟨allows, sameRaw⟩, ⟨depth, -, sameDepth⟩⟩ := valid
  have found (name : String) :
      Ordered.find? (start ++ name) (config.settings start) = Ordered.find? name config.texts :=
    find?_start start name config.texts
  constructor
  · refine ⟨config.policy.word, found _, spells_self ?_⟩
    cases config.policy <;> decide
  · rw [found]
    cases most : config.maxTake with
    | none =>
      refine Or.inr ?_
      simp [texts, Ordered.find?, most]
    | some bound =>
      obtain ⟨n, -, rfl⟩ := bounds bound most
      refine ⟨(Bound.int n).literal, ?_, writesBound_literal (readable n (Or.inl most))⟩
      simp [texts, Ordered.find?, most]
  · refine ⟨_, (found _).trans rfl, ?_⟩
    rw [sameWarn]
    exact writesFlag_flagText warns
  · refine ⟨_, (found _).trans rfl, ?_⟩
    rw [sameRaw]
    exact writesFlag_flagText allows
  · refine ⟨_, (found _).trans rfl, ?_⟩
    rw [sameDepth]
    exact writesBound_literal (readable depth (Or.inr sameDepth))

/-- A valid configuration is read back from its settings. -/
theorem ofEnvironment_settings (valid : config.IsValid)
    (readable : ∀ n, config.maxTake = some (.int n) ∨ config.maxFilterDepth = .int n →
      IsReadable n) (start : String) :
    ofEnvironment start (config.settings start) = .ok config :=
  ofEnvironment_of_isWritten valid (isWritten_settings valid readable start)

/-! ## Round trip -/

/-- A valid configuration is read from the settings that write it down, with white space around
words and numbers, letters of any case and any words for the flags. No setting matters but the five
of the given start. And whatever the environment is, a valid configuration is read from it, or there
is an error about a value. -/
theorem ofEnvironment_roundTrips (start : String) (settings : Ordered String String) :
    (∀ config : Config, config.IsValid → config.IsWritten start settings →
      ofEnvironment start settings = .ok config) ∧
    (∀ others : Ordered String String, (∀ name ∈ settingNames,
        Ordered.find? (start ++ name) settings = Ordered.find? (start ++ name) others) →
      ofEnvironment start settings = ofEnvironment start others) ∧
    ((∃ e, ofEnvironment start settings = .error e ∧ e.IsValueError) ∨
      ∃ config, ofEnvironment start settings = .ok config ∧ config.IsValid) :=
  ⟨fun _ valid written => ofEnvironment_of_isWritten valid written,
    fun _ same => ofEnvironment_congr same, yields_ofEnvironment start settings⟩

/-- Pages of up to 250 rows. -/
def clampedConfig : Config where
  policy := .clamp
  maxTake := some (.int 250)
  warnOnDiscarded := .bool false
  allowRaw := .bool true
  maxFilterDepth := .int 18446744073709551616

/-- Settings with white space and capitals, among others. One of these has the name of a setting
without its start. -/
def clampedSettings : Ordered String String :=
  [("HOME", "/home/app"), ("APP_PAGINATION_POLICY", "\tCLamp\n"), ("APP_MAX_TAKE", " 250\x0b"),
   ("ALLOW_RAW", "maybe"), ("APP_WARN_ON_DISCARDED_OPERATORS", "  oFF"), ("APP_ALLOW_RAW", "Y\r"),
   ("APP_MAX_FILTER_DEPTH", "18446744073709551616\x0c")]

theorem clampedConfig_isValid : clampedConfig.IsValid where
  maxTake := by
    rintro most ⟨⟩
    exact ⟨250, by decide, rfl⟩
  warnOnDiscarded := ⟨false, rfl⟩
  allowRaw := ⟨true, rfl⟩
  maxFilterDepth := ⟨18446744073709551616, by decide, rfl⟩

theorem clampedConfig_isWritten : clampedConfig.IsWritten "APP_" clampedSettings where
  policy := ⟨_, rfl, "CLamp".toList, ⟨['\t'], ['\n'], by decide⟩, by decide⟩
  maxTake := ⟨_, rfl, 250, rfl, by decide, [' '], ['\x0b'], by decide⟩
  warnOnDiscarded :=
    ⟨_, rfl, false, rfl, "off", by decide, "oFF".toList, ⟨[' ', ' '], [], by decide⟩, by decide⟩
  allowRaw := ⟨_, rfl, true, rfl, "y", by decide, "Y".toList, ⟨[], ['\r'], by decide⟩, by decide⟩
  maxFilterDepth := ⟨_, rfl, 18446744073709551616, rfl, by decide, [], ['\x0c'], by decide⟩

theorem ofEnvironment_roundTrips_clamped :
    clampedConfig.IsValid ∧ clampedConfig.IsWritten "APP_" clampedSettings ∧
      ofEnvironment "APP_" clampedSettings = .ok clampedConfig ∧
      ofEnvironment "APP_" clampedSettings =
        ofEnvironment "APP_"
          (clampedSettings.filter fun entry => !(["HOME", "ALLOW_RAW"].contains entry.1)) := by
  obtain ⟨reads, isolated, -⟩ := ofEnvironment_roundTrips "APP_" clampedSettings
  exact ⟨clampedConfig_isValid, clampedConfig_isWritten,
    reads _ clampedConfig_isValid clampedConfig_isWritten, isolated _ (by decide)⟩

end Config

end ListQuery
