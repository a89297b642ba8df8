import RouteAudit.Config.Settings
import RouteAudit.Data.Calendar
import RouteAudit.Data.Display
import RouteAudit.Number.Numeral

/-! # Loading settings

`Settings.ofValue` reads settings from a value and `Settings.ofEnvironment` from the variables of
the environment. What can go wrong is a `ConfigError`; a few faults are no configuration errors
proper but failures of a conversion, and `ConfigError.isReported` tells them apart. -/

namespace RouteAudit

/-! ### Causes of failure -/

/-- Why a value is no number. -/
inductive NumberError where
  | badInteger (text : String)
  | badFloat (text : String)
  | notInteger (kind : String)
  | notFloat (kind : String)
  | integerOfNan
  | tooManyDigits (count : Nat)
deriving DecidableEq, Repr

/-- A text in quotes, cut off when it is very long. -/
def quotedShort (s : String) : String := Text.take 200 (Text.quoted s)

def NumberError.message : NumberError → String
  | badInteger s => "invalid literal for int() with base 10: " ++ quotedShort s
  | badFloat s => "could not convert string to float: " ++ Text.quoted s
  | notInteger kind =>
    "int() argument must be a string, a bytes-like object or a real number, not '" ++ kind ++ "'"
  | notFloat kind => "float() argument must be a string or a real number, not '" ++ kind ++ "'"
  | integerOfNan => "cannot convert float NaN to integer"
  | tooManyDigits count => Numeral.lengthMessage count

/-- Why settings could not be loaded. -/
inductive ConfigError where
  | rootNotMapping
  | rulesNotMapping
  | badSuppression (entry : Value)
  | notTexts (key : String)
  | badNumber (e : NumberError)
  | badVariable (e : NumberError)
  | unreadable (path reason : String)
  | malformed (path reason : String)
  /-- A date that is none. -/
  | badDate (e : CalendarError)
  /-- The suppressions are a value that has no entries. -/
  | notIterable (kind : String)
  /-- A number beyond all integers is asked for as an integer. -/
  | integerOfInfinity
  /-- An integer lies beyond the range of floating point numbers. -/
  | integerTooLarge
  /-- An integer has too many digits to be written. -/
  | integerTooLong
deriving Repr

namespace ConfigError

/-- The error is reported as one of the configuration. -/
def isReported : ConfigError → Bool
  | badDate _ => false
  | notIterable _ => false
  | integerOfInfinity => false
  | integerTooLarge => false
  | integerTooLong => false
  | _ => true

def message : ConfigError → String
  | rootNotMapping => "Config root must be a mapping"
  | rulesNotMapping => "'rules' must be a mapping with 'enabled' / 'disabled' lists"
  | badSuppression entry => "Invalid suppression entry: " ++ entry.quoted
  | notTexts key => "'" ++ key ++ "' must be a list of strings"
  | badNumber e => "Invalid numeric setting: " ++ e.message
  | badVariable e => "Invalid APIPOSTURE_* environment value: " ++ e.message
  | unreadable path reason => "Cannot read config file " ++ path ++ ": " ++ reason
  | malformed path reason => "Malformed config file " ++ path ++ ": " ++ reason
  | badDate e => e.message
  | notIterable kind => "'" ++ kind ++ "' object is not iterable"
  | integerOfInfinity => "cannot convert float infinity to integer"
  | integerTooLarge => "int too large to convert to float"
  | integerTooLong =>
    "Exceeds the limit (4300 digits) for integer string conversion; " ++
      "use sys.set_int_max_str_digits() to increase the limit"

end ConfigError

namespace Settings

/-! ### Texts -/

/-- The value under a key, unless it is missing or counts as unset. -/
def setValue? (key : String) (entries : List (Value × Value)) : Option Value :=
  match Value.lookup key entries with
  | some v => if v.isSet then some v else none
  | none => none

/-- The text of a value. -/
def textOf (v : Value) : Except ConfigError String :=
  if v.isWritable then .ok v.display else .error .integerTooLong

/-- A list of texts under a key: one text counts as a list, and a missing one as the empty list. -/
def textsAt (key : String) (entries : List (Value × Value)) : Except ConfigError (List String) :=
  match Value.lookup key entries with
  | none => .ok []
  | some .null => .ok []
  | some (.text s) => .ok [s]
  | some (.list items) => items.mapM textOf
  | some _ => .error (.notTexts key)

/-- The text of a value under a key, or another text when it is unset. -/
def displayAt (key otherwise : String) (entries : List (Value × Value)) :
    Except ConfigError String :=
  match setValue? key entries with
  | some v => textOf v
  | none => .ok otherwise

/-! ### Numbers -/

/-- The integer that a text spells. -/
def integerOfText (s : String) : Except NumberError Int :=
  if 4300 < Numeral.digitCount s then .error (.tooManyDigits (Numeral.digitCount s))
  else match Numeral.readInt? s with
    | some n => .ok n
    | none => .error (.badInteger s)

/-- The integer that a value stands for. -/
def integerOf : Value → Except ConfigError Int
  | .bool b => .ok (if b then 1 else 0)
  | .int n => .ok n
  | .float .nan => .error (.badNumber .integerOfNan)
  | .float (.infinite _) => .error .integerOfInfinity
  | .float x => .ok (x.truncate?.getD 0)
  | .text s => (integerOfText s).mapError .badNumber
  | v => .error (.badNumber (.notInteger v.kindName))

/-- An integer as a floating point number. -/
def floatOfInteger (n : Int) : Except ConfigError Binary64 :=
  match Binary64.ofInt n with
  | .infinite _ => .error .integerTooLarge
  | x => .ok x

/-- The floating point number that a value stands for. -/
def floatOf : Value → Except ConfigError Binary64
  | .bool b => .ok (.ofNat (if b then 1 else 0))
  | .int n => floatOfInteger n
  | .float x => .ok x
  | .text s =>
    match Numeral.readFloat? s with
    | some x => .ok x
    | none => .error (.badNumber (.badFloat s))
  | v => .error (.badNumber (.notFloat v.kindName))

/-- A number under a key, or another when it is missing. -/
def numberAt {α : Type} (read : Value → Except ConfigError α) (key : String) (otherwise : α)
    (entries : List (Value × Value)) : Except ConfigError α :=
  match Value.lookup key entries with
  | none => .ok otherwise
  | some .null => .ok otherwise
  | some v => read v

/-! ### Suppressions -/

/-- The complaint about an entry that is no suppression has to quote the entry. -/
def refusal (entry : Value) : ConfigError :=
  if entry.isWritable then .badSuppression entry else .integerTooLong

/-- A suppression is a mapping that names a rule. -/
def suppressionOf (entry : Value) : Except ConfigError Suppression :=
  match entry with
  | .map entries =>
    match setValue? "rule" entries with
    | some v => do
      let rule ← textOf v
      let route ← displayAt "route" "" entries
      let reason ← displayAt "reason" "" entries
      return ⟨rule, route, reason⟩
    | none => .error (refusal entry)
  | _ => .error (refusal entry)

/-- What a value lists when it is gone through: the items of a list, the characters of a text, the
keys of a mapping. -/
def elementsOf : Value → Except ConfigError (List Value)
  | .list items => .ok items
  | .text s => .ok (s.toList.map fun c => .text (String.singleton c))
  | .map entries => .ok (entries.map (·.1))
  | v => .error (.notIterable v.kindName)

def suppressionsAt (entries : List (Value × Value)) : Except ConfigError (List Suppression) :=
  match setValue? "suppressions" entries with
  | none => .ok []
  | some v => do (← elementsOf v).mapM suppressionOf

/-! ### Whole settings -/

/-- The mapping with the lists of enabled and disabled rules. -/
def rulesAt (entries : List (Value × Value)) : Except ConfigError (List (Value × Value)) :=
  match setValue? "rules" entries with
  | none => .ok []
  | some (.map rules) => .ok rules
  | some _ => .error .rulesNotMapping

/-- The settings that a value gives; what it leaves out has its standard value. -/
def ofValue (v : Value) : Except ConfigError Settings :=
  match v with
  | .map entries => do
    let rules ← rulesAt entries
    let suppressions ← suppressionsAt entries
    let included ← textsAt "include" entries
    let enabledRules ← textsAt "enabled" rules
    let disabledRules ← textsAt "disabled" rules
    let authPatterns ← textsAt "auth_patterns" entries
    let minSeverity ← displayAt "min_severity" "info" entries
    let standard : Settings := {}
    let excluded ←
      if (Value.lookup "exclude" entries).isSome then textsAt "exclude" entries
      else .ok standard.excluded
    let workers ← numberAt integerOf "parallel_workers" standard.workers entries
    let timeout ← numberAt integerOf "timeout_seconds" standard.timeout entries
    let sizeLimit ← numberAt (fun v => SizeLimit.exact <$> floatOf v) "max_file_size_mb"
      standard.sizeLimit entries
    return {
      included := if included.isEmpty then standardIncluded else included
      excluded, sizeLimit, enabledRules, disabledRules, suppressions, authPatterns, minSeverity
      workers, timeout }
  | _ => .error .rootNotMapping

/-! ### The environment -/

/-- The nonempty parts between commas, without the blanks around them. -/
def splitList (s : String) : List String :=
  ((Text.split ',' s).map (Text.trim Text.isBlank)).filter fun p => !p.isEmpty

/-- The settings that variables of the environment give. -/
def ofEnvironment (environment : List (String × String)) : Except ConfigError Settings := do
  let get (name : String) : Option String := environment.lookup ("APIPOSTURE_" ++ name)
  let integer (name : String) (otherwise : Int) : Except ConfigError Int :=
    match get name with
    | none => .ok otherwise
    | some s => (integerOfText s).mapError .badVariable
  let list (name : String) : List String := splitList ((get name).getD "")
  let standard : Settings := {}
  let size ← match get "MAX_FILE_SIZE" with
    | none => .ok standard.sizeLimit.megabytes
    | some s =>
      match Numeral.readFloat? s with
      | some x => .ok x
      | none => .error (.badVariable (.badFloat s))
  let workers ← integer "WORKERS" standard.workers
  let timeout ← integer "TIMEOUT" standard.timeout
  return {
    sizeLimit := .exact size
    workers, timeout
    minSeverity := (get "MIN_SEVERITY").getD "info"
    enabledRules := list "ENABLED_RULES"
    disabledRules := list "DISABLED_RULES"
    authPatterns := list "AUTH_PATTERNS" }

end Settings

end RouteAudit
