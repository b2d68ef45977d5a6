import TokyoTester.Tests.Rows

set_option autoImplicit false

/-! # Reading executor configurations (`pkg/test/helpers.go`)

An executor reads its configuration out of a `map[string]any`, under a key in snake case or its
alias in camel case, and converts what it finds. Floating point, the formatting of values and the
network addresses are Go's: what is used of them is a parameter. -/

namespace TokyoTester

/-- A parsed URL, as far as it is used: its host with and without the port, its text with another
    host, and its text without the user. -/
structure Url where
  host : String
  hostname : String
  port : String
  text : String → String
  anonymous : String

/-- What the executors use of Go's libraries. -/
structure Libraries where
  /-- `fmt.Sprintf("%v", value)`. -/
  sprint : ConfigValue → String
  /-- The integer that a text is when it is read as a `float64`. -/
  integralFloat : String → Option Int64
  /-- A `float64`, given by its JSON literal, as `strconv.FormatFloat` writes it. -/
  formatFloat : String → String
  /-- Both values are numbers, or texts of numbers, that are equal as `float64`. -/
  sameFloat : ConfigValue → ConfigValue → Bool
  /-- `reflect.DeepEqual` of two values read from JSON. -/
  deepEqual : Json → Json → Bool
  /-- `url.Parse`. -/
  parseURL : String → Except String Url
  /-- `net.SplitHostPort`. -/
  splitHostPort : String → Except String (String × String)
  /-- `net.ParseIP` finds a loopback or unspecified address. -/
  isLoopback : String → Bool
  /-- `http.NewRequestWithContext` on a method and a URL. -/
  newRequest : String → String → Except String Unit
  /-- The numbers and texts of expected results. -/
  formats : Formats

/-- An executor configuration. -/
abbrev Config := GoMap ConfigValue

/-- `cfg[key]`. -/
def Config.value (cfg : Config) (key : String) : ConfigValue := (cfg.get? key).getD .nil

namespace ConfigValue

/-- `%T`. -/
def goType : ConfigValue → String
  | nil => "<nil>"
  | string _ => "string"
  | int _ => "int"
  | bool _ => "bool"
  | strings _ => "map[string]string"
  | document _ => "map[string]interface \x7b\x7d"
  | documents _ => "[]map[string]interface \x7b\x7d"
  | any v =>
    match v.json with
    | .num _ => "float64"
    | .arr _ => "[]interface \x7b\x7d"
    | _ => "map[string]interface \x7b\x7d"

/-- The type assertion `value.(string)`. -/
def text? : ConfigValue → Option String
  | string s => some s
  | _ => none

/-- The text of a value's JSON. -/
def marshal (value : ConfigValue) : String :=
  Json.marshal ((value.print.map (·.json)).getD .null)

/-- `value != nil`. -/
def present? : ConfigValue → Option ConfigValue
  | nil => none
  | value => some value

theorem present?_eq_some {value : ConfigValue} (h : value ≠ nil) : value.present? = some value := by
  cases value with
  | nil => exact absurd rfl h
  | _ => rfl

end ConfigValue

/-- The loop of `snakeToLowerCamel`. -/
def lowerCamelChars : Bool → List Char → List Char
  | _, [] => []
  | upperNext, c :: cs =>
    if c = '_' then lowerCamelChars true cs
    else (if upperNext then Text.upperChar c else c) :: lowerCamelChars false cs

def snakeToLowerCamel (key : String) : String := String.ofList (lowerCamelChars false key.toList)

def numericBool (value : String) : Option Bool :=
  if value = "0" then some false else if value = "1" then some true else none

/-- `strconv.ParseBool`. -/
def parseBool (s : String) : Option Bool :=
  if ["1", "t", "T", "true", "TRUE", "True"].contains s then some true
  else if ["0", "f", "F", "false", "FALSE", "False"].contains s then some false
  else none

section Helpers

variable (lib : Libraries)

def boolValue : ConfigValue → Option Bool
  | .bool b => some b
  | .string s => parseBool (Text.trimSpace s)
  | .int n => numericBool (Text.decimal n.toInt)
  | .any v =>
    match v.json with
    | .num literal => numericBool (lib.formatFloat literal)
    | _ => none
  | _ => none

def parseIntegerString (value : String) : Option Int64 :=
  match Text.atoi value with
  | some n => some (Int64.ofInt n)
  | none => lib.integralFloat value

def int64Value : ConfigValue → Option Int64
  | .int n => some n
  | .string s => parseIntegerString lib (Text.trimSpace s)
  | .any v =>
    match v.json with
    | .num literal => lib.integralFloat literal
    | _ => none
  | _ => none

def equivalentConfigValues (left right : ConfigValue) : Bool :=
  (left.goType = right.goType && left.marshal = right.marshal) || lib.sameFloat left right ||
    match boolValue lib left, boolValue lib right with
    | some l, some r => l = r
    | _, _ => false

def lookupConfigValue (cfg : Config) (key : String) : Except String (Option ConfigValue) :=
  let aliasKey := snakeToLowerCamel key
  match (cfg.value key).present?, (cfg.value aliasKey).present? with
  | some canonical, some aliased =>
    if equivalentConfigValues lib canonical aliased then .ok (some canonical)
    else .error ("conflicting values for " ++ Text.quote key ++ " and " ++ Text.quote aliasKey)
  | some canonical, none => .ok (some canonical)
  | none, aliased => .ok aliased

def getStringOrDefault (cfg : Config) (key defaultValue : String) : Except String String := do
  match ← lookupConfigValue lib cfg key with
  | none => .ok defaultValue
  | some (.string s) => .ok s
  | some (.int n) => .ok (Text.decimal n.toInt)
  | some (.any v) =>
    match v.json with
    | .num literal => .ok (lib.formatFloat literal)
    | _ => .error (key ++ " must be a string or number, got " ++ (ConfigValue.any v).goType)
  | some value => .error (key ++ " must be a string or number, got " ++ value.goType)

/-- The error of a value that is not of the type that its key asks for. -/
def wrongType (key expected : String) (value : ConfigValue) : String :=
  key ++ " must be " ++ expected ++ ", got " ++ lib.sprint value ++ " (" ++ value.goType ++ ")"

def getIntOrDefault (cfg : Config) (key : String) (defaultValue : Int64) : Except String Int64 := do
  match ← lookupConfigValue lib cfg key with
  | none => .ok defaultValue
  | some value =>
    match int64Value lib value with
    | some n => .ok n
    | none => .error (wrongType lib key "an integer" value)

def getInt64Config (cfg : Config) (key : String) : Except String (Option Int64) := do
  match ← lookupConfigValue lib cfg key with
  | none => .ok none
  | some value =>
    match int64Value lib value with
    | some n => .ok (some n)
    | none => .error (wrongType lib key "an integer" value)

def getBoolOrDefault (cfg : Config) (key : String) (defaultValue : Bool) : Except String Bool := do
  match ← lookupConfigValue lib cfg key with
  | none => .ok defaultValue
  | some value =>
    match boolValue lib value with
    | some b => .ok b
    | none => .error (wrongType lib key "a boolean" value)

/-- One entry of a `map[string]any` in `getStringMap`. -/
def stringEntry (key : String) (entry : String × Json) : Except String (String × String) :=
  match entry.2 with
  | .str s => .ok (entry.1, s)
  | j => .error (key ++ "." ++ entry.1 ++ " must be a string, got " ++
      ((Codec.readAny j).map fun v => (ConfigValue.ofAny v).goType).getD "<nil>")

def getStringMap (cfg : Config) (key : String) : Except String (GoMap String) := do
  let wrong (value : ConfigValue) : Except String (GoMap String) :=
    .error (key ++ " must be an object with string values, got " ++ value.goType)
  match ← lookupConfigValue lib cfg key with
  | none => .ok .empty
  | some (.strings m) => .ok m
  | some (.document m) =>
    (m.entries.mapM fun e => stringEntry key (e.1, Codec.any.encode e.2)).map GoMap.ofList
  | some (.any v) =>
    match v.json with
    | .obj members => (members.mapM (stringEntry key)).map GoMap.ofList
    | _ => wrong (.any v)
  | some value => wrong value

/-! ## Configurations as they are built

A built configuration has its values under the keys in snake case only, so a value is found as it
was put. -/

/-- A key and its alias do not contradict each other. -/
def Unaliased (cfg : Config) (key : String) : Prop :=
  snakeToLowerCamel key = key ∨ cfg.value (snakeToLowerCamel key) = .nil

variable {cfg : Config} {key : String} {lib}

theorem equivalentConfigValues_self (value : ConfigValue) :
    equivalentConfigValues lib value value = true := by
  simp [equivalentConfigValues]

theorem lookupConfigValue_eq (h : Unaliased cfg key) :
    lookupConfigValue lib cfg key = .ok (cfg.value key).present? := by
  unfold lookupConfigValue
  dsimp only
  rcases h with h | h
  · rw [h]
    cases hvalue : (cfg.value key).present? with
    | none => rfl
    | some value => simp [equivalentConfigValues_self]
  · rw [h]
    cases (cfg.value key).present? with
    | none => rfl
    | some value => rfl

theorem getStringOrDefault_string {s defaultValue : String} (h : Unaliased cfg key)
    (hvalue : cfg.value key = .string s) : getStringOrDefault lib cfg key defaultValue = .ok s := by
  unfold getStringOrDefault
  rw [lookupConfigValue_eq h, hvalue]
  rfl

theorem getIntOrDefault_int {n defaultValue : Int64} (h : Unaliased cfg key)
    (hvalue : cfg.value key = .int n) : getIntOrDefault lib cfg key defaultValue = .ok n := by
  unfold getIntOrDefault
  rw [lookupConfigValue_eq h, hvalue]
  rfl

theorem getInt64Config_int {n : Int64} (h : Unaliased cfg key)
    (hvalue : cfg.value key = .int n) : getInt64Config lib cfg key = .ok (some n) := by
  unfold getInt64Config
  rw [lookupConfigValue_eq h, hvalue]
  rfl

theorem getInt64Config_nil (h : Unaliased cfg key) (hvalue : cfg.value key = .nil) :
    getInt64Config lib cfg key = .ok none := by
  unfold getInt64Config
  rw [lookupConfigValue_eq h, hvalue]
  rfl

theorem getBoolOrDefault_bool {b defaultValue : Bool} (h : Unaliased cfg key)
    (hvalue : cfg.value key = .bool b) : getBoolOrDefault lib cfg key defaultValue = .ok b := by
  unfold getBoolOrDefault
  rw [lookupConfigValue_eq h, hvalue]
  rfl

theorem getBoolOrDefault_nil {defaultValue : Bool} (h : Unaliased cfg key)
    (hvalue : cfg.value key = .nil) :
    getBoolOrDefault lib cfg key defaultValue = .ok defaultValue := by
  unfold getBoolOrDefault
  rw [lookupConfigValue_eq h, hvalue]
  rfl

theorem getStringMap_strings {m : GoMap String} (h : Unaliased cfg key)
    (hvalue : cfg.value key = .strings m) : getStringMap lib cfg key = .ok m := by
  unfold getStringMap
  rw [lookupConfigValue_eq h, hvalue]
  rfl

end Helpers

end TokyoTester
