import NewApi.Library.Decoding
import NewApi.Library.Split

/-!
# The loaders of the settings

What the functions that `updateOptionMap` and the config manager dispatch to make of a text: the
value that they leave in the live setting, and the error that they return. `denotes` is the value
that a text stands for, and there is none for a text that is malformed.
-/

namespace NewApi.Settings

open Wire (Decoder GoMap Json)

/-! ## Values -/

/-- The values of `float64`. -/
inductive GoFloat where
  | finite (val : ℚ)
  | infinite (negative : Bool)
  | nan

/-- An interval of status codes. -/
structure StatusCodeRange where
  (first last : ℤ)

/-- The types of the maps that options hold. -/
inductive Shape where
  /-- `map[string]float64`. -/
  | floats
  /-- `map[string]map[string]float64`. -/
  | floatMaps
  /-- `map[string]string`. -/
  | texts
  /-- `map[string]map[string]string`. -/
  | textMaps
  /-- `map[string][2]int`. -/
  | pairs
  /-- `[]map[string]string`. -/
  | textMapList
  /-- `[]string`. -/
  | textList
deriving DecidableEq

abbrev Shape.Value : Shape → Type
  | .floats => GoMap ℚ
  | .floatMaps => GoMap (GoMap ℚ)
  | .texts => GoMap String
  | .textMaps => GoMap (GoMap String)
  | .pairs => GoMap (ℤ × ℤ)
  | .textMapList => Option (List (GoMap String))
  | .textList => Option (List String)

/-- What `make` makes. -/
def Shape.fresh : (shape : Shape) → shape.Value
  | .floats | .floatMaps | .texts | .textMaps | .pairs => some fun _ => none
  | .textMapList | .textList => some []

def Shape.decoder (float64 : ℚ → Option ℚ) : (shape : Shape) → Decoder shape.Value
  | .floats => .map 0 (.number float64)
  | .floatMaps => .map none (.map 0 (.number float64))
  | .texts => .map "" .text
  | .textMaps => .map none (.map "" .text)
  | .pairs => .map (0, 0) (.pair 0 .int)
  | .textMapList => .list none (.map "" .text)
  | .textList => .list "" .text

/-- The types of settings. -/
inductive Kind where
  | text
  | int
  | float
  | bool
  | words
  | ranges
  | json (shape : Shape)
deriving DecidableEq

abbrev Kind.Value : Kind → Type
  | .text => String
  | .int => ℤ
  | .float => GoFloat
  | .bool => Bool
  | .words => List String
  | .ranges => List StatusCodeRange
  | .json shape => shape.Value

/-- The errors of an update. -/
inductive OptionError where
  | maxTokenAutoGroups
  | toolPrices
  | json
  | statusCodes
  | database

/-! ## Scalars -/

/-- `strconv.Atoi`: what it returns, and whether without an error. -/
def atoi (src : String) : ℤ × Bool :=
  let (negative, digits) := match src.toList with
    | '-' :: rest => (true, rest)
    | '+' :: rest => (false, rest)
    | rest => (false, rest)
  if digits = [] ∨ ¬digits.all Char.isDigit then (0, false)
  else
    let magnitude : ℤ := digits.foldl (fun total digit => 10 * total + (digit.toNat - 48 : ℕ)) 0
    let val := if negative then -magnitude else magnitude
    if val < Decoder.minInt64 then (Decoder.minInt64, false)
    else if Decoder.maxInt64 < val then (Decoder.maxInt64, false)
    else (val, true)

def parseBool (src : String) : Option Bool :=
  if src ∈ ["1", "t", "T", "TRUE", "true", "True"] then some true
  else if src ∈ ["0", "f", "F", "FALSE", "false", "False"] then some false
  else none

/-- `int64(value)`; what has no integer part becomes the least integer. -/
def truncate : GoFloat → ℤ
  | .finite val =>
    let whole := val.num.tdiv val.den
    if Decoder.minInt64 ≤ whole ∧ whole ≤ Decoder.maxInt64 then whole else Decoder.minInt64
  | _ => Decoder.minInt64

def validateMaxTokenAutoGroups (src : String) : Bool :=
  (atoi src).2 && decide (0 < (atoi src).1)

/-- `SensitiveWordsFromString`. -/
def wordsFromString (src : String) : List String :=
  ((Text.split src "\n").map Text.trimSpace).filter (· ≠ "")

/-- `AutomaticDisableKeywordsFromString`, for the lower case of the standard library. -/
def keywordsFromString (toLower : String → String) (src : String) : List String :=
  ((Text.split src "\n").map fun word => toLower (Text.trimSpace word)).filter (· ≠ "")

/-! ## Status codes -/

def parseHTTPStatusCodeToken (token : String) : Option StatusCodeRange :=
  let token := String.ofList ((Text.trimSpace token).toList.filter (· ≠ ' '))
  if token = "" then none
  else if Text.contains token "-" then
    match Text.split token "-" with
    | [one, two] =>
      let first := atoi one
      let last := atoi two
      if one = "" ∨ two = "" ∨ first.2 = false ∨ last.2 = false then none
      else if last.1 < first.1 ∨ first.1 < 100 ∨ 599 < last.1 then none
      else some ⟨first.1, last.1⟩
    | _ => none
  else
    let code := atoi token
    if code.2 = false ∨ code.1 < 100 ∨ 599 < code.1 then none else some ⟨code.1, code.1⟩

def mergeRange (merged : List StatusCodeRange) (range : StatusCodeRange) :
    List StatusCodeRange :=
  match merged with
  | [] => [range]
  | last :: rest =>
    if range.first ≤ last.last + 1 then
      (if last.last < range.last then { last with last := range.last } else last) :: rest
    else range :: last :: rest

def parseHTTPStatusCodeRanges (input : String) : Except OptionError (List StatusCodeRange) :=
  let input := Text.trimSpace input
  if input = "" then .ok []
  else
    let input := input.map fun char => if char = '，' then ',' else char
    let segments := ((Text.split input ",").map Text.trimSpace).filter (· ≠ "")
    let ranges := segments.map parseHTTPStatusCodeToken
    if ranges.all Option.isSome then
      let sorted := (ranges.filterMap id).mergeSort fun one two =>
        if one.first = two.first then decide (one.last ≤ two.last)
        else decide (one.first < two.first)
      .ok (sorted.foldl mergeRange []).reverse
    else .error .statusCodes

/-! ## Parsers from outside -/

/-- The types of the fields of a config module. -/
inductive FieldKind where
  | text
  | bool
  | int
  | float
  | map (shape : Shape)
  /-- A pointer to an `RWMap` of its own. -/
  | pointer (shape : Shape)
deriving DecidableEq

/-- What a config module registers for a key, and the variable with the setting. -/
inductive Field where
  | plain (kind : FieldKind) (name : String)
  /-- A pointer to an `RWMap` that the module shares. -/
  | shared (shape : Shape) (name : String)
  | merged
  | unknown

/-- The parsers and the lower case of the standard library, the registered config modules, and
how a JSON value is decoded over a slice or a structure; `none` is a failed decoding. -/
structure Runtime (Merged : Type) where
  parse : String → Option Json
  float64 : ℚ → Option ℚ
  parseFloat : String → GoFloat × Bool
  toLower : String → String
  globalConfig : String → Option (String → Field)
  merge : String → Json → Option (Merged → Merged)
  remnant : String → Json → Merged → Merged

namespace Runtime

variable {Merged : Type} (env : Runtime Merged)

def unmarshal (shape : Shape) (src : String) (goal : shape.Value) : shape.Value × Bool :=
  Decoder.unmarshal env.parse (shape.decoder env.float64) src goal

/-- `RWMap.UnmarshalJSON`, which is called once the text is JSON. -/
def unmarshalMap (shape : Shape) (src : String) (old : shape.Value) : shape.Value :=
  match env.parse src with
  | none => old
  | some json => (shape.decoder env.float64 json shape.fresh).1

/-- The price of an entry, if it is a number that is finite and not negative. -/
def toolPrice : Json → Option ℚ
  | .number num => (env.float64 num.val).filter fun price => decide (0 ≤ price)
  | _ => none

def lastEntries (entries : List (String × Json)) : List (String × Json) :=
  entries.pwFilter fun one two => one.1 ≠ two.1

def decodeToolPricesJSON (src : String) (ignoreInvalidEntries : Bool) :
    Option (Shape.Value .floats) :=
  match env.parse (Text.trimSpace src) with
  | some (.object entries) =>
    let entries := lastEntries entries
    if !ignoreInvalidEntries && entries.any fun entry => (env.toolPrice entry.2).isNone then
      none
    else
      some (some (entries.foldl (fun prices entry =>
        match env.toolPrice entry.2 with
        | some price => Function.update prices entry.1 (some price)
        | none => prices) fun _ => none))
  | _ => none

end Runtime

/-! ## Loaders -/

/-- How a setting is loaded from the text of its option. -/
inductive Loader where
  /-- `setting = value`. -/
  | text
  /-- `setting = value == "true"`. -/
  | switch
  /-- `setting, _ = strconv.Atoi(value)`. -/
  | int
  | float
  /-- `setting = strings.Split(value, ",")`. -/
  | commaList
  | words
  | keywords
  | fresh (shape : Shape)
  | statusCodes
  | maxTokenAutoGroups
  | toolPrices
  | quotaDisplayType
  | field (kind : FieldKind)
deriving DecidableEq

namespace Loader

abbrev kind : Loader → Kind
  | .text | .quotaDisplayType | .field .text => .text
  | .switch | .field .bool => .bool
  | .int | .maxTokenAutoGroups | .field .int => .int
  | .float | .field .float => .float
  | .commaList | .words | .keywords => .words
  | .statusCodes => .ranges
  | .toolPrices => .json .floats
  | .fresh shape | .field (.map shape) | .field (.pointer shape) => .json shape

variable {Merged : Type} (env : Runtime Merged)

/-- The setting after the loader ran, and the error that it returns. -/
def load (loader : Loader) (val : String) (old : loader.kind.Value) :
    loader.kind.Value × Option OptionError :=
  match loader with
  | .text => (val, none)
  | .switch => (decide (val = "true"), none)
  | .int => ((atoi val).1, none)
  | .float => ((env.parseFloat val).1, none)
  | .commaList => (Text.split val ",", none)
  | .words => (wordsFromString val, none)
  | .keywords => (keywordsFromString env.toLower val, none)
  | .fresh shape =>
    let decoded := env.unmarshal shape val shape.fresh
    (decoded.1, if decoded.2 then none else some .json)
  | .statusCodes =>
    match parseHTTPStatusCodeRanges val with
    | .ok ranges => (ranges, none)
    | .error err => (old, some err)
  | .maxTokenAutoGroups =>
    if validateMaxTokenAutoGroups val then ((atoi val).1, none)
    else (old, some .maxTokenAutoGroups)
  | .toolPrices =>
    ((env.decodeToolPricesJSON val true).getD (some fun _ => none), none)
  | .quotaDisplayType => (if val = "true" then "USD" else "TOKENS", none)
  | .field .text => (val, none)
  | .field .bool => ((parseBool val).getD old, none)
  | .field .int =>
    if (atoi val).2 then ((atoi val).1, none)
    else if (env.parseFloat val).2 then (truncate (env.parseFloat val).1, none)
    else (old, none)
  | .field .float =>
    (if (env.parseFloat val).2 then (env.parseFloat val).1 else old, none)
  | .field (.map shape) =>
    -- A failed decoding is dropped, and so is what it filled.
    let decoded := env.unmarshal shape val (nilOf shape)
    (if decoded.2 then decoded.1 else old, none)
  | .field (.pointer shape) =>
    if val = "null" then (nilOf shape, none)
    else (env.unmarshalMap shape val old, none)
where
  nilOf : (shape : Shape) → shape.Value
    | .floats | .floatMaps | .texts | .textMaps | .pairs => none
    | .textMapList | .textList => none

def denotes (loader : Loader) (val : String) : Option loader.kind.Value :=
  match loader with
  | .text => some val
  | .switch => some (decide (val = "true"))
  | .int => if (atoi val).2 then some (atoi val).1 else none
  | .float => if (env.parseFloat val).2 then some (env.parseFloat val).1 else none
  | .commaList => some (Text.split val ",")
  | .words => some (wordsFromString val)
  | .keywords => some (keywordsFromString env.toLower val)
  | .fresh shape =>
    let decoded := env.unmarshal shape val shape.fresh
    if decoded.2 then some decoded.1 else none
  | .statusCodes => (parseHTTPStatusCodeRanges val).toOption
  | .maxTokenAutoGroups =>
    if validateMaxTokenAutoGroups val then some (atoi val).1 else none
  | .toolPrices => env.decodeToolPricesJSON val false
  | .quotaDisplayType => some (if val = "true" then "USD" else "TOKENS")
  | .field .text => some val
  | .field .bool => parseBool val
  | .field .int =>
    if (atoi val).2 then some (atoi val).1
    else if (env.parseFloat val).2 then some (truncate (env.parseFloat val).1)
    else none
  | .field .float =>
    if (env.parseFloat val).2 then some (env.parseFloat val).1 else none
  | .field (.map shape) =>
    let decoded := env.unmarshal shape val shape.fresh
    if decoded.2 then some decoded.1 else none
  | .field (.pointer shape) =>
    let decoded := env.unmarshal shape val shape.fresh
    if val = "null" then some (load.nilOf shape)
    else if decoded.2 then some decoded.1
    else none

end Loader

end NewApi.Settings
