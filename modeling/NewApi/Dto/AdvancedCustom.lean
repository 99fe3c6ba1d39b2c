import NewApi.Library.Split

/-!
# Routes of Advanced Custom channels

Which request paths and models the configured routes of a channel match. A rule with the
prefix `re:` is a regular expression; what it regex is the parameter `regexMatches`, and a
pattern that does not compile regex nothing.
-/

namespace NewApi.Dto

/-- A path with the models that it serves. -/
structure AdvancedCustomRoute where
  incomingPath : String
  models : List String

/-- The routes of a channel. -/
structure AdvancedCustomConfig where
  routes : List AdvancedCustomRoute

def advancedCustomModelPlaceholder : String := "\x7bmodel\x7d"

def advancedCustomModelRegexPrefix : String := "re:"

def matchAdvancedCustomIncomingPathTemplate (configuredPath path : String) : Bool :=
  if !Text.contains configuredPath advancedCustomModelPlaceholder then
    configuredPath = path
  else
    match Text.split configuredPath advancedCustomModelPlaceholder with
    | [start, ending] =>
      if !Text.hasPrefix path start || !Text.hasSuffix path ending then false
      else
        let model := Text.trimSuffix (Text.trimPrefix path start) ending
        model ≠ "" && !Text.contains model "/"
    | _ => false

def matchAdvancedCustomIncomingPath (configuredPath path : String) : Bool :=
  matchAdvancedCustomIncomingPathTemplate configuredPath path ||
    (Text.contains configuredPath ":generateContent" && matchAdvancedCustomIncomingPathTemplate
        (Text.replaceFirst configuredPath ":generateContent" ":streamGenerateContent")
        path)

def normalizeAdvancedCustomRouteModels (models : List String) : List String :=
  (models.map Text.trimSpace).filter (· ≠ "")

section Rules

variable (regex : String → String → Bool)

def matchAdvancedCustomRouteModelRule (rule model : String) : Bool :=
  if !Text.hasPrefix rule advancedCustomModelRegexPrefix then rule = model
  else
    let pattern := Text.trimPrefix rule advancedCustomModelRegexPrefix
    pattern ≠ "" && regex pattern model

def matchAdvancedCustomRouteModel (models : List String) (model : String) : Bool :=
  let normalizedModels := normalizeAdvancedCustomRouteModels models
  normalizedModels.isEmpty || normalizedModels.any (matchAdvancedCustomRouteModelRule regex · model)

def AdvancedCustomConfig.matchPathForModel (config : AdvancedCustomConfig)
    (path model : String) : Option AdvancedCustomRoute :=
  config.routes.find? fun route =>
    matchAdvancedCustomIncomingPath (Text.trimSpace route.incomingPath) path &&
      matchAdvancedCustomRouteModel regex route.models (Text.trimSpace model)

def AdvancedCustomConfig.supportsPathForModel (config : AdvancedCustomConfig)
    (path model : String) : Bool :=
  (config.matchPathForModel regex path model).isSome

end Rules

end NewApi.Dto
