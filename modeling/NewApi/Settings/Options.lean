import NewApi.Settings.Loaders

/-!
# Options

`model/option.go`: the option table, `common.OptionMap` and the live settings, and the functions
that change them.
-/

namespace NewApi.Settings

/-! ## Dispatch -/

def retiredThemeOptionKey : String := "theme.frontend"

def toolPriceOptionKey : String := "tool_price_setting.prices"

def permissionOptions : List String :=
  ["FileUploadPermission", "FileDownloadPermission", "ImageUploadPermission",
   "ImageDownloadPermission"]

/-- The options of the second dispatch, without `DisplayInCurrencyEnabled`. -/
def switchOptions : List String :=
  ["PasswordRegisterEnabled", "PasswordLoginEnabled", "EmailVerificationEnabled",
   "GitHubOAuthEnabled", "LinuxDOOAuthEnabled", "WeChatAuthEnabled", "TelegramOAuthEnabled",
   "TurnstileCheckEnabled", "RegisterEnabled", "EmailDomainRestrictionEnabled",
   "EmailAliasRestrictionEnabled", "AutomaticDisableChannelEnabled",
   "AutomaticEnableChannelEnabled", "LogConsumeEnabled", "DisplayTokenStatEnabled",
   "DrawingEnabled", "TaskEnabled", "DataExportEnabled", "DefaultCollapseSidebar",
   "MjNotifyEnabled", "MjAccountFilterEnabled", "MjModeClearEnabled", "MjForwardUrlEnabled",
   "MjActionCheckSuccessEnabled", "CheckSensitiveEnabled", "DemoSiteEnabled",
   "SelfUseModeEnabled", "CheckSensitiveOnPromptEnabled", "ModelRequestRateLimitEnabled",
   "StopOnSensitiveEnabled", "SMTPSSLEnabled", "SMTPStartTLSEnabled", "SMTPInsecureSkipVerify",
   "SMTPForceAuthLogin", "WorkerAllowHttpImageRequestEnabled", "DefaultUseAutoGroup",
   "ExposeRatioEnabled"]

def textOptions : List String :=
  ["SMTPServer", "SMTPAccount", "SMTPFrom", "SMTPToken", "ServerAddress", "WorkerUrl",
   "WorkerValidKey", "PayAddress", "CustomCallbackAddress", "EpayId", "EpayKey",
   "StripeApiSecret", "StripeWebhookSecret", "StripePriceId", "CreemApiKey", "CreemProducts",
   "CreemWebhookSecret", "WaffoApiKey", "WaffoPrivateKey", "WaffoPublicCert",
   "WaffoSandboxPublicCert", "WaffoSandboxApiKey", "WaffoSandboxPrivateKey", "WaffoMerchantId",
   "WaffoNotifyUrl", "WaffoReturnUrl", "WaffoSubscriptionReturnUrl", "WaffoCurrency",
   "WaffoPancakeMerchantID", "WaffoPancakePrivateKey", "WaffoPancakeReturnURL",
   "WaffoPancakeStoreID", "WaffoPancakeProductID", "GitHubClientId", "GitHubClientSecret",
   "LinuxDOClientId", "LinuxDOClientSecret", "Footer", "SystemName", "Logo",
   "WeChatServerAddress", "WeChatServerToken", "WeChatAccountQRCodeImageURL", "TelegramBotToken",
   "TelegramBotName", "TurnstileSiteKey", "TurnstileSecretKey", "DataExportDefaultTime",
   "TopUpLink"]

def intOptions : List String :=
  ["SMTPPort", "MinTopUp", "StripeMinTopUp", "WaffoMinTopUp", "WaffoPancakeMinTopUp",
   "LinuxDOMinimumTrustLevel", "QuotaForNewUser", "QuotaForInviter", "QuotaForInvitee",
   "QuotaRemindThreshold", "PreConsumedQuota", "ModelRequestRateLimitCount",
   "ModelRequestRateLimitDurationMinutes", "ModelRequestRateLimitSuccessCount", "RetryTimes",
   "DataExportInterval", "StreamCacheQueueLength"]

def floatOptions : List String :=
  ["Price", "USDExchangeRate", "StripeUnitPrice", "WaffoUnitPrice", "WaffoPancakeUnitPrice",
   "ChannelDisableThreshold", "QuotaPerUnit"]

/-- The options of the last dispatch that are compared with `true`. -/
def flagOptions : List String :=
  ["StripePromotionCodesEnabled", "CreemTestMode", "WaffoEnabled", "WaffoSandbox"]

def parsedOptions : List (String × Loader) :=
  [("EmailDomainWhitelist", .commaList), ("Chats", .fresh .textMapList),
   ("AutoGroups", .fresh .textList), ("MaxTokenAutoGroups", .maxTokenAutoGroups),
   ("TopupGroupRatio", .fresh .floats), ("ModelRequestRateLimitGroup", .fresh .pairs),
   ("ModelRatio", .fresh .floats), ("GroupRatio", .fresh .floats),
   ("GroupGroupRatio", .fresh .floatMaps), ("UserUsableGroups", .fresh .texts),
   ("CompletionRatio", .fresh .floats), ("ModelPrice", .fresh .floats),
   ("CacheRatio", .fresh .floats), ("CreateCacheRatio", .fresh .floats),
   ("ImageRatio", .fresh .floats), ("AudioRatio", .fresh .floats),
   ("AudioCompletionRatio", .fresh .floats), ("SensitiveWords", .words),
   ("AutomaticDisableKeywords", .keywords), ("AutomaticDisableStatusCodes", .statusCodes),
   ("AutomaticRetryStatusCodes", .statusCodes), ("PayMethods", .fresh .textMapList)]

def optionLoader (key : String) : Option Loader :=
  let isSwitch := Text.hasSuffix key "Enabled" || key ∈ ["DefaultCollapseSidebar",
    "DefaultUseAutoGroup", "SMTPForceAuthLogin", "SMTPInsecureSkipVerify"]
  if Text.hasSuffix key "Permission" && key ∈ permissionOptions then some .int
  else if isSwitch && key = "DisplayInCurrencyEnabled" then some .quotaDisplayType
  else if isSwitch && key ∈ switchOptions then some .switch
  else if key ∈ textOptions then some .text
  else if key ∈ intOptions then some .int
  else if key ∈ floatOptions then some .float
  else if key ∈ flagOptions then some .switch
  else parsedOptions.lookup key

/-- Where the text of an option goes. -/
inductive Route where
  | unread
  | loader (loader : Loader) (name : String)
  | shared (shape : Shape) (name : String)
  | merged
deriving DecidableEq

namespace Runtime

variable {Merged : Type} (env : Runtime Merged)

def handleConfigUpdate (key : String) : Option Route :=
  if key = toolPriceOptionKey then some (.loader .toolPrices key)
  else
    match Text.split key "." with
    | configName :: rest =>
      if rest = [] then none
      else
        (env.globalConfig configName).map fun fields =>
          match fields (".".intercalate rest) with
          | .plain kind name => .loader (.field kind) name
          | .shared shape name => .shared shape name
          | .merged => .merged
          | .unknown => .unread
    | [] => none

def route (key : String) : Route :=
  if key = retiredThemeOptionKey then .unread
  else
    match env.handleConfigUpdate key with
    | some route => route
    | none =>
      match optionLoader key with
      | some .quotaDisplayType => .loader .quotaDisplayType "general_setting.quota_display_type"
      | some loader => .loader loader key
      | none => .unread

end Runtime

/-! ## State -/

abbrev Live := (kind : Kind) → String → kind.Value

def Live.set (live : Live) (kind : Kind) (name : String) (val : kind.Value) : Live :=
  Function.update live kind (Function.update (live kind) name val)

/-- The rows of `options`, `OptionMap`, and the settings in use. -/
structure OptionState (Merged : Type) where
  rows : String → Option String
  optionMap : String → Option String
  live : Live
  merged : String → Merged
  /-- The pointers to shared maps that have been set to `nil`. -/
  detached : String → Bool

/-- Which of its two statements `UpdateOption` gets applied. -/
structure Write where
  (created saved : Bool)

/-- How the transaction of `UpdateOptionsBulk` ends. -/
inductive Commit where
  | committed
  | rolledBack
  | unconfirmed

namespace Runtime

variable {Merged : Type} (env : Runtime Merged)

def validateOptionValue (key val : String) : Option OptionError :=
  if key = toolPriceOptionKey then
    if (env.decodeToolPricesJSON val false).isSome then none else some .toolPrices
  else if key = "MaxTokenAutoGroups" then
    if validateMaxTokenAutoGroups val then none else some .maxTokenAutoGroups
  else none

def mergeInto (key val : String) (cfg : OptionState Merged) : OptionState Merged :=
  match env.parse val with
  | none => cfg
  | some json =>
    let result := match env.merge key json with
      | some merge => merge (cfg.merged key)
      | none => env.remnant key json (cfg.merged key)
    { cfg with merged := Function.update cfg.merged key result }

/-- The update through a pointer to a shared map, unless the pointer has been set to `nil`. -/
def updateShared (key val : String) (shape : Shape) (name : String)
    (cfg : OptionState Merged) : OptionState Merged :=
  if val = "null" then
    { cfg with detached := Function.update cfg.detached key true }
  else if cfg.detached key then cfg
  else
    let updated := env.unmarshalMap shape val (cfg.live (.json shape) name)
    { cfg with live := cfg.live.set (.json shape) name updated }

def updateOptionMap (key val : String) (cfg : OptionState Merged) :
    OptionState Merged × Option OptionError :=
  if key = retiredThemeOptionKey then
    ({ cfg with optionMap := Function.update cfg.optionMap key none }, none)
  else
    let cfg :=
      { cfg with optionMap := Function.update cfg.optionMap key (some val) }
    match env.route key with
    | .unread => (cfg, none)
    | .loader loader name =>
      let loaded := loader.load env val (cfg.live loader.kind name)
      ({ cfg with live := cfg.live.set loader.kind name loaded.1 }, loaded.2)
    | .shared shape name => (env.updateShared key val shape name cfg, none)
    | .merged => (env.mergeInto key val cfg, none)

end Runtime

namespace OptionState

variable {Merged : Type}

/-- `FirstOrCreate` and `Save`. -/
def save (cfg : OptionState Merged) (key val : String) (write : Write) :
    OptionState Merged :=
  if write.saved then
    { cfg with rows := Function.update cfg.rows key (some val) }
  else if write.created ∧ cfg.rows key = none then
    { cfg with rows := Function.update cfg.rows key (some "") }
  else cfg

def saveAll (cfg : OptionState Merged) (vals : List (String × String)) :
    OptionState Merged :=
  vals.foldl (fun cfg pair => cfg.save pair.1 pair.2 ⟨true, true⟩) cfg

end OptionState

namespace Runtime

variable {Merged : Type} (env : Runtime Merged)

/-- `UpdateOption`, which does not look at the errors of its statements. -/
def updateOption (key val : String) (write : Write) (cfg : OptionState Merged) :
    OptionState Merged × Option OptionError :=
  match env.validateOptionValue key val with
  | some err => (cfg, some err)
  | none => env.updateOptionMap key val (cfg.save key val write)

/-- The last loop of `UpdateOptionsBulk`. -/
def publish : List (String × String) → OptionState Merged → OptionState Merged × Option OptionError
  | [], cfg => (cfg, none)
  | (key, val) :: rest, cfg =>
    match env.updateOptionMap key val cfg with
    | (cfg, some err) => (cfg, some err)
    | (cfg, none) => publish rest cfg

def updateOptionsBulk (vals : List (String × String)) (commit : Commit)
    (cfg : OptionState Merged) : OptionState Merged × Option OptionError :=
  if vals = [] then (cfg, none)
  else
    match vals.findSome? fun pair => env.validateOptionValue pair.1 pair.2 with
    | some err => (cfg, some err)
    | none =>
      match commit with
      | .committed => env.publish vals (cfg.saveAll vals)
      | .rolledBack => (cfg, some .database)
      | .unconfirmed => (cfg.saveAll vals, some .database)

/-- One row of `loadOptionsFromDatabase`, whose error is logged. -/
def loadOption (cfg : OptionState Merged) (row : String × String) : OptionState Merged :=
  (env.updateOptionMap row.1 row.2 cfg).1

def loadOptionsFromDatabase (rows : List (String × String)) (cfg : OptionState Merged) :
    OptionState Merged :=
  rows.foldl env.loadOption cfg

end Runtime

/-! ## Runs -/

/-- The operations on options. -/
inductive Operation where
  | update (key val : String) (write : Write)
  | bulk (vals : List (String × String)) (commit : Commit)
  | load (rows : List (String × String))

/-- A bulk update names each option once. -/
def Allowed {Merged : Type} (_ : OptionState Merged) : Operation → Prop
  | .bulk vals _ => (vals.map Prod.fst).Nodup
  | _ => True

def Runtime.next {Merged : Type} (env : Runtime Merged) (cfg : OptionState Merged) :
    Operation → OptionState Merged
  | .update key val write => (env.updateOption key val write cfg).1
  | .bulk vals commit => (env.updateOptionsBulk vals commit cfg).1
  | .load rows => env.loadOptionsFromDatabase rows cfg

end NewApi.Settings
