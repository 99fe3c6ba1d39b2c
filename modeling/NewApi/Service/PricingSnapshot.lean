import NewApi.Library.Json
import NewApi.Service.TextQuota

/-!
# The pricing snapshot of a durable operation

`reserveBillingOperation` stores the price of a request as JSON and then prices the request by
what it reads back.
-/

namespace NewApi.Service

open NewApi.Types Wire

/-! ## The described structs -/

def groupRatioInfoMembers : List (Member GroupRatioInfo) :=
  [{ name := "GroupRatio", Value := ℚ, codec := .number, get := (·.groupRatio),
     set val info := { info with groupRatio := val } },
   { name := "GroupSpecialRatio", Value := ℚ, codec := .number, get := (·.groupSpecialRatio),
     set val info := { info with groupSpecialRatio := val } },
   { name := "HasSpecialRatio", Value := Bool, codec := .bool, get := (·.hasSpecialRatio),
     set val info := { info with hasSpecialRatio := val } }]

def groupRatioInfoCodec : Codec GroupRatioInfo :=
  .record groupRatioInfoMembers (by decide)

/-- The exported fields of `PriceData`. `otherRatios` is not one of them. -/
def priceDataMembers : List (Member PriceData) :=
  [{ name := "FreeModel", Value := Bool, codec := .bool, get := (·.freeModel),
     set val price := { price with freeModel := val } },
   { name := "ModelPrice", Value := ℚ, codec := .number, get := (·.modelPrice),
     set val price := { price with modelPrice := val } },
   { name := "ModelRatio", Value := ℚ, codec := .number, get := (·.modelRatio),
     set val price := { price with modelRatio := val } },
   { name := "CompletionRatio", Value := ℚ, codec := .number, get := (·.completionRatio),
     set val price := { price with completionRatio := val } },
   { name := "CacheRatio", Value := ℚ, codec := .number, get := (·.cacheRatio),
     set val price := { price with cacheRatio := val } },
   { name := "CacheCreationRatio", Value := ℚ, codec := .number, get := (·.cacheCreationRatio),
     set val price := { price with cacheCreationRatio := val } },
   { name := "CacheCreation5mRatio", Value := ℚ, codec := .number,
     get := (·.cacheCreation5mRatio),
     set val price := { price with cacheCreation5mRatio := val } },
   { name := "CacheCreation1hRatio", Value := ℚ, codec := .number,
     get := (·.cacheCreation1hRatio),
     set val price := { price with cacheCreation1hRatio := val } },
   { name := "ImageRatio", Value := ℚ, codec := .number, get := (·.imageRatio),
     set val price := { price with imageRatio := val } },
   { name := "AudioRatio", Value := ℚ, codec := .number, get := (·.audioRatio),
     set val price := { price with audioRatio := val } },
   { name := "AudioCompletionRatio", Value := ℚ, codec := .number,
     get := (·.audioCompletionRatio),
     set val price := { price with audioCompletionRatio := val } },
   { name := "UsePrice", Value := Bool, codec := .bool, get := (·.usePrice),
     set val price := { price with usePrice := val } },
   { name := "ChannelRatio", Value := ℚ, codec := .number, get := (·.channelRatio),
     set val price := { price with channelRatio := val } },
   { name := "ChannelRatioSet", Value := Bool, codec := .bool, get := (·.channelRatioSet),
     set val price := { price with channelRatioSet := val } },
   { name := "Quota", Value := ℤ, codec := .integer, get := (·.quota),
     set val price := { price with quota := val } },
   { name := "QuotaToPreConsume", Value := ℤ, codec := .integer, get := (·.quotaToPreConsume),
     set val price := { price with quotaToPreConsume := val } },
   { name := "GroupRatioInfo", Value := GroupRatioInfo, codec := groupRatioInfoCodec,
     get := (·.groupRatioInfo),
     set val price := { price with groupRatioInfo := val } }]

def priceDataCodec : Codec PriceData :=
  .record priceDataMembers (by decide)

/-- The fields of `BillingSnapshot`; one tag says `omitempty`. -/
def billingSnapshotMembers : List (Member BillingSnapshot) :=
  [{ name := "billing_mode", Value := String, codec := .text, get := (·.billingMode),
     set val snap := { snap with billingMode := val } },
   { name := "model_name", Value := String, codec := .text, get := (·.modelName),
     set val snap := { snap with modelName := val } },
   { name := "expr_string", Value := String, codec := .text, get := (·.exprString),
     set val snap := { snap with exprString := val } },
   { name := "expr_hash", Value := String, codec := .text, get := (·.exprHash),
     set val snap := { snap with exprHash := val } },
   { name := "group_ratio", Value := ℚ, codec := .number, get := (·.groupRatio),
     set val snap := { snap with groupRatio := val } },
   { name := "channel_ratio", Value := ℚ, codec := .number, get := (·.channelRatio),
     set val snap := { snap with channelRatio := val } },
   { name := "channel_ratio_set", Value := Bool, codec := .bool, get := (·.channelRatioSet),
     set val snap := { snap with channelRatioSet := val },
     omitted val := !val },
   { name := "estimated_prompt_tokens", Value := ℤ, codec := .integer,
     get := (·.estimatedPromptTokens),
     set val snap := { snap with estimatedPromptTokens := val } },
   { name := "estimated_completion_tokens", Value := ℤ, codec := .integer,
     get := (·.estimatedCompletionTokens),
     set val snap := { snap with estimatedCompletionTokens := val } },
   { name := "estimated_quota_before_group", Value := ℚ, codec := .number,
     get := (·.estimatedQuotaBeforeGroup),
     set val snap := { snap with estimatedQuotaBeforeGroup := val } },
   { name := "estimated_quota_after_group", Value := ℤ, codec := .integer,
     get := (·.estimatedQuotaAfterGroup),
     set val snap := { snap with estimatedQuotaAfterGroup := val } },
   { name := "estimated_tier", Value := String, codec := .text, get := (·.estimatedTier),
     set val snap := { snap with estimatedTier := val } },
   { name := "quota_per_unit", Value := ℚ, codec := .number, get := (·.quotaPerUnit),
     set val snap := { snap with quotaPerUnit := val } },
   { name := "expr_version", Value := ℤ, codec := .integer, get := (·.exprVersion),
     set val snap := { snap with exprVersion := val } }]

def billingSnapshotCodec : Codec BillingSnapshot :=
  .record billingSnapshotMembers (by decide)

/-- The prices that a durable operation keeps from its reservation. -/
structure DurableBillingPricingSnapshot where
  priceData : PriceData
  tieredBillingSnapshot : Option BillingSnapshot

def zeroPriceData : PriceData where
  freeModel := false
  modelPrice := 0
  modelRatio := 0
  completionRatio := 0
  cacheRatio := 0
  cacheCreationRatio := 0
  cacheCreation5mRatio := 0
  cacheCreation1hRatio := 0
  imageRatio := 0
  audioRatio := 0
  audioCompletionRatio := 0
  otherRatios := []
  usePrice := false
  channelRatio := 0
  channelRatioSet := false
  quota := 0
  quotaToPreConsume := 0
  groupRatioInfo := ⟨0, 0, false⟩

def zeroBillingSnapshot : BillingSnapshot where
  billingMode := ""
  modelName := ""
  exprString := ""
  exprHash := ""
  groupRatio := 0
  channelRatio := 0
  channelRatioSet := false
  estimatedPromptTokens := 0
  estimatedCompletionTokens := 0
  estimatedQuotaBeforeGroup := 0
  estimatedQuotaAfterGroup := 0
  estimatedTier := ""
  quotaPerUnit := 0
  exprVersion := 0

def pricingSnapshotMembers : List (Member DurableBillingPricingSnapshot) :=
  [{ name := "price_data", Value := PriceData, codec := priceDataCodec, get := (·.priceData),
     set val snap := { snap with priceData := val } },
   { name := "tiered_billing_snapshot", Value := Option BillingSnapshot,
     codec := .pointer zeroBillingSnapshot billingSnapshotCodec
       (by simp [billingSnapshotCodec, Codec.record]),
     get := (·.tieredBillingSnapshot),
     set val snap := { snap with tieredBillingSnapshot := val },
     omitted val := val.isNone }]

def pricingSnapshotCodec : Codec DurableBillingPricingSnapshot :=
  .record pricingSnapshotMembers (by decide)

/-- What `reserveBillingOperation` does to the price of its request: it marshals the price,
and prices by what it unmarshals from the stored text. -/
def RelayInfo.freezePricing (relayInfo : RelayInfo) : Option RelayInfo :=
  let stored := pricingSnapshotCodec.encode ⟨relayInfo.priceData, relayInfo.tieredBillingSnapshot⟩
  (pricingSnapshotCodec.decode stored ⟨zeroPriceData, none⟩).map fun frozen =>
    { relayInfo with
      priceData := frozen.priceData
      tieredBillingSnapshot := frozen.tieredBillingSnapshot }

/-! ## What survives -/

theorem groupRatioInfoCodec_merge (info goal : GroupRatioInfo) :
    groupRatioInfoCodec.merge info goal = info := by
  simp [groupRatioInfoCodec, groupRatioInfoMembers, Member.keep]

theorem priceDataCodec_merge (price goal : PriceData) :
    priceDataCodec.merge price goal = { price with otherRatios := goal.otherRatios } := by
  rcases price with ⟨_, _, _, _, _, _, _, _, _, _, _, _, _, _, _, _, _, _⟩
  simp [priceDataCodec, priceDataMembers, Member.keep, groupRatioInfoCodec_merge]

theorem billingSnapshotCodec_merge (snap : BillingSnapshot) :
    billingSnapshotCodec.merge snap zeroBillingSnapshot = snap := by
  rcases snap with ⟨_, _, _, _, _, _, channelRatioSet, _, _, _, _, _, _, _⟩
  -- An omitted flag is read back as the zero value, which is what it was.
  cases channelRatioSet with
  | false | true =>
    simp [billingSnapshotCodec, billingSnapshotMembers, Member.keep, zeroBillingSnapshot]

theorem pricingSnapshotCodec_merge (price : PriceData) (snap : Option BillingSnapshot) :
    pricingSnapshotCodec.merge ⟨price, snap⟩ ⟨zeroPriceData, none⟩ =
      ⟨{ price with otherRatios := [] }, snap⟩ := by
  cases snap with
  | none =>
    simp [pricingSnapshotCodec, pricingSnapshotMembers, Member.keep, priceDataCodec_merge,
      zeroPriceData]
  | some _ =>
    simp [pricingSnapshotCodec, pricingSnapshotMembers, Member.keep, priceDataCodec_merge,
      billingSnapshotCodec_merge, Codec.pointer, zeroPriceData]

theorem freezePricing_eq (relayInfo : RelayInfo) :
    relayInfo.freezePricing =
      some { relayInfo with priceData := { relayInfo.priceData with otherRatios := [] } } := by
  simp only [RelayInfo.freezePricing, pricingSnapshotCodec.decode_encode, Option.map_some,
    pricingSnapshotCodec_merge]

end NewApi.Service
