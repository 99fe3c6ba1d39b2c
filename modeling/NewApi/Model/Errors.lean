import Mathlib.Data.List.Nodup

/-!
# Errors of the persistence layer

The sentinel errors of the package are constructors of their own, because callers compare
against them; an error made by `fmt.Errorf` keeps its text.
-/

namespace NewApi.Model

/-- What a function of the persistence layer returns instead of a result. -/
inductive ModelError where
  | recordNotFound
  | billingOperationFingerprintConflict
  | billingOperationLookupConflict
  | billingOperationRefunded
  | billingOperationQuotaInsufficient
  | managedContextOutcomePhaseConflict
  /-- An error made by `fmt.Errorf`. -/
  | message (text : String)
  | database
deriving DecidableEq

end NewApi.Model
