import NewApi.Library.Table
import NewApi.Model.Errors
import Mathlib.Data.List.AList

/-!
# Tokens and their quota

The token rows and the functions that change their quota, directly or through the batch
stores of `utils.go`, together with the edits that write a whole row back from an earlier
read: `DisableModelLimits` and `UpdateToken` with `status_only`.
-/

namespace NewApi.Quota

open NewApi.Model (ModelError)
open Relational

def tokenStatusEnabled : ℤ := 1

def tokenStatusExpired : ℤ := 3

def tokenStatusExhausted : ℤ := 4

/-- A row of `tokens`. -/
structure Token where
  (id userId : ℤ)
  key : String
  status : ℤ
  name : String
  (accessedTime expiredTime remainQuota : ℤ)
  (unlimitedQuota modelLimitsEnabled : Bool)
  modelLimits : String
  allowIps : Option String
  usedQuota : ℤ
  group : String
  (crossGroupRetry allowContextCompaction : Bool)
  autoGroups : String

instance : Keyed Token ℤ where
  key := Token.id

abbrev Tokens := Table Token

/-- The batch stores, one for each counter. -/
inductive BatchUpdateType where
  | userQuota
  | tokenQuota
  | usedQuota
  | channelUsedQuota
  | requestCount
deriving DecidableEq

def batchUpdateTypes : List BatchUpdateType :=
  [.userQuota, .tokenQuota, .usedQuota, .channelUsedQuota, .requestCount]

abbrev BatchStore := AList fun _ : ℤ => ℤ

abbrev BatchStores := BatchUpdateType → BatchStore

def addNewRecord (stores : BatchStores) (type : BatchUpdateType) (id val : ℤ) : BatchStores :=
  Function.update stores type (match (stores type).lookup id with
    | none => (stores type).insert id val
    | some held => (stores type).insert id (held + val))

namespace Token

/-- `remain_quota + quota`, `used_quota - quota`. -/
def addQuota (quota now : ℤ) : RowUpdate Token where
  apply token :=
    { token with
      remainQuota := token.remainQuota + quota
      usedQuota := token.usedQuota - quota
      accessedTime := now }
  key_apply _ := rfl

/-- `remain_quota - quota`, `used_quota + quota`. -/
def subQuota (quota now : ℤ) : RowUpdate Token where
  apply token :=
    { token with
      remainQuota := token.remainQuota - quota
      usedQuota := token.usedQuota + quota
      accessedTime := now }
  key_apply _ := rfl

/-- The columns that `Update` selects, as they stand in `token`. -/
def overwrite (token : Token) : RowUpdate Token where
  apply row :=
    { row with
      name := token.name
      status := token.status
      expiredTime := token.expiredTime
      remainQuota := token.remainQuota
      unlimitedQuota := token.unlimitedQuota
      modelLimitsEnabled := token.modelLimitsEnabled
      modelLimits := token.modelLimits
      allowIps := token.allowIps
      group := token.group
      crossGroupRetry := token.crossGroupRetry
      allowContextCompaction := token.allowContextCompaction
      autoGroups := token.autoGroups }
  key_apply _ := rfl

end Token

/-- The unexported `increaseTokenQuota`; `succeeds` says whether the database does. -/
def increaseTokenQuotaRow (tokens : Tokens) (id quota now : ℤ) (done : Bool) :
    Tokens × Option ModelError :=
  if done then (tokens.modify id (Token.addQuota quota now), none)
  else (tokens, some .database)

/-- The unexported `decreaseTokenQuota`. -/
def decreaseTokenQuotaRow (tokens : Tokens) (id quota now : ℤ) (done : Bool) :
    Tokens × Option ModelError :=
  if done then (tokens.modify id (Token.subQuota quota now), none)
  else (tokens, some .database)

def quotaNegativeMessage : String :=
  "quota 不能为负数！"

def increaseTokenQuota (tokens : Tokens) (stores : BatchStores) (batched : Bool)
    (id quota now : ℤ) (done : Bool) : Tokens × BatchStores × Option ModelError :=
  if quota < 0 then (tokens, stores, some (.message quotaNegativeMessage))
  else if batched then (tokens, addNewRecord stores .tokenQuota id quota, none)
  else
    let written := increaseTokenQuotaRow tokens id quota now done
    (written.1, stores, written.2)

def decreaseTokenQuota (tokens : Tokens) (stores : BatchStores) (batched : Bool)
    (id quota now : ℤ) (done : Bool) : Tokens × BatchStores × Option ModelError :=
  if quota < 0 then (tokens, stores, some (.message quotaNegativeMessage))
  else if batched then (tokens, addNewRecord stores .tokenQuota id (-quota), none)
  else
    let written := decreaseTokenQuotaRow tokens id quota now done
    (written.1, stores, written.2)

def Token.update (token : Token) (tokens : Tokens) (done : Bool) :
    Tokens × Option ModelError :=
  if done then (tokens.modify token.id token.overwrite, none) else (tokens, some .database)

def getTokenByIds (tokens : Tokens) (id userId : ℤ) : Except ModelError Token :=
  if id = 0 ∨ userId = 0 then .error (.message "id 或 userId 为空！")
  else
    match tokens.find? id with
    | some token => if token.userId = userId then .ok token else .error .recordNotFound
    | none => .error .recordNotFound

def getTokenById (tokens : Tokens) (id : ℤ) : Except ModelError Token :=
  if id = 0 then .error (.message "id 为空！")
  else
    match tokens.find? id with
    | some token => .ok token
    | none => .error .recordNotFound

/-- `DisableModelLimits` up to its `Update`: the row that it is going to write. -/
def disableModelLimits (tokens : Tokens) (id : ℤ) : Except ModelError Token := do
  let token ← getTokenById tokens id
  return { token with modelLimitsEnabled := false, modelLimits := "" }

/-- The request of `UpdateToken`, as far as its checks and a change of status read it. -/
structure TokenRequest where
  id : ℤ
  name : String
  (status remainQuota : ℤ)
  unlimitedQuota : Bool

/-- The checks of `UpdateToken` before it reads the row; `maxQuotaValue` is
`1000000000 * QuotaPerUnit`. -/
def checkTokenRequest (maxQuotaValue : ℤ) (req : TokenRequest) : Except ModelError Unit := do
  if 50 < req.name.utf8ByteSize then
    throw (.message "token.name_too_long")
  if !req.unlimitedQuota then
    if req.remainQuota < 0 then
      throw (.message "token.quota_negative")
    if maxQuotaValue < req.remainQuota then
      throw (.message "token.quota_exceed_max")

/-- The checks of `UpdateToken` that a token may be enabled again. -/
def checkTokenEnable (token : Token) (status now : ℤ) : Except ModelError Unit := do
  if status = tokenStatusEnabled then
    if token.status = tokenStatusExpired ∧ token.expiredTime ≤ now ∧
        token.expiredTime ≠ -1 then
      throw (.message "token.expired_cannot_enable")
    if token.status = tokenStatusExhausted ∧ token.remainQuota ≤ 0 ∧
        !token.unlimitedQuota then
      throw (.message "token.exhausted_cannot_enable")

/-- `UpdateToken` with `status_only` up to its `Update`: the row that it is going to write. -/
def updateTokenStatusOnly (tokens : Tokens) (maxQuotaValue userId : ℤ) (req : TokenRequest)
    (now : ℤ) : Except ModelError Token := do
  checkTokenRequest maxQuotaValue req
  let cleanToken ← getTokenByIds tokens req.id userId
  checkTokenEnable cleanToken req.status now
  return { cleanToken with status := req.status }

end NewApi.Quota
