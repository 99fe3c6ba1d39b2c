import Mathlib.Data.Int.Order.Basic

/-!
# Channel selection

`RetryParam` and `CacheGetRandomSatisfiedChannel`: a token of the group `auto` walks a list of
groups, and asks each for the priority level of its retry counter. What a group offers is a
parameter (`Availability`), which may be another one in every call.
-/

namespace NewApi.Service

variable {Channel : Type}

/-- `RetryParam`: the request of a selection and the number of its retry. -/
structure RetryParam where
  (tokenGroup modelName requestPath : String)
  retry : Option ℕ
  resetNextTry : Bool
deriving DecidableEq

namespace RetryParam

variable (param : RetryParam)

def getRetry : ℕ :=
  param.retry.getD 0

def setRetry (retry : ℕ) : RetryParam :=
  { param with retry := some retry }

def increaseRetry : RetryParam :=
  if param.resetNextTry then { param with resetNextTry := false }
  else param.setRetry (param.getRetry + 1)

def resetRetryNextTry : RetryParam :=
  { param with resetNextTry := true }

end RetryParam

/-- What a selection reads and writes in the context of its request. -/
structure SelectContext where
  autoGroups : List String
  crossGroupRetry : Bool
  autoGroupIndex : Option ℕ
  autoGroup : Option String
deriving DecidableEq

/-- What the picks of a selection meet: `GetRandomSatisfiedChannel` of a group, a model, a retry
and a path at each pick, and whether the circuit of a picked channel is open. -/
structure Availability (Channel : Type) where
  randomSatisfiedChannel : String → String → ℕ → String → ℕ → Except String (Option Channel)
  runtimeHealthOpen : ℕ → Channel → Bool

def openChannelReselectLimit : ℕ := 5

/-- The loop of `pickChannelSkippingOpen` from an attempt on. -/
def pickFrom (offers : Availability Channel) (group model : String) (retry : ℕ)
    (path : String) : ℕ → ℕ → Option Channel → Except String (Option Channel)
  | 0, _, chan => .ok chan
  | left + 1, attempt, _ =>
    match offers.randomSatisfiedChannel group model retry path attempt with
    | .error err => .error err
    | .ok none => .ok none
    | .ok (some chan) =>
      if !offers.runtimeHealthOpen attempt chan then .ok (some chan)
      else pickFrom offers group model retry path left (attempt + 1) (some chan)

def pickChannelSkippingOpen (offers : Availability Channel) (group model : String)
    (retry : ℕ) (path : String) : Except String (Option Channel) :=
  pickFrom offers group model retry path openChannelReselectLimit 0 none

/-- One question for a channel: the index of the group, the priority level, and the answer. -/
structure GroupRequest where
  (index level : ℕ)
  found : Bool
deriving DecidableEq

/-- What a selection answers and leaves behind, with the requests that it made. -/
structure Selection (Channel : Type) where
  channel : Option Channel
  selectGroup : String
  error : Option String
  param : RetryParam
  context : SelectContext
  requests : List GroupRequest

namespace Selection

variable (selection : Selection Channel)

def leave (i priorityRetry : ℕ) : Selection Channel :=
  { selection with
    param := selection.param.setRetry 0
    context := { selection.context with autoGroupIndex := some (i + 1) }
    requests := selection.requests ++ [⟨i, priorityRetry, false⟩] }

/-- The group has a channel. The next retry uses the next group when this one has had all of its
retries, and the same group otherwise. -/
def take (tries : ℤ) (i priorityRetry : ℕ) (autoGroup : String) (chan : Channel) :
    Selection Channel :=
  let exhausted := selection.context.crossGroupRetry && decide (tries ≤ priorityRetry)
  { channel := some chan
    selectGroup := autoGroup
    error := selection.error
    param := if exhausted then (selection.param.setRetry 0).resetRetryNextTry
      else selection.param
    context :=
      { selection.context with
        autoGroup := some autoGroup
        autoGroupIndex := some (if exhausted then i + 1 else i) }
    requests := selection.requests ++ [⟨i, priorityRetry, true⟩] }

end Selection

def searchGroups (tries : ℤ) (offers : Availability Channel) (startGroupIndex : ℕ) :
    List String → ℕ → Selection Channel → Selection Channel
  | [], _, selection => selection
  | autoGroup :: rest, i, selection =>
    let priorityRetry := if startGroupIndex < i then 0 else selection.param.getRetry
    match pickChannelSkippingOpen offers autoGroup selection.param.modelName priorityRetry
        selection.param.requestPath with
    | .ok (some chan) => selection.take tries i priorityRetry autoGroup chan
    | _ =>
      searchGroups tries offers startGroupIndex rest (i + 1) (selection.leave i priorityRetry)

def cacheGetRandomSatisfiedChannel (tries : ℤ) (offers : Availability Channel)
    (param : RetryParam) (ctx : SelectContext) : Selection Channel :=
  let selection : Selection Channel := ⟨none, param.tokenGroup, none, param, ctx, []⟩
  if param.tokenGroup = "auto" then
    if ctx.autoGroups = [] then
      { selection with error := some "auto groups is not enabled" }
    else
      let startGroupIndex := ctx.autoGroupIndex.getD 0
      searchGroups tries offers startGroupIndex
        (ctx.autoGroups.drop startGroupIndex) startGroupIndex selection
  else
    match pickChannelSkippingOpen offers param.tokenGroup param.modelName param.getRetry
        param.requestPath with
    | .error err =>
      { selection with
        error := some err
        requests := [⟨0, param.getRetry, false⟩] }
    | .ok chan =>
      { selection with
        channel := chan
        requests := [⟨0, param.getRetry, chan.isSome⟩] }

end NewApi.Service
