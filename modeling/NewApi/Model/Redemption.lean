import NewApi.Library.Table
import NewApi.Library.Transition

/-!
# Redemption codes

Calls redeem codes side by side, with no row lock, while codes are created and deleted. A code
is paid once, to the user it is stored as used by.
-/

namespace NewApi.Model

open Relational Transition Table

/-- The states of a redemption code. -/
inductive RedemptionStatus where
  | enabled
  | disabled
  | used
deriving DecidableEq

/-- What a committed transaction has paid for a code. -/
structure Payment where
  id : ℤ
  userID : ℤ
  quota : ℤ

/-- A row of `redemptions`. -/
structure Redemption where
  id : ℤ
  key : String
  status : RedemptionStatus
  quota : ℤ
  redeemedTime : ℤ
  usedUserID : ℤ
  deleted : Bool
  expiredTime : ℤ

instance : Keyed Redemption ℤ :=
  ⟨Redemption.id⟩

namespace Redemption

def expired (now : ℤ) (redemption : Redemption) : Bool :=
  redemption.expiredTime ≠ 0 && redemption.expiredTime < now

/-- A zero `quota` takes the default of its column. -/
def build (id : ℤ) (key : String) (quota expiredTime : ℤ) : Redemption :=
  ⟨id, key, .enabled, if quota = 0 then 100 else quota, 0, 0, false, expiredTime⟩

def use (userID now : ℤ) : RowUpdate Redemption :=
  ⟨fun redemption =>
    { redemption with redeemedTime := now, status := .used, usedUserID := userID }, fun _ => rfl⟩

def delete : RowUpdate Redemption :=
  ⟨fun redemption => { redemption with deleted := true }, fun _ => rfl⟩

def payment (redemption : Redemption) : Option Payment :=
  if redemption.status = .used then
    some ⟨redemption.id, redemption.usedUserID, redemption.quota⟩
  else none

end Redemption

/-- A call of `Redeem`: its transaction has read the row and checked it, or has ended. -/
inductive RedeemCall where
  | waiting
  | checked (redemption : Redemption) (userID : ℤ)
  | redeemed (quota : ℤ)
  | failed (error : String)

/-- The steps of the calls on redemption codes. -/
inductive RedemptionAction where
  | insert (id : ℤ) (key : String) (quota expiredTime : ℤ)
  | redeem (call : ℕ) (key : String) (userID now : ℤ)
  | commit (call : ℕ) (now : ℤ) (fails : Bool)
  | deleteByID (id : ℤ)
  | deleteInvalid (now : ℤ)

/-- The codes, the quotas of users, the calls in flight, and what was paid out. -/
structure RedemptionStore where
  codes : Table Redemption
  quotas : ℤ → Option ℤ
  calls : ℕ → RedeemCall
  payments : List Payment

namespace RedemptionStore

def errRedeemFailed : String :=
  "redeem.failed"

def answer (s : RedemptionStore) (call : ℕ) (outcome : RedeemCall) : RedemptionStore :=
  { s with calls := Function.update s.calls call outcome }

def redeem (s : RedemptionStore) (key : String) (userID now : ℤ) : RedeemCall :=
  if key = "" then .failed "未提供兑换码"
  else if userID = 0 then .failed "无效的 user id"
  else
    match s.codes.rows.find? fun row => row.key = key && !row.deleted with
    | none => .failed errRedeemFailed
    | some redemption =>
      if redemption.status ≠ .enabled then .failed errRedeemFailed
      else if redemption.expired now then .failed errRedeemFailed
      else .checked redemption userID

def commit (s : RedemptionStore) (call : ℕ) (redemption : Redemption) (userID now : ℤ)
    (fails : Bool) : RedemptionStore :=
  let result := s.codes.updateWhere redemption.id
    (fun row => row.status = .enabled && !row.deleted) (Redemption.use userID now)
  if fails || result.rowsAffected = 0 then s.answer call (.failed errRedeemFailed)
  else
    { s.answer call (.redeemed redemption.quota) with
      codes := result.table
      quotas := Function.update s.quotas userID ((s.quotas userID).map (· + redemption.quota))
      payments := ⟨redemption.id, userID, redemption.quota⟩ :: s.payments }

def next (s : RedemptionStore) : RedemptionAction → RedemptionStore
  | .insert id key quota expiredTime =>
    -- The index on `key` covers deleted rows.
    if s.codes.rows.any (·.key = key) then s
    else
      match s.codes.insertOwn (.build id key quota expiredTime) with
      | some codes => { s with codes }
      | none => s
  | .redeem call key userID now =>
    match s.calls call with
    | .waiting => s.answer call (s.redeem key userID now)
    | _ => s
  | .commit call now fails =>
    match s.calls call with
    | .checked redemption userID => s.commit call redemption userID now fails
    | _ => s
  | .deleteByID id =>
    { s with codes := (s.codes.updateAll (fun row => row.id = id) Redemption.delete).table }
  | .deleteInvalid now =>
    { s with codes := (s.codes.updateAll
        (fun row => !row.deleted && (row.status ≠ .enabled || row.expired now))
        Redemption.delete).table }

/-- No code has been created. -/
def start (quotas : ℤ → Option ℤ) : RedemptionStore :=
  ⟨.empty, quotas, fun _ => .waiting, []⟩

/-- No code is paid twice, the paid codes are the used ones, and the quotas hold the payments. -/
structure Accounted (initial : ℤ → Option ℤ) (s : RedemptionStore) : Prop where
  once : (s.payments.map (·.id)).Nodup
  used : ∀ paid, paid ∈ s.payments ↔ (s.codes.find? paid.id).bind (·.payment) = some paid
  quotas : ∀ userID, s.quotas userID = (initial userID).map
    (· + ((s.payments.filter (·.userID = userID)).map (·.quota)).sum)

/-- The codes and the payments account for each other, and a checked code keeps its quota. -/
structure Sound (initial : ℤ → Option ℤ) (s : RedemptionStore) : Prop
    extends Accounted initial s where
  checked : ∀ call redemption userID, s.calls call = .checked redemption userID →
    (s.codes.find? redemption.id).map (·.quota) = some redemption.quota

variable {initial : ℤ → Option ℤ} {s : RedemptionStore} {call : ℕ}

theorem Sound.codes (sound : Sound initial s) {codes : Table Redemption}
    (payment : ∀ id, (codes.find? id).bind (·.payment) = (s.codes.find? id).bind (·.payment))
    (quota : ∀ id quota, (s.codes.find? id).map (·.quota) = some quota →
      (codes.find? id).map (·.quota) = some quota) : Sound initial { s with codes } where
  once := sound.once
  used paid := by
    rw [payment]
    exact sound.used paid
  quotas := sound.quotas
  checked call code userID isChecked :=
    quota _ _ (sound.checked call code userID isChecked)

theorem Sound.delete (sound : Sound initial s) (guard : Redemption → Bool) :
    Sound initial { s with codes := (s.codes.updateAll guard Redemption.delete).table } := by
  refine sound.codes ?_ ?_
  all_goals
    intro id
    rw [find?_updateAll]
    cases s.codes.find? id with
    | none => simp
    | some row =>
      simp only [Option.map_some, Option.bind_some]
      split
      · first | rfl | exact fun _ same => same
      · simp

theorem Sound.insert (sound : Sound initial s) {codes : Table Redemption} {id : ℤ} {key : String}
    {quota expiredTime : ℤ}
    (inserts : s.codes.insertOwn (.build id key quota expiredTime) = some codes) :
    Sound initial { s with codes } := by
  have isFree : s.codes.find? id = none := (insertOwn_some inserts).1
  refine sound.codes ?_ ?_
  all_goals
    intro other
    rw [find?_insertOwn inserts]
    by_cases same : other = id
    · subst same
      simp [isFree, Redemption.payment, Redemption.build, Keyed.key]
    · simp [Redemption.build, Keyed.key, same]

/-- A call may fail, or pass its checks on a stored row. -/
theorem Sound.answer (sound : Sound initial s) {outcome : RedeemCall}
    (checked : ∀ code userID, outcome = .checked code userID →
      (s.codes.find? code.id).map (·.quota) = some code.quota) :
    Sound initial (s.answer call outcome) where
  once := sound.once
  used := sound.used
  quotas := sound.quotas
  checked other code userID isChecked := by
    by_cases same : other = call
    · subst same
      exact checked code userID (by simpa [RedemptionStore.answer] using isChecked)
    · exact sound.checked other code userID
        (by simpa [RedemptionStore.answer, same] using isChecked)

theorem Sound.redeem (sound : Sound initial s) (key : String) (userID now : ℤ) :
    Sound initial (s.answer call (s.redeem key userID now)) := by
  refine sound.answer ?_
  intro code user isChecked
  simp only [RedemptionStore.redeem] at isChecked
  repeat' split at isChecked
  all_goals cases isChecked
  next found _ _ =>
    rw [show code.id = Keyed.key code from rfl,
      find?_of_mem (List.mem_of_find?_eq_some found), Option.map_some]

theorem Sound.commit (sound : Sound initial s) {code : Redemption} {userID : ℤ}
    (isChecked : s.calls call = .checked code userID) (now : ℤ) (fails : Bool) :
    Sound initial (s.commit call code userID now fails) := by
  simp only [RedemptionStore.commit]
  split
  · exact sound.answer (by simp)
  next paid =>
  rcases s.codes.updateWhere_cases code.id
    (fun row => row.status = .enabled && !row.deleted) (Redemption.use userID now) with
    kept | ⟨row, found, holds, moved⟩
  · simp [kept] at paid
  have enabled : row.status = .enabled := by simp_all
  have isRow : row.id = code.id := key_of_find? found
  have sameQuota : row.quota = code.quota := by
    simpa [found] using sound.checked _ _ _ isChecked
  -- The row was enabled until now, so that it is not paid yet.
  have unpaid : ∀ other ∈ s.payments, other.id ≠ code.id := by
    intro other isPaid same
    have isUsed := (sound.used other).mp isPaid
    simp [same, found, Redemption.payment, enabled] at isUsed
  rw [moved]
  refine ⟨⟨?_, ?_, ?_⟩, ?_⟩
  · refine List.nodup_cons.mpr ⟨?_, sound.once⟩
    simpa using unpaid
  · intro other
    by_cases same : other.id = code.id
    · have new : other ∉ s.payments := fun isPaid => unpaid other isPaid same
      simp only [List.mem_cons, new, or_false, same, find?_modify_self, found]
      simp [Redemption.payment, Redemption.use, isRow, sameQuota, eq_comm]
    · have apart : other ≠ ⟨code.id, userID, code.quota⟩ := by
        rintro rfl
        exact same rfl
      simp only [List.mem_cons, apart, false_or, find?_modify_ne _ same, sound.used]
  · intro user
    by_cases same : user = userID
    · subst same
      simp only [Function.update_self, sound.quotas, Option.map_map]
      congr 1
      funext held
      simp only [Function.comp_apply, decide_true, List.filter_cons_of_pos, List.map_cons,
        List.sum_cons]
      omega
    · simp [sound.quotas, same, Ne.symm same]
  · intro other again user stillChecked
    by_cases same : other = call
    · simp [RedemptionStore.answer, same] at stillChecked
    have stored := sound.checked other again user
      (by simpa [RedemptionStore.answer, same] using stillChecked)
    by_cases sameCode : again.id = code.id
    · rw [sameCode, found] at stored
      rwa [sameCode, find?_modify_self, found]
    · rwa [find?_modify_ne _ sameCode]

theorem Sound.next (sound : Sound initial s) (action : RedemptionAction) :
    Sound initial (s.next action) := by
  cases action with
  | insert id key quota expiredTime =>
    simp only [RedemptionStore.next]
    split
    · exact sound
    · split
      next inserts => exact sound.insert inserts
      · exact sound
  | redeem call key userID now =>
    simp only [RedemptionStore.next]
    split
    · exact sound.redeem key userID now
    · exact sound
  | commit call now fails =>
    simp only [RedemptionStore.next]
    split
    next isChecked => exact sound.commit isChecked now fails
    · exact sound
  | deleteByID _ => exact sound.delete _
  | deleteInvalid _ => exact sound.delete _

/-- However the calls interleave, each used code was paid once, to its user and in full. -/
theorem redeemed_once (initial : ℤ → Option ℤ) (actions : List RedemptionAction) :
    Accounted initial (actions.foldl RedemptionStore.next (start initial)) := by
  have sound := (Reachable.foldl RedemptionStore.next actions (start initial)).invariant
    (Sound initial) (fun _ action _ holds => holds.next action)
    ⟨⟨by simp [start], by simp [start, find?, empty], by simp [start]⟩, by simp [start]⟩
  exact sound.toAccounted

end RedemptionStore

end NewApi.Model
