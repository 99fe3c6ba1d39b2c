import NewApi.Billing.Effect
import NewApi.Quota.BatchFlush

/-!
# One token table under direct calls and billing transactions

`DecreaseTokenQuota`, `IncreaseTokenQuota` and the runs of `batchUpdate` write the same token rows
as the transactions of durable billing operations.
-/

namespace NewApi.Quota

open NewApi.Model (BillingAction Database ModelError TokenCharged)
open Relational

namespace Token

def billing (token : Token) : Model.Token where
  id := token.id
  remainQuota := token.remainQuota
  usedQuota := token.usedQuota
  unlimitedQuota := token.unlimitedQuota

def withBilling (billed : Table Model.Token) (token : Token) : Token :=
  match billed.find? token.id with
  | some row => { token with remainQuota := row.remainQuota, usedQuota := row.usedQuota }
  | none => token

theorem id_withBilling (billed : Table Model.Token) (token : Token) :
    (token.withBilling billed).id = token.id := by
  simp only [withBilling]
  split
  · rfl
  · rfl

def charge (amount : ℤ) : RowUpdate Token where
  apply token :=
    { token with
      remainQuota := token.remainQuota - amount
      usedQuota := token.usedQuota + amount }
  key_apply _ := rfl

end Token

def billed (tokens : Tokens) : Table Model.Token :=
  tokens.map Token.billing fun _ => rfl

/-- The token table after billing has left `after` of its view. -/
def withBilled (tokens : Tokens) (after : Table Model.Token) : Tokens :=
  tokens.map (Token.withBilling after) (Token.id_withBilling after)

theorem find?_billed (tokens : Tokens) (id : ℤ) :
    (billed tokens).find? id = (tokens.find? id).map Token.billing :=
  tokens.find?_map Token.billing (fun _ => rfl) id

theorem withBilled_billed (tokens : Tokens) : withBilled tokens (billed tokens) = tokens := by
  apply Table.ext
  simp only [withBilled, Table.map]
  nth_rewrite 2 [← List.map_id tokens.rows]
  apply List.map_congr_left
  intro token stored
  have found : tokens.find? token.id = some token := Table.find?_of_mem stored
  simp only [Token.withBilling, find?_billed, found, Option.map_some]
  rfl

theorem withBilled_modify (tokens : Tokens) (id amount : ℤ) :
    withBilled tokens ((billed tokens).modify id (Model.Token.consume amount)) =
      tokens.modify id (Token.charge amount) := by
  apply Table.ext
  simp only [withBilled, Table.map, Table.modify]
  apply List.map_congr_left
  intro token stored
  have found : tokens.find? token.id = some token := Table.find?_of_mem stored
  have isKey : Keyed.key token = token.id := rfl
  rw [isKey]
  by_cases same : token.id = id
  · subst same
    have billedRow : ((billed tokens).modify token.id (Model.Token.consume amount)).find? token.id =
        some ((Model.Token.consume amount).apply token.billing) := by
      rw [Table.find?_modify_self, find?_billed, found]
      rfl
    simp only [Token.withBilling, if_true]
    rw [show (Table.mk _ _ : Table Model.Token) =
      (billed tokens).modify token.id (Model.Token.consume amount) from rfl, billedRow]
    rfl
  · have billedRow : ((billed tokens).modify id (Model.Token.consume amount)).find? token.id =
        some token.billing := by
      rw [Table.find?_modify_ne _ same, find?_billed, found]
      rfl
    simp only [Token.withBilling, if_neg same]
    rw [show (Table.mk _ _ : Table Model.Token) =
      (billed tokens).modify id (Model.Token.consume amount) from rfl, billedRow]
    rfl

theorem withBilled_charged {tokens : Tokens} {after : Table Model.Token} {id amount : ℤ}
    (charged : TokenCharged id amount (billed tokens) after) :
    (amount = 0 ∧ withBilled tokens after = tokens) ∨ ∃ token, tokens.find? id = some token ∧
        (amount ≤ 0 ∨ token.unlimitedQuota = true ∨ amount ≤ token.remainQuota) ∧
        withBilled tokens after = tokens.modify id (Token.charge amount) := by
  rcases charged with ⟨isZero, rfl⟩ | ⟨_, found, covered, rfl⟩
  · exact .inl ⟨isZero, withBilled_billed tokens⟩
  · rw [find?_billed] at found
    rcases Option.map_eq_some_iff.mp found with ⟨token, stored, rfl⟩
    exact .inr ⟨token, stored, covered, withBilled_modify tokens id amount⟩

/-- The token rows with what waits for them, and the other tables of billing; the token table
of `db` stands for nothing. -/
structure TokenSystem where
  quota : QuotaSystem
  db : Database

namespace TokenSystem

def database (s : TokenSystem) : Database :=
  { s.db with tokens := billed s.quota.tokens }

def bill (s : TokenSystem) (action : BillingAction) : TokenSystem where
  quota :=
    { s.quota with
      tokens := withBilled s.quota.tokens (s.database.next action).tokens }
  db := s.database.next action

end TokenSystem

/-- The steps of `batchUpdate`, and the records of the other types. -/
def QuotaAction.Flushes : QuotaAction → Prop
  | .addNewRecord type _ _ => type ≠ .tokenQuota
  | .batchUpdate => True
  | .advance _ => True
  | .write .. => True
  | .finish _ => True
  | _ => False

instance : DecidablePred QuotaAction.Flushes
  | .addNewRecord type _ _ => inferInstanceAs (Decidable (type ≠ .tokenQuota))
  | .batchUpdate | .advance _ | .write .. | .finish _ => .isTrue trivial
  | .increaseTokenQuota .. | .decreaseTokenQuota .. | .updateTokenStatusOnly ..
  | .disableModelLimits _ | .update .. => .isFalse id

namespace QuotaSystem

variable {s : QuotaSystem} {action : QuotaAction}

/-- The true balance of a token: what remains together with what waits for it. -/
def balance (s : QuotaSystem) (id : ℤ) : ℤ :=
  ((s.tokens.find? id).map Token.remainQuota).getD 0 + s.pending id

/-- A failed write of a run of `batchUpdate` drops a positive delta of the token. -/
def DropsCredit (s : QuotaSystem) (tokenId : ℤ) : QuotaAction → Prop
  | .write i type id _ done =>
    type = .tokenQuota ∧ id = tokenId ∧ done = false ∧
      ∃ flush ∈ s.flushes[i]?, 0 < amount flush.taken id
  | _ => False

instance (s : QuotaSystem) (tokenId : ℤ) : DecidablePred (s.DropsCredit tokenId)
  | .write i type id _ done =>
    inferInstanceAs (Decidable (type = .tokenQuota ∧ id = tokenId ∧ done = false ∧
      ∃ flush ∈ s.flushes[i]?, 0 < amount flush.taken id))
  | .increaseTokenQuota .. | .decreaseTokenQuota .. | .addNewRecord .. | .batchUpdate | .advance _
  | .finish _ | .updateTokenStatusOnly .. | .disableModelLimits _ | .update .. => .isFalse id

theorem balanced_self (sound : ∀ flush ∈ s.flushes, FlushSound flush) :
    Balanced s.tokens { s with accepted := s.pending } where
  flushes := sound
  rows := fun _ row stored => ⟨row, stored, rfl, rfl⟩

theorem next_accepted (flushes : action.Flushes) (accepted : ℤ → ℤ) :
    { s with accepted := accepted }.next action = { s.next action with accepted := accepted } := by
  cases action with
  | addNewRecord _ _ _ | batchUpdate => rfl
  | advance i =>
    simp only [next]
    cases s.flushes[i]? with
    | none => rfl
    | some flush => cases flush <;> rfl
  | write _ _ _ _ _ =>
    simp only [next]
    split
    · rfl
    · rfl
  | finish _ =>
    simp only [next]
    split
    · split
      · rfl
      · rfl
    · rfl
  | increaseTokenQuota _ _ _ _ _ | decreaseTokenQuota _ _ _ _ _ | updateTokenStatusOnly _ _ _ _
  | disableModelLimits _ | update _ _ => exact flushes.elim

theorem next_balanced (sound : ∀ flush ∈ s.flushes, FlushSound flush)
    (flushes : action.Flushes) (keeps : ¬s.DropsDelta action) :
    Balanced s.tokens { s.next action with accepted := s.pending } := by
  rw [← next_accepted flushes]
  refine (balanced_self sound).next ⟨?_, ?_, ?_⟩
  · cases action with
    | addNewRecord _ _ _ => exact flushes
    | _ => trivial
  · cases action with
    | write _ _ _ _ _ => exact keeps
    | _ => exact id
  · cases action with
    | update _ _ => exact flushes.elim
    | _ => exact id

variable {id key : ℤ} {tokens : Tokens} {row : Token}

theorem pending_le_failed {tokenId : ℤ} {i : ℕ} {now : ℤ}
    (keeps : ¬s.DropsCredit tokenId (.write i .tokenQuota id now false)) :
    (s.next (.write i .tokenQuota id now false)).tokens = s.tokens ∧ s.pending tokenId ≤
        (s.next (.write i .tokenQuota id now false)).pending tokenId := by
  simp only [next]
  split
  next stores held =>
    cases found : (stores .tokenQuota).lookup id with
    | none =>
      rw [writeKey_missing found]
      refine ⟨rfl, ?_⟩
      simp only [pending]
      rw [sum_map_set _ _ _ held]
      omega
    | some _ =>
      rw [writeKey_token found]
      refine ⟨rfl, ?_⟩
      simp only [pending]
      rw [sum_map_set _ _ _ held]
      simp only [Flush.taken, Function.update_self, amount_erase]
      by_cases same : tokenId = id
      · subst same
        have noCredit : ¬0 < amount (stores .tokenQuota) tokenId :=
          fun credit => keeps ⟨rfl, rfl, rfl, .writing stores, held, credit⟩
        simp only [if_true]
        omega
      · simp only [if_neg same]
        omega
  · exact ⟨rfl, le_refl _⟩

theorem unlimited_modify {change : RowUpdate Token}
    (keeps : ∀ token, (change.apply token).unlimitedQuota = token.unlimitedQuota) (key id : ℤ) :
    ((tokens.modify key change).find? id).map Token.unlimitedQuota =
      (tokens.find? id).map Token.unlimitedQuota := by
  by_cases same : id = key
  · subst same
    rw [Table.find?_modify_self, Option.map_map]
    simp only [Function.comp_def, keeps]
  · rw [Table.find?_modify_ne _ same]

theorem balance_modify {change : RowUpdate Token} {delta : ℤ}
    (stored : s.tokens.find? key = some row)
    (changes : (change.apply row).remainQuota = row.remainQuota + delta) (id : ℤ) :
    { s with tokens := s.tokens.modify key change }.balance id =
      s.balance id + if id = key then delta else 0 := by
  simp only [balance]
  by_cases same : id = key
  · subst same
    rw [Table.find?_modify_self, stored]
    simp only [Option.map_some, Option.getD_some, changes, if_true]
    simp only [pending]
    omega
  · rw [Table.find?_modify_ne _ same, if_neg same, add_zero]
    rfl

theorem Balanced.balance_eq (balanced : Balanced tokens s)
    {init : Token} (stored : tokens.find? id = some init) :
    s.balance id = init.remainQuota + s.accepted id := by
  rcases balanced.rows id init stored with ⟨_, found, remains, _⟩
  rw [Option.mem_def] at found
  simp only [balance, found, Option.map_some, Option.getD_some]
  exact remains

variable (sound : ∀ flush ∈ s.flushes, FlushSound flush)

include sound

theorem balance_settle {delta : ℤ} {result : Tokens × BatchStores × Option ModelError}
    (posts : Posts { s with accepted := s.pending } id delta result) {other : ℤ}
    (stored : s.tokens.find? other = some row) :
    (s.settle id delta result).balance other =
      s.balance other + if other = id ∧ result.2.2 = none then delta else 0 := by
  have after := ((balanced_self sound).settle posts).balance_eq stored
  have past : s.balance other = row.remainQuota + s.pending other := by
    simp only [balance, stored, Option.map_some, Option.getD_some]
  have same : (s.settle id delta result).balance other =
      ({ s with accepted := s.pending }.settle id delta result).balance other :=
    rfl
  rw [same, after, past]
  simp only [settle]
  by_cases accepts : result.2.2 = none
  · rw [if_pos accepts]
    by_cases isToken : other = id
    · subst isToken
      rw [Function.update_self, if_pos ⟨rfl, accepts⟩]
      omega
    · rw [Function.update_of_ne isToken, if_neg (fun both => isToken both.1)]
      omega
  · rw [if_neg accepts, if_neg (fun both => accepts both.2)]
    omega

theorem balance_le_next (flushes : action.Flushes) (keeps : ¬s.DropsCredit id action)
    (stored : s.tokens.find? id = some row) :
    s.balance id ≤ (s.next action).balance id := by
  by_cases drops : s.DropsDelta action
  · cases action with
    | write _ _ _ _ _ =>
      rcases drops with ⟨rfl, rfl, _⟩
      rcases pending_le_failed keeps with ⟨sameTokens, _⟩
      simp only [balance, sameTokens]
      omega
    | _ => exact drops.elim
  · have after := (next_balanced sound flushes drops).balance_eq stored
    have same : (s.next action).balance id =
        { s.next action with accepted := s.pending }.balance id :=
      rfl
    rw [same, after]
    simp only [balance, stored, Option.map_some, Option.getD_some]
    exact le_refl _

theorem flushes_next
    (flushes : action.Flushes) : ∀ flush ∈ (s.next action).flushes, FlushSound flush := by
  by_cases drops : s.DropsDelta action
  · cases action with
    | write _ _ _ _ _ =>
      simp only [next]
      split
      next =>
        refine flushes_set sound ?_
        simp only [writeKey]
        split
        · trivial
        · split
          · trivial
          · trivial
      · exact sound
    | _ => exact drops.elim
  · exact (next_balanced sound flushes drops).flushes

omit sound

theorem next_unlimited (flushes : action.Flushes) (id : ℤ) :
    ((s.next action).tokens.find? id).map Token.unlimitedQuota =
      (s.tokens.find? id).map Token.unlimitedQuota := by
  cases action with
  | addNewRecord _ _ _ | batchUpdate => rfl
  | advance _ =>
    simp only [next]
    split
    · rfl
    · rfl
  | write _ _ key _ _ =>
    simp only [next]
    split
    next =>
      simp only [writeKey]
      split
      · rfl
      · split
        · simp only [increaseTokenQuotaRow]
          split
          · exact unlimited_modify (fun _ => rfl) key id
          · rfl
        · rfl
    · rfl
  | finish _ =>
    simp only [next]
    split
    · split
      · rfl
      · rfl
    · rfl
  | increaseTokenQuota _ _ _ _ _ | decreaseTokenQuota _ _ _ _ _ | updateTokenStatusOnly _ _ _ _
  | disableModelLimits _ | update _ _ => exact flushes.elim

theorem increaseTokenQuota_unlimited (tokens : Tokens) (stores : BatchStores) (batched : Bool)
    (key quota now : ℤ) (done : Bool) (id : ℤ) :
    ((increaseTokenQuota tokens stores batched key quota now done).1.find? id).map
        Token.unlimitedQuota = (tokens.find? id).map Token.unlimitedQuota := by
  simp only [increaseTokenQuota, increaseTokenQuotaRow]
  split
  · rfl
  · split
    · rfl
    · split
      · exact unlimited_modify (fun _ => rfl) key id
      · rfl

theorem decreaseTokenQuota_unlimited (tokens : Tokens) (stores : BatchStores) (batched : Bool)
    (key quota now : ℤ) (done : Bool) (id : ℤ) :
    ((decreaseTokenQuota tokens stores batched key quota now done).1.find? id).map
        Token.unlimitedQuota = (tokens.find? id).map Token.unlimitedQuota := by
  simp only [decreaseTokenQuota, decreaseTokenQuotaRow]
  split
  · rfl
  · split
    · rfl
    · split
      · exact unlimited_modify (fun _ => rfl) key id
      · rfl

theorem balance_charged {after : Table Model.Token} {amount : ℤ}
    (charged : TokenCharged key amount (billed s.tokens) after) (id : ℤ) :
    { s with tokens := withBilled s.tokens after }.balance id =
        s.balance id - (if id = key then amount else 0) ∧
      ((withBilled s.tokens after).find? id).map Token.unlimitedQuota =
        (s.tokens.find? id).map Token.unlimitedQuota := by
  rcases withBilled_charged charged with ⟨isZero, same⟩ | ⟨token, stored, _, moved⟩
  · rw [same, isZero]
    refine ⟨?_, rfl⟩
    split
    · exact (sub_zero _).symm
    · exact (sub_zero _).symm
  · rw [moved]
    refine ⟨?_, unlimited_modify (fun _ => rfl) key id⟩
    have charge : ((Token.charge amount).apply token).remainQuota =
        token.remainQuota + -amount := by
      simp only [Token.charge]
      omega
    rw [balance_modify stored charge]
    split
    · omega
    · omega

theorem le_remain_of_charged {after : Table Model.Token} {amount : ℤ}
    (charged : TokenCharged key amount (billed tokens) after)
    (limited : (tokens.find? key).map Token.unlimitedQuota = some false) :
    amount ≤ 0 ∨ amount ≤ ((tokens.find? key).map Token.remainQuota).getD 0 := by
  rcases withBilled_charged charged with ⟨isZero, _⟩ | ⟨_, stored, covered, _⟩
  · exact .inl isZero.le
  · rw [stored, Option.map_some, Option.some.injEq] at limited
    rcases covered with free | unlimited | covers
    · exact .inl free
    · rw [limited] at unlimited
      cases unlimited
    · right
      simp only [stored, Option.map_some, Option.getD_some]
      exact covers

end QuotaSystem

end NewApi.Quota
