import NewApi.Billing.Effect
import NewApi.Library.Postings
import Mathlib.Algebra.Group.Equiv.TypeTags
import Mathlib.Algebra.Group.Prod
import Mathlib.Tactic.Ring

/-!
# Token quota is conserved

Every operation posts its current charge to its token: the reserved quota while it is reserved,
the actual quota once it is settled, nothing once it is refunded.
-/

namespace NewApi.Model

open Relational Tally Transition Table

def BillingOperation.chargedQuota (op : BillingOperation) : ℤ :=
  match op.state with
  | .reserved => op.reservedQuota
  | .settled => op.actualQuota
  | .refunded => 0

/-- The charges of the operations of a token, playground operations left out. -/
def Database.chargedTo (db : Database) (tokenId : ℤ) : ℤ :=
  db.operations.total fun op =>
    if op.tokenId = tokenId ∧ op.isPlayground = false then
      op.chargedQuota
    else
      0

/-- A charge as it moves the pair of `remain_quota` and `used_quota`. -/
def chargePair : ℤ →+ ℤ × ℤ where
  toFun amount := (-amount, amount)
  map_zero' := rfl
  map_add' first two := Prod.ext (neg_add first two) rfl

def BillingOperation.tokenCharge (op : BillingOperation) : ℤ :=
  if op.isPlayground then 0 else op.chargedQuota

def tokenPostings : Postings Token BillingOperation ℤ (ℤ × ℤ) where
  column token := (token.remainQuota, token.usedQuota)
  account := BillingOperation.tokenId
  quantity op := chargePair op.tokenCharge

/-- A charge moves both columns by one amount, and a limited token can cover it. -/
def Coverable (unlimited : ℤ → Bool) (tokenId : ℤ) (held moved : ℤ × ℤ) : Prop :=
  ∃ amount, moved = chargePair amount ∧
    (amount ≤ 0 ∨ unlimited tokenId = true ∨ amount ≤ held.1)

def Database.unlimitedTokens (db : Database) (tokenId : ℤ) : Bool :=
  ((db.tokens.find? tokenId).map Token.unlimitedQuota).getD false

/-- What the token ledger carries along a run: reservations are not negative, and no call
creates or deletes a token or changes whether it is unlimited. -/
structure LedgerInvariant (init db : Database) : Prop where
  reservedNonneg : ∀ op ∈ db.operations.rows, 0 ≤ op.reservedQuota
  flagsKept : ∀ token ∈ db.tokens.rows, token.unlimitedQuota = init.unlimitedTokens token.id
  idsKept : db.tokens.rows.map Token.id = init.tokens.rows.map Token.id

theorem posted_tokenPostings (db : Database) (tokenId : ℤ) :
    tokenPostings.posted db.operations tokenId = chargePair (db.chargedTo tokenId) := by
  unfold Postings.posted Database.chargedTo total
  rw [map_list_sum, List.map_map]
  congr 2
  funext op
  simp only [tokenPostings, BillingOperation.tokenCharge, Function.comp_apply]
  cases op.isPlayground with
  | true => simp
  | false =>
    by_cases chosen : op.tokenId = tokenId
    · simp [chosen]
    · simp [chosen]

theorem tokenCharge_freeze {op : BillingOperation} (reserved : op.state = .reserved)
    (settlement : BillingOperationSettlement) :
    (settlement.freeze.apply op).tokenCharge - op.tokenCharge =
      if op.isPlayground then 0
      else settlement.actualQuota - op.reservedQuota := by
  cases playground : op.isPlayground with
  | true => simp [BillingOperation.tokenCharge, BillingOperationSettlement.freeze, playground]
  | false =>
    simp [BillingOperation.tokenCharge, BillingOperation.chargedQuota,
      BillingOperationSettlement.freeze, reserved, playground]

theorem tokenCharge_markRefunded {op : BillingOperation} (reserved : op.state = .reserved) :
    (markRefunded.apply op).tokenCharge - op.tokenCharge =
      if op.isPlayground then 0 else -op.reservedQuota := by
  cases playground : op.isPlayground with
  | true => simp [BillingOperation.tokenCharge, markRefunded, playground]
  | false =>
    simp [BillingOperation.tokenCharge, BillingOperation.chargedQuota, markRefunded, reserved,
      playground]

/-! ## Steps keep the invariant -/

variable {tokenId amount : ℤ} {tokens charged : Table Token} {init : Database}

variable (charges : TokenCharged tokenId amount tokens charged)

include charges in
theorem TokenCharged.flagsKept {free : ℤ → Bool}
    (flags : ∀ token ∈ tokens.rows, token.unlimitedQuota = free token.id) :
    ∀ token ∈ charged.rows, token.unlimitedQuota = free token.id := by
  rcases charges with ⟨_, rfl⟩ | ⟨_, _, _, rfl⟩
  · exact flags
  · intro token stored
    rcases mem_modify.mp stored with ⟨old, prior, _, rfl⟩ | ⟨prior, _⟩
    · exact flags old prior
    · exact flags token prior

include charges in
theorem TokenCharged.ids_eq :
    charged.rows.map Token.id = tokens.rows.map Token.id := by
  rcases charges with ⟨_, rfl⟩ | ⟨_, _, _, rfl⟩
  · rfl
  · exact map_key_change tokens.rows tokenId (Token.consume amount)

theorem reservedNonneg_modify {ops : Table BillingOperation} {key : ℤ}
    {change : RowUpdate BillingOperation}
    (keeps : ∀ op, (change.apply op).reservedQuota = op.reservedQuota)
    (nonneg : ∀ op ∈ ops.rows, 0 ≤ op.reservedQuota) :
    ∀ op ∈ (ops.modify key change).rows, 0 ≤ op.reservedQuota := by
  intro op stored
  rcases mem_modify.mp stored with ⟨old, prior, _, rfl⟩ | ⟨prior, _⟩
  · rw [keeps]
    exact nonneg old prior
  · exact nonneg op prior

theorem Effect.ledgerInvariant {db after : Database} (effect : Effect db after)
    (holds : LedgerInvariant init db) : LedgerInvariant init after := by
  rcases holds with ⟨reservedNonneg, flagsKept, idsKept⟩
  cases effect with
  | idle => exact ⟨reservedNonneg, flagsKept, idsKept⟩
  | migrate _ _ _ =>
    exact ⟨reservedNonneg_modify (fun _ => rfl) reservedNonneg, flagsKept, idsKept⟩
  | reserve _ _ _ nonneg charged =>
    refine ⟨?_, charged.flagsKept flagsKept, charged.ids_eq.trans idsKept⟩
    intro op stored
    simp only [mem_insert] at stored
    rcases stored with prior | rfl
    · exact reservedNonneg op prior
    · exact nonneg
  | settle _ _ _ _ _ _ _ _ charged =>
    exact ⟨reservedNonneg_modify (fun _ => rfl) reservedNonneg, charged.flagsKept flagsKept,
      charged.ids_eq.trans idsKept⟩
  | refund op _ found _ charged =>
    have charged := charged (reservedNonneg op (mem_of_find? found))
    exact ⟨reservedNonneg_modify (fun _ => rfl) reservedNonneg, charged.flagsKept flagsKept,
      charged.ids_eq.trans idsKept⟩

/-! ## Steps move the book -/

include charges in
theorem TokenCharged.move {free : ℤ → Bool} {ops updated : Table BillingOperation}
    (flags : ∀ token ∈ tokens.rows, token.unlimitedQuota = free token.id)
    (posts : ∀ other, tokenPostings.posted updated other =
      tokenPostings.posted ops other + if other = tokenId then chargePair amount else 0) :
    Move (Coverable free) (tokenPostings.book tokens ops) (tokenPostings.book charged updated) := by
  rcases charges with ⟨rfl, rfl⟩ | ⟨token, found, covered, rfl⟩
  · rw [Postings.book_congr]
    · exact Move.idle _
    · intro key
      simp [posts key]
  · have heldEq : (tokenPostings.book tokens ops).balance tokenId =
        some (token.remainQuota, token.usedQuota) := by
      simp [Postings.book, found, tokenPostings]
    refine Move.of_eq_post heldEq ⟨amount, rfl, ?_⟩ (Postings.book_modify ?_ posts)
    · have keyEq : token.id = tokenId := key_of_find? found
      have flag := flags token (mem_of_find? found)
      rw [keyEq] at flag
      rwa [flag] at covered
    · intro _
      exact Prod.ext (sub_eq_add_neg _ _) rfl

theorem Effect.tokenMove {db after : Database} (effect : Effect db after)
    (holds : LedgerInvariant init db) :
    Move (Coverable init.unlimitedTokens) (tokenPostings.book db.tokens db.operations)
      (tokenPostings.book after.tokens after.operations) := by
  cases effect with
  | idle => exact Move.idle _
  | migrate existing live found =>
    rw [Postings.book_congr]
    · exact Move.idle _
    · intro _
      symm
      have sameCharge : (live.adopt.apply existing).tokenCharge = existing.tokenCharge := rfl
      rw [Postings.posted_modify found live.adopt rfl]
      simp [tokenPostings, sameCharge]
  | reserve _ _ _ _ charged =>
    refine charged.move holds.flagsKept ?_
    intro _
    rw [Postings.posted_insert]
    rfl
  | settle _ settlement _ _ _ _ found reserved charged =>
    refine charged.move holds.flagsKept ?_
    intro _
    rw [Postings.posted_modify found settlement.freeze rfl]
    simp only [tokenPostings, ← map_sub, tokenCharge_freeze reserved]
  | refund op _ found reserved charged =>
    have nonneg := holds.reservedNonneg op (mem_of_find? found)
    refine (charged nonneg).move holds.flagsKept ?_
    intro _
    rw [Postings.posted_modify found markRefunded rfl]
    simp only [tokenPostings, ← map_sub, tokenCharge_markRefunded reserved]

/-! ## Every run -/

theorem ledgerInvariant_initial (fresh : init.operations.rows = []) :
    LedgerInvariant init init := by
  refine ⟨?_, ?_, rfl⟩
  · simp [fresh]
  · intro token stored
    have found : init.tokens.find? token.id = some token := find?_of_mem stored
    simp [Database.unlimitedTokens, found]

/-- Durable billing conserves token quota: in every reachable state every token has the sum
it started with, has used what its operations charge, and is not overdrawn. -/
theorem token_quota_conserved {init db : Database} (fresh : init.operations.rows = [])
    (reached : Reachable Database.next Unrestricted init db) :
    db.tokens.rows.map Token.id = init.tokens.rows.map Token.id ∧
      ∀ token ∈ init.tokens.rows, ∃ now, db.tokens.find? token.id = some now ∧
        now.unlimitedQuota = token.unlimitedQuota ∧
        now.remainQuota + now.usedQuota = token.remainQuota + token.usedQuota ∧
        now.usedQuota - token.usedQuota = db.chargedTo token.id ∧
        (token.unlimitedQuota = false → 0 ≤ token.remainQuota → 0 ≤ now.remainQuota) := by
  have startInvariant := ledgerInvariant_initial fresh
  have invariantNow : LedgerInvariant init db :=
    reached.invariant (LedgerInvariant init)
      (fun s action _ => (s.next_effect action).ledgerInvariant) startInvariant
  refine ⟨invariantNow.idsKept, ?_⟩
  intro token stored
  have found : init.tokens.find? token.id = some token := find?_of_mem stored
  have moves := Reachable.simulates (fun s : Database => tokenPostings.book s.tokens s.operations)
    (LedgerInvariant init) reached
    (fun s action _ => (s.next_effect action).ledgerInvariant)
    (fun s action _ => (s.next_effect action).tokenMove) startInvariant
  have startBalance : (tokenPostings.book init.tokens init.operations).balance token.id =
      some (token.remainQuota, token.usedQuota) := by
    simp [Postings.book, found, tokenPostings]
  have balanceNow := balance_of_moves moves startBalance
  have startCharge : init.chargedTo token.id = 0 := by
    simp [Database.chargedTo, total, fresh]
  simp only [Postings.book, posted_tokenPostings, startCharge, map_zero, sub_zero,
    Option.map_eq_some_iff] at balanceNow
  rcases balanceNow with ⟨now, foundNow, columns⟩
  have flag := invariantNow.flagsKept now (mem_of_find? foundNow)
  have keyEq : now.id = token.id := key_of_find? foundNow
  simp only [keyEq, Database.unlimitedTokens, found, Option.map_some, Option.getD_some] at flag
  simp only [tokenPostings, chargePair, AddMonoidHom.coe_mk, ZeroHom.coe_mk, Prod.mk_add_mk,
    Prod.mk.injEq] at columns
  refine ⟨now, foundNow, flag, by omega, by omega, ?_⟩
  intro limited startNonneg
  have keeps : ∀ (account : ℤ) (held moved : ℤ × ℤ),
      Coverable init.unlimitedTokens account held moved → (account = token.id → 0 ≤ held.1) →
        account = token.id → 0 ≤ (held + moved).1 := by
    rintro account held _ ⟨_, rfl, covered⟩ heldNonneg rfl
    have unlimitedFalse : init.unlimitedTokens token.id = false := by
      simp [Database.unlimitedTokens, found, limited]
    have := heldNonneg rfl
    simp only [unlimitedFalse, Bool.false_eq_true, false_or] at covered
    simp only [chargePair, AddMonoidHom.coe_mk, ZeroHom.coe_mk, Prod.fst_add]
    omega
  rcases invariant_of_moves (fun account held => account = token.id → 0 ≤ held.1) moves keeps
    startBalance (fun _ => startNonneg) with ⟨held, heldNow, heldNonneg⟩
  simp only [Postings.book, foundNow, Option.map_some, Option.some.injEq] at heldNow
  rw [← heldNow] at heldNonneg
  exact heldNonneg rfl

/-- A run that reserves 30 and settles at 40, with replays. -/
theorem token_quota_conserved_sample :
    ∃ now, (sampleActions.foldl Database.next sampleDatabase).tokens.find? 7 = some now ∧
      now.remainQuota + now.usedQuota = 100 ∧ now.usedQuota = 40 ∧ 0 ≤ now.remainQuota := by
  have conserved := token_quota_conserved (by rfl)
    (Reachable.foldl Database.next sampleActions sampleDatabase)
  rcases conserved.2 ⟨7, 100, 0, false⟩ (by decide) with
    ⟨now, found, _, sum, used, covered⟩
  have charged : (sampleActions.foldl Database.next sampleDatabase).chargedTo 7 = 40 := by
    decide
  simp only [charged] at used
  exact ⟨now, found, by simpa using sum, by simpa using used, covered rfl (by decide)⟩

end NewApi.Model
