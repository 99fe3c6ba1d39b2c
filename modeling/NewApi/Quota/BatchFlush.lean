import NewApi.Library.Transition
import NewApi.Quota.Token

/-!
# Quota deltas through the batch stores

The system of `IncreaseTokenQuota`, `DecreaseTokenQuota`, `addNewRecord`, any number of runs of
`batchUpdate`, and token edits that leave the quota alone. A run of `batchUpdate` takes a lock for
each check and each swap, then writes key by key, in any order, since the maps have none; only the
keys of the token store reach the token table. An edit reads a row in one step and writes it back
in another.
-/

namespace NewApi.Quota

open NewApi.Model (ModelError)
open Relational Transition Table

/-- A run of `batchUpdate`. -/
inductive Flush where
  | checking (remaining : List BatchUpdateType)
  /-- Swapping the stores for empty ones; `taken` are the swapped ones. -/
  | swapping (taken : BatchStores) (remaining : List BatchUpdateType)
  /-- Writing the keys that `stores` still holds. -/
  | writing (stores : BatchStores)
  | finished

/-- The token deltas that a run of `batchUpdate` has taken and not written. -/
def Flush.taken : Flush → BatchStore
  | checking _ => ∅
  | swapping taken _ => taken .tokenQuota
  | writing stores => stores .tokenQuota
  | finished => ∅

def amount (store : BatchStore) (id : ℤ) : ℤ :=
  (store.lookup id).getD 0

/-- The tokens, the batch stores, the runs of `batchUpdate`, the token edits, and the accepted
deltas. -/
structure QuotaSystem where
  tokens : Tokens
  stores : BatchStores
  flushes : List Flush
  edits : List Token
  accepted : ℤ → ℤ

/-- The calls that change token quotas, and the steps of batches and of edits. -/
inductive QuotaAction where
  | increaseTokenQuota (batched : Bool) (id quota now : ℤ) (done : Bool)
  | decreaseTokenQuota (batched : Bool) (id quota now : ℤ) (done : Bool)
  /-- `addNewRecord` for a counter of users or channels. -/
  | addNewRecord (type : BatchUpdateType) (id val : ℤ)
  | batchUpdate
  /-- The next check or swap of a run of `batchUpdate`. -/
  | advance (flush : ℕ)
  /-- The write of one key of a run of `batchUpdate`. -/
  | write (flush : ℕ) (type : BatchUpdateType) (id now : ℤ) (done : Bool)
  /-- The end of a run of `batchUpdate` that has written every key. -/
  | finish (flush : ℕ)
  | updateTokenStatusOnly (maxQuotaValue userId : ℤ) (req : TokenRequest) (now : ℤ)
  | disableModelLimits (id : ℤ)
  | update (edit : ℕ) (done : Bool)

namespace QuotaSystem

/-- Nothing is batched, running or accepted. -/
def start (tokens : Tokens) : QuotaSystem where
  tokens := tokens
  stores := fun _ => ∅
  flushes := []
  edits := []
  accepted := fun _ => 0

/-- The system after a direct call on a token quota; an accepted delta is noted. -/
def settle (s : QuotaSystem) (id delta : ℤ)
    (result : Tokens × BatchStores × Option ModelError) : QuotaSystem :=
  { s with
    tokens := result.1
    stores := result.2.1
    accepted :=
      if result.2.2 = none then Function.update s.accepted id (s.accepted id + delta)
      else s.accepted }

/-- One lock section of a run of `batchUpdate`. -/
def advance (s : QuotaSystem) : Flush → BatchStores × Flush
  | .checking [] => (s.stores, .finished)
  | .checking (type :: remaining) =>
    if (s.stores type).entries = [] then (s.stores, .checking remaining)
    else (s.stores, .swapping (fun _ => ∅) batchUpdateTypes)
  | .swapping taken [] => (s.stores, .writing taken)
  | .swapping taken (type :: remaining) =>
    (Function.update s.stores type ∅,
      .swapping (Function.update taken type (s.stores type)) remaining)
  | .writing stores => (s.stores, .writing stores)
  | .finished => (s.stores, .finished)

/-- The write of one key: the error of a token write is only logged, and the other types
write to other tables. -/
def writeKey (tokens : Tokens) (stores : BatchStores) (type : BatchUpdateType) (id now : ℤ)
    (done : Bool) : Tokens × Flush :=
  match (stores type).lookup id with
  | none => (tokens, .writing stores)
  | some val =>
    let rest := Flush.writing (Function.update stores type ((stores type).erase id))
    if type = .tokenQuota then ((increaseTokenQuotaRow tokens id val now done).1, rest)
    else (tokens, rest)

def startEdit (s : QuotaSystem) : Except ModelError Token → QuotaSystem
  | .ok token => { s with edits := s.edits ++ [token] }
  | .error _ => s

def next (s : QuotaSystem) : QuotaAction → QuotaSystem
  | .increaseTokenQuota batched id quota now done =>
    s.settle id quota (Quota.increaseTokenQuota s.tokens s.stores batched id quota now done)
  | .decreaseTokenQuota batched id quota now done =>
    s.settle id (-quota) (Quota.decreaseTokenQuota s.tokens s.stores batched id quota now done)
  | .addNewRecord type id val =>
    { s with stores := Quota.addNewRecord s.stores type id val }
  | .batchUpdate => { s with flushes := s.flushes ++ [.checking batchUpdateTypes] }
  | .advance i =>
    match s.flushes[i]? with
    | some flush =>
      let advanced := s.advance flush
      { s with
        stores := advanced.1, flushes := s.flushes.set i advanced.2 }
    | none => s
  | .write i type id now done =>
    match s.flushes[i]? with
    | some (.writing stores) =>
      let written := writeKey s.tokens stores type id now done
      { s with
        tokens := written.1, flushes := s.flushes.set i written.2 }
    | _ => s
  | .finish i =>
    match s.flushes[i]? with
    | some (.writing stores) =>
      if ∀ type ∈ batchUpdateTypes, (stores type).entries = [] then
        { s with flushes := s.flushes.set i .finished }
      else s
    | _ => s
  | .updateTokenStatusOnly maxQuotaValue userId req now =>
    s.startEdit (Quota.updateTokenStatusOnly s.tokens maxQuotaValue userId req now)
  | .disableModelLimits id => s.startEdit (Quota.disableModelLimits s.tokens id)
  | .update i done =>
    match s.edits[i]? with
    | some token =>
      { s with
        tokens := (token.update s.tokens done).1
        edits := s.edits.eraseIdx i }
    | none => s

/-- The batch store of tokens is filled by the calls on token quotas only. -/
def Allowed (_ : QuotaSystem) : QuotaAction → Prop
  | .addNewRecord type _ _ => type ≠ .tokenQuota
  | _ => True

/-- No token delta waits, in the batch stores or in the stores that a run of `batchUpdate`
has taken. -/
def Drained (s : QuotaSystem) : Prop :=
  (s.stores .tokenQuota).entries = [] ∧
    ∀ flush ∈ s.flushes, flush.taken.entries = []
deriving Decidable

/-- A failed write of a run of `batchUpdate` drops a delta of an existing token. -/
def DropsDelta (s : QuotaSystem) : QuotaAction → Prop
  | .write i type id _ done =>
    type = .tokenQuota ∧ done = false ∧ (s.tokens.find? id).isSome ∧
      ∃ flush ∈ s.flushes[i]?, amount flush.taken id ≠ 0
  | _ => False

/-- An edit writes a remaining quota back that is not the stored one any more. -/
def RevertsQuota (s : QuotaSystem) : QuotaAction → Prop
  | .update i done =>
    done = true ∧ ∃ token ∈ s.edits[i]?, ∃ row ∈ s.tokens.find? token.id,
      row.remainQuota ≠ token.remainQuota
  | _ => False

/-- No delta is dropped by a failed write, and no edit writes an old quota back. -/
def Careful (s : QuotaSystem) (action : QuotaAction) : Prop :=
  s.Allowed action ∧ ¬s.DropsDelta action ∧ ¬s.RevertsQuota action

/-- Every token of the start differs by the accepted deltas, each counted once. -/
def Conserved (s : QuotaSystem) (tokens : Tokens) : Prop :=
  ∀ id, ∀ init ∈ tokens.find? id, ∃ row ∈ s.tokens.find? id,
    row.remainQuota = init.remainQuota + s.accepted id ∧
      row.usedQuota = init.usedQuota - s.accepted id

end QuotaSystem

theorem amount_empty (id : ℤ) : amount ∅ id = 0 :=
  rfl

theorem eq_empty_of_entries {store : BatchStore} (none : store.entries = []) : store = ∅ :=
  AList.ext none

theorem amount_erase (store : BatchStore) (id other : ℤ) :
    amount (store.erase id) other = if other = id then 0 else amount store other := by
  simp only [amount]
  by_cases same : other = id
  · subst same
    rw [AList.lookup_erase, if_pos rfl]
    rfl
  · rw [AList.lookup_erase_ne same, if_neg same]

theorem amount_insert (store : BatchStore) (id val other : ℤ) :
    amount (store.insert id val) other = if other = id then val else amount store other := by
  simp only [amount]
  by_cases same : other = id
  · subst same
    rw [AList.lookup_insert, if_pos rfl]
    rfl
  · rw [AList.lookup_insert_ne same, if_neg same]

theorem amount_addNewRecord (stores : BatchStores) (type : BatchUpdateType) (id val other : ℤ) :
    amount (addNewRecord stores type id val type) other =
      amount (stores type) other + if other = id then val else 0 := by
  rw [addNewRecord, Function.update_self]
  cases found : (stores type).lookup id with
  | none =>
    simp only [amount_insert]
    by_cases same : other = id
    · subst same
      simp [amount, found]
    · simp [same]
  | some _ =>
    simp only [amount_insert]
    by_cases same : other = id
    · subst same
      simp [amount, found]
    · simp [same]

theorem addNewRecord_ne (stores : BatchStores) {type other : BatchUpdateType}
    (apart : other ≠ type) (id val : ℤ) :
    addNewRecord stores type id val other = stores other :=
  Function.update_of_ne apart _ _

theorem sum_map_set {Element : Type*} (elements : List Element) (quantity : Element → ℤ)
    {i : ℕ} {old : Element} (new : Element) (held : elements[i]? = some old) :
    ((elements.set i new).map quantity).sum =
      (elements.map quantity).sum + (quantity new - quantity old) := by
  rcases List.getElem?_eq_some_iff.mp held with ⟨inside, val⟩
  rw [List.map_set, List.sum_set', dif_pos (by simpa using inside)]
  simp only [List.getElem_map, val]
  omega

namespace QuotaSystem

variable {s : QuotaSystem} {tokens : Tokens}

/-- The deltas of a token that were accepted and have not reached its row. -/
def pending (s : QuotaSystem) (id : ℤ) : ℤ :=
  amount (s.stores .tokenQuota) id + (s.flushes.map fun flush => amount flush.taken id).sum

/-- A run of `batchUpdate` swaps each store once. -/
def FlushSound : Flush → Prop
  | .swapping taken remaining => remaining.Nodup ∧ ∀ type ∈ remaining, taken type = ∅
  | _ => True

/-- Each row together with what is pending for it stands for the accepted deltas. -/
structure Balanced (tokens : Tokens) (s : QuotaSystem) : Prop where
  flushes : ∀ flush ∈ s.flushes, FlushSound flush
  rows : ∀ id, ∀ init ∈ tokens.find? id, ∃ row ∈ s.tokens.find? id,
    row.remainQuota + s.pending id = init.remainQuota + s.accepted id ∧
      row.usedQuota - s.pending id = init.usedQuota - s.accepted id

theorem Balanced.step (balanced : Balanced tokens s) {after : QuotaSystem}
    (flushes : ∀ flush ∈ after.flushes, FlushSound flush)
    (cancels : ∀ id, ∀ row ∈ s.tokens.find? id, ∃ moved ∈ after.tokens.find? id,
      moved.remainQuota + after.pending id - after.accepted id =
          row.remainQuota + s.pending id - s.accepted id ∧
        moved.usedQuota - after.pending id + after.accepted id =
          row.usedQuota - s.pending id + s.accepted id) :
    Balanced tokens after where
  flushes := flushes
  rows := by
    intro id init start
    rcases balanced.rows id init start with ⟨row, stored, _, _⟩
    rcases cancels id row stored with ⟨moved, storedAfter, _, _⟩
    exact ⟨moved, storedAfter, by omega, by omega⟩

theorem Balanced.move (balanced : Balanced tokens s) {after : QuotaSystem}
    (flushes : ∀ flush ∈ after.flushes, FlushSound flush)
    (sameTokens : after.tokens = s.tokens) (sameAccepted : after.accepted = s.accepted)
    (samePending : ∀ id, after.pending id = s.pending id) : Balanced tokens after := by
  refine balanced.step flushes ?_
  intro id row stored
  rw [sameTokens, sameAccepted, samePending id]
  exact ⟨row, stored, rfl, rfl⟩

/-- What a call of one of the two quota functions does with its delta. -/
inductive Posts (s : QuotaSystem) (id delta : ℤ) :
    Tokens × BatchStores × Option ModelError → Prop where
  | refused (error : ModelError) : Posts s id delta (s.tokens, s.stores, some error)
  | batched : Posts s id delta
      (s.tokens, addNewRecord s.stores .tokenQuota id delta, none)
  | written (change : RowUpdate Token)
      (remains : ∀ token, (change.apply token).remainQuota = token.remainQuota + delta)
      (used : ∀ token, (change.apply token).usedQuota = token.usedQuota - delta) :
      Posts s id delta (s.tokens.modify id change, s.stores, none)

theorem increaseTokenQuota_posts (s : QuotaSystem) (batched : Bool) (id quota now : ℤ)
    (done : Bool) :
    Posts s id quota (increaseTokenQuota s.tokens s.stores batched id quota now done) := by
  simp only [increaseTokenQuota, increaseTokenQuotaRow]
  split
  · exact .refused _
  · split
    · exact .batched
    · cases done with
      | true => exact .written _ (fun _ => rfl) (fun _ => rfl)
      | false => exact .refused _

theorem decreaseTokenQuota_posts (s : QuotaSystem) (batched : Bool) (id quota now : ℤ)
    (done : Bool) :
    Posts s id (-quota) (decreaseTokenQuota s.tokens s.stores batched id quota now done) := by
  simp only [decreaseTokenQuota, decreaseTokenQuotaRow]
  split
  · exact .refused _
  · split
    · exact .batched
    · cases done with
      | true =>
        refine .written _ (fun token => ?_) (fun token => ?_)
        · exact Int.sub_eq_add_neg
        · simp only [Token.subQuota]
          omega
      | false => exact .refused _

theorem Balanced.settle (balanced : Balanced tokens s) {id delta : ℤ}
    {result : Tokens × BatchStores × Option ModelError} (posts : Posts s id delta result) :
    Balanced tokens (s.settle id delta result) := by
  cases posts with
  | refused _ => exact balanced.move balanced.flushes rfl rfl fun _ => rfl
  | batched =>
    refine balanced.step balanced.flushes ?_
    intro other row stored
    have pending : (s.settle id delta
        (s.tokens, addNewRecord s.stores .tokenQuota id delta, none)).pending other =
        s.pending other + if other = id then delta else 0 := by
      simp only [QuotaSystem.settle, QuotaSystem.pending, amount_addNewRecord]
      omega
    refine ⟨row, stored, ?_⟩
    rw [pending]
    by_cases same : other = id
    · subst same
      simp only [QuotaSystem.settle, if_true, Function.update_self]
      omega
    · simp [QuotaSystem.settle, same]
  | written change remains used =>
    refine balanced.step balanced.flushes ?_
    intro other row stored
    by_cases same : other = id
    · subst same
      have found : (s.tokens.modify other change).find? other = some (change.apply row) := by
        rw [find?_modify_self, stored]
        rfl
      refine ⟨change.apply row, found, ?_⟩
      simp only [QuotaSystem.settle, if_true, Function.update_self, remains, used]
      simp only [QuotaSystem.pending]
      omega
    · refine ⟨row, ?_, ?_⟩
      · simp only [QuotaSystem.settle]
        rw [find?_modify_ne _ same]
        exact stored
      · simp [QuotaSystem.settle, QuotaSystem.pending, same]

theorem advance_moves (s : QuotaSystem) {flush : Flush} (sound : FlushSound flush) (id : ℤ) :
    FlushSound (s.advance flush).2 ∧
      amount ((s.advance flush).1 .tokenQuota) id + amount (s.advance flush).2.taken id =
        amount (s.stores .tokenQuota) id + amount flush.taken id := by
  cases flush with
  | checking remaining =>
    cases remaining with
    | nil => exact ⟨trivial, rfl⟩
    | cons _ _ =>
      simp only [advance]
      split
      · exact ⟨trivial, rfl⟩
      · exact ⟨⟨by decide, fun _ _ => rfl⟩, rfl⟩
  | swapping _ remaining =>
    cases remaining with
    | nil => exact ⟨trivial, rfl⟩
    | cons type _ =>
      rcases sound with ⟨nodup, untaken⟩
      rcases List.nodup_cons.mp nodup with ⟨notRest, nodupRest⟩
      simp only [advance]
      refine ⟨⟨nodupRest, ?_⟩, ?_⟩
      · intro other isIn
        have apart : other ≠ type := fun same => notRest (same ▸ isIn)
        rw [Function.update_of_ne apart]
        exact untaken other (List.mem_cons_of_mem _ isIn)
      · simp only [Flush.taken]
        by_cases same : type = .tokenQuota
        · subst same
          rw [Function.update_self, Function.update_self, untaken .tokenQuota List.mem_cons_self]
          simp only [amount_empty]
          omega
        · rw [Function.update_of_ne (Ne.symm same), Function.update_of_ne (Ne.symm same)]
  | writing _ | finished => exact ⟨trivial, rfl⟩

theorem flushes_set {flushes : List Flush} {i : ℕ} {new : Flush}
    (sound : ∀ flush ∈ flushes, FlushSound flush) (newSound : FlushSound new) :
    ∀ flush ∈ flushes.set i new, FlushSound flush := by
  intro flush inSet
  rcases List.mem_or_eq_of_mem_set inSet with old | rfl
  · exact sound flush old
  · exact newSound

theorem Balanced.advance (balanced : Balanced tokens s) {i : ℕ} {flush : Flush}
    (held : s.flushes[i]? = some flush) :
    Balanced tokens
      { s with
        stores := (s.advance flush).1
        flushes := s.flushes.set i (s.advance flush).2 } := by
  have sound := balanced.flushes flush (List.mem_of_getElem? held)
  have moves := s.advance_moves sound
  refine balanced.move (flushes_set balanced.flushes (moves 0).1) rfl rfl ?_
  intro id
  have conserved := (moves id).2
  simp only [pending]
  rw [sum_map_set _ _ _ held]
  omega

theorem writeKey_missing {stores : BatchStores} {type : BatchUpdateType} {id now : ℤ}
    {done : Bool} (missing : (stores type).lookup id = none) :
    writeKey tokens stores type id now done = (tokens, .writing stores) := by
  simp only [writeKey, missing]

theorem writeKey_token {stores : BatchStores} {id val now : ℤ} {done : Bool}
    (found : (stores .tokenQuota).lookup id = some val) :
    writeKey tokens stores .tokenQuota id now done =
      ((increaseTokenQuotaRow tokens id val now done).1,
        .writing (Function.update stores .tokenQuota ((stores .tokenQuota).erase id))) := by
  simp only [writeKey, found, if_true]

theorem writeKey_other {stores : BatchStores} {type : BatchUpdateType} {id val now : ℤ}
    {done : Bool} (found : (stores type).lookup id = some val) (other : type ≠ .tokenQuota) :
    writeKey tokens stores type id now done =
      (tokens, .writing (Function.update stores type ((stores type).erase id))) := by
  simp only [writeKey, found, if_neg other]

variable (balanced : Balanced tokens s)

include balanced

/-- The write of one key of a batch keeps the balance unless it drops its delta. -/
theorem Balanced.writeKey {i : ℕ} {stores : BatchStores} {type : BatchUpdateType} {id now : ℤ}
    {done : Bool} (held : s.flushes[i]? = some (.writing stores))
    (keeps : ¬s.DropsDelta (.write i type id now done)) :
    Balanced tokens
      { s with
        tokens := (writeKey s.tokens stores type id now done).1
        flushes := s.flushes.set i (writeKey s.tokens stores type id now done).2 } := by
  cases found : (stores type).lookup id with
  | none =>
    rw [writeKey_missing found]
    refine balanced.move (flushes_set balanced.flushes (by trivial)) rfl rfl ?_
    intro _
    simp only [pending]
    rw [sum_map_set _ _ _ held]
    omega
  | some val =>
    by_cases isToken : type = .tokenQuota
    · subst isToken
      rw [writeKey_token found]
      refine balanced.step (flushes_set balanced.flushes (by trivial)) ?_
      intro other row stored
      simp only [pending]
      rw [sum_map_set _ _ _ held]
      simp only [Flush.taken, Function.update_self, amount_erase]
      by_cases same : other = id
      · subst same
        have holds : amount (stores .tokenQuota) other = val := by simp [amount, found]
        cases done with
        | true =>
          refine ⟨(Token.addQuota val now).apply row, ?_, ?_, ?_⟩
          · simp only [increaseTokenQuotaRow, if_true]
            rw [find?_modify_self, stored]
            rfl
          · simp only [Token.addQuota, if_true, holds]
            omega
          · simp only [Token.addQuota, if_true, holds]
            omega
        | false =>
          have zero : val = 0 := by
            by_contra nonzero
            have exists_row : (s.tokens.find? other).isSome := by
              rw [Option.mem_def.mp stored]
              rfl
            exact keeps ⟨rfl, rfl, exists_row, .writing stores, held, by
              simpa [Flush.taken, holds] using nonzero⟩
          refine ⟨row, stored, ?_, ?_⟩
          · simp only [if_true, holds]
            omega
          · simp only [if_true, holds]
            omega
      · refine ⟨row, ?_, ?_, ?_⟩
        · cases done with
          | true =>
            simp only [increaseTokenQuotaRow, if_true]
            rw [find?_modify_ne _ same]
            exact stored
          | false => exact stored
        · simp only [if_neg same]
          omega
        · simp only [if_neg same]
          omega
    · rw [writeKey_other found isToken]
      refine balanced.move (flushes_set balanced.flushes (by trivial)) rfl rfl ?_
      intro _
      simp only [pending]
      rw [sum_map_set _ _ _ held]
      simp only [Flush.taken, Function.update_of_ne (Ne.symm isToken)]
      omega

theorem Balanced.update {i : ℕ} {token : Token} {done : Bool} (held : s.edits[i]? = some token)
    (keeps : ¬s.RevertsQuota (.update i done)) :
    Balanced tokens
      { s with
        tokens := (token.update s.tokens done).1
        edits := s.edits.eraseIdx i } := by
  refine balanced.step balanced.flushes ?_
  intro id row stored
  cases done with
  | false => exact ⟨row, stored, rfl, rfl⟩
  | true =>
    by_cases same : id = token.id
    · subst same
      have unchanged : row.remainQuota = token.remainQuota := by
        by_contra moved
        exact keeps ⟨rfl, token, held, row, stored, moved⟩
      refine ⟨token.overwrite.apply row, ?_, ?_⟩
      · simp only [Token.update, if_true]
        rw [find?_modify_self, stored]
        rfl
      · simp only [Token.overwrite, unchanged]
        exact ⟨rfl, rfl⟩
    · refine ⟨row, ?_, rfl, rfl⟩
      simp only [Token.update, if_true]
      rw [find?_modify_ne _ same]
      exact stored

theorem Balanced.startEdit (read : Except ModelError Token) :
    Balanced tokens (s.startEdit read) := by
  cases read with
  | ok _ => exact balanced.move balanced.flushes rfl rfl fun _ => rfl
  | error _ => exact balanced

theorem Balanced.next {action : QuotaAction}
    (care : s.Careful action) : Balanced tokens (s.next action) := by
  rcases care with ⟨allowed, keepsDelta, keepsQuota⟩
  cases action with
  | increaseTokenQuota batched id quota now done =>
    exact balanced.settle (s.increaseTokenQuota_posts batched id quota now done)
  | decreaseTokenQuota batched id quota now done =>
    exact balanced.settle (s.decreaseTokenQuota_posts batched id quota now done)
  | addNewRecord type _ _ =>
    refine balanced.move balanced.flushes rfl rfl ?_
    intro _
    have apart : BatchUpdateType.tokenQuota ≠ type := Ne.symm allowed
    simp only [QuotaSystem.next, pending]
    rw [addNewRecord_ne _ apart]
  | batchUpdate =>
    refine balanced.move ?_ rfl rfl ?_
    rotate_left
    · intro _
      simp [QuotaSystem.next, pending, Flush.taken, amount_empty]
    · intro flush inFlushes
      rcases List.mem_append.mp inFlushes with old | new
      · exact balanced.flushes flush old
      · rw [List.mem_singleton.mp new]
        trivial
  | advance i =>
    simp only [QuotaSystem.next]
    cases held : s.flushes[i]? with
    | none => exact balanced
    | some _ => exact balanced.advance held
  | write _ _ _ _ _ =>
    simp only [QuotaSystem.next]
    split
    next held => exact balanced.writeKey held keepsDelta
    · exact balanced
  | finish _ =>
    simp only [QuotaSystem.next]
    split
    next stores held =>
      split
      next written =>
        refine balanced.move (flushes_set balanced.flushes (by trivial)) rfl rfl ?_
        intro _
        have none : stores .tokenQuota = ∅ :=
          eq_empty_of_entries (written .tokenQuota (by decide))
        simp only [pending]
        rw [sum_map_set _ _ _ held]
        simp only [Flush.taken, none]
        omega
      · exact balanced
    · exact balanced
  | updateTokenStatusOnly _ _ _ _ | disableModelLimits _ => exact balanced.startEdit _
  | update i _ =>
    simp only [QuotaSystem.next]
    cases held : s.edits[i]? with
    | none => exact balanced
    | some _ => exact balanced.update held keepsQuota

omit balanced

theorem balanced_start (tokens : Tokens) : Balanced tokens (start tokens) where
  flushes := nofun
  rows := fun _ init stored => ⟨init, stored, rfl, rfl⟩

theorem pending_of_drained (drained : s.Drained) (id : ℤ) : s.pending id = 0 := by
  rcases drained with ⟨noneStored, noneTaken⟩
  have stored : amount (s.stores .tokenQuota) id = 0 := by
    rw [eq_empty_of_entries noneStored]
    rfl
  have taken : (s.flushes.map fun flush => amount flush.taken id).sum = 0 := by
    apply List.sum_eq_zero
    intro _ inMap
    rcases List.mem_map.mp inMap with ⟨flush, inFlushes, rfl⟩
    rw [eq_empty_of_entries (noneTaken flush inFlushes)]
    rfl
  rw [pending, stored, taken]
  rfl

/-- In every run whose steps are careful, the rows show exactly the accepted deltas once no
delta waits any more. -/
theorem quota_conserved (reached : Reachable next Careful (start tokens) s)
    (drained : s.Drained) : s.Conserved tokens := by
  have balanced : Balanced tokens s :=
    reached.invariant (Balanced tokens) (fun _ _ careful kept => kept.next careful)
      (balanced_start tokens)
  intro id init stored
  rcases balanced.rows id init stored with ⟨row, found, _, _⟩
  have none := pending_of_drained drained id
  exact ⟨row, found, by omega, by omega⟩

def chargedTokens : Tokens where
  rows :=
    [{ id := 1, userId := 7, key := "k", status := 1, name := "t", accessedTime := 0,
       expiredTime := -1, remainQuota := 100, unlimitedQuota := false,
       modelLimitsEnabled := true, modelLimits := "m", allowIps := none, usedQuota := 0,
       group := "", crossGroupRetry := false, allowContextCompaction := false,
       autoGroups := "" }]
  keys_nodup := by decide

/-- A batched charge of 30 and a run of `batchUpdate` whose token write succeeds or fails. -/
def flushedCharge (done : Bool) : List QuotaAction :=
  [.decreaseTokenQuota true 1 30 5 true, .batchUpdate] ++ List.replicate 8 (.advance 0) ++
    [.write 0 .tokenQuota 1 9 done, .finish 0]

instance (s : QuotaSystem) : DecidablePred s.Allowed
  | .addNewRecord type _ _ => inferInstanceAs (Decidable (type ≠ .tokenQuota))
  | .increaseTokenQuota .. | .decreaseTokenQuota .. | .batchUpdate | .advance _ | .write ..
  | .finish _ | .updateTokenStatusOnly .. | .disableModelLimits _ | .update .. => .isTrue trivial

instance (s : QuotaSystem) : DecidablePred s.DropsDelta
  | .write i type id _ done =>
    inferInstanceAs (Decidable (type = .tokenQuota ∧ done = false ∧ _ ∧
      ∃ flush ∈ s.flushes[i]?, amount flush.taken id ≠ 0))
  | .increaseTokenQuota .. | .decreaseTokenQuota .. | .addNewRecord .. | .batchUpdate | .advance _
  | .finish _ | .updateTokenStatusOnly .. | .disableModelLimits _ | .update .. => .isFalse id

instance (s : QuotaSystem) : DecidablePred s.RevertsQuota
  | .update i done =>
    inferInstanceAs (Decidable (done = true ∧ ∃ token ∈ s.edits[i]?,
      ∃ row ∈ s.tokens.find? token.id, row.remainQuota ≠ token.remainQuota))
  | .increaseTokenQuota .. | .decreaseTokenQuota .. | .addNewRecord .. | .batchUpdate | .advance _
  | .write .. | .finish _ | .updateTokenStatusOnly .. | .disableModelLimits _ => .isFalse id

instance (s : QuotaSystem) : DecidablePred s.Careful :=
  fun _ => inferInstanceAs (Decidable (_ ∧ _ ∧ _))

theorem quota_conserved_flushed :
    ((flushedCharge true).foldl next (start chargedTokens)).Conserved chargedTokens :=
  quota_conserved (Reachable.of_run (flushedCharge true) (start chargedTokens) (by decide))
    (by decide)

theorem not_conserved {actions : List QuotaAction}
    (accepted : (actions.foldl next (start chargedTokens)).accepted 1 = -30)
    (remains : ((actions.foldl next (start chargedTokens)).tokens.find? 1).map
      Token.remainQuota = some 100) :
    ¬(actions.foldl next (start chargedTokens)).Conserved chargedTokens := by
  intro conserved
  have found : (chargedTokens.find? 1).map Token.remainQuota = some 100 := by decide
  rcases Option.map_eq_some_iff.mp found with ⟨init, stored, _⟩
  rcases conserved 1 init stored with ⟨_, storedAfter, _, _⟩
  rw [Option.mem_def.mp storedAfter, Option.map_some, Option.some.injEq] at remains
  omega

/-- A failed write of `batchUpdate` loses the charge. -/
theorem quota_lost_by_failed_flush :
    ¬∀ (tokens : Tokens) (s : QuotaSystem),
      Reachable next Allowed (start tokens) s → s.Drained → s.Conserved tokens := by
  intro conserved
  have reached : Reachable next Allowed (start chargedTokens)
      ((flushedCharge false).foldl next (start chargedTokens)) :=
    Reachable.of_run (flushedCharge false) (start chargedTokens) (by decide)
  exact not_conserved (by decide) (by decide) (conserved chargedTokens _ reached (by decide))

end QuotaSystem

end NewApi.Quota
