import NewApi.Auth.AuthFlow

/-!
# Flows and assertions are consumed once

What the runs of the authentication flows keep: a row is consumed by the commit of one
transaction, whose writes become visible with it, and an assertion keeps its row for as long as
it is claimed, provided that all claims of it come within the retention of the first one.
-/

namespace NewApi.Auth

namespace AuthFlowSystem

/-! ## What is claimed -/

/-- A flow is consumed once, in time and by a match, with the effects of its action, and stays
consumable as long as it is not. -/
structure FlowsOnce (digest : String → String) (jobs : ℕ → FlowJob)
    (s : AuthFlowSystem) : Prop where
  once : (s.consumptions.map Consumption.token).Nodup
  valid : ∀ spend ∈ s.consumptions, spend.flow.unconsumed ∈ s.created ∧
      spend.flow.tokenHash = digest spend.token ∧
      spend.wanted.Accepts spend.flow ∧
      ∃ now ∈ spend.flow.consumedAt, now < spend.flow.expiresAt
  effects : ∀ t token wanted action, jobs t = .consume token wanted action →
    (∀ spend ∈ s.consumptions, spend.thread = t →
      s.effectsOf t = (action spend.flow).filterMap ActionStep.effect?) ∧
    ((∀ spend ∈ s.consumptions, spend.thread ≠ t) →
      s.effectsOf t = [])
  consumable : ∀ flow ∈ s.created,
    (∀ spend ∈ s.consumptions, spend.flow.tokenHash ≠ flow.tokenHash) →
      ∀ row ∈ s.flows, row.id = flow.id → row = flow

/-! ## Steps -/

/-- A statement does not wait, and a created token was not drawn before. -/
def Allowed (t : ℕ) (call : AuthFlowCall) (done : Bool) (s : AuthFlowSystem) :
    Prop :=
  (done = true → ¬s.Waits t call) ∧
    match call with
    | .create flow => flow.tokenHash ∉ s.created.map AuthFlow.tokenHash
    | _ => True

instance (t : ℕ) (call : AuthFlowCall) (done : Bool) (s : AuthFlowSystem) :
    Decidable (Allowed t call done s) :=
  @instDecidableAnd _ _ _ <|
    match call with
    | .create _ => inferInstanceAs (Decidable (_ ∉ _))
    | .now | .firstFlow _ _ | .consume _ _ | .claim _ _ _ | .write _ | .commit _ _ _ | .rollback
    | .deleteExpired _ => .isTrue trivial

/-- A claim of an assertion that has been claimed comes within the retention of that claim. -/
def Careful (t : ℕ) (call : AuthFlowCall) (done : Bool) (s : AuthFlowSystem) : Prop :=
  Allowed t call done s ∧
    match call with
    | .claim _ purpose assertion =>
      ∀ claim ∈ s.claims, claim.2 = (purpose, assertion) →
        ∀ claimed ∈ claim.1.consumedAt, s.now ≤ claimed + authFlowDefaultCleanupRetention
    | _ => True

instance (t : ℕ) (call : AuthFlowCall) (done : Bool) (s : AuthFlowSystem) :
    Decidable (Careful t call done s) :=
  @instDecidableAnd _ _ _ <|
    match call with
    | .claim _ _ _ =>
      inferInstanceAs (Decidable (∀ claim ∈ s.claims, _ → ∀ claimed ∈ claim.1.consumedAt, _))
    | .now | .firstFlow _ _ | .consume _ _ | .write _ | .commit _ _ _ | .rollback | .create _
    | .deleteExpired _ => .isTrue trivial

/-! ## The invariant -/

def inserts (s : AuthFlowSystem) : List AuthFlow :=
  s.pending.filterMap fun write => write.2.inserted?

def claiming (s : AuthFlowSystem) : List (AuthFlow × String × String) :=
  s.pending.filterMap fun write => write.2.claimed?

def consuming (s : AuthFlowSystem) : List ℤ :=
  s.pending.filterMap fun write => write.2.consumed?

/-- The rows, what the transactions are about to do to them, and what has been consumed. -/
structure RowsSound (digest : String → String) (s : AuthFlowSystem) : Prop where
  hashes : ((s.flows ++ s.inserts).map AuthFlow.tokenHash).Nodup
  rowIds : ∀ row ∈ s.flows ++ s.inserts, row.id < s.nextId
  createdIds : ∀ flow ∈ s.created, flow.id < s.nextId
  same : ∀ row ∈ s.flows, ∀ flow ∈ s.created, row.id = flow.id →
    row.unconsumed = flow
  insertIds : ∀ row ∈ s.inserts, ∀ flow ∈ s.created, row.id ≠ flow.id
  unconsumed : ∀ row ∈ s.flows, row.consumedAt = none → row ∈ s.created
  insertsConsumed : ∀ row ∈ s.inserts, row.consumedAt ≠ none
  consumable : ∀ id ∈ s.consuming, ∃ row ∈ s.flows, row.id = id ∧
    row.consumedAt = none
  consumingOnce : s.consuming.Nodup
  spent : ∀ spend ∈ s.consumptions, ∀ row ∈ s.flows,
    row.tokenHash = spend.flow.tokenHash → row.consumedAt ≠ none
  once : (s.consumptions.map (·.flow.tokenHash)).Nodup
  valid : ∀ spend ∈ s.consumptions, spend.flow.unconsumed ∈ s.created ∧
      spend.flow.tokenHash = digest spend.token ∧
      spend.wanted.Accepts spend.flow ∧
      ∃ now ∈ spend.flow.consumedAt, now < spend.flow.expiresAt
  stored : ∀ flow ∈ s.created, (∀ spend ∈ s.consumptions, spend.flow.tokenHash ≠ flow.tokenHash) →
      ∀ row ∈ s.flows, row.id = flow.id → row = flow

/-- The committed writes of the actions are those of the calls that returned success. -/
def EffectsSound (jobs : ℕ → FlowJob) (s : AuthFlowSystem) : Prop :=
  ∀ t token wanted action, jobs t = .consume token wanted action →
    (∀ spend ∈ s.consumptions, spend.thread = t →
      s.effectsOf t = (action spend.flow).filterMap ActionStep.effect?) ∧
    ((∀ spend ∈ s.consumptions, spend.thread ≠ t) →
      s.effectsOf t = [])

/-- What holds between the rows, the effects and the claims. -/
structure Sound (digest : String → String) (jobs : ℕ → FlowJob)
    (s : AuthFlowSystem) : Prop where
  rows : RowsSound digest s
  effects : EffectsSound jobs s

section

variable {digest : String → String} {jobs : ℕ → FlowJob} {s : AuthFlowSystem} {t : ℕ}

theorem sound_start (now : ℤ) : Sound digest jobs (start now) := by
  refine ⟨?_, ?_⟩
  · constructor <;> simp [start, inserts, consuming]
  · intro consumer token wanted action _
    simp [start, effectsOf]

theorem Sound.flowsOnce (sound : Sound digest jobs s) :
    s.FlowsOnce digest jobs where
  once := by
    have hashed : (s.consumptions.map Consumption.token).map digest =
        s.consumptions.map (·.flow.tokenHash) := by
      rw [List.map_map]
      apply List.map_congr_left
      intro spend inUses
      exact (sound.rows.valid spend inUses).2.1.symm
    apply List.Nodup.of_map digest
    rw [hashed]
    exact sound.rows.once
  valid := sound.rows.valid
  effects := sound.effects
  consumable := sound.rows.stored

/-! ### Pending writes -/

theorem filterMap_perm {Value : Type} (s : AuthFlowSystem) (t : ℕ)
    (read : FlowWrite → Option Value) :
    ((s.writesOf t).filterMap read ++ (s.closed t).pending.filterMap fun write => read write.2).Perm
      (s.pending.filterMap fun write => read write.2) := by
  have split := (List.filter_append_perm (fun write : ℕ × FlowWrite => decide (write.1 = t))
    s.pending).filterMap fun write => read write.2
  rw [List.filterMap_append] at split
  simp only [writesOf, closed, List.filterMap_map]
  refine (List.Perm.of_eq ?_).trans split
  congr 2
  apply List.filter_congr
  intro write _
  simp

theorem foldl_apply_plain {writes : List FlowWrite}
    (plain : writes.filterMap FlowWrite.consumed? = []) (flows : List AuthFlow) :
    writes.foldl FlowWrite.apply flows = flows ++ writes.filterMap FlowWrite.inserted? := by
  induction writes generalizing flows with
  | nil => simp
  | cons write _ ih =>
    cases write with
    | consume _ _ => simp [FlowWrite.consumed?] at plain
    | insert _ _ _ =>
      simp only [List.filterMap_cons, FlowWrite.consumed?] at plain
      simp only [List.foldl_cons, FlowWrite.apply, List.filterMap_cons, FlowWrite.inserted?, ih
        plain, List.append_assoc, List.singleton_append]
    | effect _ =>
      simp only [List.filterMap_cons, FlowWrite.consumed?] at plain
      simp only [List.foldl_cons, FlowWrite.apply, List.filterMap_cons,
        FlowWrite.inserted?, ih plain]

theorem mem_markConsumed {id now : ℤ} {flows : List AuthFlow} {row : AuthFlow} :
    row ∈ markConsumed id now flows ↔
      (∃ flow ∈ flows, flow.id = id ∧ row = { flow with consumedAt := some now }) ∨
        (row ∈ flows ∧ row.id ≠ id) := by
  simp only [markConsumed, List.mem_map]
  constructor
  · rintro ⟨flow, stored, rfl⟩
    by_cases chosen : flow.id = id
    · exact .inl ⟨flow, stored, chosen, by simp [chosen]⟩
    · exact .inr (by simp [chosen, stored])
  · rintro (⟨flow, stored, chosen, rfl⟩ | ⟨stored, other⟩)
    · exact ⟨flow, stored, by simp [chosen]⟩
    · exact ⟨row, stored, by simp [other]⟩

theorem map_tokenHash_markConsumed (id now : ℤ) (flows : List AuthFlow) :
    (markConsumed id now flows).map AuthFlow.tokenHash = flows.map AuthFlow.tokenHash := by
  rw [markConsumed, List.map_map]
  apply List.map_congr_left
  intro flow _
  by_cases chosen : flow.id = id
  · simp [chosen]
  · simp [chosen]

theorem RowsSound.of_sublist (sound : RowsSound digest s) {later : AuthFlowSystem}
    (flows : later.flows = s.flows) (nextId : later.nextId = s.nextId)
    (made : later.created = s.created) (consumptions : later.consumptions = s.consumptions)
    (inserts : later.inserts.Sublist s.inserts) (consuming : later.consuming.Sublist s.consuming) :
    RowsSound digest later := by
  have rows : ∀ row ∈ s.flows ++ later.inserts, row ∈ s.flows ++ s.inserts := by
    intro _ inRows
    rcases List.mem_append.mp inRows with inFlows | inNew
    · exact List.mem_append_left _ inFlows
    · exact List.mem_append_right _ (inserts.subset inNew)
  constructor
  · rw [flows]
    exact sound.hashes.sublist (((List.Sublist.refl _).append inserts).map _)
  · rw [flows, nextId]
    exact fun row inRows => sound.rowIds row (rows row inRows)
  · rw [made, nextId]
    exact sound.createdIds
  · rw [flows, made]
    exact sound.same
  · rw [made]
    exact fun row inNew => sound.insertIds row (inserts.subset inNew)
  · rw [flows, made]
    exact sound.unconsumed
  · exact fun row inNew => sound.insertsConsumed row (inserts.subset inNew)
  · rw [flows]
    exact fun id consumes => sound.consumable id (consuming.subset consumes)
  · exact sound.consumingOnce.sublist consuming
  · rw [flows, consumptions]
    exact sound.spent
  · rw [consumptions]
    exact sound.once
  · rw [consumptions, made]
    exact sound.valid
  · rw [flows, made, consumptions]
    exact sound.stored

theorem inserts_writing (write : FlowWrite) :
    (s.writing t write).inserts = s.inserts ++ write.inserted?.toList := by
  simp only [inserts, writing, List.filterMap_append]
  cases inserted : write.inserted? with
  | none | some _ => simp [inserted]

theorem consuming_writing (write : FlowWrite) :
    (s.writing t write).consuming = s.consuming ++ write.consumed?.toList := by
  simp only [consuming, writing, List.filterMap_append]
  cases consumed : write.consumed? with
  | none | some _ => simp [consumed]

variable (sound : RowsSound digest s)

include sound

theorem RowsSound.writeEffect (label : String) :
    RowsSound digest (s.writing t (.effect label)) := by
  refine sound.of_sublist rfl rfl rfl rfl ?_ ?_
  · rw [inserts_writing]
    simp [FlowWrite.inserted?]
  · rw [consuming_writing]
    simp [FlowWrite.consumed?]

theorem RowsSound.closed (t : ℕ) : RowsSound digest (s.closed t) :=
  sound.of_sublist rfl rfl rfl rfl (List.filter_sublist.filterMap _)
    (List.filter_sublist.filterMap _)

theorem RowsSound.writeConsume {id now : ℤ}
    (found : (s.consumable id now).isSome = true) (new : id ∉ s.consuming) :
    RowsSound digest (s.writing t (.consume id now)) := by
  have sameInserts : (s.writing t (.consume id now)).inserts = s.inserts := by
    rw [inserts_writing]
    simp [FlowWrite.inserted?]
  have moreConsuming : (s.writing t (.consume id now)).consuming =
      s.consuming ++ [id] := consuming_writing _
  refine
    { sound with
      hashes := by
        rw [sameInserts]
        exact sound.hashes
      rowIds := by
        rw [sameInserts]
        exact sound.rowIds
      insertIds := by
        rw [sameInserts]
        exact sound.insertIds
      insertsConsumed := by
        rw [sameInserts]
        exact sound.insertsConsumed
      consumable := ?_
      consumingOnce := ?_ }
  · rw [moreConsuming]
    intro other consumes
    rcases List.mem_append.mp consumes with past | isId
    · exact sound.consumable other past
    · rcases Option.isSome_iff_exists.mp found with ⟨row, isRow⟩
      have chosen := List.find?_some isRow
      simp only [decide_eq_true_eq] at chosen
      rw [List.mem_singleton.mp isId]
      exact ⟨row, List.mem_of_find?_eq_some isRow, chosen.1, chosen.2.1⟩
  · rw [moreConsuming]
    exact List.Nodup.append sound.consumingOnce (List.nodup_singleton id)
      (List.disjoint_singleton.mpr new)

/-- A claim under a new hash keeps the rows sound. -/
theorem RowsSound.writeInsert {flow : AuthFlow} {purpose claim : String}
    (free : flow.tokenHash ∉ (s.flows ++ s.inserts).map AuthFlow.tokenHash)
    (spent : flow.consumedAt ≠ none) :
    RowsSound digest (s.inserting t flow purpose claim) := by
  have moreInserts : (s.inserting t flow purpose claim).inserts =
      s.inserts ++ [{ flow with id := s.nextId }] := by
    simp [inserts, inserting, FlowWrite.inserted?]
  have sameConsuming : (s.inserting t flow purpose claim).consuming =
      s.consuming := by
    simp [consuming, inserting, FlowWrite.consumed?]
  refine
    { sound with
      hashes := ?_
      rowIds := ?_
      createdIds := ?_
      insertIds := ?_
      insertsConsumed := ?_
      consumable := by
        rw [sameConsuming]
        exact sound.consumable
      consumingOnce := by
        rw [sameConsuming]
        exact sound.consumingOnce }
  · rw [moreInserts, ← List.append_assoc, List.map_append]
    exact List.Nodup.append sound.hashes (List.nodup_singleton _) (List.disjoint_singleton.mpr free)
  · rw [moreInserts, ← List.append_assoc]
    intro row inRows
    rcases List.mem_append.mp inRows with past | isRow
    · exact lt_trans (sound.rowIds row past) (lt_add_one _)
    · rw [List.mem_singleton.mp isRow]
      exact lt_add_one s.nextId
  · exact fun other inCreated => lt_trans (sound.createdIds other inCreated) (lt_add_one _)
  · rw [moreInserts]
    intro row inNew other inCreated
    rcases List.mem_append.mp inNew with past | isRow
    · exact sound.insertIds row past other inCreated
    · rw [List.mem_singleton.mp isRow]
      exact (sound.createdIds other inCreated).ne'
  · rw [moreInserts]
    intro row inNew
    rcases List.mem_append.mp inNew with past | isRow
    · exact sound.insertsConsumed row past
    · rw [List.mem_singleton.mp isRow]
      exact spent

/-- A flow with a new hash keeps the rows sound. -/
theorem RowsSound.create {flow : AuthFlow}
    (free : flow.tokenHash ∉ (s.flows ++ s.inserts).map AuthFlow.tokenHash)
    (isNew : flow.consumedAt = none) (fresh : flow.tokenHash ∉ s.created.map AuthFlow.tokenHash) :
    RowsSound digest
      { s with
        flows := s.flows ++ [{ flow with id := s.nextId }]
        nextId := s.nextId + 1
        created := s.created ++ [{ flow with id := s.nextId }] } := by
  have unspent : ∀ spend ∈ s.consumptions, spend.flow.tokenHash ≠ flow.tokenHash := by
    intro spend inUses sameHash
    apply fresh
    rw [← sameHash]
    exact List.mem_map.mpr ⟨_, (sound.valid spend inUses).1, rfl⟩
  have noId : ∀ row ∈ s.flows, row.id ≠ s.nextId :=
    fun row inRows => (sound.rowIds row (List.mem_append_left _ inRows)).ne
  refine
    { hashes := ?_
      rowIds := ?_
      createdIds := ?_
      same := ?_
      insertIds := ?_
      unconsumed := ?_
      insertsConsumed := sound.insertsConsumed
      consumable := ?_
      consumingOnce := sound.consumingOnce
      spent := ?_
      once := sound.once
      valid := ?_
      stored := ?_ }
  · have rearranged : ((s.flows ++ [{ flow with id := s.nextId }]) ++
        s.inserts).Perm ((s.flows ++ s.inserts) ++ [{ flow with id := s.nextId }]) := by
      rw [List.append_assoc, List.append_assoc]
      exact List.perm_append_comm.append_left _
    refine ((rearranged.map AuthFlow.tokenHash).nodup_iff).mpr ?_
    rw [List.map_append]
    exact List.Nodup.append sound.hashes (List.nodup_singleton _) (List.disjoint_singleton.mpr free)
  · intro row inRows
    rcases List.mem_append.mp inRows with inFlows | inNew
    · rcases List.mem_append.mp inFlows with past | isRow
      · exact lt_trans (sound.rowIds row (List.mem_append_left _ past)) (lt_add_one _)
      · rw [List.mem_singleton.mp isRow]
        exact lt_add_one s.nextId
    · exact lt_trans (sound.rowIds row (List.mem_append_right _ inNew)) (lt_add_one _)
  · intro other inCreated
    rcases List.mem_append.mp inCreated with past | isNewest
    · exact lt_trans (sound.createdIds other past) (lt_add_one _)
    · rw [List.mem_singleton.mp isNewest]
      exact lt_add_one s.nextId
  · intro row inRows other inCreated sameId
    rcases List.mem_append.mp inRows with past | isRow
    · rcases List.mem_append.mp inCreated with known | isNewest
      · exact sound.same row past other known sameId
      · rw [List.mem_singleton.mp isNewest] at sameId
        exact absurd sameId (noId row past)
    · rw [List.mem_singleton.mp isRow] at sameId ⊢
      rcases List.mem_append.mp inCreated with known | isNewest
      · exact absurd sameId.symm (sound.createdIds other known).ne
      · rw [List.mem_singleton.mp isNewest]
        simp [AuthFlow.unconsumed, isNew]
  · intro row inNew other inCreated
    rcases List.mem_append.mp inCreated with known | isNewest
    · exact sound.insertIds row inNew other known
    · rw [List.mem_singleton.mp isNewest]
      exact (sound.rowIds row (List.mem_append_right _ inNew)).ne
  · intro row inRows unused
    rcases List.mem_append.mp inRows with past | isRow
    · exact List.mem_append_left _ (sound.unconsumed row past unused)
    · exact List.mem_append_right _ isRow
  · intro id consumes
    rcases sound.consumable id consumes with ⟨row, stored, isId, unused⟩
    exact ⟨row, List.mem_append_left _ stored, isId, unused⟩
  · intro spend inUses row inRows sameHash
    rcases List.mem_append.mp inRows with past | isRow
    · exact sound.spent spend inUses row past sameHash
    · rw [List.mem_singleton.mp isRow] at sameHash
      exact absurd sameHash.symm (unspent spend inUses)
  · intro spend inUses
    rcases sound.valid spend inUses with ⟨known, rest⟩
    exact ⟨List.mem_append_left _ known, rest⟩
  · intro other inCreated notSpent row inRows sameId
    rcases List.mem_append.mp inRows with past | isRow
    · rcases List.mem_append.mp inCreated with known | isNewest
      · exact sound.stored other known notSpent row past sameId
      · rw [List.mem_singleton.mp isNewest] at sameId
        exact absurd sameId (noId row past)
    · rw [List.mem_singleton.mp isRow] at sameId ⊢
      rcases List.mem_append.mp inCreated with known | isNewest
      · exact absurd sameId.symm (sound.createdIds other known).ne
      · rw [List.mem_singleton.mp isNewest]

theorem RowsSound.deleteExpired {cutoff : ℤ}
    (free : ∀ id ∈ s.consuming, ∀ flow ∈ s.flows, flow.id = id → flow.stale cutoff = false) :
    RowsSound digest { s with flows := s.flows.filter fun flow => !flow.stale cutoff } := by
  have kept : ∀ row ∈ s.flows.filter (fun flow => !flow.stale cutoff),
      row ∈ s.flows := fun _ inRows => (List.mem_filter.mp inRows).1
  refine
    { sound with
      hashes := sound.hashes.sublist ((List.filter_sublist.append (List.Sublist.refl _)).map _)
      rowIds := ?_
      same := fun row inRows => sound.same row (kept row inRows)
      unconsumed := fun row inRows => sound.unconsumed row (kept row inRows)
      consumable := ?_
      spent := fun spend inUses row inRows =>
        sound.spent spend inUses row (kept row inRows)
      stored := fun flow inCreated unspent row inRows =>
        sound.stored flow inCreated unspent row (kept row inRows) }
  · intro row inRows
    rcases List.mem_append.mp inRows with inFlows | inNew
    · exact sound.rowIds row (List.mem_append_left _ (kept row inFlows))
    · exact sound.rowIds row (List.mem_append_right _ inNew)
  · intro id consumes
    rcases sound.consumable id consumes with ⟨row, stored, isId, unused⟩
    refine ⟨row, List.mem_filter.mpr ⟨stored, ?_⟩, isId, unused⟩
    simp [free id consumes row stored isId]

omit sound

theorem RowsSound.reveal (t : ℕ) (sound : RowsSound digest s)
    (plain : (s.writesOf t).filterMap FlowWrite.consumed? = []) :
    RowsSound digest (s.committed t none) := by
  have isFlows : (s.committed t none).flows =
      s.flows ++ (s.writesOf t).filterMap FlowWrite.inserted? :=
    foldl_apply_plain plain s.flows
  have isList : (s.committed t none).consumptions = s.consumptions :=
    List.append_nil _
  have split : ((s.writesOf t).filterMap FlowWrite.inserted? ++
      (s.committed t none).inserts).Perm s.inserts :=
    filterMap_perm _ _ FlowWrite.inserted?
  have mine : ∀ row ∈ (s.writesOf t).filterMap FlowWrite.inserted?,
      row ∈ s.inserts := fun _ inMine => split.subset (List.mem_append_left _ inMine)
  have others : ∀ row ∈ (s.committed t none).inserts, row ∈ s.inserts :=
    fun _ inOthers => split.subset (List.mem_append_right _ inOthers)
  have consuming : (s.committed t none).consuming.Sublist s.consuming :=
    List.filter_sublist.filterMap _
  constructor
  · rw [isFlows, List.append_assoc]
    exact (((split.append_left s.flows).map AuthFlow.tokenHash).nodup_iff).mpr sound.hashes
  · rw [isFlows, List.append_assoc]
    exact fun row inRows => sound.rowIds row ((split.append_left s.flows).subset inRows)
  · exact sound.createdIds
  · rw [isFlows]
    intro row inRows flow inCreated sameId
    rcases List.mem_append.mp inRows with stored | inMine
    · exact sound.same row stored flow inCreated sameId
    · exact absurd sameId (sound.insertIds row (mine row inMine) flow inCreated)
  · exact fun row inOthers => sound.insertIds row (others row inOthers)
  · rw [isFlows]
    intro row inRows unused
    rcases List.mem_append.mp inRows with stored | inMine
    · exact sound.unconsumed row stored unused
    · exact absurd unused (sound.insertsConsumed row (mine row inMine))
  · exact fun row inOthers => sound.insertsConsumed row (others row inOthers)
  · rw [isFlows]
    intro id consumes
    rcases sound.consumable id (consuming.subset consumes) with ⟨row, stored, rest⟩
    exact ⟨row, List.mem_append_left _ stored, rest⟩
  · exact sound.consumingOnce.sublist consuming
  · rw [isFlows, isList]
    intro spend inUses row inRows sameHash
    rcases List.mem_append.mp inRows with stored | inMine
    · exact sound.spent spend inUses row stored sameHash
    · exact sound.insertsConsumed row (mine row inMine)
  · rw [isList]
    exact sound.once
  · rw [isList]
    exact sound.valid
  · rw [isFlows, isList]
    intro flow inCreated unspent row inRows sameId
    rcases List.mem_append.mp inRows with stored | inMine
    · exact sound.stored flow inCreated unspent row stored sameId
    · exact absurd sameId (sound.insertIds row (mine row inMine) flow inCreated)

/-- The state in which the row of a committing transaction is consumed and the rest of its
writes is still to come. -/
def consumedFirst (s : AuthFlowSystem) (now : ℤ) (rest : List FlowWrite)
    (spend : Consumption) : AuthFlowSystem :=
  { s with
    flows := markConsumed spend.flow.id now s.flows
    pending := (s.closed spend.thread).pending ++ rest.map fun write => (spend.thread, write)
    consumptions := s.consumptions ++ [spend] }

/-- The writes of a transaction that consumes a flow in time. -/
structure Consumes (digest : String → String) (s : AuthFlowSystem)
    (spend : Consumption) (now : ℤ) (rest : List FlowWrite) : Prop where
  writes : s.writesOf spend.thread = .consume spend.flow.id now :: rest
  plain : rest.filterMap FlowWrite.consumed? = []
  isNow : spend.flow.consumedAt = some now
  unexpired : now < spend.flow.expiresAt
  created : spend.flow.unconsumed ∈ s.created
  hash : spend.flow.tokenHash = digest spend.token
  accepts : spend.wanted.Accepts spend.flow

/-- The write that consumes a flow keeps the rows sound. -/
theorem RowsSound.consumedFirst (sound : RowsSound digest s) {now : ℤ} {rest : List FlowWrite}
    {spend : Consumption} (uses : Consumes digest s spend now rest) :
    RowsSound digest (s.consumedFirst now rest spend) := by
  have split : (s.consumedFirst now rest spend).inserts.Perm s.inserts := by
    have all := filterMap_perm s spend.thread FlowWrite.inserted?
    rw [uses.writes] at all
    refine List.Perm.trans ?_ all
    simp only [inserts, AuthFlowSystem.consumedFirst, List.filterMap_append, List.filterMap_map,
      List.filterMap_cons, FlowWrite.inserted?]
    exact List.perm_append_comm
  have splitConsuming : (spend.flow.id ::
      (s.consumedFirst now rest spend).consuming).Perm s.consuming := by
    have all := filterMap_perm s spend.thread FlowWrite.consumed?
    have first : FlowWrite.consumed? (.consume spend.flow.id now) = some spend.flow.id := rfl
    rw [uses.writes, List.filterMap_cons_some first, uses.plain] at all
    refine List.Perm.trans (List.Perm.of_eq ?_) all
    have plain : (rest.map fun write => (spend.thread, write)).filterMap
        (fun write => write.2.consumed?) = [] := by
      rw [List.filterMap_map]
      exact uses.plain
    simp only [consuming, AuthFlowSystem.consumedFirst, List.filterMap_append, plain,
      List.append_nil, List.singleton_append]
  have isConsuming : spend.flow.id ∈ s.consuming :=
    splitConsuming.subset List.mem_cons_self
  rcases sound.consumable _ isConsuming with ⟨stored, inFlows, isId, unused⟩
  have isStored : stored = spend.flow.unconsumed := by
    have same := sound.same stored inFlows _ uses.created isId
    rw [← same]
    cases stored
    simp only at unused
    simp only [AuthFlow.unconsumed, unused]
  have sameHash : stored.tokenHash = spend.flow.tokenHash := by
    rw [isStored]
    rfl
  have onlyStored : ∀ row ∈ s.flows, row.tokenHash = spend.flow.tokenHash →
      row = stored := by
    intro _ inRows hash
    have nodup : (s.flows.map AuthFlow.tokenHash).Nodup :=
      sound.hashes.sublist ((List.sublist_append_left _ _).map _)
    exact List.inj_on_of_nodup_map nodup inRows inFlows (hash.trans sameHash.symm)
  have distinct := (splitConsuming.nodup_iff).mpr sound.consumingOnce
  constructor
  · refine (((split.append_left _).map AuthFlow.tokenHash).nodup_iff).mpr ?_
    rw [List.map_append]
    simp only [AuthFlowSystem.consumedFirst, map_tokenHash_markConsumed]
    rw [← List.map_append]
    exact sound.hashes
  · intro row inRows
    rcases List.mem_append.mp inRows with inMarked | inNew
    · rcases mem_markConsumed.mp inMarked with ⟨flow, inOld, _, rfl⟩ | ⟨inOld, _⟩
      · exact sound.rowIds flow (List.mem_append_left _ inOld)
      · exact sound.rowIds row (List.mem_append_left _ inOld)
    · exact sound.rowIds row (List.mem_append_right _ (split.subset inNew))
  · exact sound.createdIds
  · intro row inMarked flow inCreated sameId
    rcases mem_markConsumed.mp inMarked with ⟨old, inOld, _, rfl⟩ | ⟨inOld, _⟩
    · exact sound.same old inOld flow inCreated sameId
    · exact sound.same row inOld flow inCreated sameId
  · exact fun row inNew => sound.insertIds row (split.subset inNew)
  · intro row inMarked isUnconsumed
    rcases mem_markConsumed.mp inMarked with ⟨old, _, _, rfl⟩ | ⟨inOld, _⟩
    · cases isUnconsumed
    · exact sound.unconsumed row inOld isUnconsumed
  · exact fun row inNew => sound.insertsConsumed row (split.subset inNew)
  · intro id consumes
    rcases sound.consumable id (splitConsuming.subset (List.mem_cons_of_mem _ consumes)) with
      ⟨row, inOld, rowId, rowUnconsumed⟩
    refine ⟨row, mem_markConsumed.mpr (.inr ⟨inOld, ?_⟩), rowId, rowUnconsumed⟩
    intro sameId
    rw [← rowId, sameId] at consumes
    exact (List.nodup_cons.mp distinct).1 consumes
  · exact (List.nodup_cons.mp distinct).2
  · intro other inUses row inMarked hash
    rcases mem_markConsumed.mp inMarked with ⟨old, _, _, rfl⟩ | ⟨inOld, apart⟩
    · simp
    · rcases List.mem_append.mp inUses with past | isOther
      · exact sound.spent other past row inOld hash
      · rw [List.mem_singleton.mp isOther] at hash
        rw [onlyStored row inOld hash] at apart
        exact absurd isId apart
  · simp only [AuthFlowSystem.consumedFirst, List.map_append, List.map_cons, List.map_nil]
    refine List.Nodup.append sound.once (List.nodup_singleton _) (List.disjoint_singleton.mpr ?_)
    intro spent
    rcases List.mem_map.mp spent with ⟨other, inUses, hash⟩
    exact sound.spent other inUses stored inFlows (sameHash.trans hash.symm) unused
  · intro other inUses
    rcases List.mem_append.mp inUses with past | isOther
    · exact sound.valid other past
    · rw [List.mem_singleton.mp isOther]
      exact ⟨uses.created, uses.hash, uses.accepts, now, uses.isNow, uses.unexpired⟩
  · intro flow inCreated unspent row inMarked sameId
    rcases mem_markConsumed.mp inMarked with ⟨_, inOld, oldId, rfl⟩ | ⟨inOld, _⟩
    · have isFlow := sound.same stored inFlows flow inCreated (isId.trans (oldId ▸ sameId))
      have ownHash := unspent spend (List.mem_append_right _ (List.mem_singleton_self _))
      rw [← isFlow] at ownHash
      exact absurd sameHash.symm ownHash
    · exact sound.stored flow inCreated
        (fun other past => unspent other (List.mem_append_left _ past)) row inOld sameId

theorem RowsSound.commit (sound : RowsSound digest s) {now : ℤ} {rest : List FlowWrite}
    {spend : Consumption} (uses : Consumes digest s spend now rest) :
    RowsSound digest (s.committed spend.thread (some spend)) := by
  have restWrites : (s.consumedFirst now rest spend).writesOf spend.thread =
      rest := by
    simp [writesOf, AuthFlowSystem.consumedFirst, AuthFlowSystem.closed, List.filter_filter,
      List.filter_map, Function.comp_def]
  have revealed := (sound.consumedFirst uses).reveal spend.thread (by
    rw [restWrites]
    exact uses.plain)
  have samePending : ((s.consumedFirst now rest spend).closed
      spend.thread).pending = (s.closed spend.thread).pending := by
    simp [AuthFlowSystem.consumedFirst, AuthFlowSystem.closed, List.filter_filter,
      List.filter_map, Function.comp_def]
  refine revealed.of_sublist ?_ rfl rfl ?_ ?_ ?_
  · simp only [committed, uses.writes, restWrites, List.foldl_cons, FlowWrite.apply]
    rfl
  · simp [committed, AuthFlowSystem.consumedFirst]
  · simp only [inserts, committed, samePending]
    exact List.Sublist.refl _
  · simp only [consuming, committed, samePending]
    exact List.Sublist.refl _

end

end AuthFlowSystem

end NewApi.Auth
