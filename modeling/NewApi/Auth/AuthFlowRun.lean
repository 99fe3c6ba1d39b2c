import NewApi.Auth.AuthFlowOnce

/-!
# Runs of the authentication flows

Any number of clients create and consume flows, claim assertions in transactions that commit or
roll back, and clean up, between steps of the clock.
-/

namespace NewApi.Auth

open Concurrent (Action Keeps Pool Program)
open Transition

namespace AuthFlowSystem

/-! ## What the calls need -/

def assertionHash (digest : String → String) (purpose assertion : String) : String :=
  digest ("external:" ++ purpose ++ ":" ++ assertion)

def Needs (digest : String → String) (jobs : ℕ → FlowJob) (t : ℕ)
    (call : AuthFlowCall) (s : AuthFlowSystem) : Prop :=
  match call with
  | .consume _ _ => s.writesOf t = []
  | .claim flow purpose assertion =>
    (∃ now ≤ s.now, flow.consumedAt = some now ∧ now < flow.expiresAt) ∧
      flow.tokenHash = assertionHash digest purpose assertion
  | .commit token wanted (some flow) =>
    ∃ action now rest, jobs t = .consume token wanted action ∧
      Consumes digest s ⟨t, token, wanted, flow⟩ now rest ∧
      rest.filterMap FlowWrite.effect? = (action flow).filterMap ActionStep.effect? ∧
      s.effectsOf t = [] ∧
      ∀ spend ∈ s.consumptions, spend.thread ≠ t
  | .commit _ _ none =>
    (s.writesOf t).filterMap FlowWrite.consumed? = [] ∧
      ∀ token wanted action, jobs t ≠ .consume token wanted action
  | .create flow => flow.consumedAt = none ∧ s.writesOf t = []
  | .deleteExpired cutoff => cutoff + authFlowDefaultCleanupRetention ≤ s.now
  | .now | .firstFlow _ _ | .write _ | .rollback => True

def KnowsUnconsumed (s : AuthFlowSystem) : Prop :=
  ∀ row ∈ s.flows, row.consumedAt = none → row ∈ s.created

/-- What the steps of other clients leave to a client. -/
structure Rely (t : ℕ) (s later : AuthFlowSystem) : Prop where
  clock : s.now ≤ later.now
  writes : later.writesOf t = s.writesOf t
  effects : later.effectsOf t = s.effectsOf t
  mine : ∀ spend ∈ later.consumptions, spend.thread = t →
    spend ∈ s.consumptions
  created : ∀ flow ∈ s.created, flow ∈ later.created
  unconsumed : s.KnowsUnconsumed → later.KnowsUnconsumed

section

variable {digest : String → String} {jobs : ℕ → FlowJob} {s later : AuthFlowSystem} {t other : ℕ}

theorem Rely.refl (t : ℕ) (s : AuthFlowSystem) : Rely t s s :=
  ⟨le_rfl, rfl, rfl, fun _ known _ => known, fun _ known => known, fun known => known⟩

theorem Rely.trans {final : AuthFlowSystem} (first : Rely t s later)
    (second : Rely t later final) : Rely t s final where
  clock := le_trans first.clock second.clock
  writes := second.writes.trans first.writes
  effects := second.effects.trans first.effects
  mine spend known own := first.mine spend (second.mine spend known own) own
  created flow known := second.created flow (first.created flow known)
  unconsumed known := second.unconsumed (first.unconsumed known)

theorem rely_elapse (nanos : ℕ) : Rely t s (s.elapse nanos) :=
  ⟨Int.le_add_of_nonneg_right (Int.natCast_nonneg nanos), rfl, rfl,
    fun _ known _ => known, fun _ known => known, fun known => known⟩

/-! ### Writes of one thread are none of another -/

theorem writesOf_append (apart : other ≠ t) (write : FlowWrite) (pending : List (ℕ × FlowWrite)) :
    ((pending ++ [(t, write)]).filter (·.1 = other)).map (·.2) =
      (pending.filter (·.1 = other)).map (·.2) := by
  simp [List.filter_append, Ne.symm apart]

theorem writesOf_writing (write : FlowWrite) :
    (s.writing t write).writesOf t = s.writesOf t ++ [write] := by
  simp [writesOf, writing, List.filter_append]

theorem writesOf_closed (apart : other ≠ t) :
    (s.closed t).writesOf other = s.writesOf other := by
  simp only [writesOf, closed, List.filter_filter]
  congr 1
  apply List.filter_congr
  intro write _
  by_cases own : write.1 = other
  · simp [own, apart]
  · simp [own]

theorem writesOf_closed_self : (s.closed t).writesOf t = [] := by
  simp only [writesOf, closed, List.filter_filter, List.map_eq_nil_iff, List.filter_eq_nil_iff]
  intro write _
  simp

theorem rely_writing (apart : other ≠ t) (write : FlowWrite) :
    Rely other s (s.writing t write) :=
  ⟨le_rfl, writesOf_append apart write s.pending, rfl, fun _ known _ => known,
    fun _ known => known, fun known => known⟩

theorem rely_inserting (apart : other ≠ t) (flow : AuthFlow) (purpose claim : String) :
    Rely other s (s.inserting t flow purpose claim) :=
  ⟨le_rfl, writesOf_append apart _ s.pending, rfl, fun _ known _ => known,
    fun _ known => known, fun known => known⟩

theorem rely_closed (apart : other ≠ t) : Rely other s (s.closed t) :=
  ⟨le_rfl, writesOf_closed apart, rfl, fun _ known _ => known, fun _ known => known,
    fun known => known⟩

theorem effectsOf_committed (spend : Option Consumption) (apart : other ≠ t) :
    (s.committed t spend).effectsOf other = s.effectsOf other := by
  have foreign : (((s.writesOf t).filterMap FlowWrite.effect?).map
      fun label => (t, label)).filter (fun effect => effect.1 = other) = [] := by
    apply List.filter_eq_nil_iff.mpr
    intro _ inEffects
    rcases List.mem_map.mp inEffects with ⟨_, _, rfl⟩
    simp [Ne.symm apart]
  simp only [effectsOf, committed, List.filter_append, foreign, List.append_nil]

theorem effectsOf_committed_self (spend : Option Consumption) :
    (s.committed t spend).effectsOf t =
      s.effectsOf t ++ (s.writesOf t).filterMap FlowWrite.effect? := by
  simp [effectsOf, committed, List.filter_append, List.filter_map, Function.comp_def]

theorem rely_committed (apart : other ≠ t) {spend : Option Consumption}
    (own : ∀ known ∈ spend, known.thread = t) (sound : RowsSound digest (s.committed t spend)) :
    Rely other s (s.committed t spend) where
  clock := le_rfl
  writes := writesOf_closed apart
  effects := effectsOf_committed spend apart
  mine known inUses isOther := by
    rcases List.mem_append.mp inUses with earlier | isNew
    · exact earlier
    · have isThread := own known (Option.mem_toList.mp isNew)
      exact absurd (isOther.symm.trans isThread) apart
  created _ known := known
  unconsumed _ := sound.unconsumed

/-! ### The statements keep the invariant -/

/-- A step of a thread keeps the invariant and what the others rely on. -/
def Keeping (digest : String → String) (jobs : ℕ → FlowJob) (t : ℕ)
    (s later : AuthFlowSystem) : Prop :=
  Sound digest jobs later ∧ ∀ other, other ≠ t → Rely other s later

variable (sound : Sound digest jobs s)

include sound

theorem keeping_self :
    Keeping digest jobs t s s :=
  ⟨sound, fun other _ => Rely.refl other s⟩

theorem keeping_closed : Keeping digest jobs t s (s.closed t) :=
  ⟨⟨sound.rows.closed t, sound.effects⟩, fun _ apart => rely_closed apart⟩

theorem keeping_consume {id now : ℤ}
    (idle : s.writesOf t = []) (free : ¬s.Waits t (.consume id now)) :
    Keeping digest jobs t s (s.execute digest t (.consume id now)).2 := by
  simp only [execute]
  split
  next found =>
    have new : id ∉ s.consuming := by
      intro consumes
      rcases List.mem_filterMap.mp consumes with ⟨write, queued, uses⟩
      by_cases own : write.1 = t
      · have inLog : write.2 ∈ s.writesOf t :=
          List.mem_map.mpr ⟨write, List.mem_filter.mpr ⟨queued, by simp [own]⟩, rfl⟩
        rw [idle] at inLog
        cases inLog
      · exact free ⟨write, queued, own, uses⟩
    exact ⟨⟨sound.rows.writeConsume found new, sound.effects⟩, fun _ apart => rely_writing apart _⟩
  · exact keeping_self sound

omit sound

theorem hash_free {tokenHash : String} (free : ¬∃ write ∈ s.pending, write.1 ≠ t ∧
      ∃ inserted ∈ write.2.inserted?, inserted.tokenHash = tokenHash)
    (unconflicted : ¬s.Conflicts t tokenHash) :
    tokenHash ∉ (s.flows ++ s.inserts).map AuthFlow.tokenHash := by
  intro taken
  rw [List.map_append] at taken
  rcases List.mem_append.mp taken with inFlows | inNew
  · exact unconflicted (.inl inFlows)
  · rcases List.mem_map.mp inNew with ⟨row, isInsert, sameHash⟩
    rcases List.mem_filterMap.mp isInsert with ⟨write, queued, inserts⟩
    by_cases own : write.1 = t
    · apply unconflicted
      right
      refine List.mem_map.mpr ⟨row, List.mem_filterMap.mpr ⟨write.2, ?_, inserts⟩, sameHash⟩
      exact List.mem_map.mpr ⟨write, List.mem_filter.mpr ⟨queued, by simp [own]⟩, rfl⟩
    · exact free ⟨write, queued, own, row, inserts, sameHash⟩

variable (sound : Sound digest jobs s)

include sound

theorem keeping_claim {flow : AuthFlow} {purpose claim : String}
    (spent : flow.consumedAt ≠ none) (free : ¬s.Waits t (.claim flow purpose claim)) :
    Keeping digest jobs t s (s.execute digest t (.claim flow purpose claim)).2 := by
  simp only [execute]
  split
  · exact keeping_self sound
  next unconflicted =>
    exact ⟨⟨sound.rows.writeInsert (hash_free free unconflicted) spent, sound.effects⟩,
      fun _ apart => rely_inserting apart flow purpose claim⟩

theorem keeping_create {flow : AuthFlow} (isNew : flow.consumedAt = none) (idle : s.writesOf t = [])
    (free : ¬s.Waits t (.create flow)) (fresh : flow.tokenHash ∉ s.created.map AuthFlow.tokenHash) :
    Keeping digest jobs t s (s.execute digest t (.create flow)).2 := by
  simp only [execute]
  split
  · exact keeping_self sound
  next untaken =>
    have unconflicted : ¬s.Conflicts t flow.tokenHash := by
      simp only [Conflicts, idle, List.filterMap_nil, List.map_nil, List.not_mem_nil, or_false]
      exact untaken
    refine ⟨⟨sound.rows.create (hash_free free unconflicted) isNew fresh, sound.effects⟩, ?_⟩
    have after := sound.rows.create (hash_free free unconflicted) isNew fresh
    intro other _
    exact ⟨le_rfl, rfl, rfl, fun _ known _ => known,
      fun _ known => List.mem_append_left _ known, fun _ => after.unconsumed⟩

theorem keeping_deleteExpired {cutoff : ℤ} (free : ¬s.Waits t (.deleteExpired cutoff)) :
    Keeping digest jobs t s (s.execute digest t (.deleteExpired cutoff)).2 := by
  refine ⟨⟨sound.rows.deleteExpired ?_, sound.effects⟩, ?_⟩
  · intro id consumes flow stored isId
    rcases List.mem_filterMap.mp consumes with ⟨write, queued, uses⟩
    cases stale : flow.stale cutoff with
    | false => rfl
    | true => exact absurd ⟨write, queued, id, uses, flow, stored, isId, stale⟩ free
  · intro other _
    refine ⟨le_rfl, rfl, rfl, fun _ known _ => known, fun _ known => known, ?_⟩
    exact fun known row isRow => known row (List.mem_filter.mp isRow).1

theorem keeping_commitPlain (plain : (s.writesOf t).filterMap FlowWrite.consumed? = [])
    (noConsumer : ∀ token wanted action, jobs t ≠ .consume token wanted action) :
    Keeping digest jobs t s (s.committed t none) := by
  have revealed := sound.rows.reveal t plain
  refine ⟨⟨revealed, ?_⟩, fun _ apart => rely_committed apart (by simp) revealed⟩
  intro consumer token wanted action isJob
  have apart : consumer ≠ t := by
    rintro rfl
    exact noConsumer token wanted action isJob
  rw [effectsOf_committed none apart]
  simp only [committed, Option.toList_none, List.append_nil]
  exact sound.effects consumer token wanted action isJob

theorem keeping_commit {token : String} {wanted : AuthFlowMatch} {flow : AuthFlow}
    (needs : Needs digest jobs t (.commit token wanted (some flow)) s) :
    Keeping digest jobs t s (s.committed t (some ⟨t, token, wanted, flow⟩)) := by
  rcases needs with ⟨_, now, _, isConsumer, uses, labels, noEffects, noneMine⟩
  refine ⟨⟨sound.rows.commit uses, ?_⟩, ?_⟩
  · intro consumer otherToken otherWanted otherAction isJob
    by_cases own : consumer = t
    · subst own
      have sameJob := isConsumer.symm.trans isJob
      simp only [FlowJob.consume.injEq] at sameJob
      rcases sameJob with ⟨rfl, rfl, rfl⟩
      rw [effectsOf_committed_self, noEffects, uses.writes,
        List.filterMap_cons_none (show FlowWrite.effect? (.consume flow.id now) = none from rfl),
        labels]
      simp only [committed, Option.toList_some]
      refine ⟨?_, ?_⟩
      · intro spend inUses isMine
        rcases List.mem_append.mp inUses with earlier | isNew
        · exact absurd isMine (noneMine spend earlier)
        · rw [List.mem_singleton.mp isNew]
          rfl
      · intro foreign
        exact absurd rfl (foreign _ (List.mem_append_right _ (List.mem_singleton_self _)))
    · rw [effectsOf_committed _ own]
      have known := sound.effects consumer otherToken otherWanted otherAction isJob
      simp only [committed, Option.toList_some]
      refine ⟨?_, ?_⟩
      · intro spend inUses isMine
        rcases List.mem_append.mp inUses with earlier | isNew
        · exact known.1 spend earlier isMine
        · rw [List.mem_singleton.mp isNew] at isMine
          exact absurd isMine.symm own
      · intro foreign
        exact known.2 fun spend earlier =>
          foreign spend (List.mem_append_left _ earlier)
  · intro _ apart
    refine rely_committed apart ?_ (sound.rows.commit uses)
    rintro _ ⟨⟩
    rfl

theorem keeping_perform {call : AuthFlowCall}
    {isOk : Bool} (needs : Needs digest jobs t call s) (allowed : Allowed t call isOk s) :
    Keeping digest jobs t s (s.perform digest t call isOk).2 := by
  cases isOk with
  | false =>
    cases call with
    | commit _ _ _ | rollback => exact keeping_closed sound
    | _ => exact keeping_self sound
  | true =>
    have free := allowed.1 rfl
    cases call with
    | now | firstFlow _ _ => exact keeping_self sound
    | consume _ _ => exact keeping_consume sound needs free
    | claim _ _ _ =>
      rcases needs with ⟨⟨_, _, spent⟩, _⟩
      exact keeping_claim sound (by simp [spent]) free
    | write label =>
      exact ⟨⟨sound.rows.writeEffect label, sound.effects⟩, fun _ apart => rely_writing apart _⟩
    | commit _ _ flow =>
      cases flow with
      | none => exact keeping_commitPlain sound needs.1 needs.2
      | some _ => exact keeping_commit sound needs
    | rollback => exact keeping_closed sound
    | create _ => exact keeping_create sound needs.1 needs.2 free allowed.2
    | deleteExpired _ => exact keeping_deleteExpired sound free

omit sound

end

/-! ## Claims -/

/-- A row that keeps an assertion from being claimed again. It was consumed before its expiry,
so that no cleanup within the retention deletes it. -/
structure Guards (digest : String → String) (purpose assertion : String) (row : AuthFlow) :
    Prop where
  hash : row.tokenHash = assertionHash digest purpose assertion
  unexpired : ∃ claimed ∈ row.consumedAt, claimed < row.expiresAt

/-- Each assertion is claimed once, and its claim is guarded by a row. -/
structure ClaimsSound (digest : String → String) (s : AuthFlowSystem) : Prop where
  once : ((s.claims ++ s.claiming).map Prod.snd).Nodup
  /-- The row of a claim is stored until the retention is over. -/
  held : ∀ claim ∈ s.claims, Guards digest claim.2.1 claim.2.2 claim.1 ∧
    (claim.1 ∈ s.flows ∨
      ∃ claimed ∈ claim.1.consumedAt, claimed + authFlowDefaultCleanupRetention < s.now)
  pending : ∀ write ∈ s.pending, ∀ flow purpose assertion,
    write.2 = .insert flow purpose assertion → Guards digest purpose assertion flow

section

variable {digest : String → String} {jobs : ℕ → FlowJob}
  {s : AuthFlowSystem} {t : ℕ}

theorem claimsSound_start (now : ℤ) : ClaimsSound digest (start now) := by
  constructor <;> simp [start, claiming]

variable (sound : ClaimsSound digest s)

include sound

theorem ClaimsSound.elapse (nanos : ℕ) : ClaimsSound digest (s.elapse nanos) where
  once := sound.once
  held claim inClaims := by
    rcases sound.held claim inClaims with ⟨guards, stored | ⟨claimed, isClaimed, past⟩⟩
    · exact ⟨guards, .inl stored⟩
    · exact ⟨guards, .inr ⟨claimed, isClaimed,
        lt_of_lt_of_le past (Int.le_add_of_nonneg_right (Int.natCast_nonneg nanos))⟩⟩
  pending := sound.pending

theorem ClaimsSound.of_pending
    {later : AuthFlowSystem} (now : later.now = s.now) (flows : later.flows = s.flows)
    (claims : later.claims = s.claims)
    (claiming : later.claiming.Sublist s.claiming)
    (pending : ∀ write ∈ later.pending, ∀ flow purpose claim,
      write.2 = .insert flow purpose claim → write ∈ s.pending) :
    ClaimsSound digest later where
  once := by
    rw [claims]
    exact sound.once.sublist (((List.Sublist.refl _).append claiming).map _)
  held := by
    rw [claims, now, flows]
    exact sound.held
  pending write queued flow purpose claim isInsert :=
    sound.pending write (pending write queued flow purpose claim isInsert) flow purpose
      claim isInsert

theorem ClaimsSound.writing {write : FlowWrite} (noClaim : write.claimed? = none)
    (noInsert : ∀ flow purpose claim, write ≠ .insert flow purpose claim) :
    ClaimsSound digest (s.writing t write) := by
  refine sound.of_pending rfl rfl rfl ?_ ?_
  · simp [claiming, AuthFlowSystem.writing, noClaim]
  · intro _ queued flow purpose claim isInsert
    rcases List.mem_append.mp queued with earlier | isNew
    · exact earlier
    · rw [List.mem_singleton.mp isNew] at isInsert
      exact absurd isInsert (noInsert flow purpose claim)

theorem ClaimsSound.closed (t : ℕ) : ClaimsSound digest (s.closed t) :=
  sound.of_pending rfl rfl rfl (List.filter_sublist.filterMap _)
    fun _ queued _ _ _ _ => (List.mem_filter.mp queued).1

/-- A claim within the retention of the claims before. -/
theorem ClaimsSound.claim {flow : AuthFlow} {purpose claim : String}
    (guards : Guards digest purpose claim flow)
    (retained : ∀ earlier ∈ s.claims, earlier.2 = (purpose, claim) →
      ∀ claimed ∈ earlier.1.consumedAt, s.now ≤ claimed + authFlowDefaultCleanupRetention)
    (free : flow.tokenHash ∉ (s.flows ++ s.inserts).map AuthFlow.tokenHash) :
    ClaimsSound digest (s.inserting t flow purpose claim) := by
  have moreClaiming : (s.inserting t flow purpose claim).claiming =
      s.claiming ++ [({ flow with id := s.nextId }, purpose, claim)] := by
    simp [claiming, inserting, FlowWrite.claimed?]
  have newClaim : (purpose, claim) ∉ (s.claims ++ s.claiming).map Prod.snd := by
    intro known
    rcases List.mem_map.mp known with ⟨earlier, known, same⟩
    apply free
    rw [List.map_append]
    rcases List.mem_append.mp known with claimed | isClaiming
    · rcases sound.held _ claimed with ⟨rowGuards, stored | ⟨instant, isAt, past⟩⟩
      · apply List.mem_append_left
        rw [same] at rowGuards
        rw [guards.hash, ← rowGuards.hash]
        exact List.mem_map_of_mem stored
      · exact absurd (retained earlier claimed same instant isAt) (by omega)
    · rcases List.mem_filterMap.mp isClaiming with ⟨⟨_, write⟩, queued, isClaim⟩
      cases write with
      | insert _ _ _ =>
        simp only [FlowWrite.claimed?, Option.some.injEq] at isClaim
        subst isClaim
        cases same
        have rowGuards := sound.pending _ queued _ _ _ rfl
        apply List.mem_append_right
        rw [guards.hash, ← rowGuards.hash]
        exact List.mem_map_of_mem (List.mem_filterMap.mpr ⟨_, queued, rfl⟩)
      | consume _ _ | effect _ => cases isClaim
  constructor
  · rw [moreClaiming]
    simp only [inserting]
    rw [← List.append_assoc, List.map_append]
    exact List.Nodup.append sound.once (List.nodup_singleton _)
      (List.disjoint_singleton.mpr newClaim)
  · exact sound.held
  · intro write queued row rowPurpose rowAssertion isInsert
    rcases List.mem_append.mp queued with earlier | isNew
    · exact sound.pending write earlier row rowPurpose rowAssertion isInsert
    · rw [List.mem_singleton.mp isNew] at isInsert
      cases isInsert
      exact ⟨guards.hash, guards.unexpired⟩

theorem ClaimsSound.create (flow : AuthFlow) :
    ClaimsSound digest
      { s with
        flows := s.flows ++ [{ flow with id := s.nextId }]
        nextId := s.nextId + 1
        created := s.created ++ [{ flow with id := s.nextId }] } where
  once := sound.once
  held claim inClaims := by
    rcases sound.held claim inClaims with ⟨guards, stored | past⟩
    · exact ⟨guards, .inl (List.mem_append_left _ stored)⟩
    · exact ⟨guards, .inr past⟩
  pending := sound.pending

theorem ClaimsSound.deleteExpired
    {cutoff : ℤ} (past : cutoff + authFlowDefaultCleanupRetention ≤ s.now) :
    ClaimsSound digest { s with flows := s.flows.filter fun flow => !flow.stale cutoff } where
  once := sound.once
  held claim inClaims := by
    rcases sound.held claim inClaims with ⟨guards, stored | past⟩
    · refine ⟨guards, ?_⟩
      cases stale : claim.1.stale cutoff with
      | false => exact .inl (List.mem_filter.mpr ⟨stored, by simp [stale]⟩)
      | true =>
        -- An expiry before the cutoff lies after the claim, so that the claim is older still.
        rcases guards.unexpired with ⟨claimed, isClaimed, _⟩
        simp only [AuthFlow.stale, Option.mem_def.mp isClaimed, Option.any_some, Bool.or_eq_true,
          decide_eq_true_eq] at stale
        refine .inr ⟨claimed, isClaimed, ?_⟩
        dsimp only
        rcases stale with _ | _
        · omega
        · omega
    · exact ⟨guards, .inr past⟩
  pending := sound.pending

omit sound

theorem RowsSound.consumed_ne (sound : RowsSound digest s) {row : AuthFlow}
    (stored : row ∈ s.flows) (spent : row.consumedAt ≠ none) {id : ℤ}
    (consumes : id ∈ s.consuming) : row.id ≠ id := by
  intro sameId
  rcases sound.consumable id consumes with ⟨goal, inFlows, isId, unused⟩
  have known := sound.unconsumed goal inFlows unused
  have same := sound.same row stored goal known (sameId.trans isId.symm)
  have nodup : (s.flows.map AuthFlow.tokenHash).Nodup :=
    sound.hashes.sublist ((List.sublist_append_left _ _).map _)
  have sameHash : row.tokenHash = goal.tokenHash := by
    rw [← same]
    rfl
  have target := List.inj_on_of_nodup_map nodup stored inFlows sameHash
  rw [target] at spent
  exact spent unused

theorem RowsSound.insert_ne (sound : RowsSound digest s) {row : AuthFlow}
    (isInsert : row ∈ s.inserts) {id : ℤ} (consumes : id ∈ s.consuming) :
    row.id ≠ id := by
  rcases sound.consumable id consumes with ⟨goal, inFlows, isId, unused⟩
  rw [← isId]
  exact sound.insertIds row isInsert goal (sound.unconsumed goal inFlows unused)

theorem mem_foldl_apply {writes : List FlowWrite} {row : AuthFlow}
    (spared : ∀ id now, .consume id now ∈ writes → row.id ≠ id) {flows : List AuthFlow}
    (known : row ∈ flows ∨ ∃ purpose claim, .insert row purpose claim ∈ writes) :
    row ∈ writes.foldl FlowWrite.apply flows := by
  induction writes generalizing flows with
  | nil =>
    rcases known with stored | ⟨_, _, inLog⟩
    · exact stored
    · cases inLog
  | cons write _ ih =>
    apply ih fun id now isIn => spared id now (List.mem_cons_of_mem _ isIn)
    rcases known with stored | ⟨purpose, claim, inLog⟩
    · left
      cases write with
      | consume id now =>
        exact mem_markConsumed.mpr (.inr ⟨stored, spared id now List.mem_cons_self⟩)
      | insert _ _ _ => exact List.mem_append_left _ stored
      | effect _ => exact stored
    · rcases List.mem_cons.mp inLog with isWrite | isIn
      · left
        rw [← isWrite]
        exact List.mem_append_right _ (List.mem_singleton_self _)
      · exact .inr ⟨purpose, claim, isIn⟩

theorem ClaimsSound.committed (sound : ClaimsSound digest s)
    (rows : RowsSound digest s) (spend : Option Consumption) :
    ClaimsSound digest (s.committed t spend) := by
  have split : ((s.writesOf t).filterMap FlowWrite.claimed? ++
      (s.closed t).claiming).Perm s.claiming :=
    filterMap_perm _ _ FlowWrite.claimed?
  have isPending : ∀ write ∈ s.writesOf t, (t, write) ∈ s.pending := by
    intro _ inLog
    rcases List.mem_map.mp inLog with ⟨⟨_, _⟩, mine, rfl⟩
    rcases List.mem_filter.mp mine with ⟨queued, isThread⟩
    simp only [decide_eq_true_eq] at isThread
    rw [← isThread]
    exact queued
  have isConsuming : ∀ id now, .consume id now ∈ s.writesOf t →
      id ∈ s.consuming :=
    fun _ _ inLog => List.mem_filterMap.mpr ⟨_, isPending _ inLog, rfl⟩
  constructor
  · simp only [AuthFlowSystem.committed, List.append_assoc]
    exact (((split.append_left s.claims).map Prod.snd).nodup_iff).mpr sound.once
  · intro claim inClaims
    rcases List.mem_append.mp inClaims with earlier | isNew
    · rcases sound.held claim earlier with ⟨guards, stored | past⟩
      · refine ⟨guards, .inl (mem_foldl_apply ?_ (.inl stored))⟩
        intro id now inLog
        rcases guards.unexpired with ⟨_, spent, _⟩
        refine rows.consumed_ne stored ?_ (isConsuming id now inLog)
        simp [Option.mem_def.mp spent]
      · exact ⟨guards, .inr past⟩
    · rcases List.mem_filterMap.mp isNew with ⟨write, inLog, isClaim⟩
      cases write with
      | insert row _ _ =>
        simp only [FlowWrite.claimed?, Option.some.injEq] at isClaim
        subst isClaim
        have guards := sound.pending _ (isPending _ inLog) _ _ _ rfl
        refine ⟨guards, .inl (mem_foldl_apply ?_ (.inr ⟨_, _, inLog⟩))⟩
        intro id now uses
        exact rows.insert_ne (List.mem_filterMap.mpr ⟨_, isPending _ inLog, rfl⟩)
          (isConsuming id now uses)
      | consume _ _ | effect _ => cases isClaim
  · exact (sound.closed t).pending

theorem ClaimsSound.perform (claims : ClaimsSound digest s)
    (sound : Sound digest jobs s) {call : AuthFlowCall} {isOk : Bool}
    (needs : Needs digest jobs t call s) (care : Careful t call isOk s) :
    ClaimsSound digest (s.perform digest t call isOk).2 := by
  cases isOk with
  | false =>
    cases call with
    | commit _ _ _ | rollback => exact claims.closed t
    | _ => exact claims
  | true =>
    have free := care.1.1 rfl
    cases call with
    | now | firstFlow _ _ => exact claims
    | consume _ _ =>
      simp only [AuthFlowSystem.perform, if_true, execute]
      split
      · exact claims.writing rfl (by simp)
      · exact claims
    | claim _ _ _ =>
      rcases needs with ⟨⟨now, _, spent, unexpired⟩, hash⟩
      simp only [AuthFlowSystem.perform, if_true, execute]
      split
      · exact claims
      next unconflicted =>
        exact claims.claim ⟨hash, now, spent, unexpired⟩ care.2 (hash_free free unconflicted)
    | write _ => exact claims.writing rfl (by simp)
    | commit _ _ _ => exact claims.committed sound.rows _
    | rollback => exact claims.closed t
    | create flow =>
      simp only [AuthFlowSystem.perform, if_true, execute]
      split
      · exact claims
      · exact claims.create flow
    | deleteExpired _ => exact claims.deleteExpired needs

end

/-! ## The programs -/

/-- A program makes the calls that the guard allows only when it knows what they need. -/
abbrev Prepared {Result : Type} (digest : String → String) (jobs : ℕ → FlowJob)
    (allowed : AuthFlowCall → Bool → AuthFlowSystem → Prop) (t : ℕ)
    (post : Result → AuthFlowSystem → Prop) (program : AuthFlowProgram Result)
    (s : AuthFlowSystem) : Prop :=
  Keeps (fun t call succeeds s =>
      s.perform digest t call succeeds)
    (Rely t) allowed (Needs digest jobs t) t post program s

/-- What a thread has written in its transaction, before it commits. -/
structure Writing (t : ℕ) (writes : List FlowWrite) (known : Option AuthFlow)
    (s : AuthFlowSystem) : Prop where
  writes : s.writesOf t = writes
  effects : s.effectsOf t = []
  noneMine : ∀ spend ∈ s.consumptions, spend.thread ≠ t
  created : ∀ flow ∈ known, flow ∈ s.created
  unconsumed : s.KnowsUnconsumed

section

variable {digest : String → String} {jobs : ℕ → FlowJob}
  {allowed : AuthFlowCall → Bool → AuthFlowSystem → Prop} {s later : AuthFlowSystem}
  {t : ℕ} {writes : List FlowWrite} {known : Option AuthFlow} {Result : Type}

theorem Writing.stable (writing : Writing t writes known s)
    (rely : Rely t s later) : Writing t writes known later where
  writes := rely.writes.trans writing.writes
  effects := rely.effects.trans writing.effects
  noneMine spend inUses own :=
    writing.noneMine spend (rely.mine spend inUses own) own
  created flow isKnown := rely.created flow (writing.created flow isKnown)
  unconsumed := rely.unconsumed writing.unconsumed

theorem Writing.write (writing : Writing t writes known s) (write : FlowWrite) :
    Writing t (writes ++ [write]) known (s.writing t write) where
  writes := by rw [writesOf_writing, writing.writes]
  effects := writing.effects
  noneMine := writing.noneMine
  created := writing.created
  unconsumed := writing.unconsumed

theorem prep_bind {First : Type} {middle : First → AuthFlowSystem → Prop}
    {post : Result → AuthFlowSystem → Prop} {first : AuthFlowProgram First}
    {rest : First → AuthFlowProgram Result}
    (prepared : Prepared digest jobs allowed t middle first s)
    (goes : ∀ val later, middle val later →
      Prepared digest jobs allowed t post (rest val) later) :
    Prepared digest jobs allowed t post (first >>= rest) s := by
  refine Keeps.bind (Rely.refl t) ?_
  exact Keeps.mono prepared goes

theorem perform_now (timely : Bool) (s : AuthFlowSystem) :
    s.perform digest t .now timely = (s.now, s) := by
  cases timely <;> rfl

def Adds (t : ℕ) (writes : List FlowWrite) (known : Option AuthFlow)
    (labels : List String) (result : Except AuthFlowError Unit) (s : AuthFlowSystem) :
    Prop :=
  ∃ extra, Writing t (writes ++ extra) known s ∧
    extra.filterMap FlowWrite.consumed? = [] ∧
    (∀ done, result = .ok done → extra.filterMap FlowWrite.effect? = labels)

variable (writing : Writing t writes known s)

include writing

theorem Writing.adds (result : Except AuthFlowError Unit) : Adds t writes known [] result s :=
  ⟨[], by rwa [List.append_nil], rfl, fun _ _ => rfl⟩

theorem Writing.adds_error (labels : List String) (err : AuthFlowError) :
    Adds t writes known labels (.error err) s := by
  refine ⟨[], by rwa [List.append_nil], rfl, ?_⟩
  intro _ never
  cases never

/-- A claim of an assertion in the transaction of its flow. -/
theorem prep_claim (purpose claim : String) (expiresAt : ℤ) :
    Prepared digest jobs allowed t (Adds t writes known [])
      (claimExternalAuthAssertionWithTx digest purpose claim expiresAt) s := by
  intro timing toTiming
  refine ⟨trivial, ?_⟩
  intro timely _
  simp only [perform_now]
  have writingTiming := writing.stable toTiming
  change Prepared digest jobs allowed t _ (ite _ _ _) timing
  split
  · exact fun _ rely => (writingTiming.stable rely).adds _
  next accepted =>
    have future : timing.now < expiresAt := by
      simp only [Bool.or_eq_true, not_or, Bool.not_eq_true', decide_eq_false_iff_not,
        not_not] at accepted
      exact accepted.2
    intro claiming toClaiming
    have writingClaiming := writingTiming.stable toClaiming
    refine ⟨⟨⟨timing.now, toClaiming.clock, rfl, future⟩, rfl⟩, ?_⟩
    intro isOk _
    cases isOk with
    | false => exact fun _ rely => (writingClaiming.stable rely).adds _
    | true =>
      by_cases conflicts : claiming.Conflicts t (claimedFlow digest
          (Text.trimSpace purpose) (Text.trimSpace claim) expiresAt timing.now).tokenHash
      · have refused : claiming.perform digest t (.claim (claimedFlow
            digest (Text.trimSpace purpose) (Text.trimSpace claim) expiresAt
            timing.now) (Text.trimSpace purpose) (Text.trimSpace claim)) true =
            (.ok 0, claiming) := by
          simp only [perform, execute, if_true, if_pos conflicts]
        simp only [refused]
        exact fun _ rely => (writingClaiming.stable rely).adds _
      · have inserted : claiming.perform digest t (.claim (claimedFlow
            digest (Text.trimSpace purpose) (Text.trimSpace claim) expiresAt
            timing.now) (Text.trimSpace purpose) (Text.trimSpace claim)) true =
            (.ok 1, claiming.inserting t (claimedFlow digest
              (Text.trimSpace purpose) (Text.trimSpace claim) expiresAt timing.now)
              (Text.trimSpace purpose) (Text.trimSpace claim)) := by
          simp only [perform, execute, if_true, if_neg conflicts]
        simp only [inserted]
        intro _ rely
        have after := writingClaiming.write (.insert { claimedFlow digest
          (Text.trimSpace purpose) (Text.trimSpace claim) expiresAt timing.now with
            id := claiming.nextId } (Text.trimSpace purpose) (Text.trimSpace claim))
        have isWriting : Writing t _ known (claiming.inserting t _ _ _) :=
          ⟨after.writes, after.effects, after.noneMine, after.created, after.unconsumed⟩
        exact ⟨[_], isWriting.stable rely, rfl, fun _ _ => rfl⟩

theorem prep_step (step : ActionStep) :
    Prepared digest jobs allowed t
      (Adds t writes known (step.effect?).toList) (step.run digest) s := by
  cases step with
  | claim purpose assertion expiresAt => exact prep_claim writing purpose assertion expiresAt
  | write label =>
    intro _ toEffecting
    refine ⟨trivial, ?_⟩
    intro isOk _
    have writingEffecting := writing.stable toEffecting
    cases isOk with
    | false => exact fun _ rely => (writingEffecting.stable rely).adds_error _ _
    | true =>
      intro _ rely
      exact ⟨[_], (writingEffecting.write (.effect label)).stable rely, rfl, fun _ _ => rfl⟩
  | fail => exact fun _ rely => (writing.stable rely).adds_error _ _

theorem prep_runSteps (steps : List ActionStep) :
    Prepared digest jobs allowed t (Adds t writes known (steps.filterMap ActionStep.effect?))
      (runSteps digest steps) s := by
  induction steps generalizing s writes with
  | nil => exact fun _ rely => (writing.stable rely).adds _
  | cons step _ ih =>
    refine prep_bind (prep_step writing step) ?_
    rintro (_ | done) _ ⟨extra, writingLater, plain, labels⟩
    · intro _ rely
      refine ⟨extra, writingLater.stable rely, plain, ?_⟩
      intro _ never
      cases never
    · refine Keeps.mono (ih writingLater) ?_
      rintro _ _ ⟨more, _, morePlain, moreLabels⟩
      refine ⟨extra ++ more, by rwa [← List.append_assoc], ?_, ?_⟩
      · rw [List.filterMap_append, plain, morePlain]
        rfl
      · intro finished isDone
        rw [List.filterMap_append, labels done rfl, moreLabels finished isDone]
        cases isEffect : step.effect? with
        | none | some _ => simp [isEffect]

omit writing

variable {token : String} {wanted : AuthFlowMatch} {action : AuthFlow → List ActionStep}
  {flow : AuthFlow}

theorem prep_transaction {returned : Result → Option AuthFlow}
    {body : AuthFlowProgram (Except AuthFlowError Result)} {ready : Result → AuthFlowSystem → Prop}
    (prepared : Prepared digest jobs allowed t
      (fun out after => ∀ result, out = .ok result → ready result after) body s)
    (stable : ∀ result first second, ready result first → Rely t first second →
      ready result second) (needed : ∀ result after, ready result after →
      Needs digest jobs t (.commit token wanted (returned result)) after) :
    Prepared digest jobs allowed t
      (fun _ after => after.writesOf t = []) (transaction token wanted returned body) s := by
  refine prep_bind prepared ?_
  rintro (_ | result) later isReady
  · intro closing _
    refine ⟨trivial, ?_⟩
    intro isOk _
    have isClosed : (closing.perform digest t .rollback isOk).2 = closing.closed t := by
      cases isOk <;> rfl
    simp only [isClosed]
    exact fun _ rely => rely.writes.trans writesOf_closed_self
  · intro committing toCommitting
    refine ⟨needed result committing
      (stable result later committing (isReady result rfl) toCommitting), ?_⟩
    intro isOk _
    cases isOk with
    | false | true => exact fun _ rely => rely.writes.trans writesOf_closed_self

/-- What has been done for a token when its transaction is about to commit. -/
def Acted (digest : String → String) (t : ℕ) (token : String)
    (wanted : AuthFlowMatch) (action : AuthFlow → List ActionStep) (flow : AuthFlow)
    (s : AuthFlowSystem) : Prop :=
  ∃ now rest, Consumes digest s ⟨t, token, wanted, flow⟩ now rest ∧
    rest.filterMap FlowWrite.effect? = (action flow).filterMap ActionStep.effect? ∧
    s.effectsOf t = [] ∧
    ∀ spend ∈ s.consumptions, spend.thread ≠ t

theorem Acted.stable (acted : Acted digest t token wanted action flow s) (rely : Rely t s later) :
    Acted digest t token wanted action flow later := by
  rcases acted with ⟨now, rest, uses, labels, noEffects, noneMine⟩
  refine ⟨now, rest, ?_, labels, rely.effects.trans noEffects, ?_⟩
  · exact { uses with
      writes := rely.writes.trans uses.writes
      created := rely.created _ uses.created }
  · exact fun spend inUses own =>
      noneMine spend (rely.mine spend inUses own) own

theorem unconsumed_consumed (unused : flow.consumedAt = none) (now : ℤ) :
    AuthFlow.unconsumed { flow with consumedAt := some now } = flow := by
  cases flow
  simp only at unused
  simp only [AuthFlow.unconsumed, unused]

theorem prep_error {ready : AuthFlow → AuthFlowSystem → Prop} (err : AuthFlowError) :
    Prepared digest jobs allowed t (fun (out : Except AuthFlowError AuthFlow) after =>
        ∀ consumed, out = .ok consumed → ready consumed after) (pure (.error err)) s := by
  intro final _ flow never
  cases never

/-- The consumption of a flow that was found. -/
theorem prep_consumeFound (writing : Writing t [] (some flow) s)
    (unused : flow.consumedAt = none) (hash : flow.tokenHash = digest token)
    (accepts : wanted.Accepts flow) :
    Prepared digest jobs allowed t (fun out after => ∀ consumed, out = .ok consumed →
        Acted digest t token wanted action consumed after)
      (consumeFound digest action flow) s := by
  intro timing toTiming
  refine ⟨trivial, ?_⟩
  intro timely _
  simp only [perform_now]
  have writingTiming := writing.stable toTiming
  change Prepared digest jobs allowed t _ (if timing.now < flow.expiresAt then _ else _) timing
  split
  next unexpired =>
    intro updating toUpdating
    have writingUpdating := writingTiming.stable toUpdating
    refine ⟨writingUpdating.writes, ?_⟩
    intro updates _
    cases updates with
    | false => exact prep_error _
    | true =>
      cases found : (updating.consumable flow.id timing.now).isSome with
      | false =>
        have unaffected : updating.perform digest t
            (.consume flow.id timing.now) true = (.ok 0, updating) := by
          simp only [perform, execute, if_true, found, Bool.false_eq_true, if_false]
        simp only [unaffected]
        exact prep_error _
      | true =>
        have hits : updating.perform digest t (.consume flow.id timing.now) true =
            (.ok 1, updating.writing t (.consume flow.id timing.now)) := by
          simp only [perform, execute, if_true, found]
        simp only [hits]
        have writingConsumed := writingUpdating.write (.consume flow.id timing.now)
        change Prepared digest jobs allowed t _ (runSteps digest
            (action { flow with consumedAt := some timing.now }) >>= _) _
        refine prep_bind (prep_runSteps writingConsumed _) ?_
        rintro (_ | done) _ ⟨extra, writingLater, plain, labels⟩
        · exact prep_error _
        · intro _ rely _ spent
          cases spent
          refine Acted.stable ⟨timing.now, extra, ?_, labels done rfl, writingLater.effects,
            writingLater.noneMine⟩ rely
          refine ⟨writingLater.writes, plain, rfl, unexpired, ?_, hash, accepts⟩
          rw [show AuthFlow.unconsumed _ = flow from unconsumed_consumed unused _]
          exact writingLater.created flow rfl
  · exact prep_error _

theorem prep_consumeInTransaction (writing : Writing t [] none s) (token : String)
    (wanted : AuthFlowMatch) (action : AuthFlow → List ActionStep) :
    Prepared digest jobs allowed t (fun out after => ∀ consumed, out = .ok consumed →
        Acted digest t token wanted action consumed after)
      (consumeInTransaction digest token wanted action) s := by
  intro reading toReading
  refine ⟨trivial, ?_⟩
  intro reads _
  cases reads with
  | false => exact prep_error _
  | true =>
    have found : reading.perform digest t (.firstFlow token wanted) true =
        (.ok (reading.flows.find? fun flow =>
          flow.tokenHash = digest token ∧ wanted.Accepts flow), reading) := rfl
    simp only [found]
    cases isFlow : reading.flows.find? (fun flow =>
        flow.tokenHash = digest token ∧ wanted.Accepts flow) with
    | none => exact prep_error _
    | some flow =>
      have chosen := List.find?_some isFlow
      simp only [decide_eq_true_eq] at chosen
      cases spent : flow.consumedAt with
      | some _ =>
        change Prepared digest jobs allowed t _ (if flow.consumedAt.isSome then _ else _) reading
        rw [spent]
        exact prep_error _
      | none =>
        change Prepared digest jobs allowed t _ (if flow.consumedAt.isSome then _ else _) reading
        rw [if_neg (by simp [spent])]
        have writingReading := writing.stable toReading
        have made := writingReading.unconsumed flow (List.mem_of_find?_eq_some isFlow) spent
        have knowing : Writing t [] (some flow) reading :=
          { writingReading with
            created := by
              rintro _ ⟨⟩
              exact made }
        exact prep_consumeFound knowing spent chosen.1 chosen.2

theorem prep_create (writing : Writing t [] known s) (input : AuthFlowCreate) (token : String) :
    Prepared digest jobs allowed t (fun _ after => after.writesOf t = [])
      (createAuthFlow digest input token) s := by
  intro timing toTiming
  refine ⟨trivial, ?_⟩
  intro timely _
  simp only [perform_now]
  have writingTiming := writing.stable toTiming
  change Prepared digest jobs allowed t _ (ite _ _ _) timing
  split
  · exact fun _ rely => rely.writes.trans writingTiming.writes
  · intro _ toStoring
    have writingStoring := writingTiming.stable toStoring
    refine ⟨⟨rfl, writingStoring.writes⟩, ?_⟩
    intro isOk _
    cases isOk with
    | false => exact fun _ rely => rely.writes.trans writingStoring.writes
    | true =>
      simp only [perform, execute, if_true]
      split
      · exact fun _ rely => rely.writes.trans writingStoring.writes
      · exact fun _ rely => rely.writes.trans writingStoring.writes

theorem prep_cleanup (writing : Writing t [] known s) :
    Prepared digest jobs allowed t (fun _ after => after.writesOf t = [])
      deleteExpiredAuthFlows s := by
  intro timing toTiming
  refine ⟨trivial, ?_⟩
  intro timely _
  simp only [perform_now]
  intro deleting toDeleting
  have writingDeleting := (writing.stable toTiming).stable toDeleting
  have past : timing.now - authFlowDefaultCleanupRetention + authFlowDefaultCleanupRetention ≤
      deleting.now := by
    have clock := toDeleting.clock
    omega
  refine ⟨past, ?_⟩
  intro isOk _
  cases isOk with
  | false | true => exact fun _ rely => rely.writes.trans writingDeleting.writes

theorem prep_consume (writing : Writing t [] none s)
    (isJob : jobs t = .consume token wanted action) :
    Prepared digest jobs allowed t (fun _ after => after.writesOf t = [])
      (consumeAuthFlowWithAction digest token wanted action) s := by
  simp only [consumeAuthFlowWithAction]
  split
  · exact fun _ rely => rely.writes.trans writing.writes
  · refine prep_transaction (prep_consumeInTransaction writing token wanted action)
      (fun _ _ _ acted rely => acted.stable rely) ?_
    rintro _ _ ⟨now, rest, uses, labels, noEffects, noneMine⟩
    exact ⟨action, now, rest, isJob, uses, labels, noEffects, noneMine⟩

theorem prep_callerTransaction (writing : Writing t [] none s)
    (noConsumer : ∀ token wanted action, jobs t ≠ .consume token wanted action)
    (steps : List ActionStep) :
    Prepared digest jobs allowed t (fun _ after => after.writesOf t = [])
      (callerTransaction digest steps) s := by
  have runs : Prepared digest jobs allowed t (fun out after => ∀ done, out = .ok done →
        (after.writesOf t).filterMap FlowWrite.consumed? = [])
      (runSteps digest steps) s := by
    refine Keeps.mono (prep_runSteps writing steps) ?_
    rintro _ after ⟨_, writingAfter, plain, _⟩ done _
    rw [writingAfter.writes]
    exact plain
  refine prep_transaction runs ?_ ?_
  · intro _ _ _ plain rely
    rw [rely.writes]
    exact plain
  · exact fun _ _ plain => ⟨plain, noConsumer⟩

theorem prep_job (writing : Writing t [] none s) {job : FlowJob} (isJob : jobs t = job) :
    Prepared digest jobs allowed t (fun _ after => after.writesOf t = []) (job.run digest) s := by
  have ends : ∀ {Value : Type} {program : AuthFlowProgram Value}, Prepared digest jobs allowed t
        (fun _ after => after.writesOf t = []) program s →
      Prepared digest jobs allowed t
        (fun _ after => after.writesOf t = []) (program >>= fun _ => pure ()) s :=
    fun prepared => prep_bind prepared fun _ later closed final rely =>
      rely.writes.trans closed
  cases job with
  | create input token => exact ends (prep_create writing input token)
  | consume _ _ _ => exact ends (prep_consume writing isJob)
  | transact steps =>
    refine ends (prep_callerTransaction writing ?_ steps)
    intro _ _ _ never
    rw [isJob] at never
    cases never
  | cleanup => exact ends (prep_cleanup writing)

end

end AuthFlowSystem

/-! ## Runs -/

abbrev AuthFlowPool := Pool AuthFlowSystem AuthFlowCall AuthFlowCall.Answer Unit

namespace AuthFlowPool

variable (digest : String → String)

def start (now : ℤ) (jobs : ℕ → FlowJob) : AuthFlowPool where
  state := AuthFlowSystem.start now
  threads t := (jobs t).run digest

def next : AuthFlowPool → Concurrent.Action Bool ℕ → AuthFlowPool :=
  Pool.step (fun t call succeeds s =>
    s.perform digest t call succeeds) AuthFlowSystem.elapse

def Allowed : AuthFlowPool → Concurrent.Action Bool ℕ → Prop :=
  Pool.Allowed AuthFlowSystem.Allowed fun _ _ => True

/-- And the claims of an assertion come within the retention of the first committed one. -/
def Careful : AuthFlowPool → Concurrent.Action Bool ℕ → Prop :=
  Pool.Allowed AuthFlowSystem.Careful fun _ _ => True

instance (pool : AuthFlowPool) (action : Concurrent.Action Bool ℕ) :
    Decidable (Allowed pool action) :=
  Pool.decidableAllowed _ _ pool action

instance (pool : AuthFlowPool) (action : Concurrent.Action Bool ℕ) :
    Decidable (Careful pool action) :=
  Pool.decidableAllowed _ _ pool action

end AuthFlowPool

section

variable {digest : String → String} {jobs : ℕ → FlowJob} {now : ℤ} {pool : AuthFlowPool}

open AuthFlowSystem in
theorem holding_start {allowed : ℕ → AuthFlowCall → Bool → AuthFlowSystem → Prop}
    {Holds : AuthFlowSystem → Prop} (holds : Holds (AuthFlowSystem.start now)) :
    (AuthFlowPool.start digest now jobs).Holding (fun t call isOk s => s.perform digest t call isOk)
      Holds Rely allowed (Needs digest jobs) (fun t _ after => after.writesOf t = []) := by
  refine ⟨holds, fun t => prep_job ?_ rfl⟩
  constructor <;> simp [AuthFlowPool.start, AuthFlowSystem.start, writesOf, effectsOf,
    KnowsUnconsumed]

theorem AuthFlowSystem.Sound.elapse {s : AuthFlowSystem}
    (sound : AuthFlowSystem.Sound digest jobs s) (nanos : ℕ) :
    AuthFlowSystem.Sound digest jobs (s.elapse nanos) :=
  ⟨{ sound.rows with }, sound.effects⟩

theorem holding_of_run (run : Reachable (AuthFlowPool.next digest) AuthFlowPool.Allowed
      (AuthFlowPool.start digest now jobs) pool) :
    pool.Holding (fun t call isOk s => s.perform digest t call isOk)
      (AuthFlowSystem.Sound digest jobs) AuthFlowSystem.Rely AuthFlowSystem.Allowed
      (AuthFlowSystem.Needs digest jobs) (fun t _ after => after.writesOf t = []) :=
  Pool.holding_reachable run AuthFlowSystem.Rely.refl
    (fun _ _ _ _ first second => first.trans second)
    (fun _ _ _ _ sound needs allowed => AuthFlowSystem.keeping_perform sound needs allowed)
    (fun nanos _ sound _ =>
      ⟨sound.elapse nanos, fun _ => AuthFlowSystem.rely_elapse nanos⟩)
    (holding_start (AuthFlowSystem.sound_start now))

theorem claims_of_run
    (run : Reachable (AuthFlowPool.next digest) AuthFlowPool.Careful
      (AuthFlowPool.start digest now jobs) pool) :
    AuthFlowSystem.ClaimsSound digest pool.state := by
  have start : (AuthFlowPool.start digest now jobs).Holding
      (fun t call isOk s => s.perform digest t call isOk)
      (fun s => AuthFlowSystem.Sound digest jobs s ∧
        AuthFlowSystem.ClaimsSound digest s)
      AuthFlowSystem.Rely AuthFlowSystem.Careful
      (AuthFlowSystem.Needs digest jobs)
      (fun t _ after => after.writesOf t = []) :=
    holding_start ⟨AuthFlowSystem.sound_start now, AuthFlowSystem.claimsSound_start now⟩
  have holding := Pool.holding_reachable run AuthFlowSystem.Rely.refl
    (fun _ _ _ _ first second => first.trans second)
    (by
      intro _ _ _ _ holds needs care
      have kept := AuthFlowSystem.keeping_perform holds.1 needs care.1
      exact ⟨⟨kept.1, holds.2.perform holds.1 needs care⟩, kept.2⟩)
    (by
      intro nanos s holds _
      exact ⟨⟨holds.1.elapse nanos, holds.2.elapse nanos⟩,
        fun _ => AuthFlowSystem.rely_elapse nanos⟩) start
  exact holding.state.2

/-- Every token is consumed at most once, together with the writes of its action; a transaction
that is over holds nothing; and in a run of careful claims every assertion is claimed at most
once. -/
theorem consumed_once (reached : Reachable (AuthFlowPool.next digest) AuthFlowPool.Allowed
      (AuthFlowPool.start digest now jobs) pool) :
    pool.state.FlowsOnce digest jobs ∧
      (∀ t, pool.threads t = .done () → pool.state.writesOf t = []) ∧
      (Reachable (AuthFlowPool.next digest) AuthFlowPool.Careful
        (AuthFlowPool.start digest now jobs) pool →
          (pool.state.claims.map Prod.snd).Nodup) := by
  have holding := holding_of_run reached
  refine ⟨holding.state.flowsOnce, ?_, ?_⟩
  · intro t isDone
    have kept := holding.threads t
    rw [isDone] at kept
    exact kept pool.state (AuthFlowSystem.Rely.refl t pool.state)
  · intro careful
    have once := (claims_of_run careful).once
    rw [List.map_append] at once
    exact (List.nodup_append.mp once).1

end

/-! ## Sample runs -/

def sampleFlowJobs : ℕ → FlowJob
  | 0 => .create ⟨"telegram_bind", "", "", 7, "sid", "", 300000000000⟩ "token"
  | 1 => .consume "token" ⟨"telegram_bind", "", "", 7, ""⟩ fun _ =>
    [.claim "telegram_assertion" "signed" 300000000000, .write "telegram_id", .fail]
  | 2 => .consume "token" ⟨"telegram_bind", "", "", 0, "sid"⟩ fun _ =>
    [.claim "telegram_assertion" "signed" 200000000000, .write "telegram_id"]
  | 3 => .transact [.claim "telegram_assertion" "long" (10 * 24 * 60 * 60 * 1000000000)]
  | 4 => .cleanup
  | _ => .transact [.claim "telegram_assertion" "long" (10 * 24 * 60 * 60 * 1000000000)]

def sampleFlows : AuthFlowPool :=
  AuthFlowPool.start id 0 sampleFlowJobs

def flowsAfter (actions : List (Concurrent.Action Bool ℕ)) : AuthFlowPool :=
  actions.foldl (AuthFlowPool.next id) sampleFlows

/-- Both consumers read the flow before the first one is rolled back. -/
def consumingSteps : List (Concurrent.Action Bool ℕ) :=
  List.replicate 2 (.perform 0 true) ++ [.perform 2 true] ++
    List.replicate 7 (.perform 1 true) ++ List.replicate 7 (.perform 2 true)

theorem consumed_once_sample :
    (flowsAfter consumingSteps).state.FlowsOnce id sampleFlowJobs ∧
      ((flowsAfter consumingSteps).state.claims.map Prod.snd).Nodup := by
  have once := consumed_once (Reachable.of_run consumingSteps sampleFlows (by decide))
  exact ⟨once.1, once.2.2 (Reachable.of_run consumingSteps sampleFlows (by decide))⟩

/-- A claim is committed, a cleanup more than a day later deletes its row, and the assertion is
claimed again although its expiry is still in the future. -/
def replayedClaim : List (Concurrent.Action Bool ℕ) :=
  List.replicate 3 (.perform 3 true) ++ [.occur (25 * 60 * 60 * 1000000000)] ++
    List.replicate 2 (.perform 4 true) ++ List.replicate 3 (.perform 5 true)

/-- An assertion is claimed again once the row of its first claim is removed. -/
theorem claimed_twice :
    RunAllowed (AuthFlowPool.next id) AuthFlowPool.Allowed sampleFlows replayedClaim ∧
      (flowsAfter replayedClaim).state.now < 10 * 24 * 60 * 60 * 1000000000 ∧
      (flowsAfter replayedClaim).state.claims.map Prod.snd =
        [("telegram_assertion", "long"), ("telegram_assertion", "long")] := by
  decide

end NewApi.Auth
