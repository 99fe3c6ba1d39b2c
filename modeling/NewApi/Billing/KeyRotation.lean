import NewApi.Billing.Effect

/-!
# Reservations across key rotation

A logical request is presented as one lookup candidate for each key of the ring, the active key of
the presenting node first. A reservation is two steps here: the locking lookup, and the rest of
the transaction with its commit. A lookup locks the row it finds until the call finishes; a lookup
that finds nothing locks nothing, so other calls can run in between.
-/

namespace NewApi.Model

open Relational Transition
open NewApi.Model renaming BillingOperationReserveRequest → ReserveRequest,
  BillingOperationLookupCandidate → LookupCandidate

/-- What the calls for one request have in common; the ring has no order of its own. -/
structure LogicalRequest where
  keyring : List LookupCandidate
  expectedRevision : UInt64
  (purpose fingerprint : String)

namespace LogicalRequest

def identity (logical : LogicalRequest) : BillingOperationIdentity :=
  ⟨logical.keyring, logical.expectedRevision, logical.purpose, logical.fingerprint⟩

/-- A node presents the whole ring, in the order that its active key gives. -/
def Presents (logical : LogicalRequest) (req : ReserveRequest) : Prop :=
  req.identity.candidates.Perm logical.keyring ∧
    req.identity.expectedRevision = logical.expectedRevision ∧
    req.identity.purpose = logical.purpose ∧
    req.identity.fingerprint = logical.fingerprint

def rows (logical : LogicalRequest) (db : Database) : List BillingOperation :=
  db.operations.rows.filter logical.identity.selects

end LogicalRequest

/-- A reservation after its lookup: the row it found and locked, if any. -/
structure OpenReserve where
  request : ReserveRequest
  active : LookupCandidate
  existing : Option BillingOperation

/-- The database after a transaction: a failure or a refused commit leaves it alone. -/
def afterTransaction (commitFails : Bool) (db : Database)
    (result : Except ModelError (BillingOperation × Database)) : Database :=
  match result with
  | .ok (_, committed) => if commitFails then db else committed
  | .error _ => db

def OpenReserve.finish (call : OpenReserve) (faults : ReserveFaults) (db : Database) : Database :=
  afterTransaction faults.commit db <|
    match call.existing with
    | some old => reserveExisting faults call.request call.active old db
    | none => reserveNew faults call.request call.active db

/-- The database and the reservations in flight. -/
structure ReserveRace where
  db : Database
  calls : List OpenReserve

/-- A reservation looks its operation up, or creates it. -/
inductive ReserveStep where
  | lookup (req : ReserveRequest)
  | finish (i : ℕ) (faults : ReserveFaults)

/-- The active candidate of a request that passes the checks before the transaction. -/
def BillingOperationReserveRequest.activeCandidate (req : ReserveRequest) :
    Option LookupCandidate :=
  match validateBillingOperationIdentity req.identity with
  | .error _ => none
  | .ok () => if req.invalid then none else req.identity.candidates.head?

/-- A call in flight holds the lock of a row that the lookup selects. -/
def ReserveRace.waits (race : ReserveRace) (req : ReserveRequest) : Bool :=
  (race.db.operations.rows.filter req.identity.selects).any fun row =>
    race.calls.any fun call => call.existing.any (·.id = row.id)

/-- One step of one call. A lookup that has to wait, or that fails, changes nothing. -/
def ReserveRace.next (race : ReserveRace) : ReserveStep → ReserveRace
  | .lookup req =>
    match req.activeCandidate with
    | none => race
    | some live =>
      if race.waits req then
        race
      else
        match findBillingOperation race.db req.identity with
        | .ok old => { race with calls := ⟨req, live, some old⟩ :: race.calls }
        | .error .recordNotFound =>
          { race with calls := ⟨req, live, none⟩ :: race.calls }
        | .error _ => race
  | .finish i faults =>
    match race.calls[i]? with
    | none => race
    | some call => ⟨call.finish faults race.db, race.calls.eraseIdx i⟩

/-- The calls present one request. -/
def LogicalRequest.Presented (logical : LogicalRequest) (_ : ReserveRace) : ReserveStep → Prop
  | .lookup req => logical.Presents req
  | .finish _ _ => True

/-- No lookup runs while a call that found nothing is in flight under another active key. -/
def SharesActiveKey (race : ReserveRace) : ReserveStep → Prop
  | .lookup req => ∀ call ∈ race.calls, call.existing = none →
      req.identity.candidates.head? = some call.active
  | .finish _ _ => True

instance (logical : LogicalRequest) (race : ReserveRace) :
    (step : ReserveStep) → Decidable (logical.Presented race step)
  | .lookup _ => inferInstanceAs (Decidable (_ ∧ _ ∧ _ ∧ _))
  | .finish _ _ => inferInstanceAs (Decidable True)

instance (race : ReserveRace) : (step : ReserveStep) → Decidable (SharesActiveKey race step)
  | .lookup req => inferInstanceAs (Decidable (∀ call ∈ race.calls,
      call.existing = none → req.identity.candidates.head? = some call.active))
  | .finish _ _ => inferInstanceAs (Decidable True)

/-! ## What finishing a call can do -/

theorem afterTransaction_cases (commitFails : Bool) (db : Database)
    (result : Except ModelError (BillingOperation × Database)) :
    afterTransaction commitFails db result = db ∨
      ∃ op, result = .ok (op, afterTransaction commitFails db result) := by
  cases result with
  | error _ => exact .inl rfl
  | ok result =>
    cases commitFails with
    | true => exact .inl rfl
    | false => exact .inr ⟨result.1, rfl⟩

theorem OpenReserve.finish_cases (call : OpenReserve) (faults : ReserveFaults) (db : Database)
    (nonneg : 0 ≤ call.request.reservedQuota) :
    call.finish faults db = db ∨
      (∃ old, call.existing = some old ∧ call.finish faults db =
        { db with operations := db.operations.modify old.id call.active.adopt }) ∨
      (call.existing = none ∧
        db.businessKeyTaken
          (newBillingOperation call.request call.active db.operations.nextKey) = false ∧
        ∃ tokens, TokenCharged call.request.tokenId
          (if call.request.isPlayground then 0 else call.request.reservedQuota) db.tokens tokens ∧
          call.finish faults db =
            { db with
              tokens := tokens
              operations := db.operations.insert (newBillingOperation call.request call.active)
                (key_newBillingOperation call.request call.active) }) := by
  unfold OpenReserve.finish
  rcases afterTransaction_cases faults.commit db (match call.existing with
    | some old => reserveExisting faults call.request call.active old db
    | none => reserveNew faults call.request call.active db) with kept | ⟨op, done⟩
  · exact .inl kept
  · cases looked : call.existing with
    | some old =>
      simp only [looked] at done
      rcases reserveExisting_eq_ok done with ⟨_, ⟨_, kept⟩ | ⟨_, migrated⟩⟩
      · exact .inl kept
      · exact .inr (.inl ⟨old, rfl, migrated⟩)
    | none =>
      simp only [looked] at done
      exact .inr (.inr ⟨rfl, (reserveNew_eq_ok nonneg done).2⟩)

/-! ## The invariant of the race -/

/-- What holds of the reservations of one request in every run. -/
structure RaceInvariant (logical : LogicalRequest) (init : Database) (race : ReserveRace) :
    Prop where
  presented : ∀ call ∈ race.calls, logical.Presents call.request ∧
    call.request.identity.candidates.head? = some call.active ∧ 0 ≤ call.request.reservedQuota
  sharedActive : ∀ call ∈ race.calls, call.existing = none → ∀ other ∈ race.calls,
    other.active = call.active
  lockedStored : ∀ call ∈ race.calls, ∀ old, call.existing = some old →
    ∃ row ∈ logical.rows race.db, row.id = old.id
  rowsActive : ∀ call ∈ race.calls, call.existing = none → ∀ row ∈ logical.rows race.db,
    call.active.owns row = true
  chargedOnce : (logical.rows race.db = [] ∧ race.db.tokens = init.tokens) ∨
    ∃ row, logical.rows race.db = [row] ∧ TokenCharged row.tokenId
      (if row.isPlayground then 0 else row.reservedQuota) init.tokens race.db.tokens

theorem BillingOperationIdentity.selects_iff {identity : BillingOperationIdentity}
    {op : BillingOperation} :
    identity.selects op = true ↔
      op.lookupHMAC ∈ identity.candidates.map (·.lookupHMAC) ∧
        op.expectedRevision = identity.expectedRevision ∧ op.purpose = identity.purpose := by
  simp only [selects, Bool.and_eq_true, decide_eq_true_eq, and_assoc]

namespace LogicalRequest

variable {logical : LogicalRequest}

theorem selects_of_presents {req : ReserveRequest} (presents : logical.Presents req) :
    req.identity.selects = logical.identity.selects := by
  rcases presents with ⟨ring, rev, purpose, _⟩
  funext op
  have sameHMACs : op.lookupHMAC ∈ req.identity.candidates.map (·.lookupHMAC) ↔
      op.lookupHMAC ∈ logical.keyring.map (·.lookupHMAC) :=
    (ring.map (·.lookupHMAC)).mem_iff
  rw [Bool.eq_iff_iff, BillingOperationIdentity.selects_iff, BillingOperationIdentity.selects_iff]
  simp only [identity, sameHMACs, rev, purpose]

theorem selects_of_active {req : ReserveRequest} {live : LookupCandidate} {op : BillingOperation}
    (presents : logical.Presents req) (active : req.identity.candidates.head? = some live)
    (lookupEq : op.lookupHMAC = live.lookupHMAC)
    (revisionEq : op.expectedRevision = logical.expectedRevision)
    (purposeEq : op.purpose = logical.purpose) :
    logical.identity.selects op = true := by
  have inRing : live ∈ logical.keyring :=
    presents.1.mem_iff.mp (List.mem_of_mem_head? active)
  rw [BillingOperationIdentity.selects_iff, lookupEq]
  exact ⟨List.mem_map_of_mem inRing, revisionEq, purposeEq⟩

end LogicalRequest

theorem owns_adopt (live : LookupCandidate) (op : BillingOperation) :
    live.owns (live.adopt.apply op) = true := by
  simp [LookupCandidate.owns, LookupCandidate.adopt]

theorem owns_newBillingOperation (req : ReserveRequest) (live : LookupCandidate) (id : ℤ) :
    live.owns (newBillingOperation req live id) = true := by
  simp [LookupCandidate.owns, newBillingOperation]

variable {db : Database} {req : ReserveRequest}
  {live : LookupCandidate} {logical : LogicalRequest} {race : ReserveRace}
  {call : OpenReserve}

theorem businessKeyTaken_of_owned {row : BillingOperation}
    (stored : row ∈ db.operations.rows) (owned : live.owns row = true)
    (revisionEq : row.expectedRevision = req.identity.expectedRevision)
    (purposeEq : row.purpose = req.identity.purpose) :
    db.businessKeyTaken (newBillingOperation req live db.operations.nextKey) = true := by
  have below := Table.key_lt_nextKey stored
  have apart : row.id ≠ db.operations.nextKey := by
    intro same
    exact absurd below (by rw [← same]; exact lt_irrefl _)
  simp only [LookupCandidate.owns, Bool.and_eq_true, decide_eq_true_eq] at owned
  simp only [Database.businessKeyTaken, List.any_eq_true]
  refine ⟨row, stored, ?_⟩
  simp [newBillingOperation, sameBusinessKey, apart, owned, revisionEq, purposeEq]

theorem findBillingOperation_notFound {identity : BillingOperationIdentity}
    (missing : findBillingOperation db identity = .error .recordNotFound) :
    db.operations.rows.filter identity.selects = [] := by
  unfold findBillingOperation at missing
  split at missing
  next rowsEq =>
    rw [List.take_eq_nil_iff] at rowsEq
    simpa using rowsEq
  next =>
    split at missing
    next => simp at missing
    next => split at missing <;> simp at missing
  next => simp at missing

/-! ## Steps keep the invariant -/

theorem RaceInvariant.of_sublist {init : Database} {calls : List OpenReserve}
    (holds : RaceInvariant logical init race) (fewer : ∀ call ∈ calls, call ∈ race.calls) :
    RaceInvariant logical init ⟨race.db, calls⟩ where
  presented call inCalls := holds.presented call (fewer call inCalls)
  sharedActive call inCalls absent other otherIn :=
    holds.sharedActive call (fewer call inCalls) absent other (fewer other otherIn)
  lockedStored call inCalls := holds.lockedStored call (fewer call inCalls)
  rowsActive call inCalls := holds.rowsActive call (fewer call inCalls)
  chargedOnce := holds.chargedOnce

theorem RaceInvariant.join {init : Database} (holds : RaceInvariant logical init race)
    (presented : logical.Presents call.request ∧
      call.request.identity.candidates.head? = some call.active ∧ 0 ≤ call.request.reservedQuota)
    (shares : ∀ other ∈ race.calls, other.existing = none → call.active = other.active)
    (looked : (call.existing = none ∧ logical.rows race.db = []) ∨
      ∃ old ∈ logical.rows race.db, call.existing = some old) :
    RaceInvariant logical init ⟨race.db, call :: race.calls⟩ := by
  refine ⟨?_, ?_, ?_, ?_, holds.chargedOnce⟩
  · intro other inCalls
    rcases List.mem_cons.mp inCalls with rfl | inRace
    · exact presented
    · exact holds.presented other inRace
  · intro first firstIn absent two secondIn
    rcases List.mem_cons.mp firstIn with rfl | firstRace
    · rcases List.mem_cons.mp secondIn with rfl | secondRace
      · rfl
      · -- Nothing is stored, so no other call can have found a row.
        rcases looked with ⟨_, empty⟩ | ⟨old, _, locked⟩
        · cases otherLooked : two.existing with
          | none => exact (shares two secondRace otherLooked).symm
          | some old =>
            rcases holds.lockedStored two secondRace old otherLooked with
              ⟨row, stored, _⟩
            simp [empty] at stored
        · simp [locked] at absent
    · rcases List.mem_cons.mp secondIn with rfl | secondRace
      · exact shares first firstRace absent
      · exact holds.sharedActive first firstRace absent two secondRace
  · intro other inCalls old locked
    rcases List.mem_cons.mp inCalls with rfl | inRace
    · rcases looked with ⟨absent, _⟩ | ⟨found, stored, foundLocked⟩
      · simp [absent] at locked
      · rw [foundLocked, Option.some.injEq] at locked
        exact ⟨found, stored, by rw [locked]⟩
    · exact holds.lockedStored other inRace old locked
  · intro other inCalls absent row stored
    rcases List.mem_cons.mp inCalls with rfl | inRace
    · rcases looked with ⟨_, empty⟩ | ⟨_, _, locked⟩
      · simp [empty] at stored
      · simp [locked] at absent
    · exact holds.rowsActive other inRace absent row stored

theorem activeCandidate_eq_some (passes : req.activeCandidate = some live) :
    req.identity.candidates.head? = some live ∧ 0 ≤ req.reservedQuota := by
  unfold ReserveRequest.activeCandidate at passes
  split at passes
  next => simp at passes
  next =>
    split at passes
    next => simp at passes
    next valid =>
      exact ⟨passes, reservedQuota_nonneg valid⟩

theorem RaceInvariant.lookup {init : Database} (holds : RaceInvariant logical init race)
    (presents : logical.Presents req) (shares : SharesActiveKey race (.lookup req)) :
    RaceInvariant logical init (race.next (.lookup req)) := by
  simp only [ReserveRace.next]
  split
  next => exact holds
  next live passes =>
    rcases activeCandidate_eq_some passes with ⟨active, nonneg⟩
    have sharesActive : ∀ other ∈ race.calls, other.existing = none → live = other.active := by
      intro other inRace absent
      have same := shares other inRace absent
      rw [active, Option.some.injEq] at same
      exact same
    have sameRows : race.db.operations.rows.filter req.identity.selects = logical.rows race.db := by
      rw [LogicalRequest.selects_of_presents presents]
      rfl
    split
    next => exact holds
    next =>
      split
      next old found =>
        have stored := findBillingOperation_selected found
        rw [sameRows] at stored
        exact holds.join ⟨presents, active, nonneg⟩ sharesActive (.inr ⟨old, stored, rfl⟩)
      next missing =>
        have empty := findBillingOperation_notFound missing
        rw [sameRows] at empty
        exact holds.join ⟨presents, active, nonneg⟩ sharesActive (.inl ⟨rfl, empty⟩)
      next => exact holds

theorem LogicalRequest.rows_adopt {row : BillingOperation} (onlyRow : logical.rows db = [row])
    (presents : logical.Presents req) (active : req.identity.candidates.head? = some live) :
    logical.rows { db with operations := db.operations.modify row.id live.adopt } =
      [live.adopt.apply row] := by
  have rowSelected : row ∈ logical.rows db := by simp [onlyRow]
  rcases List.mem_filter.mp rowSelected with ⟨rowStored, rowSelects⟩
  rcases BillingOperationIdentity.selects_iff.mp rowSelects with ⟨_, revisionEq, purposeEq⟩
  have keeps : ∀ other ∈ db.operations.rows, Keyed.key other = row.id →
      logical.identity.selects (live.adopt.apply other) = logical.identity.selects other := by
    intro _ stored sameKey
    have foundOther := Table.find?_of_mem stored
    have foundRow : db.operations.find? row.id = some row := Table.find?_of_mem rowStored
    rw [sameKey, foundRow, Option.some.injEq] at foundOther
    rw [← foundOther, rowSelects]
    exact selects_of_active presents active rfl revisionEq purposeEq
  have filtered := Table.filter_modify keeps
  have onlySelected : db.operations.rows.filter logical.identity.selects = [row] := onlyRow
  have rowKey : Keyed.key row = row.id := rfl
  simp only [onlySelected, List.map_cons, List.map_nil, rowKey, if_true] at filtered
  exact filtered

theorem RaceInvariant.migrate {init : Database} {old : BillingOperation}
    (holds : RaceInvariant logical init race) (inFlight : call ∈ race.calls)
    (locked : call.existing = some old) :
    RaceInvariant logical init
      ⟨{ race.db with operations := race.db.operations.modify old.id call.active.adopt },
        race.calls⟩ := by
  rcases holds.lockedStored call inFlight old locked with ⟨row, rowSelected, rowId⟩
  rcases holds.chargedOnce with ⟨empty, _⟩ | ⟨only, onlyRow, charged⟩
  · simp [empty] at rowSelected
  · have rowEq : row = only := by simpa [onlyRow] using rowSelected
    subst rowEq
    rcases holds.presented call inFlight with ⟨presents, active, _⟩
    have migratedRows := LogicalRequest.rows_adopt onlyRow presents active
    rw [← rowId]
    refine ⟨holds.presented, holds.sharedActive, ?_, ?_,
      .inr ⟨call.active.adopt.apply row, migratedRows, charged⟩⟩
    · intro other otherIn otherExisting otherLocked
      rcases holds.lockedStored other otherIn otherExisting otherLocked with
        ⟨otherRow, otherSelected, otherId⟩
      have otherEq : otherRow = row := by simpa [onlyRow] using otherSelected
      refine ⟨call.active.adopt.apply row, by simp [migratedRows], ?_⟩
      rw [← otherId, otherEq]
      rfl
    · intro other otherIn absent migratedRow chosen
      have sameActive := holds.sharedActive other otherIn absent call inFlight
      have migratedEq : migratedRow = call.active.adopt.apply row := by
        simpa [migratedRows] using chosen
      rw [migratedEq, ← sameActive]
      exact owns_adopt call.active row

/-- A reservation that inserts the first row of its request. -/
theorem RaceInvariant.insert {init : Database} {tokens : Table Token}
    (holds : RaceInvariant logical init race) (inFlight : call ∈ race.calls)
    (absent : call.existing = none)
    (free : race.db.businessKeyTaken
      (newBillingOperation call.request call.active race.db.operations.nextKey) = false)
    (charged : TokenCharged call.request.tokenId
      (if call.request.isPlayground then 0 else call.request.reservedQuota) race.db.tokens
      tokens) :
    RaceInvariant logical init
      ⟨{ race.db with
          tokens := tokens
          operations := race.db.operations.insert (newBillingOperation call.request call.active)
            (key_newBillingOperation call.request call.active) },
        race.calls⟩ := by
  rcases holds.presented call inFlight with ⟨presents, active, _⟩
  have newSelects : logical.identity.selects
      (newBillingOperation call.request call.active race.db.operations.nextKey) = true :=
    LogicalRequest.selects_of_active presents active rfl presents.2.1 presents.2.2.1
  rcases holds.chargedOnce with ⟨empty, tokensEq⟩ | ⟨only, onlyRow, _⟩
  · have insertedRows : logical.rows
        { race.db with
          tokens := tokens
          operations := race.db.operations.insert (newBillingOperation call.request call.active)
            (key_newBillingOperation call.request call.active) } =
        [newBillingOperation call.request call.active race.db.operations.nextKey] := by
      have empty : race.db.operations.rows.filter logical.identity.selects = [] := empty
      simp [LogicalRequest.rows, Table.insert, List.filter_append, empty, newSelects]
    refine ⟨holds.presented, holds.sharedActive, ?_, ?_, .inr ⟨_, insertedRows, ?_⟩⟩
    · intro other otherIn old locked
      rcases holds.lockedStored other otherIn old locked with ⟨row, stored, _⟩
      simp [empty] at stored
    · intro other otherIn otherAbsent row chosen
      have sameActive := holds.sharedActive other otherIn otherAbsent call inFlight
      have rowEq : row =
          newBillingOperation call.request call.active race.db.operations.nextKey := by
        simpa [insertedRows] using chosen
      rw [rowEq, ← sameActive]
      exact owns_newBillingOperation call.request call.active _
    · rw [← tokensEq]
      exact charged
  · -- A stored row carries the shared candidate, and its business key is taken.
    have onlySelected : only ∈ logical.rows race.db := by simp [onlyRow]
    have owned := holds.rowsActive call inFlight absent only onlySelected
    have onlySelects := BillingOperationIdentity.selects_iff.mp (List.mem_filter.mp onlySelected).2
    have taken := businessKeyTaken_of_owned (List.mem_of_mem_filter onlySelected) owned
      (onlySelects.2.1.trans presents.2.1.symm) (onlySelects.2.2.trans presents.2.2.1.symm)
    rw [taken] at free
    contradiction

theorem RaceInvariant.finish {init : Database}
    (holds : RaceInvariant logical init race) (i : ℕ) (faults : ReserveFaults) :
    RaceInvariant logical init (race.next (.finish i faults)) := by
  simp only [ReserveRace.next]
  cases picked : race.calls[i]? with
  | none => exact holds
  | some call =>
    have inFlight : call ∈ race.calls := List.mem_of_getElem? picked
    have fewer : ∀ other ∈ race.calls.eraseIdx i, other ∈ race.calls :=
      fun _ => List.mem_of_mem_eraseIdx
    change RaceInvariant logical init ⟨call.finish faults race.db, race.calls.eraseIdx i⟩
    rcases call.finish_cases faults race.db (holds.presented call inFlight).2.2 with
      kept | ⟨old, locked, migrated⟩ | ⟨absent, free, tokens, charged, inserted⟩
    · rw [kept]
      exact holds.of_sublist fewer
    · rw [migrated]
      exact (holds.migrate inFlight locked).of_sublist fewer
    · rw [inserted]
      exact (holds.insert inFlight absent free charged).of_sublist fewer

/-! ## Every run -/

/-- While the active key is shared, at most one row of the request is ever stored, and the
tokens carry the charge of that row and nothing else. -/
theorem single_charge_of_shared_key {logical : LogicalRequest} {init race : ReserveRace}
    (idle : init.calls = []) (noRow : logical.rows init.db = [])
    (reached : Reachable ReserveRace.next
      (fun state step => logical.Presented state step ∧ SharesActiveKey state step)
      init race) :
    (logical.rows race.db).length ≤ 1 ∧
      ((logical.rows race.db = [] ∧ race.db.tokens = init.db.tokens) ∨
        ∃ row, logical.rows race.db = [row] ∧ TokenCharged row.tokenId
          (if row.isPlayground then 0 else row.reservedQuota) init.db.tokens race.db.tokens) := by
  have startInvariant : RaceInvariant logical init.db init := by
    refine ⟨?_, ?_, ?_, ?_, .inl ⟨noRow, rfl⟩⟩
    all_goals simp [idle]
  have invariantNow := reached.invariant (RaceInvariant logical init.db) (by
    rintro _ step ⟨presented, shares⟩ holds
    cases step with
    | lookup _ => exact holds.lookup presented shares
    | finish i faults => exact holds.finish i faults) startInvariant
  refine ⟨?_, invariantNow.chargedOnce⟩
  rcases invariantNow.chargedOnce with ⟨empty, _⟩ | ⟨_, onlyRow, _⟩
  · simp [empty]
  · simp [onlyRow]

def sampleRing : LogicalRequest where
  keyring := [⟨"lookup1", "owner1", "conversation1", "v1"⟩,
    ⟨"lookup2", "owner2", "conversation2", "v2"⟩]
  expectedRevision := 1
  purpose := "main"
  fingerprint := "fingerprint"

/-- The sample request as the node with the first key active presents it. -/
def presentedByFirst : ReserveRequest :=
  { sampleRequest with identity := sampleRing.identity }

/-- The sample request as the node with the second key active presents it. -/
def presentedBySecond : ReserveRequest :=
  { sampleRequest with
    identity := { sampleRing.identity with candidates := sampleRing.keyring.reverse } }

def overlappingCalls (first two : ReserveRequest) : List ReserveStep :=
  [.lookup first, .lookup two, .finish 0 {}, .finish 0 {}]

def sampleRace : ReserveRace :=
  ⟨sampleDatabase, []⟩

/-- Two nodes with the same active key look up together; one of them inserts. -/
theorem single_charge_of_shared_key_sample :
    (sampleRing.rows ((overlappingCalls presentedByFirst presentedByFirst).foldl
      ReserveRace.next sampleRace).db).length ≤ 1 := by
  have run : RunAllowed ReserveRace.next
      (fun state step => sampleRing.Presented state step ∧ SharesActiveKey state step)
      sampleRace (overlappingCalls presentedByFirst presentedByFirst) := by
    decide +kernel
  have single := single_charge_of_shared_key (by rfl) (by decide) (Reachable.of_run _ _ run)
  exact single.1

/-- The race after two nodes with different active keys have overlapped. -/
def overlappedRotation : ReserveRace :=
  (overlappingCalls presentedByFirst presentedBySecond).foldl ReserveRace.next sampleRace

/-- Two nodes with different active keys look up together; both insert and both charge. -/
theorem rotation_charges_twice :
    ∃ (logical : LogicalRequest) (init race : ReserveRace),
      init.calls = [] ∧ logical.rows init.db = [] ∧
        Reachable ReserveRace.next logical.Presented init race ∧
        (logical.rows race.db).length = 2 ∧
        (race.db.tokens.find? 7).map (·.usedQuota) = some 60 := by
  have run : RunAllowed ReserveRace.next sampleRing.Presented sampleRace
      (overlappingCalls presentedByFirst presentedBySecond) := by
    decide +kernel
  have reached : Reachable ReserveRace.next sampleRing.Presented sampleRace overlappedRotation :=
    Reachable.of_run _ _ run
  exact ⟨sampleRing, sampleRace, overlappedRotation, rfl, by decide, reached, by decide +kernel,
    by decide +kernel⟩

end NewApi.Model
