import Normous.Exec.Triple
import Normous.WriteOps.Batch

/-!
# The insert path of the write batch executor

`WriteBatchExecutor::execInserts` normalizes the documents, then calls `insertOne` once per
index. `insertOne` takes the database and collection locks through
`ExecInsertsState::lockAndCheck` (retrying once with an exclusive lock when the collection must
be created), inserts, and retries the whole attempt on a `WriteConflictException`. Errors are
recorded in the item's `WriteOpResult`, and then release the locks "as a matter of policy".

The environment (lock manager, catalog, replication and sharding checks, storage engine) is an
oracle `env : Nat → Reply` read once per call in program order; `tick` counts the calls. Every
call may throw. The retry loop on write conflicts is bounded by `fuel`; running out of it is
the fault `outOfFuel`, distinct from every fault of the code.
-/

namespace Normous.WriteOps.InsertLoop

open Normous.Exec Normous.WriteOps.Batch

/-- The exceptions of the insert path, in the order `insertOne`'s handlers test them. -/
inductive Exn where
  | writeConflict
  | staleConfig
  | dbException (code : ErrorCode) (interruption : Bool)
  | stdException
  deriving DecidableEq, Repr

inductive InvariantSite where
  | collLockHeld
  | dbLockHeld
  | intentLockWithoutDatabase
  | currIndexInRange
  deriving DecidableEq, Repr

inductive Fault where
  | exn (e : Exn)
  | invariantFailure (site : InvariantSite)
  /-- `singleInsert` handed a null collection, which it dereferences. -/
  | nullCollection
  /-- The model's bound on write-conflict retries was reached. -/
  | outOfFuel
  deriving DecidableEq, Repr

/-- One answer of the environment: success, a failure with its code, or a throw. Queries that
return a pointer read `ok` as non-null. -/
inductive Reply where
  | ok
  | fail (code : ErrorCode)
  | raise (e : Exn)

inductive LockMode where
  | IX
  | X
  deriving DecidableEq, Repr

/-- The lock state of `ExecInsertsState`, with the `WriteOpResult` of the insert in progress
(`resultError`) and the position in the environment's answers (`tick`). Its other two fields,
`currIndex` and `normalizedInserts`, are written only by `execInserts`, which passes them to
`insertOne` as arguments. -/
structure ExecInsertsState where
  dbLock : Option LockMode
  collLock : Option LockMode
  database : Bool
  collection : Bool
  resultError : Option ErrorCode
  tick : Nat

def ExecInsertsState.init (tick : Nat) : ExecInsertsState :=
  ⟨none, none, false, false, none, tick⟩

abbrev Exec := EStateM Fault ExecInsertsState

section Model

variable (env : Nat → Reply) (request : BatchedCommandRequest) (isInsertIndexRequest : Bool)

def call : Exec (Option ErrorCode) := fun s =>
  match env s.tick with
  | .ok => .ok none { s with tick := s.tick + 1 }
  | .fail code => .ok (some code) { s with tick := s.tick + 1 }
  | .raise e => .error (.exn e) { s with tick := s.tick + 1 }

def lookup : Exec Bool := do
  let r ← call env
  pure r.isNone

def poll : Exec Bool := fun s =>
  match env s.tick with
  | .ok => .ok true { s with tick := s.tick + 1 }
  | _ => .ok false { s with tick := s.tick + 1 }

def unlock : Exec Unit :=
  modify fun s =>
    { s with collection := false, database := false, collLock := none, dbLock := none }

def setError (code : ErrorCode) : Exec Unit :=
  modify fun s => { s with resultError := some code }

def acquireDbLock (mode : LockMode) : Exec Unit := do
  let _ ← call env
  modify fun s => { s with dbLock := some mode }

def acquireCollLock (mode : LockMode) : Exec Unit := do
  let _ ← call env
  modify fun s => { s with collLock := some mode }

/-- `checkIsMasterForDatabase`, `checkShardVersion` and `checkIndexConstraints`: a check that
sets an error with its own code when it fails. -/
def check (code : ErrorCode) : Exec Bool := do
  match ← call env with
  | none => pure true
  | some _ => do setError code; pure false

def openDatabase (intentLock : Bool) : Exec Unit := do
  if (← get).database then pure ()
  else if intentLock then throw (.invariantFailure .intentLockWithoutDatabase)
  else do
    let _ ← call env
    modify fun s => { s with database := true }

/-- `_database->createCollection(...)` in a `WriteUnitOfWork`, failing with `InternalError`
when it returns null. -/
def createCollection : Exec Bool := do
  let created ← lookup env
  modify fun s => { s with collection := created }
  if created then do
    let _ ← call env
    pure true
  else do
    setError .internalError
    pure false

def checkAndOpen (intentLock : Bool) (retry : Exec Bool) : Exec Bool := do
  if !(← check env .notMaster) then pure false else
  if !(← check env .staleShardVersion) then pure false else
  if !(← check env .cannotCreateIndex) then pure false else
  openDatabase env intentLock
  let found ← lookup env
  modify fun s => { s with collection := found }
  if found then pure true
  else if intentLock then do
    unlock
    retry
  else createCollection env

/-- `ExecInsertsState::_lockAndCheckImpl(result, intentLock)`; `retry` is its recursive call
`_lockAndCheckImpl(result, false)`, made after `unlock()` when the collection is missing under
an intent lock. -/
def lockAndCheckBody (intentLock : Bool) (retry : Exec Bool) : Exec Bool := do
  let s ← get
  if s.dbLock.isSome then pure true
  else if s.collLock.isSome then throw (.invariantFailure .collLockHeld)
  else if s.dbLock.isSome then throw (.invariantFailure .dbLockHeld)
  else do
    let intentLock := intentLock && !isInsertIndexRequest
    acquireDbLock env (if intentLock then .IX else .X)
    let found ← lookup env
    modify fun s => { s with database := found }
    if intentLock && !found then do
      modify fun s => { s with dbLock := none }
      acquireDbLock env .X
      acquireCollLock env .X
      checkAndOpen env false retry
    else do
      acquireCollLock env (if intentLock then .IX else .X)
      checkAndOpen env intentLock retry

/-- `_lockAndCheckImpl`. Its recursive call runs with `intentLock = false`, where the retry
branch is dead, so the second level's own retry is never run. -/
def lockAndCheckImpl (intentLock : Bool) : Exec Bool :=
  lockAndCheckBody env isInsertIndexRequest intentLock
    (lockAndCheckBody env isInsertIndexRequest false (pure false))

/-- `ExecInsertsState::lockAndCheck`. -/
def lockAndCheck : Exec Bool := do
  if ← lockAndCheckImpl env isInsertIndexRequest true then pure true
  else do
    unlock
    pure false

/-- `singleInsert`: insert into `collection` inside a `WriteUnitOfWork`. -/
def singleInsert : Exec Unit := do
  if (← get).collection then
    match ← call env with
    | some code => setError code
    | none => do
      let _ ← call env
      pure ()
  else throw .nullCollection

def singleCreateIndex : Exec Unit := do
  let _ ← call env
  pure ()

def insertAttempt : Exec Unit :=
  if isInsertIndexRequest then singleCreateIndex env
  else do
    if ← lockAndCheck env isInsertIndexRequest then singleInsert env else pure ()

/-- The `while (true)` loop of `insertOne` with its handlers, allowed `fuel` attempts. -/
def insertAttempts : Nat → Exec Unit
  | 0 => throw .outOfFuel
  | fuel + 1 =>
    tryCatch (insertAttempt env isInsertIndexRequest)
      fun
        | .exn .writeConflict => do
          unlock
          insertAttempts fuel
        | .exn .staleConfig => setError .staleShardVersion
        | .exn (.dbException code interruption) =>
          if interruption then throw (.exn (.dbException code interruption))
          else setError code
        | f => throw f

/-- `insertOne`, at the index `currIndex` of `normalizedInserts`. -/
def insertOne (fuel : Nat) (normalizedInserts : List (Except ErrorCode Unit)) (currIndex : Nat) :
    Exec Unit :=
  match normalizedInserts[currIndex]? with
  | none => throw (.invariantFailure .currIndexInRange)
  | some (.error code) => setError code
  | some (.ok ()) => do
    insertAttempts env isInsertIndexRequest fuel
    if (← get).resultError.isSome then unlock else pure ()

/-- `WriteBatchExecutor::execOneInsert`: a fresh `WriteOpResult`, then `insertOne`. -/
def execOneInsert (fuel : Nat) (normalizedInserts : List (Except ErrorCode Unit))
    (currIndex : Nat) : Exec (Option ErrorCode) := do
  modify fun s => { s with resultError := none }
  insertOne env isInsertIndexRequest fuel normalizedInserts currIndex
  let s ← get
  pure s.resultError

/-- The yield between inserts: when the tracker says so, release the locks if held, then
`checkForInterrupt`. -/
def yieldBetweenInserts : Exec Unit := do
  if ← poll env then do
    let s ← get
    (if s.dbLock.isSome then unlock else pure ())
    let _ ← call env
    pure ()
  else pure ()

/-- The loop of `execInserts` over the indices `is`: yield, run one insert, push its error
with the index, and return on the first error of an ordered batch. -/
def execInsertsLoop (fuel : Nat) (normalizedInserts : List (Except ErrorCode Unit)) :
    List Nat → Exec (List Nat × List WriteErrorDetail)
  | [] => pure ([], [])
  | i :: is => do
    yieldBetweenInserts env
    match ← execOneInsert env isInsertIndexRequest fuel normalizedInserts i with
    | none => do
      let r ← execInsertsLoop fuel normalizedInserts is
      pure (i :: r.1, r.2)
    | some code =>
      if request.ordered then pure ([i], [⟨code, i⟩])
      else do
        let r ← execInsertsLoop fuel normalizedInserts is
        pure (i :: r.1, ⟨code, i⟩ :: r.2)

/-- `normalizeInserts`: one `fixDocumentForInsert` status per document, stopping after the
first failure of an ordered batch. -/
def normalizeInserts (fixDocumentForInsert : Nat → Except ErrorCode Unit) :
    List Nat → List (Except ErrorCode Unit)
  | [] => []
  | i :: is =>
    match fixDocumentForInsert i with
    | .error code =>
      if request.ordered then [.error code]
      else .error code :: normalizeInserts fixDocumentForInsert is
    | .ok () => .ok () :: normalizeInserts fixDocumentForInsert is

/-- `WriteBatchExecutor::execInserts`. -/
def execInserts (fuel : Nat) (fixDocumentForInsert : Nat → Except ErrorCode Unit) :
    Exec (List Nat × List WriteErrorDetail) :=
  execInsertsLoop env request isInsertIndexRequest fuel
    (normalizeInserts request fixDocumentForInsert (List.range request.sizeWriteOps))
    (List.range request.sizeWriteOps)

/-- **The stateful insert loop is the item loop of `bulkExecute`.** If the yield keeps an
invariant `P` and every insert run from `P` returns an outcome satisfying `R` into `P`, then
every normal return of `execInsertsLoop` over distinct indices is `execItems` at outcomes that
satisfy `R` for every item run: the outcomes its own inserts returned. So what
`bulkExecute_error_list` says of the error list holds for the insert path too. -/
theorem execInsertsLoop_refines (fuel : Nat) (normalizedInserts : List (Except ErrorCode Unit))
    (P : ExecInsertsState → Prop) (R : Nat → Option ErrorCode → Prop)
    (hyield : Triple P (yieldBetweenInserts env) (fun _ => P) (fun _ _ => True))
    (is : List Nat) (hnd : is.Nodup)
    (hinsert : ∀ i ∈ is, Triple P (execOneInsert env isInsertIndexRequest fuel normalizedInserts i)
      (fun o s => R i o ∧ P s) (fun _ _ => True)) :
    Triple P (execInsertsLoop env request isInsertIndexRequest fuel normalizedInserts is)
      (fun r s => P s ∧ ∃ exec, r = execItems request.ordered exec is ∧ ∀ i ∈ r.1, R i (exec i))
      (fun _ _ => True) := by
  induction is with
  | nil => exact Triple.pure fun s hs => ⟨hs, fun _ => none, rfl, by simp [execItems]⟩
  | cons i is ih =>
    obtain ⟨hi, hnd⟩ := List.nodup_cons.mp hnd
    have ih := ih hnd fun j hj => hinsert j (List.mem_cons_of_mem _ hj)
    have extend : ∀ (o : Option ErrorCode) (exec : Nat → Option ErrorCode),
        execItems request.ordered (fun j => if j = i then o else exec j) is =
          execItems request.ordered exec is :=
      fun o exec => execItems_congr _ _ fun j hj => if_neg fun (h : j = i) => hi (h ▸ hj)
    -- the outcome of item `i` joins those of the later items, which never run `i` again
    have outcomes : ∀ o exec (r : List Nat × List WriteErrorDetail), R i o →
        r = execItems request.ordered exec is → (∀ j ∈ r.1, R j (exec j)) →
        ∀ j ∈ i :: r.1, R j (if j = i then o else exec j) := by
      rintro o exec r hRi rfl hR j hj
      rcases List.mem_cons.mp hj with rfl | hj
      · simpa using hRi
      · have hji : j ≠ i := fun h => hi (h ▸ (execItems_ran_initial exec _ is).subset hj)
        simpa [hji] using hR j hj
    refine Triple.bind hyield fun _ => Triple.bind (hinsert i (List.mem_cons_self _ _)) fun o =>
      Triple.pre fun _ ⟨hRi, hP⟩ => ?_
    cases o with
    | none =>
      refine Triple.bind (ih.weaken fun _ h => h ▸ hP) fun r => Triple.pure fun _ ⟨hP', exec, he, hR⟩ =>
        ⟨hP', fun j => if j = i then none else exec j, ?_, outcomes none exec r hRi he hR⟩
      simp [execItems, extend, he]
    | some code =>
      refine Triple.ite (fun ho => Triple.pure fun _ h => ⟨h ▸ hP, fun _ => some code, ?_, ?_⟩)
        fun ho => ?_
      · simp only [execItems, ho, if_true]
      · simpa using hRi
      refine Triple.bind (ih.weaken fun _ h => h ▸ hP) fun r => Triple.pure fun _ ⟨hP', exec, he, hR⟩ =>
        ⟨hP', fun j => if j = i then some code else exec j, ?_, outcomes _ exec r hRi he hR⟩
      simp only [Bool.not_eq_true] at ho
      simp only [ho] at extend
      simp [execItems, extend, he, ho]

end Model

theorem execInsertsLoop_refines_ordered :
    Triple (fun _ => True) (yieldBetweenInserts (fun _ => .ok)) (fun _ _ => True) (fun _ _ => True) ∧
      [0, 1].Nodup ∧
      (∀ i ∈ [0, 1], Triple (fun _ => True)
        (execOneInsert (fun _ => .ok) false 1 [.ok (), .ok ()] i)
        (fun _ _ => True ∧ True) (fun _ _ => True)) ∧
      Triple (fun _ => True)
        (execInsertsLoop (fun _ => .ok) ⟨.insert, 2, true⟩ false 1 [.ok (), .ok ()] [0, 1])
        (fun r _ => True ∧ ∃ exec, r = execItems true exec [0, 1] ∧ ∀ i ∈ r.1, True)
        (fun _ _ => True) :=
  have hyield : Triple (fun _ => True) (yieldBetweenInserts (fun _ => .ok)) (fun _ _ => True)
      (fun _ _ => True) := Triple.trivial
  have hinsert : ∀ i ∈ [0, 1], Triple (fun _ => True)
      (execOneInsert (fun _ => .ok) false 1 [.ok (), .ok ()] i) (fun _ _ => True ∧ True)
      (fun _ _ => True) := fun _ _ => Triple.trivial.conseq (fun _ h => h)
        (fun _ _ _ => ⟨trivial, trivial⟩) fun _ _ h => h
  ⟨hyield, by decide, hinsert, execInsertsLoop_refines _ _ _ _ _ (fun _ => True) (fun _ _ => True)
    hyield _ (by decide) hinsert⟩

end Normous.WriteOps.InsertLoop
