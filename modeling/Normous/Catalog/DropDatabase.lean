import Normous.Exec.Triple

/-!
# `dropDatabase` and the drop-pending flag

`dropDatabase` runs in three phases. The first `writeConflictRetry` checks that the database
exists and that the node is primary, sets the database's drop-pending flag, drops the
collections and, when there is nothing to wait for, finishes the drop at once. Otherwise the
second phase waits for the collection drops to replicate, and the third `writeConflictRetry`
re-checks the primary state and removes the database. Scope guards reset the flag when the
collection drops, `Database::dropDatabase` or the replication wait fail; the last guard takes
the global lock itself, and a scope guard swallows whatever its cleanup throws.

Lock acquisitions, catalog calls, collection drops and replication waits are answers of an
oracle `env : Nat → Reply`, read once per call in program order; every call may throw. Each
`writeConflictRetry` retries at most `fuel` times.
-/

namespace Normous.Catalog.DropDatabase

open Normous.Exec

inductive Exn where
  | writeConflict
  | interrupted
  | other
  deriving DecidableEq, Repr

inductive Fault where
  | exn (e : Exn)
  /-- `fassertStatusOK` failed and the process aborted. -/
  | fassertFailed (code : Nat)
  /-- An `invariant` failed and the process aborted. -/
  | invariantFailure
  /-- The model's bound on write-conflict retries was reached. -/
  | outOfFuel
  deriving DecidableEq, Repr

inductive Reply where
  | ok
  | fail
  | raise (e : Exn)

inductive StatusCode where
  | illegalOperation
  | namespaceNotFound
  | notMaster
  | primarySteppedDown
  | replicationFailed
  deriving DecidableEq, Repr

inductive Status where
  | ok
  | error (code : StatusCode)
  deriving DecidableEq, Repr

structure Collection where
  isDropPendingNamespace : Bool
  dropOpTime : Nat
  /-- `replCoord->isOplogDisabledFor(opCtx, nss) || nss.isSystemDotIndexes()`. -/
  skipped : Bool
  deriving DecidableEq, Repr

/-- The catalog as `dropDatabase` sees it, with its two counters and the oracle's `tick`. -/
structure DropState where
  /-- The database, if it exists: its drop-pending flag. -/
  database : Option Bool
  collections : List Collection
  numCollectionsToDrop : Nat
  /-- `latestDropPendingOpTime`; `0` is the null `OpTime`. -/
  latestDropPendingOpTime : Nat
  tick : Nat
  deriving DecidableEq, Repr

abbrev Exec := EStateM Fault DropState

section Model

variable (env : Nat → Reply) (writesAreReplicated replEnabled : Bool)

def call : Exec Bool := fun s =>
  match env s.tick with
  | .ok => .ok true { s with tick := s.tick + 1 }
  | .fail => .ok false { s with tick := s.tick + 1 }
  | .raise e => .error (.exn e) { s with tick := s.tick + 1 }

/-- A constructor that may throw: `Lock::GlobalWrite`, `AutoGetDb`, `WriteUnitOfWork`. -/
def acquire : Exec Unit := do
  let _ ← call env
  pure ()

/-- `db->setDropPending(opCtx, b)` on the database, if it exists. -/
def setDropPending (b : Bool) : Exec Unit :=
  modify fun s => { s with database := s.database.map fun _ => b }

/-- A scope guard's destructor: run `cleanup`, swallowing what it throws. -/
def swallow (cleanup : Exec Unit) : Exec Unit :=
  tryCatch cleanup fun
    | .exn _ => pure ()
    | f => throw f

/-- A scope guard dismissed once `body` returns: `cleanup` runs only when `body` throws. An
aborted process runs no destructor. -/
def guardOnThrow {α : Type} (cleanup : Exec Unit) (body : Exec α) : Exec α :=
  tryCatch body fun
    | .exn e => do
      swallow cleanup
      throw (.exn e)
    | f => throw f

/-- `writeConflictRetry`, declared outside the sources: runs `f` again after each
`WriteConflictException`, at most `fuel` times here. -/
def writeConflictRetry {α : Type} (f : Exec α) : Nat → Exec α
  | 0 => throw .outOfFuel
  | fuel + 1 =>
    tryCatch f fun
      | .exn .writeConflict => writeConflictRetry f fuel
      | e => throw e

def dropCollections : List Collection → Exec Unit
  | [] => pure ()
  | c :: cs =>
    if c.isDropPendingNamespace && replEnabled && writesAreReplicated then do
      acquire env
      modify fun s => { s with
        latestDropPendingOpTime := Nat.max s.latestDropPendingOpTime c.dropOpTime }
      dropCollections cs
    else if c.skipped then dropCollections cs
    else do
      acquire env
      if ← call env then do
        acquire env
        modify fun s => { s with
          collections := s.collections.erase c
          numCollectionsToDrop := s.numCollectionsToDrop + 1 }
        dropCollections cs
      else throw (.fassertFailed 40476)

/-- `_finishDropDatabase`: `Database::dropDatabase` under a guard that resets the flag when it
throws, then the `onDropDatabase` oplog write. -/
def finishDropDatabase : Exec Status := do
  guardOnThrow (setDropPending false) do
    acquire env
    modify fun s => { s with database := none, collections := [] }
  acquire env
  pure .ok

/-- `!replCoord->canAcceptWritesForDatabase(...)` for user-initiated writes. -/
def notPrimary : Exec Bool := do
  let primary ← call env
  pure (writesAreReplicated && !primary)

/-- The body of the first `writeConflictRetry`: `some status` returns from `dropDatabase`,
`none` goes on to wait for replication. -/
def collectionPhase : Exec (Option Status) := do
  acquire env
  acquire env
  if (← get).database.isNone then pure (some (.error .namespaceNotFound))
  else if ← notPrimary env writesAreReplicated then pure (some (.error .notMaster))
  else do
    setDropPending true
    let s ← get
    guardOnThrow (setDropPending false)
      (dropCollections env writesAreReplicated replEnabled s.collections)
    let s ← get
    if s.numCollectionsToDrop = 0 && s.latestDropPendingOpTime = 0 then do
      let status ← finishDropDatabase env
      pure (some status)
    else pure none

def awaitReplication : Exec (Option Status) := do
  let s ← get
  if 0 < s.numCollectionsToDrop then do
    if ← call env then pure none else pure (some (.error .replicationFailed))
  else if s.latestDropPendingOpTime = 0 then throw .invariantFailure
  else do
    if ← call env then pure none else pure (some (.error .replicationFailed))

/-- The cleanup of `dropPendingGuardWhileAwaitingReplication`. -/
def resetDropPendingLocked : Exec Unit := do
  acquire env
  acquire env
  setDropPending false

/-- The second phase: the replication wait under `dropPendingGuardWhileAwaitingReplication`,
which runs on every exit of the block and is dismissed after it completes. -/
def awaitPhase : Exec (Option Status) :=
  tryCatch
    (do
      match ← awaitReplication env with
      | some status => do
        swallow (resetDropPendingLocked env)
        pure (some status)
      | none => pure none)
    fun
      | .exn e => do
        swallow (resetDropPendingLocked env)
        throw (.exn e)
      | f => throw f

def databasePhase : Exec Status := do
  acquire env
  if ← notPrimary env writesAreReplicated then do
    acquire env
    setDropPending false
    pure (.error .primarySteppedDown)
  else do
    acquire env
    if (← get).database.isSome then finishDropDatabase env
    else pure (.error .namespaceNotFound)

def dropDatabase (readOnly : Bool) (fuel : Nat) : Exec Status := do
  if readOnly then throw (.exn .other)
  else
    match ← writeConflictRetry (collectionPhase env writesAreReplicated replEnabled) fuel with
    | some status => pure status
    | none =>
      match ← awaitPhase env with
      | some status => pure status
      | none => writeConflictRetry (databasePhase env writesAreReplicated) fuel

end Model

def FlagClear (s : DropState) : Prop := s.database ≠ some true

/-- A C++ exception, which unwinds to the caller; the other faults end the process or the
model's run. -/
def Fault.IsException : Fault → Prop
  | .exn _ => True
  | _ => False

section Specs

variable (env : Nat → Reply) (writesAreReplicated replEnabled : Bool) {P : DropState → Prop}

theorem call_triple (hP : ∀ s, P s → P { s with tick := s.tick + 1 }) {E : Fault → DropState → Prop}
    (hE : ∀ s e, P s → E (.exn e) { s with tick := s.tick + 1 }) :
    Triple P (call env) (fun _ => P) E := by
  intro s hs
  unfold call
  cases env s.tick <;> simp [hP s hs, hE s _ hs]

theorem acquire_triple (hP : ∀ s, P s → P { s with tick := s.tick + 1 })
    {E : Fault → DropState → Prop} (hE : ∀ s e, P s → E (.exn e) { s with tick := s.tick + 1 }) :
    Triple P (acquire env) (fun _ => P) E :=
  Triple.bind (call_triple env hP hE) fun _ => Triple.pure fun _ h => h

theorem notPrimary_triple (hP : ∀ s, P s → P { s with tick := s.tick + 1 })
    {E : Fault → DropState → Prop} (hE : ∀ s e, P s → E (.exn e) { s with tick := s.tick + 1 }) :
    Triple P (notPrimary env writesAreReplicated) (fun _ => P) E :=
  Triple.bind (call_triple env hP hE) fun _ => Triple.pure fun _ h => h

theorem swallow_clear {E : Fault → DropState → Prop} :
    Triple P (swallow (setDropPending false)) (fun _ => FlagClear) E := by
  have h : Triple P (setDropPending false) (fun _ => FlagClear) fun _ _ => False :=
    Triple.modify fun s _ => by cases h : s.database <;> simp [FlagClear, h]
  exact Triple.tryCatch h fun _ _ h => h.elim

theorem guardOnThrow_clear {α : Type} {body : Exec α} {Q : α → DropState → Prop}
    {E : Fault → DropState → Prop} (h : Triple P body Q E) :
    Triple P (guardOnThrow (setDropPending false) body) Q
      (fun f s => FlagClear s ∨ ¬ f.IsException) := by
  refine Triple.tryCatch h fun f => ?_
  rcases f with e | _ | _ | _
  · exact Triple.bind swallow_clear fun _ => Triple.throw fun _ h => .inl h
  all_goals exact Triple.throw fun _ _ => .inr id

theorem writeConflictRetry_triple {α : Type} {f : Exec α} {Q : α → DropState → Prop}
    {E : Fault → DropState → Prop} (h : Triple P f Q E)
    (hw : ∀ s, E (.exn .writeConflict) s → P s) (ho : ∀ s, P s → E .outOfFuel s) (fuel : Nat) :
    Triple P (writeConflictRetry f fuel) Q E := by
  induction fuel with
  | zero => exact Triple.throw ho
  | succ fuel ih =>
    refine Triple.tryCatch h fun e => ?_
    rcases e with (_ | _ | _) | _ | _ | _
    · exact Triple.weaken ih hw
    all_goals exact Triple.throw fun _ h => h

theorem dropCollections_database (d : Option Bool) (cs : List Collection) :
    Triple (fun s => s.database = d) (dropCollections env writesAreReplicated replEnabled cs)
      (fun _ s => s.database = d) (fun _ s => s.database = d) := by
  induction cs with
  | nil => exact Triple.pure fun _ h => h
  | cons c cs ih =>
    unfold dropCollections
    refine Triple.ite (fun _ => ?_) fun _ => Triple.ite (fun _ => ih) fun _ => ?_
    · exact Triple.bind (acquire_triple env (fun _ h => h) fun _ _ h => h) fun _ =>
        Triple.bind (Triple.modify fun _ h => h) fun _ => ih
    · refine Triple.bind (acquire_triple env (fun _ h => h) fun _ _ h => h) fun _ =>
        Triple.bind (call_triple env (fun _ h => h) fun _ _ h => h) fun ok =>
          Triple.ite (fun _ => ?_) fun _ => Triple.throw fun _ h => h
      exact Triple.bind (acquire_triple env (fun _ h => h) fun _ _ h => h) fun _ =>
        Triple.bind (Triple.modify fun _ h => h) fun _ => ih

/-- _finishDropDatabase either removes the database or leaves its flag clear, unless the
process aborts. -/
theorem finishDropDatabase_clear :
    Triple (fun s => s.database.isSome) (finishDropDatabase env)
      (fun _ s => s.database = none) (fun f s => FlagClear s ∨ ¬ f.IsException) := by
  unfold finishDropDatabase
  refine Triple.bind (guardOnThrow_clear (Q := fun _ s => s.database = none) (E := fun _ _ => True) ?_)
    fun _ => ?_
  · exact Triple.bind (acquire_triple env (fun _ h => h) fun _ _ _ => trivial)
      fun _ => Triple.modify fun _ _ => rfl
  · exact Triple.bind (acquire_triple env (fun _ h => h) fun _ _ h => .inl (by simp [FlagClear, h]))
      fun _ => Triple.pure fun _ h => h

/-- How the first phase may end: with a status to return, or going on to wait for replication
with the flag set. -/
def PhaseOneExit : Option Status → DropState → Prop
  | some _, s => FlagClear s
  | none, s => s.database = some true

theorem collectionPhase_exit :
    Triple FlagClear (collectionPhase env writesAreReplicated replEnabled) PhaseOneExit
      (fun f s => FlagClear s ∨ ¬ f.IsException) := by
  unfold collectionPhase
  refine Triple.bind (acquire_triple env (fun _ h => h) fun _ _ h => .inl h) fun _ =>
    Triple.bind (acquire_triple env (fun _ h => h) fun _ _ h => .inl h) fun _ =>
      Triple.bind Triple.get fun s₀ => Triple.ite (fun _ => Triple.pure fun _ h => h.2) fun hs => ?_
  refine Triple.weaken (P := fun s => s.database.isSome ∧ FlagClear s) ?_
    fun _ ⟨h₀, h⟩ => ⟨Option.isSome_iff_ne_none.mpr (by simpa [← h₀] using hs), h⟩
  refine Triple.bind (notPrimary_triple env writesAreReplicated (fun _ h => h) fun _ _ h => .inl h.2)
    fun _ => Triple.ite (fun _ => Triple.pure fun _ h => h.2) fun _ => ?_
  refine Triple.bind (Triple.modify (Q := fun _ s => s.database = some true) fun s h => ?_)
    fun _ => Triple.bind Triple.get fun s₁ => ?_
  · obtain ⟨b, hb⟩ := Option.isSome_iff_exists.mp h.1
    simp [hb]
  refine Triple.bind (guardOnThrow_clear (Triple.weaken
    (dropCollections_database env writesAreReplicated replEnabled _ s₁.collections) fun _ h => h.2))
    fun _ => Triple.bind Triple.get fun _ => Triple.ite (fun _ => ?_) fun _ => Triple.pure fun _ h => h.2
  exact Triple.bind (Triple.weaken (finishDropDatabase_clear env) fun _ h => by simp [h.2])
    fun _ => Triple.pure fun _ h => by simp [PhaseOneExit, FlagClear, h]

/-- **The first phase resets the flag.** Retried on write conflicts from a state whose flag is
clear, the first phase returns a status only with the flag clear or the database gone, and
every exception out of it leaves the flag clear; only the way on to the replication wait
leaves the flag set. -/
theorem collection_phase_resets_drop_pending (fuel : Nat) :
    Triple FlagClear (writeConflictRetry (collectionPhase env writesAreReplicated replEnabled) fuel)
      PhaseOneExit (fun f s => FlagClear s ∨ ¬ f.IsException) :=
  writeConflictRetry_triple (collectionPhase_exit env writesAreReplicated replEnabled)
    (fun _ h => h.resolve_right fun h => h trivial) (fun _ _ => .inr id) fuel

end Specs

/-- A run that leaves the flag set. The database holds one ordinary collection and the node is a
replicated primary; every call succeeds except the Lock::GlobalWrite of the last
writeConflictRetry (the environment's eighth answer), which throws an interruption after the
replication guard was dismissed. In the second run the replication wait fails (seventh answer)
and the guard's own Lock::GlobalWrite throws, which the guard swallows: dropDatabase returns
the wait's error. -/
theorem dropDatabase_leaves_drop_pending :
    (match dropDatabase (fun t => if t = 7 then .raise .interrupted else .ok) true true false 1
        ⟨some false, [⟨false, 0, false⟩], 0, 0, 0⟩ with
      | .ok _ _ => false
      | .error f s => f == .exn .interrupted && s.database == some true) = true ∧
    (match dropDatabase (fun t => if t = 6 then .fail else if t = 7 then .raise .interrupted else .ok)
        true true false 1 ⟨some false, [⟨false, 0, false⟩], 0, 0, 0⟩ with
      | .ok st s => st == .error .replicationFailed && s.database == some true
      | .error _ _ => false) = true :=
  ⟨by decide, by decide⟩

end Normous.Catalog.DropDatabase
