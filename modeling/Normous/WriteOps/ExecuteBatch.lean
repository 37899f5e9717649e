import Normous.WriteOps.UpdateRemove

/-!
# `WriteBatchExecutor::executeBatch`: validation, the write concern and the response

`executeBatch` rejects with `toBatchError` a batch whose namespace fails `validateBatch`, that
has no items or more than `kMaxWriteBatchSize`. Otherwise it runs the items through
`bulkExecute`, waits for the write concern when `needToEnforceWC` says so, and builds the
response: unless the write concern is silent, the upserted ids, the write errors, the
write-concern error and the counts `incWriteStats` kept. An item's `WriteOpResult` is `result i`;
`waitForWriteConcern` is the answer of the wait. Replication's `lastOp` and `electionId` and the
metadata refresh of a stale batch leave the modelled fields as they are.

`bulkExecute_enforces_write_concern_iff` says exactly when the write concern is waited for, the
clones of a last `StaleShardVersion` error counting as errors of the items after it, and
`executeBatch_response_well_formed` that every detail of a response names an item of the batch.
-/

namespace Normous.WriteOps.ExecuteBatch

open Normous.WriteOps.Batch
open Normous.WriteOps.UpdateRemove (WriteOpStats)

/-- The `ErrorCodes` of the `Status` values `executeBatch` builds; a `Status` that comes from a
callee keeps its code as `other`. -/
inductive StatusCode where
  | invalidNamespace
  | invalidOptions
  | invalidLength
  | other (code : Int)
  deriving DecidableEq, Repr

structure Status where
  code : StatusCode
  reason : String
  deriving DecidableEq, Repr

/-- What `validateBatch` asks of its callees: the namespace, `nss.isValid()`,
`userAllowedWriteNS(nss)` (`none` when OK), `isInsertIndexRequest()`, and the message
`isValidIndexRequest(&errMsg)` writes when it answers `false`. -/
structure NamespaceChecks where
  ns : String
  isValid : Bool
  userAllowedWriteNS : Option Status
  isInsertIndexRequest : Bool
  isValidIndexRequest : Option String

/-- `WriteBatchExecutor::validateBatch`: `none` is `Status::OK()`. -/
def validateBatch (checks : NamespaceChecks) : Option Status :=
  if !checks.isValid then some ⟨.invalidNamespace, checks.ns ++ " is not a valid namespace"⟩
  else match checks.userAllowedWriteNS with
    | some allowedStatus => some allowedStatus
    | none =>
      match checks.isInsertIndexRequest, checks.isValidIndexRequest with
      | true, some errMsg => some ⟨.invalidOptions, errMsg⟩
      | _, _ => none

/-- The fields of `WriteConcernOptions` that `silentWC` reads; `syncModeNone` is
`syncMode == WriteConcernOptions::NONE`. -/
structure WriteConcernOptions where
  wMode : String
  wNumNodes : Nat
  syncModeNone : Bool

def silentWC (writeConcern : WriteConcernOptions) : Bool :=
  writeConcern.wMode.isEmpty && writeConcern.wNumNodes == 0 && writeConcern.syncModeNone

structure WCErrorDetail where
  errCode : StatusCode
  errMessage : String
  wtimeout : Bool
  deriving DecidableEq, Repr

def toWriteConcernError (wcStatus : Status) (wTimedOut : Bool) : WCErrorDetail :=
  ⟨wcStatus.code, wcStatus.reason, wTimedOut⟩

/-- The fields of `BatchedCommandResponse` that `executeBatch` sets; a list field left empty
is unset. -/
structure BatchedCommandResponse (U : Type) where
  ok : Bool
  errCode : Option StatusCode
  errMessage : Option String
  upsertDetails : List (Nat × U)
  errDetails : List WriteErrorDetail
  writeConcernError : Option WCErrorDetail
  n : Option Nat
  nModified : Option Nat

def BatchedCommandResponse.clear {U : Type} : BatchedCommandResponse U :=
  ⟨false, none, none, [], [], none, none, none⟩

def toBatchError {U : Type} (status : Status) : BatchedCommandResponse U :=
  { BatchedCommandResponse.clear with
    errCode := some status.code, errMessage := some status.reason, ok := false }

structure WriteBatchStats where
  numInserted : Nat
  numUpserted : Nat
  numMatched : Nat
  numModified : Nat
  numDeleted : Nat

/-- `WriteBatchExecutor::incWriteStats`, on the executor's counters (the `CurOp` and
`LastError` updates are left out). -/
def incWriteStats {U : Type} (opType : BatchType) (stats : WriteOpStats U)
    (st : WriteBatchStats) : WriteBatchStats :=
  match opType with
  | .insert => { st with numInserted := st.numInserted + stats.n }
  | .update =>
    if stats.upsertedID.isNone then
      { st with
        numMatched := st.numMatched + stats.n
        numModified := st.numModified + stats.nModified }
    else { st with numUpserted := st.numUpserted + 1 }
  | .delete => { st with numDeleted := st.numDeleted + stats.n }

/-- What one item left in its `WriteOpResult`. -/
structure WriteOpResult (U : Type) where
  stats : WriteOpStats U
  error : Option ErrorCode

/-- The `BatchedUpsertDetail`s the update loop of `bulkExecute` pushes: one for each item it
ran whose `upsertedId` is not empty, with the item's index, in the order the items ran. -/
def upsertedIds {U : Type} (result : Nat → WriteOpResult U) (executed : List Nat) :
    List (Nat × U) :=
  executed.filterMap fun i => (result i).stats.upsertedID.map (i, ·)

/-- `needToEnforceWC`: every item succeeded, or the batch is unordered and fewer errors than
items came back. -/
def needToEnforceWC (request : BatchedCommandRequest) (writeErrors : List WriteErrorDetail) :
    Bool :=
  writeErrors.isEmpty || (!request.ordered && decide (writeErrors.length < request.sizeWriteOps))

/-- `WriteBatchExecutor::executeBatch`. -/
def executeBatch {U : Type} (request : BatchedCommandRequest) (checks : NamespaceChecks)
    (kMaxWriteBatchSize : Nat) (writeConcern : WriteConcernOptions)
    (result : Nat → WriteOpResult U) (waitForWriteConcern : Option Status) (wTimedOut : Bool) :
    BatchedCommandResponse U :=
  match validateBatch checks with
  | some isValid => toBatchError isValid
  | none =>
    if request.sizeWriteOps = 0 then
      toBatchError ⟨.invalidLength, "no write ops were included in the batch"⟩
    else if request.sizeWriteOps > kMaxWriteBatchSize then
      toBatchError ⟨.invalidLength,
        "exceeded maximum write batch size of " ++ toString kMaxWriteBatchSize⟩
    else
      let run := bulkExecute request fun i => (result i).error
      let upserted := if request.batchType = .update then upsertedIds result run.1 else []
      let stats := run.1.foldl (fun st i => incWriteStats request.batchType (result i).stats st)
        ⟨0, 0, 0, 0, 0⟩
      let wcError := if needToEnforceWC request run.2 then
        waitForWriteConcern.map fun status => toWriteConcernError status wTimedOut else none
      if !silentWC writeConcern then
        { ok := true, errCode := none, errMessage := none, upsertDetails := upserted,
          errDetails := run.2, writeConcernError := wcError,
          n := some (stats.numInserted + stats.numUpserted + stats.numMatched + stats.numDeleted),
          nModified := if request.batchType = .update then some stats.numModified else none }
      else { BatchedCommandResponse.clear with ok := true }

section Errors
variable (exec : Nat → Option ErrorCode)

theorem failedItemErrors_range_succ (m : Nat) :
    failedItemErrors exec (List.range (m + 1)) =
      failedItemErrors exec (List.range m) ++ ((exec m).map fun c => ⟨c, m⟩).toList := by
  cases h : exec m <;> simp [failedItemErrors, List.range_succ, h]

theorem failedItemErrors_length_lt (m : Nat) :
    (failedItemErrors exec (List.range m)).length < m ↔ ∃ i < m, exec i = none := by
  induction m with
  | zero => simp [failedItemErrors]
  | succ m ih =>
    have hle : (failedItemErrors exec (List.range m)).length ≤ m :=
      (List.length_filterMap_le _ _).trans (List.length_range m).le
    rw [failedItemErrors_range_succ]
    cases h : exec m with
    | none =>
      simp only [Option.map_none', Option.toList_none, List.append_nil]
      exact ⟨fun _ => ⟨m, Nat.lt_succ_self m, h⟩, fun _ => Nat.lt_succ_of_le hle⟩
    | some c =>
      simp only [Option.map_some', Option.toList_some, List.length_append, List.length_singleton,
        Nat.add_lt_add_iff_right, ih]
      constructor
      · rintro ⟨i, hi, he⟩
        exact ⟨i, by omega, he⟩
      · rintro ⟨i, hi, he⟩
        refine ⟨i, ?_, he⟩
        rcases Nat.lt_succ_iff_lt_or_eq.mp hi with hi | rfl
        · exact hi
        · simp [h] at he

theorem failedItemErrors_last {j n : Nat} {c : ErrorCode} (hc : exec j = some c)
    (hlast : ∀ k, j < k → k < n → exec k = none) (hj : j < n) :
    failedItemErrors exec (List.range n) = failedItemErrors exec (List.range j) ++ [⟨c, j⟩] := by
  induction n with
  | zero => omega
  | succ n ih =>
    rw [failedItemErrors_range_succ]
    rcases Nat.lt_succ_iff_lt_or_eq.mp hj with hj | rfl
    · rw [hlast n hj (Nat.lt_succ_self n), ih (fun k h1 h2 => hlast k h1 (by omega)) hj]
      simp
    · simp [hc]

theorem exists_last_failure :
    ∀ n, (∃ j < n, exec j ≠ none) → ∃ j < n, exec j ≠ none ∧ ∀ k, j < k → k < n → exec k = none
  | 0, ⟨_, hj, _⟩ => absurd hj (Nat.not_lt_zero _)
  | n + 1, hf => by
    by_cases hn : exec n = none
    · obtain ⟨j, hj, hjn, hl⟩ := exists_last_failure n (by
        obtain ⟨j, hj, hjn⟩ := hf
        exact ⟨j, by rcases Nat.lt_succ_iff_lt_or_eq.mp hj with hj | rfl; exacts [hj, absurd hn hjn], hjn⟩)
      refine ⟨j, by omega, hjn, fun k h1 h2 => ?_⟩
      rcases Nat.lt_succ_iff_lt_or_eq.mp h2 with h2 | rfl
      exacts [hl k h1 h2, hn]
    · exact ⟨n, Nat.lt_succ_self n, hn, fun k h1 h2 => absurd h2 (by omega)⟩

theorem execItems_errors_eq_nil (ordered : Bool) (is : List Nat) :
    (execItems ordered exec is).2 = [] ↔ ∀ i ∈ is, exec i = none := by
  induction is with
  | nil => simp [execItems]
  | cons i is ih =>
    cases h : exec i with
    | none => simp [execItems, h, ih]
    | some c => cases ordered <;> simp [execItems, h]

/-- The errors of an unordered batch, laid out around its last failure `j`: those of the items
before `j`, `j`'s, and when `j`'s is `StaleShardVersion`, one clone of it per later item. -/
theorem bulkExecute_unordered_errors (request : BatchedCommandRequest)
    (ho : request.ordered = false) {j : Nat} {c : ErrorCode} (hc : exec j = some c)
    (hlast : ∀ k, j < k → k < request.sizeWriteOps → exec k = none)
    (hj : j < request.sizeWriteOps) :
    (bulkExecute request exec).2 = failedItemErrors exec (List.range j) ++ ⟨c, j⟩ ::
      if c = .staleShardVersion then List.replicate (request.sizeWriteOps - (j + 1)) ⟨c, j⟩
      else [] := by
  rw [bulkExecute_eq]
  simp only [ho, execItems_errors, execItems_unordered, failedItemErrors_last exec hc hlast hj,
    staleCopies, List.getLast?_append, List.getLast?_singleton, Option.or_some]
  by_cases hs : c = .staleShardVersion <;> simp [hs]

theorem last_failure_unique {n j j' : Nat} (hj : exec j ≠ none)
    (hl : ∀ k, j < k → k < n → exec k = none) (hj' : exec j' ≠ none)
    (hl' : ∀ k, j' < k → k < n → exec k = none) (hjn : j < n) (hjn' : j' < n) : j' = j := by
  rcases Nat.lt_trichotomy j j' with h | h | h
  · exact absurd (hl j' h hjn') hj'
  · exact h.symm
  · exact absurd (hl' j h hjn) hj

theorem needToEnforceWC_eq_true {request : BatchedCommandRequest}
    {writeErrors : List WriteErrorDetail} :
    needToEnforceWC request writeErrors = true ↔ writeErrors = [] ∨
      request.ordered = false ∧ writeErrors.length < request.sizeWriteOps := by
  simp [needToEnforceWC, List.isEmpty_iff]

theorem bulkExecute_errors_eq_nil (request : BatchedCommandRequest)
    (hok : ∀ i < request.sizeWriteOps, exec i = none) : (bulkExecute request exec).2 = [] := by
  rw [bulkExecute_eq]
  simp only [(execItems_errors_eq_nil exec _ _).mpr fun i hi => hok i (List.mem_range.mp hi)]
  rfl

theorem bulkExecute_ordered_errors (request : BatchedCommandRequest) (ho : request.ordered = true) :
    (bulkExecute request exec).2 =
      (execItems true exec (List.range request.sizeWriteOps)).2 := by
  rw [bulkExecute_eq]
  simp only [ho, staleCopies, Bool.not_true, Bool.false_and, Bool.false_eq_true, if_false]
  split <;> simp

end Errors

/-- **When `executeBatch` waits for the write concern.** For a batch of at least one item: an
ordered batch waits only when every item succeeded; an unordered one waits when some item
succeeded that does not come after a last error `StaleShardVersion`. An unordered batch whose
last error is `StaleShardVersion` and whose only successes follow it does not wait, because
the clones of that error fill the error list up to the number of items. -/
theorem bulkExecute_enforces_write_concern_iff (request : BatchedCommandRequest)
    (exec : Nat → Option ErrorCode) (hn : 0 < request.sizeWriteOps) :
    needToEnforceWC request (bulkExecute request exec).2 = true ↔
      if request.ordered then ∀ i < request.sizeWriteOps, exec i = none
      else ∃ i < request.sizeWriteOps, exec i = none ∧ ∀ j < request.sizeWriteOps,
        exec j = some .staleShardVersion →
          (∀ k, j < k → k < request.sizeWriteOps → exec k = none) → i < j := by
  cases ho : request.ordered with
  | true =>
    simp [needToEnforceWC_eq_true, bulkExecute_ordered_errors exec request ho, ho,
      execItems_errors_eq_nil]
  | false =>
    simp only [Bool.false_eq_true, if_false]
    by_cases hf : ∃ j < request.sizeWriteOps, exec j ≠ none
    · obtain ⟨j, hj, hjf, hl⟩ := exists_last_failure exec _ hf
      obtain ⟨c, hc⟩ := Option.ne_none_iff_exists'.mp hjf
      have hunique : ∀ j' < request.sizeWriteOps, exec j' = some .staleShardVersion →
          (∀ k, j' < k → k < request.sizeWriteOps → exec k = none) → j' = j :=
        fun j' hj' hs hl' => last_failure_unique exec hjf hl (by simp [hs]) hl' hj hj'
      rw [bulkExecute_unordered_errors exec request ho hc hl hj]
      rw [needToEnforceWC_eq_true, or_iff_right (by simp), and_iff_right ho,
        List.length_append, List.length_cons]
      by_cases hs : c = .staleShardVersion
      · subst hs
        have hlen := failedItemErrors_length_lt exec j
        rw [if_pos rfl, List.length_replicate]
        constructor
        · intro h
          obtain ⟨i, hi, he⟩ := hlen.mp (by omega)
          exact ⟨i, by omega, he, fun j' hj' hs' hl' => hunique j' hj' hs' hl' ▸ hi⟩
        · rintro ⟨i, -, he, h⟩
          have := hlen.mpr ⟨i, h j hj hc hl, he⟩
          omega
      · have hlen := congrArg List.length (failedItemErrors_last exec hc hl hj)
        rw [List.length_append, List.length_singleton] at hlen
        rw [if_neg hs, List.length_nil, ← hlen, failedItemErrors_length_lt]
        refine ⟨fun ⟨i, hi, he⟩ => ⟨i, hi, he, fun j' hj' hs' hl' => ?_⟩, fun ⟨i, hi, he, _⟩ =>
          ⟨i, hi, he⟩⟩
        rw [hunique j' hj' hs' hl', hc] at hs'
        exact absurd (Option.some.inj hs') hs
    · simp only [not_exists, not_and, not_not] at hf
      rw [bulkExecute_errors_eq_nil exec request hf]
      exact ⟨fun _ => ⟨0, hn, hf 0 hn, fun j hj hs => by simp [hf j hj] at hs⟩, fun _ => rfl⟩

/-- **`executeBatch` reports a failed write-concern wait exactly when it waits.** For a batch
that passes validation, with at least one item and at most `kMaxWriteBatchSize`, under a write
concern that is not silent and a wait that fails with `wcStatus`, the response carries the
write-concern error exactly when: the batch is ordered and every item succeeded, or it is
unordered and some item succeeded that does not come after a last error
`StaleShardVersion`. -/
theorem executeBatch_write_concern_error {U : Type} (request : BatchedCommandRequest)
    (checks : NamespaceChecks) (kMaxWriteBatchSize : Nat) (writeConcern : WriteConcernOptions)
    (result : Nat → WriteOpResult U) (wcStatus : Status) (wTimedOut : Bool)
    (hvalid : validateBatch checks = none) (hn : 0 < request.sizeWriteOps)
    (hmax : request.sizeWriteOps ≤ kMaxWriteBatchSize) (hsilent : silentWC writeConcern = false) :
    (executeBatch request checks kMaxWriteBatchSize writeConcern result (some wcStatus)
        wTimedOut).writeConcernError = some (toWriteConcernError wcStatus wTimedOut) ↔
      if request.ordered then ∀ i < request.sizeWriteOps, (result i).error = none
      else ∃ i < request.sizeWriteOps, (result i).error = none ∧ ∀ j < request.sizeWriteOps,
        (result j).error = some .staleShardVersion →
          (∀ k, j < k → k < request.sizeWriteOps → (result k).error = none) → i < j := by
  rw [← bulkExecute_enforces_write_concern_iff request _ hn]
  simp only [executeBatch, hvalid, Nat.pos_iff_ne_zero.mp hn, not_lt.mpr hmax, hsilent,
    if_false, gt_iff_lt, Bool.not_false, if_true]
  cases needToEnforceWC request _ <;> simp

theorem executeBatch_write_concern_error_ordered :
    validateBatch ⟨"test.c", true, none, false, none⟩ = none ∧ 0 < 1 ∧ 1 ≤ 1000 ∧
      silentWC ⟨"majority", 0, true⟩ = false ∧
      ((executeBatch (U := Nat) ⟨.update, 1, true⟩ ⟨"test.c", true, none, false, none⟩ 1000
          ⟨"majority", 0, true⟩ (fun _ => ⟨⟨1, 1, none⟩, none⟩)
          (some ⟨.other 64, "waiting for replication timed out"⟩) true).writeConcernError =
        some (toWriteConcernError ⟨.other 64, "waiting for replication timed out"⟩ true) ↔
      if true then ∀ i < 1, (none : Option ErrorCode) = none
      else ∃ i < 1, (none : Option ErrorCode) = none ∧ ∀ j < 1,
        (none : Option ErrorCode) = some .staleShardVersion →
          (∀ k, j < k → k < 1 → (none : Option ErrorCode) = none) → i < j) :=
  ⟨rfl, by decide, by decide, rfl, executeBatch_write_concern_error ⟨.update, 1, true⟩
    ⟨"test.c", true, none, false, none⟩ 1000 ⟨"majority", 0, true⟩ (fun _ => ⟨⟨1, 1, none⟩, none⟩)
    ⟨.other 64, "waiting for replication timed out"⟩ true rfl (by decide) (by decide) rfl⟩

section Response
variable {U : Type}

theorem bulkExecute_executed (request : BatchedCommandRequest) (exec : Nat → Option ErrorCode) :
    (bulkExecute request exec).1 <+: List.range request.sizeWriteOps := by
  rw [bulkExecute_eq]
  exact execItems_ran_initial exec _ _

theorem bulkExecute_errors_index_lt (request : BatchedCommandRequest)
    (exec : Nat → Option ErrorCode) :
    ∀ e ∈ (bulkExecute request exec).2, e.index < request.sizeWriteOps := by
  have hloop : ∀ e ∈ (execItems request.ordered exec (List.range request.sizeWriteOps)).2,
      e.index < request.sizeWriteOps := by
    intro e he
    rw [execItems_errors] at he
    obtain ⟨i, hi, he⟩ := List.mem_filterMap.mp he
    obtain ⟨c, -, rfl⟩ := Option.map_eq_some'.mp he
    exact List.mem_range.mp ((execItems_ran_initial exec _ _).subset hi)
  rw [bulkExecute_eq]
  intro e he
  rcases List.mem_append.mp he with he | he
  · exact hloop e he
  · rcases staleCopies_spec request.ordered request.sizeWriteOps
      (execItems request.ordered exec (List.range request.sizeWriteOps)).2 with h | ⟨f, hf, -, -, h⟩
    · simp [h] at he
    · rw [h] at he
      rw [List.eq_of_mem_replicate he]
      exact hloop f (List.mem_of_getLast?_eq_some hf)

/-- There are never more errors than items: the clones of a last `StaleShardVersion` error
only stand in for the items after it. -/
theorem bulkExecute_errors_length_le (request : BatchedCommandRequest)
    (exec : Nat → Option ErrorCode) :
    (bulkExecute request exec).2.length ≤ request.sizeWriteOps := by
  cases ho : request.ordered with
  | true =>
    rw [bulkExecute_ordered_errors exec request ho, execItems_errors]
    exact (List.length_filterMap_le _ _).trans
      ((execItems_ran_initial exec _ _).length_le.trans (List.length_range _).le)
  | false =>
    by_cases hf : ∃ j < request.sizeWriteOps, exec j ≠ none
    · obtain ⟨j, hj, hjf, hl⟩ := exists_last_failure exec _ hf
      obtain ⟨c, hc⟩ := Option.ne_none_iff_exists'.mp hjf
      have hL : (failedItemErrors exec (List.range j)).length ≤ j :=
        (List.length_filterMap_le _ _).trans (List.length_range j).le
      rw [bulkExecute_unordered_errors exec request ho hc hl hj, List.length_append,
        List.length_cons]
      split <;> simp only [List.length_replicate, List.length_nil] <;> omega
    · simp only [not_exists, not_and, not_not] at hf
      simp [bulkExecute_errors_eq_nil exec request hf]

theorem upsertedIds_mem {result : Nat → WriteOpResult U} {executed : List Nat} {u : Nat × U}
    (h : u ∈ upsertedIds result executed) : u.1 ∈ executed := by
  obtain ⟨i, hi, hu⟩ := List.mem_filterMap.mp h
  obtain ⟨v, -, rfl⟩ := Option.map_eq_some'.mp hu
  exact hi

theorem upsertedIds_sorted (result : Nat → WriteOpResult U) {executed : List Nat}
    (h : executed.Pairwise (· < ·)) :
    ((upsertedIds result executed).map Prod.fst).Pairwise (· < ·) :=
  List.pairwise_map.mpr <| h.filterMap _ fun i i' hi u hu u' hu' => by
    obtain ⟨v, -, rfl⟩ := Option.map_eq_some'.mp hu
    obtain ⟨v', -, rfl⟩ := Option.map_eq_some'.mp hu'
    exact hi

theorem foldl_incWriteStats_numUpserted (result : Nat → WriteOpResult U) :
    ∀ (executed : List Nat) (st : WriteBatchStats),
      (executed.foldl (fun st i => incWriteStats .update (result i).stats st) st).numUpserted =
        st.numUpserted + (upsertedIds result executed).length
  | [], _ => rfl
  | i :: is, st => by
    rw [List.foldl_cons, foldl_incWriteStats_numUpserted result is]
    cases h : (result i).stats.upsertedID with
    | none => simp [incWriteStats, upsertedIds, h, List.filterMap_cons]
    | some _ => simp [incWriteStats, upsertedIds, h, List.filterMap_cons]; omega

end Response

/-- What a response says of the items of its batch: every write error and every upsert detail
names an item, the upsert details come in increasing index order, there are no more errors
than items, and each upsert detail is counted in `n`. -/
structure ResponseWellFormed {U : Type} (request : BatchedCommandRequest)
    (r : BatchedCommandResponse U) : Prop where
  errDetails_index : ∀ e ∈ r.errDetails, e.index < request.sizeWriteOps
  errDetails_length : r.errDetails.length ≤ request.sizeWriteOps
  upsertDetails_index : ∀ u ∈ r.upsertDetails, u.1 < request.sizeWriteOps
  upsertDetails_sorted : (r.upsertDetails.map Prod.fst).Pairwise (· < ·)
  upsertDetails_counted : r.upsertDetails.length ≤ r.n.getD 0

theorem ResponseWellFormed.of_empty {U : Type} {request : BatchedCommandRequest}
    {r : BatchedCommandResponse U} (he : r.errDetails = []) (hu : r.upsertDetails = []) :
    ResponseWellFormed request r :=
  ⟨by simp [he], by simp [he], by simp [hu], by simp [hu], by simp [hu]⟩

/-- **Every response of `executeBatch` is well formed**, for every request, every validation
answer, every write concern and every outcome of the items. -/
theorem executeBatch_response_well_formed {U : Type} (request : BatchedCommandRequest)
    (checks : NamespaceChecks) (kMaxWriteBatchSize : Nat) (writeConcern : WriteConcernOptions)
    (result : Nat → WriteOpResult U) (waitForWriteConcern : Option Status) (wTimedOut : Bool) :
    ResponseWellFormed request (executeBatch request checks kMaxWriteBatchSize writeConcern
      result waitForWriteConcern wTimedOut) := by
  unfold executeBatch
  split
  · exact .of_empty rfl rfl
  split
  · exact .of_empty rfl rfl
  split
  · exact .of_empty rfl rfl
  cases hs : silentWC writeConcern
  · simp only [Bool.not_false, eq_self_iff_true, if_true]
    have hexec := bulkExecute_executed request fun i => (result i).error
    refine ⟨bulkExecute_errors_index_lt request _, bulkExecute_errors_length_le request _,
      fun u hu => ?_, ?_, ?_⟩
    · split at hu
      · exact List.mem_range.mp (hexec.subset (upsertedIds_mem hu))
      · exact absurd hu (List.not_mem_nil u)
    · split
      · exact upsertedIds_sorted result ((List.pairwise_lt_range _).sublist hexec.sublist)
      · exact List.Pairwise.nil
    · split
      · rename_i hb
        simp only [hb, Option.getD_some, foldl_incWriteStats_numUpserted]
        omega
      · simp
  · exact .of_empty rfl rfl

end Normous.WriteOps.ExecuteBatch
