import Mathlib.Data.List.Range

/-!
# The item loops of `WriteBatchExecutor::bulkExecute`

`bulkExecute` runs the items of an insert, update or delete batch in index order: the
update and delete loops inline, the inserts through `execInserts`. Each loop pushes one
`WriteErrorDetail` per failed item, carrying the item's index, and an ordered batch stops at
its first error. After the loops, an unordered batch whose last error is
`StaleShardVersion` is padded with clones of that error, one per later item.

An item's execution is an oracle `exec : Nat → Option ErrorCode` (the error
`execUpdate`, `execRemove` or `execOneInsert` reports for item `i`). Every item runs at most
once and in index order, so any run of the executor produces such a function.
`Normous.WriteOps.InsertLoop` shows the stateful insert loop is this loop at the outcomes
its own run produced.
-/

namespace Normous.WriteOps.Batch

/-- The `ErrorCodes` the executor sets or tests by name; every other code is `other`. -/
inductive ErrorCode where
  | staleShardVersion
  | notMaster
  | cannotCreateIndex
  | internalError
  | other (code : Int)
  deriving DecidableEq, Repr

/-- `WriteErrorDetail`, with the two fields the executor reads: the code and the index of
the item it reports. -/
structure WriteErrorDetail where
  errCode : ErrorCode
  index : Nat
  deriving DecidableEq, Repr

inductive BatchType where
  | insert
  | update
  | delete
  deriving DecidableEq, Repr

/-- The fields of `BatchedCommandRequest` that `bulkExecute` reads. -/
structure BatchedCommandRequest where
  batchType : BatchType
  sizeWriteOps : Nat
  ordered : Bool
  deriving DecidableEq, Repr

/-- One loop over the items `is`: run each, push an error with the item's index when it
fails, and stop after the first error when the batch is ordered. Returns the items run and
the errors pushed. -/
def execItems (ordered : Bool) (exec : Nat → Option ErrorCode) :
    List Nat → List Nat × List WriteErrorDetail
  | [] => ([], [])
  | i :: is =>
    match exec i with
    | none => let r := execItems ordered exec is; (i :: r.1, r.2)
    | some c =>
      if ordered then ([i], [⟨c, i⟩])
      else let r := execItems ordered exec is; (i :: r.1, ⟨c, i⟩ :: r.2)

/-- `WriteBatchExecutor::execInserts` seen through the outcome of each `execOneInsert`; the
stateful loop is `Normous.WriteOps.InsertLoop.execInserts`. -/
def execInsertItems (request : BatchedCommandRequest) (exec : Nat → Option ErrorCode) :
    List Nat × List WriteErrorDetail :=
  execItems request.ordered exec (List.range request.sizeWriteOps)

def execUpdates (request : BatchedCommandRequest) (execUpdate : Nat → Option ErrorCode) :
    List Nat × List WriteErrorDetail :=
  execItems request.ordered execUpdate (List.range request.sizeWriteOps)

def execRemoves (request : BatchedCommandRequest) (execRemove : Nat → Option ErrorCode) :
    List Nat × List WriteErrorDetail :=
  execItems request.ordered execRemove (List.range request.sizeWriteOps)

/-- The stale-version fill-in: for an unordered batch whose last error is
`StaleShardVersion`, one clone of that error for each item after its index
(`cloneTo` copies all the fields, the index included). -/
def staleCopies (ordered : Bool) (size : Nat) (errors : List WriteErrorDetail) :
    List WriteErrorDetail :=
  match errors.getLast? with
  | some finalError =>
    if !ordered && finalError.errCode = .staleShardVersion then
      List.replicate (size - (finalError.index + 1)) finalError
    else []
  | none => []

/-- `WriteBatchExecutor::bulkExecute`: the items run and the error list it builds. -/
def bulkExecute (request : BatchedCommandRequest) (exec : Nat → Option ErrorCode) :
    List Nat × List WriteErrorDetail :=
  let r := match request.batchType with
    | .insert => execInsertItems request exec
    | .update => execUpdates request exec
    | .delete => execRemoves request exec
  (r.1, r.2 ++ staleCopies request.ordered request.sizeWriteOps r.2)

/-- The error list the write-command contract describes: one error for each item run that
failed, carrying that item's index, in the order the items ran. -/
def failedItemErrors (exec : Nat → Option ErrorCode) (executed : List Nat) :
    List WriteErrorDetail :=
  executed.filterMap fun i => (exec i).map fun c => ⟨c, i⟩

theorem bulkExecute_eq (request : BatchedCommandRequest) (exec : Nat → Option ErrorCode) :
    bulkExecute request exec =
      let r := execItems request.ordered exec (List.range request.sizeWriteOps)
      (r.1, r.2 ++ staleCopies request.ordered request.sizeWriteOps r.2) := by
  cases h : request.batchType <;> simp [bulkExecute, h, execInsertItems, execUpdates, execRemoves]

section Loop

variable (exec : Nat → Option ErrorCode)

theorem execItems_errors (ordered : Bool) (is : List Nat) :
    (execItems ordered exec is).2 = failedItemErrors exec (execItems ordered exec is).1 := by
  induction is with
  | nil => rfl
  | cons i is ih =>
    cases h : exec i with
    | none => simp [execItems, h, ih, failedItemErrors]
    | some c => cases ordered <;> simp [execItems, h, ih, failedItemErrors]

theorem execItems_ran_initial (ordered : Bool) (is : List Nat) :
    (execItems ordered exec is).1 <+: is := by
  induction is with
  | nil => exact List.prefix_refl _
  | cons i is ih =>
    cases h : exec i with
    | none => simpa [execItems, h] using ih
    | some c =>
      cases ordered
      · simpa [execItems, h] using ih
      · simp [execItems, h]

theorem execItems_cons_subset (ordered : Bool) (i : Nat) (is : List Nat) :
    (execItems ordered exec (i :: is)).1 ⊆ i :: (execItems ordered exec is).1 := by
  cases h : exec i with
  | none => simp [execItems, h]
  | some c => cases ordered <;> simp [execItems, h]

theorem execItems_congr {exec' : Nat → Option ErrorCode} (ordered : Bool) {is : List Nat}
    (h : ∀ i ∈ is, exec i = exec' i) : execItems ordered exec is = execItems ordered exec' is := by
  induction is with
  | nil => rfl
  | cons i is ih =>
    simp only [List.mem_cons, forall_eq_or_imp] at h
    simp only [execItems, h.1, ih h.2]

theorem execItems_unordered (is : List Nat) : (execItems false exec is).1 = is := by
  induction is with
  | nil => rfl
  | cons i is ih => cases h : exec i <;> simp [execItems, h, ih]

theorem execItems_ordered_failure (s m k : Nat) (hs : s ≤ k) (hk : k < s + m)
    (hfail : exec k ≠ none) (hok : ∀ j, s ≤ j → j < k → exec j = none) :
    (execItems true exec (List.range' s m)).1 = List.range' s (k + 1 - s) := by
  induction m generalizing s with
  | zero => omega
  | succ m ih =>
    rw [List.range'_succ]
    by_cases hsk : s = k
    · subst hsk
      obtain ⟨c, hc⟩ := Option.ne_none_iff_exists'.mp hfail
      simp [execItems, hc]
    · have hs' : exec s = none := hok s le_rfl (by omega)
      have hrest := ih (s + 1) (by omega) (by omega) (fun j h1 h2 => hok j (by omega) h2)
      rw [show k + 1 - s = k + 1 - (s + 1) + 1 by omega, List.range'_succ]
      simp [execItems, hs', hrest]

theorem execItems_ordered_no_failure (s m : Nat) (hok : ∀ j, s ≤ j → j < s + m → exec j = none) :
    (execItems true exec (List.range' s m)).1 = List.range' s m := by
  induction m generalizing s with
  | zero => rfl
  | succ m ih =>
    have hs : exec s = none := hok s le_rfl (by omega)
    have hrest := ih (s + 1) (fun j h1 h2 => hok j (by omega) (by omega))
    simp [List.range'_succ, execItems, hs, hrest]

theorem failedItemErrors_pairwise {is : List Nat} (h : is.Pairwise (· < ·)) :
    (failedItemErrors exec is).Pairwise (fun e e' => e.index < e'.index) :=
  h.filterMap _ fun i i' hi e he e' he' => by
    simp only [Option.mem_def, Option.map_eq_some'] at he he'
    obtain ⟨c, -, rfl⟩ := he
    obtain ⟨c', -, rfl⟩ := he'
    exact hi

end Loop

/-- **The error list of `bulkExecute`.** Items run in index order: all of them in an unordered
batch, up to and including the first failure in an ordered one. The loops push one error per
failed item, with its index, in strictly increasing order; the stale-version fill-in then
appends its clones. -/
theorem bulkExecute_error_list (request : BatchedCommandRequest)
    (exec : Nat → Option ErrorCode) :
    let run := bulkExecute request exec
    let errors := failedItemErrors exec run.1
    (request.ordered = false → run.1 = List.range request.sizeWriteOps) ∧
    (request.ordered = true → ∀ k < request.sizeWriteOps, exec k ≠ none →
      (∀ j < k, exec j = none) → run.1 = List.range (k + 1)) ∧
    (request.ordered = true → (∀ j < request.sizeWriteOps, exec j = none) →
      run.1 = List.range request.sizeWriteOps) ∧
    errors.Pairwise (fun e e' => e.index < e'.index) ∧
    run.2 = errors ++ staleCopies request.ordered request.sizeWriteOps errors := by
  simp only [bulkExecute_eq, List.range_eq_range']
  refine ⟨fun h => ?_, fun h k hk hf hj => ?_, fun h hj => ?_, ?_, ?_⟩
  · rw [h, execItems_unordered]
  · rw [h, execItems_ordered_failure exec 0 _ k (Nat.zero_le _) (by omega) hf
      (fun j _ hj' => hj j hj')]
    rfl
  · rw [h, execItems_ordered_no_failure exec 0 _ (fun j _ hj' => hj j (by omega))]
  · refine failedItemErrors_pairwise exec (List.Pairwise.sublist
      (execItems_ran_initial exec _ _).sublist ?_)
    rw [← List.range_eq_range']
    exact List.pairwise_lt_range _
  · rw [execItems_errors]

theorem staleCopies_spec (ordered : Bool) (size : Nat) (errors : List WriteErrorDetail) :
    staleCopies ordered size errors = [] ∨
      ∃ e, errors.getLast? = some e ∧ ordered = false ∧
        e.errCode = .staleShardVersion ∧
        staleCopies ordered size errors = List.replicate (size - (e.index + 1)) e := by
  unfold staleCopies
  split
  · rename_i e he
    by_cases h : (!ordered && e.errCode = .staleShardVersion) = true
    · simp only [Bool.and_eq_true, Bool.not_eq_true', decide_eq_true_eq] at h
      exact .inr ⟨e, he, h.1, h.2, by simp [h]⟩
    · exact .inl (if_neg h)
  · exact .inl rfl

/-- An unordered update batch of two items whose first item fails with `StaleShardVersion`:
both items run and only item 0 fails, but the fill-in loop never uses its index `i`, so the
clone it pushes for item 1 carries index 0. The list holds two errors for one failed item, both
at index 0, not in increasing index order. -/
theorem bulkExecute_clones_stale_error :
    let request : BatchedCommandRequest := ⟨.update, 2, false⟩
    let exec : Nat → Option ErrorCode := fun i => if i = 0 then some .staleShardVersion else none
    (bulkExecute request exec).1 = [0, 1] ∧
      failedItemErrors exec (bulkExecute request exec).1 = [⟨.staleShardVersion, 0⟩] ∧
      (bulkExecute request exec).2 = [⟨.staleShardVersion, 0⟩, ⟨.staleShardVersion, 0⟩] ∧
      ¬(bulkExecute request exec).2.Pairwise (fun e e' => e.index < e'.index) := by
  decide

end Normous.WriteOps.Batch
