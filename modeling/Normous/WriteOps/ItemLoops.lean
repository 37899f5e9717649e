import Normous.WriteOps.ExecuteBatch

/-!
# The update and delete loops of `bulkExecute`, run by `multiUpdate` and `multiRemove`

`execUpdate` or `execRemove` gives each item a fresh `WriteOpResult`, runs `multiUpdate` or
`multiRemove` into it, adds its stats to the executor's counters and hands back its error. The
update loop pushes the upserted id of an item that has one, each loop pushes the error of an
item that failed, and an ordered batch stops at its first error; the two loops are one loop,
`itemLoop`, with the batch type as a parameter.

`itemLoop_refines` is the loop's rule: from any spec each item's run meets, every run that
returns gives what `executeBatch` reads off (`readOff`) results that meet it, the results its
own items returned. `updateLoop_response` closes the chain for an update batch: the response
carries exactly the upserted ids, errors and counts of the stateful loop.
-/

namespace Normous.WriteOps.ItemLoops

open Normous.Exec Normous.WriteOps.Batch Normous.WriteOps.ExecuteBatch
open Normous.WriteOps.UpdateRemove (Op OpState UpdateResult multiUpdate multiRemove)
open Normous.WriteOps.InsertLoop (Reply)

/-- What `execUpdate` reads of an update item: `getMulti()`, `getUpsert()`, and what its plan
reports. -/
structure UpdateItem (U : Type) where
  isMulti : Bool
  isUpsert : Bool
  plan : Nat → UpdateResult U

section Model

variable {U : Type} (env : Nat → Reply)

/-- `WriteBatchExecutor::execUpdate`: `multiUpdate` into a fresh `WriteOpResult`. -/
def execUpdate (item : UpdateItem U) (fuel : Nat) : Op U (WriteOpResult U) := do
  modify fun s => { s with stats := ⟨0, 0, none⟩, error := none }
  multiUpdate env item.isMulti item.isUpsert item.plan fuel
  let s ← get
  pure ⟨s.stats, s.error⟩

def execRemove (deleted : Nat → Nat) (fuel : Nat) : Op U (WriteOpResult U) := do
  modify fun s => { s with stats := ⟨0, 0, none⟩, error := none }
  multiRemove env deleted fuel
  let s ← get
  pure ⟨s.stats, s.error⟩

/-- The loop of `bulkExecute` over the items `is` of an update or delete batch, each run by
`execItem`: the upserted ids pushed (update batches only), the errors pushed, and the
executor's counters. -/
def itemLoop (opType : BatchType) (ordered : Bool) (execItem : Nat → Op U (WriteOpResult U)) :
    List Nat → WriteBatchStats → Op U (List (Nat × U) × List WriteErrorDetail × WriteBatchStats)
  | [], st => pure ([], [], st)
  | i :: is, st => do
    let result ← execItem i
    let st := incWriteStats opType result.stats st
    let upserted := if opType = .update then (result.stats.upsertedID.map (i, ·)).toList else []
    match result.error with
    | none => do
      let r ← itemLoop opType ordered execItem is st
      pure (upserted ++ r.1, r.2.1, r.2.2)
    | some code =>
      if ordered then pure (upserted, [⟨code, i⟩], st)
      else do
        let r ← itemLoop opType ordered execItem is st
        pure (upserted ++ r.1, ⟨code, i⟩ :: r.2.1, r.2.2)

def updateLoop (ordered : Bool) (items : Nat → UpdateItem U) (fuel : Nat) :
    List Nat → WriteBatchStats → Op U (List (Nat × U) × List WriteErrorDetail × WriteBatchStats) :=
  itemLoop .update ordered fun i => execUpdate env (items i) fuel

def removeLoop (ordered : Bool) (items : Nat → Nat → Nat) (fuel : Nat) :
    List Nat → WriteBatchStats → Op U (List (Nat × U) × List WriteErrorDetail × WriteBatchStats) :=
  itemLoop .delete ordered fun i => execRemove env (items i) fuel

end Model

section Refines
variable {U : Type} (opType : BatchType) (ordered : Bool)

/-- What `executeBatch` reads off the results of the items `is`: the upserted ids, the errors
and the counters, from `st`. -/
def readOff (result : Nat → WriteOpResult U) (is : List Nat) (st : WriteBatchStats) :
    List (Nat × U) × List WriteErrorDetail × WriteBatchStats :=
  let run := execItems ordered (fun i => (result i).error) is
  (if opType = .update then upsertedIds result run.1 else [], run.2,
    run.1.foldl (fun st i => incWriteStats opType (result i).stats st) st)

theorem readOff_congr {result result' : Nat → WriteOpResult U} {is : List Nat}
    (h : ∀ j ∈ is, result j = result' j) (st : WriteBatchStats) :
    readOff opType ordered result is st = readOff opType ordered result' is st := by
  have hrun : execItems ordered (fun i => (result i).error) is =
      execItems ordered (fun i => (result' i).error) is :=
    execItems_congr _ _ fun j hj => by rw [h j hj]
  have hsub := (execItems_ran_initial (fun i => (result' i).error) ordered is).subset
  simp only [readOff, hrun]
  congr 2
  · exact List.filterMap_congr fun j hj => by rw [h j (hsub hj)]
  · exact List.foldl_ext _ _ _ fun st j hj => by rw [h j (hsub hj)]

theorem readOff_cons (result : Nat → WriteOpResult U) (i : Nat) (is : List Nat)
    (st : WriteBatchStats) (hi : (result i).error = none ∨ ordered = false) :
    readOff opType ordered result (i :: is) st =
      let r := readOff opType ordered result is (incWriteStats opType (result i).stats st)
      ((if opType = .update then ((result i).stats.upsertedID.map (i, ·)).toList else []) ++ r.1,
        ((result i).error.map fun c => ⟨c, i⟩).toList ++ r.2.1, r.2.2) := by
  have hup : ∀ l, upsertedIds result (i :: l) =
      ((result i).stats.upsertedID.map (i, ·)).toList ++ upsertedIds result l := fun l => by
    cases hu : (result i).stats.upsertedID <;> simp [upsertedIds, List.filterMap_cons, hu]
  rcases hi with hi | hi
  · simp only [readOff, execItems, hi, List.foldl_cons, hup]
    split <;> simp
  · cases h : (result i).error <;>
      simp only [readOff, execItems, h, hi, List.foldl_cons, hup, Bool.false_eq_true, if_false] <;>
      split <;> simp

/-- **The item loops compute what `executeBatch` reads.** If every item run from an invariant
`P` returns a result satisfying `R` into `P`, then every run of the update or delete loop of
`bulkExecute` over distinct items that returns gives the upserted ids, errors and counters
`readOff` reads off results satisfying `R` for every item run: the results its own items
returned. -/
theorem itemLoop_refines (execItem : Nat → Op U (WriteOpResult U)) (P : OpState U → Prop)
    (R : Nat → WriteOpResult U → Prop) :
    ∀ (is : List Nat) (st : WriteBatchStats), is.Nodup →
      (∀ i ∈ is, Triple P (execItem i) (fun r s => R i r ∧ P s) (fun _ _ => True)) →
      Triple P (itemLoop opType ordered execItem is st)
        (fun r s => P s ∧ ∃ result, r = readOff opType ordered result is st ∧
          ∀ i ∈ (execItems ordered (fun i => (result i).error) is).1, R i (result i))
        (fun _ _ => True)
  | [], st, _, _ => Triple.pure fun _ hs =>
    ⟨hs, fun _ => ⟨⟨0, 0, none⟩, none⟩, by simp [readOff, execItems, upsertedIds], by simp [execItems]⟩
  | i :: is, st, hnd, hitem => by
    obtain ⟨hi, hnd⟩ := List.nodup_cons.mp hnd
    have ih := fun st => itemLoop_refines execItem P R is st hnd fun j hj =>
      hitem j (List.mem_cons_of_mem _ hj)
    have hrun : ∀ (r : WriteOpResult U) (result : Nat → WriteOpResult U),
        execItems ordered (fun j => (if j = i then r else result j).error) is =
          execItems ordered (fun j => (result j).error) is :=
      fun r result => execItems_congr _ _ fun j hj => by rw [if_neg fun (h : j = i) => hi (h ▸ hj)]
    have extend : ∀ (r : WriteOpResult U) (result : Nat → WriteOpResult U) st',
        readOff opType ordered (fun j => if j = i then r else result j) is st' =
          readOff opType ordered result is st' :=
      fun r result st' => readOff_congr opType ordered (fun j hj =>
        if_neg fun (h : j = i) => hi (h ▸ hj)) st'
    -- the result of item `i` joins those of the later items, which never run `i` again
    have outcomes : ∀ (r : WriteOpResult U) (result : Nat → WriteOpResult U), R i r →
        (∀ j ∈ (execItems ordered (fun j => (result j).error) is).1, R j (result j)) →
        ∀ j ∈ (execItems ordered (fun j => (if j = i then r else result j).error) (i :: is)).1,
          R j (if j = i then r else result j) := by
      intro r result hRi hR j hj
      by_cases hji : j = i
      · subst hji
        simpa using hRi
      · have hj := execItems_cons_subset _ ordered i is hj
        rw [hrun] at hj
        simpa [hji] using hR j ((List.mem_cons.mp hj).resolve_left hji)
    refine Triple.bind (hitem i (List.mem_cons_self _ _)) fun r =>
      Triple.pre fun s₀ ⟨hRi, hP⟩ => ?_
    have ih : ∀ st, Triple (· = s₀) (itemLoop opType ordered execItem is st) _ _ :=
      fun st => (ih st).weaken fun _ h => h ▸ hP
    have cons := fun (result : Nat → WriteOpResult U)
      (hr : (result i).error = none ∨ ordered = false) => readOff_cons opType ordered result i is st hr
    dsimp only
    cases h : r.error with
    | none =>
      refine Triple.bind (ih _) fun r' =>
        Triple.pure fun _ ⟨hP', result, he, hR⟩ =>
          ⟨hP', fun j => if j = i then r else result j, ?_, outcomes r result hRi hR⟩
      rw [cons _ (.inl (by simp [h])), extend]
      simp [he, h]
    | some code =>
      refine Triple.ite (fun ho => Triple.pure fun _ h' => ⟨h' ▸ hP, fun _ => r, ?_, ?_⟩)
        fun ho => ?_
      · simp only [readOff, execItems, h, ho, if_true, List.foldl_cons, List.foldl_nil]
        cases hu : r.stats.upsertedID <;> simp [upsertedIds, hu]
      · simp [execItems, h, ho, hRi]
      · refine Triple.bind (ih _) fun r' =>
          Triple.pure fun _ ⟨hP', result, he, hR⟩ =>
            ⟨hP', fun j => if j = i then r else result j, ?_, outcomes r result hRi hR⟩
        rw [cons _ (.inr (by simpa using ho)), extend]
        simp [he, h]

end Refines

/-- **`executeBatch` reports what the stateful update loop did.** For an update batch that
passes validation, has at least one item and at most `kMaxWriteBatchSize`, under a write
concern that is not silent, and for any property `R` that every `execUpdate` run from an
invariant `P` gives its result: every run of the update loop of `bulkExecute` (each item
through `execUpdate` and `multiUpdate`) that returns produced item results satisfying `R` for
every item run, from which `executeBatch` builds exactly the loop's upserted ids, its errors
followed by the stale-version clones, and `n` and `nModified` from its counters. -/
theorem updateLoop_response {U : Type} (env : Nat → Reply) (request : BatchedCommandRequest)
    (items : Nat → UpdateItem U) (fuel : Nat) (checks : NamespaceChecks)
    (kMaxWriteBatchSize : Nat) (writeConcern : WriteConcernOptions)
    (waitForWriteConcern : Option Status) (wTimedOut : Bool) (P : OpState U → Prop)
    (R : Nat → WriteOpResult U → Prop)
    (hupdate : request.batchType = .update) (hvalid : validateBatch checks = none)
    (hn : 0 < request.sizeWriteOps) (hmax : request.sizeWriteOps ≤ kMaxWriteBatchSize)
    (hsilent : silentWC writeConcern = false)
    (hitem : ∀ i < request.sizeWriteOps, Triple P (execUpdate env (items i) fuel)
      (fun r s => R i r ∧ P s) (fun _ _ => True)) :
    Triple P
      (updateLoop env request.ordered items fuel (List.range request.sizeWriteOps) ⟨0, 0, 0, 0, 0⟩)
      (fun r _ => ∃ result : Nat → WriteOpResult U,
        (∀ i ∈ (execItems request.ordered (fun i => (result i).error)
          (List.range request.sizeWriteOps)).1, R i (result i)) ∧
        (executeBatch request checks kMaxWriteBatchSize writeConcern result waitForWriteConcern
          wTimedOut).upsertDetails = r.1 ∧
        (executeBatch request checks kMaxWriteBatchSize writeConcern result waitForWriteConcern
          wTimedOut).errDetails = r.2.1 ++ staleCopies request.ordered request.sizeWriteOps r.2.1 ∧
        (executeBatch request checks kMaxWriteBatchSize writeConcern result waitForWriteConcern
          wTimedOut).n =
            some (r.2.2.numInserted + r.2.2.numUpserted + r.2.2.numMatched + r.2.2.numDeleted) ∧
        (executeBatch request checks kMaxWriteBatchSize writeConcern result waitForWriteConcern
          wTimedOut).nModified = some r.2.2.numModified)
      (fun _ _ => True) :=
  (itemLoop_refines .update request.ordered _ P R _ _ (List.nodup_range _)
    fun i hi => hitem i (List.mem_range.mp hi)).conseq (fun _ h => h)
    (fun _ _ ⟨_, result, hr, hR⟩ => ⟨result, hR, by
      subst hr
      simp only [executeBatch, hvalid, Nat.pos_iff_ne_zero.mp hn, not_lt.mpr hmax, hsilent,
        hupdate, bulkExecute_eq, readOff, if_true, if_false, gt_iff_lt, Bool.not_false,
        and_self]⟩) fun _ _ h => h

theorem updateLoop_response_one_item :
    BatchType.update = .update ∧ validateBatch ⟨"test.c", true, none, false, none⟩ = none ∧
      0 < 1 ∧ 1 ≤ 1000 ∧ silentWC ⟨"majority", 0, true⟩ = false ∧
      (∀ i < 1, Triple (fun _ : OpState Nat => True)
        (execUpdate (fun t => if t < 100 then .ok else .raise .stdException)
          (⟨false, false, fun _ => ⟨1, 1, none⟩⟩ : UpdateItem Nat) 1)
        (fun _ _ => True ∧ True) (fun _ _ => True)) ∧
      Triple (fun _ : OpState Nat => True)
        (updateLoop (fun t => if t < 100 then .ok else .raise .stdException) true
          (fun _ => ⟨false, false, fun _ => ⟨1, 1, none⟩⟩) 1 (List.range 1) ⟨0, 0, 0, 0, 0⟩)
        (fun r _ => ∃ result : Nat → WriteOpResult Nat,
          (∀ i ∈ (execItems true (fun i => (result i).error) (List.range 1)).1, True) ∧
          (executeBatch ⟨.update, 1, true⟩ ⟨"test.c", true, none, false, none⟩ 1000
            ⟨"majority", 0, true⟩ result none false).upsertDetails = r.1 ∧
          (executeBatch ⟨.update, 1, true⟩ ⟨"test.c", true, none, false, none⟩ 1000
            ⟨"majority", 0, true⟩ result none false).errDetails = r.2.1 ++ staleCopies true 1 r.2.1 ∧
          (executeBatch ⟨.update, 1, true⟩ ⟨"test.c", true, none, false, none⟩ 1000
            ⟨"majority", 0, true⟩ result none false).n =
              some (r.2.2.numInserted + r.2.2.numUpserted + r.2.2.numMatched + r.2.2.numDeleted) ∧
          (executeBatch ⟨.update, 1, true⟩ ⟨"test.c", true, none, false, none⟩ 1000
            ⟨"majority", 0, true⟩ result none false).nModified = some r.2.2.numModified)
        (fun _ _ => True) :=
  have hitem : ∀ i < 1, Triple (fun _ : OpState Nat => True)
      (execUpdate (fun t => if t < 100 then .ok else .raise .stdException)
        (⟨false, false, fun _ => ⟨1, 1, none⟩⟩ : UpdateItem Nat) 1)
      (fun _ _ => True ∧ True) (fun _ _ => True) := fun _ _ =>
    Triple.trivial.conseq (fun _ h => h) (fun _ _ _ => ⟨trivial, trivial⟩) fun _ _ h => h
  ⟨rfl, rfl, by decide, by decide, rfl, hitem, @updateLoop_response Nat
    (fun t => if t < 100 then .ok else .raise .stdException) ⟨.update, 1, true⟩
    (fun _ => ⟨false, false, fun _ => ⟨1, 1, none⟩⟩) 1 ⟨"test.c", true, none, false, none⟩ 1000
    ⟨"majority", 0, true⟩ none false (fun _ => True) (fun _ _ => True) rfl rfl (by decide)
    (by decide) rfl hitem⟩

end Normous.WriteOps.ItemLoops
