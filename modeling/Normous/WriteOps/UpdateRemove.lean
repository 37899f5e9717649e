import Normous.WriteOps.InsertLoop

/-!
# `multiUpdate` and `multiRemove`: the retry loops of updates and deletes

A pass of `multiUpdate`'s `fakeLoop` parses the request, creates the collection when the flag
`createCollection` says so, takes its locks, runs the two checks and looks the database and
the collection up; a missing one ends the update with `n = 0` unless a first-seen upsert starts
a pass that creates it. A write conflict in the plan rethrows for a multi-update and otherwise
starts a new pass. `multiRemove` runs `while (1)` with the whole pass in its `try`.

The environment is an oracle read once per call; fuel bounds both loops. Every call keeps the
two counters the properties read (`Keeps`): the update loop spins only on write conflicts, no
collection is created for an update that is not an upsert, and the delete loop uses up its
passes only after as many write conflicts. `multiRemove_null_collection` says exactly when a
pass of `multiRemove` reaches `collection->infoCache()` with a null collection.
-/

namespace Normous.WriteOps.UpdateRemove

open Normous.Exec Normous.WriteOps.Batch
open Normous.WriteOps.InsertLoop (Exn Reply)

/-- What `UpdateStage::makeUpdateResult` reports of a run of the update plan; `upserted` is
`none` when the `BSONObj` is empty. -/
structure UpdateResult (U : Type) where
  numMatched : Nat
  numDocsModified : Nat
  upserted : Option U

structure WriteOpStats (U : Type) where
  n : Nat
  nModified : Nat
  upsertedID : Option U

/-- A rethrown exception, or the model's bound on one of the two loops. -/
inductive Fault where
  | exn (e : Exn)
  /-- `collection->infoCache()` on a null collection. -/
  | nullCollection
  /-- The `fakeLoop` of `multiUpdate` or the `while (1)` of `multiRemove` ran out of fuel. -/
  | passesOutOfFuel
  /-- The `MONGO_WRITE_CONFLICT_RETRY_LOOP` of `multiUpdate` ran out of fuel. -/
  | retriesOutOfFuel
  deriving DecidableEq

/-- The state of one `multiUpdate` or `multiRemove` call: its `WriteOpResult`, the increments
of `debug().writeConflicts` by the loop's own handler, the calls of `userCreateNS`, and the
position in the environment's answers. -/
structure OpState (U : Type) where
  stats : WriteOpStats U
  error : Option ErrorCode
  writeConflicts : Nat
  created : Nat
  tick : Nat

abbrev Op (U : Type) := EStateM Fault (OpState U)

/-- How a pass of the `fakeLoop` ends: `return`, or `fakeLoop = -1; continue` with the new
value of `createCollection`. -/
inductive Next where
  | done
  | restart (createCollection : Bool)
  deriving DecidableEq

section Model

variable {U : Type} (env : Nat → Reply)

def call : Op U (Option ErrorCode) := fun s =>
  match env s.tick with
  | .ok => .ok none { s with tick := s.tick + 1 }
  | .fail code => .ok (some code) { s with tick := s.tick + 1 }
  | .raise e => .error (.exn e) { s with tick := s.tick + 1 }

def lookup : Op U Bool := do
  let r ← call env
  pure r.isNone

def runPlan {α : Type} (result : Nat → α) : Op U α := fun s =>
  match env s.tick with
  | .raise e => .error (.exn e) { s with tick := s.tick + 1 }
  | _ => .ok (result s.tick) { s with tick := s.tick + 1 }

def setError (code : ErrorCode) : Op U Unit :=
  modify fun s => { s with error := some code }

/-- `checkIsMasterForDatabase` and `checkShardVersion`: on failure, set the error with the
check's code and answer `false`. -/
def check (code : ErrorCode) : Op U Bool := do
  match ← call env with
  | none => pure true
  | some _ => do
    setError code
    pure false

def setNothingDone : Op U Unit :=
  modify fun s => { s with stats := { s.stats with n := 0, nModified := 0 } }

/-- The body of the `MONGO_WRITE_CONFLICT_RETRY_LOOP` of `multiUpdate`: `AutoGetOrCreateDb`,
the primary check, and `userCreateNS` unless someone else created the collection. `false` is
the `return` after a failed check. -/
def createCollectionBody : Op U Bool := do
  let _ ← call env
  if !(← check env .notMaster) then pure false
  else if ← lookup env then pure true
  else do
    modify fun s => { s with created := s.created + 1 }
    let _ ← call env
    let _ ← call env
    pure true

/-- `MONGO_WRITE_CONFLICT_RETRY_LOOP` around `createCollectionBody`: retried on every write
conflict. -/
def createCollectionRetry : Nat → Op U Bool
  | 0 => throw .retriesOutOfFuel
  | fuel + 1 =>
    tryCatch (createCollectionBody env) fun
      | .exn .writeConflict => createCollectionRetry fuel
      | f => throw f

/-- A missing database or collection: defeat after a creation, nothing to do without an
upsert, and otherwise a pass that creates the collection. -/
def missing (isUpsert createCollection : Bool) : Op U Next :=
  if createCollection then do
    setNothingDone
    pure .done
  else if !isUpsert then do
    setNothingDone
    pure .done
  else pure (.restart true)

def executeUpdate (plan : Nat → UpdateResult U) : Op U Unit := do
  let _ ← call env
  let res ← runPlan env plan
  let didInsert := res.upserted.isSome
  modify fun s => { s with stats := ⟨if didInsert then 1 else res.numMatched,
    if didInsert then 0 else res.numDocsModified, res.upserted⟩ }

def updateHandler (isMulti : Bool) : Fault → Op U Next
  | .exn .writeConflict => do
    modify fun s => { s with writeConflicts := s.writeConflicts + 1 }
    if isMulti then throw (.exn .writeConflict) else pure (.restart false)
  | .exn .staleConfig => do
    setError .staleShardVersion
    pure .done
  | .exn (.dbException code interruption) =>
    if interruption then throw (.exn (.dbException code interruption))
    else do
      setError code
      pure .done
  | f => throw f

def lockedPass (isMulti isUpsert : Bool) (plan : Nat → UpdateResult U)
    (createCollection : Bool) : Op U Next := do
  let _ ← call env
  if !(← check env .notMaster) then pure .done
  else if !(← check env .staleShardVersion) then pure .done
  else if !(← lookup env) then missing isUpsert createCollection
  else if !(← lookup env) then missing isUpsert createCollection
  else tryCatch (do executeUpdate env plan; pure .done) (updateHandler isMulti)

/-- One pass of the `fakeLoop` of `multiUpdate`. -/
def updatePass (isMulti isUpsert : Bool) (plan : Nat → UpdateResult U) (retryFuel : Nat)
    (createCollection : Bool) : Op U Next := do
  match ← call env with
  | some code => do
    setError code
    pure .done
  | none =>
    if createCollection then do
      if ← createCollectionRetry env retryFuel then
        lockedPass env isMulti isUpsert plan createCollection
      else pure .done
    else lockedPass env isMulti isUpsert plan createCollection

/-- The `fakeLoop`, allowed `fuel` passes. -/
def updatePasses (isMulti isUpsert : Bool) (plan : Nat → UpdateResult U) (retryFuel : Nat) :
    Nat → Bool → Op U Unit
  | 0, _ => throw .passesOutOfFuel
  | fuel + 1, createCollection => do
    match ← updatePass env isMulti isUpsert plan retryFuel createCollection with
    | .done => pure ()
    | .restart c => updatePasses isMulti isUpsert plan retryFuel fuel c

/-- `multiUpdate`, with `fuel` passes and `fuel` retries of each collection creation. -/
def multiUpdate (isMulti isUpsert : Bool) (plan : Nat → UpdateResult U) (fuel : Nat) :
    Op U Unit :=
  updatePasses env isMulti isUpsert plan fuel fuel false

/-- One pass of the `while (1)` loop of `multiRemove`, inside its `try`. -/
def removeAttempt (deleted : Nat → Nat) : Op U Unit := do
  match ← call env with
  | some code => setError code
  | none =>
    let _ ← call env
    if !(← lookup env) then pure ()
    else do
      let _ ← call env
      if !(← check env .notMaster) then pure ()
      else if !(← check env .staleShardVersion) then pure ()
      else do
        let hasCollection ← lookup env
        let _ ← call env
        let n ← runPlan env deleted
        modify fun s => { s with stats := { s.stats with n := n } }
        if hasCollection then pure () else throw .nullCollection

/-- The `while (1)` loop of `multiRemove`, allowed `fuel` passes. -/
def removeAttempts (deleted : Nat → Nat) : Nat → Op U Unit
  | 0 => throw .passesOutOfFuel
  | fuel + 1 =>
    tryCatch (removeAttempt env deleted) fun
      | .exn .writeConflict => do
        modify fun s => { s with writeConflicts := s.writeConflicts + 1 }
        removeAttempts deleted fuel
      | .exn .staleConfig => setError .staleShardVersion
      | .exn (.dbException code interruption) =>
        if interruption then throw (.exn (.dbException code interruption)) else setError code
      | f => throw f

/-- `multiRemove`, with `fuel` passes. -/
def multiRemove (deleted : Nat → Nat) (fuel : Nat) : Op U Unit :=
  removeAttempts env deleted fuel

end Model

section Frame
variable {U : Type} (env : Nat → Reply)

/-- `m` leaves `f` of the state as it found it, whether it returns or throws, and never throws
the loops' own `passesOutOfFuel`. -/
def Keeps {α β : Type} (f : OpState U → β) (m : Op U α) : Prop :=
  ∀ b, Triple (fun s => f s = b) m (fun _ s => f s = b)
    (fun e s => e ≠ .passesOutOfFuel ∧ f s = b)

theorem Keeps.bind {α β γ : Type} {f : OpState U → γ} {m : Op U α} {k : α → Op U β}
    (hm : Keeps f m) (hk : ∀ a, Keeps f (k a)) : Keeps f (m >>= k) :=
  fun b => Triple.bind (hm b) fun a => hk a b

theorem Keeps.pure {α γ : Type} {f : OpState U → γ} (a : α) : Keeps f (Pure.pure a : Op U α) :=
  fun _ => Triple.pure fun _ h => h

theorem Keeps.throw {α γ : Type} {f : OpState U → γ} {e : Fault} (he : e ≠ .passesOutOfFuel) :
    Keeps f (MonadExcept.throw e : Op U α) :=
  fun _ => Triple.throw fun _ h => ⟨he, h⟩

theorem Keeps.ite {α γ : Type} {f : OpState U → γ} {c : Prop} [Decidable c] {t e : Op U α}
    (ht : Keeps f t) (he : Keeps f e) : Keeps f (if c then t else e) :=
  fun b => Triple.ite (fun _ => ht b) (fun _ => he b)

theorem Keeps.tryCatch {α γ : Type} {f : OpState U → γ} {m : Op U α} {h : Fault → Op U α}
    (hm : Keeps f m) (hh : ∀ e, e ≠ .passesOutOfFuel → Keeps f (h e)) :
    Keeps f (MonadExcept.tryCatch m h) :=
  fun b => Triple.tryCatch (hm b) fun e => Triple.pre fun _ ⟨he, hs⟩ =>
    (hh e he b).weaken fun _ h => h ▸ hs

def counts (s : OpState U) : Nat × Nat := (s.created, s.writeConflicts)

theorem call_keeps : Keeps counts (call (U := U) env) := by
  intro b s hs
  unfold call
  cases env s.tick
  exacts [hs, hs, ⟨nofun, hs⟩]

theorem lookup_keeps : Keeps counts (lookup (U := U) env) :=
  (call_keeps env).bind fun _ => .pure _

theorem runPlan_keeps {α : Type} (result : Nat → α) : Keeps counts (runPlan (U := U) env result) := by
  intro b s hs
  unfold runPlan
  cases env s.tick
  exacts [hs, hs, ⟨nofun, hs⟩]

theorem setError_keeps (code : ErrorCode) : Keeps counts (setError (U := U) code) :=
  fun _ _ hs => hs

theorem check_keeps (code : ErrorCode) : Keeps counts (check (U := U) env code) :=
  (call_keeps env).bind fun r => by
    cases r
    · exact .pure _
    · exact (setError_keeps code).bind fun _ => .pure _

theorem setNothingDone_keeps : Keeps counts (setNothingDone (U := U)) := fun _ _ hs => hs

theorem executeUpdate_keeps (plan : Nat → UpdateResult U) :
    Keeps counts (executeUpdate env plan) :=
  (call_keeps env).bind fun _ => (runPlan_keeps env plan).bind fun _ => fun _ _ hs => hs

end Frame

section Passes
variable {U : Type} (env : Nat → Reply) (isMulti isUpsert : Bool) (plan : Nat → UpdateResult U)

/-- What a pass started with `createCollection = c`, `k` creations and `w` write conflicts
counted keeps on every way out: no counted conflict is lost, and nothing is created unless
`c` asked for it. -/
def PassKept (c : Bool) (k w : Nat) (s : OpState U) : Prop :=
  w ≤ s.writeConflicts ∧ (c = false → s.created = k)

def PassThrow (c : Bool) (k w : Nat) (e : Fault) (s : OpState U) : Prop :=
  e ≠ .passesOutOfFuel ∧ PassKept c k w s

/-- How such a pass may end: `done`, a restart to create the collection (only for an upsert,
and only from a pass that did not create it), or a restart after a write conflict it counted
(only for an update that is not multi). -/
def PassOutcome (c : Bool) (k w : Nat) : Next → OpState U → Prop
  | .done, s => PassKept c k w s
  | .restart true, s => c = false ∧ isUpsert = true ∧ PassKept c k w s
  | .restart false, s => isMulti = false ∧ w < s.writeConflicts ∧ (c = false → s.created = k)

theorem Keeps.pass {α : Type} {m : Op U α} (h : Keeps counts m) (c : Bool) (k w : Nat) :
    Triple (fun s => counts s = (k, w)) m (fun _ s => counts s = (k, w))
      (PassThrow c k w) :=
  (h (k, w)).conseq (fun _ hs => hs) (fun _ _ hs => hs) fun _ s ⟨he, hs⟩ => by
    simp only [counts, Prod.mk.injEq] at hs
    exact ⟨he, hs.2.ge, fun _ => hs.1⟩

theorem done_spec {E : Fault → OpState U → Prop} (c : Bool) (k w : Nat) :
    Triple (fun s : OpState U => counts s = (k, w)) (Pure.pure Next.done : Op U Next)
      (PassOutcome isMulti isUpsert c k w) E := by
  intro s hs
  simp only [counts, Prod.mk.injEq] at hs
  exact ⟨hs.2.ge, fun _ => hs.1⟩

theorem missing_spec (c : Bool) (k w : Nat) :
    Triple (fun s : OpState U => counts s = (k, w)) (missing isUpsert c)
      (PassOutcome isMulti isUpsert c k w) (PassThrow c k w) := by
  unfold missing
  cases c
  · cases isUpsert
    · exact Triple.bind (setNothingDone_keeps.pass false k w) fun _ =>
        done_spec isMulti false false k w
    · intro s hs
      simp only [counts, Prod.mk.injEq] at hs
      exact ⟨rfl, rfl, hs.2.ge, fun _ => hs.1⟩
  · exact Triple.bind (setNothingDone_keeps.pass true k w) fun _ =>
      done_spec isMulti isUpsert true k w

theorem updateHandler_spec (c : Bool) (k w : Nat) (f : Fault) :
    Triple (fun s : OpState U => f ≠ .passesOutOfFuel ∧ counts s = (k, w))
      (updateHandler isMulti f) (PassOutcome isMulti isUpsert c k w) (PassThrow c k w) := by
  intro s ⟨hf, hs⟩
  simp only [counts, Prod.mk.injEq] at hs
  obtain ⟨rfl, rfl⟩ := hs
  match f with
  | .exn .writeConflict =>
    cases isMulti
    · exact ⟨rfl, Nat.lt_succ_self _, fun _ => rfl⟩
    · exact ⟨nofun, Nat.le_succ _, fun _ => rfl⟩
  | .exn .staleConfig => exact ⟨le_rfl, fun _ => rfl⟩
  | .exn (.dbException code interruption) =>
    cases interruption
    · exact ⟨le_rfl, fun _ => rfl⟩
    · exact ⟨nofun, le_rfl, fun _ => rfl⟩
  | .exn .stdException => exact ⟨nofun, le_rfl, fun _ => rfl⟩
  | .nullCollection => exact ⟨nofun, le_rfl, fun _ => rfl⟩
  | .passesOutOfFuel => exact absurd rfl hf
  | .retriesOutOfFuel => exact ⟨nofun, le_rfl, fun _ => rfl⟩

theorem lockedPass_spec (c : Bool) (k w : Nat) :
    Triple (fun s : OpState U => counts s = (k, w)) (lockedPass env isMulti isUpsert plan c)
      (PassOutcome isMulti isUpsert c k w) (PassThrow c k w) := by
  unfold lockedPass
  refine Triple.bind ((call_keeps env).pass c k w) fun _ => ?_
  refine Triple.bind ((check_keeps env _).pass c k w) fun _ =>
    Triple.ite (fun _ => done_spec isMulti isUpsert c k w) fun _ => ?_
  refine Triple.bind ((check_keeps env _).pass c k w) fun _ =>
    Triple.ite (fun _ => done_spec isMulti isUpsert c k w) fun _ => ?_
  refine Triple.bind ((lookup_keeps env).pass c k w) fun _ =>
    Triple.ite (fun _ => missing_spec isMulti isUpsert c k w) fun _ => ?_
  refine Triple.bind ((lookup_keeps env).pass c k w) fun _ =>
    Triple.ite (fun _ => missing_spec isMulti isUpsert c k w) fun _ => ?_
  exact Triple.tryCatch (Triple.bind (executeUpdate_keeps env plan (k, w)) fun _ =>
    done_spec isMulti isUpsert c k w) (updateHandler_spec isMulti isUpsert c k w)

theorem Keeps.writeConflicts {α : Type} {m : Op U α} (h : Keeps counts m) :
    Keeps OpState.writeConflicts m := fun _ =>
  Triple.pre fun s₀ hs₀ => (h (counts s₀)).conseq (fun _ hs => hs ▸ rfl)
    (fun _ _ hs => hs₀ ▸ congrArg Prod.snd hs)
    (fun _ _ ⟨he, hs⟩ => ⟨he, hs₀ ▸ congrArg Prod.snd hs⟩)

theorem createCollectionBody_keeps :
    Keeps OpState.writeConflicts (createCollectionBody (U := U) env) := by
  unfold createCollectionBody
  refine (call_keeps env).writeConflicts.bind fun _ => ?_
  refine (check_keeps env _).writeConflicts.bind fun _ => .ite (.pure _) ?_
  refine (lookup_keeps env).writeConflicts.bind fun _ => .ite (.pure _) ?_
  refine Keeps.bind (fun _ _ hs => hs) fun _ => ?_
  exact (call_keeps env).writeConflicts.bind fun _ =>
    (call_keeps env).writeConflicts.bind fun _ => .pure _

theorem createCollectionRetry_keeps :
    ∀ fuel, Keeps OpState.writeConflicts (createCollectionRetry (U := U) env fuel)
  | 0 => .throw nofun
  | fuel + 1 => (createCollectionBody_keeps env).tryCatch fun e he => match e, he with
    | .exn .writeConflict, _ => createCollectionRetry_keeps fuel
    | .exn .staleConfig, he | .exn (.dbException _ _), he | .exn .stdException, he
    | .nullCollection, he | .passesOutOfFuel, he | .retriesOutOfFuel, he => .throw he

theorem updatePass_spec (retryFuel : Nat) (c : Bool) (k w : Nat) :
    Triple (fun s : OpState U => counts s = (k, w))
      (updatePass env isMulti isUpsert plan retryFuel c)
      (PassOutcome isMulti isUpsert c k w) (PassThrow c k w) := by
  unfold updatePass
  refine Triple.bind ((call_keeps env).pass c k w) fun r => ?_
  cases r with
  | some code =>
    exact Triple.bind ((setError_keeps code).pass c k w) fun _ => done_spec isMulti isUpsert c k w
  | none =>
    cases c
    · exact lockedPass_spec env isMulti isUpsert plan false k w
    · refine Triple.bind (Q := fun _ s => s.writeConflicts = w)
        (((createCollectionRetry_keeps env retryFuel w).weaken fun _ h => congrArg Prod.snd h).conseq
          (fun _ h => h) (fun _ _ h => h) fun _ _ h => ⟨h.1, h.2.ge, nofun⟩) fun b => ?_
      refine Triple.ite (fun _ => Triple.pre fun s₀ hs₀ => ?_) fun _ => ?_
      · refine ((lockedPass_spec env isMulti isUpsert plan true s₀.created w).weaken
          fun s (h : s = s₀) => by subst h; simp [counts, hs₀]).conseq (fun _ h => h)
          (fun r s h => ?_) (fun _ _ h => ⟨h.1, h.2.1, nofun⟩)
        cases r with
        | done => exact ⟨h.1, nofun⟩
        | restart c' => cases c' <;> simp_all [PassOutcome, PassKept]
      · exact Triple.pure fun _ h => ⟨h.ge, nofun⟩

/-- The loop from a pass started with `createCollection = c`, with `n` passes left: it creates
nothing for an update that is not an upsert, and it runs out of passes only after counting
write conflicts, at least `(n - 1) / 2` of them, and never for a multi-update with two passes
left. -/
theorem updatePasses_spec (retryFuel : Nat) :
    ∀ (n : Nat) (c : Bool) (k w : Nat),
      Triple (fun s : OpState U => counts s = (k, w))
        (updatePasses env isMulti isUpsert plan retryFuel n c)
        (fun _ s => c = false → isUpsert = false → s.created = k)
        (fun e s => w ≤ s.writeConflicts ∧ (c = false → isUpsert = false → s.created = k) ∧
          (e = .passesOutOfFuel →
            n + (if c then 1 else 0) ≤ 2 * (if isMulti then 0 else s.writeConflicts - w) + 1))
  | 0, c, k, w => Triple.throw fun s hs => by
    simp only [counts, Prod.mk.injEq] at hs
    refine ⟨hs.2.ge, fun _ _ => hs.1, fun _ => ?_⟩
    cases c <;> simp
  | n + 1, c, k, w => by
    refine Triple.bind ((updatePass_spec env isMulti isUpsert plan retryFuel c k w).conseq
      (fun _ h => h) (fun _ _ h => h) fun _ _ ⟨he, hw, hk⟩ =>
        ⟨hw, fun hc _ => hk hc, fun h => absurd h he⟩) fun r => ?_
    match r with
    | .done => exact Triple.pure fun _ h hc _ => h.2 hc
    | .restart true =>
      refine Triple.pre fun s₀ ⟨hc, hu, hw, _⟩ => ?_
      refine ((updatePasses_spec retryFuel n true s₀.created s₀.writeConflicts).weaken
        fun s (h : s = s₀) => by subst h; rfl).conseq (fun _ h => h)
        (fun _ _ _ _ hu' => absurd hu (by simp [hu'])) fun e s ⟨hw', _, hb⟩ => ⟨hw.trans hw',
          fun _ hu' => absurd hu (by simp [hu']), fun he => ?_⟩
      have := hb he
      subst hc
      cases isMulti <;> simp only [if_true, if_false, Bool.false_eq_true] at this ⊢ <;> omega
    | .restart false =>
      refine Triple.pre fun s₀ ⟨hm, hw, hk⟩ => ?_
      refine ((updatePasses_spec retryFuel n false s₀.created s₀.writeConflicts).weaken
        fun s (h : s = s₀) => by subst h; rfl).conseq (fun _ h => h)
        (fun _ _ h hc hu => (h rfl hu).trans (hk hc)) fun e s ⟨hw', hkc, hb⟩ =>
          ⟨hw.le.trans hw', fun hc hu => (hkc rfl hu).trans (hk hc), fun he => ?_⟩
      have := hb he
      subst hm
      cases c <;> simp only [if_true, if_false, Bool.false_eq_true] at this ⊢ <;> omega

end Passes

/-- **An update that is not an upsert creates no collection.** On every run of `multiUpdate`,
whatever the environment answers and however the run ends, `userCreateNS` is called only for
an upsert. -/
theorem multiUpdate_creates_only_upserts {U : Type} (env : Nat → Reply) (isMulti : Bool)
    (plan : Nat → UpdateResult U) (fuel k : Nat) :
    Triple (fun s : OpState U => s.created = k) (multiUpdate env isMulti false plan fuel)
      (fun _ s => s.created = k) (fun _ s => s.created = k) :=
  Triple.pre fun s₀ hs₀ => ((updatePasses_spec env isMulti false plan fuel fuel false k
    s₀.writeConflicts).weaken fun s (h : s = s₀) => by subst h; simp [counts, hs₀]).conseq
    (fun _ h => h) (fun _ _ h => h rfl rfl) fun _ _ h => h.2.1 rfl rfl

/-- **The update loop spins only on write conflicts.** A run of `multiUpdate` that uses up its
`fuel` passes has counted at least `(fuel - 1) / 2` write conflicts in its handler, and a
multi-update, which rethrows a write conflict, never uses up two passes. -/
theorem multiUpdate_passes_bound {U : Type} (env : Nat → Reply) (isMulti isUpsert : Bool)
    (plan : Nat → UpdateResult U) (fuel w : Nat) :
    Triple (fun s : OpState U => s.writeConflicts = w)
      (multiUpdate env isMulti isUpsert plan fuel) (fun _ _ => True)
      (fun e s => e = .passesOutOfFuel →
        fuel ≤ 2 * (if isMulti then 0 else s.writeConflicts - w) + 1) :=
  Triple.pre fun s₀ hs₀ => ((updatePasses_spec env isMulti isUpsert plan fuel fuel false
    s₀.created w).weaken fun s (h : s = s₀) => by subst h; simp [counts, hs₀]).conseq
    (fun _ h => h) (fun _ _ _ => True.intro) fun _ _ h he => by simpa using h.2.2 he

section Remove
variable {U : Type} (env : Nat → Reply) (deleted : Nat → Nat)

theorem removeAttempt_keeps : Keeps counts (removeAttempt (U := U) env deleted) := by
  unfold removeAttempt
  refine (call_keeps env).bind fun r => ?_
  cases r with
  | some code => exact setError_keeps code
  | none =>
    refine (call_keeps env).bind fun _ => (lookup_keeps env).bind fun _ => .ite (.pure _) ?_
    refine (call_keeps env).bind fun _ => (check_keeps env _).bind fun _ => .ite (.pure _) ?_
    refine (check_keeps env _).bind fun _ => .ite (.pure _) ?_
    exact (lookup_keeps env).bind fun _ => (call_keeps env).bind fun _ =>
      (runPlan_keeps env deleted).bind fun _ => Keeps.bind (fun _ _ hs => hs) fun _ =>
        .ite (.pure _) (.throw nofun)

/-- The delete loop with `fuel` passes left runs out of them only after counting `fuel` write
conflicts. -/
theorem removeAttempts_spec :
    ∀ fuel w, Triple (fun s : OpState U => s.writeConflicts = w)
      (removeAttempts env deleted fuel) (fun _ s => w ≤ s.writeConflicts)
      (fun e s => w ≤ s.writeConflicts ∧ (e = .passesOutOfFuel → fuel ≤ s.writeConflicts - w))
  | 0, w => Triple.throw fun _ hs => ⟨hs.ge, fun _ => Nat.zero_le _⟩
  | fuel + 1, w => by
    refine Triple.tryCatch ((removeAttempt_keeps env deleted).writeConflicts w |>.conseq
      (fun _ h => h) (fun _ _ h => h.ge) fun _ _ h => h) fun e => ?_
    refine Triple.pre fun s₀ ⟨he, hs₀⟩ => ?_
    match e with
    | .exn .writeConflict =>
      refine Triple.bind (Q := fun _ s => s.writeConflicts = w + 1)
        (fun s h => by subst h; exact congrArg (· + 1) hs₀) fun _ => ?_
      exact (removeAttempts_spec fuel (w + 1)).conseq (fun _ h => h) (fun _ _ h => by omega)
        fun _ _ ⟨hw, hb⟩ => ⟨by omega, fun h => by have := hb h; omega⟩
    | .exn .staleConfig => exact fun s h => by subst h; exact hs₀.ge
    | .exn (.dbException code interruption) =>
      cases interruption
      · exact fun s h => by subst h; exact hs₀.ge
      · exact fun s h => by subst h; exact ⟨hs₀.ge, nofun⟩
    | .exn .stdException | .nullCollection | .retriesOutOfFuel =>
      exact fun s h => by subst h; exact ⟨hs₀.ge, nofun⟩
    | .passesOutOfFuel => exact absurd rfl he

end Remove

/-- **The delete loop spins only on write conflicts.** A run of `multiRemove` that uses up its
`fuel` passes has counted `fuel` write conflicts in its handler, one per pass. -/
theorem multiRemove_passes_bound {U : Type} (env : Nat → Reply) (deleted : Nat → Nat)
    (fuel w : Nat) :
    Triple (fun s : OpState U => s.writeConflicts = w) (multiRemove env deleted fuel)
      (fun _ _ => True) (fun e s => e = .passesOutOfFuel → fuel ≤ s.writeConflicts - w) :=
  (removeAttempts_spec env deleted fuel w).conseq (fun _ h => h) (fun _ _ _ => True.intro)
    fun _ _ h => h.2

section Trace
variable {U : Type} (env : Nat → Reply) {E : Fault → OpState U → Prop} {t : Nat}

/-- A step of a walk from the state `s₀` at tick `t`: the step's spec, then the rest of the
walk from every state the step can return. -/
theorem bind_at {α β : Type} {m : Op U α} {f : α → Op U β} {Q : α → OpState U → Prop}
    {R : β → OpState U → Prop} {s₀ : OpState U} (hs : s₀.tick = t)
    (hm : Triple (fun s => s.tick = t) m Q E) (hf : ∀ a s, Q a s → Triple (· = s) (f a) R E) :
    Triple (· = s₀) (m >>= f) R E :=
  Triple.bind (hm.weaken fun _ h => h ▸ hs) fun a => Triple.pre (hf a)

theorem call_spec (hE : ∀ x s, env t = .raise x → E (.exn x) s) :
    Triple (fun s : OpState U => s.tick = t) (call env)
      (fun r s => (r = none ↔ env t = .ok) ∧ (∀ x, env t ≠ .raise x) ∧ s.tick = t + 1) E := by
  rintro s rfl
  unfold call
  cases h : env s.tick with
  | ok => exact ⟨iff_of_true rfl rfl, fun _ => nofun, rfl⟩
  | fail code => exact ⟨iff_of_false nofun nofun, fun _ => nofun, rfl⟩
  | raise x => exact hE x _ h

theorem lookup_spec (hE : ∀ x s, env t = .raise x → E (.exn x) s) :
    Triple (fun s : OpState U => s.tick = t) (lookup env)
      (fun b s => (b = true ↔ env t = .ok) ∧ (∀ x, env t ≠ .raise x) ∧ s.tick = t + 1) E :=
  Triple.bind (call_spec env hE) fun _ =>
    Triple.pure fun _ ⟨h, hr, hs⟩ => ⟨by simpa [Option.isNone_iff_eq_none] using h, hr, hs⟩

theorem check_spec (code : ErrorCode) (hE : ∀ x s, env t = .raise x → E (.exn x) s) :
    Triple (fun s : OpState U => s.tick = t) (check env code)
      (fun b s => (b = true ↔ env t = .ok) ∧ (∀ x, env t ≠ .raise x) ∧ s.tick = t + 1) E := by
  rintro s rfl
  simp only [check, call, bind, EStateM.bind, pure, EStateM.pure, setError, modify, modifyGet,
    MonadStateOf.modifyGet, EStateM.modifyGet]
  cases h : env s.tick with
  | ok => exact ⟨iff_of_true rfl rfl, fun _ => nofun, rfl⟩
  | fail c => exact ⟨iff_of_false nofun nofun, fun _ => nofun, rfl⟩
  | raise x => exact hE x _ h

theorem runPlan_spec {α : Type} (result : Nat → α) (hE : ∀ x s, env t = .raise x → E (.exn x) s) :
    Triple (fun s : OpState U => s.tick = t) (runPlan env result)
      (fun _ s => (∀ x, env t ≠ .raise x) ∧ s.tick = t + 1) E := by
  rintro s rfl
  unfold runPlan
  cases h : env s.tick with
  | ok => exact ⟨fun _ => nofun, rfl⟩
  | fail c => exact ⟨fun _ => nofun, rfl⟩
  | raise x => exact hE x _ h

end Trace

section NullCollection
variable {U : Type} (env : Nat → Reply) (deleted : Nat → Nat)

/-- The pass of `multiRemove` from tick `t` reaches `collection->infoCache()` with a null
`collection`: none of its nine calls throws, the request parses, the database is found, both
checks pass, and the collection lookup answers null. -/
structure ReachesNullCollection (t : Nat) : Prop where
  answers : ∀ k < 9, ∀ x, env (t + k) ≠ .raise x
  parsed : env t = .ok
  dbFound : env (t + 2) = .ok
  isMaster : env (t + 4) = .ok
  shardVersionOk : env (t + 5) = .ok
  collectionNull : env (t + 6) ≠ .ok

/-- **One pass of `multiRemove`, by what the environment answers.** A pass that returns did not
reach the dereference with a null collection; a pass that throws throws the null-collection
fault exactly when it did. -/
theorem removeAttempt_spec (t : Nat) :
    Triple (fun s : OpState U => s.tick = t) (removeAttempt env deleted)
      (fun _ _ => ¬ReachesNullCollection env t)
      (fun e _ => e = .nullCollection ↔ ReachesNullCollection env t) := by
  -- a throw of the environment is not the null-collection fault, and rules the path out
  have hE : ∀ k < 9, ∀ x (s : OpState U), env (t + k) = .raise x →
      (Fault.exn x = .nullCollection ↔ ReachesNullCollection env t) :=
    fun k hk x _ hr => ⟨nofun, fun h => (h.answers k hk x hr).elim⟩
  refine Triple.pre fun _ hs => ?_
  unfold removeAttempt
  refine bind_at hs (call_spec env (hE 0 (by decide))) fun r _ ⟨h0, n0, hs⟩ => ?_
  cases r with
  | some c => exact Triple.modify fun _ _ hR => nomatch h0.mpr hR.parsed
  | none =>
  refine bind_at hs (call_spec env (hE 1 (by decide))) fun _ _ ⟨_, n1, hs⟩ => ?_
  refine bind_at hs (lookup_spec env (hE 2 (by decide))) fun db _ ⟨h2, n2, hs⟩ => Triple.ite
    (fun hdb => Triple.pure fun _ _ hR => by simp [h2.mpr hR.dbFound] at hdb) fun hdb => ?_
  refine bind_at hs (call_spec env (hE 3 (by decide))) fun _ _ ⟨_, n3, hs⟩ => ?_
  refine bind_at hs (check_spec env .notMaster (hE 4 (by decide))) fun master _ ⟨h4, n4, hs⟩ =>
    Triple.ite (fun hm => Triple.pure fun _ _ hR => by simp [h4.mpr hR.isMaster] at hm)
      fun hm => ?_
  refine bind_at hs (check_spec env .staleShardVersion (hE 5 (by decide)))
    fun version _ ⟨h5, n5, hs⟩ => Triple.ite
      (fun hv => Triple.pure fun _ _ hR => by simp [h5.mpr hR.shardVersionOk] at hv) fun hv => ?_
  refine bind_at hs (lookup_spec env (hE 6 (by decide))) fun coll _ ⟨h6, n6, hs⟩ => ?_
  refine bind_at hs (call_spec env (hE 7 (by decide))) fun _ _ ⟨_, n7, hs⟩ => ?_
  refine bind_at hs (runPlan_spec env deleted (hE 8 (by decide))) fun _ _ ⟨n8, _⟩ => ?_
  refine Triple.bind (show Triple _ _ (fun _ _ => True) _ from Triple.modify fun _ _ => trivial)
    fun _ => ?_
  cases coll with
  | true => exact Triple.pure fun _ _ hR => hR.collectionNull (h6.mp rfl)
  | false =>
    -- `collection->infoCache()` on the null collection
    refine Triple.throw fun _ _ => iff_of_true rfl ⟨fun k hk => ?_, h0.mp rfl,
      h2.mp (by simpa using hdb), h4.mp (by simpa using hm), h5.mp (by simpa using hv),
      fun h => nomatch h6.mpr h⟩
    match k, hk with
    | 0, _ => exact n0 | 1, _ => exact n1 | 2, _ => exact n2 | 3, _ => exact n3
    | 4, _ => exact n4 | 5, _ => exact n5 | 6, _ => exact n6 | 7, _ => exact n7
    | 8, _ => exact n8

end NullCollection

/-- **`multiRemove` dereferences a null collection.** From any state, the pass of `multiRemove`
that starts there throws the null-collection fault exactly when none of its calls throws, the
request parses, the database is found, both checks pass and the collection lookup answers
null: nothing tests `collection` before `collection->infoCache()`. The loop then rethrows the
fault, so the whole call ends in it. -/
theorem multiRemove_null_collection {U : Type} (env : Nat → Reply) (deleted : Nat → Nat)
    (fuel : Nat) (s : OpState U) :
    ((∃ s', removeAttempt env deleted s = .error .nullCollection s') ↔
      ReachesNullCollection env s.tick) ∧
    (ReachesNullCollection env s.tick →
      ∃ s', multiRemove env deleted (fuel + 1) s = .error .nullCollection s') := by
  have hiff : (∃ s', removeAttempt env deleted s = .error .nullCollection s') ↔
      ReachesNullCollection env s.tick := by
    have h := removeAttempt_spec env deleted s.tick s rfl
    split at h
    · rename_i hok
      exact ⟨fun ⟨_, he⟩ => (nomatch hok.symm.trans he), fun hR => absurd hR h⟩
    · rename_i e s' herr
      exact ⟨fun ⟨_, he⟩ => h.mp (by rw [herr] at he; cases he; rfl),
        fun hR => ⟨s', by rw [herr, h.mpr hR]⟩⟩
  refine ⟨hiff, fun hR => ?_⟩
  obtain ⟨s', hs'⟩ := hiff.mpr hR
  -- the loop's last handler rethrows the fault
  refine ⟨s', ?_⟩
  simp only [multiRemove, removeAttempts]
  show EStateM.tryCatch _ _ s = _
  simp only [EStateM.tryCatch, hs']
  rfl

end Normous.WriteOps.UpdateRemove
