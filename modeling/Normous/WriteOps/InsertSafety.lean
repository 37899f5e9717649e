import Normous.WriteOps.InsertLoop

/-!
# The lock invariant of the insert path

`ExecInsertsState` holds the database lock, the collection lock and the collection pointer;
`LocksAgree` says the three are held, or set, together. It holds when the state is built, and
every normal return of `lockAndCheck` and `insertOne` keeps it. The proof goes through
`_lockAndCheckImpl` once, step by step; an exception raised part way leaves a mixed state,
which each of `insertOne`'s handlers repairs with `unlock` or by recording an error that the
"errors release the write lock" policy then acts on. So every `invariant` of
`_lockAndCheckImpl` holds where it is checked, and `singleInsert` never sees a null collection:
the only faults of the insert path are the environment's exceptions and the model's fuel.
-/

namespace Normous.WriteOps.InsertLoop

open Normous.Exec Normous.WriteOps.Batch

/-- The lock invariant of `ExecInsertsState`: the database lock, the collection lock and the
collection pointer are held, or set, together. -/
structure LocksAgree (s : ExecInsertsState) : Prop where
  coll_db : s.collLock.isSome = s.dbLock.isSome
  collection_coll : s.collection = s.collLock.isSome

theorem locksAgree_init (tick : Nat) : LocksAgree (.init tick) := ⟨rfl, rfl⟩

/-- A fault the environment or the model's fuel causes: never a failed `invariant` or a null
dereference. -/
def Fault.External : Fault → Prop
  | .exn _ => True
  | .outOfFuel => True
  | _ => False

/-- The faults a spec of this file allows, whatever the state they leave. -/
def External (f : Fault) (_ : ExecInsertsState) : Prop := f.External

/-- What `_lockAndCheckImpl` promises when it returns `true`. -/
def Locked (ok : Bool) (s : ExecInsertsState) : Prop :=
  ok = true → LocksAgree s ∧ s.collection = true

/-- Both locks held: the state of `_lockAndCheckImpl` once it has the collection lock. -/
def Held (s : ExecInsertsState) : Prop := s.dbLock.isSome ∧ s.collLock.isSome

theorem Held.locked {s : ExecInsertsState} (h : Held s) (hc : s.collection = true) :
    Locked true s :=
  fun _ => ⟨⟨by rw [h.1, h.2], by rw [hc, h.2]⟩, hc⟩

section Specs

variable (env : Nat → Reply) (isInsertIndexRequest : Bool) {P : ExecInsertsState → Prop}

theorem call_triple (hP : ∀ s, P s → P { s with tick := s.tick + 1 }) :
    Triple P (call env) (fun _ => P) External := by
  intro s hs
  unfold call
  cases env s.tick <;> simp [hP s hs, External, Fault.External]

theorem lookup_triple (hP : ∀ s, P s → P { s with tick := s.tick + 1 }) :
    Triple P (lookup env) (fun _ => P) External :=
  Triple.bind (call_triple env hP) fun _ => Triple.pure fun _ h => h

theorem check_triple {code : ErrorCode} (hP : ∀ s, P s → P { s with tick := s.tick + 1 })
    (hE : ∀ s, P s → P { s with resultError := some code }) :
    Triple P (check env code) (fun _ => P) External := by
  refine Triple.bind (call_triple env hP) fun r => ?_
  cases r with
  | none => exact Triple.pure fun _ hs => hs
  | some c => exact Triple.bind (Triple.modify hE) fun _ => Triple.pure fun _ hs => hs

theorem unlock_agree : Triple P (unlock) (fun _ => LocksAgree) External :=
  Triple.modify fun _ _ => ⟨rfl, rfl⟩

theorem acquireDbLock_triple {mode : LockMode} :
    Triple P (acquireDbLock env mode) (fun _ s => s.dbLock.isSome) External :=
  Triple.bind ((call_triple env (P := fun _ => True) fun _ h => h).weaken fun _ _ => trivial)
    fun _ => Triple.modify fun _ _ => rfl

theorem acquireCollLock_triple {mode : LockMode} {b : Bool} :
    Triple (fun s => s.dbLock.isSome ∧ (b → s.database)) (acquireCollLock env mode)
      (fun _ s => Held s ∧ (b → s.database)) External :=
  Triple.bind (call_triple env fun _ h => h) fun _ =>
    Triple.modify fun _ hs => ⟨⟨hs.1, rfl⟩, hs.2⟩

theorem openDatabase_triple {intentLock : Bool} :
    Triple (fun s => Held s ∧ (intentLock → s.database)) (openDatabase env intentLock)
      (fun _ => Held) External := by
  unfold openDatabase
  refine Triple.bind Triple.get fun s0 => Triple.ite (fun _ => Triple.pure fun _ hs => hs.2.1)
    fun hd => Triple.ite (fun hi => Triple.throw fun s hs => ?_) fun _ => ?_
  · obtain ⟨rfl, -, h⟩ := hs
    exact absurd (h hi) hd
  · exact Triple.weaken (Triple.bind (call_triple env (P := Held) fun _ h => h) fun _ =>
      Triple.modify fun _ hs => hs) fun _ hs => hs.2.1

theorem createCollection_triple :
    Triple Held (createCollection env) Locked External := by
  unfold createCollection
  refine Triple.bind (lookup_triple env fun _ h => h) fun created => ?_
  refine Triple.bind (Triple.modify (Q := fun _ s => Held s ∧ s.collection = created)
    fun _ hs => ⟨hs, rfl⟩) fun _ => Triple.ite (fun hc => ?_) fun _ => ?_
  · exact Triple.bind (call_triple env fun _ h => h) fun _ =>
      Triple.pure fun _ hs => hs.1.locked (hs.2.trans hc)
  · exact Triple.bind (Triple.modify (Q := fun _ _ => True) fun _ _ => trivial) fun _ =>
      Triple.pure fun _ _ h => nomatch h

theorem checkAndOpen_triple {intentLock : Bool} {retry : Exec Bool}
    (hr : Triple LocksAgree retry Locked External) :
    Triple (fun s => Held s ∧ (intentLock → s.database)) (checkAndOpen env intentLock retry)
      Locked External := by
  have stop : ∀ {P : ExecInsertsState → Prop}, Triple P (pure false : Exec Bool) Locked External :=
    Triple.pure fun _ _ h => nomatch h
  unfold checkAndOpen
  refine Triple.bind (check_triple env (fun _ h => h) (fun _ h => h)) fun _ =>
    Triple.ite (fun _ => stop) fun _ => ?_
  refine Triple.bind (check_triple env (fun _ h => h) (fun _ h => h)) fun _ =>
    Triple.ite (fun _ => stop) fun _ => ?_
  refine Triple.bind (check_triple env (fun _ h => h) (fun _ h => h)) fun _ =>
    Triple.ite (fun _ => stop) fun _ => ?_
  refine Triple.bind (openDatabase_triple env) fun _ => ?_
  refine Triple.bind (lookup_triple env fun _ h => h) fun found => ?_
  refine Triple.bind (Triple.modify (Q := fun _ s => Held s ∧ s.collection = found)
    fun _ hs => ⟨hs, rfl⟩) fun _ => ?_
  refine Triple.ite (fun hf => Triple.pure fun _ hs => hs.1.locked (hs.2.trans hf))
    fun _ => Triple.ite (fun _ => Triple.bind unlock_agree fun _ => hr) fun _ => ?_
  exact Triple.weaken (createCollection_triple env) fun _ hs => hs.1

theorem lockAndCheckBody_triple {intentLock : Bool} {retry : Exec Bool}
    (hr : Triple LocksAgree retry Locked External) :
    Triple LocksAgree (lockAndCheckBody env isInsertIndexRequest intentLock retry) Locked
      External := by
  unfold lockAndCheckBody
  refine Triple.bind Triple.get fun s0 => Triple.ite (fun hdb => Triple.pure fun s hs => ?_)
    fun hdb => Triple.ite (fun hc => Triple.throw fun s hs => ?_)
    fun _ => Triple.ite (fun hd => absurd hd hdb) fun _ => ?_
  · obtain ⟨rfl, ha⟩ := hs
    exact fun _ => ⟨ha, by rw [ha.2, ha.1, hdb]⟩
  · obtain ⟨rfl, ha⟩ := hs
    exact absurd (ha.1 ▸ hc) hdb
  refine Triple.bind (acquireDbLock_triple env) fun _ => ?_
  refine Triple.bind (lookup_triple env fun _ h => h) fun found => ?_
  refine Triple.bind (Triple.modify (Q := fun _ s => s.dbLock.isSome ∧ s.database = found)
    fun _ hs => ⟨hs, rfl⟩) fun _ => Triple.ite (fun _ => ?_) fun hf => ?_
  · refine Triple.bind (Triple.modify (Q := fun _ _ => True) fun _ _ => trivial) fun _ => ?_
    refine Triple.bind (acquireDbLock_triple env) fun _ => ?_
    refine Triple.bind ((acquireCollLock_triple env (b := false)).weaken
      fun _ hs => ⟨hs, fun h => nomatch h⟩) fun _ => ?_
    exact Triple.weaken (checkAndOpen_triple env hr) fun _ hs => ⟨hs.1, fun h => nomatch h⟩
  · refine (Triple.bind (acquireCollLock_triple env (b := intentLock && !isInsertIndexRequest))
      fun _ => checkAndOpen_triple env hr).weaken fun s ⟨hdb, hd⟩ => ⟨hdb, fun h => ?_⟩
    simp_all

theorem lockAndCheckImpl_triple {intentLock : Bool} :
    Triple LocksAgree (lockAndCheckImpl env isInsertIndexRequest intentLock) Locked External :=
  lockAndCheckBody_triple env isInsertIndexRequest
    (lockAndCheckBody_triple env isInsertIndexRequest (Triple.pure fun _ _ h => nomatch h))

/-- `lockAndCheck` keeps the invariant, and returns `true` only with the collection set. -/
theorem lockAndCheck_triple :
    Triple LocksAgree (lockAndCheck env isInsertIndexRequest)
      (fun ok s => LocksAgree s ∧ (ok = true → s.collection = true)) External := by
  unfold lockAndCheck
  refine Triple.bind (lockAndCheckImpl_triple env isInsertIndexRequest) fun ok =>
    Triple.ite (fun h => Triple.pure fun _ hs => ⟨(hs h).1, fun _ => (hs h).2⟩) fun _ =>
      Triple.bind unlock_agree fun _ => Triple.pure fun _ hs => ⟨hs, fun h => nomatch h⟩

/-- `singleInsert` is only reached with the collection set. -/
theorem singleInsert_triple :
    Triple (fun s => LocksAgree s ∧ s.collection = true) (singleInsert env)
      (fun _ => LocksAgree) External := by
  unfold singleInsert
  refine Triple.bind Triple.get fun s0 => Triple.ite (fun _ => ?_) fun hc => ?_
  · refine Triple.weaken (P := LocksAgree) ?_ fun _ hs => hs.2.1
    refine Triple.bind (call_triple env fun _ h => ⟨h.1, h.2⟩) fun r => ?_
    cases r with
    | some c => exact Triple.modify fun _ hs => ⟨hs.1, hs.2⟩
    | none =>
      exact Triple.bind (call_triple env fun _ h => ⟨h.1, h.2⟩) fun _ =>
        Triple.pure fun _ hs => hs
  · exact Triple.throw fun _ ⟨h, _, hcoll⟩ => absurd (h ▸ hcoll) hc

theorem insertAttempt_triple :
    Triple LocksAgree (insertAttempt env isInsertIndexRequest) (fun _ => LocksAgree) External := by
  unfold insertAttempt singleCreateIndex
  refine Triple.ite (fun _ => ?_) fun _ => ?_
  · exact Triple.bind (call_triple env fun _ h => ⟨h.1, h.2⟩) fun _ => Triple.pure fun _ h => h
  · exact Triple.bind (lockAndCheck_triple env _) fun _ => Triple.ite
      (fun h => (singleInsert_triple env).weaken fun _ hs => ⟨hs.1, hs.2 h⟩)
      fun _ => Triple.pure fun _ hs => hs.1

/-- After the retry loop the invariant holds, or an error was recorded, on which `insertOne`
releases the locks. -/
theorem insertAttempts_triple (fuel : Nat) :
    Triple LocksAgree (insertAttempts env isInsertIndexRequest fuel)
      (fun _ s => LocksAgree s ∨ s.resultError.isSome) External := by
  induction fuel with
  | zero => exact Triple.throw fun _ _ => trivial
  | succ fuel ih =>
    refine Triple.tryCatch ((insertAttempt_triple env _).conseq (fun _ h => h)
      (fun _ _ h => .inl h) (fun _ _ h => h)) fun f => ?_
    rcases f with (_ | _ | ⟨code, _ | _⟩ | _) | _ | _ | _
    · exact Triple.bind unlock_agree fun _ => ih
    · exact Triple.modify fun _ _ => .inr rfl
    · exact Triple.modify fun _ _ => .inr rfl
    · exact Triple.throw fun _ _ => trivial
    · exact Triple.throw fun _ _ => trivial
    · exact Triple.weaken (Triple.throw fun _ h => h) fun _ h => nomatch h
    · exact Triple.weaken (Triple.throw fun _ h => h) fun _ h => nomatch h
    · exact Triple.throw fun _ _ => trivial

/-- `insertOne` at an index of the normalized inserts keeps the invariant: on the early
return for a failed normalization the locks are untouched, and every other error releases
them. -/
theorem insertOne_triple (fuel : Nat) {ns : List (Except ErrorCode Unit)} {i : Nat}
    (hi : i < ns.length) :
    Triple LocksAgree (insertOne env isInsertIndexRequest fuel ns i) (fun _ => LocksAgree)
      External := by
  unfold insertOne
  rw [List.getElem?_eq_getElem hi]
  cases ns[i] with
  | error code => exact Triple.modify fun _ hs => ⟨hs.1, hs.2⟩
  | ok u =>
    refine Triple.bind (insertAttempts_triple env _ fuel) fun _ =>
      Triple.bind Triple.get fun s0 => Triple.ite (fun _ => unlock_agree) fun he =>
        Triple.pure fun _ ⟨h0, hs⟩ => hs.resolve_right ?_
    rw [← h0]
    simpa using he

theorem insertOne_of_error {fuel : Nat} {ns : List (Except ErrorCode Unit)} {i : Nat}
    {code : ErrorCode} (h : ns[i]? = some (.error code)) :
    insertOne env isInsertIndexRequest fuel ns i = setError code := by
  simp [insertOne, h]

/-- `execOneInsert` keeps the invariant, and reports the error of a failed normalization. -/
theorem execOneInsert_triple (fuel : Nat) {ns : List (Except ErrorCode Unit)} {i : Nat}
    (hi : i < ns.length) :
    Triple LocksAgree (execOneInsert env isInsertIndexRequest fuel ns i)
      (fun r s => LocksAgree s ∧ ∀ code, ns[i]? = some (.error code) → r = some code)
      External := by
  intro s hs
  by_cases he : ∃ code, ns[i]? = some (.error code)
  · obtain ⟨code, hc⟩ := he
    simp only [execOneInsert, insertOne_of_error env _ hc]
    refine ⟨⟨hs.1, hs.2⟩, fun c h => ?_⟩
    rw [hc] at h
    cases h
    rfl
  · refine Triple.bind (Triple.modify (Q := fun _ => LocksAgree) fun _ hs => ⟨hs.1, hs.2⟩)
      (fun _ => Triple.bind (insertOne_triple env _ fuel hi) fun _ =>
        Triple.bind Triple.get fun _ => Triple.pure fun _ h => ⟨h.2, fun c hc => ?_⟩) s hs
    exact absurd ⟨c, hc⟩ he

theorem yieldBetweenInserts_triple :
    Triple LocksAgree (yieldBetweenInserts env) (fun _ => LocksAgree) External := by
  unfold yieldBetweenInserts
  refine Triple.bind ?_ fun b => Triple.ite (fun _ => ?_) fun _ => Triple.pure fun _ h => h
  · intro s hs
    unfold poll
    cases env s.tick <;> exact ⟨hs.1, hs.2⟩
  refine Triple.bind Triple.get fun s0 => Triple.bind (Q := fun _ => LocksAgree)
    (Triple.ite (fun _ => unlock_agree) fun _ => Triple.pure fun _ h => h.2) fun _ => ?_
  exact Triple.bind (call_triple env fun _ h => ⟨h.1, h.2⟩) fun _ => Triple.pure fun _ h => h

end Specs

section Loop

variable (env : Nat → Reply) (request : BatchedCommandRequest) (isInsertIndexRequest : Bool)

/-- The loop's cover condition over `s, …, s + m - 1`: each index it may reach is an index of
the normalized inserts, or the batch is ordered and an earlier index of the loop failed
normalization, which stops it there. -/
def Covered (ns : List (Except ErrorCode Unit)) (s m : Nat) : Prop :=
  ∀ i, s ≤ i → i < s + m → i < ns.length ∨
    (request.ordered = true ∧ ∃ j code, s ≤ j ∧ j < i ∧ ns[j]? = some (.error code))

theorem Covered.head {ns : List (Except ErrorCode Unit)} {s m : Nat}
    (h : Covered request ns s (m + 1)) : s < ns.length :=
  (h s le_rfl (by omega)).resolve_right fun ⟨_, _, _, h1, h2, _⟩ => by omega

theorem Covered.tail {ns : List (Except ErrorCode Unit)} {s m : Nat}
    (h : Covered request ns s (m + 1)) (hs : ∀ code, ns[s]? ≠ some (.error code)) :
    Covered request ns (s + 1) m := by
  intro i h1 h2
  refine (h i (by omega) (by omega)).imp_right fun ⟨ho, j, code, hj1, hj2, hj⟩ => ?_
  rcases Nat.eq_or_lt_of_le hj1 with rfl | hj1
  · exact absurd hj (hs code)
  · exact ⟨ho, j, code, hj1, hj2, hj⟩

theorem Covered.tail_unordered {ns : List (Except ErrorCode Unit)} {s m : Nat}
    (h : Covered request ns s (m + 1)) (ho : request.ordered = false) :
    Covered request ns (s + 1) m := fun i h1 h2 =>
  .inl ((h i (by omega) (by omega)).resolve_right fun h => by simp [ho] at h)

theorem execInsertsLoop_triple (fuel : Nat) (ns : List (Except ErrorCode Unit)) (s m : Nat)
    (hc : Covered request ns s m) :
    Triple LocksAgree (execInsertsLoop env request isInsertIndexRequest fuel ns (List.range' s m))
      (fun _ => LocksAgree) External := by
  induction m generalizing s with
  | zero => exact Triple.pure fun _ h => h
  | succ m ih =>
    rw [List.range'_succ]
    refine Triple.bind (yieldBetweenInserts_triple env) fun _ =>
      Triple.bind (execOneInsert_triple env _ fuel (hc.head request)) fun r => ?_
    cases r with
    | none =>
      intro st ⟨hst, hno⟩
      exact Triple.bind (ih (s + 1) (hc.tail request fun c h => nomatch hno c h))
        (fun _ => Triple.pure fun _ h => h) st hst
    | some code =>
      refine Triple.ite (fun _ => Triple.pure fun _ h => h.1) fun ho => ?_
      refine Triple.weaken (Triple.bind (ih (s + 1) (hc.tail_unordered request ?_))
        fun _ => Triple.pure fun _ h => h) fun _ h => h.1
      simpa using ho

/-- `normalizeInserts` over `s, …, s + m - 1` reaches every position, or stops after an earlier
failure of an ordered batch. -/
theorem normalizeInserts_reaches (fix : Nat → Except ErrorCode Unit) (s m k : Nat) (hk : k < m) :
    k < (normalizeInserts request fix (List.range' s m)).length ∨
      (request.ordered = true ∧ ∃ j code, j < k ∧
        (normalizeInserts request fix (List.range' s m))[j]? = some (.error code)) := by
  induction m generalizing s k with
  | zero => omega
  | succ m ih =>
    rw [List.range'_succ]
    cases k with
    | zero => cases h : fix s <;> cases ho : request.ordered <;> simp [normalizeInserts, h, ho]
    | succ k =>
      have hrest := ih (s + 1) k (by omega)
      cases h : fix s with
      | error code =>
        cases ho : request.ordered
        · simpa [normalizeInserts, h, ho] using hrest
        · exact .inr ⟨rfl, 0, code, by omega, by simp [normalizeInserts, h, ho]⟩
      | ok u =>
        simp only [normalizeInserts, h, List.length_cons]
        rcases hrest with hl | ⟨ho, j, code, hj, hjc⟩
        · exact .inl (by omega)
        · exact .inr ⟨ho, j + 1, code, by omega, by simpa using hjc⟩

theorem normalizeInserts_covered (fix : Nat → Except ErrorCode Unit) (n : Nat) :
    Covered request (normalizeInserts request fix (List.range n)) 0 n := by
  intro i _ hi
  rw [List.range_eq_range'] at *
  exact (normalizeInserts_reaches request fix 0 n i (by omega)).imp_right
    fun ⟨ho, j, code, hj, hjc⟩ => ⟨ho, j, code, Nat.zero_le _, hj, hjc⟩

theorem execInserts_triple (fuel : Nat) (fix : Nat → Except ErrorCode Unit) :
    Triple LocksAgree (execInserts env request isInsertIndexRequest fuel fix)
      (fun _ => LocksAgree) External := by
  unfold execInserts
  rw [List.range_eq_range']
  exact execInsertsLoop_triple env request _ fuel _ 0 _
    (List.range_eq_range' _ ▸ normalizeInserts_covered request fix _)

/-- **`execInserts` never enters `insertOne` past the normalized inserts.** For every batch,
ordered flag, pattern of normalization failures and environment, the
`invariant(currIndex < normalizedInserts.size())` of `insertOne` holds: `normalizeInserts`
stops early only for an ordered batch, at a document whose `insertOne` reports an error, and
the loop returns on that error. -/
theorem execInserts_currIndex_in_range (fuel : Nat) (fix : Nat → Except ErrorCode Unit)
    (tick : Nat) (s : ExecInsertsState) :
    execInserts env request isInsertIndexRequest fuel fix (.init tick) ≠
      .error (.invariantFailure .currIndexInRange) s := by
  intro h
  have hrun := execInserts_triple env request isInsertIndexRequest fuel fix _ (locksAgree_init tick)
  rw [h] at hrun
  exact hrun

/-- **The lock invariant of the insert path.** Entered with the lock invariant, `lockAndCheck`,
and `insertOne` at an index of the normalized inserts, return with it or raise only an exception
of the environment: no `invariant` of `_lockAndCheckImpl` fails and `singleInsert` never sees a
null collection. A whole `execInserts` run from a fresh state faults only so, and ends with the
invariant. -/
theorem insert_path_lock_invariant :
    Triple LocksAgree (lockAndCheck env isInsertIndexRequest) (fun _ => LocksAgree) External ∧
    (∀ fuel ns i, i < ns.length →
      Triple LocksAgree (insertOne env isInsertIndexRequest fuel ns i) (fun _ => LocksAgree)
        External) ∧
    ∀ fuel fix tick,
      Triple (· = .init tick) (execInserts env request isInsertIndexRequest fuel fix)
        (fun _ => LocksAgree) External :=
  ⟨(lockAndCheck_triple env _).conseq (fun _ h => h) (fun _ _ h => h.1) (fun _ _ h => h),
    fun fuel _ _ hi => insertOne_triple env _ fuel hi,
    fun fuel fix tick => (execInserts_triple env request _ fuel fix).weaken
      fun _ h => h ▸ locksAgree_init tick⟩

end Loop

/-- An unordered batch of two inserts whose second document fails normalization, in an
environment that answers every call with success except the two `intervalHasElapsed` polls
(ticks 0 and 10), so no yield happens. The first insert takes both locks and keeps them; the
second `insertOne` returns its normalization error with both locks still held. -/
theorem insertOne_error_keeps_locks :
    (match execInserts (fun t => if t = 0 ∨ t = 10 then .fail (.other 0) else .ok)
        ⟨.insert, 2, false⟩ false 1 (fun i => if i = 1 then .error (.other 2) else .ok ())
        (.init 0) with
      | .ok r s => r == ([0, 1], [⟨.other 2, 1⟩]) && s.resultError == some (.other 2) &&
          s.dbLock == some .IX && s.collLock == some .IX
      | .error _ _ => false) = true := by
  simp only [execInserts, execInsertsLoop, normalizeInserts, List.range, List.range.loop]
  decide

end Normous.WriteOps.InsertLoop
