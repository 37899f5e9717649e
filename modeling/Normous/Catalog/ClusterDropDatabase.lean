import Normous.Exec.Triple
import Mathlib.Data.List.Nodup

/-!
# The `dropDatabase` command of the router

`DropDatabaseCmd::run` reads the database's entry from the config server, drops each of its
sharded collections from the config metadata while collecting the shards their chunks live on,
sends `dropDatabase` to the primary shard and to each collected shard, and last removes the
entry from `config.databases`. Any failure is a `uassertStatusOK` and ends the run part way.

The cluster is the config server's view of the database and the shards that have executed the
drop. Each remote call reads the next answer of an oracle `env`: success, failure with nothing
done, or work done and then a failure (`lost`). `run_spec` walks the command once: however a
run ends, it only removes config entries, contacts only shards the config named, and removes
the entry last. A retry starts from what a failed run left, so an orphaned shard is never
contacted again (`retries_never_contact`); a run that meets no failure drops everything.
-/

namespace Normous.Catalog.ClusterDropDatabase

open Normous.Exec

/-- The `ErrorCodes` the command raises or tests by name. -/
inductive Code where
  | illegalOperation
  | badValue
  | namespaceNotFound
  | namespaceNotSharded
  | other (code : Int)
  deriving DecidableEq, Repr

/-- What `uassert` and `uassertStatusOK` throw. -/
structure DBException where
  code : Code
  reason : String
  deriving DecidableEq, Repr

/-- How the far end answers a remote call: done; failed with nothing done; or done, with a
failed reply. -/
inductive Answer where
  | ok
  | fail (code : Code) (reason : String)
  | lost (code : Code) (reason : String)
  deriving DecidableEq, Repr

abbrev ShardId := Nat

/-- A sharded collection of the database in `config.collections`, with the shards its
chunks live on (`cm->getAllShardIds`). -/
structure ShardedCollection where
  ns : String
  shards : List ShardId
  deriving DecidableEq, Repr

/-- The cluster as the command sees it: the primary of the database's entry in
`config.databases` (`none` once the entry is gone), its sharded collections in name order
(the order of the `std::set` `getAllShardedCollections` fills), the shards that have executed
`dropDatabase` for it, and the position in the oracle's answers. -/
structure Cluster where
  primary : Option ShardId
  collections : List ShardedCollection
  droppedOn : List ShardId
  tick : Nat
  deriving DecidableEq, Repr

abbrev Op := EStateM DBException Cluster

/-- What the command returns when it does not throw. -/
inductive Reply where
  | databaseDoesNotExist
  | dropped (dbname : String)
  deriving DecidableEq, Repr

def setInsert (x : ShardId) : List ShardId → List ShardId
  | [] => [x]
  | y :: ys => if x < y then x :: y :: ys else if x = y then y :: ys else y :: setInsert x ys

section Model

variable (env : Nat → Answer)

def next : Op Answer := fun s => .ok (env s.tick) { s with tick := s.tick + 1 }

def uassertStatusOK : Answer → Op Unit
  | .ok => pure ()
  | .fail code reason | .lost code reason => throw ⟨code, reason⟩

/-- `_dropShardedCollectionFromConfig`: refresh the collection's routing table, and drop the
collection from the config metadata, answering the shards its chunks were on. A collection
the config no longer has, or has unsharded, is skipped. -/
def dropShardedCollectionFromConfig (ns : String) : Op (List ShardId) := do
  let answer ← next env
  let s ← get
  match answer, s.collections.find? (·.ns = ns) with
  | .ok, none => pure []
  | .ok, some cm => do
    let dropped ← next env
    match dropped with
    | .fail code reason => throw ⟨code, reason⟩
    | _ => do
      modify fun s => { s with collections := s.collections.filter (·.ns ≠ ns) }
      uassertStatusOK dropped
      pure cm.shards
  | .fail code reason, _ | .lost code reason, _ =>
    if code = .namespaceNotFound ∨ code = .namespaceNotSharded then pure []
    else throw ⟨code, "Failed to drop collection " ++ ns ++ " due to " ++ reason⟩

/-- `_dropDatabaseFromShard`: send `dropDatabase` to one shard; `getShard`, the command and its
write concern are one call. -/
def dropDatabaseFromShard (shardId : ShardId) : Op Unit := do
  let answer ← next env
  match answer with
  | .fail _ _ => pure ()
  | _ => modify fun s => { s with droppedOn := s.droppedOn ++ [shardId] }
  uassertStatusOK answer

/-- The loop over the sharded collections, with `allShardIds` as the accumulator. -/
def dropCollections : List String → List ShardId → Op (List ShardId)
  | [], allShardIds => pure allShardIds
  | ns :: namespaces, allShardIds => do
    let collectionShards ← dropShardedCollectionFromConfig env ns
    dropCollections namespaces (collectionShards.foldl (fun acc x => setInsert x acc) allShardIds)

/-- The loop that drops the database from each of the collected shards. -/
def dropFromShards : List ShardId → Op Unit
  | [] => pure ()
  | shardId :: shardIds => do
    dropDatabaseFromShard env shardId
    dropFromShards shardIds

/-- `removeConfigDocuments` of the database's entry, and the `uassertStatusOK` on it. -/
def removeDatabaseEntry (dbname : String) : Op Unit := do
  let status ← next env
  match status with
  | .fail code reason => throw ⟨code,
      "Could not remove database \x27" ++ dbname ++ "\x27 from metadata due to " ++ reason⟩
  | .lost code reason => do
    modify fun s => { s with primary := none }
    throw ⟨code, "Could not remove database \x27" ++ dbname ++ "\x27 from metadata due to " ++ reason⟩
  | .ok => modify fun s => { s with primary := none }

/-- `DropDatabaseCmd::run` for the database `dbname`; `firstIsOne` is
`cmdObj.firstElement().isNumber() && cmdObj.firstElement().number() == 1`. -/
def run (kConfigDb dbname : String) (firstIsOne : Bool) : Op Reply := do
  if dbname = kConfigDb then throw ⟨.illegalOperation, "Cannot drop the config database"⟩
  if !firstIsOne then throw ⟨.badValue, "have to pass 1 as db parameter"⟩
  uassertStatusOK (← next env)
  let scopedDbStatus ← next env
  let s ← get
  match scopedDbStatus, s.primary with
  | .ok, none => pure .databaseDoesNotExist
  | .ok, some primaryId => do
    let allShardIds ← dropCollections env (s.collections.map (·.ns)) []
    dropDatabaseFromShard env primaryId
    dropFromShards env allShardIds
    removeDatabaseEntry env dbname
    pure (.dropped dbname)
  | .fail code reason, _ | .lost code reason, _ =>
    if code = .namespaceNotFound then pure .databaseDoesNotExist else throw ⟨code, reason⟩

end Model

/-- The state a run leaves, whether it returned or threw. -/
def afterRun (env : Nat → Answer) (kConfigDb dbname : String) (s : Cluster) : Cluster :=
  match run env kConfigDb dbname true s with
  | .ok _ s' => s'
  | .error _ s' => s'

/-- The command run again and again, each run from the state the previous one left, as a
client that retries it does. -/
def retries (kConfigDb dbname : String) : List (Nat → Answer) → Cluster → Cluster
  | [], s => s
  | env :: envs, s => retries kConfigDb dbname envs (afterRun env kConfigDb dbname s)

theorem mem_setInsert {x y : ShardId} : ∀ {l : List ShardId}, y ∈ setInsert x l ↔ y = x ∨ y ∈ l
  | [] => by simp [setInsert]
  | z :: l => by
    unfold setInsert
    split
    · simp
    · split
      · subst_vars
        simp
      · simp only [List.mem_cons, mem_setInsert]
        tauto

theorem mem_foldl_setInsert {y : ShardId} :
    ∀ (xs acc : List ShardId), y ∈ xs.foldl (fun acc x => setInsert x acc) acc ↔ y ∈ xs ∨ y ∈ acc
  | [], _ => by simp
  | x :: xs, acc => by
    rw [List.foldl_cons, mem_foldl_setInsert xs, mem_setInsert, List.mem_cons]
    tauto

section Specs
variable (env : Nat → Answer)

theorem dropDatabaseFromShard_spec (x : ShardId) (s₁ : Cluster) :
    Triple (· = s₁) (dropDatabaseFromShard env x)
      (fun _ s => s.primary = s₁.primary ∧ s.collections = s₁.collections ∧
        s.droppedOn = s₁.droppedOn ++ [x])
      (fun _ s => s.primary = s₁.primary ∧ s.collections = s₁.collections ∧
        ∃ l, l <+: [x] ∧ s.droppedOn = s₁.droppedOn ++ l) := by
  intro s h
  subst h
  unfold dropDatabaseFromShard
  cases h : env s.tick <;>
    simp [next, h, bind, EStateM.bind, uassertStatusOK, modify, modifyGet,
      MonadStateOf.modifyGet, EStateM.modifyGet, throw, throwThe, MonadExceptOf.throw,
      EStateM.throw, pure, EStateM.pure]

theorem dropFromShards_spec :
    ∀ (l : List ShardId) (s₁ : Cluster), Triple (· = s₁) (dropFromShards env l)
      (fun _ s => s.primary = s₁.primary ∧ s.collections = s₁.collections ∧
        s.droppedOn = s₁.droppedOn ++ l)
      (fun _ s => s.primary = s₁.primary ∧ s.collections = s₁.collections ∧
        ∃ l', l' <+: l ∧ s.droppedOn = s₁.droppedOn ++ l')
  | [], s₁ => Triple.pure fun s h => by subst h; simp
  | x :: l, s₁ => by
    refine Triple.bind ((dropDatabaseFromShard_spec env x s₁).conseq (fun _ h => h)
      (fun _ _ h => h) fun _ _ ⟨hp, hc, l', hl', hd⟩ =>
        ⟨hp, hc, l', hl'.trans (List.prefix_append [x] l), hd⟩) fun _ => ?_
    refine Triple.pre fun s₂ ⟨hp, hc, hd⟩ => (dropFromShards_spec l s₂).conseq (fun _ h => h)
      (fun _ _ ⟨hp', hc', hd'⟩ => ⟨hp'.trans hp, hc'.trans hc, by simp [hd', hd]⟩)
      fun _ _ ⟨hp', hc', l', hl', hd'⟩ =>
        ⟨hp'.trans hp, hc'.trans hc, x :: l', (List.prefix_cons_inj x).mpr hl', by simp [hd', hd]⟩

/-- `_dropShardedCollectionFromConfig` either skips the collection, or drops every collection of
that name from the config and answers the shards of the one it found; a throw leaves the
config's collections a sublist of what they were. -/
theorem dropShardedCollectionFromConfig_spec (ns : String) (s₁ : Cluster) :
    Triple (· = s₁) (dropShardedCollectionFromConfig env ns)
      (fun r s => s.primary = s₁.primary ∧ s.droppedOn = s₁.droppedOn ∧
        (s.collections = s₁.collections ∧ r = [] ∨ ∃ cm ∈ s₁.collections, cm.ns = ns ∧
          s.collections = s₁.collections.filter (·.ns ≠ ns) ∧ r = cm.shards))
      (fun _ s => s.primary = s₁.primary ∧ s.droppedOn = s₁.droppedOn ∧
        s.collections.Sublist s₁.collections) := by
  intro s h
  subst h
  unfold dropShardedCollectionFromConfig
  cases h : env s.tick with
  | ok =>
    cases hf : s.collections.find? (·.ns = ns) with
    | none => simp [next, h, hf, bind, EStateM.bind, get, getThe, MonadStateOf.get, EStateM.get,
        pure, EStateM.pure]
    | some cm =>
      have hm := List.mem_of_find?_eq_some hf
      have hn : cm.ns = ns := by simpa using List.find?_some hf
      cases h' : env (s.tick + 1) with
      | ok =>
        simp only [next, h, h', hf, bind, EStateM.bind, get, getThe, MonadStateOf.get,
          EStateM.get, pure, EStateM.pure, uassertStatusOK, modify, modifyGet,
          MonadStateOf.modifyGet, EStateM.modifyGet]
        exact ⟨trivial, trivial, .inr ⟨cm, hm, hn, trivial, rfl⟩⟩
      | fail _ _ | lost _ _ =>
        simp [next, h, h', hf, bind, EStateM.bind, get, getThe, MonadStateOf.get,
          EStateM.get, uassertStatusOK, modify, modifyGet, MonadStateOf.modifyGet,
          EStateM.modifyGet, throw, throwThe, MonadExceptOf.throw, EStateM.throw,
          List.filter_sublist]
  | fail code reason | lost code reason =>
    by_cases hc : code = .namespaceNotFound ∨ code = .namespaceNotSharded <;>
      simp [next, h, hc, bind, EStateM.bind, get, getThe, MonadStateOf.get, EStateM.get,
        pure, EStateM.pure, throw, throwThe, MonadExceptOf.throw, EStateM.throw]

theorem removeDatabaseEntry_spec (dbname : String) (s₁ : Cluster) :
    Triple (· = s₁) (removeDatabaseEntry env dbname)
      (fun _ s => s.primary = none ∧ s.collections = s₁.collections ∧ s.droppedOn = s₁.droppedOn)
      (fun _ s => (s.primary = s₁.primary ∨ s.primary = none) ∧
        s.collections = s₁.collections ∧ s.droppedOn = s₁.droppedOn) := by
  intro s h
  subst h
  unfold removeDatabaseEntry
  cases h : env s.tick <;>
    simp [next, h, bind, EStateM.bind, modify, modifyGet, MonadStateOf.modifyGet,
      EStateM.modifyGet, throw, throwThe, MonadExceptOf.throw, EStateM.throw]

theorem next_bind {α : Type} {f : Answer → Op α} {s₁ : Cluster} {Q : α → Cluster → Prop}
    {E : DBException → Cluster → Prop}
    (h : Triple (· = { s₁ with tick := s₁.tick + 1 }) (f (env s₁.tick)) Q E) :
    Triple (· = s₁) (next env >>= f) Q E :=
  fun _ hs => by subst hs; exact h _ rfl

theorem get_bind {α : Type} {f : Cluster → Op α} {s₁ : Cluster} {Q : α → Cluster → Prop}
    {E : DBException → Cluster → Prop} (h : Triple (· = s₁) (f s₁) Q E) :
    Triple (· = s₁) (get >>= f) Q E :=
  fun _ hs => by subst hs; exact h _ rfl

theorem uassert_bind {α : Type} {c : Prop} [Decidable c] {e : DBException} {k : PUnit → Op α}
    {P : Cluster → Prop} {Q : α → Cluster → Prop} {E : DBException → Cluster → Prop}
    (he : c → ∀ s, P s → E e s) (hk : ¬c → Triple P (k ⟨⟩) Q E) :
    Triple P (if c then throw e >>= k else pure ⟨⟩ >>= k) Q E :=
  Triple.ite (fun hc => Triple.bind (Q := fun _ _ => False) (Triple.throw (he hc))
    fun _ _ h => h.elim) fun hc => Triple.bind (Triple.pure fun _ h => h) fun _ => hk hc

theorem uassertStatusOK_bind {α : Type} {a : Answer} {k : PUnit → Op α} {P : Cluster → Prop}
    {Q : α → Cluster → Prop} {E : DBException → Cluster → Prop}
    (he : ∀ e s, P s → E e s) (hk : a = .ok → Triple P (k ⟨⟩) Q E) :
    Triple P (uassertStatusOK a >>= k) Q E := by
  cases a with
  | ok => exact Triple.bind (Triple.pure fun _ h => h) fun _ => hk rfl
  | fail _ _ | lost _ _ =>
    exact Triple.bind (Q := fun _ _ => False) (Triple.throw (he _)) fun _ _ h => h.elim

end Specs

/-- Where the loop over the collections stands, started from `s₁` and holding `allShardIds`:
it changed neither the primary nor the shards that executed the drop, only removed collections
from the config, collected only shards of the config's collections, and collected all the
shards of every collection it removed. -/
structure Phase (s₁ : Cluster) (allShardIds : List ShardId) (s : Cluster) : Prop where
  primary : s.primary = s₁.primary
  droppedOn : s.droppedOn = s₁.droppedOn
  sublist : s.collections.Sublist s₁.collections
  named : ∀ x ∈ allShardIds, ∃ c ∈ s₁.collections, x ∈ c.shards
  covered : (s₁.collections.map (·.ns)).Nodup →
    ∀ c ∈ s₁.collections, c ∈ s.collections ∨ ∀ x ∈ c.shards, x ∈ allShardIds

theorem Phase.start (s₁ : Cluster) : Phase s₁ [] s₁ :=
  ⟨rfl, rfl, List.Sublist.refl _, nofun, fun _ _ h => .inl h⟩

theorem Phase.step {s₁ s₂ s₃ : Cluster} {acc r : List ShardId} {ns : String}
    (h : Phase s₁ acc s₂)
    (hp : s₃.primary = s₂.primary) (hd : s₃.droppedOn = s₂.droppedOn)
    (hr : s₃.collections = s₂.collections ∧ r = [] ∨ ∃ cm ∈ s₂.collections, cm.ns = ns ∧
      s₃.collections = s₂.collections.filter (·.ns ≠ ns) ∧ r = cm.shards) :
    Phase s₁ (r.foldl (fun acc x => setInsert x acc) acc) s₃ := by
  rcases hr with ⟨hc, rfl⟩ | ⟨cm, hcm, hns, hc, rfl⟩
  · exact ⟨hp.trans h.primary, hd.trans h.droppedOn, hc ▸ h.sublist, h.named,
      fun hnd c hc' => hc ▸ h.covered hnd c hc'⟩
  · have hcm₁ := h.sublist.subset hcm
    refine ⟨hp.trans h.primary, hd.trans h.droppedOn,
      hc ▸ (List.filter_sublist _).trans h.sublist, fun x hx => ?_, fun hnd c hc₁ => ?_⟩
    · rcases mem_foldl_setInsert _ _ |>.mp hx with hx | hx
      exacts [⟨cm, hcm₁, hx⟩, h.named x hx]
    · rcases h.covered hnd c hc₁ with hc₂ | hall
      · by_cases hn : c.ns = ns
        · obtain rfl := List.inj_on_of_nodup_map hnd hc₁ hcm₁ (hn.trans hns.symm)
          exact .inr fun x hx => mem_foldl_setInsert _ _ |>.mpr (.inl hx)
        · exact .inl (hc ▸ List.mem_filter.mpr ⟨hc₂, by simpa using hn⟩)
      · exact .inr fun x hx => mem_foldl_setInsert _ _ |>.mpr (.inr (hall x hx))

theorem dropCollections_spec (env : Nat → Answer) (s₁ : Cluster) :
    ∀ (namespaces : List String) (acc : List ShardId),
      Triple (Phase s₁ acc) (dropCollections env namespaces acc) (fun r => Phase s₁ r)
        (fun _ s => s.primary = s₁.primary ∧ s.droppedOn = s₁.droppedOn ∧
          s.collections.Sublist s₁.collections)
  | [], _ => Triple.pure fun _ h => h
  | ns :: namespaces, acc => Triple.pre fun s₂ h₂ => by
    refine Triple.bind ((dropShardedCollectionFromConfig_spec env ns s₂).conseq (fun _ h => h)
      (fun _ _ ⟨hp, hd, hr⟩ => h₂.step hp hd hr) fun _ _ ⟨hp, hd, hc⟩ =>
        ⟨hp.trans h₂.primary, hd.trans h₂.droppedOn, hc.trans h₂.sublist⟩) fun r => ?_
    exact dropCollections_spec env s₁ namespaces _

/-- The shards the config names for the database: its primary, and the shards of its sharded
collections. -/
def Names (s : Cluster) (x : ShardId) : Prop :=
  s.primary = some x ∨ ∃ c ∈ s.collections, x ∈ c.shards

/-- `s` came from `s₀` without contacting a shard the config of `s₀` did not name, and its
config names nothing new. -/
structure Within (s₀ s : Cluster) : Prop where
  droppedOn : ∀ x ∈ s.droppedOn, x ∈ s₀.droppedOn ∨ Names s₀ x
  names : ∀ x, Names s x → Names s₀ x

theorem Within.refl (s : Cluster) : Within s s := ⟨fun _ h => .inl h, fun _ h => h⟩

theorem Within.trans {s₀ s₁ s₂ : Cluster} (h₁ : Within s₀ s₁) (h₂ : Within s₁ s₂) :
    Within s₀ s₂ :=
  ⟨fun x hx => (h₂.droppedOn x hx).elim (h₁.droppedOn x) fun hn => .inr (h₁.names x hn),
    fun x hx => h₁.names x (h₂.names x hx)⟩

theorem droppedOn_append {s₀ s₁ s : Cluster} {l : List ShardId}
    (hd : s.droppedOn = s₁.droppedOn ++ l) (hl : ∀ x ∈ l, Names s₀ x) :
    ∀ x ∈ s.droppedOn, x ∈ s₁.droppedOn ∨ Names s₀ x := fun x hx => by
  rw [hd, List.mem_append] at hx
  exact hx.imp_right (hl x)

theorem Within.tick (s : Cluster) (t : Nat) : Within s { s with tick := t } :=
  ⟨fun _ h => .inl h, fun _ h => h⟩

theorem Within.step {s₀ s₁ s : Cluster} (h : Within s₀ s₁)
    (hp : s.primary = s₁.primary ∨ s.primary = none) (hc : s.collections.Sublist s₁.collections)
    (hd : ∀ x ∈ s.droppedOn, x ∈ s₁.droppedOn ∨ Names s₀ x) : Within s₀ s := by
  refine ⟨fun x hx => (hd x hx).elim (h.droppedOn x) .inr, fun x hx => h.names x ?_⟩
  rcases hx with hx | ⟨c, hc', hx⟩
  · rcases hp with hp | hp
    · exact .inl (hp ▸ hx)
    · simp [hp] at hx
  · exact .inr ⟨c, hc.subset hc', hx⟩

/-- What a run from `s₀` can leave, however it ends: the entry kept or removed, only
collections removed from the config, the drop sent only to shards `s₀` names, and the entry
removed only after the primary and all the shards of each collection the run took out of the
config executed the drop. -/
structure RunEffect (s₀ s : Cluster) : Prop where
  primary : s.primary = s₀.primary ∨ s.primary = none
  sublist : s.collections.Sublist s₀.collections
  named : ∀ x ∈ s.droppedOn, x ∈ s₀.droppedOn ∨ Names s₀ x
  removed : s.primary = none → (∀ p, s₀.primary = some p → p ∈ s.droppedOn) ∧
    ((s₀.collections.map (·.ns)).Nodup →
      ∀ c ∈ s₀.collections, c ∈ s.collections ∨ ∀ x ∈ c.shards, x ∈ s.droppedOn)

theorem RunEffect.within {s₀ s : Cluster} (h : RunEffect s₀ s) : Within s₀ s :=
  (Within.refl s₀).step h.primary h.sublist h.named

theorem RunEffect.unchanged {s₀ s : Cluster} (hp : s.primary = s₀.primary)
    (hc : s.collections = s₀.collections) (hd : s.droppedOn = s₀.droppedOn) : RunEffect s₀ s :=
  ⟨.inl hp, hc ▸ List.Sublist.refl _, fun x hx => .inl (hd ▸ hx), fun hn =>
    ⟨fun p h => by simp [← hp, hn] at h, fun _ c h => .inl (hc ▸ h)⟩⟩

theorem RunEffect.after_collections {s₀ s₂ s₃ s : Cluster} {p : ShardId} {all l : List ShardId}
    (hp₀ : s₀.primary = some p) (hp₂ : s₂.primary = some p)
    (hc₂ : s₂.collections = s₀.collections) (hd₂ : s₂.droppedOn = s₀.droppedOn)
    (h₃ : Phase s₂ all s₃) (hc : s.collections = s₃.collections)
    (hd : s.droppedOn = s₃.droppedOn ++ l) (hl : ∀ x ∈ l, x = p ∨ x ∈ all)
    (hp : s.primary = some p ∨ s.primary = none ∧ p ∈ l ∧ ∀ x ∈ all, x ∈ l) :
    RunEffect s₀ s := by
  have hd₃ : s.droppedOn = s₀.droppedOn ++ l := by rw [hd, h₃.droppedOn, hd₂]
  refine ⟨hp.imp (·.trans hp₀.symm) (·.1), hc ▸ hc₂ ▸ h₃.sublist, fun x hx => ?_, fun hn => ?_⟩
  · rw [hd₃, List.mem_append] at hx
    refine hx.imp_right fun hx => ?_
    rcases hl x hx with rfl | hx
    · exact .inl hp₀
    · obtain ⟨c, hc, hxc⟩ := h₃.named x hx
      exact .inr ⟨c, hc₂ ▸ hc, hxc⟩
  · obtain ⟨-, hpl, hall⟩ := hp.resolve_left (by simp [hn])
    refine ⟨fun q hq => ?_, fun hnd c hc₀ => ?_⟩
    · rw [hp₀] at hq
      cases hq
      exact hd₃ ▸ List.mem_append_right _ hpl
    · rcases h₃.covered (hc₂ ▸ hnd) c (hc₂ ▸ hc₀) with h | h
      · exact .inl (hc ▸ h)
      · exact .inr fun x hx => hd₃ ▸ List.mem_append_right _ (hall x (h x hx))

theorem run_spec (env : Nat → Answer) (kConfigDb dbname : String) (firstIsOne : Bool)
    (s₀ : Cluster) :
    Triple (· = s₀) (run env kConfigDb dbname firstIsOne) (fun _ => RunEffect s₀)
      (fun _ => RunEffect s₀) := by
  have tick : ∀ t, RunEffect s₀ { s₀ with tick := t } := fun _ => .unchanged rfl rfl rfl
  unfold run
  dsimp only
  refine uassert_bind (fun _ s h => h ▸ tick _) fun _ => ?_
  refine uassert_bind (fun _ s h => h ▸ tick _) fun _ => ?_
  refine next_bind env (uassertStatusOK_bind (fun _ s h => h ▸ tick _) fun _ => ?_)
  refine next_bind env (get_bind ?_)
  dsimp only
  cases env (s₀.tick + 1) with
  | ok =>
    cases hp : s₀.primary with
    | none => exact Triple.pure fun s h => h ▸ .unchanged hp.symm rfl rfl
    | some p =>
      let s₂ : Cluster := ⟨some p, s₀.collections, s₀.droppedOn, s₀.tick + 1 + 1⟩
      refine Triple.bind (((dropCollections_spec env s₂ _ []).weaken fun s (h : s = s₂) =>
        h.symm ▸ Phase.start s₂).conseq (fun _ h => h) (fun _ _ h => h) fun _ _ ⟨hp', hd, hc⟩ =>
          ⟨.inl (hp'.trans hp.symm), hc, fun x hx => .inl (hd ▸ hx), fun hn => by
            simp [hp', s₂] at hn⟩) fun all => Triple.pre fun s₃ h₃ => ?_
      have after := fun {s : Cluster} {l : List ShardId} =>
        @RunEffect.after_collections s₀ s₂ s₃ s p all l hp rfl rfl rfl h₃
      refine Triple.bind ((dropDatabaseFromShard_spec env p s₃).conseq (fun _ h => h)
        (fun _ _ h => h) fun _ _ ⟨hp', hc, l, hl, hd⟩ => after hc hd
          (fun x hx => .inl (List.eq_of_mem_singleton (hl.subset hx))) (.inl (hp'.trans h₃.primary)))
        fun _ => Triple.pre fun s₄ ⟨hp₄, hc₄, hd₄⟩ => ?_
      refine Triple.bind ((dropFromShards_spec env all s₄).conseq (fun _ h => h) (fun _ _ h => h)
        fun _ _ ⟨hp', hc, l, hl, hd⟩ => after (hc.trans hc₄) (by rw [hd, hd₄, List.append_assoc])
          (fun x hx => by
            rcases List.mem_cons.mp hx with rfl | hx
            exacts [.inl rfl, .inr (hl.subset hx)])
          (.inl (hp'.trans (hp₄.trans h₃.primary)))) fun _ => Triple.pre fun s₅ ⟨hp₅, hc₅, hd₅⟩ => ?_
      have hd₅' : s₅.droppedOn = s₃.droppedOn ++ p :: all := by
        rw [hd₅, hd₄, List.append_assoc]
        rfl
      have hl : ∀ x ∈ p :: all, x = p ∨ x ∈ all := fun x hx => List.mem_cons.mp hx
      refine Triple.bind ((removeDatabaseEntry_spec env dbname s₅).conseq (fun _ h => h)
        (fun _ _ ⟨hp', hc, hd⟩ => after (hc.trans (hc₅.trans hc₄)) (hd.trans hd₅') hl
          (.inr ⟨hp', List.mem_cons_self _ _, fun x hx => List.mem_cons_of_mem _ hx⟩))
        fun _ _ ⟨hp', hc, hd⟩ => after (hc.trans (hc₅.trans hc₄)) (hd.trans hd₅') hl
          (hp'.imp (·.trans (hp₅.trans (hp₄.trans h₃.primary))) fun hn =>
            ⟨hn, List.mem_cons_self _ _, fun x hx => List.mem_cons_of_mem _ hx⟩))
        fun _ => Triple.pure fun _ h => h
  | fail code reason | lost code reason =>
    exact Triple.ite (fun _ => Triple.pure fun s h => h ▸ tick _)
      fun _ => Triple.throw fun s h => h ▸ tick _

/-- **The database entry goes last.** Whatever the config and the shards answer, and however
the run ends, when the database's entry is gone from `config.databases` the primary shard and
every shard of each collection the run took out of the config have executed `dropDatabase`
(the config's collections having distinct names, as their `_id`s do). -/
theorem run_removes_entry_after_shards (env : Nat → Answer) (kConfigDb dbname : String)
    (firstIsOne : Bool) (s₀ : Cluster) (hnd : (s₀.collections.map (·.ns)).Nodup) :
    Triple (· = s₀) (run env kConfigDb dbname firstIsOne)
      (fun _ s => s.primary = none → (∀ p, s₀.primary = some p → p ∈ s.droppedOn) ∧
        ∀ c ∈ s₀.collections, c ∈ s.collections ∨ ∀ x ∈ c.shards, x ∈ s.droppedOn)
      (fun _ s => s.primary = none → (∀ p, s₀.primary = some p → p ∈ s.droppedOn) ∧
        ∀ c ∈ s₀.collections, c ∈ s.collections ∨ ∀ x ∈ c.shards, x ∈ s.droppedOn) :=
  (run_spec env kConfigDb dbname firstIsOne s₀).conseq (fun _ h => h)
    (fun _ _ h hn => (h.removed hn).imp_right (· hnd))
    (fun _ _ h hn => (h.removed hn).imp_right (· hnd))

theorem run_removes_entry_after_shards_one_collection :
    (([⟨"test.c", [1]⟩] : List ShardedCollection).map (·.ns)).Nodup ∧
      Triple (· = ⟨some 0, [⟨"test.c", [1]⟩], [], 0⟩) (run (fun _ => .ok) "config" "test" true)
        (fun _ s => s.primary = none → (∀ p, some 0 = some p → p ∈ s.droppedOn) ∧
          ∀ c ∈ [(⟨"test.c", [1]⟩ : ShardedCollection)], c ∈ s.collections ∨
            ∀ x ∈ c.shards, x ∈ s.droppedOn)
        (fun _ s => s.primary = none → (∀ p, some 0 = some p → p ∈ s.droppedOn) ∧
          ∀ c ∈ [(⟨"test.c", [1]⟩ : ShardedCollection)], c ∈ s.collections ∨
            ∀ x ∈ c.shards, x ∈ s.droppedOn) :=
  ⟨by decide, run_removes_entry_after_shards _ _ _ _ _ (by decide)⟩

theorem afterRun_effect (env : Nat → Answer) (kConfigDb dbname : String) (s : Cluster) :
    RunEffect s (afterRun env kConfigDb dbname s) := by
  have h := run_spec env kConfigDb dbname true s s rfl
  unfold afterRun
  split <;> rename_i heq <;> rw [heq] at h <;> exact h

theorem retries_within (kConfigDb dbname : String) :
    ∀ (envs : List (Nat → Answer)) (s : Cluster), Within s (retries kConfigDb dbname envs s)
  | [], s => Within.refl s
  | env :: envs, s =>
    (afterRun_effect env kConfigDb dbname s).within.trans (retries_within kConfigDb dbname envs _)

/-- **Retries never reach a shard the config has forgotten.** A shard that has not executed
`dropDatabase` and that the config no longer names (neither the primary nor a shard of one of
the database's sharded collections) never executes it, however many times the command is run
again and whatever every run meets. -/
theorem retries_never_contact (kConfigDb dbname : String) (envs : List (Nat → Answer))
    (s : Cluster) (x : ShardId) (hx : x ∉ s.droppedOn) (hn : ¬Names s x) :
    x ∉ (retries kConfigDb dbname envs s).droppedOn := fun h =>
  ((retries_within kConfigDb dbname envs s).droppedOn x h).elim hx hn

/-- A failed run can orphan a shard. The database `test` has its primary on shard 0 and one
sharded collection `test.c` whose chunks are on shard 1. A run drops `test.c` from the config
and then fails to reach the primary: shard 1 is left undropped and unnamed, and no retry sends
it `dropDatabase`. -/
theorem retries_never_contact_orphaned_shard :
    1 ∉ (afterRun (fun t => if t = 4 then .fail (.other 6) "HostUnreachable" else .ok)
      "config" "test" ⟨some 0, [⟨"test.c", [1]⟩], [], 0⟩).droppedOn ∧
    ¬Names (afterRun (fun t => if t = 4 then .fail (.other 6) "HostUnreachable" else .ok)
      "config" "test" ⟨some 0, [⟨"test.c", [1]⟩], [], 0⟩) 1 ∧
    1 ∉ (retries "config" "test" [fun _ => .ok]
      (afterRun (fun t => if t = 4 then .fail (.other 6) "HostUnreachable" else .ok)
        "config" "test" ⟨some 0, [⟨"test.c", [1]⟩], [], 0⟩)).droppedOn :=
  have hfail : afterRun (fun t => if t = 4 then .fail (.other 6) "HostUnreachable" else .ok)
      "config" "test" ⟨some 0, [⟨"test.c", [1]⟩], [], 0⟩ = ⟨some 0, [], [], 5⟩ := by decide
  have hx : 1 ∉ (⟨some 0, [], [], 5⟩ : Cluster).droppedOn := List.not_mem_nil 1
  have hn : ¬Names ⟨some 0, [], [], 5⟩ 1 := by simp [Names]
  ⟨hfail ▸ hx, hfail ▸ hn, retries_never_contact _ _ _ _ 1 (hfail ▸ hx) (hfail ▸ hn)⟩

section AllOk

theorem dropShardedCollectionFromConfig_all_ok {c : ShardedCollection}
    {cs : List ShardedCollection} {s₁ : Cluster} (hs : s₁.collections = c :: cs)
    (hc : c.ns ∉ cs.map (·.ns)) :
    Triple (· = s₁) (dropShardedCollectionFromConfig (fun _ => .ok) c.ns)
      (fun r s => r = c.shards ∧ s.primary = s₁.primary ∧ s.collections = cs ∧
        s.droppedOn = s₁.droppedOn) (fun _ _ => False) := by
  intro s h
  subst h
  have hne : ∀ d ∈ cs, ¬d.ns = c.ns := fun d hd (h : d.ns = c.ns) =>
    hc (h ▸ List.mem_map_of_mem (·.ns) hd)
  unfold dropShardedCollectionFromConfig
  simpa [next, hs, bind, EStateM.bind, get, getThe, MonadStateOf.get, EStateM.get, pure,
    EStateM.pure, uassertStatusOK, modify, modifyGet, MonadStateOf.modifyGet, EStateM.modifyGet]
    using hne

theorem dropCollections_all_ok : ∀ (cs : List ShardedCollection) (acc : List ShardId)
    (s₁ : Cluster), s₁.collections = cs → (cs.map (·.ns)).Nodup →
    Triple (· = s₁) (dropCollections (fun _ => .ok) (cs.map (·.ns)) acc)
      (fun all s => (∀ x, x ∈ acc ∨ (∃ c ∈ cs, x ∈ c.shards) → x ∈ all) ∧
        s.primary = s₁.primary ∧ s.collections = [] ∧ s.droppedOn = s₁.droppedOn)
      (fun _ _ => False)
  | [], acc, s₁, hs, _ => Triple.pure fun s h => by subst h; simp [hs]
  | c :: cs, acc, s₁, hs, hnd => by
    obtain ⟨hc, hnd⟩ := List.nodup_cons.mp hnd
    refine Triple.bind (dropShardedCollectionFromConfig_all_ok hs hc) fun r =>
      Triple.pre fun s₂ ⟨hr, hp, hcs, hd⟩ => ?_
    subst hr
    refine (dropCollections_all_ok cs _ s₂ hcs hnd).conseq (fun _ h => h)
      (fun all s ⟨hall, hp', hc', hd'⟩ => ⟨fun x hx => hall x ?_, hp'.trans hp, hc', hd'.trans hd⟩)
      fun _ _ h => h
    rw [mem_foldl_setInsert]
    rcases hx with hx | ⟨d, hd, hxd⟩
    · exact .inl (.inr hx)
    · rcases List.mem_cons.mp hd with rfl | hd
      exacts [.inl (.inl hxd), .inr ⟨d, hd, hxd⟩]

theorem dropDatabaseFromShard_all_ok (x : ShardId) (s₁ : Cluster) :
    Triple (· = s₁) (dropDatabaseFromShard (fun _ => .ok) x)
      (fun _ s => s.primary = s₁.primary ∧ s.collections = s₁.collections ∧
        s.droppedOn = s₁.droppedOn ++ [x]) (fun _ _ => False) := fun s h => by
  subst h
  simp [dropDatabaseFromShard, next, bind, EStateM.bind, uassertStatusOK, modify, modifyGet,
    MonadStateOf.modifyGet, EStateM.modifyGet, pure, EStateM.pure]

theorem dropFromShards_all_ok : ∀ (l : List ShardId) (s₁ : Cluster),
    Triple (· = s₁) (dropFromShards (fun _ => .ok) l)
      (fun _ s => s.primary = s₁.primary ∧ s.collections = s₁.collections ∧
        s.droppedOn = s₁.droppedOn ++ l) (fun _ _ => False)
  | [], s₁ => Triple.pure fun s h => by subst h; simp
  | x :: l, s₁ => Triple.bind (dropDatabaseFromShard_all_ok x s₁) fun _ =>
    Triple.pre fun s₂ ⟨hp, hc, hd⟩ => (dropFromShards_all_ok l s₂).conseq (fun _ h => h)
      (fun _ _ ⟨hp', hc', hd'⟩ => ⟨hp'.trans hp, hc'.trans hc, by simp [hd', hd]⟩) fun _ _ h => h

theorem removeDatabaseEntry_all_ok (dbname : String) (s₁ : Cluster) :
    Triple (· = s₁) (removeDatabaseEntry (fun _ => .ok) dbname)
      (fun _ s => s.primary = none ∧ s.collections = s₁.collections ∧
        s.droppedOn = s₁.droppedOn) (fun _ _ => False) := fun s h => by
  subst h
  simp [removeDatabaseEntry, next, bind, EStateM.bind, modify, modifyGet,
    MonadStateOf.modifyGet, EStateM.modifyGet]

theorem run_all_ok_spec (kConfigDb dbname : String) (hcfg : dbname ≠ kConfigDb) (s₀ : Cluster)
    (p : ShardId) (hp : s₀.primary = some p) (hnd : (s₀.collections.map (·.ns)).Nodup) :
    Triple (· = s₀) (run (fun _ => .ok) kConfigDb dbname true)
      (fun r s => r = .dropped dbname ∧ s.primary = none ∧ s.collections = [] ∧
        ∀ x, Names s₀ x → x ∈ s.droppedOn)
      (fun _ _ => False) := by
  unfold run
  dsimp only
  refine uassert_bind (fun h => absurd h hcfg) fun _ => ?_
  refine uassert_bind nofun fun _ => ?_
  refine next_bind _ (Triple.bind (Q := fun _ => (· = _)) (Triple.pure fun _ h => h) fun _ => ?_)
  refine next_bind _ (get_bind ?_)
  dsimp only
  simp only [hp]
  refine Triple.bind (dropCollections_all_ok s₀.collections [] _ rfl hnd) fun all =>
    Triple.pre fun s₃ ⟨hall, hp₃, hc₃, hd₃⟩ => ?_
  refine Triple.bind (dropDatabaseFromShard_all_ok p s₃) fun _ =>
    Triple.pre fun s₄ ⟨hp₄, hc₄, hd₄⟩ => ?_
  refine Triple.bind (dropFromShards_all_ok all s₄) fun _ =>
    Triple.pre fun s₅ ⟨hp₅, hc₅, hd₅⟩ => ?_
  refine Triple.bind (removeDatabaseEntry_all_ok dbname s₅) fun _ =>
    Triple.pure fun s ⟨hp₆, hc₆, hd₆⟩ => ⟨rfl, hp₆, by rw [hc₆, hc₅, hc₄, hc₃], fun x hx => ?_⟩
  rw [hd₆, hd₅, hd₄]
  rcases hx with hx | ⟨c, hc, hxc⟩
  · rw [hp] at hx
    cases hx
    simp
  · simp [hall x (.inr ⟨c, hc, hxc⟩)]

/-- **With every call answering `ok`, the command drops the database everywhere.** From a
config whose sharded collections have distinct names, a run of `dropDatabase` on a database
other than the config database, with every call to the config server and the shards
succeeding, returns, removes the database's entry and all its sharded collections from the
config, and has had every shard the config named execute `dropDatabase`. -/
theorem run_all_ok (kConfigDb dbname : String) (hcfg : dbname ≠ kConfigDb) (s₀ : Cluster)
    (p : ShardId) (hp : s₀.primary = some p) (hnd : (s₀.collections.map (·.ns)).Nodup) :
    Triple (· = s₀) (run (fun _ => .ok) kConfigDb dbname true)
      (fun r s => r = .dropped dbname ∧ s.primary = none ∧ s.collections = [] ∧
        ∀ x, Names s₀ x → x ∈ s.droppedOn)
      (fun _ _ => False) :=
  run_all_ok_spec kConfigDb dbname hcfg s₀ p hp hnd

theorem retries_append (kConfigDb dbname : String) (envs envs' : List (Nat → Answer))
    (s : Cluster) :
    retries kConfigDb dbname (envs ++ envs') s =
      retries kConfigDb dbname envs' (retries kConfigDb dbname envs s) := by
  induction envs generalizing s with
  | nil => rfl
  | cons env envs ih => exact ih _

theorem retries_sublist (kConfigDb dbname : String) :
    ∀ (envs : List (Nat → Answer)) (s : Cluster),
      (retries kConfigDb dbname envs s).collections.Sublist s.collections
  | [], _ => List.Sublist.refl _
  | env :: envs, s => (retries_sublist kConfigDb dbname envs _).trans
    (afterRun_effect env kConfigDb dbname s).sublist

/-- **Retrying until a run meets no failure removes the database from the config.** Whatever
the failed runs before it met, a run of the command in which every call succeeds leaves the
database's entry gone from `config.databases`: it removes it, or a failed run already had. -/
theorem retries_until_success_remove_entry (kConfigDb dbname : String)
    (hcfg : dbname ≠ kConfigDb) (envs : List (Nat → Answer)) (s₀ : Cluster)
    (hnd : (s₀.collections.map (·.ns)).Nodup) :
    (retries kConfigDb dbname (envs ++ [fun _ => .ok]) s₀).primary = none := by
  rw [retries_append]
  have hnd' := ((retries_sublist kConfigDb dbname envs s₀).map (·.ns)).nodup hnd
  show (afterRun (fun _ => .ok) kConfigDb dbname (retries kConfigDb dbname envs s₀)).primary = none
  cases hp : (retries kConfigDb dbname envs s₀).primary with
  | none =>
    simpa [hp] using (afterRun_effect (fun _ => .ok) kConfigDb dbname
      (retries kConfigDb dbname envs s₀)).primary
  | some p =>
    have h := run_all_ok_spec kConfigDb dbname hcfg _ p hp hnd' _ rfl
    unfold afterRun
    split <;> rename_i heq <;> rw [heq] at h
    exacts [h.2.1, h.elim]

end AllOk

theorem run_all_ok_one_collection :
    "test" ≠ "config" ∧ (⟨some 0, [⟨"test.c", [1]⟩], [], 0⟩ : Cluster).primary = some 0 ∧
      ((⟨some 0, [⟨"test.c", [1]⟩], [], 0⟩ : Cluster).collections.map (·.ns)).Nodup ∧
      Triple (· = ⟨some 0, [⟨"test.c", [1]⟩], [], 0⟩) (run (fun _ => .ok) "config" "test" true)
        (fun r s => r = .dropped "test" ∧ s.primary = none ∧ s.collections = [] ∧
          ∀ x, Names ⟨some 0, [⟨"test.c", [1]⟩], [], 0⟩ x → x ∈ s.droppedOn)
        (fun _ _ => False) :=
  ⟨by decide, rfl, by decide, run_all_ok "config" "test" (by decide) _ 0 rfl (by decide)⟩

theorem retries_until_success_remove_entry_after_failure :
    "test" ≠ "config" ∧
      ((⟨some 0, [⟨"test.c", [1]⟩], [], 0⟩ : Cluster).collections.map (·.ns)).Nodup ∧
      (retries "config" "test"
        ([fun t => if t = 4 then .fail (.other 6) "HostUnreachable" else .ok] ++ [fun _ => .ok])
        ⟨some 0, [⟨"test.c", [1]⟩], [], 0⟩).primary = none :=
  ⟨by decide, by decide, retries_until_success_remove_entry "config" "test" (by decide) _ _
    (by decide)⟩

end Normous.Catalog.ClusterDropDatabase
