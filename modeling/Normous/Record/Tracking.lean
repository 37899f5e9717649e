import Normous.Record.Rolling
import Normous.Record.SimpleCache

/-!
# `Record::accessed` and `Record::likelyInPhysicalMemory`

Both functions split a record's address into a page (`data >> 12`), a region of 64 pages
(`page >> 6`) and the page's offset in it (`page & 0x3f`); the region picks a `Rolling` of
`ps::rolling` by `bigHash`. `accessed` tells that `Rolling` about a page the thread's
`SimpleCache` does not hold, and caches it; `likelyInPhysicalMemory` answers from the cache,
then from the `Rolling`, then from `ProcessInfo::blockInMemory`, an input here. The mutex of
`Rolling::access` makes each access atomic and the caches are thread-local, so a run of calls
from any threads in any interleaving is a list of calls applied in order.

`run_inv`: every call with a non-zero region keeps each slice's probing invariant. After
`accessed`, the page is reported in memory on the same thread, where `_accessing` does nothing,
and on any thread when the periodic check does not rotate.
-/

namespace Normous.Record.Tracking

open Ps (Rolling)

def bigHashSize : Nat := 128

/-- `ps::bigHash`. -/
def bigHash (region : BitVec 64) : Nat := Ps.hash region % bigHashSize

theorem bigHash_lt (region : BitVec 64) : bigHash region < bigHashSize := Nat.mod_lt _ (by decide)

/-- `(size_t)data >> 12`. -/
def pageOf (data : BitVec 64) : BitVec 64 := data >>> 12

/-- `page >> 6`. -/
def regionOf (data : BitVec 64) : BitVec 64 := pageOf data >>> 6

/-- `page & 0x3f`. -/
def offsetOf (data : BitVec 64) : Nat := (pageOf data &&& 0x3f#64).toNat

theorem offsetOf_lt (data : BitVec 64) : offsetOf data < 64 := by
  unfold offsetOf
  rw [BitVec.toNat_and]
  exact Nat.lt_of_le_of_lt Nat.and_le_right (by decide)

/-- The `Rolling` of `ps::rolling` that tracks the region of `data`. -/
def rollingIndex (data : BitVec 64) : Fin bigHashSize :=
  ⟨bigHash (regionOf data), bigHash_lt _⟩

/-- `ps::rolling` and each thread's `mySimpleCache`. -/
structure Tracker where
  rolling : Fin bigHashSize → Rolling
  caches : Nat → SimpleCache

namespace Tracker

/-- Program start, at clock reading `now`: every `Rolling` constructed, every cache zero. -/
def init (now : Int) : Tracker := ⟨fun _ => Rolling.init now, fun _ => SimpleCache.zero⟩

def setRolling (t : Tracker) (i : Fin bigHashSize) (r : Rolling) : Tracker :=
  { t with rolling := fun j => if j = i then r else t.rolling j }

def setCache (t : Tracker) (th : Nat) (sc : SimpleCache) : Tracker :=
  { t with caches := fun k => if k = th then sc else t.caches k }

@[simp] theorem setRolling_rolling (t : Tracker) (i j : Fin bigHashSize) (r : Rolling) :
    (t.setRolling i r).rolling j = if j = i then r else t.rolling j := rfl

@[simp] theorem setRolling_caches (t : Tracker) (i : Fin bigHashSize) (r : Rolling) :
    (t.setRolling i r).caches = t.caches := rfl

@[simp] theorem setCache_rolling (t : Tracker) (th : Nat) (sc : SimpleCache) :
    (t.setCache th sc).rolling = t.rolling := rfl

@[simp] theorem setCache_caches (t : Tracker) (th k : Nat) (sc : SimpleCache) :
    (t.setCache th sc).caches k = if k = th then sc else t.caches k := rfl

/-- `Record::accessed` on thread `th`. -/
def accessed (t : Tracker) (memoryTrackingEnabled : Bool) (th rarelyCount : Nat) (now : Int)
    (data : BitVec 64) : Except Fault Tracker :=
  if !memoryTrackingEnabled then .ok t
  else
    let sc := t.caches th
    if !sc.inCache (pageOf data) then
      let i := rollingIndex data
      let t := t.setRolling i
        ((t.rolling i).access rarelyCount now (regionOf data) (offsetOf data) true).2
      (sc.add (pageOf data)).map (t.setCache th)
    else .ok t

/-- `Record::likelyInPhysicalMemory(data)` on thread `th`. `blockSupported` is
`ProcessInfo::blockCheckSupported()` and `blockInMemory` the answer of
`ProcessInfo::blockInMemory(data)`. -/
def likelyInPhysicalMemory (t : Tracker) (memoryTrackingEnabled : Bool) (th rarelyCount : Nat)
    (now : Int) (blockSupported blockInMemory : Bool) (data : BitVec 64) : Bool × Tracker :=
  if !memoryTrackingEnabled then (true, t)
  else if (t.caches th).inCache (pageOf data) then (true, t)
  else
    let i := rollingIndex data
    let (found, r) := (t.rolling i).access rarelyCount now (regionOf data) (offsetOf data) false
    let t := t.setRolling i r
    if found then (true, t)
    else if !blockSupported then (false, t)
    else (blockInMemory, t)

end Tracker

/-- One call, by thread `th`. -/
inductive Call where
  | accessed (th rarelyCount : Nat) (now : Int) (data : BitVec 64)
  | likelyInPhysicalMemory (th rarelyCount : Nat) (now : Int) (blockSupported blockInMemory : Bool)
      (data : BitVec 64)

def Call.data : Call → BitVec 64
  | .accessed _ _ _ data => data
  | .likelyInPhysicalMemory _ _ _ _ _ data => data

namespace Tracker

def step (t : Tracker) (memoryTrackingEnabled : Bool) : Call → Except Fault Tracker
  | .accessed th rarelyCount now data => t.accessed memoryTrackingEnabled th rarelyCount now data
  | .likelyInPhysicalMemory th rarelyCount now blockSupported blockInMemory data =>
    .ok (t.likelyInPhysicalMemory memoryTrackingEnabled th rarelyCount now blockSupported
      blockInMemory data).2

/-- A run of calls, in order; a fault of `SimpleCache::add` ends it. -/
def run (t : Tracker) (memoryTrackingEnabled : Bool) : List Call → Except Fault Tracker
  | [] => .ok t
  | c :: cs => t.step memoryTrackingEnabled c >>= fun t => t.run memoryTrackingEnabled cs

section Calls

variable {t t' : Tracker} {memoryTrackingEnabled : Bool} {th rarelyCount : Nat} {now : Int}
  {data : BitVec 64}

/-- **What `accessed` can do**: nothing, when tracking is off or the cache holds the page;
otherwise the `Rolling` access and an add to the thread's cache. -/
theorem accessed_cases (h : t.accessed memoryTrackingEnabled th rarelyCount now data = .ok t') :
    memoryTrackingEnabled = false ∧ t' = t ∨
      (t.caches th).inCache (pageOf data) = true ∧ t' = t ∨
      (t.caches th).inCache (pageOf data) = false ∧
        ∃ sc, (t.caches th).add (pageOf data) = .ok sc ∧
          t' = (t.setRolling (rollingIndex data) ((t.rolling (rollingIndex data)).access
            rarelyCount now (regionOf data) (offsetOf data) true).2).setCache th sc := by
  unfold accessed at h
  cases memoryTrackingEnabled
  · cases h
    exact .inl ⟨rfl, rfl⟩
  cases hin : (t.caches th).inCache (pageOf data)
  · simp only [hin, Bool.not_false, Bool.not_true, ite_true, ite_false] at h
    cases hadd : (t.caches th).add (pageOf data) with
    | error f => rw [hadd] at h; cases h
    | ok sc =>
      rw [hadd] at h
      cases h
      exact .inr (.inr ⟨rfl, sc, rfl, rfl⟩)
  · simp only [hin, Bool.not_true, Bool.not_false, ite_true, ite_false] at h
    cases h
    exact .inr (.inl ⟨rfl, rfl⟩)

theorem likelyInPhysicalMemory_rolling (t : Tracker) (memoryTrackingEnabled : Bool)
    (th rarelyCount : Nat) (now : Int) (blockSupported blockInMemory : Bool) (data : BitVec 64) :
    (t.likelyInPhysicalMemory memoryTrackingEnabled th rarelyCount now blockSupported
      blockInMemory data).2 = t ∨
    (t.likelyInPhysicalMemory memoryTrackingEnabled th rarelyCount now blockSupported
      blockInMemory data).2 = t.setRolling (rollingIndex data)
        ((t.rolling (rollingIndex data)).access rarelyCount now (regionOf data) (offsetOf data)
          false).2 := by
  unfold likelyInPhysicalMemory
  split
  · exact .inl rfl
  split
  · exact .inl rfl
  · refine .inr ?_
    dsimp only
    split <;> (try split) <;> rfl

theorem likely_of_inCache (hin : (t.caches th).inCache (pageOf data) = true)
    (blockSupported blockInMemory : Bool) :
    (t.likelyInPhysicalMemory memoryTrackingEnabled th rarelyCount now blockSupported
      blockInMemory data).1 = true := by
  cases memoryTrackingEnabled <;> simp [likelyInPhysicalMemory, hin]

theorem likely_of_access
    (hacc : ((t.rolling (rollingIndex data)).access rarelyCount now (regionOf data)
      (offsetOf data) false).1 = true) (blockSupported blockInMemory : Bool) :
    (t.likelyInPhysicalMemory memoryTrackingEnabled th rarelyCount now blockSupported
      blockInMemory data).1 = true := by
  unfold likelyInPhysicalMemory
  split
  · rfl
  split
  · rfl
  · dsimp only
    rw [hacc]
    rfl

end Calls

/-- Every slice of every `Rolling` keeps `Slice.Inv`. -/
def Inv (t : Tracker) : Prop := ∀ i, Rolling.SlicesInv (t.rolling i)

theorem inv_init (now : Int) : Inv (init now) := fun _ => Rolling.slicesInv_init now

section Inv

variable {t t' : Tracker} {memoryTrackingEnabled : Bool} {th rarelyCount : Nat} {now : Int}
  {data : BitVec 64}

theorem Inv.setAccess (ht : Inv t) (hr : regionOf data ≠ 0) (doHalf : Bool) :
    Inv (t.setRolling (rollingIndex data) ((t.rolling (rollingIndex data)).access
      rarelyCount now (regionOf data) (offsetOf data) doHalf).2) := fun j => by
  rw [setRolling_rolling]
  split
  · exact Rolling.access_slicesInv hr (ht _) _ _ _
  · exact ht j

theorem accessed_inv (ht : Inv t) (hr : regionOf data ≠ 0)
    (h : t.accessed memoryTrackingEnabled th rarelyCount now data = .ok t') : Inv t' := by
  rcases accessed_cases h with ⟨-, rfl⟩ | ⟨-, rfl⟩ | ⟨-, sc, -, rfl⟩
  · exact ht
  · exact ht
  · exact ht.setAccess hr true

theorem step_inv (ht : Inv t) {c : Call} (hr : regionOf c.data ≠ 0)
    (h : t.step memoryTrackingEnabled c = .ok t') : Inv t' := by
  cases c with
  | accessed => exact accessed_inv ht hr h
  | likelyInPhysicalMemory th rarelyCount now blockSupported blockInMemory data =>
    cases h
    rcases likelyInPhysicalMemory_rolling t memoryTrackingEnabled th rarelyCount now blockSupported
      blockInMemory data with he | he <;> rw [he]
    · exact ht
    · exact ht.setAccess hr false

/-- **Every run of calls with non-zero regions keeps the invariant.** -/
theorem run_inv {calls : List Call} (hcalls : ∀ c ∈ calls, regionOf c.data ≠ 0)
    (ht : Inv t) (h : t.run memoryTrackingEnabled calls = .ok t') : Inv t' := by
  induction calls generalizing t with
  | nil => cases h; exact ht
  | cons c cs ih =>
    cases hs : t.step memoryTrackingEnabled c with
    | error f => rw [run, hs] at h; cases h
    | ok t₁ =>
      rw [run, hs] at h
      exact ih (fun c hc => hcalls c (List.mem_cons_of_mem _ hc))
        (step_inv ht (hcalls c (List.mem_cons_self _ _)) hs) h

end Inv

end Tracker

/-- From program start, after any run of `accessed` and `likelyInPhysicalMemory` calls from any
threads whose addresses have non-zero regions, every slice of every `Rolling` of `ps::rolling`
keeps the probing invariant (an empty bucket holds no page bits, each stored region sits where
its own probe stops), so no region holds two buckets of a slice. -/
theorem tracking_keeps_one_bucket_per_region (memoryTrackingEnabled : Bool) (now : Int)
    (calls : List Call) (hcalls : ∀ c ∈ calls, regionOf c.data ≠ 0) {t : Tracker}
    (h : (Tracker.init now).run memoryTrackingEnabled calls = .ok t) (i : Fin bigHashSize)
    (p : Fin Ps.numSlices) :
    Ps.Slice.Inv Ps.hash ((t.rolling i).slices p) ∧
      ∀ b c : Fin Ps.sliceSize,
        (((t.rolling i).slices p).data b).region = (((t.rolling i).slices p).data c).region →
        (((t.rolling i).slices p).data b).region ≠ 0 → b = c :=
  have hI := Tracker.run_inv hcalls (Tracker.inv_init now) h i p
  ⟨hI, fun _ _ => hI.unique⟩

theorem tracking_keeps_one_bucket_per_region_two_calls :
    (∀ c ∈ [Call.accessed 0 1 0 0x40000#64, .likelyInPhysicalMemory 1 2 0 true false 0x40000#64],
      regionOf c.data ≠ 0) ∧
      ∃ t, (Tracker.init 0).run true
          [Call.accessed 0 1 0 0x40000#64, .likelyInPhysicalMemory 1 2 0 true false 0x40000#64] =
          .ok t ∧
        ∀ (i : Fin bigHashSize) (p : Fin Ps.numSlices),
          Ps.Slice.Inv Ps.hash ((t.rolling i).slices p) ∧
            ∀ b c : Fin Ps.sliceSize,
              (((t.rolling i).slices p).data b).region = (((t.rolling i).slices p).data c).region →
              (((t.rolling i).slices p).data b).region ≠ 0 → b = c :=
  ⟨by decide, _, rfl, tracking_keeps_one_bucket_per_region true 0
      [Call.accessed 0 1 0 0x40000#64, .likelyInPhysicalMemory 1 2 0 true false 0x40000#64]
      (by decide) rfl⟩

/-- On the thread that called `accessed(data)`, a following `likelyInPhysicalMemory(data)`
answers `true`: the page is in the thread's cache, whether `accessed` found it there or added
it. -/
theorem likely_after_accessed_same_thread {t t' : Tracker} (memoryTrackingEnabled : Bool)
    (th rc₁ rc₂ : Nat) (now₁ now₂ : Int) (blockSupported blockInMemory : Bool) (data : BitVec 64)
    (h : t.accessed memoryTrackingEnabled th rc₁ now₁ data = .ok t') :
    (t'.likelyInPhysicalMemory memoryTrackingEnabled th rc₂ now₂ blockSupported blockInMemory
      data).1 = true := by
  rcases Tracker.accessed_cases h with ⟨rfl, rfl⟩ | ⟨hin, rfl⟩ | ⟨-, sc, hadd, rfl⟩
  · rfl
  · exact Tracker.likely_of_inCache hin _ _
  · exact Tracker.likely_of_inCache (by simpa using SimpleCache.inCache_add hadd) _ _

theorem likely_after_accessed_same_thread_first :
    ∃ t', (Tracker.init 0).accessed true 0 1 0 0x40000#64 = .ok t' ∧
      (t'.likelyInPhysicalMemory true 0 2 0 false false 0x40000#64).1 = true :=
  ⟨_, rfl, likely_after_accessed_same_thread (t := Tracker.init 0) true 0 1 2 0 0 false false _ rfl⟩

/-- After `accessed(data)` on a thread whose cache did not hold the page, with a non-zero
region, `likelyInPhysicalMemory(data)` on any thread answers `true` when its periodic check does
not rotate the region's `Rolling`: `accessed` left the page known there. -/
theorem likely_after_accessed_miss {t t' : Tracker} (memoryTrackingEnabled : Bool)
    (thA thB rc₁ rc₂ : Nat) (now₁ now₂ : Int) (blockSupported blockInMemory : Bool)
    (data : BitVec 64) (hr : regionOf data ≠ 0)
    (hmiss : (t.caches thA).inCache (pageOf data) = false)
    (h : t.accessed memoryTrackingEnabled thA rc₁ now₁ data = .ok t')
    (hcheck : ¬ (rc₂ % 2048 = 0 ∧
      now₂ - (t'.rolling (rollingIndex data)).lastRotate > 1000 * Ps.rotateTimeSecs)) :
    (t'.likelyInPhysicalMemory memoryTrackingEnabled thB rc₂ now₂ blockSupported blockInMemory
      data).1 = true := by
  rcases Tracker.accessed_cases h with ⟨rfl, rfl⟩ | ⟨hin, -⟩ | ⟨-, sc, -, rfl⟩
  · rfl
  · rw [hmiss] at hin
    cases hin
  · apply Tracker.likely_of_access
    simp only [Tracker.setCache_rolling, Tracker.setRolling_rolling, if_pos] at hcheck ⊢
    rw [Rolling.access_of_known (Rolling.access_known hr (offsetOf_lt data) _ _ _ _) hcheck]

theorem likely_after_accessed_miss_other_thread :
    regionOf 0x40000#64 ≠ 0 ∧ ((Tracker.init 0).caches 0).inCache (pageOf 0x40000#64) = false ∧
      ∃ t', (Tracker.init 0).accessed true 0 1 0 0x40000#64 = .ok t' ∧
        ¬ (2 % 2048 = 0 ∧
          0 - (t'.rolling (rollingIndex 0x40000#64)).lastRotate > 1000 * Ps.rotateTimeSecs) ∧
        (t'.likelyInPhysicalMemory true 1 2 0 false false 0x40000#64).1 = true :=
  ⟨by decide, by decide, _, rfl, by decide,
    likely_after_accessed_miss (t := Tracker.init 0) true 0 1 1 2 0 0 false false _ (by decide)
      (by decide) rfl
      (by decide)⟩

structure RecordStats where
  accessesNotInMemory : Nat
  pageFaultExceptionsThrown : Nat
  deriving DecidableEq, Repr

/-- What `_accessing` reads of its client: whether it may throw a `PageFaultException`, and the
elapsed milliseconds of its `CurOp` (`none` without one). -/
structure ClientView where
  allowedToThrowPageFaultException : Bool
  curopElapsedMillis : Option Nat

def RecordStats.noteNotInMemory (s : RecordStats) : RecordStats :=
  { s with accessesNotInMemory := s.accessesNotInMemory + 1 }

def RecordStats.notePageFault (s : RecordStats) : RecordStats :=
  { s with pageFaultExceptionsThrown := s.pageFaultExceptionsThrown + 1 }

namespace Tracker

/-- `Record::_accessing` for the record at `data`, on thread `th`, with the global
`recordStats` and the client's database's (`none` without a database): the tracker
`likelyInPhysicalMemory` leaves, the counters, and whether it throws a `PageFaultException`.
The debug-build `fassert` is left out. -/
def accessing (t : Tracker) (memoryTrackingEnabled : Bool) (th rarelyCount : Nat) (now : Int)
    (blockSupported blockInMemory : Bool) (data : BitVec 64) (client : ClientView)
    (recordStats : RecordStats) (dbStats : Option RecordStats) :
    Tracker × RecordStats × Option RecordStats × Bool :=
  let (likely, t) := t.likelyInPhysicalMemory memoryTrackingEnabled th rarelyCount now
    blockSupported blockInMemory data
  if likely then (t, recordStats, dbStats, false)
  else
    let recordStats := recordStats.noteNotInMemory
    let dbStats := dbStats.map RecordStats.noteNotInMemory
    if !client.allowedToThrowPageFaultException then (t, recordStats, dbStats, false)
    else if client.curopElapsedMillis.any (· > 50) then (t, recordStats, dbStats, false)
    else (t, recordStats.notePageFault, dbStats.map RecordStats.notePageFault, true)

theorem likelyInPhysicalMemory_of_inCache {t : Tracker} {memoryTrackingEnabled : Bool}
    {th rarelyCount : Nat} {now : Int} {data : BitVec 64}
    (hin : (t.caches th).inCache (pageOf data) = true) (blockSupported blockInMemory : Bool) :
    t.likelyInPhysicalMemory memoryTrackingEnabled th rarelyCount now blockSupported
      blockInMemory data = (true, t) := by
  cases memoryTrackingEnabled <;> simp [likelyInPhysicalMemory, hin]

end Tracker

/-- **A record `accessed()` by a thread never faults on that thread.** After
`Record::accessed` on thread `th`, `_accessing` for the same record on the same thread finds the
page in the thread's cache: it changes neither the tracker nor any counter, and throws no
`PageFaultException`, whatever the client and the clock. -/
theorem accessing_after_accessed {t t' : Tracker} (memoryTrackingEnabled : Bool)
    (th rc₁ rc₂ : Nat) (now₁ now₂ : Int) (blockSupported blockInMemory : Bool) (data : BitVec 64)
    (client : ClientView) (recordStats : RecordStats) (dbStats : Option RecordStats)
    (h : t.accessed memoryTrackingEnabled th rc₁ now₁ data = .ok t') :
    t'.accessing memoryTrackingEnabled th rc₂ now₂ blockSupported blockInMemory data client
      recordStats dbStats = (t', recordStats, dbStats, false) := by
  have hlikely : t'.likelyInPhysicalMemory memoryTrackingEnabled th rc₂ now₂ blockSupported
      blockInMemory data = (true, t') := by
    rcases Tracker.accessed_cases h with ⟨rfl, rfl⟩ | ⟨hin, rfl⟩ | ⟨-, sc, hadd, rfl⟩
    · rfl
    · exact Tracker.likelyInPhysicalMemory_of_inCache hin _ _
    · exact Tracker.likelyInPhysicalMemory_of_inCache
        (by simpa using SimpleCache.inCache_add hadd) _ _
  simp only [Tracker.accessing, hlikely, if_true]

theorem accessing_after_accessed_first :
    ∃ t', (Tracker.init 0).accessed true 0 1 0 0x40000#64 = .ok t' ∧
      t'.accessing true 0 2 60000 true false 0x40000#64 ⟨true, some 10⟩ ⟨0, 0⟩ none =
        (t', ⟨0, 0⟩, none, false) :=
  ⟨_, rfl, accessing_after_accessed (t := Tracker.init 0) true 0 1 2 0 60000 true false _
    ⟨true, some 10⟩ ⟨0, 0⟩ none rfl⟩

end Normous.Record.Tracking
