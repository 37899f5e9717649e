import Mathlib.Data.Finset.Card
import Normous.Query.DateTime

/-!
# `runCount`: the loop of the count command

For a non-empty query `runCount` walks a cursor and counts its positions: every position on a
simple equality match, otherwise the matching positions whose record `getsetdup` has not
reported before. It passes over the first `skip` counted positions and stops at `|limit|` when
the limit is not zero, made positive by the `long long` negation `limit = -limit`.

The cursor is its list of positions (`currentMatches`, `currLoc`). `Cursor::getsetdup` is not in
the sources: it is the set of locations asked about, and reports a duplicate exactly for one
asked before. `intervalHasElapsed` and `yieldSometimes` are oracles. A signed overflow, which is
undefined behaviour, makes the result `none`; exceptions from the cursor are left out.

`runCount_count`: the count is `expectedCount` except where a `long long` overflows.
-/

namespace Normous.Ops.Count

open Normous.Query.DateTime (llongMin llongMax)

/-- A position of the cursor: what `currentMatches` and `currLoc` answer there. -/
structure Position (Loc : Type) where
  currentMatches : Bool
  currLoc : Loc

structure LoopState (Loc : Type) where
  count : Int
  skip : Int
  /-- The locations the cursor's `getsetdup` has been asked about. -/
  dups : List Loc
  /-- `ccPointer` holds a `ClientCursor`. -/
  holder : Bool

section Loop

variable {Loc : Type} [DecidableEq Loc]

def incLongLong (x : Int) : Option Int := if x + 1 ≤ llongMax then some (x + 1) else none

def negLongLong (x : Int) : Option Int :=
  if llongMin ≤ -x ∧ -x ≤ llongMax then some (-x) else none

/-- `if (limit < 0) limit = -limit;`. -/
def negateLimit (limit : Int) : Option Int :=
  if limit < 0 then negLongLong limit else some limit

/-- `Cursor::getsetdup(loc)`: whether `loc` was asked about before; it is recorded. The cursor
classes are not in the sources; this is the contract the count loop relies on. -/
def getsetdup (dups : List Loc) (loc : Loc) : Bool × List Loc :=
  if loc ∈ dups then (true, dups) else (false, loc :: dups)

/-- The test `simpleEqualityMatch || (currentMatches() && !getsetdup(currLoc()))`, with the
locations recorded after it. -/
def countsAt (simpleEqualityMatch : Bool) (dups : List Loc) (p : Position Loc) :
    Bool × List Loc :=
  if simpleEqualityMatch then (true, dups)
  else if p.currentMatches then
    let (seen, dups) := getsetdup dups p.currLoc
    (!seen, dups)
  else (false, dups)

def countStep (simpleEqualityMatch : Bool) (limit : Int) (st : LoopState Loc)
    (p : Position Loc) : Option (Int ⊕ LoopState Loc) :=
  let (counted, dups) := countsAt simpleEqualityMatch st.dups p
  let st := { st with dups := dups }
  if counted then
    if st.skip > 0 then some (.inr { st with skip := st.skip - 1 })
    else (incLongLong st.count).map fun count =>
      if limit > 0 ∧ count ≥ limit then .inl count else .inr { st with count := count }
  else some (.inr st)

/-- The `while (cursor->ok())` loop from pass `i`. `intervalHasElapsed i` and `yieldSometimes i`
are what the tracker and the client cursor answer at that pass; `cursor->ok()` after a yield
holds, the cursor still being at its position. -/
def countLoop (simpleEqualityMatch : Bool) (limit : Int)
    (intervalHasElapsed yieldSometimes : Nat → Bool) :
    Nat → LoopState Loc → List (Position Loc) → Option Int
  | _, st, [] => some st.count
  | i, st, p :: ps =>
    let body (st : LoopState Loc) : Option Int :=
      match countStep simpleEqualityMatch limit st p with
      | none => none
      | some (.inl count) => some count
      | some (.inr st) =>
        countLoop simpleEqualityMatch limit intervalHasElapsed yieldSometimes (i + 1) st ps
    if !st.holder then body (if intervalHasElapsed i then { st with holder := true } else st)
    else if !yieldSometimes i then some st.count
    else body st

/-- `runCount`. `applySkipLimit` is what that function returns for an empty query; `none` is
undefined behaviour. The second component is what `runCount` writes to `err`, if anything. -/
def runCount (nsExists queryIsEmpty : Bool) (applySkipLimit : Int) (simpleEqualityMatch : Bool)
    (cursor : List (Position Loc)) (skip limit : Int)
    (intervalHasElapsed yieldSometimes : Nat → Bool) : Option (Int × Option String) :=
  if !nsExists then some (-1, some "ns missing")
  else if queryIsEmpty then some (applySkipLimit, none)
  else do
    let limit ← negateLimit limit
    let count ← countLoop simpleEqualityMatch limit intervalHasElapsed yieldSometimes 0
      ⟨0, skip, [], false⟩ cursor
    pure (count, none)

def countedFrom (simpleEqualityMatch : Bool) : List Loc → List (Position Loc) → Nat
  | _, [] => 0
  | dups, p :: ps =>
    countedFrom simpleEqualityMatch (countsAt simpleEqualityMatch dups p).2 ps +
      if (countsAt simpleEqualityMatch dups p).1 then 1 else 0

/-- The loop's result from count `c` and skip `s` with `k` positions left to count, for a
limit made non-negative. -/
def loopResult (c s : Int) (k : Nat) (limit : Int) : Option Int :=
  if 0 < limit then some (min (c + max ((k : Int) - max s 0) 0) limit)
  else if c + max ((k : Int) - max s 0) 0 ≤ llongMax then some (c + max ((k : Int) - max s 0) 0)
  else none

section Result

variable {c s limit : Int} {k : Nat}

theorem loopResult_nil (hc : c ≤ llongMax) (hcl : 0 < limit → c < limit) :
    loopResult c s 0 limit = some c := by
  unfold loopResult
  split
  · rw [show min (c + max (((0 : Nat) : Int) - max s 0) 0) limit = c by omega]
  · rw [if_pos (by omega), show c + max (((0 : Nat) : Int) - max s 0) 0 = c by omega]

theorem loopResult_skip (hs : 0 < s) :
    loopResult c s (k + 1) limit = loopResult c (s - 1) k limit := by
  unfold loopResult
  rw [show c + max (((k + 1 : Nat) : Int) - max s 0) 0 = c + max ((k : Int) - max (s - 1) 0) 0 by
    omega]

theorem loopResult_count (hs : s ≤ 0) :
    loopResult c s (k + 1) limit = loopResult (c + 1) s k limit := by
  unfold loopResult
  rw [show c + max (((k + 1 : Nat) : Int) - max s 0) 0 = c + 1 + max ((k : Int) - max s 0) 0 by
    omega]

theorem loopResult_break (hs : s ≤ 0) (hc : 0 ≤ c) (hcl : c < limit) (hl : limit ≤ c + 1) :
    loopResult c s (k + 1) limit = some (c + 1) := by
  unfold loopResult
  rw [if_pos (by omega), show min (c + max (((k + 1 : Nat) : Int) - max s 0) 0) limit = c + 1 by
    omega]

theorem loopResult_overflow (hs : s ≤ 0) (hl : limit ≤ 0) (hc : llongMax < c + 1) :
    loopResult c s (k + 1) limit = none := by
  unfold loopResult
  rw [if_neg (by omega), if_neg (by omega)]

end Result

section Run

variable {simpleEqualityMatch : Bool} {limit : Int} {intervalHasElapsed yieldSometimes : Nat → Bool}

theorem countLoop_cons (hyield : ∀ i, yieldSometimes i = true) (i : Nat) (st : LoopState Loc)
    (p : Position Loc) (ps : List (Position Loc)) :
    ∃ holder, countLoop simpleEqualityMatch limit intervalHasElapsed yieldSometimes i st (p :: ps) =
      match countStep simpleEqualityMatch limit { st with holder := holder } p with
      | none => none
      | some (.inl count) => some count
      | some (.inr st) =>
        countLoop simpleEqualityMatch limit intervalHasElapsed yieldSometimes (i + 1) st ps := by
  obtain ⟨count, skip, dups, holder⟩ := st
  rw [countLoop]
  cases holder
  · cases intervalHasElapsed i
    · exact ⟨false, rfl⟩
    · exact ⟨true, rfl⟩
  · exact ⟨true, by rw [hyield i]; rfl⟩

/-- **The loop's result from any state**, with every yield succeeding and a non-negative limit
that fits a `long long`. -/
theorem countLoop_eq (hyield : ∀ i, yieldSometimes i = true) (hl : limit ≤ llongMax) :
    ∀ (ps : List (Position Loc)) (i : Nat) (st : LoopState Loc), 0 ≤ st.count →
      st.count ≤ llongMax → (0 < limit → st.count < limit) →
      countLoop simpleEqualityMatch limit intervalHasElapsed yieldSometimes i st ps =
        loopResult st.count st.skip (countedFrom simpleEqualityMatch st.dups ps) limit
  | [], _, _, _, hc, hcl => (loopResult_nil hc hcl).symm
  | p :: ps, i, st, hc₀, hc, hcl => by
    obtain ⟨holder, h⟩ := countLoop_cons hyield i st p ps
    rw [h, countedFrom]
    unfold countStep
    generalize countsAt simpleEqualityMatch st.dups p = ct
    obtain ⟨counted, dups⟩ := ct
    cases counted
    · exact countLoop_eq hyield hl ps (i + 1) _ hc₀ hc hcl
    simp only [eq_self_iff_true, if_true]
    by_cases hs : st.skip > 0
    · rw [if_pos hs]
      dsimp only
      rw [countLoop_eq hyield hl ps (i + 1)
        { st with skip := st.skip - 1, dups := dups, holder := holder } hc₀ hc hcl]
      exact (loopResult_skip hs).symm
    rw [if_neg hs]
    by_cases hov : st.count + 1 ≤ llongMax
    · rw [incLongLong, if_pos hov, Option.map_some']
      by_cases hbrk : limit > 0 ∧ st.count + 1 ≥ limit
      · rw [if_pos hbrk]
        exact (loopResult_break (by omega) hc₀ (hcl hbrk.1) hbrk.2).symm
      · rw [if_neg hbrk]
        dsimp only
        rw [countLoop_eq hyield hl ps (i + 1)
          { st with count := st.count + 1, dups := dups, holder := holder } (by dsimp only; omega)
          hov fun hl₀ => by have := hcl hl₀; dsimp only; omega]
        exact (loopResult_count (by dsimp only; omega)).symm
    · rw [incLongLong, if_neg hov]
      exact (loopResult_overflow (by omega)
        (Int.not_lt.mp fun hl₀ => hov (by have := hcl hl₀; omega)) (by omega)).symm

end Run

end Loop

section Expected

variable {Loc : Type} [DecidableEq Loc]

/-- The positions the count command counts: every position on the simple-equality path,
otherwise the distinct locations of the matching positions. -/
def countedPositions (simpleEqualityMatch : Bool) (cursor : List (Position Loc)) : Nat :=
  if simpleEqualityMatch then cursor.length
  else ((cursor.filter (·.currentMatches)).map (·.currLoc)).toFinset.card

/-- The count the count command should return: `max(m - max(skip, 0), 0)` for `m` counted
positions, capped at `|limit|` when the limit is not zero. -/
def expectedCount (simpleEqualityMatch : Bool) (cursor : List (Position Loc)) (skip limit : Int) :
    Int :=
  if limit = 0 then max ((countedPositions simpleEqualityMatch cursor : Int) - max skip 0) 0
  else min (max ((countedPositions simpleEqualityMatch cursor : Int) - max skip 0) 0) limit.natAbs

theorem countedFrom_false (dups : List Loc) (cursor : List (Position Loc)) :
    countedFrom false dups cursor =
      (((cursor.filter (·.currentMatches)).map (·.currLoc)).toFinset \ dups.toFinset).card := by
  induction cursor generalizing dups with
  | nil => simp [countedFrom]
  | cons p ps ih =>
    by_cases hm : p.currentMatches
    · have hS : ((p :: ps).filter (·.currentMatches)).map (·.currLoc) =
          p.currLoc :: (ps.filter (·.currentMatches)).map (·.currLoc) := by
        simp [List.filter_cons, hm]
      rw [hS, List.toFinset_cons]
      by_cases hd : p.currLoc ∈ dups
      · rw [Finset.insert_sdiff_of_mem _ (List.mem_toFinset.mpr hd), ← ih]
        simp [countedFrom, countsAt, getsetdup, hm, hd]
      · rw [Finset.insert_sdiff_of_not_mem _ (mt List.mem_toFinset.mp hd),
          Finset.card_insert_eq_ite]
        have hstep : countedFrom false dups (p :: ps) =
            countedFrom false (p.currLoc :: dups) ps + 1 := by
          simp [countedFrom, countsAt, getsetdup, hm, hd]
        rw [hstep, ih, List.toFinset_cons, Finset.sdiff_insert]
        split
        · rw [Finset.card_erase_add_one ‹_›]
        · rw [Finset.erase_eq_of_not_mem ‹_›]
    · have hS : ((p :: ps).filter (·.currentMatches)).map (·.currLoc) =
          (ps.filter (·.currentMatches)).map (·.currLoc) := by
        simp [List.filter_cons, hm]
      rw [hS, ← ih]
      simp [countedFrom, countsAt, hm]

theorem countedFrom_true (dups : List Loc) (cursor : List (Position Loc)) :
    countedFrom true dups cursor = cursor.length := by
  induction cursor generalizing dups with
  | nil => rfl
  | cons p ps ih => simp [countedFrom, countsAt, ih]

theorem countedPositions_eq (simpleEqualityMatch : Bool) (cursor : List (Position Loc)) :
    countedPositions simpleEqualityMatch cursor = countedFrom simpleEqualityMatch [] cursor := by
  cases simpleEqualityMatch
  · simp [countedPositions, countedFrom_false]
  · simp [countedPositions, countedFrom_true]

theorem negateLimit_eq {limit : Int} (hlimit : llongMin < limit ∧ limit ≤ llongMax) :
    negateLimit limit = some (limit.natAbs : Int) := by
  unfold negateLimit negLongLong
  unfold llongMin llongMax at hlimit
  split
  · rw [if_pos (by unfold llongMin llongMax; omega)]
    congr 1
    omega
  · congr 1
    omega

/-- **The count of `runCount`.** For a namespace that exists, a non-empty query, every cursor,
skip and 64-bit limit, and runs in which every yield succeeds, `runCount` returns the expected
count, except where the code overflows a `long long`, which is undefined behaviour:
`limit = -limit` for `limit = LLONG_MIN`, and `++count` when, with no limit, more than `LLONG_MAX`
counted positions follow the skipped ones. -/
theorem runCount_count (applySkipLimit : Int) (simpleEqualityMatch : Bool)
    (cursor : List (Position Loc)) (skip limit : Int)
    (intervalHasElapsed yieldSometimes : Nat → Bool) (hlimit : llongMin ≤ limit ∧ limit ≤ llongMax)
    (hyield : ∀ i, yieldSometimes i = true) :
    runCount true false applySkipLimit simpleEqualityMatch cursor skip limit intervalHasElapsed
        yieldSometimes =
      if limit = llongMin ∨ llongMax < expectedCount simpleEqualityMatch cursor skip limit then none
      else some (expectedCount simpleEqualityMatch cursor skip limit, none) := by
  unfold runCount
  simp only [Bool.not_true, Bool.false_eq_true, ite_false]
  by_cases hmin : limit = llongMin
  · subst hmin
    rw [if_pos (Or.inl rfl)]
    rfl
  have hlo : llongMin < limit := lt_of_le_of_ne hlimit.1 (Ne.symm hmin)
  rw [negateLimit_eq ⟨hlo, hlimit.2⟩, Option.bind_eq_bind, Option.some_bind,
    countLoop_eq hyield (by unfold llongMin llongMax at *; omega) cursor 0
      (⟨0, skip, [], false⟩ : LoopState Loc) (Int.le_refl 0)
      (show (0 : Int) ≤ llongMax by decide) id, ← countedPositions_eq]
  unfold loopResult expectedCount
  generalize (countedPositions simpleEqualityMatch cursor : Int) = m
  unfold llongMin llongMax at *
  simp only [Int.zero_add]
  by_cases h0 : limit = 0
  · -- no limit: the count is uncapped, and `++count` may overflow
    subst h0
    rw [if_neg (by decide), if_pos rfl]
    by_cases hA : max (m - max skip 0) 0 ≤ 9223372036854775807
    · rw [if_pos hA, if_neg (by omega)]
      rfl
    · rw [if_neg hA, if_pos (Or.inr (by omega))]
      rfl
  · -- the count is capped at `|limit|`, which fits a `long long`
    rw [if_pos (by omega), if_neg h0, if_neg (by omega)]
    rfl

theorem runCount_count_llongMin :
    (llongMin ≤ llongMin ∧ llongMin ≤ llongMax) ∧ (∀ i : Nat, (fun _ => true : Nat → Bool) i = true) ∧
      runCount true false 0 false ([] : List (Position Nat)) 0 llongMin (fun _ => false)
          (fun _ => true) =
        if llongMin = llongMin ∨ llongMax < expectedCount false ([] : List (Position Nat)) 0 llongMin
        then none
        else some (expectedCount false ([] : List (Position Nat)) 0 llongMin, none) :=
  ⟨by decide, fun _ => rfl, runCount_count 0 false [] 0 llongMin _ _ (by decide) fun _ => rfl⟩

/-- Three matching positions on two distinct locations, one skipped, limit `-5`: one counted. -/
example : runCount true false 0 false [⟨true, 1⟩, ⟨true, 1⟩, ⟨false, 2⟩, ⟨true, 3⟩] 1 (-5)
    (fun _ => false) (fun _ => true) = some (1, none) := by decide

end Expected

end Normous.Ops.Count
