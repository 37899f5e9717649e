import Normous.Record.Slice

/-!
# `ps::Rolling`: ten time slices and `access`

A `Rolling` holds `NumSlices` slices; `_curSlice` is the newest. `access` looks the page up in
the slices from `_curSlice` on (the first half only when `doHalf`), returns `true` at the first
slice that has the page, and at the first slice that has only its region sets the page's bit
there and returns `false`. A page in no slice goes into the current slice, after a rotation
when that slice's probe chain is full. Every 2048th call, counted by a `rarely_count` shared by
all `Rolling`s, also rotates when `RotateTimeSecs` have passed. The mutex and the `RARELY`
warning are left out; the clock is one reading `now` per call.

Every path of `access` leaves its page `Known`, found by a scan that changes nothing
(`access_known`), and every path with a non-zero region keeps each slice's `Slice.Inv`
(`access_slicesInv`).
-/

namespace Normous.Record.Ps


def numSlices : Nat := 10

def rotateTimeSecs : Int := 90

/-- `ps::Rolling`, without its mutex. -/
structure Rolling where
  curSlice : Fin numSlices
  lastRotate : Int
  slices : Fin numSlices → Slice

namespace Rolling

/-- The constructor, at clock reading `now`: every slice reset. -/
def init (now : Int) : Rolling := ⟨⟨0, by decide⟩, now, fun _ => Slice.reset⟩

/-- A write of one slice. -/
def setSlice (s : Rolling) (pos : Fin numSlices) (slice : Slice) : Rolling :=
  { s with slices := fun p => if p = pos then slice else s.slices p }

@[simp] theorem setSlice_curSlice (s : Rolling) (pos : Fin numSlices) (slice : Slice) :
    (s.setSlice pos slice).curSlice = s.curSlice := rfl

@[simp] theorem setSlice_slices (s : Rolling) (pos p : Fin numSlices) (slice : Slice) :
    (s.setSlice pos slice).slices p = if p = pos then slice else s.slices p := rfl

/-- `Rolling::_rotate` at clock reading `now`. -/
def rotate (s : Rolling) (now : Int) : Rolling :=
  let cur : Fin numSlices := ⟨(s.curSlice.val + 1) % numSlices, Nat.mod_lt _ (by decide)⟩
  { curSlice := cur
    lastRotate := now
    slices := fun p => if p = cur then Slice.reset else s.slices p }

@[simp] theorem rotate_slices_cur (s : Rolling) (now : Int) :
    (s.rotate now).slices (s.rotate now).curSlice = Slice.reset := by
  simp [rotate]

/-- Slice `(_curSlice + i) % NumSlices`. -/
def slicePos (s : Rolling) (i : Nat) : Fin numSlices :=
  ⟨(s.curSlice.val + i) % numSlices, Nat.mod_lt _ (by decide)⟩

theorem slicePos_zero (s : Rolling) : s.slicePos 0 = s.curSlice :=
  Fin.ext (Nat.mod_eq_of_lt s.curSlice.isLt)

/-- The scan loop of `access` over `i` in `is`; `some` is a return from `access`. -/
def scan (s : Rolling) (regionHash : Nat) (region : BitVec 64) (offset : Nat) :
    List Nat → Option (Bool × Rolling)
  | [] => none
  | i :: is =>
    let pos := s.slicePos i
    match (s.slices pos).get regionHash region offset with
    | .In => some (true, s)
    | .Out => some (false, s.setSlice pos ((s.slices pos).«in» regionHash region offset).2)
    | .Unk => s.scan regionHash region offset is

/-- `Rolling::access`. `rarelyCount` is the value of the static `rarely_count` at this call. -/
def access (s : Rolling) (rarelyCount : Nat) (now : Int) (region : BitVec 64) (offset : Nat)
    (doHalf : Bool) : Bool × Rolling :=
  let regionHash := hash region
  let s :=
    if rarelyCount % 2048 = 0 ∧ now - s.lastRotate > 1000 * rotateTimeSecs then s.rotate now
    else s
  match s.scan regionHash region offset (List.range (numSlices / if doHalf then 2 else 1)) with
  | some result => result
  | none =>
    let (added, cur) := (s.slices s.curSlice).«in» regionHash region offset
    let s := s.setSlice s.curSlice cur
    if !added then
      let s := s.rotate now
      (false, s.setSlice s.curSlice ((s.slices s.curSlice).«in» regionHash region offset).2)
    else (false, s)

section Scan

variable {regionHash : Nat} {region : BitVec 64} {offset : Nat}

theorem scan_append (s : Rolling) (is js : List Nat) :
    s.scan regionHash region offset (is ++ js) =
      (s.scan regionHash region offset is).or (s.scan regionHash region offset js) := by
  induction is with
  | nil => rfl
  | cons i is ih =>
    simp only [List.cons_append, scan]
    split <;> simp_all

theorem scan_true {s s' : Rolling} {is : List Nat}
    (h : s.scan regionHash region offset is = some (true, s')) : s' = s := by
  induction is with
  | nil => cases h
  | cons i is ih =>
    simp only [scan] at h
    split at h
    · exact (Prod.mk.inj (Option.some.inj h)).2.symm
    · cases h
    · exact ih h

theorem scan_curSlice {s s' : Rolling} {is : List Nat} {b : Bool}
    (h : s.scan regionHash region offset is = some (b, s')) : s'.curSlice = s.curSlice := by
  induction is with
  | nil => cases h
  | cons i is ih =>
    simp only [scan] at h
    split at h <;> first | exact ih h | (cases h; rfl)

theorem scan_frame {s s' : Rolling} {is : List Nat} {b : Bool}
    (h : s.scan regionHash region offset is = some (b, s')) {q : Fin numSlices}
    (hq : (s.slices q).get regionHash region offset = .Unk) : s'.slices q = s.slices q := by
  induction is with
  | nil => cases h
  | cons i is ih =>
    simp only [scan] at h
    split at h
    · cases h; rfl
    · rename_i hout
      cases h
      have : q ≠ s.slicePos i := fun e => by rw [e, hout] at hq; cases hq
      simp [this]
    · exact ih h

/-- **A scan that set the page's bit finds the page when it runs again.** -/
theorem scan_false (hr : region ≠ 0) (ho : offset < 64) {s s' : Rolling} {is : List Nat}
    (h : s.scan regionHash region offset is = some (false, s')) :
    s'.scan regionHash region offset is = some (true, s') := by
  induction is with
  | nil => cases h
  | cons i is ih =>
    have hs := h
    simp only [scan] at h
    split at h
    · cases h
    · rename_i hout
      cases h
      have hadd := Slice.in_of_get_ne_unk (s := s.slices (s.slicePos i)) (by rw [hout]; simp)
      have hpos : (s.setSlice (s.slicePos i) ((s.slices (s.slicePos i)).«in» regionHash region
        offset).2).slicePos i = s.slicePos i := rfl
      simp only [scan, hpos, setSlice_slices, eq_self_iff_true, ite_true,
        Slice.get_in_self hr ho hadd]
    · rename_i hunk
      have hpos : s'.slicePos i = s.slicePos i := by simp [slicePos, scan_curSlice h]
      rw [scan, hpos, scan_frame h hunk, hunk]
      exact ih h

end Scan

/-- A scan of all slices, as an `access` without `doHalf` runs it, answers `true` for the page
and changes nothing. -/
def Known (s : Rolling) (region : BitVec 64) (offset : Nat) : Prop :=
  s.scan (hash region) region offset (List.range numSlices) = some (true, s)

section Known

variable {region : BitVec 64} {offset : Nat}

theorem range_window (doHalf : Bool) :
    ∃ rest, List.range numSlices = List.range (numSlices / if doHalf then 2 else 1) ++ rest := by
  cases doHalf
  · exact ⟨[], by simp⟩
  · exact ⟨[5, 6, 7, 8, 9], rfl⟩

theorem known_of_window {s : Rolling} (doHalf : Bool)
    (h : s.scan (hash region) region offset
      (List.range (numSlices / if doHalf then 2 else 1)) = some (true, s)) :
    Known s region offset := by
  obtain ⟨rest, hrest⟩ := range_window doHalf
  rw [Known, hrest, scan_append, h]
  rfl

theorem known_of_cur {s : Rolling}
    (h : (s.slices s.curSlice).get (hash region) region offset = .In) :
    Known s region offset := by
  rw [Known, show numSlices = 9 + 1 from rfl, List.range_succ_eq_map]
  simp only [scan, slicePos_zero, h]

theorem known_setSlice_cur (hr : region ≠ 0) (ho : offset < 64) (s : Rolling)
    (hadd : ((s.slices s.curSlice).«in» (hash region) region offset).1 = true) :
    Known (s.setSlice s.curSlice
      ((s.slices s.curSlice).«in» (hash region) region offset).2) region offset :=
  known_of_cur (by simpa using Slice.get_in_self hr ho hadd)

/-- **Every path of `access` leaves its page known.** Found `In`, found `Out` and marked,
added to the current slice, or added after a rotation. -/
theorem access_known (hr : region ≠ 0) (ho : offset < 64) (s : Rolling) (rarelyCount : Nat)
    (now : Int) (doHalf : Bool) :
    Known (s.access rarelyCount now region offset doHalf).2 region offset := by
  dsimp only [access]
  generalize (if rarelyCount % 2048 = 0 ∧ now - s.lastRotate > 1000 * rotateTimeSecs then
    s.rotate now else s) = s
  split
  · rename_i result hsc
    obtain ⟨_ | _, s'⟩ := result
    · exact known_of_window doHalf (scan_false hr ho hsc)
    · cases scan_true hsc
      exact known_of_window doHalf hsc
  · cases hin : (s.slices s.curSlice).«in» (hash region) region offset with
    | mk added cur =>
      cases added
      · exact known_setSlice_cur hr ho _ (by rw [rotate_slices_cur]; exact Slice.in_reset _ _ _)
      · have := known_setSlice_cur hr ho s (by rw [hin])
        rwa [hin] at this

theorem access_of_known {s : Rolling} (hk : Known s region offset) {rarelyCount : Nat}
    {now : Int} (hcheck : ¬ (rarelyCount % 2048 = 0 ∧ now - s.lastRotate > 1000 * rotateTimeSecs)) :
    s.access rarelyCount now region offset false = (true, s) := by
  dsimp only [access]
  rw [if_neg hcheck, show (numSlices / if false = true then 2 else 1) = numSlices from rfl]
  rw [Known] at hk
  rw [hk]

end Known

/-- Every slice keeps `Slice.Inv`: empty buckets hold no bits, and each stored region is where
its own probe stops, so it has one bucket. -/
def SlicesInv (s : Rolling) : Prop := ∀ p, Slice.Inv hash (s.slices p)

section SlicesInv

variable {region : BitVec 64} {offset : Nat}

theorem slicesInv_init (now : Int) : SlicesInv (init now) := fun _ => Slice.inv_reset hash

theorem SlicesInv.setSlice {s : Rolling} (hs : SlicesInv s) {pos : Fin numSlices} {slice : Slice}
    (h : Slice.Inv hash slice) : SlicesInv (s.setSlice pos slice) := fun p => by
  rw [setSlice_slices]
  split
  · exact h
  · exact hs p

theorem SlicesInv.rotate {s : Rolling} (hs : SlicesInv s) (now : Int) : SlicesInv (s.rotate now) :=
  fun p => by
    simp only [Rolling.rotate]
    split
    · exact Slice.inv_reset hash
    · exact hs p

theorem SlicesInv.setIn {s : Rolling} (hs : SlicesInv s) (hr : region ≠ 0) (pos : Fin numSlices) :
    SlicesInv (s.setSlice pos ((s.slices pos).«in» (hash region) region offset).2) :=
  hs.setSlice (Slice.in_step (hs pos) hr offset).1

theorem scan_slicesInv (hr : region ≠ 0) {s s' : Rolling} {is : List Nat} {b : Bool}
    (hs : SlicesInv s) (h : s.scan (hash region) region offset is = some (b, s')) :
    SlicesInv s' := by
  induction is with
  | nil => cases h
  | cons i is ih =>
    simp only [scan] at h
    split at h
    · cases h
      exact hs
    · cases h
      exact hs.setIn hr _
    · exact ih h

/-- **`access` with a non-zero region keeps every slice's invariant**, on every path. -/
theorem access_slicesInv (hr : region ≠ 0) {s : Rolling} (hs : SlicesInv s) (rarelyCount : Nat)
    (now : Int) (doHalf : Bool) : SlicesInv (s.access rarelyCount now region offset doHalf).2 := by
  dsimp only [access]
  have hs' : SlicesInv (if rarelyCount % 2048 = 0 ∧ now - s.lastRotate > 1000 * rotateTimeSecs then
      s.rotate now else s) := by
    split
    · exact hs.rotate now
    · exact hs
  generalize (if rarelyCount % 2048 = 0 ∧ now - s.lastRotate > 1000 * rotateTimeSecs then
    s.rotate now else s) = s at hs' ⊢
  split
  · rename_i result hsc
    exact scan_slicesInv hr hs' hsc
  · have hcur : SlicesInv (s.setSlice s.curSlice
        ((s.slices s.curSlice).«in» (hash region) region offset).2) := hs'.setIn hr _
    cases hin : (s.slices s.curSlice).«in» (hash region) region offset with
    | mk added cur =>
      rw [hin] at hcur
      cases added
      · exact (hcur.rotate now).setIn hr _
      · exact hcur

end SlicesInv

/-- After `access region offset doHalf` with a non-zero region and an offset below 64, from any
state and on every path, an `access region offset false` whose periodic check does not rotate
returns `true`. -/
theorem access_then_access_true (s : Rolling) (rc₁ rc₂ : Nat) (now₁ now₂ : Int)
    (region : BitVec 64) (offset : Nat) (doHalf : Bool) (hr : region ≠ 0) (ho : offset < 64)
    (hcheck : ¬ (rc₂ % 2048 = 0 ∧
      now₂ - (s.access rc₁ now₁ region offset doHalf).2.lastRotate > 1000 * rotateTimeSecs)) :
    ((s.access rc₁ now₁ region offset doHalf).2.access rc₂ now₂ region offset false).1 = true := by
  rw [access_of_known (access_known hr ho s rc₁ now₁ doHalf) hcheck]

theorem access_then_access_true_fresh :
    (((Rolling.init 0).access 1 0 1 0 true).2.access 2 0 1 0 false).1 = true :=
  access_then_access_true _ _ _ _ _ _ _ _ (by decide) (by decide) (by decide)

end Rolling

end Normous.Record.Ps
