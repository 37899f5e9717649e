/-!
# `ps::Slice`: one time slice of the page-residency map

A `Slice` is a 1024-bucket open-addressing table from a 64-page region to a 64-bit mask of
pages. `_get` probes at most `MaxChain` buckets from the region's hash: an empty bucket (region
`0`) ends the chain and is claimed when adding, a bucket of the region is returned. Nothing is
deleted; `reset` clears the table. `getBucket_eq` says `_get` in terms of `findSlot`, the bucket
the probe stops at, and every later proof goes through it.

Over calls with non-zero regions the table keeps `Inv` (every stored region is the first stop of
its own probe, empty buckets have no bits), and `get` answers from `marks`, which `in` updates
as a map from region to mask (`in_step`). Region `0` is also the sentinel: `in (hash 0) 0 o`
returns `true` and `get` then answers `Unk`. `ps::hash` multiplies in `int`; `hash_int_overflow`
says when that overflows, which is undefined, and that `hash` agrees with the C++ rules elsewhere.
-/

namespace Normous.Record.Ps

inductive State where
  | In
  | Out
  | Unk
  deriving DecidableEq, Repr

def sliceSize : Nat := 1024

def maxChain : Nat := 20

/-- `int` arithmetic as the compiled code does it: two's complement, 32 bits. -/
def wrapInt (x : Int) : Int := x.bmod 4294967296

/-- `ps::hash` on a 64-bit build: the product of the four 16-bit slices of the region, each
plus a small prime, in `int`, then `abs` of the truncating `% SliceSize`. -/
def hash (region : BitVec 64) : Nat :=
  let part (k : Nat) : Int := ((region >>> k) &&& 0xFFFF).toNat
  let product :=
    wrapInt (wrapInt (wrapInt ((7 + part 0) * (11 + part 16)) * (13 + part 32)) * (17 + part 48))
  (product.tmod sliceSize).natAbs

def hashPart (region : BitVec 64) (k : Nat) : Int := ((region >>> k) &&& 0xFFFF).toNat

def hashProduct (region : BitVec 64) : Int :=
  (7 + hashPart region 0) * (11 + hashPart region 16) * (13 + hashPart region 32) *
    (17 + hashPart region 48)

/-- `int` multiplication as C++ defines it: `none` when the product leaves the 32-bit range,
which is undefined behaviour. -/
def mulInt (a b : Int) : Option Int :=
  if -2147483648 ≤ a * b ∧ a * b ≤ 2147483647 then some (a * b) else none

/-- `ps::hash` under the C++ rules: `none` when one of its three `int` products overflows. -/
def hashChecked (region : BitVec 64) : Option Nat := do
  let p ← mulInt (7 + hashPart region 0) (11 + hashPart region 16)
  let p ← mulInt p (13 + hashPart region 32)
  let p ← mulInt p (17 + hashPart region 48)
  pure (p.tmod sliceSize).natAbs

theorem mulInt_of_le {a b : Int} (h₁ : -2147483648 ≤ a * b) (h₂ : a * b ≤ 2147483647) :
    mulInt a b = some (a * b) := if_pos ⟨h₁, h₂⟩

theorem mulInt_of_gt {a b : Int} (h : 2147483647 < a * b) : mulInt a b = none :=
  if_neg fun h' => by omega

theorem wrapInt_of_range {x : Int} (h₁ : -2147483648 ≤ x) (h₂ : x ≤ 2147483647) :
    wrapInt x = x := by
  rw [wrapInt, Int.bmod_def]
  split <;> omega

/-- Where none of the three products of `ps::hash` leaves the `int` range, that is exactly
when the whole product is at most `INT_MAX`, the hash is the wrapping `hash`. Past `INT_MAX`
the code multiplies with signed overflow. -/
theorem hash_int_overflow (region : BitVec 64) :
    (hashChecked region = none ↔ 2147483647 < hashProduct region) ∧
      (hashProduct region ≤ 2147483647 → hashChecked region = some (hash region)) := by
  have hhash : hash region = ((wrapInt (wrapInt (wrapInt ((7 + hashPart region 0) *
      (11 + hashPart region 16)) * (13 + hashPart region 32)) * (17 + hashPart region 48))).tmod
        sliceSize).natAbs := rfl
  have ha : 0 ≤ hashPart region 0 := Int.ofNat_nonneg _
  have hb : 0 ≤ hashPart region 16 := Int.ofNat_nonneg _
  have hc : 0 ≤ hashPart region 32 := Int.ofNat_nonneg _
  have hd : 0 ≤ hashPart region 48 := Int.ofNat_nonneg _
  rw [hhash]
  unfold hashChecked hashProduct
  generalize hashPart region 0 = a at *
  generalize hashPart region 16 = b at *
  generalize hashPart region 32 = c at *
  generalize hashPart region 48 = d at *
  have grow : ∀ x y : Int, 0 ≤ x → 1 ≤ y → x ≤ x * y := fun x y hx hy => by
    simpa using Int.mul_le_mul_of_nonneg_left hy hx
  have h₁ : 1 ≤ (7 + a) * (11 + b) := Int.mul_pos (by omega) (by omega)
  have h₂ := grow ((7 + a) * (11 + b)) (13 + c) (by omega) (by omega)
  have h₃ := grow ((7 + a) * (11 + b) * (13 + c)) (17 + d) (by omega) (by omega)
  simp only [Option.bind_eq_bind]
  by_cases o₃ : (7 + a) * (11 + b) * (13 + c) * (17 + d) ≤ 2147483647
  · rw [mulInt_of_le (by omega) (by omega), Option.some_bind, mulInt_of_le (by omega) (by omega),
      Option.some_bind, mulInt_of_le (by omega) o₃, Option.some_bind]
    refine ⟨⟨(fun h => nomatch h), fun h => absurd h (by omega)⟩, fun _ => ?_⟩
    rw [wrapInt_of_range (x := (7 + a) * (11 + b)) (by omega) (by omega),
      wrapInt_of_range (x := (7 + a) * (11 + b) * (13 + c)) (by omega) (by omega),
      wrapInt_of_range (x := (7 + a) * (11 + b) * (13 + c) * (17 + d)) (by omega) (by omega)]
    rfl
  · refine ⟨⟨fun _ => by omega, fun _ => ?_⟩, fun h => absurd h o₃⟩
    by_cases o₁ : (7 + a) * (11 + b) ≤ 2147483647
    · rw [mulInt_of_le (by omega) o₁, Option.some_bind]
      by_cases o₂ : (7 + a) * (11 + b) * (13 + c) ≤ 2147483647
      · rw [mulInt_of_le (by omega) o₂, Option.some_bind, mulInt_of_gt (by omega)]
        rfl
      · rw [mulInt_of_gt (by omega)]
        rfl
    · rw [mulInt_of_gt (by omega)]
      rfl

/- The region of the highest x86-64 user-space address, `0x7FFFFFFFFFFF >> 18`: its second
product, `65542 * 8202 * 13`, is past `INT_MAX`. -/
example : hashChecked 0x1FFFFFFF#64 = none := by decide

structure Entry where
  region : BitVec 64
  value : BitVec 64
  deriving DecidableEq, Repr

/-- `ps::Slice`: its `_data` buckets. -/
structure Slice where
  data : Fin sliceSize → Entry

/-- Bucket `(start + i) % SliceSize`. -/
def bucket (start i : Nat) : Fin sliceSize := ⟨(start + i) % sliceSize, Nat.mod_lt _ (by decide)⟩

namespace Slice

/-- `Slice::reset`, which the constructor calls: every bucket zero. -/
def reset : Slice := ⟨fun _ => ⟨0, 0⟩⟩

def set (s : Slice) (b : Fin sliceSize) (e : Entry) : Slice :=
  ⟨fun c => if c = b then e else s.data c⟩

@[simp] theorem set_data (s : Slice) (b c : Fin sliceSize) (e : Entry) :
    (s.set b e).data c = if c = b then e else s.data c := rfl

@[simp] theorem set_set (s : Slice) (b : Fin sliceSize) (e e' : Entry) :
    (s.set b e).set b e' = s.set b e' := by
  simp only [set, ite_true]
  congr
  funext c
  split <;> rfl

/-- `Slice::_get`: the probe loop, which may claim an empty bucket for `region`. -/
def getBucket (s : Slice) (start : Nat) (region : BitVec 64) (add : Bool) :
    List Nat → Option (Fin sliceSize) × Slice
  | [] => (none, s)
  | i :: is =>
    let b := bucket start i
    if (s.data b).region = 0 then
      if !add then (none, s) else (some b, s.set b { s.data b with region })
    else if (s.data b).region = region then (some b, s)
    else s.getBucket start region add is

/-- `Slice::get`. -/
def get (s : Slice) (regionHash : Nat) (region : BitVec 64) (offset : Nat) : State :=
  match s.getBucket regionHash region false (List.range maxChain) with
  | (none, _) => .Unk
  | (some b, s') => if (s'.data b).value &&& 1#64 <<< offset ≠ 0 then .In else .Out

/-- `Slice::in`: whether `region` has (or now has) a bucket, with the page's bit set there.
`1ULL << offset` is defined for `offset < 64` only, which every caller passes (`offsetOf_lt`);
the model's shift gives `0` beyond, and no theorem relies on it. -/
def «in» (s : Slice) (regionHash : Nat) (region : BitVec 64) (offset : Nat) : Bool × Slice :=
  match s.getBucket regionHash region true (List.range maxChain) with
  | (none, s') => (false, s')
  | (some b, s') => (true, s'.set b { s'.data b with value := (s'.data b).value ||| 1#64 <<< offset })

def Stops (s : Slice) (region : BitVec 64) (b : Fin sliceSize) : Prop :=
  (s.data b).region = 0 ∨ (s.data b).region = region

instance (s : Slice) (region : BitVec 64) (b : Fin sliceSize) : Decidable (s.Stops region b) :=
  inferInstanceAs (Decidable (_ ∨ _))

/-- The first probed bucket where the probe stops. -/
def findSlot (s : Slice) (start : Nat) (region : BitVec 64) : List Nat → Option (Fin sliceSize)
  | [] => none
  | i :: is => if s.Stops region (bucket start i) then some (bucket start i)
    else s.findSlot start region is

/-- **`_get` in terms of the slot it stops at.** -/
theorem getBucket_eq (s : Slice) (start : Nat) (region : BitVec 64) (add : Bool) (is : List Nat) :
    s.getBucket start region add is =
      match s.findSlot start region is with
      | none => (none, s)
      | some b => if (s.data b).region = 0 then
          (if add then (some b, s.set b { s.data b with region }) else (none, s))
        else (some b, s) := by
  induction is with
  | nil => rfl
  | cons i is ih =>
    simp only [getBucket, findSlot, Stops]
    by_cases h0 : (s.data (bucket start i)).region = 0
    · cases add <;> simp [h0]
    · by_cases hr : (s.data (bucket start i)).region = region
      · simp [-BitVec.ofNat_eq_ofNat, h0, hr, show region ≠ 0 from hr ▸ h0]
      · simp [-BitVec.ofNat_eq_ofNat, h0, hr, ih]

theorem findSlot_stops {s : Slice} {start : Nat} {region : BitVec 64} {is : List Nat}
    {b : Fin sliceSize} (h : s.findSlot start region is = some b) : s.Stops region b := by
  induction is with
  | nil => cases h
  | cons i is ih =>
    simp only [findSlot] at h
    split at h
    · cases h; assumption
    · exact ih h

theorem findSlot_eq_none {s : Slice} {start : Nat} {region : BitVec 64} {is : List Nat} :
    s.findSlot start region is = none ↔ ∀ i ∈ is, ¬ s.Stops region (bucket start i) := by
  induction is with
  | nil => simp [findSlot]
  | cons i is ih =>
    simp only [findSlot, List.mem_cons, forall_eq_or_imp]
    split <;> simp_all

theorem findSlot_of_stops_sub {s s' : Slice} {start : Nat} {region : BitVec 64} {is : List Nat}
    {c : Fin sliceSize} (h : s.findSlot start region is = some c)
    (hsub : ∀ d, d ≠ c → s'.Stops region d → s.Stops region d) (hc : s'.Stops region c) :
    s'.findSlot start region is = some c := by
  induction is with
  | nil => cases h
  | cons i is ih =>
    simp only [findSlot] at h ⊢
    by_cases hs : s.Stops region (bucket start i)
    · rw [if_pos hs] at h
      cases h
      rw [if_pos hc]
    · rw [if_neg hs] at h
      have hne : bucket start i ≠ c := fun he => hs (he ▸ findSlot_stops h)
      rw [if_neg fun h' => hs (hsub _ hne h')]
      exact ih h

theorem findSlot_set_self {s : Slice} {start : Nat} {region : BitVec 64} {is : List Nat}
    {b : Fin sliceSize} (h : s.findSlot start region is = some b) (v : BitVec 64) :
    (s.set b ⟨region, v⟩).findSlot start region is = some b :=
  findSlot_of_stops_sub h (fun d hd hs => by simpa [Stops, hd] using hs) (by simp [Stops])

theorem get_eq (s : Slice) (start : Nat) (region : BitVec 64) (offset : Nat) :
    s.get start region offset =
      match s.findSlot start region (List.range maxChain) with
      | none => .Unk
      | some b => if (s.data b).region = 0 then .Unk
        else if (s.data b).value &&& 1#64 <<< offset ≠ 0 then .In else .Out := by
  unfold get
  rw [getBucket_eq]
  cases s.findSlot start region (List.range maxChain) with
  | none => rfl
  | some b => by_cases h0 : (s.data b).region = 0 <;> simp [-BitVec.ofNat_eq_ofNat, h0]

theorem in_eq (s : Slice) (start : Nat) (region : BitVec 64) (offset : Nat) :
    s.«in» start region offset =
      match s.findSlot start region (List.range maxChain) with
      | none => (false, s)
      | some b => (true, s.set b ⟨region, (s.data b).value ||| 1#64 <<< offset⟩) := by
  unfold «in»
  rw [getBucket_eq]
  cases hb : s.findSlot start region (List.range maxChain) with
  | none => rfl
  | some b =>
    by_cases h0 : (s.data b).region = 0
    · simp [-BitVec.ofNat_eq_ofNat, h0]
    · have hr := (findSlot_stops hb).resolve_left h0
      simp [-BitVec.ofNat_eq_ofNat, h0, hr, show region ≠ 0 from hr ▸ h0]

theorem and_shiftLeft_ne_zero {v : BitVec 64} {offset : Nat} (ho : offset < 64) :
    v &&& 1#64 <<< offset ≠ 0 ↔ v.getLsbD offset = true := by
  constructor
  · intro h
    cases hb : v.getLsbD offset
    · refine absurd (BitVec.eq_of_getLsbD_eq fun i => ?_) h
      by_cases hi : i.val = offset
      · simp [BitVec.getLsbD_and, hi, hb]
      · simp [BitVec.getLsbD_and, BitVec.getLsbD_shiftLeft, BitVec.getLsbD_one]
        omega
    · rfl
  · intro hb h0
    have := congrArg (fun x => x.getLsbD offset) h0
    simp [BitVec.getLsbD_and, BitVec.getLsbD_shiftLeft, BitVec.getLsbD_one, hb, ho] at this

theorem getLsbD_or_bit (v : BitVec 64) {offset i : Nat} (hi : i < 64) :
    (v ||| 1#64 <<< offset).getLsbD i = (v.getLsbD i || decide (i = offset)) := by
  simp only [BitVec.getLsbD_or, BitVec.getLsbD_shiftLeft, BitVec.getLsbD_one]
  by_cases h : i = offset <;> simp [h, hi] <;> omega

theorem findSlot_reset (start : Nat) (region : BitVec 64) :
    reset.findSlot start region (List.range maxChain) = some (bucket start 0) := rfl

theorem get_reset (start : Nat) (region : BitVec 64) (offset : Nat) :
    reset.get start region offset = .Unk := by
  rw [get_eq, findSlot_reset]
  rfl

theorem in_reset (start : Nat) (region : BitVec 64) (offset : Nat) :
    (reset.«in» start region offset).1 = true := by
  rw [in_eq, findSlot_reset]

theorem in_of_get_ne_unk {s : Slice} {start : Nat} {region : BitVec 64} {offset : Nat}
    (h : s.get start region offset ≠ .Unk) : (s.«in» start region offset).1 = true := by
  rw [get_eq] at h
  rw [in_eq]
  cases hb : s.findSlot start region (List.range maxChain) with
  | none => simp [hb] at h
  | some b => rfl

/-- **After `in` adds a non-zero region's page, `get` finds the page.** -/
theorem get_in_self {s : Slice} {start : Nat} {region : BitVec 64} {offset : Nat}
    (hr : region ≠ 0) (ho : offset < 64) (hadd : (s.«in» start region offset).1 = true) :
    (s.«in» start region offset).2.get start region offset = .In := by
  rw [in_eq] at hadd ⊢
  cases hb : s.findSlot start region (List.range maxChain) with
  | none => simp [hb] at hadd
  | some b =>
    rw [get_eq, findSlot_set_self hb]
    simp [-BitVec.ofNat_eq_ofNat, hr, and_shiftLeft_ne_zero ho, getLsbD_or_bit _ ho]

theorem in_eq_false_iff (s : Slice) (start : Nat) (region : BitVec 64) (offset : Nat) :
    (s.«in» start region offset).1 = false ↔
      ∀ i < maxChain, (s.data (bucket start i)).region ≠ 0 ∧
        (s.data (bucket start i)).region ≠ region := by
  rw [in_eq]
  cases hb : s.findSlot start region (List.range maxChain) with
  | none => simpa [Stops, not_or] using findSlot_eq_none.mp hb
  | some b =>
    simp only [Bool.true_eq_false, false_iff]
    intro hall
    have : s.findSlot start region (List.range maxChain) = none :=
      findSlot_eq_none.mpr fun i hi => by simpa [Stops, not_or] using hall i (List.mem_range.mp hi)
    simp [hb] at this

section Invariant

variable (h : BitVec 64 → Nat)

/-- The open-addressing invariant under the start function `h`: a stored region is the first
stop of its own probe chain, and an empty bucket has no page bits. -/
structure Inv (s : Slice) : Prop where
  empty_value : ∀ b, (s.data b).region = 0 → (s.data b).value = 0
  stored_found : ∀ b, (s.data b).region ≠ 0 →
    s.findSlot (h (s.data b).region) (s.data b).region (List.range maxChain) = some b

theorem inv_reset : Inv h reset := ⟨fun _ _ => rfl, fun _ hb => absurd rfl hb⟩

theorem Inv.unique {h} {s : Slice} (hI : Inv h s) {b c : Fin sliceSize}
    (hbc : (s.data b).region = (s.data c).region) (hb : (s.data b).region ≠ 0) : b = c := by
  have hc := hI.stored_found c (hbc ▸ hb)
  rw [← hbc, hI.stored_found b hb] at hc
  exact Option.some.inj hc

/-- The page masks as `get` reads them: `none` for a region without a bucket. -/
def marks (s : Slice) (region : BitVec 64) : Option (BitVec 64) :=
  match s.findSlot (h region) region (List.range maxChain) with
  | none => none
  | some b => if (s.data b).region = 0 then none else some (s.data b).value

/-- The answer `get` gives from a region's mask. -/
def stateOf : Option (BitVec 64) → Nat → State
  | none, _ => .Unk
  | some v, offset => if v &&& 1#64 <<< offset ≠ 0 then .In else .Out

theorem get_eq_marks (s : Slice) (region : BitVec 64) (offset : Nat) :
    s.get (h region) region offset = stateOf (marks h s region) offset := by
  rw [get_eq, marks]
  cases s.findSlot (h region) region (List.range maxChain) with
  | none => rfl
  | some b => by_cases h0 : (s.data b).region = 0 <;> simp [-BitVec.ofNat_eq_ofNat, h0, stateOf]

theorem marks_of_stored {s : Slice} (hI : Inv h s) {b : Fin sliceSize} {region : BitVec 64}
    (hb : (s.data b).region = region) (hr : region ≠ 0) :
    marks h s region = some (s.data b).value := by
  subst hb
  simp [-BitVec.ofNat_eq_ofNat, marks, hI.stored_found b hr, hr]

theorem marks_of_absent {s : Slice} {region : BitVec 64}
    (hno : ∀ b, (s.data b).region ≠ region) : marks h s region = none := by
  unfold marks
  split
  · rfl
  · rename_i b hb
    rcases findSlot_stops hb with h0 | hr
    · simp [-BitVec.ofNat_eq_ofNat, h0]
    · exact absurd hr (hno b)

theorem marks_zero (s : Slice) : marks h s 0 = none := by
  unfold marks
  split
  · rfl
  · rename_i b hb
    have h0 : (s.data b).region = 0 := (findSlot_stops hb).elim id id
    simp [-BitVec.ofNat_eq_ofNat, h0]

theorem marks_reset : marks h reset = fun _ => none :=
  funext fun x => by rw [marks, findSlot_reset]; rfl

/-- What `in` means on the masks: the region has a mask, with the page's bit set. -/
def markIn (m : BitVec 64 → Option (BitVec 64)) (region : BitVec 64) (offset : Nat) :
    BitVec 64 → Option (BitVec 64) :=
  fun x => if x = region then some ((m region).getD 0 ||| 1#64 <<< offset) else m x

variable {h}

theorem Inv.set {s : Slice} (hI : Inv h s) {region : BitVec 64} (hr : region ≠ 0)
    {b : Fin sliceSize} (hf : s.findSlot (h region) region (List.range maxChain) = some b)
    (v : BitVec 64) : Inv h (s.set b ⟨region, v⟩) := by
  constructor
  · intro c hc
    by_cases hcb : c = b
    · rw [hcb, set_data, if_pos rfl] at hc
      exact absurd hc hr
    · simpa [hcb] using hI.empty_value c (by simpa [hcb] using hc)
  · intro c hc
    by_cases hcb : c = b
    · subst hcb
      simpa using findSlot_set_self hf v
    · have hc' : (s.data c).region ≠ 0 := by simpa [hcb] using hc
      simp only [set_data, if_neg hcb]
      refine findSlot_of_stops_sub (hI.stored_found c hc') (fun d hd hs => ?_)
        (by simp [Stops, hcb])
      by_cases hdb : d = b
      · subst hdb
        have hrc : region = (s.data c).region := by
          simpa [-BitVec.ofNat_eq_ofNat, Stops, hr] using hs
        have hcd := hI.stored_found c hc'
        rw [← hrc, hf] at hcd
        exact absurd (Option.some.inj hcd) hd
      · simpa [Stops, hdb] using hs

theorem marks_congr {s s' : Slice} (hI : Inv h s) (hI' : Inv h s') {x : BitVec 64} (hx : x ≠ 0)
    (hreg : ∀ c, (s'.data c).region = x ↔ (s.data c).region = x)
    (hval : ∀ c, (s.data c).region = x → (s'.data c).value = (s.data c).value) :
    marks h s' x = marks h s x := by
  by_cases hex : ∃ c, (s.data c).region = x
  · obtain ⟨c, hc⟩ := hex
    rw [marks_of_stored h hI' ((hreg c).mpr hc) hx, marks_of_stored h hI hc hx, hval c hc]
  · rw [marks_of_absent h fun c hc => hex ⟨c, (hreg c).mp hc⟩,
      marks_of_absent h fun c hc => hex ⟨c, hc⟩]

theorem marks_set {s : Slice} (hI : Inv h s) {region : BitVec 64} (hr : region ≠ 0)
    {b : Fin sliceSize} (hf : s.findSlot (h region) region (List.range maxChain) = some b)
    (offset : Nat) :
    marks h (s.set b ⟨region, (s.data b).value ||| 1#64 <<< offset⟩) =
      markIn (marks h s) region offset := by
  have hI' := hI.set hr hf ((s.data b).value ||| 1#64 <<< offset)
  funext x
  unfold markIn
  split
  · rename_i hx
    subst hx
    rw [marks_of_stored h hI' (b := b) (by simp) hr]
    simp only [marks, hf, set_data, ite_true]
    split
    · rw [hI.empty_value b ‹_›]
      rfl
    · rfl
  · rename_i hx
    by_cases hx0 : x = 0
    · subst hx0
      rw [marks_zero, marks_zero]
    have hbx : (s.data b).region ≠ x := fun hbx => (findSlot_stops hf).elim
      (fun h0 => hx0 (hbx.symm.trans h0)) fun h1 => hx (hbx.symm.trans h1)
    refine marks_congr hI hI' hx0 (fun c => ?_) fun c hc => ?_
    · by_cases hcb : c = b
      · subst hcb
        simp only [set_data, ite_true]
        exact ⟨fun h => absurd h.symm hx, fun h => absurd h hbx⟩
      · simp only [set_data, if_neg hcb]
    · simp only [set_data, if_neg fun hcb : c = b => hbx (hcb ▸ hc)]

/-- **`in` refines `markIn`.** On a slice with `Inv`, `in` of a non-zero region keeps `Inv`; if
it adds, the masks become `markIn`, and if it fails, nothing changes. -/
theorem in_step {s : Slice} (hI : Inv h s) {region : BitVec 64} (hr : region ≠ 0)
    (offset : Nat) :
    Inv h (s.«in» (h region) region offset).2 ∧
      marks h (s.«in» (h region) region offset).2 =
        if (s.«in» (h region) region offset).1 then markIn (marks h s) region offset
        else marks h s := by
  rw [in_eq]
  cases hf : s.findSlot (h region) region (List.range maxChain) with
  | none => exact ⟨hI, rfl⟩
  | some b => exact ⟨hI.set hr hf _, marks_set hI hr hf offset⟩

variable (h)

/-- Calls of `in` in order, each probing from `h` of its region, with each call's result. -/
def inAll (s : Slice) : List (BitVec 64 × Nat) → Slice × List (BitVec 64 × Nat × Bool)
  | [] => (s, [])
  | (region, offset) :: ops =>
    let step := s.«in» (h region) region offset
    let rest := inAll step.2 ops
    (rest.1, (region, offset, step.1) :: rest.2)

def markAll (m : BitVec 64 → Option (BitVec 64)) :
    List (BitVec 64 × Nat × Bool) → BitVec 64 → Option (BitVec 64)
  | [] => m
  | (region, offset, added) :: log => markAll (if added then markIn m region offset else m) log

/-- **A run of `in` calls with non-zero regions refines `markAll` of its log.** -/
theorem inAll_marks {s : Slice} (hI : Inv h s) {ops : List (BitVec 64 × Nat)}
    (hops : ∀ p ∈ ops, p.1 ≠ 0) :
    Inv h (inAll h s ops).1 ∧ marks h (inAll h s ops).1 = markAll (marks h s) (inAll h s ops).2 := by
  induction ops generalizing s with
  | nil => exact ⟨hI, rfl⟩
  | cons p ops ih =>
    obtain ⟨region, offset⟩ := p
    obtain ⟨hI', hm⟩ := in_step hI (hops _ (List.mem_cons_self _ _)) offset
    obtain ⟨hI'', hm'⟩ := ih hI' fun q hq => hops q (List.mem_cons_of_mem _ hq)
    exact ⟨hI'', by simp only [inAll, markAll, hm', hm]⟩

theorem markAll_isSome (m : BitVec 64 → Option (BitVec 64)) (log : List (BitVec 64 × Nat × Bool))
    (x : BitVec 64) :
    (markAll m log x).isSome = true ↔ (m x).isSome = true ∨ ∃ o, (x, o, true) ∈ log := by
  induction log generalizing m with
  | nil => simp [markAll]
  | cons e log ih =>
    obtain ⟨r, o', added⟩ := e
    rw [markAll, ih]
    cases added
    · simp
    · by_cases hx : x = r
      · subst hx
        simp [markIn]
      · simp [markIn, hx]

theorem markAll_bit (m : BitVec 64 → Option (BitVec 64)) (log : List (BitVec 64 × Nat × Bool))
    (x : BitVec 64) {o : Nat} (ho : o < 64) :
    ((markAll m log x).getD 0).getLsbD o = true ↔
      ((m x).getD 0).getLsbD o = true ∨ (x, o, true) ∈ log := by
  induction log generalizing m with
  | nil => simp [markAll]
  | cons e log ih =>
    obtain ⟨r, o', added⟩ := e
    rw [markAll, ih]
    cases added
    · simp
    · by_cases hx : x = r
      · subst hx
        simp [markIn, getLsbD_or_bit _ ho, or_assoc]
      · simp [markIn, hx]

end Invariant

theorem stateOf_eq (m : Option (BitVec 64)) {offset : Nat} (ho : offset < 64) :
    stateOf m offset =
      if m.isSome then (if (m.getD 0).getLsbD offset then .In else .Out) else .Unk := by
  cases m with
  | none => rfl
  | some v =>
    simp only [stateOf, Option.isSome_some, Option.getD_some, ite_true]
    by_cases hb : v.getLsbD offset = true
    · rw [if_pos ((and_shiftLeft_ne_zero ho).mpr hb), if_pos hb]
    · rw [if_neg fun h => hb ((and_shiftLeft_ne_zero ho).mp h), if_neg hb]

/-- What `get` answers, read off a region's mask: `A` says the region has a mask, `B` that the
page's bit is set in it. -/
theorem stateOf_iff {m : Option (BitVec 64)} {offset : Nat} (ho : offset < 64) {A B : Prop}
    (hs : m.isSome = true ↔ A) (hb : (m.getD 0).getLsbD offset = true ↔ B) (hBA : B → A) :
    (stateOf m offset = .In ↔ B) ∧ (stateOf m offset = .Out ↔ A ∧ ¬B) ∧
      (stateOf m offset = .Unk ↔ ¬A) := by
  rw [stateOf_eq m ho]
  cases m with
  | none =>
    have hA : ¬A := fun h => by simpa using hs.mpr h
    have hB : ¬B := fun h => hA (hBA h)
    simp [hA, hB]
  | some v =>
    have hA : A := hs.mp rfl
    have hv : v.getLsbD offset = true ↔ B := by simpa using hb
    by_cases hB : B
    · simp [hv.mpr hB, hA, hB]
    · simp [Bool.eq_false_iff.mpr ((not_congr hv).mpr hB), hA, hB]

/-- After calls `in (hash r) r o` with non-zero regions `r` and offsets `o < 64`, starting from
`reset`: `get` answers
`In` exactly for the pages some call added, `Out` for the other pages of a region some call
added, `Unk` for every other region; each region has at most one bucket; and an `in` fails only
when every probed bucket holds another region. -/
theorem slice_get_after_in_calls (ops : List (BitVec 64 × Nat)) (hops : ∀ p ∈ ops, p.1 ≠ 0)
    (_hoffsets : ∀ p ∈ ops, p.2 < 64) (region : BitVec 64) (offset : Nat) (ho : offset < 64) :
    ((inAll hash reset ops).1.get (hash region) region offset = .In ↔
      (region, offset, true) ∈ (inAll hash reset ops).2) ∧
    ((inAll hash reset ops).1.get (hash region) region offset = .Out ↔
      (∃ o, (region, o, true) ∈ (inAll hash reset ops).2) ∧
        (region, offset, true) ∉ (inAll hash reset ops).2) ∧
    ((inAll hash reset ops).1.get (hash region) region offset = .Unk ↔
      ∀ o, (region, o, true) ∉ (inAll hash reset ops).2) ∧
    (∀ b c, ((inAll hash reset ops).1.data b).region = ((inAll hash reset ops).1.data c).region →
      ((inAll hash reset ops).1.data b).region ≠ 0 → b = c) ∧
    ∀ (s : Slice) (r : BitVec 64) (o : Nat), (s.«in» (hash r) r o).1 = false →
      ∀ i < maxChain, (s.data (bucket (hash r) i)).region ≠ 0 ∧
        (s.data (bucket (hash r) i)).region ≠ r := by
  obtain ⟨hI, hm⟩ := inAll_marks hash (inv_reset hash) hops
  generalize inAll hash reset ops = run at hI hm ⊢
  rw [get_eq_marks, hm, marks_reset]
  obtain ⟨hIn, hOut, hUnk⟩ := stateOf_iff ho (A := ∃ o, (region, o, true) ∈ run.2)
    (B := (region, offset, true) ∈ run.2)
    (by simpa using markAll_isSome (fun _ => none) run.2 region)
    (by simpa using markAll_bit (fun _ => none) run.2 region ho) fun h => ⟨_, h⟩
  exact ⟨hIn, hOut, hUnk.trans not_exists, fun b c => hI.unique,
    fun s r o => (in_eq_false_iff s _ r o).mp⟩

theorem slice_get_after_in_calls_one :
    (∀ p ∈ [((1 : BitVec 64), 0)], p.1 ≠ 0) ∧ (∀ p ∈ [((1 : BitVec 64), 0)], p.2 < 64) ∧ 0 < 64 ∧
    ((inAll hash reset [(1, 0)]).1.get (hash 1) 1 0 = .In ↔
      (1, 0, true) ∈ (inAll hash reset [(1, 0)]).2) ∧
    ((inAll hash reset [(1, 0)]).1.get (hash 1) 1 0 = .Out ↔
      (∃ o, (1, o, true) ∈ (inAll hash reset [(1, 0)]).2) ∧
        (1, 0, true) ∉ (inAll hash reset [(1, 0)]).2) ∧
    ((inAll hash reset [(1, 0)]).1.get (hash 1) 1 0 = .Unk ↔
      ∀ o, (1, o, true) ∉ (inAll hash reset [(1, 0)]).2) ∧
    (∀ b c, ((inAll hash reset [(1, 0)]).1.data b).region =
        ((inAll hash reset [(1, 0)]).1.data c).region →
      ((inAll hash reset [(1, 0)]).1.data b).region ≠ 0 → b = c) ∧
    ∀ (s : Slice) (r : BitVec 64) (o : Nat), (s.«in» (hash r) r o).1 = false →
      ∀ i < maxChain, (s.data (bucket (hash r) i)).region ≠ 0 ∧
        (s.data (bucket (hash r) i)).region ≠ r :=
  ⟨by decide, by decide, by decide,
    slice_get_after_in_calls [(1, 0)] (by decide) (by decide) 1 0 (by decide)⟩

/-- Region `0` is the empty-bucket sentinel: `in (hash 0) 0 0` on a reset slice adds, and
`get` then answers `Unk`. -/
theorem in_region_zero_unknown :
    (inAll hash reset [(0, 0)]).2 = [(0, 0, true)] ∧
      (inAll hash reset [(0, 0)]).1.get (hash 0) 0 0 = .Unk := by
  decide

end Slice

end Normous.Record.Ps
