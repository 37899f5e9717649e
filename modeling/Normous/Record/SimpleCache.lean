import Mathlib.Data.List.OfFn

/-!
# `SimpleCache`: the per-thread page cache of `Record::accessed`

Each server thread has a zero-initialised `SimpleCache` of `SIZE` pages. `Record::accessed`
calls `add` on every miss, for the thread's whole life; `add` writes `_entries[_pos++ % SIZE]`
with an `int` position. Signed overflow of `_pos++` and a write outside `_entries` are
undefined behaviour; the model reports them as faults.

`Remembers c hist` says that `c` has seen the pages `hist`, in order: its position is the
number of adds, and the slot of each of the last `SIZE` pages holds it. Every add keeps it
while the position is below `INT_MAX` (`add_remembers`), so up to `INT_MAX` adds the cache
answers `inCache` for the last `SIZE` pages (`add_keeps_recent_pages`). The next add overflows.
-/

namespace Normous.Record

def size : Nat := 25

def intMax : Int := 2147483647

def intMin : Int := -2147483648

/-- A `SimpleCache`: its `SIZE` slots and its `int` position. -/
structure SimpleCache where
  entries : List (BitVec 64)
  entries_length : entries.length = size
  pos : Int
  pos_ge : intMin ≤ pos
  pos_le : pos ≤ intMax

inductive Fault where
  /-- `_pos++` at `INT_MAX`. -/
  | signedOverflow
  /-- A slot index outside `_entries`. -/
  | outOfBounds
  deriving DecidableEq, Repr

namespace SimpleCache

/-- `mySimpleCache`: thread-local storage, zero-initialised. -/
def zero : SimpleCache :=
  ⟨List.replicate size 0, List.length_replicate _ _, 0, by decide, by decide⟩

/-- `SimpleCache::inCache`: the loop over the `SIZE` slots. -/
def inCache (c : SimpleCache) (page : BitVec 64) : Bool :=
  c.entries.any (· == page)

/-- `SimpleCache::add`: `_entries[_pos++ % SIZE] = page`, with C++'s truncating `%`. -/
def add (c : SimpleCache) (page : BitVec 64) : Except Fault SimpleCache :=
  if hpos : c.pos < intMax then
    let slot := c.pos.tmod size
    if 0 ≤ slot ∧ slot < size then
      .ok { entries := c.entries.set slot.toNat page
            entries_length := (List.length_set _ _ _).trans c.entries_length
            pos := c.pos + 1
            pos_ge := by have := c.pos_ge; unfold intMin at *; omega
            pos_le := by omega }
    else .error .outOfBounds
  else .error .signedOverflow

theorem inCache_add {c c' : SimpleCache} {page : BitVec 64} (h : c.add page = .ok c') :
    c'.inCache page = true := by
  unfold add at h
  split at h
  · dsimp only at h
    split at h
    · cases h
      rename_i hs
      have hlt : (c.pos.tmod size).toNat < c.entries.length := by
        rw [c.entries_length]
        omega
      exact List.any_eq_true.mpr
        ⟨page, List.mem_iff_getElem?.mpr ⟨_, List.getElem?_set_self hlt⟩, beq_self_eq_true _⟩
    · cases h
  · cases h

/-- Adds of `pages`, in order, as `Record::accessed` makes them on one thread. -/
def addAll (c : SimpleCache) : List (BitVec 64) → Except Fault SimpleCache
  | [] => .ok c
  | page :: pages => c.add page >>= fun c => c.addAll pages

theorem addAll_append (c : SimpleCache) (ps qs : List (BitVec 64)) :
    c.addAll (ps ++ qs) = c.addAll ps >>= fun c => c.addAll qs := by
  induction ps generalizing c with
  | nil => rfl
  | cons p ps ih =>
    simp only [List.cons_append, addAll]
    cases c.add p with
    | error e => rfl
    | ok c' => exact ih c'

/-- `c` has seen `hist`: one add per page, and the slot of each of the last `SIZE` pages
holds it. -/
structure Remembers (c : SimpleCache) (hist : List (BitVec 64)) : Prop where
  pos_eq : c.pos = hist.length
  recent : ∀ i (hi : i < hist.length), hist.length ≤ i + size → c.entries[i % size]? = some hist[i]

theorem remembers_zero : Remembers zero [] := ⟨rfl, fun _ hi => absurd hi (Nat.not_lt_zero _)⟩

/-- **One add below `INT_MAX` succeeds and remembers its page.** -/
theorem add_remembers {c : SimpleCache} {hist : List (BitVec 64)} (h : Remembers c hist)
    (hlen : (hist.length : Int) < intMax) (page : BitVec 64) :
    ∃ c', c.add page = .ok c' ∧ Remembers c' (hist ++ [page]) := by
  have hslot : c.pos.tmod size = ((hist.length % size : Nat) : Int) := by
    rw [h.pos_eq, Int.tmod_eq_emod (by omega) (by decide)]
    rfl
  have hlt : hist.length % size < size := Nat.mod_lt _ (by decide)
  unfold add
  rw [dif_pos (h.pos_eq ▸ hlen)]
  dsimp only
  rw [if_pos (by rw [hslot]; omega)]
  refine ⟨_, rfl, ⟨by simp [h.pos_eq], fun i hi hwin => ?_⟩⟩
  show (c.entries.set (c.pos.tmod size).toNat page)[i % size]? = some (hist ++ [page])[i]
  rw [hslot, Int.toNat_ofNat]
  by_cases hi' : i = hist.length
  · subst hi'
    rw [List.getElem?_set_self (by rw [c.entries_length]; exact hlt)]
    simp
  · have hi'' : i < hist.length := by simp only [List.length_append, List.length_singleton] at hi; omega
    rw [List.getElem?_set_ne (by simp only [List.length_append, List.length_singleton] at hwin; unfold size at *; omega),
      h.recent i hi'' (by simp only [List.length_append, List.length_singleton] at hwin; omega), List.getElem_append_left hi'']

theorem inCache_of_remembers {c : SimpleCache} {hist : List (BitVec 64)} (h : Remembers c hist)
    {i : Nat} (hi : i < hist.length) (hwin : hist.length ≤ i + size) :
    c.inCache hist[i] = true :=
  List.any_eq_true.mpr ⟨_, List.mem_iff_getElem?.mpr ⟨_, h.recent i hi hwin⟩, by simp⟩

theorem addAll_remembers {c : SimpleCache} {hist : List (BitVec 64)} (h : Remembers c hist)
    (pages : List (BitVec 64)) (hlen : ((hist.length + pages.length : Nat) : Int) ≤ intMax) :
    ∃ c', c.addAll pages = .ok c' ∧ Remembers c' (hist ++ pages) := by
  induction pages generalizing c hist with
  | nil => exact ⟨c, rfl, by simpa using h⟩
  | cons p ps ih =>
    obtain ⟨c₁, h₁, hr₁⟩ := add_remembers h (by simp only [List.length_cons] at hlen; omega) p
    obtain ⟨c₂, h₂, hr₂⟩ := ih hr₁ (by
      simp only [List.length_cons, List.length_append, List.length_nil] at hlen ⊢; omega)
    exact ⟨c₂, by rw [addAll, h₁]; exact h₂, by simpa using hr₂⟩

/-- Up to `INT_MAX` adds on a zero-initialised cache, no add overflows or writes outside
`_entries`, the position counts the adds, and each of the last `min(n, SIZE)` pages added is
in the cache. -/
theorem add_keeps_recent_pages (pages : List (BitVec 64)) (hn : (pages.length : Int) ≤ intMax) :
    ∃ c, zero.addAll pages = .ok c ∧ c.pos = pages.length ∧
      ∀ page ∈ pages.drop (pages.length - size), c.inCache page = true := by
  obtain ⟨c, hc, hr⟩ := addAll_remembers remembers_zero pages (by simpa using hn)
  refine ⟨c, hc, by simpa using hr.pos_eq, fun page hp => ?_⟩
  obtain ⟨j, hj, rfl⟩ := List.getElem_of_mem hp
  rw [List.getElem_drop]
  simp only [List.nil_append] at hr
  exact inCache_of_remembers hr _ (by simp only [List.length_drop] at hj; omega)

theorem add_keeps_recent_pages_two :
    ((2 : Nat) : Int) ≤ intMax ∧
      ∃ c, zero.addAll [1, 2] = .ok c ∧ c.pos = 2 ∧
        ∀ page ∈ [1, 2].drop (2 - size), c.inCache page = true :=
  ⟨by decide, add_keeps_recent_pages [1, 2] (by decide)⟩

/-- After `INT_MAX` adds the position is `INT_MAX`, and the next add overflows `_pos++`: every
sequence of `2^31` adds on a zero-initialised cache ends in signed overflow. -/
theorem add_overflows_int_pos (pages : Fin 2147483648 → BitVec 64) :
    zero.addAll (List.ofFn pages) = .error .signedOverflow := by
  have hne : List.ofFn pages ≠ [] := List.ne_nil_of_length_pos (by rw [List.length_ofFn]; decide)
  have hlen : (List.ofFn pages).dropLast.length = 2147483647 := by
    rw [List.length_dropLast, List.length_ofFn]
  rw [← List.dropLast_concat_getLast hne, addAll_append]
  obtain ⟨c, hc, hr⟩ := addAll_remembers remembers_zero (List.ofFn pages).dropLast
    (by rw [hlen]; decide)
  have hpos : c.pos = intMax := by rw [hr.pos_eq, List.nil_append, hlen]; decide
  rw [hc]
  show (c.add _ >>= fun c => c.addAll []) = _
  rw [add, dif_neg (by rw [hpos]; exact lt_irrefl _)]
  rfl

end SimpleCache

end Normous.Record
