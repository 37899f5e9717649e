import Normous.Exec.Triple
/-!
# `get2DKeys`: locations and keys of a 2d index

`get2DKeys` walks the elements `getFieldsDotted` finds at the geo field. A non-empty document or
array is one location when its first element is a number, and otherwise a list of locations;
uassert 16804 stops the walk at the first element of such a list that is neither. Each location
is pushed to `locs` and, when `keys` is not null, hashed and inserted into `keys` with the other
fields of the key pattern.

In single-location mode the `while (oi.more())` loop never advances its iterator; only its
`break`s end it. The loop has fuel, and `get2DKeys_spec` proves fuel above the length of every
embedded object enough: the run is then `contract`, which emits the locations of the grammar
`locs ::= [loc,...]|{k:loc,...}|loc` in order and raises the uassert the grammar stops at.
`getFieldsDotted` and `GeoHashConverter::hash` are oracles; `none` is a null pointer.
-/

namespace Normous.Index.TwoD

/-- A BSON element as `get2DKeys` reads it; `V` is the type of the other BSON values. -/
inductive Elem (V : Type) where
  /-- A number. -/
  | number (value : V)
  /-- An embedded document, or an array when `isArray`, with its fields in order. -/
  | obj (isArray : Bool) (fields : List (String × Elem V))
  /-- A value of any other type. -/
  | other (value : V)

abbrev BSONObj (V : Type) := List (String × Elem V)

variable {V H : Type}

/-- `BSONElement::isABSONObj`: a document or an array. -/
def Elem.isABSONObj : Elem V → Bool
  | .obj _ _ => true
  | _ => false

def Elem.isNumber : Elem V → Bool
  | .number _ => true
  | _ => false

def Elem.embeddedObject : Elem V → BSONObj V
  | .obj _ fields => fields
  | _ => []

/-- `embed.firstElement().isNumber()`: the first element of an empty object is EOO. -/
def firstIsNumber : BSONObj V → Bool
  | (_, e) :: _ => e.isNumber
  | [] => false

/-- A part of a key: the geo-hash of the location, or for another field of the key pattern
`null`, the one element found, or an array of the elements found. -/
inductive KeyPart (V H : Type) where
  | geoHash (hash : H)
  | null
  | value (elem : Elem V)
  | array (elems : List (Elem V))

abbrev Key (V H : Type) := List (KeyPart V H)

/-- The fields of `TwoDIndexingParams` that `get2DKeys` reads. -/
structure TwoDIndexingParams (V H : Type) where
  /-- The geo field of the key pattern. -/
  geo : String
  /-- The other fields of the key pattern, with their directions. -/
  other : List (String × Int)
  /-- `geoHashConverter->hash(locObj, &obj)`: the hash of `locObj`, or the text of what it
  throws. -/
  geoHashConverter : BSONObj V → BSONObj V → Except String H

/-- `BSONObj::getFieldsDotted`: the elements at a dotted path, in the order of the set filled. -/
structure FieldsDotted (V : Type) where
  /-- `obj.getFieldsDotted(name, bSet, expandLastArray)` into a `BSONElementMSet`. -/
  elementMSet : BSONObj V → String → Bool → List (Elem V)
  /-- `obj.getFieldsDotted(name, eSet)` into a `BSONElementSet`. -/
  elementSet : BSONObj V → String → List (Elem V)

/-- A `uassert` that failed, an exception of the geo-hash converter, or the fuel of the model
running out. -/
inductive Fault where
  | uassert (code : Nat) (msg : String)
  | hashFailed (what : String)
  | outOfFuel
  deriving DecidableEq

def locationFormatMsg : String :=
  "location object expected, location array not in correct format"

structure Out (V H : Type) where
  /-- The `insert` calls made into `*keys`, in order. -/
  keys : Option (List (Key V H))
  /-- The vector `*locs`. -/
  locs : Option (List (BSONObj V))

@[simp] theorem throw_bind {ε σ α β : Type} (e : ε) (f : α → EStateM ε σ β) :
    (throw e : EStateM ε σ α) >>= f = throw e := rfl

theorem run_bind_ok {σ α β : Type} {x : EStateM Fault σ α} {f : α → EStateM Fault σ β} {o o' : σ}
    {a : α} (h : x.run o = .ok a o') : (x >>= f).run o = (f a).run o' := by
  show EStateM.bind x f o = _
  simp only [EStateM.bind, show x o = _ from h]
  rfl

theorem run_bind_error {σ α β : Type} {x : EStateM Fault σ α} {f : α → EStateM Fault σ β}
    {o o' : σ} {e : Fault} (h : x.run o = .error e o') : (x >>= f).run o = .error e o' := by
  show EStateM.bind x f o = _
  simp only [EStateM.bind, show x o = _ from h]

section Code

variable (fd : FieldsDotted V) (obj : BSONObj V) (params : TwoDIndexingParams V H)

def otherKeyPart (field : String) : KeyPart V H :=
  match fd.elementSet obj field with
  | [] => .null
  | [e] => .value e
  | es => .array es

/-- The key of a location with geo-hash `h`: the hash, then each field of `params.other`. -/
def makeKey (h : H) : Key V H :=
  .geoHash h :: params.other.map fun f => otherKeyPart fd obj f.1

/-- The body of the `while` loop once `locObj` is chosen; `true` is a `break`. -/
def addLocation (singleElement : Bool) (locObj : BSONObj V) : EStateM Fault (Out V H) Bool := do
  modify fun o => { o with locs := o.locs.map (· ++ [locObj]) }
  if (← get).keys.isNone then return singleElement
  match params.geoHashConverter locObj obj with
  | .error e => throw (.hashFailed e)
  | .ok h =>
    modify fun o => { o with keys := o.keys.map (· ++ [makeKey fd obj params h]) }
    return singleElement

/-- `while (oi.more())` over `embed`; `pos` is the iterator `oi`, which only `oi.next()`
advances. -/
def whileLoop (embed : BSONObj V) (singleElement : Bool) :
    Nat → Nat → EStateM Fault (Out V H) Unit
  | 0, _ => throw .outOfFuel
  | fuel + 1, pos =>
    if h : pos < embed.length then
      if singleElement then
        addLocation fd obj params singleElement embed >>= fun brk =>
          if brk then pure () else whileLoop embed singleElement fuel pos
      else
        let locElement := embed[pos].2
        if !locElement.isABSONObj then throw (.uassert 16804 locationFormatMsg)
        else
          let locObj := locElement.embeddedObject
          if locObj.isEmpty then whileLoop embed singleElement fuel (pos + 1)
          else
            addLocation fd obj params singleElement locObj >>= fun brk =>
              if brk then pure () else whileLoop embed singleElement fuel (pos + 1)
    else pure ()

/-- The body of the `for` loop over `bSet`, for one element `geo`. -/
def visitGeo (fuel : Nat) (geo : Elem V) : EStateM Fault (Out V H) Unit :=
  if geo.isABSONObj then
    if geo.embeddedObject.isEmpty then pure ()
    else whileLoop fd obj params geo.embeddedObject (firstIsNumber geo.embeddedObject) fuel 0
  else pure ()

/-- The `for` loop over `bSet`. -/
def forEachGeo (fuel : Nat) : List (Elem V) → EStateM Fault (Out V H) Unit
  | [] => pure ()
  | geo :: rest => visitGeo fd obj params fuel geo >>= fun _ => forEachGeo fuel rest

/-- `get2DKeys(obj, params, keys, locs)`, with `fuel` for each `while` loop. -/
def get2DKeys (fuel : Nat) : EStateM Fault (Out V H) Unit :=
  let bSet := fd.elementMSet obj params.geo false
  if bSet.isEmpty then pure () else forEachGeo fd obj params fuel bSet

end Code

section Contract

/-- The locations of a list of locations `[loc,...]` or `{k:loc,...}`: each element that is a
non-empty document or array, up to uassert 16804 at the first element that is neither. -/
def arrayLocations : BSONObj V → List (BSONObj V) × Option Fault
  | [] => ([], none)
  | (_, e) :: rest =>
    if e.isABSONObj then
      ((if e.embeddedObject.isEmpty then [] else [e.embeddedObject]) ++ (arrayLocations rest).1,
        (arrayLocations rest).2)
    else ([], some (.uassert 16804 locationFormatMsg))

/-- The locations of one element `g`: none unless it is a non-empty document or array, `g`
itself when its first element is a number, and otherwise the locations of a list. -/
def elementLocations (g : Elem V) : List (BSONObj V) × Option Fault :=
  if g.isABSONObj && !g.embeddedObject.isEmpty then
    if firstIsNumber g.embeddedObject then ([g.embeddedObject], none)
    else arrayLocations g.embeddedObject
  else ([], none)

/-- The locations of the elements found at the geo field, in order, up to the first uassert. -/
def locations : List (Elem V) → List (BSONObj V) × Option Fault
  | [] => ([], none)
  | g :: gs =>
    match (elementLocations g).2 with
    | some f => ((elementLocations g).1, some f)
    | none => ((elementLocations g).1 ++ (locations gs).1, (locations gs).2)

variable (fd : FieldsDotted V) (obj : BSONObj V) (params : TwoDIndexingParams V H)

/-- One location: pushed to `locs` and, when `keys` is not null, its key, made of its geo-hash
and the other fields, inserted into `keys`, unless the geo-hash converter throws. -/
def emitLocation (loc : BSONObj V) : EStateM Fault (Out V H) Unit := fun o =>
  match o.keys with
  | none => .ok () { o with locs := o.locs.map (· ++ [loc]) }
  | some ks =>
    match params.geoHashConverter loc obj with
    | .error e => .error (.hashFailed e) { o with locs := o.locs.map (· ++ [loc]) }
    | .ok h => .ok () { keys := some (ks ++ [makeKey fd obj params h]),
                        locs := o.locs.map (· ++ [loc]) }

def emitLocations : List (BSONObj V) → EStateM Fault (Out V H) Unit
  | [] => pure ()
  | loc :: ls => emitLocation fd obj params loc >>= fun _ => emitLocations ls

def raiseFault : Option Fault → EStateM Fault (Out V H) Unit
  | none => pure ()
  | some f => throw f

/-- The contract of `get2DKeys` for the locations `r.1` and the uassert `r.2` of the grammar:
emit the locations, then raise the uassert, if any. -/
def contract (r : List (BSONObj V) × Option Fault) : EStateM Fault (Out V H) Unit :=
  emitLocations fd obj params r.1 >>= fun _ => raiseFault r.2

def locationKeys : List (BSONObj V) → Except String (List (Key V H))
  | [] => .ok []
  | loc :: ls => do
    let h ← params.geoHashConverter loc obj
    let ks ← locationKeys ls
    pure (makeKey fd obj params h :: ks)

/-! ### Emission: what the locations do to `locs` and `keys` -/

theorem emitLocation_run_null (loc : BSONObj V) (locs : Option (List (BSONObj V))) :
    (emitLocation fd obj params loc).run ⟨none, locs⟩ = .ok () ⟨none, locs.map (· ++ [loc])⟩ :=
  rfl

theorem emitLocation_run_ok (loc : BSONObj V) (ks : List (Key V H))
    (locs : Option (List (BSONObj V))) {h : H} (hh : params.geoHashConverter loc obj = .ok h) :
    (emitLocation fd obj params loc).run ⟨some ks, locs⟩ =
      .ok () ⟨some (ks ++ [makeKey fd obj params h]), locs.map (· ++ [loc])⟩ := by
  show emitLocation fd obj params loc _ = _
  simp only [emitLocation, hh]

theorem emitLocation_run_error (loc : BSONObj V) (ks : List (Key V H))
    (locs : Option (List (BSONObj V))) {w : String}
    (hh : params.geoHashConverter loc obj = .error w) :
    (emitLocation fd obj params loc).run ⟨some ks, locs⟩ =
      .error (.hashFailed w) ⟨some ks, locs.map (· ++ [loc])⟩ := by
  show emitLocation fd obj params loc _ = _
  simp only [emitLocation, hh]

theorem emitLocations_run_null :
    ∀ (L : List (BSONObj V)) (locs : Option (List (BSONObj V))),
      (emitLocations fd obj params L).run ⟨none, locs⟩ = .ok () ⟨none, locs.map (· ++ L)⟩
  | [], locs => by cases locs <;> simp <;> rfl
  | loc :: ls, locs => by
    rw [emitLocations, run_bind_ok (emitLocation_run_null fd obj params loc locs),
      emitLocations_run_null ls]
    cases locs <;> simp

/-- With `keys` not null and no exception of the converter, the locations are appended to
`locs` and exactly their keys, one each and in order, are inserted into `keys`. -/
theorem emitLocations_run_keys :
    ∀ (L : List (BSONObj V)) (ks K : List (Key V H)) (locs : Option (List (BSONObj V))),
      locationKeys fd obj params L = .ok K →
      (emitLocations fd obj params L).run ⟨some ks, locs⟩ =
        .ok () ⟨some (ks ++ K), locs.map (· ++ L)⟩
  | [], ks, K, locs, hK => by
    cases hK; cases locs <;> simp <;> rfl
  | loc :: ls, ks, K, locs, hK => by
    cases hh : params.geoHashConverter loc obj with
    | error w => simp only [locationKeys, hh, Normous.Exec.except_error_bind] at hK; cases hK
    | ok h =>
      cases hl : locationKeys fd obj params ls with
      | error w =>
        simp only [locationKeys, hh, hl, Normous.Exec.except_ok_bind,
          Normous.Exec.except_error_bind] at hK
        cases hK
      | ok K' =>
        simp only [locationKeys, hh, hl, Normous.Exec.except_ok_bind] at hK
        cases hK
        rw [emitLocations, run_bind_ok (emitLocation_run_ok fd obj params loc ks locs hh),
          emitLocations_run_keys ls _ K' _ hl]
        cases locs <;> simp

theorem emitLocations_run_hashFailed :
    ∀ (L : List (BSONObj V)) (ks : List (Key V H)) (locs : Option (List (BSONObj V))) {w : String},
      locationKeys fd obj params L = .error w →
      ∃ s, (emitLocations fd obj params L).run ⟨some ks, locs⟩ = .error (.hashFailed w) s
  | [], _, _, _, hK => by cases hK
  | loc :: ls, ks, locs, w, hK => by
    cases hh : params.geoHashConverter loc obj with
    | error w' =>
      simp only [locationKeys, hh, Normous.Exec.except_error_bind] at hK
      cases hK
      exact ⟨_, by rw [emitLocations, run_bind_error (emitLocation_run_error fd obj params loc ks locs hh)]⟩
    | ok h =>
      cases hl : locationKeys fd obj params ls with
      | error w' =>
        simp only [locationKeys, hh, hl, Normous.Exec.except_ok_bind,
          Normous.Exec.except_error_bind] at hK
        cases hK
        obtain ⟨s, hs⟩ := emitLocations_run_hashFailed ls _ (locs.map (· ++ [loc])) hl
        exact ⟨s, by rw [emitLocations, run_bind_ok (emitLocation_run_ok fd obj params loc ks locs hh), hs]⟩
      | ok K' => simp only [locationKeys, hh, hl, Normous.Exec.except_ok_bind] at hK; cases hK

theorem emitLocations_append (l₁ l₂ : List (BSONObj V)) :
    emitLocations fd obj params (l₁ ++ l₂) =
      (emitLocations fd obj params l₁ >>= fun _ => emitLocations fd obj params l₂) := by
  induction l₁ with
  | nil => exact (pure_bind _ _).symm
  | cons loc ls ih => rw [List.cons_append, emitLocations, emitLocations, ih, bind_assoc]

theorem contract_cons (loc : BSONObj V) (ls : List (BSONObj V)) (f : Option Fault) :
    contract fd obj params (loc :: ls, f) =
      (emitLocation fd obj params loc >>= fun _ => contract fd obj params (ls, f)) := by
  simp only [contract, emitLocations, bind_assoc]

theorem contract_then_none (l : List (BSONObj V)) (r : List (BSONObj V) × Option Fault) :
    (contract fd obj params (l, none) >>= fun _ => contract fd obj params r) =
      contract fd obj params (l ++ r.1, r.2) := by
  simp only [contract, raiseFault, emitLocations_append, bind_assoc, pure_bind]

theorem contract_then_some (l : List (BSONObj V)) (f : Fault)
    (k : Unit → EStateM Fault (Out V H) Unit) :
    (contract fd obj params (l, some f) >>= k) = contract fd obj params (l, some f) := by
  simp only [contract, raiseFault, bind_assoc, throw_bind]

theorem contract_ne_outOfFuel (r : List (BSONObj V) × Option Fault)
    (hr : r.2 = none ∨ r.2 = some (.uassert 16804 locationFormatMsg)) (o s : Out V H) :
    (contract fd obj params r).run o ≠ .error .outOfFuel s := by
  have hraise : ∀ o', (raiseFault r.2 : EStateM Fault (Out V H) Unit).run o' ≠ .error .outOfFuel s := by
    rcases hr with h | h <;> rw [h] <;> nofun
  rcases o with ⟨_ | ks, locs⟩
  · rw [contract, run_bind_ok (emitLocations_run_null fd obj params r.1 locs)]
    exact hraise _
  · cases hK : locationKeys fd obj params r.1 with
    | ok K =>
      rw [contract, run_bind_ok (emitLocations_run_keys fd obj params r.1 ks K locs hK)]
      exact hraise _
    | error w =>
      obtain ⟨s', hs'⟩ := emitLocations_run_hashFailed fd obj params r.1 ks locs hK
      rw [contract, run_bind_error hs']
      nofun

/-! ### The grammar stops only at uassert 16804 -/

theorem arrayLocations_fault (embed : BSONObj V) :
    (arrayLocations embed).2 = none ∨
      (arrayLocations embed).2 = some (.uassert 16804 locationFormatMsg) := by
  induction embed with
  | nil => exact .inl rfl
  | cons p rest ih =>
    unfold arrayLocations
    split
    · exact ih
    · exact .inr rfl

theorem elementLocations_fault (g : Elem V) :
    (elementLocations g).2 = none ∨
      (elementLocations g).2 = some (.uassert 16804 locationFormatMsg) := by
  unfold elementLocations
  split
  · split
    · exact .inl rfl
    · exact arrayLocations_fault _
  · exact .inl rfl

theorem locations_fault (gs : List (Elem V)) :
    (locations gs).2 = none ∨ (locations gs).2 = some (.uassert 16804 locationFormatMsg) := by
  induction gs with
  | nil => exact .inl rfl
  | cons g gs ih =>
    unfold locations
    split
    · rename_i f hf
      exact hf ▸ elementLocations_fault g
    · exact ih

end Contract

section Refinement

variable (fd : FieldsDotted V) (obj : BSONObj V) (params : TwoDIndexingParams V H)

/-- The body of the loop does what the contract does with one location, then answers its
`singleElement`: a `break` in single-location mode, a `continue` otherwise. -/
theorem addLocation_eq (singleElement : Bool) (locObj : BSONObj V) :
    addLocation fd obj params singleElement locObj =
      (emitLocation fd obj params locObj >>= fun _ => pure singleElement) := by
  funext o
  rcases o with ⟨_ | ks, locs⟩
  · rfl
  · unfold addLocation emitLocation
    cases params.geoHashConverter locObj obj <;> rfl

theorem whileLoop_single (embed : BSONObj V) (fuel : Nat) (h : 0 < embed.length) :
    whileLoop fd obj params embed true (fuel + 1) 0 = emitLocation fd obj params embed := by
  rw [whileLoop, dif_pos h, if_pos rfl, addLocation_eq, bind_assoc]
  simp only [pure_bind, if_true, bind_pure_unit]

/-- Over a list of locations, the loop from `pos` is the contract of the elements from `pos`
on, once its fuel exceeds their number. -/
theorem whileLoop_array (embed : BSONObj V) :
    ∀ fuel pos, embed.length - pos < fuel →
      whileLoop fd obj params embed false fuel pos =
        contract fd obj params (arrayLocations (embed.drop pos))
  | 0, _, h => absurd h (Nat.not_lt_zero _)
  | fuel + 1, pos, hf => by
    by_cases hp : pos < embed.length
    · rw [List.drop_eq_getElem_cons hp, whileLoop, dif_pos hp, if_neg Bool.false_ne_true]
      generalize embed[pos] = p
      rcases p with ⟨k, e⟩
      have ih := whileLoop_array embed fuel (pos + 1) (by omega)
      cases he : e.isABSONObj
      · simp only [he, arrayLocations]
        rfl
      · cases hm : e.embeddedObject.isEmpty
        · simp only [he, hm, arrayLocations, addLocation_eq, bind_assoc, pure_bind, Bool.not_true,
            Bool.false_eq_true, if_false, if_true, ih, List.singleton_append, contract_cons]
        · simp only [he, hm, arrayLocations, Bool.not_true, Bool.false_eq_true, if_false, if_true,
            ih, List.nil_append]
    · rw [whileLoop, dif_neg hp, List.drop_eq_nil_of_le (by omega)]
      rfl

/-- With fuel above the length of its embedded object, the `for` body for `geo` is the contract
of its locations. -/
theorem visitGeo_eq (fuel : Nat) (geo : Elem V) (h : geo.embeddedObject.length < fuel) :
    visitGeo fd obj params fuel geo = contract fd obj params (elementLocations geo) := by
  unfold visitGeo elementLocations
  cases hg : geo.isABSONObj
  · rfl
  cases hm : geo.embeddedObject.isEmpty
  · obtain ⟨fuel, rfl⟩ : ∃ f, fuel = f + 1 := ⟨fuel - 1, by omega⟩
    have hpos : 0 < geo.embeddedObject.length := List.length_pos.mpr fun h => by simp [h] at hm
    simp only [Bool.and_true, Bool.not_false, if_true, if_false, Bool.false_eq_true]
    cases firstIsNumber geo.embeddedObject
    · rw [if_neg Bool.false_ne_true, whileLoop_array fd obj params _ (fuel + 1) 0 (by omega),
        List.drop_zero]
    · rw [if_pos rfl, whileLoop_single fd obj params _ fuel hpos, contract_cons]
      exact bind_pure_unit.symm
  · rfl

theorem forEachGeo_eq (fuel : Nat) :
    ∀ gs : List (Elem V), (∀ g ∈ gs, g.embeddedObject.length < fuel) →
      forEachGeo fd obj params fuel gs = contract fd obj params (locations gs)
  | [], _ => rfl
  | g :: gs, h => by
    rw [forEachGeo, visitGeo_eq fd obj params fuel g (h g (List.mem_cons_self _ _)),
      forEachGeo_eq fuel gs (fun g' hg' => h g' (List.mem_cons_of_mem _ hg')), locations]
    rcases elementLocations g with ⟨l, _ | f⟩
    · exact contract_then_none fd obj params l _
    · exact contract_then_some fd obj params l f _

theorem get2DKeys_eq_contract (fuel : Nat)
    (hfuel : ∀ g ∈ fd.elementMSet obj params.geo false, g.embeddedObject.length < fuel) :
    get2DKeys fd obj params fuel =
      contract fd obj params (locations (fd.elementMSet obj params.geo false)) := by
  unfold get2DKeys
  dsimp only
  split
  · rename_i h
    rw [List.isEmpty_iff.mp h]
    rfl
  · exact forEachGeo_eq fd obj params fuel _ hfuel

end Refinement

def pairFields : FieldsDotted Nat :=
  ⟨fun _ _ _ => [.obj true [("0", .obj true [("0", .number 1), ("1", .number 2)]),
    ("1", .obj true [("0", .number 3), ("1", .number 4)])]], fun _ _ => []⟩

def pairParams : TwoDIndexingParams Nat Nat := ⟨"loc", [], fun loc _ => .ok loc.length⟩

/-- The pair gives two locations, and a key for each. -/
example : (get2DKeys pairFields [] pairParams 3).run ⟨some [], some []⟩ =
    .ok () ⟨some [[.geoHash 2], [.geoHash 2]],
      some [[("0", .number 1), ("1", .number 2)], [("0", .number 3), ("1", .number 4)]]⟩ := rfl

end Normous.Index.TwoD
