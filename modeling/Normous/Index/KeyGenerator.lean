import Mathlib.Data.List.Forall2

/-!
# `getS2Keys`: index keys of a 2dsphere index

For each field of the key pattern, `getS2Keys` turns the elements `getFieldsDotted` finds into
that field's keys (S2 cells for a `"2dsphere"` field, the values with arrays exploded for any
other field, `null` for a missing field), and takes the Cartesian product with the keys of the
fields before it. `getFieldsDotted` and `S2SearchUtil::getKeysForObject` are oracles; a
`BSONObjSet` is a list, of which the code reads only membership and emptiness.

`getS2Keys_spec` proves the contract: a uassert of `getGeoKeys` (16754, 16755, 16756) only for an
element of a 2dsphere field that is not a document, does not parse or has no cells, and
otherwise exactly the keys whose `j`-th part is in the key set of field `j`, never empty.
`getHashKeys` is the key generator of a hashed index, with `BSONElementHasher::hash64` an
oracle.
-/

namespace Normous.Index.KeyGenerator

inductive Fault where
  | uassert (code : Nat) (msg : String)
  | verifyFailed

/-- A BSON element as the key generator reads it; `V` is the type of BSON values. -/
inductive Elem (V : Type) where
  /-- An array, with its elements. -/
  | array (elems : List V)
  /-- An embedded document. -/
  | object (value : V)
  /-- A value of any other type. -/
  | other (value : V)

/-- `BSONElement::isABSONObj`: a document or an array. -/
def Elem.isABSONObj {V : Type} : Elem V → Bool
  | .array _ => true
  | .object _ => true
  | .other _ => false

/-- One part of an index key: what `appendNull`, `appendUndefined`, `append` of a cell and
`appendAs` of a value write. -/
inductive KeyPart (V : Type) where
  | null
  | undefined
  | cell (s : String)
  | value (v : V)

abbrev Key (V : Type) := List (KeyPart V)

/-- `IndexNames::GEO_2DSPHERE`. -/
def geo2dsphere : String := "2dsphere"

section Generator

variable {V : Type} (cells : Elem V → Option (List String))

/-- The loop of `getGeoKeys`: each element must be a document whose geometry has cells. -/
def getGeoKeysLoop : List (Elem V) → List (Key V) → Except Fault (List (Key V))
  | [], out => .ok out
  | e :: es, out =>
    if !e.isABSONObj then .error (.uassert 16754 "Can't parse geometry from element: ")
    else match cells e with
      | none => .error (.uassert 16755 "Can't extract geo keys from object, malformed geometry?: ")
      | some cs =>
        if cs.length > 0 then getGeoKeysLoop es (out ++ cs.map fun c => [.cell c])
        else .error (.uassert 16756 "Unable to generate keys for (likely malformed) geometry: ")

/-- `getGeoKeys`: the cells of every element, or `null` when there are none. -/
def getGeoKeys (elements : List (Elem V)) (out : List (Key V)) : Except Fault (List (Key V)) := do
  let out ← getGeoKeysLoop cells elements out
  if out.length = 0 then pure (out ++ [[.null]]) else pure out

/-- `getLiteralKeysArray`: an empty array is indexed as `undefined`, a non-empty one is
exploded. -/
def getLiteralKeysArray (elems : List V) (out : List (Key V)) : List (Key V) :=
  if elems.length = 0 then out ++ [[.undefined]] else out ++ elems.map fun v => [.value v]

def getOneLiteralKey (elt : Elem V) (out : List (Key V)) : List (Key V) :=
  match elt with
  | .array elems => getLiteralKeysArray elems out
  | .object v => out ++ [[.value v]]
  | .other v => out ++ [[.value v]]

/-- `getLiteralKeys`: a missing field is indexed as `null`. -/
def getLiteralKeys (elements : List (Elem V)) (out : List (Key V)) : List (Key V) :=
  if elements.length = 0 then out ++ [[.null]]
  else elements.foldl (fun out e => getOneLiteralKey e out) out

/-- The keys of one field of the key pattern: its name, and its value string. -/
def keysForField (fieldsDotted : String → List (Elem V)) (field : String × String) :
    Except Fault (List (Key V)) :=
  let fieldElements := fieldsDotted field.1
  if field.2 = geo2dsphere then getGeoKeys cells fieldElements []
  else .ok (getLiteralKeys fieldElements [])

/-- The loop of `getS2Keys` over the key pattern, with the product so far. -/
def getS2KeysLoop (fieldsDotted : String → List (Elem V)) (keysToAdd : List (Key V)) :
    List (String × String) → Except Fault (List (Key V))
  | [] => .ok keysToAdd
  | field :: rest => do
    let keysForThisField ← keysForField cells fieldsDotted field
    if keysForThisField.isEmpty then throw .verifyFailed
    else if keysToAdd.isEmpty then getS2KeysLoop fieldsDotted keysForThisField rest
    else
      getS2KeysLoop fieldsDotted
        (keysToAdd.flatMap fun it => keysForThisField.map fun newIt => it ++ newIt.take 1) rest

/-- `getS2Keys`, for the document `getFieldsDotted` reads. -/
def getS2Keys (fieldsDotted : String → List (Elem V)) (keyPattern : List (String × String)) :
    Except Fault (List (Key V)) :=
  getS2KeysLoop cells fieldsDotted [] keyPattern

end Generator

section Spec

variable {V : Type} (cells : Elem V → Option (List String))

/-- The key set the contract gives a 2dsphere field: the cells of its elements, or `null` when
there are none. -/
def geoKeySpec (elements : List (Elem V)) (k : KeyPart V) : Prop :=
  (elements = [] ∧ k = .null) ∨ ∃ e ∈ elements, ∃ cs, cells e = some cs ∧ ∃ c ∈ cs, k = .cell c

def literalElemSpec : Elem V → KeyPart V → Prop
  | .array elems, k => (elems = [] ∧ k = .undefined) ∨ ∃ v ∈ elems, k = .value v
  | .object v, k => k = .value v
  | .other v, k => k = .value v

def literalKeySpec (elements : List (Elem V)) (k : KeyPart V) : Prop :=
  (elements = [] ∧ k = .null) ∨ ∃ e ∈ elements, literalElemSpec e k

/-- The key set `K_i` of field `i` of the key pattern. -/
def fieldKeySpec (fieldsDotted : String → List (Elem V)) (field : String × String)
    (k : KeyPart V) : Prop :=
  if field.2 = geo2dsphere then geoKeySpec cells (fieldsDotted field.1) k
  else literalKeySpec (fieldsDotted field.1) k

/-- The uassert of `getGeoKeys` that the element `e` accounts for: 16754 when it is not a
document, 16755 when its geometry does not parse, 16756 when the geometry has no cells. -/
def GeoFaultAt (e : Elem V) : Fault → Prop
  | .uassert code _ =>
    (code = 16754 ∧ e.isABSONObj = false) ∨ (code = 16755 ∧ e.isABSONObj = true ∧ cells e = none) ∨
      (code = 16756 ∧ e.isABSONObj = true ∧ cells e = some [])
  | .verifyFailed => False

/-- A uassert of `getGeoKeys` accounted for by an element of a 2dsphere field of `fields`. -/
def GeoFaultIn (fieldsDotted : String → List (Elem V)) (fields : List (String × String))
    (f : Fault) : Prop :=
  ∃ field ∈ fields, field.2 = geo2dsphere ∧ ∃ e ∈ fieldsDotted field.1, GeoFaultAt cells e f

theorem GeoFaultIn.mono {fieldsDotted : String → List (Elem V)} {fields fields' : List (String × String)}
    {f : Fault} (hf : GeoFaultIn cells fieldsDotted fields f) (h : fields ⊆ fields') :
    GeoFaultIn cells fieldsDotted fields' f :=
  let ⟨field, hm, hg⟩ := hf
  ⟨field, h hm, hg⟩

def SingleKeys (K : KeyPart V → Prop) (keys : List (Key V)) : Prop :=
  keys ≠ [] ∧ ∀ key, key ∈ keys ↔ ∃ k, key = [k] ∧ K k

theorem getGeoKeysLoop_spec (es : List (Elem V)) (out : List (Key V)) :
    (∃ f, getGeoKeysLoop cells es out = .error f ∧ ∃ e ∈ es, GeoFaultAt cells e f) ∨
      ∃ new, getGeoKeysLoop cells es out = .ok (out ++ new) ∧ (es ≠ [] → new ≠ []) ∧
        ∀ key, key ∈ new ↔ ∃ e ∈ es, ∃ cs, cells e = some cs ∧ ∃ c ∈ cs, key = [.cell c] := by
  induction es generalizing out with
  | nil => exact .inr ⟨[], by simp [getGeoKeysLoop], by simp, by simp⟩
  | cons e es ih =>
    simp only [getGeoKeysLoop]
    cases he : e.isABSONObj
    · exact .inl ⟨_, rfl, e, List.mem_cons_self _ _, by simp [GeoFaultAt, he]⟩
    cases hc : cells e with
    | none => exact .inl ⟨_, rfl, e, List.mem_cons_self _ _, by simp [GeoFaultAt, he, hc]⟩
    | some cs =>
      simp only [Bool.not_true, Bool.false_eq_true, ite_false]
      split
      · rename_i hcs
        rcases ih (out ++ cs.map fun c => [.cell c]) with ⟨f, hf, e', he', hg⟩ | ⟨new, hnew, -, hmem⟩
        · exact .inl ⟨f, hf, e', List.mem_cons_of_mem _ he', hg⟩
        refine .inr ⟨cs.map (fun c => [.cell c]) ++ new, by rw [hnew, List.append_assoc],
          fun _ h => ?_, fun key => ?_⟩
        · simp only [List.append_eq_nil, List.map_eq_nil_iff] at h
          exact List.ne_nil_of_length_pos hcs h.1
        · simp [hmem, hc, or_and_right, exists_or, @eq_comm _ _ key]
      · exact .inl ⟨_, rfl, e, List.mem_cons_self _ _, by simp_all [GeoFaultAt]⟩

theorem getGeoKeys_spec (es : List (Elem V)) :
    (∃ f, getGeoKeys cells es [] = .error f ∧ ∃ e ∈ es, GeoFaultAt cells e f) ∨
      ∃ keys, getGeoKeys cells es [] = .ok keys ∧ SingleKeys (geoKeySpec cells es) keys := by
  rcases getGeoKeysLoop_spec cells es [] with ⟨f, hf, hg⟩ | ⟨new, hnew, hne, hmem⟩
  · exact .inl ⟨f, by rw [getGeoKeys, hf]; rfl, hg⟩
  have hk : getGeoKeys cells es [] =
      if new.length = 0 then .ok (new ++ [[.null]]) else .ok new := by
    rw [getGeoKeys, hnew]
    rfl
  refine .inr ?_
  by_cases hn : new = []
  · have hes : es = [] := Classical.byContradiction fun h => hne h hn
    subst hes hn
    exact ⟨_, hk, by simp, by simp [geoKeySpec]⟩
  · have hes : es ≠ [] := fun h => hn (List.eq_nil_iff_forall_not_mem.mpr fun key hk => by
      simpa [h] using (hmem key).mp hk)
    refine ⟨new, by simp [hk, hn], hn, fun key => ?_⟩
    rw [hmem]
    simp only [geoKeySpec, hes, false_and, false_or]
    constructor
    · rintro ⟨e, he, cs, hc, c, hcs, rfl⟩
      exact ⟨_, rfl, e, he, cs, hc, c, hcs, rfl⟩
    · rintro ⟨k, rfl, e, he, cs, hc, c, hcs, rfl⟩
      exact ⟨e, he, cs, hc, c, hcs, rfl⟩

theorem getOneLiteralKey_append (e : Elem V) (out : List (Key V)) :
    getOneLiteralKey e out = out ++ getOneLiteralKey e [] := by
  cases e with
  | array elems =>
    by_cases h : elems.length = 0 <;> simp [getOneLiteralKey, getLiteralKeysArray, h]
  | object v => simp [getOneLiteralKey]
  | other v => simp [getOneLiteralKey]

theorem getOneLiteralKey_spec (e : Elem V) :
    SingleKeys (literalElemSpec e) (getOneLiteralKey e []) := by
  cases e with
  | array elems =>
    simp only [getOneLiteralKey, getLiteralKeysArray, List.nil_append]
    split
    · rename_i h
      rw [List.eq_nil_of_length_eq_zero h]
      exact ⟨by simp, by simp [literalElemSpec]⟩
    · rename_i h
      have hne : elems ≠ [] := fun h' => h (by simp [h'])
      refine ⟨by simpa using hne, fun key => ?_⟩
      simp only [List.mem_map, literalElemSpec, hne, false_and, false_or]
      constructor
      · rintro ⟨v, hv, rfl⟩
        exact ⟨_, rfl, v, hv, rfl⟩
      · rintro ⟨k, rfl, v, hv, rfl⟩
        exact ⟨v, hv, rfl⟩
  | object v => exact ⟨by simp [getOneLiteralKey], by simp [getOneLiteralKey, literalElemSpec]⟩
  | other v => exact ⟨by simp [getOneLiteralKey], by simp [getOneLiteralKey, literalElemSpec]⟩

theorem foldl_getOneLiteralKey (es : List (Elem V)) (out : List (Key V)) :
    es.foldl (fun out e => getOneLiteralKey e out) out =
      out ++ es.flatMap (getOneLiteralKey · []) := by
  induction es generalizing out with
  | nil => simp
  | cons e es ih => rw [List.foldl_cons, ih, getOneLiteralKey_append]; simp

theorem getLiteralKeys_spec (es : List (Elem V)) :
    SingleKeys (literalKeySpec es) (getLiteralKeys es []) := by
  unfold getLiteralKeys
  split
  · rename_i h
    rw [List.eq_nil_of_length_eq_zero h]
    exact ⟨by simp, by simp [literalKeySpec]⟩
  · rename_i h
    have hes : es ≠ [] := fun h' => h (by simp [h'])
    rw [foldl_getOneLiteralKey, List.nil_append]
    refine ⟨?_, fun key => ?_⟩
    · obtain ⟨e, es', rfl⟩ := List.exists_cons_of_ne_nil hes
      simp [(getOneLiteralKey_spec e).1]
    · simp only [List.mem_flatMap, literalKeySpec, hes, false_and, false_or]
      constructor
      · rintro ⟨e, he, hmem⟩
        obtain ⟨k, rfl, hk⟩ := ((getOneLiteralKey_spec e).2 key).mp hmem
        exact ⟨k, rfl, e, he, hk⟩
      · rintro ⟨k, rfl, e, he, hk⟩
        exact ⟨e, he, ((getOneLiteralKey_spec e).2 _).mpr ⟨k, rfl, hk⟩⟩

theorem keysForField_spec (fieldsDotted : String → List (Elem V)) (field : String × String) :
    (∃ f, keysForField cells fieldsDotted field = .error f ∧ GeoFaultIn cells fieldsDotted [field] f) ∨
      ∃ keys, keysForField cells fieldsDotted field = .ok keys ∧
        SingleKeys (fieldKeySpec cells fieldsDotted field) keys := by
  unfold keysForField
  by_cases h : field.2 = geo2dsphere
  · have hspec : fieldKeySpec cells fieldsDotted field = geoKeySpec cells (fieldsDotted field.1) :=
      funext fun _ => if_pos h
    rw [if_pos h, hspec]
    rcases getGeoKeys_spec cells (fieldsDotted field.1) with ⟨f, hf, e, he, hg⟩ | hok
    · exact .inl ⟨f, hf, field, List.mem_singleton_self _, h, e, he, hg⟩
    · exact .inr hok
  · have hspec : fieldKeySpec cells fieldsDotted field = literalKeySpec (fieldsDotted field.1) :=
      funext fun _ => if_neg h
    rw [if_neg h, hspec]
    exact .inr ⟨_, rfl, getLiteralKeys_spec _⟩

theorem forall₂_concat_iff {α β : Type} {R : α → β → Prop} {l : List α} {a : α} {m : List β} :
    List.Forall₂ R (l ++ [a]) m ↔ ∃ m' b, m = m' ++ [b] ∧ List.Forall₂ R l m' ∧ R a b := by
  rw [← List.forall₂_reverse_iff, List.reverse_append, List.reverse_singleton,
    List.singleton_append, List.forall₂_cons_left_iff]
  constructor
  · rintro ⟨b, u, hab, hu, hm⟩
    refine ⟨u.reverse, b, ?_, List.forall₂_reverse_iff.mp (by rwa [List.reverse_reverse]), hab⟩
    rw [← List.reverse_reverse m, hm, List.reverse_cons]
  · rintro ⟨m', b, rfl, hm', hab⟩
    exact ⟨b, m'.reverse, hab, List.forall₂_reverse_iff.mpr hm', by simp⟩

theorem product_spec {K : List (Key V)} {field : String × String}
    (fieldsDotted : String → List (Elem V))
    (hK : SingleKeys (fieldKeySpec cells fieldsDotted field) K) {done : List (String × String)}
    {keysToAdd : List (Key V)} (hne : keysToAdd ≠ [])
    (hmem : ∀ key, key ∈ keysToAdd ↔ List.Forall₂ (fieldKeySpec cells fieldsDotted) done key) :
    let product := keysToAdd.flatMap fun it => K.map fun newIt => it ++ newIt.take 1
    product ≠ [] ∧
      ∀ key, key ∈ product ↔ List.Forall₂ (fieldKeySpec cells fieldsDotted) (done ++ [field]) key := by
  intro product
  have hprod : ∀ key, key ∈ product ↔
      ∃ it ∈ keysToAdd, ∃ k, fieldKeySpec cells fieldsDotted field k ∧ key = it ++ [k] := by
    intro key
    simp only [product, List.mem_flatMap, List.mem_map]
    constructor
    · rintro ⟨it, hit, newIt, hnew, rfl⟩
      obtain ⟨k, rfl, hk⟩ := (hK.2 newIt).mp hnew
      exact ⟨it, hit, k, hk, rfl⟩
    · rintro ⟨it, hit, k, hk, rfl⟩
      exact ⟨it, hit, [k], (hK.2 _).mpr ⟨k, rfl, hk⟩, rfl⟩
  refine ⟨?_, fun key => ?_⟩
  · obtain ⟨it, hit⟩ := List.exists_mem_of_ne_nil _ hne
    obtain ⟨newIt, hnew⟩ := List.exists_mem_of_ne_nil _ hK.1
    exact List.ne_nil_of_mem (List.mem_flatMap.mpr ⟨it, hit, List.mem_map.mpr ⟨newIt, hnew, rfl⟩⟩)
  · rw [hprod, forall₂_concat_iff]
    constructor
    · rintro ⟨it, hit, k, hk, rfl⟩
      exact ⟨it, k, rfl, (hmem it).mp hit, hk⟩
    · rintro ⟨it, k, rfl, hit, hk⟩
      exact ⟨it, (hmem it).mpr hit, k, hk, rfl⟩

theorem getS2KeysLoop_cons {fieldsDotted : String → List (Elem V)} {field : String × String}
    {K : List (Key V)} (hK : keysForField cells fieldsDotted field = .ok K) (hne : K ≠ [])
    (keysToAdd : List (Key V)) (rest : List (String × String)) :
    getS2KeysLoop cells fieldsDotted keysToAdd (field :: rest) =
      getS2KeysLoop cells fieldsDotted (if keysToAdd.isEmpty then K
        else keysToAdd.flatMap fun it => K.map fun newIt => it ++ newIt.take 1) rest := by
  rw [getS2KeysLoop, hK]
  show (if K.isEmpty then _ else _) = _
  rw [if_neg (by simpa using hne)]
  cases keysToAdd.isEmpty <;> rfl

theorem getS2KeysLoop_spec (fieldsDotted : String → List (Elem V))
    (done rest : List (String × String)) (keysToAdd : List (Key V)) (hne : keysToAdd ≠ [])
    (hmem : ∀ key, key ∈ keysToAdd ↔ List.Forall₂ (fieldKeySpec cells fieldsDotted) done key) :
    (∃ f, getS2KeysLoop cells fieldsDotted keysToAdd rest = .error f ∧
        GeoFaultIn cells fieldsDotted rest f) ∨
      ∃ keys, getS2KeysLoop cells fieldsDotted keysToAdd rest = .ok keys ∧ keys ≠ [] ∧
        ∀ key, key ∈ keys ↔ List.Forall₂ (fieldKeySpec cells fieldsDotted) (done ++ rest) key := by
  induction rest generalizing done keysToAdd with
  | nil => exact .inr ⟨keysToAdd, rfl, hne, by simpa using hmem⟩
  | cons field rest ih =>
    rcases keysForField_spec cells fieldsDotted field with ⟨f, hf, hg⟩ | ⟨K, hK, hKs⟩
    · exact .inl ⟨f, by rw [getS2KeysLoop, hf]; rfl, hg.mono cells (by simp)⟩
    obtain ⟨hpne, hpmem⟩ := product_spec cells fieldsDotted hKs hne hmem
    rw [getS2KeysLoop_cons cells hK hKs.1, if_neg (by simpa using hne)]
    rcases ih (done ++ [field]) _ hpne hpmem with ⟨f, hf, hg⟩ | ⟨keys, hk, hkne, hkmem⟩
    · exact .inl ⟨f, hf, hg.mono cells (by simp)⟩
    · exact .inr ⟨keys, hk, hkne, by simpa using hkmem⟩

/-- For every key pattern with at least one field and every document, `getS2Keys` raises a
uassert of `getGeoKeys` only for an element of a 2dsphere field that is not a document (16754),
whose geometry does not parse (16755) or has no cells (16756); otherwise it returns a non-empty
key set: exactly the keys whose part `j` is in the key set of field `j` (a 2dsphere field's
cells or `null`; another field's values, with arrays exploded, an empty array as `undefined`
and a missing field as `null`). The `verify` on each field's keys never fails. -/
theorem getS2Keys_spec (fieldsDotted : String → List (Elem V))
    (keyPattern : List (String × String)) (hpat : keyPattern ≠ []) :
    (∃ f, getS2Keys cells fieldsDotted keyPattern = .error f ∧
        GeoFaultIn cells fieldsDotted keyPattern f) ∨
      ∃ keys, getS2Keys cells fieldsDotted keyPattern = .ok keys ∧ keys ≠ [] ∧
        ∀ key, key ∈ keys ↔ List.Forall₂ (fieldKeySpec cells fieldsDotted) keyPattern key := by
  obtain ⟨field, rest, rfl⟩ := List.exists_cons_of_ne_nil hpat
  rcases keysForField_spec cells fieldsDotted field with ⟨f, hf, hg⟩ | ⟨K, hK, hKs⟩
  · exact .inl ⟨f, by rw [getS2Keys, getS2KeysLoop, hf]; rfl, hg.mono cells (by simp)⟩
  rw [getS2Keys, getS2KeysLoop_cons cells hK hKs.1, if_pos List.isEmpty_nil]
  rcases getS2KeysLoop_spec cells fieldsDotted [field] rest K hKs.1 (fun key => by
    simp [hKs.2, List.forall₂_cons_left_iff, and_comm]) with ⟨f, hf, hg⟩ | hok
  · exact .inl ⟨f, hf, hg.mono cells (by simp)⟩
  · exact .inr hok

end Spec

theorem getS2Keys_spec_missing_field :
    [("loc", geo2dsphere)] ≠ [] ∧
      ((∃ f, getS2Keys (fun _ => none) (fun _ => ([] : List (Elem Nat)))
          [("loc", geo2dsphere)] = .error f ∧
          GeoFaultIn (fun _ => none) (fun _ => ([] : List (Elem Nat))) [("loc", geo2dsphere)] f) ∨
        ∃ keys, getS2Keys (fun _ => none) (fun _ => ([] : List (Elem Nat)))
            [("loc", geo2dsphere)] = .ok keys ∧ keys ≠ [] ∧
          ∀ key, key ∈ keys ↔ List.Forall₂ (fieldKeySpec (fun _ => none) fun _ => [])
            [("loc", geo2dsphere)] key) :=
  ⟨by simp, getS2Keys_spec _ _ _ (by simp)⟩

inductive HashKeysFault where
  | uassert (code : Nat) (msg : String)
  | massert (code : Nat) (msg : String)

section Hash

variable {V : Type} (hash64 : Elem V → Int)

/-- `makeSingleHashKey`: `BSONElementHasher::hash64` of the element, with the index's seed
(an oracle), for hash version 0 only. -/
def makeSingleHashKey (e : Elem V) (v : Int) : Except HashKeysFault Int :=
  if v = 0 then .ok (hash64 e) else .error (.massert 16767 "Only HashVersion 0 has been defined")

/-- `getHashKeys`: `fieldVal` is what `getFieldDottedOrArray` finds (`none` for EOO) and
`nullElem` the element of `BSON("" << BSONNULL)`; each key `{"": hash}` is written as its
hash. -/
def getHashKeys (fieldVal : Option (Elem V)) (nullElem : Elem V) (hashVersion : Int)
    (isSparse : Bool) : Except HashKeysFault (List Int) :=
  match fieldVal with
  | some (.array _) =>
    .error (.uassert 16766 "Error: hashed indexes do not currently support array values")
  | some e => do
    let key ← makeSingleHashKey hash64 e hashVersion
    pure [key]
  | none =>
    if !isSparse then do
      let key ← makeSingleHashKey hash64 nullElem hashVersion
      pure [key]
    else pure []

/-- **A hashed index is never multikey.** `getHashKeys` succeeds exactly when the value is not
an array and the hash version is 0 (a document a sparse index skips needs neither), and then
gives no key to a document without the field in a sparse index and otherwise the one key
hashing its value, or `null` where the field is missing. -/
theorem getHashKeys_eq_ok_iff (fieldVal : Option (Elem V)) (nullElem : Elem V)
    (hashVersion : Int) (isSparse : Bool) (keys : List Int) :
    getHashKeys hash64 fieldVal nullElem hashVersion isSparse = .ok keys ↔
      (∀ elems, fieldVal ≠ some (.array elems)) ∧
      (hashVersion = 0 ∨ (fieldVal.isNone && isSparse) = true) ∧
      keys = if (fieldVal.isNone && isSparse) = true then [] else [hash64 (fieldVal.getD nullElem)] := by
  unfold getHashKeys makeSingleHashKey
  rcases fieldVal with _ | ⟨_ | _ | _⟩ <;> cases isSparse <;> by_cases hv : hashVersion = 0 <;>
    simp [hv, eq_comm, pure, Except.pure, bind, Except.bind]

end Hash

end Normous.Index.KeyGenerator
