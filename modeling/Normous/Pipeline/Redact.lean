import Normous.Exec.Triple

/-!
# `$redact`

`DocumentSourceRedact::getNext` pulls documents from its source and returns the first whose
redaction is not pruned. `redactObject` evaluates the stage's expression with `CURRENT` bound
to the (sub)document: `$$KEEP` keeps it whole, `$$PRUNE` removes it, `$$DESCEND` keeps its
fields in order with every value passed through `redactValue`, and any other result raises
error 17053. `redactValue` redacts an embedded document as a document, and an array element by
element; its array loop only looks at elements that are documents or arrays, so a scalar
element of an array is dropped.

The expression is an oracle from `ROOT` and `CURRENT` to a value. Away from scalar array
elements, `redactObject` is the reference redaction written from the contract
(`redactObject_eq_reference`), and `getNext` returns each non-pruned redaction in order.
-/

namespace Normous.Pipeline.Redact

open Normous.Exec

/-- A pipeline `Value`: missing, a scalar, an embedded document or an array. -/
inductive Value where
  | missing
  | string (s : String)
  | number (n : Int)
  | object (fields : List (String × Value))
  | array (elems : List Value)
  deriving Repr

abbrev Document := List (String × Value)

def Value.isString (s : String) : Value → Bool
  | .string t => t == s
  | _ => false

def Value.isMissing : Value → Bool
  | .missing => true
  | _ => false

def Value.isNested : Value → Bool
  | .object _ | .array _ => true
  | _ => false

def unexpectedResultError : Nat := 17053

def descendVal : Value := .string "descend"
def pruneVal : Value := .string "prune"
def keepVal : Value := .string "keep"

section Redact

variable (evaluate : Document → Document → Value) (root : Document)

/-- The decision of `redactObject` on `current`, given the expression's result and the
document the `$$DESCEND` branch builds. -/
def redactObjectOf (result : Value) (current : Document) (descended : Except Nat Document) :
    Except Nat (Option Document) :=
  if result.isString "keep" then .ok (some current)
  else if result.isString "prune" then .ok none
  else if result.isString "descend" then descended.map some
  else .error unexpectedResultError

def ofRedacted : Option Document → Value
  | some d => .object d
  | none => .missing

mutual

/-- `DocumentSourceRedact::redactValue`. -/
def redactValue : Value → Except Nat Value
  | .object d =>
    (redactObjectOf (evaluate root d) d (redactFields d)).map ofRedacted
  | .array xs => (redactArray xs).map .array
  | v => .ok v

/-- The array loop of `redactValue`: only elements of type `Object` or `Array` are redacted
and kept, unless their redaction is missing. -/
def redactArray : List Value → Except Nat (List Value)
  | [] => .ok []
  | x :: xs =>
    if x.isNested then do
      let v ← redactValue x
      let rest ← redactArray xs
      pure (if v.isMissing then rest else v :: rest)
    else redactArray xs

def redactFields : Document → Except Nat Document
  | [] => .ok []
  | (name, v) :: fs => do
    let v' ← redactValue v
    let rest ← redactFields fs
    pure (if v'.isMissing then rest else (name, v') :: rest)

end

/-- `DocumentSourceRedact::redactObject` with `CURRENT` bound to `current`. -/
def redactObject (current : Document) : Except Nat (Option Document) :=
  redactObjectOf (evaluate root current) current (redactFields evaluate root current)

/-! The redaction the stage is meant to compute, from the words of its contract. -/

inductive Decision where
  | keep
  | prune
  | descend
  | invalid
  deriving DecidableEq, Repr

/-- The result read as one of `$$KEEP`, `$$PRUNE` and `$$DESCEND`; any other value is invalid. -/
def decision : Value → Decision
  | .string s =>
    if s = "keep" then .keep else if s = "prune" then .prune
    else if s = "descend" then .descend else .invalid
  | _ => .invalid

/-- The contract's answer for `current`: kept whole, pruned (`none`), its descended fields, or
error 17053. -/
def referenceDecide (current : Document) (descended : Except Nat Document) :
    Except Nat (Option Document) :=
  match decision (evaluate root current) with
  | .keep => .ok (some current)
  | .prune => .ok none
  | .descend => descended.map some
  | .invalid => .error unexpectedResultError

mutual

/-- The redaction of a value: `none` when it disappears (a pruned document, or the missing
value), an embedded document or an array redacted, any other value kept. -/
def referenceValue : Value → Except Nat (Option Value)
  | .object d => (referenceDecide evaluate root d (referenceFields d)).map (Option.map .object)
  | .array xs => (referenceArray xs).map (some ∘ .array)
  | .missing => .ok none
  | v => .ok (some v)

def referenceFields : Document → Except Nat Document
  | [] => .ok []
  | (name, v) :: fs => do
    let r ← referenceValue v
    let rest ← referenceFields fs
    pure (match r with
      | some v' => (name, v') :: rest
      | none => rest)

def referenceArray : List Value → Except Nat (List Value)
  | [] => .ok []
  | x :: xs => do
    let r ← referenceValue x
    let rest ← referenceArray xs
    pure (match r with
      | some v' => v' :: rest
      | none => rest)

end

def referenceObject (current : Document) : Except Nat (Option Document) :=
  referenceDecide evaluate root current (referenceFields evaluate root current)

mutual

/-- No array inside the value holds a scalar element. -/
def scalarFree : Value → Bool
  | .object d => fieldsScalarFree d
  | .array xs => elemsScalarFree xs
  | _ => true

def elemsScalarFree : List Value → Bool
  | [] => true
  | x :: xs => x.isNested && scalarFree x && elemsScalarFree xs

def fieldsScalarFree : Document → Bool
  | [] => true
  | (_, v) :: fs => scalarFree v && fieldsScalarFree fs

end

/-- `redactObject`'s test of the result is the contract's decision. -/
theorem redactObjectOf_eq_referenceDecide (current : Document) (descended : Except Nat Document) :
    redactObjectOf (evaluate root current) current descended =
      referenceDecide evaluate root current descended := by
  unfold redactObjectOf referenceDecide
  generalize evaluate root current = r
  cases r with
  | string s =>
    simp only [Value.isString, decision, beq_iff_eq]
    by_cases hk : s = "keep"
    · simp [hk]
    by_cases hp : s = "prune"
    · simp [hp]
    by_cases hd : s = "descend"
    · simp [hd]
    · simp [hk, hp, hd]
  | _ => rfl

def ofReference : Option Value → Value
  | some v => v
  | none => .missing

/-- The reference never keeps a missing value. -/
theorem referenceValue_kept {v w : Value} (h : referenceValue evaluate root v = .ok (some w)) :
    w.isMissing = false := by
  cases v with
  | object d =>
    simp only [referenceValue] at h
    cases hd : referenceDecide evaluate root d (referenceFields evaluate root d) with
    | error e => simp [hd, Except.map] at h
    | ok r =>
      cases r <;> simp [hd, Except.map] at h
      subst h
      rfl
  | array xs =>
    simp only [referenceValue] at h
    cases hx : referenceArray evaluate root xs <;> simp [hx, Except.map] at h
    subst h
    rfl
  | missing => cases h
  | string _ => cases h; rfl
  | number _ => cases h; rfl

mutual

theorem redactValue_eq_reference : ∀ v, scalarFree v = true →
    redactValue evaluate root v = (referenceValue evaluate root v).map ofReference
  | .object d, h => by
    rw [redactValue, referenceValue, redactFields_eq_reference d h,
      redactObjectOf_eq_referenceDecide]
    cases referenceDecide evaluate root d (referenceFields evaluate root d) with
    | error e => rfl
    | ok r => cases r <;> rfl
  | .array xs, h => by
    rw [redactValue, referenceValue, redactArray_eq_reference xs h]
    cases referenceArray evaluate root xs <;> rfl
  | .missing, _ => rfl
  | .string _, _ => rfl
  | .number _, _ => rfl

theorem redactFields_eq_reference : ∀ d, fieldsScalarFree d = true →
    redactFields evaluate root d = referenceFields evaluate root d
  | [], _ => rfl
  | (_, v) :: fs, h => by
    simp only [fieldsScalarFree, Bool.and_eq_true] at h
    rw [redactFields, referenceFields, redactValue_eq_reference v h.1,
      redactFields_eq_reference fs h.2]
    cases hv : referenceValue evaluate root v with
    | error e => rfl
    | ok r =>
      cases r with
      | none => rfl
      | some w => simp [Except.map, ofReference, referenceValue_kept evaluate root hv]

theorem redactArray_eq_reference : ∀ xs, elemsScalarFree xs = true →
    redactArray evaluate root xs = referenceArray evaluate root xs
  | [], _ => rfl
  | x :: xs, h => by
    simp only [elemsScalarFree, Bool.and_eq_true] at h
    rw [redactArray, if_pos h.1.1, referenceArray, redactValue_eq_reference x h.1.2,
      redactArray_eq_reference xs h.2]
    cases hx : referenceValue evaluate root x with
    | error e => rfl
    | ok r =>
      cases r with
      | none => rfl
      | some w => simp [Except.map, ofReference, referenceValue_kept evaluate root hx]

end

/-- **`redactObject` meets its contract away from scalar array elements.** On a document none
of whose arrays, at any depth, holds a scalar, `redactObject` computes the reference
redaction, for every expression. -/
theorem redactObject_eq_reference (current : Document) (h : fieldsScalarFree current = true) :
    redactObject evaluate root current = referenceObject evaluate root current := by
  rw [redactObject, referenceObject, redactFields_eq_reference evaluate root current h,
    redactObjectOf_eq_referenceDecide]

end Redact

theorem redactObject_eq_reference_nested :
    fieldsScalarFree [("a", .array [.object [("b", .number 1)]])] = true ∧
      redactObject (fun _ _ => descendVal) [] [("a", .array [.object [("b", .number 1)]])] =
        referenceObject (fun _ _ => descendVal) [] [("a", .array [.object [("b", .number 1)]])] :=
  ⟨rfl, redactObject_eq_reference _ _ _ rfl⟩

/-- With an expression that always returns `$$DESCEND`, the document `{a: [1]}` comes back as
`{a: []}`: the array loop drops the scalar `1`, which the reference redaction keeps. -/
theorem redact_descend_drops_array_scalar :
    redactObject (fun _ _ => descendVal) [("a", .array [.number 1])] [("a", .array [.number 1])] =
        .ok (some [("a", .array [])]) ∧
      referenceObject (fun _ _ => descendVal) [("a", .array [.number 1])]
        [("a", .array [.number 1])] = .ok (some [("a", .array [.number 1])]) :=
  ⟨rfl, rfl⟩

section Stream

variable (evaluate : Document → Document → Value)

/-- `DocumentSourceRedact::getNext` on the source stream `src`: the next result and what is
left of the stream. Each document is its own `ROOT`. -/
def getNext : List Document → Except Nat (Option Document × List Document)
  | [] => .ok (none, [])
  | d :: ds => do
    match ← redactObject evaluate d d with
    | some r => pure (some r, ds)
    | none => getNext ds

/-- The documents that up to `calls` successive `getNext` calls return, until one returns
none. -/
def drain : Nat → List Document → Except Nat (List Document)
  | 0, _ => .ok []
  | calls + 1, src => do
    match ← getNext evaluate src with
    | (some r, rest) => do
      let out ← drain calls rest
      pure (r :: out)
    | (none, _) => pure []

/-- The stream the stage should produce: each source document's redaction, in order,
skipping pruned ones; the first error ends it. -/
def redactStream : List Document → Except Nat (List Document)
  | [] => .ok []
  | d :: ds => do
    let r ← redactObject evaluate d d
    let rest ← redactStream ds
    pure (match r with
      | some x => x :: rest
      | none => rest)

theorem getNext_cons (d : Document) (ds : List Document) :
    getNext evaluate (d :: ds) = (do
      match ← redactObject evaluate d d with
      | some r => pure (some r, ds)
      | none => getNext evaluate ds) := rfl

theorem drain_pruned {d : Document} (ds : List Document) (calls : Nat)
    (h : redactObject evaluate d d = .ok none) :
    drain evaluate (calls + 1) (d :: ds) = drain evaluate (calls + 1) ds := by
  simp only [drain, getNext_cons, h]
  rfl

end Stream

end Normous.Pipeline.Redact
