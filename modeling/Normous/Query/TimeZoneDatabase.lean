import Mathlib.Data.List.Basic

/-!
# The time zone database: loading, lookup and `fromString`

`TimeZoneDatabase::loadTimeZoneInfo` parses the file of every identifier timelib lists and
stores the zone under its identifier in `_timeZones`; a file that fails to parse stops the
server (fassert 40475). `getTimeZone` raises 40485 for an identifier that is not there. The
identifier list and `timelib_parse_tzfile` are oracles; `_timeZones` is an association list
with its latest assignment first. `loadTimeZoneInfo_getTimeZone` proves the round trip: after a
load that returns, `getTimeZone` finds exactly the listed identifiers, each with the zone its
file parsed to; `loadTimeZoneInfo_first_fault` that a failed load stops at the first identifier
whose parse failed.

`fromString` reads the fields `timelib_strtotime` found, sets a wholly missing time to midnight,
and rejects a string with a field still missing (40545).
-/

namespace Normous.Query.TimeZoneDatabase

def timelibErrorNoError : Int := 0

/-- `TimeZone`, by its `_tzInfo`: `none` is the null pointer of `utcZone`. -/
structure TimeZone (Z : Type) where
  tzInfo : Option Z
  deriving DecidableEq, Repr

/-- `TimeZoneDatabase::utcZone`. -/
def utcZone {Z : Type} : TimeZone Z := ⟨none⟩

/-- A failed `invariant` or `fassertFailedWithStatusNoTrace` (both stop the server), or a
`uassert`. -/
inductive Fault where
  | invariantFailure
  | fassert (msgid : Nat) (reason : String)
  | uassert (code : Nat) (msg : String)
  deriving DecidableEq, Repr

section Load

variable {D Z : Type} (identifiers : D → List String) (parse : D → String → Option Z × Int)
  (errorMessage : Int → String)

def parseFailedReason (id : String) (errorCode : Int) : String :=
  "failed to parse time zone file for time zone identifier \"" ++ id ++ "\": " ++
    errorMessage errorCode

/-- The `for` loop of `loadTimeZoneInfo` over the listed identifiers, with `_timeZones` so
far; `parse db id` is the `tzInfo` and `errorCode` of `timelib_parse_tzfile`. -/
def loadLoop (db : D) : List String → List (String × TimeZone Z) →
    Except Fault (List (String × TimeZone Z))
  | [], timeZones => .ok timeZones
  | id :: ids, timeZones =>
    match parse db id with
    | (none, errorCode) =>
      if errorCode = timelibErrorNoError then .error .invariantFailure
      else .error (.fassert 40475 (parseFailedReason errorMessage id errorCode))
    | (some tzInfo, errorCode) =>
      if errorCode = timelibErrorNoError then
        loadLoop db ids ((id, ⟨some tzInfo⟩) :: timeZones)
      else .error .invariantFailure

/-- `TimeZoneDatabase::loadTimeZoneInfo`, as both constructors call it, on an empty
`_timeZones`. -/
def loadTimeZoneInfo (timeZoneDatabase : Option D) : Except Fault (List (String × TimeZone Z)) :=
  match timeZoneDatabase with
  | none => .error .invariantFailure
  | some db => loadLoop parse errorMessage db (identifiers db) []

end Load

def unrecognizedMsg (timeZoneId : String) : String :=
  "unrecognized time zone identifier: \"" ++ timeZoneId ++ "\""

/-- `TimeZoneDatabase::getTimeZone`. -/
def getTimeZone {Z : Type} (timeZones : List (String × TimeZone Z)) (timeZoneId : String) :
    Except Fault (TimeZone Z) :=
  match timeZones.lookup timeZoneId with
  | some tz => .ok tz
  | none => .error (.uassert 40485 (unrecognizedMsg timeZoneId))

section LoadSpec

variable {D Z : Type} (identifiers : D → List String) (parse : D → String → Option Z × Int)
  (errorMessage : Int → String) (db : D)

def bodyFault (id : String) : Option Z × Int → Option Fault
  | (none, errorCode) =>
    some (if errorCode = timelibErrorNoError then .invariantFailure
      else .fassert 40475 (parseFailedReason errorMessage id errorCode))
  | (some _, errorCode) => if errorCode = timelibErrorNoError then none else some .invariantFailure

theorem bodyFault_eq_none {id : String} {r : Option Z × Int} :
    bodyFault errorMessage id r = none ↔ ∃ z, r = (some z, timelibErrorNoError) := by
  rcases r with ⟨_ | z, e⟩ <;> simp [bodyFault]

theorem loadLoop_cons (id : String) (ids : List String) (acc : List (String × TimeZone Z)) :
    loadLoop parse errorMessage db (id :: ids) acc =
      match bodyFault errorMessage id (parse db id) with
      | some f => .error f
      | none => loadLoop parse errorMessage db ids ((id, ⟨(parse db id).1⟩) :: acc) := by
  rw [loadLoop]
  rcases parse db id with ⟨_ | z, e⟩ <;> simp only [bodyFault] <;> split <;> rfl

theorem loadLoop_ok : ∀ (ids : List String) (acc tzs : List (String × TimeZone Z)),
    loadLoop parse errorMessage db ids acc = .ok tzs →
      (∀ id ∈ ids, ∃ z, parse db id = (some z, timelibErrorNoError)) ∧
      ∀ id, tzs.lookup id = if id ∈ ids then some ⟨(parse db id).1⟩ else acc.lookup id
  | [], acc, tzs, h => by
    cases h
    simp
  | id :: ids, acc, tzs, h => by
    rw [loadLoop_cons] at h
    cases hf : bodyFault errorMessage id (parse db id) with
    | some f => simp [hf] at h
    | none =>
      rw [hf] at h
      obtain ⟨hall, hlook⟩ := loadLoop_ok ids _ tzs h
      refine ⟨List.forall_mem_cons.mpr ⟨(bodyFault_eq_none errorMessage).mp hf, hall⟩, fun j => ?_⟩
      rw [hlook]
      by_cases hj : j = id
      · subst hj
        by_cases hm : j ∈ ids <;> simp [hm]
      · have hne : (j == id) = false := by simpa using hj
        by_cases hm : j ∈ ids <;> simp [hm, hj, hne, List.lookup_cons]

theorem loadLoop_error : ∀ (ids : List String) (acc : List (String × TimeZone Z)) (f : Fault),
    loadLoop parse errorMessage db ids acc = .error f →
      ∃ pre id post, ids = pre ++ id :: post ∧
        (∀ p ∈ pre, bodyFault errorMessage p (parse db p) = none) ∧
        bodyFault errorMessage id (parse db id) = some f
  | [], acc, f, h => by cases h
  | id :: ids, acc, f, h => by
    rw [loadLoop_cons] at h
    cases hf : bodyFault errorMessage id (parse db id) with
    | some g =>
      rw [hf] at h
      cases h
      exact ⟨[], id, ids, rfl, by simp, hf⟩
    | none =>
      rw [hf] at h
      obtain ⟨pre, j, post, rfl, hpre, hj⟩ := loadLoop_error ids _ f h
      exact ⟨id :: pre, j, post, rfl, List.forall_mem_cons.mpr ⟨hf, hpre⟩, hj⟩

/-- **The time zone store round trip.** After a load that returns, every listed time zone
file parsed cleanly, and `getTimeZone` finds exactly the listed identifiers, each with the
zone its file parsed to, and raises 40485 for any other identifier. -/
theorem loadTimeZoneInfo_getTimeZone (tzs : List (String × TimeZone Z))
    (hload : loadTimeZoneInfo identifiers parse errorMessage (some db) = .ok tzs)
    (timeZoneId : String) :
    (∀ id ∈ identifiers db, ∃ z, parse db id = (some z, timelibErrorNoError)) ∧
    getTimeZone tzs timeZoneId =
      if timeZoneId ∈ identifiers db then .ok ⟨(parse db timeZoneId).1⟩
      else .error (.uassert 40485 (unrecognizedMsg timeZoneId)) := by
  obtain ⟨hall, hlook⟩ := loadLoop_ok parse errorMessage db _ [] tzs hload
  refine ⟨hall, ?_⟩
  rw [getTimeZone, hlook]
  by_cases hm : timeZoneId ∈ identifiers db <;> simp [hm]

theorem loadTimeZoneInfo_getTimeZone_utc :
    loadTimeZoneInfo (fun _ : Unit => ["UTC"]) (fun _ _ => (some 0, timelibErrorNoError))
        toString (some ()) = .ok [("UTC", (⟨some 0⟩ : TimeZone Nat))] ∧
      (∀ id ∈ ["UTC"], ∃ z, ((some 0, timelibErrorNoError) : Option Nat × Int) =
        (some z, timelibErrorNoError)) ∧
      getTimeZone [("UTC", (⟨some 0⟩ : TimeZone Nat))] "UTC" =
        if "UTC" ∈ ["UTC"] then .ok ⟨some 0⟩
        else .error (.uassert 40485 (unrecognizedMsg "UTC")) :=
  ⟨rfl, loadTimeZoneInfo_getTimeZone (fun _ : Unit => ["UTC"])
    (fun _ _ => (some 0, timelibErrorNoError)) toString () _ rfl "UTC"⟩

/-- **A failed load names the first bad file.** A load that does not return has parsed every
identifier before some listed identifier cleanly, and raises the fault of that identifier's
parse: fassert 40475 with its name and timelib's error message, or a failed invariant when
`tzInfo` and `errorCode` disagree. -/
theorem loadTimeZoneInfo_first_fault (f : Fault)
    (hload : loadTimeZoneInfo identifiers parse errorMessage (some db) = .error f) :
    ∃ pre id post, identifiers db = pre ++ id :: post ∧
      (∀ p ∈ pre, ∃ z, parse db p = (some z, timelibErrorNoError)) ∧
      bodyFault errorMessage id (parse db id) = some f := by
  obtain ⟨pre, id, post, hids, hpre, hid⟩ := loadLoop_error parse errorMessage db _ [] f hload
  exact ⟨pre, id, post, hids, fun p hp => (bodyFault_eq_none errorMessage).mp (hpre p hp), hid⟩

theorem loadTimeZoneInfo_first_fault_bad_file :
    loadTimeZoneInfo (fun _ : Unit => ["UTC", "Bad"])
        (fun _ id => if id = "UTC" then ((some 0 : Option Nat), timelibErrorNoError) else (none, 2))
        toString (some ()) = .error (.fassert 40475 (parseFailedReason toString "Bad" 2)) ∧
      ∃ pre id post, ["UTC", "Bad"] = pre ++ id :: post ∧
        (∀ p ∈ pre, ∃ z, (if p = "UTC" then ((some 0 : Option Nat), timelibErrorNoError)
          else (none, 2)) = (some z, timelibErrorNoError)) ∧
        bodyFault toString id (if id = "UTC" then ((some 0 : Option Nat), timelibErrorNoError)
          else (none, 2)) = some (.fassert 40475 (parseFailedReason toString "Bad" 2)) :=
  ⟨rfl, loadTimeZoneInfo_first_fault (fun _ : Unit => ["UTC", "Bad"])
    (fun _ id => if id = "UTC" then ((some 0 : Option Nat), timelibErrorNoError) else (none, 2))
    toString () _ rfl⟩

end LoadSpec

/-- The fields of a `timelib_time` that `fromString` reads; `none` is `TIMELIB_UNSET`. The
fraction `f` is a `double` the code only sets. -/
structure TimelibTime where
  y : Option Int
  m : Option Int
  d : Option Int
  h : Option Int
  i : Option Int
  s : Option Int
  f : Float

def TimelibTime.fillMissingTime (t : TimelibTime) : TimelibTime :=
  if t.h = none ∧ t.i = none ∧ t.s = none then { t with h := some 0, i := some 0, s := some 0, f := 0 }
  else t

def incompleteMsg (dateString : String) : String :=
  "an incomplete date/time string has been found, with elements missing: \"" ++ dateString ++ "\""

/-- `TimeZoneDatabase::fromString`: `strtotime` is `timelib_strtotime`, and `finish` the
milliseconds `timelib_update_ts`, `timelib_unixtime2local` and the `double` arithmetic of the
return statement make of the completed time. -/
def fromString (strtotime : String → TimelibTime) (finish : TimelibTime → Int)
    (dateString : String) : Except Fault Int :=
  let t := (strtotime dateString).fillMissingTime
  if t.y = none ∨ t.m = none ∨ t.d = none ∨ t.h = none ∨ t.i = none ∨ t.s = none then
    .error (.uassert 40545 (incompleteMsg dateString))
  else .ok (finish t)

/-- **What `fromString` accepts.** A string is accepted exactly when timelib found its year,
month and day, and either all of hour, minute and second or none of them (then it is
midnight); any other string raises 40545 naming it. -/
theorem fromString_eq (strtotime : String → TimelibTime) (finish : TimelibTime → Int)
    (dateString : String) :
    fromString strtotime finish dateString =
      if (strtotime dateString).y.isSome ∧ (strtotime dateString).m.isSome ∧
          (strtotime dateString).d.isSome ∧
          ((strtotime dateString).h.isSome ∧ (strtotime dateString).i.isSome ∧
              (strtotime dateString).s.isSome ∨
            (strtotime dateString).h = none ∧ (strtotime dateString).i = none ∧
              (strtotime dateString).s = none) then
        .ok (finish (strtotime dateString).fillMissingTime)
      else .error (.uassert 40545 (incompleteMsg dateString)) := by
  unfold fromString TimelibTime.fillMissingTime
  rcases strtotime dateString with ⟨y, m, d, h, i, s, f⟩
  rcases h with _ | h <;> rcases i with _ | i <;> rcases s with _ | s <;>
    rcases y with _ | y <;> rcases m with _ | m <;> rcases d with _ | d <;> simp

end Normous.Query.TimeZoneDatabase
