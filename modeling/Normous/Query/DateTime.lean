/-!
# Dates: whole seconds, format strings and weeks

`seconds(date)` rounds a millisecond count toward negative infinity by subtracting 999 from a
negative count before the truncating division. That `long long` subtraction overflows, which is
undefined behaviour, for the 999 smallest counts, where the model answers `none`
(`seconds_eq_none_iff`); above them the millisecond field completes `seconds` to the same
instant (`seconds_floor_parts`).

`TimeZone::validateFormat` walks a `$dateToString` format with an iterator, advanced once more
by hand after each `%`; the model reads `*it` at the end of the string as a fault.
`validateFormat_spec` states the result against the grammar `(c | '%' f)*`: a string of it is
accepted, otherwise the first violation raises 18535 or 18536, and the loop never reads past
the end. `TimeZone::week` counts the Sundays from January 1 to the date (`week_counts_sundays`).
-/

namespace Normous.Query.DateTime

def llongMin : Int := -9223372036854775808

def llongMax : Int := 9223372036854775807

/-- `a - b` in `long long`: `none` when it overflows. -/
def subLongLong (a b : Int) : Option Int :=
  if llongMin ≤ a - b ∧ a - b ≤ llongMax then some (a - b) else none

/-- `durationCount<Seconds>(Milliseconds(millis))`: a division truncating toward zero. -/
def durationCountSeconds (millis : Int) : Int := millis.tdiv 1000

def seconds (millis : Int) : Option Int :=
  if millis < 0 then
    if Int.tdiv (-1999) 1000 ≠ -2 then (subLongLong millis (1000 - 1)).map durationCountSeconds
    else some (durationCountSeconds millis)
  else some (durationCountSeconds millis)

/-- The `millisecond` field both parts constructors compute: `date % 1000`, plus 1000 when
negative. -/
def partsMillisecond (millis : Int) : Int :=
  let ms := millis.tmod 1000
  if ms ≥ 0 then ms else 1000 + ms

/-- `TimeZone::DateParts::millisecond`. -/
def DateParts.millisecond (millis : Int) : Int := partsMillisecond millis

/-- `TimeZone::Iso8601DateParts::millisecond`. -/
def Iso8601DateParts.millisecond (millis : Int) : Int := partsMillisecond millis

theorem tdiv_thousand (a : Int) : a.tdiv 1000 = if 0 ≤ a then a / 1000 else -((-a) / 1000) := by
  split
  · exact Int.tdiv_eq_ediv ‹_› (by decide)
  · rw [← Int.tdiv_eq_ediv (by omega) (by decide), Int.neg_tdiv, Int.neg_neg]

theorem tmod_thousand (a : Int) : a.tmod 1000 = a - 1000 * a.tdiv 1000 := by
  have := Int.tdiv_add_tmod a 1000
  omega

theorem seconds_eq_none_iff (m : Int) : seconds m = none ↔ m < llongMin + 999 := by
  unfold seconds subLongLong
  rw [if_pos (by decide : Int.tdiv (-1999) 1000 ≠ -2)]
  unfold llongMin llongMax
  by_cases hm : m < 0
  · rw [if_pos hm]
    split <;> simp <;> omega
  · rw [if_neg hm]
    simp
    omega

theorem partsMillisecond_spec (m : Int) :
    0 ≤ partsMillisecond m ∧ partsMillisecond m < 1000 ∧
      1000 * m.fdiv 1000 + partsMillisecond m = m := by
  unfold partsMillisecond
  have hq := tdiv_thousand m
  have hr := tmod_thousand m
  rw [Int.fdiv_eq_ediv _ (by decide)]
  by_cases hms : m.tmod 1000 ≥ 0
  · simp only [hms, if_true, true_and]
    split at hq <;> omega
  · simp only [hms, if_false]
    split at hq <;> omega

/-- For every count from `LLONG_MIN + 999` on, `seconds` is the floor of the count over 1000,
and the millisecond fields of `DateParts` and `Iso8601DateParts` lie in `[0, 1000)` and
describe the same instant with it. -/
theorem seconds_floor_parts (m : Int) (hm : llongMin + 999 ≤ m) :
    seconds m = some (m.fdiv 1000) ∧
      (0 ≤ DateParts.millisecond m ∧ DateParts.millisecond m < 1000 ∧
        1000 * m.fdiv 1000 + DateParts.millisecond m = m) ∧
      (0 ≤ Iso8601DateParts.millisecond m ∧ Iso8601DateParts.millisecond m < 1000 ∧
        1000 * m.fdiv 1000 + Iso8601DateParts.millisecond m = m) := by
  refine ⟨?_, partsMillisecond_spec m, partsMillisecond_spec m⟩
  unfold seconds subLongLong durationCountSeconds
  rw [if_pos (by decide : Int.tdiv (-1999) 1000 ≠ -2), Int.fdiv_eq_ediv _ (by decide)]
  unfold llongMin llongMax at *
  by_cases hneg : m < 0
  · rw [if_pos hneg, if_pos (by omega), Option.map_some', tdiv_thousand]
    split <;> simp <;> omega
  · rw [if_neg hneg, tdiv_thousand, if_pos (by omega)]

theorem seconds_floor_parts_epoch :
    llongMin + 999 ≤ -1 ∧
      (seconds (-1) = some ((-1 : Int).fdiv 1000) ∧
        (0 ≤ DateParts.millisecond (-1) ∧ DateParts.millisecond (-1) < 1000 ∧
          1000 * (-1 : Int).fdiv 1000 + DateParts.millisecond (-1) = -1) ∧
        (0 ≤ Iso8601DateParts.millisecond (-1) ∧ Iso8601DateParts.millisecond (-1) < 1000 ∧
          1000 * (-1 : Int).fdiv 1000 + Iso8601DateParts.millisecond (-1) = -1)) :=
  ⟨by decide, seconds_floor_parts (-1) (by decide)⟩

/-! ## `TimeZone::validateFormat` -/

/-- How `validateFormat` ends other than by returning: a `uassert`, a read of `*it` at the end of
the string, or the model's fuel running out. -/
inductive FormatFault where
  | uassert (code : Nat) (msg : String)
  | pastEnd
  | outOfFuel
  deriving DecidableEq, Repr

/-- The characters the `switch` of `validateFormat` accepts after a `%`. -/
def formatModifiers : List Char :=
  ['%', 'Y', 'm', 'd', 'H', 'M', 'S', 'L', 'j', 'w', 'U', 'G', 'V', 'u', 'z', 'Z']

def unmatchedPercentMsg : String := "Unmatched '%' at end of $dateToString format string"

def invalidCharMsg (c : Char) : String :=
  "Invalid format character '%" ++ c.toString ++ "' in $dateToString format string"

def deref (format : List Char) (it : Nat) : Except FormatFault Char :=
  match format[it]? with
  | some c => .ok c
  | none => .error .pastEnd

/-- The `for` loop of `validateFormat` from iterator position `it`. -/
def validateFormatLoop (format : List Char) : Nat → Nat → Except FormatFault Unit
  | 0, _ => .error .outOfFuel
  | fuel + 1, it =>
    if it ≠ format.length then do
      let c ← deref format it
      if c ≠ '%' then validateFormatLoop format fuel (it + 1)
      else
        let it := it + 1
        if it ≠ format.length then do
          let f ← deref format it
          if f ∈ formatModifiers then validateFormatLoop format fuel (it + 1)
          else .error (.uassert 18536 (invalidCharMsg f))
        else .error (.uassert 18535 unmatchedPercentMsg)
    else .ok ()

/-- `TimeZone::validateFormat`, with fuel for one pass per character and one more. -/
def validateFormat (format : List Char) : Except FormatFault Unit :=
  validateFormatLoop format (format.length + 1) 0

/-- The language `(c | '%' f)*` of format strings: characters other than `%`, and `%` followed
by a modifier. -/
inductive InFormatLanguage : List Char → Prop
  | nil : InFormatLanguage []
  | char {c : Char} {s : List Char} (hc : c ≠ '%') (hs : InFormatLanguage s) :
      InFormatLanguage (c :: s)
  | modifier {f : Char} {s : List Char} (hf : f ∈ formatModifiers) (hs : InFormatLanguage s) :
      InFormatLanguage ('%' :: f :: s)

/-- The loop read off the characters left from the iterator. -/
def checkFormat : List Char → Except FormatFault Unit
  | [] => .ok ()
  | c :: rest =>
    if c ≠ '%' then checkFormat rest
    else match rest with
      | [] => .error (.uassert 18535 unmatchedPercentMsg)
      | f :: rest =>
        if f ∈ formatModifiers then checkFormat rest else .error (.uassert 18536 (invalidCharMsg f))

theorem checkFormat_cons_of_ne {c : Char} (hc : c ≠ '%') (rest : List Char) :
    checkFormat (c :: rest) = checkFormat rest := by
  cases rest <;> exact if_pos hc

theorem checkFormat_percent_nil :
    checkFormat ['%'] = .error (.uassert 18535 unmatchedPercentMsg) := rfl

theorem checkFormat_percent_cons (f : Char) (rest : List Char) :
    checkFormat ('%' :: f :: rest) =
      if f ∈ formatModifiers then checkFormat rest
      else .error (.uassert 18536 (invalidCharMsg f)) := rfl

/-- **The loop is `checkFormat` of what is left**, at every fuel above the characters left. -/
theorem validateFormatLoop_eq (format : List Char) :
    ∀ fuel it, it ≤ format.length → format.length - it < fuel →
      validateFormatLoop format fuel it = checkFormat (format.drop it)
  | 0, _, _, hfuel => absurd hfuel (Nat.not_lt_zero _)
  | fuel + 1, it, hit, hfuel => by
    unfold validateFormatLoop
    by_cases hend : it = format.length
    · subst hend
      rw [if_neg (not_not_intro rfl), List.drop_length]
      rfl
    have hlt : it < format.length := Nat.lt_of_le_of_ne hit hend
    rw [if_pos hend, List.drop_eq_getElem_cons hlt]
    simp only [deref, List.getElem?_eq_getElem hlt, bind, Except.bind]
    by_cases hc : format[it] = '%'
    · rw [if_neg (not_not_intro hc), hc]
      by_cases hend' : it + 1 = format.length
      · rw [if_neg (not_not_intro hend'), hend', List.drop_length]
        rfl
      have hlt' : it + 1 < format.length := by omega
      rw [if_pos hend', List.drop_eq_getElem_cons hlt', checkFormat_percent_cons,
        ← validateFormatLoop_eq format fuel (it + 1 + 1) (by omega) (by omega)]
      simp only [deref, List.getElem?_eq_getElem hlt']
    · rw [if_pos hc, checkFormat_cons_of_ne hc,
        validateFormatLoop_eq format fuel (it + 1) (by omega) (by omega)]

theorem validateFormat_eq (format : List Char) : validateFormat format = checkFormat format :=
  validateFormatLoop_eq format _ 0 (Nat.zero_le _) (by omega)

theorem checkFormat_append {u : List Char} (hu : InFormatLanguage u) (t : List Char) :
    checkFormat (u ++ t) = checkFormat t := by
  induction hu with
  | nil => rfl
  | char hc _ ih => rw [List.cons_append, checkFormat_cons_of_ne hc, ih]
  | modifier hf _ ih =>
    rw [List.cons_append, List.cons_append, checkFormat_percent_cons, if_pos hf, ih]

/-- What the contract says of a run on `s` with result `r`: `s` is in the language and `r`
returns, or after a prefix in the language `s` has its first violation, a trailing `%` with
18535 or a `%` before a character outside the modifiers with 18536. -/
def FormatOutcome (s : List Char) (r : Except FormatFault Unit) : Prop :=
  (InFormatLanguage s ∧ r = .ok ()) ∨
    (∃ u, InFormatLanguage u ∧ s = u ++ ['%'] ∧
      r = .error (.uassert 18535 unmatchedPercentMsg)) ∨
    (∃ u f rest, InFormatLanguage u ∧ f ∉ formatModifiers ∧ s = u ++ '%' :: f :: rest ∧
      r = .error (.uassert 18536 (invalidCharMsg f)))

theorem FormatOutcome.prepend {p s : List Char} {r : Except FormatFault Unit}
    (hp : ∀ t, InFormatLanguage t → InFormatLanguage (p ++ t)) (h : FormatOutcome s r) :
    FormatOutcome (p ++ s) r := by
  rcases h with ⟨hs, hr⟩ | ⟨u, hu, rfl, hr⟩ | ⟨u, f, rest, hu, hf, rfl, hr⟩
  · exact .inl ⟨hp s hs, hr⟩
  · exact .inr (.inl ⟨p ++ u, hp u hu, (List.append_assoc _ _ _).symm, hr⟩)
  · exact .inr (.inr ⟨p ++ u, f, rest, hp u hu, hf, (List.append_assoc _ _ _).symm, hr⟩)

theorem checkFormat_outcome : ∀ s : List Char, FormatOutcome s (checkFormat s)
  | [] => .inl ⟨.nil, rfl⟩
  | c :: rest => by
    by_cases hc : c = '%'
    · subst hc
      match rest with
      | [] => exact .inr (.inl ⟨[], .nil, rfl, rfl⟩)
      | f :: rest =>
        rw [checkFormat_percent_cons]
        by_cases hf : f ∈ formatModifiers
        · rw [if_pos hf]
          exact (checkFormat_outcome rest).prepend (p := ['%', f]) fun _ ht => .modifier hf ht
        · rw [if_neg hf]
          exact .inr (.inr ⟨[], f, rest, .nil, hf, rfl, rfl⟩)
    · rw [checkFormat_cons_of_ne hc]
      exact (checkFormat_outcome rest).prepend (p := [c]) fun _ ht => .char hc ht

/-- **`validateFormat` against the grammar.** For every format string, `validateFormat` returns
exactly when the string is in `(c | '%' f)*`; otherwise it raises 18535 or 18536 for the first
violation after a prefix in the language. It never reads past the end of the string and never
runs out of fuel: each of its outcomes is one of the three. -/
theorem validateFormat_spec (s : List Char) :
    (validateFormat s = .ok () ↔ InFormatLanguage s) ∧ FormatOutcome s (validateFormat s) := by
  rw [validateFormat_eq]
  refine ⟨⟨fun hok => ?_, fun hs => by rw [← List.append_nil s, checkFormat_append hs]; rfl⟩,
    checkFormat_outcome s⟩
  rcases checkFormat_outcome s with ⟨hs, -⟩ | ⟨u, -, -, he⟩ | ⟨u, f, rest, -, -, -, he⟩
  · exact hs
  · rw [hok] at he
    cases he
  · rw [hok] at he
    cases he

example : validateFormat ['%', '%', '%', 'Y'] = .ok () := rfl

example : validateFormat ['%', 'Y', '%'] = .error (.uassert 18535 unmatchedPercentMsg) := rfl

/-- `TimeZone::week`, from the date's `dayOfWeek` (1 for Sunday to 7 for Saturday) and
`dayOfYear` (1 to 366), both of which timelib computes. -/
def week (weekDay yearDay : Int) : Int :=
  let prevSundayDayOfYear := yearDay - weekDay
  let nextSundayDayOfYear := prevSundayDayOfYear + 7
  nextSundayDayOfYear.tdiv 7

theorem week_eq_div {weekDay : Nat} (yearDay : Nat) (hw : weekDay ≤ 7) :
    week weekDay yearDay = ((yearDay + 7 - weekDay) / 7 : Nat) := by
  unfold week
  rw [Int.tdiv_eq_ediv (by omega) (by omega)]
  omega

/-- **`week` counts Sundays.** For a date that is day `yearDay` of its year and day `weekDay`
of its week (Sunday is 1), the day `j` days earlier is a Sunday exactly when
`j % 7 = weekDay - 1`; `week` is the number of those days from January 1 to the date. The days
before the year's first Sunday are week 0, and each Sunday starts the next week. -/
theorem week_counts_sundays (weekDay yearDay : Nat) (hw : 1 ≤ weekDay ∧ weekDay ≤ 7) :
    week weekDay yearDay = ((List.range yearDay).filter fun j => j % 7 = weekDay - 1).length := by
  rw [week_eq_div yearDay hw.2]
  congr 1
  induction yearDay with
  | zero => simp only [List.range_zero, List.filter_nil, List.length_nil]; omega
  | succ Y ih =>
    rw [List.range_succ, List.filter_append, List.length_append, ← ih]
    by_cases h : Y % 7 = weekDay - 1 <;> simp [h] <;> omega

end Normous.Query.DateTime
