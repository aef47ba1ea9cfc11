import Mathlib.Tactic.Tauto
import TokenBank.Core.Clock
import TokenBank.Text.Numerals

/-!
# The calendar and the order of stored times

The date of a day is the year in which it falls, and the month and the day of the month, which
depend on the day of the year and on whether the year is a leap year. Later days have later dates.
So the text of an instant up to its seconds is ordered as the seconds are.
-/

namespace TokenBank

namespace Clock

open Text

/-! ## Years -/

/-- The year has a day more than others. -/
def leapYear (year : Nat) : Bool := year % 4 = 0 && (year % 100 ≠ 0 || year % 400 = 0)

/-- How many days there are before a year. -/
def startOfYear (year : Nat) : Nat :=
  365 * (year - 1) + (year - 1) / 4 - (year - 1) / 100 + (year - 1) / 400

/-- The month and the day of the month of a day of a year. -/
def monthDay (leap : Bool) (ofYear : Nat) : Nat × Nat :=
  let estimate := (ofYear + 50) / 32
  let preceding := daysBeforeMonth.getD (estimate - 1) 0 + (if estimate > 2 ∧ leap then 1 else 0)
  if preceding > ofYear then
    let month := estimate - 1
    let before := preceding -
      (daysInMonth.getD (month - 1) 0 + (if month = 2 ∧ leap then 1 else 0))
    (month, ofYear - before + 1)
  else (estimate, ofYear - preceding + 1)

/-- Where a year starts, by its place in the cycles. -/
theorem startOfYear_cycles (n400 n100 n4 n1 : Nat) (centuries : n100 ≤ 3) (olympiads : n4 ≤ 24)
    (years : n1 ≤ 3) : startOfYear (400 * n400 + 100 * n100 + 4 * n4 + n1 + 1) =
      146097 * n400 + 36524 * n100 + 1461 * n4 + 365 * n1 := by
  have fours : (400 * n400 + 100 * n100 + 4 * n4 + n1) / 4 = 100 * n400 + 25 * n100 + n4 := by omega
  have hundreds : (400 * n400 + 100 * n100 + 4 * n4 + n1) / 100 = 4 * n400 + n100 := by omega
  have cycles : (400 * n400 + 100 * n100 + 4 * n4 + n1) / 400 = n400 := by omega
  rw [startOfYear, Nat.add_sub_cancel, fours, hundreds, cycles]
  omega

/-- Which years are leap years, by their place in the cycles. -/
theorem leapYear_cycles (n400 n100 n4 n1 : Nat) (centuries : n100 ≤ 3) (olympiads : n4 ≤ 24)
    (years : n1 ≤ 3) : leapYear (400 * n400 + 100 * n100 + 4 * n4 + n1 + 1) = true ↔
      n1 = 3 ∧ (n4 ≠ 24 ∨ n100 = 3) := by
  have fours : (400 * n400 + 100 * n100 + 4 * n4 + n1 + 1) % 4 = 0 ↔ n1 = 3 := by omega
  have hundreds : (400 * n400 + 100 * n100 + 4 * n4 + n1 + 1) % 100 = 0 ↔ n4 = 24 ∧ n1 = 3 := by
    omega
  have cycles : (400 * n400 + 100 * n100 + 4 * n4 + n1 + 1) % 400 = 0 ↔
      n100 = 3 ∧ n4 = 24 ∧ n1 = 3 := by omega
  simp only [leapYear, Bool.and_eq_true, Bool.or_eq_true, decide_eq_true_eq, ne_eq, fours, hundreds,
    cycles]
  tauto

/-- A year has a place in the cycles. -/
theorem exists_cycles (year : Nat) (counted : 1 ≤ year) : ∃ n400 n100 n4 n1,
    n100 ≤ 3 ∧ n4 ≤ 24 ∧ n1 ≤ 3 ∧ year = 400 * n400 + 100 * n100 + 4 * n4 + n1 + 1 :=
  ⟨(year - 1) / 400, (year - 1) % 400 / 100, (year - 1) % 100 / 4, (year - 1) % 4, by omega,
    by omega, by omega, by omega⟩

/-- A year ends where the next one starts. -/
theorem startOfYear_succ (year : Nat) (counted : 1 ≤ year) :
    startOfYear (year + 1) = startOfYear year + 365 + (if leapYear year then 1 else 0) := by
  obtain ⟨n400, n100, n4, n1, centuries, olympiads, years, rfl⟩ := exists_cycles year counted
  rw [startOfYear_cycles n400 n100 n4 n1 centuries olympiads years]
  simp only [leapYear_cycles n400 n100 n4 n1 centuries olympiads years]
  by_cases last : n1 = 3
  · by_cases last_olympiad : n4 = 24
    · by_cases last_century : n100 = 3
      · have next := startOfYear_cycles (n400 + 1) 0 0 0 (by decide) (by decide) (by decide)
        rw [if_pos ⟨last, .inr last_century⟩]
        subst last last_olympiad last_century
        rw [show 400 * n400 + 100 * 3 + 4 * 24 + 3 + 1 + 1 =
          400 * (n400 + 1) + 100 * 0 + 4 * 0 + 0 + 1 by omega, next]
        omega
      · have next := startOfYear_cycles n400 (n100 + 1) 0 0 (by omega) (by decide) (by decide)
        rw [if_neg (by simp [last_olympiad, last_century])]
        subst last last_olympiad
        rw [show 400 * n400 + 100 * n100 + 4 * 24 + 3 + 1 + 1 =
          400 * n400 + 100 * (n100 + 1) + 4 * 0 + 0 + 1 by omega, next]
        omega
    · have next := startOfYear_cycles n400 n100 (n4 + 1) 0 centuries (by omega) (by decide)
      rw [if_pos ⟨last, .inl last_olympiad⟩]
      subst last
      rw [show 400 * n400 + 100 * n100 + 4 * n4 + 3 + 1 + 1 =
        400 * n400 + 100 * n100 + 4 * (n4 + 1) + 0 + 1 by omega, next]
      omega
  · have next := startOfYear_cycles n400 n100 n4 (n1 + 1) centuries olympiads (by omega)
    rw [if_neg (fun leap => last leap.1), ← Nat.add_assoc] at *
    rw [next]
    omega

/-- Years start in their order. -/
theorem startOfYear_mono (year other : Nat) (counted : 1 ≤ year) (before : year ≤ other) :
    startOfYear year ≤ startOfYear other := by
  induction other, before using Nat.le_induction with
  | base => exact Nat.le_refl _
  | succ other later inductionHypothesis =>
    rw [startOfYear_succ other (Nat.le_trans counted later)]
    omega

/-! ## Dates -/

/-- A day is in a year, and its date is that of its number in the year. -/
theorem civil_spec (day : Nat) : ∃ year ofYear, 1 ≤ year ∧ day = startOfYear year + ofYear ∧
    ofYear < 365 + (if leapYear year then 1 else 0) ∧
    civil day = (year, monthDay (leapYear year) ofYear) := by
  -- the last day of a cycle of 400 or of 4 years is day 365 of its leap year
  by_cases last_of_cycle : day % 146097 / 36524 = 4
  · have start := startOfYear_cycles (day / 146097) 3 24 3 (by decide) (by decide) (by decide)
    have leap := (leapYear_cycles (day / 146097) 3 24 3 (by decide) (by decide) (by decide)).mpr
      ⟨rfl, .inr rfl⟩
    refine ⟨400 * (day / 146097) + 100 * 3 + 4 * 24 + 3 + 1, 365, by omega, ?_, ?_, ?_⟩
    · rw [start]
      omega
    · rw [leap]
      decide
    · rw [leap]
      have ended : day % 146097 % 36524 = 0 := by omega
      simp only [civil, last_of_cycle, ended, or_true, if_true]
      exact Prod.ext (by simp only []; omega) rfl
  have centuries : day % 146097 / 36524 ≤ 3 := by omega
  have olympiads : day % 146097 % 36524 / 1461 ≤ 24 := by omega
  by_cases last_of_olympiad : day % 146097 % 36524 % 1461 / 365 = 4
  · have start := startOfYear_cycles (day / 146097) (day % 146097 / 36524)
      (day % 146097 % 36524 / 1461) 3 centuries olympiads (by decide)
    have leap := (leapYear_cycles (day / 146097) (day % 146097 / 36524)
      (day % 146097 % 36524 / 1461) 3 centuries olympiads (by decide)).mpr ⟨rfl, .inl (by omega)⟩
    refine ⟨400 * (day / 146097) + 100 * (day % 146097 / 36524) +
      4 * (day % 146097 % 36524 / 1461) + 3 + 1, 365, by omega, ?_, ?_, ?_⟩
    · rw [start]
      omega
    · rw [leap]
      decide
    · rw [leap]
      simp only [civil, last_of_olympiad, true_or, if_true]
      exact Prod.ext (by simp only []; omega) rfl
  · have years : day % 146097 % 36524 % 1461 / 365 ≤ 3 := by omega
    refine ⟨400 * (day / 146097) + 100 * (day % 146097 / 36524) +
      4 * (day % 146097 % 36524 / 1461) + day % 146097 % 36524 % 1461 / 365 + 1,
      day % 146097 % 36524 % 1461 % 365, by omega, ?_, ?_, ?_⟩
    · rw [startOfYear_cycles _ _ _ _ centuries olympiads years]
      omega
    · exact Nat.lt_of_lt_of_le (Nat.mod_lt _ (by decide)) (Nat.le_add_right _ _)
    · have leap := leapYear_cycles (day / 146097) _ _ _ centuries olympiads years
      simp only [civil, last_of_cycle, last_of_olympiad, or_self, if_false, ← leap, monthDay]
      split_ifs <;> exact Prod.ext (by simp only []; omega) rfl

/-- Each day of a year has a later date than the one before it. -/
theorem monthDay_succ : ∀ leap : Bool, ∀ ofYear < 364 + (if leap then 1 else 0),
    (monthDay leap ofYear).1 < (monthDay leap (ofYear + 1)).1 ∨
      (monthDay leap ofYear).1 = (monthDay leap (ofYear + 1)).1 ∧
        (monthDay leap ofYear).2 < (monthDay leap (ofYear + 1)).2 := by
  decide +kernel

/-- Months and the days of months have at most two digits. -/
theorem monthDay_fits : ∀ leap : Bool, ∀ ofYear < 365 + (if leap then 1 else 0),
    (monthDay leap ofYear).1 < 100 ∧ (monthDay leap ofYear).2 < 100 := by
  decide +kernel

/-- Later days of a year have a later month, or a later day of the same one. -/
theorem monthDay_lt (leap : Bool) (ofYear other : Nat) (before : ofYear < other)
    (within : other < 365 + (if leap then 1 else 0)) :
    (monthDay leap ofYear).1 < (monthDay leap other).1 ∨
      (monthDay leap ofYear).1 = (monthDay leap other).1 ∧
        (monthDay leap ofYear).2 < (monthDay leap other).2 := by
  induction other, before using Nat.le_induction with
  | base => exact monthDay_succ leap ofYear (by omega)
  | succ other later inductionHypothesis =>
    have next := monthDay_succ leap other (by omega)
    have earlier := inductionHypothesis (by omega)
    omega

/-- The date of a day as a list of numbers. -/
def date (day : Nat) : List Nat := [(civil day).1, (civil day).2.1, (civil day).2.2]

/-- Later days have later dates. -/
theorem date_lt (day other : Nat) (before : day < other) : date day < date other := by
  obtain ⟨year, ofYear, counted, placed, within, dated⟩ := civil_spec day
  obtain ⟨year', ofYear', counted', placed', within', dated'⟩ := civil_spec other
  have not_later : year ≤ year' := by
    by_contra later
    have ended := startOfYear_mono (year' + 1) year (by omega) (by omega)
    rw [startOfYear_succ year' counted'] at ended
    omega
  simp only [date, dated, dated', List.cons_lt_cons_iff, List.lt_irrefl, and_false, or_false]
  rcases Nat.lt_or_eq_of_le not_later with earlier | rfl
  · exact .inl earlier
  · exact .inr ⟨rfl, monthDay_lt _ ofYear ofYear' (by omega) within'⟩

/-- The years of representable days have at most four digits. -/
theorem date_fits (day : Nat) (representable : day < representableDays) :
    (civil day).1 < 10 ^ 4 ∧ (civil day).2.1 < 10 ^ 2 ∧ (civil day).2.2 < 10 ^ 2 := by
  obtain ⟨year, ofYear, counted, placed, within, dated⟩ := civil_spec day
  rw [dated]
  refine ⟨?_, monthDay_fits _ ofYear within⟩
  by_contra later
  have ended := startOfYear_mono 10000 year (by decide) (by simpa using later)
  rw [show startOfYear 10000 = representableDays by decide] at ended
  omega

/-! ## The stored text -/

/-- A number that fits its width is padded to its numeral. -/
theorem padded_toList (width value : Nat) (written : 0 < width) (fits : value < 10 ^ width) :
    (padded width value).toList = numeral width value := by
  rw [padded, Nat.toString_eq_ofList_toDigits, String.toList_ofList, String.toList_ofList]
  induction width, written using Nat.le_induction generalizing value with
  | base =>
    have single : value < 10 := by simpa using fits
    rw [Nat.toDigits_of_lt_base single, numeral, numeral, Nat.mod_eq_of_lt single]
    rfl
  | succ width positive inductionHypothesis =>
    rw [Nat.pow_succ, Nat.mul_comm] at fits
    rw [numeral]
    rcases Nat.lt_or_ge value 10 with single | several
    · -- one digit: the tens are zero, whose numeral is zeros only
      have zeros := inductionHypothesis 0 (Nat.pow_pos (by decide))
      have one_digit : List.replicate width '0' = numeral width 0 := by
        rw [← zeros, Nat.toDigits_of_lt_base (by decide : 0 < 10), List.length_singleton,
          show [Nat.digitChar 0] = List.replicate 1 '0' from rfl, ← List.replicate_add,
          Nat.sub_add_cancel positive]
      rw [Nat.toDigits_of_lt_base single, Nat.mod_eq_of_lt single, Nat.div_eq_of_lt single,
        ← one_digit]
      rfl
    · have rest := inductionHypothesis (value / 10) (Nat.div_lt_of_lt_mul fits)
      rw [Nat.toDigits_of_base_le (by decide) several, List.length_append, List.length_singleton,
        Nat.add_sub_add_right, ← List.append_assoc, rest]

/-- The numbers of a second since the first day of year one. -/
def moment (second : Nat) : List Nat :=
  date (second / 86400) ++ [second % 86400 / 3600, second % 86400 / 60 % 60, second % 86400 % 60]

/-- How the numbers of a second are written. -/
def momentShape : List (Nat × List Char) :=
  [(4, ['-']), (2, ['-']), (2, ['T']), (2, [':']), (2, [':']), (2, [])]

/-- What is written behind the seconds. -/
def fractionText (fraction : Nat) : List Char :=
  if fraction = 0 then ['Z'] else '.' :: (numeral 6 fraction ++ ['Z'])

/-- Later seconds have later numbers. -/
theorem moment_lt (second other : Nat) (before : second < other) : moment second < moment other := by
  rcases Nat.lt_or_eq_of_le (Nat.div_le_div_right (c := 86400) (Nat.le_of_lt before)) with earlier | same
  · have dates := date_lt _ _ earlier
    simp only [date, moment, List.cons_append, List.nil_append, List.cons_lt_cons_iff,
      List.lt_irrefl, and_false, or_false] at dates ⊢
    tauto
  · simp only [moment, same, date, List.cons_append, List.nil_append, List.cons_lt_cons_iff,
      List.lt_irrefl, and_false, or_false, true_and, Nat.lt_irrefl, false_or]
    omega

/-- The numbers of a second tell it from the others. -/
theorem moment_order (second other : Nat) :
    (moment second < moment other ↔ second < other) ∧
      (moment second = moment other ↔ second = other) := by
  have told_apart (same : moment second = moment other) : second = other := by
    rcases Nat.lt_trichotomy second other with before | equal | after
    · exact absurd (same ▸ moment_lt _ _ before) (List.lt_irrefl _)
    · exact equal
    · exact absurd (same ▸ moment_lt _ _ after) (List.lt_irrefl _)
  refine ⟨⟨fun less => ?_, moment_lt _ _⟩, told_apart, congrArg moment⟩
  rcases Nat.lt_trichotomy second other with before | rfl | after
  · exact before
  · exact absurd less (List.lt_irrefl _)
  · exact absurd less (List.lt_asymm (moment_lt _ _ after))

/-- The numbers of a representable second fit their widths. -/
theorem moment_fits (second : Nat) (representable : second < representableDays * 86400) :
    Fits momentShape (moment second) := by
  obtain ⟨year, month, day⟩ := date_fits (second / 86400) (by omega)
  exact .cons year (.cons month (.cons day (.cons (by simp only []; omega)
    (.cons (by simp only []; omega) (.cons (by simp only []; omega) .nil)))))

end Clock

namespace Instant

/-- The second of an instant. -/
def second (instant : Instant) : Nat := instant.micros / 1000000

/-- The microseconds of an instant since its second. -/
def fraction (instant : Instant) : Nat := instant.micros % 1000000

/-- The second of an instant is representable. -/
theorem second_lt (instant : Instant) : instant.second < representableDays * 86400 := by
  have inRange := instant.inRange
  unfold representableDays microsPerDay at *
  unfold second
  omega

/-- A second has a million microseconds. -/
theorem fraction_lt (instant : Instant) : instant.fraction < 10 ^ 6 := Nat.mod_lt _ (by decide)

end Instant

namespace Clock

open Text

/-- The text of an instant: its second, and what is behind it. -/
theorem utcText_toList (instant : Instant) : (utcText instant).toList =
    written momentShape (moment instant.second) ++ fractionText instant.fraction := by
  have fits := moment_fits instant.second instant.second_lt
  have day : instant.micros / microsPerDay = instant.second / 86400 := by
    unfold microsPerDay Instant.second
    omega
  have second : instant.micros % microsPerDay / 1000000 = instant.second % 86400 := by
    unfold microsPerDay Instant.second
    omega
  have fraction : instant.micros % microsPerDay % 1000000 = instant.fraction := by
    unfold microsPerDay Instant.fraction
    omega
  cases fits with
  | cons year_fits fits => cases fits with
  | cons month_fits fits => cases fits with
  | cons day_fits fits => cases fits with
  | cons hour_fits fits => cases fits with
  | cons minute_fits fits => cases fits with
  | cons second_fits none_left =>
    simp only [utcText, day, second, fraction, String.toList_append,
      padded_toList _ _ (by decide) year_fits, padded_toList _ _ (by decide) month_fits,
      padded_toList _ _ (by decide) day_fits, padded_toList _ _ (by decide) hour_fits,
      padded_toList _ _ (by decide) minute_fits, padded_toList _ _ (by decide) second_fits]
    have behind : (if instant.fraction = 0 then "" else "." ++ padded 6 instant.fraction).toList ++
        "Z".toList = fractionText instant.fraction := by
      unfold fractionText
      split_ifs with whole
      · rfl
      · rw [String.toList_append, padded_toList 6 _ (by decide) instant.fraction_lt]
        rfl
    rw [List.append_assoc, behind]
    simp [written, momentShape, moment, date]

/-- What is behind the seconds is ordered as the microseconds are, but for an instant without
microseconds, whose text is greater than that of any other instant of its second. -/
theorem fractionText_lt_iff (fraction other : Nat) (fits : fraction < 10 ^ 6)
    (other_fits : other < 10 ^ 6) : fractionText fraction < fractionText other ↔
      fraction ≠ 0 ∧ (other = 0 ∨ fraction < other) := by
  obtain ⟨less, same⟩ := numeral_order 6 fraction other fits other_fits
  rw [fractionText, fractionText]
  split_ifs with whole other_whole other_whole
  · exact iff_of_false (List.lt_irrefl _) (fun differ => differ.1 whole)
  · exact iff_of_false (List.lt_asymm (.rel (by decide))) (fun differ => differ.1 whole)
  · exact iff_of_true (.rel (by decide)) ⟨whole, .inl other_whole⟩
  · rw [List.cons_lt_cons_iff, append_lt_append_iff _ _ _ _
      (by rw [numeral_length, numeral_length]), less]
    simp [whole, other_whole]

/-- The order of the stored texts: that of the seconds, and in one second that of the microseconds,
but with an instant without microseconds behind all others. -/
theorem utcText_lt_iff (instant other : Instant) : utcText instant < utcText other ↔
    instant.second < other.second ∨ instant.second = other.second ∧
      instant.fraction ≠ 0 ∧ (other.fraction = 0 ∨ instant.fraction < other.fraction) := by
  change (utcText instant).toList < (utcText other).toList ↔ _
  rw [utcText_toList, utcText_toList,
    written_lt_iff _ _ _ (moment_fits _ instant.second_lt) (moment_fits _ other.second_lt),
    fractionText_lt_iff _ _ instant.fraction_lt other.fraction_lt,
    (moment_order _ _).1, (moment_order _ _).2]

end Clock

end TokenBank
