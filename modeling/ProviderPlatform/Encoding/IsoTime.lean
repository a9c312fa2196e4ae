import Mathlib.Algebra.Order.Group.Unbundled.Int
import Mathlib.Tactic.IntervalCases

/-! # Times as text

`Date.prototype.toISOString` on milliseconds since 1970: the date in the
proleptic Gregorian calendar, counted from a first of March, and the time of day. -/
namespace Encoding.IsoTime

/-! ## The calendar -/

structure Civil where
  year : Int
  month : Int
  day : Int
  deriving DecidableEq

/-- The year of a day in its era of 400 years. -/
def yearOfEra (dayOfEra : Int) : Int :=
  (dayOfEra - dayOfEra / 1460 + dayOfEra / 36524 - dayOfEra / 146096) / 365

/-- The days of the era before a year of it. -/
def daysBefore (yearOfEra : Int) : Int := 365 * yearOfEra + yearOfEra / 4 - yearOfEra / 100

/-- The months since March. -/
def marchMonth (dayOfYear : Int) : Int := (5 * dayOfYear + 2) / 153

def daysBeforeMonth (marchMonth : Int) : Int := (153 * marchMonth + 2) / 5

/-- The date of a day since 1970. -/
def civil (days : Int) : Civil :=
  let dayOfEra := (days + 719468) % 146097
  let year := yearOfEra dayOfEra
  let dayOfYear := dayOfEra - daysBefore year
  let month := marchMonth dayOfYear
  { year := (days + 719468) / 146097 * 400 + year + if month < 10 then 0 else 1
    month := if month < 10 then month + 3 else month - 9
    day := dayOfYear - daysBeforeMonth month + 1 }

/-- The day of a date. -/
def daysOf (date : Civil) : Int :=
  let year := if date.month < 3 then date.year - 1 else date.year
  let month := if date.month < 3 then date.month + 9 else date.month - 3
  year / 400 * 146097 + daysBefore (year % 400) + daysBeforeMonth month + date.day - 1 - 719468

theorem yearOfEra_bounds {n : Int} (h0 : 0 ≤ n) (h : n < 146097) :
    0 ≤ yearOfEra n ∧ yearOfEra n < 400 := by
  unfold yearOfEra
  omega

/-- The last day of the era is the only one that the fourth century would not hold. -/
theorem century_yearOfEra {n : Int} (h0 : 0 ≤ n) (h : n < 146097) :
    yearOfEra n / 100 = n / 36524 - n / 146096 := by
  have hcentury : 0 ≤ n / 36524 ∧ n / 36524 ≤ 4 := by omega
  have hlast : 0 ≤ n / 146096 ∧ n / 146096 ≤ 1 := by omega
  unfold yearOfEra
  generalize hb : n / 36524 = b at *
  generalize hc : n / 146096 = c at *
  obtain ⟨hb0, hb4⟩ := hcentury
  interval_cases b <;> omega

theorem dayOfYear_bounds {n : Int} (h0 : 0 ≤ n) (h : n < 146097) :
    0 ≤ n - daysBefore (yearOfEra n) ∧ n - daysBefore (yearOfEra n) ≤ 365 := by
  have hcentury := century_yearOfEra h0 h
  have hyear : yearOfEra n = (n - n / 1460 + yearOfEra n / 100) / 365 := by
    rw [hcentury, yearOfEra]
    omega
  have hbounds := yearOfEra_bounds h0 h
  have hfew : 25 * (yearOfEra n / 100) ≤ n / 1460 := by
    rw [hcentury]
    omega
  unfold daysBefore
  generalize yearOfEra n = y at *
  -- The leap days so far, by the days and by the years, differ by one at most.
  have hleap : y / 4 ≤ n / 1460 ∧ n / 1460 ≤ y / 4 + 1 := by omega
  omega

theorem marchMonth_bounds {n : Int} (h0 : 0 ≤ n) (h : n ≤ 365) :
    0 ≤ marchMonth n ∧ marchMonth n ≤ 11 := by
  unfold marchMonth
  omega

theorem civil_bounds (days : Int) : (1 ≤ (civil days).month ∧ (civil days).month ≤ 12) ∧
    1 ≤ (civil days).day ∧ (civil days).day ≤ 31 := by
  have hera : 0 ≤ (days + 719468) % 146097 ∧ (days + 719468) % 146097 < 146097 := by omega
  obtain ⟨hday0, hday⟩ := dayOfYear_bounds hera.1 hera.2
  obtain ⟨hmonth0, hmonth⟩ := marchMonth_bounds hday0 hday
  simp only [civil]
  generalize (days + 719468) % 146097 - _ = n at *
  refine ⟨by split <;> omega, ?_⟩
  unfold daysBeforeMonth marchMonth at *
  omega

/-- January and February are of the year after the one that began in March. -/
theorem daysOf_march {era year month : Int} (day : Int) (hyear0 : 0 ≤ year) (hyear : year < 400)
    (hmonth0 : 0 ≤ month) (hmonth : month ≤ 11) :
    daysOf ⟨era * 400 + year + if month < 10 then 0 else 1,
      if month < 10 then month + 3 else month - 9, day⟩ =
      era * 146097 + daysBefore year + daysBeforeMonth month + day - 1 - 719468 := by
  have hmod : (era * 400 + year) % 400 = year := by omega
  have hdiv : (era * 400 + year) / 400 = era := by omega
  unfold daysOf
  by_cases hlate : month < 10
  · have hnot : ¬month + 3 < 3 := by omega
    simp only [if_pos hlate, if_neg hnot, Int.add_zero, Int.add_sub_cancel, hmod, hdiv]
  · have hearly : month - 9 < 3 := by omega
    simp only [if_neg hlate, if_pos hearly, Int.sub_add_cancel, Int.add_sub_cancel, hmod, hdiv]

/-- **The calendar is exact.** The date of a day is the date of that day only. -/
theorem daysOf_civil (days : Int) : daysOf (civil days) = days := by
  have hera : 0 ≤ (days + 719468) % 146097 ∧ (days + 719468) % 146097 < 146097 := by omega
  obtain ⟨hyear0, hyear⟩ := yearOfEra_bounds hera.1 hera.2
  obtain ⟨hday0, hday⟩ := dayOfYear_bounds hera.1 hera.2
  obtain ⟨hmonth0, hmonth⟩ := marchMonth_bounds hday0 hday
  unfold civil
  rw [daysOf_march _ hyear0 hyear hmonth0 hmonth]
  omega

/-- The years that six digits hold are those of the next million years, and more. -/
theorem year_bounds {days : Int} (h : -100000000 ≤ days ∧ days ≤ 100000000) :
    (civil days).year.natAbs < 1000000 := by
  have hera : 0 ≤ (days + 719468) % 146097 ∧ (days + 719468) % 146097 < 146097 := by omega
  obtain ⟨hyear0, hyear⟩ := yearOfEra_bounds hera.1 hera.2
  simp only [civil]
  split <;> omega

/-! ## The text -/

/-- The digits of a number, with zeros before them. -/
def padded : Nat → Nat → List Char
  | 0, _ => []
  | width + 1, n => padded width (n / 10) ++ [Nat.digitChar (n % 10)]

/-- Numbers of given widths, each after its mark. -/
def marked : List (Char × Nat) → List Nat → List Char
  | (mark, width) :: shape, n :: values => (mark :: padded width n) ++ marked shape values
  | _, _ => []

/-- The month, the day and the time of day. -/
def shape : List (Char × Nat) := [('-', 2), ('-', 2), ('T', 2), (':', 2), (':', 2), ('.', 3)]

/-- A year outside of four digits has a sign and six. -/
def yearText (year : Int) : List Char :=
  if 0 ≤ year ∧ year ≤ 9999 then padded 4 year.toNat
  else (if year < 0 then '-' else '+') :: padded 6 year.natAbs

def valuesOf (t : Int) : List Nat :=
  let date := civil (t / 86400000)
  let ms := (t % 86400000).toNat
  [date.month.toNat, date.day.toNat, ms / 3600000, ms / 60000 % 60, ms / 1000 % 60, ms % 1000]

def toISOString (t : Int) : List Char :=
  yearText (civil (t / 86400000)).year ++ (marked shape (valuesOf t) ++ ['Z'])

/-! ### The text tells the time -/

theorem padded_length (width n : Nat) : (padded width n).length = width := by
  induction width generalizing n with
  | zero => rfl
  | succ width ih => rw [padded, List.length_append, ih, List.length_singleton]

theorem digitChar_inj : ∀ m < 10, ∀ n < 10, Nat.digitChar m = Nat.digitChar n → m = n := by decide

theorem padded_inj {width m n : Nat} (hm : m < 10 ^ width) (hn : n < 10 ^ width)
    (h : padded width m = padded width n) : m = n := by
  induction width generalizing m n with
  | zero => omega
  | succ width ih =>
    rw [Nat.pow_succ] at hm hn
    obtain ⟨hinit, hlast⟩ := List.append_inj' h rfl
    have htens : m / 10 = n / 10 := ih (by omega) (by omega) hinit
    have hdigit : m % 10 = n % 10 :=
      digitChar_inj _ (by omega) _ (by omega) (List.singleton_inj.mp hlast)
    omega

/-- The numbers fit their widths. -/
abbrev Fits : List (Char × Nat) → List Nat → Prop := List.Forall₂ fun p n => n < 10 ^ p.2

theorem marked_inj {shape : List (Char × Nat)} {values values' : List Nat} (h : Fits shape values)
    (h' : Fits shape values') (he : marked shape values = marked shape values') :
    values = values' := by
  induction h generalizing values' with
  | nil =>
    cases h'
    rfl
  | @cons p n shape values hn hfit ih =>
    cases h' with
    | @cons _ n' _ values' hn' hfit' =>
      have hlength : (p.1 :: padded p.2 n).length = (p.1 :: padded p.2 n').length := by
        simp [padded_length]
      obtain ⟨hfirst, hrest⟩ := List.append_inj he hlength
      rw [padded_inj hn hn' (List.cons.inj hfirst).2, ih hfit' hrest]

theorem marked_length {shape : List (Char × Nat)} {values : List Nat} (h : Fits shape values) :
    (marked shape values).length = (shape.map fun p => p.2 + 1).sum := by
  induction h with
  | nil => rfl
  | cons _ _ ih =>
    simp only [marked, List.length_append, List.length_cons, padded_length, ih, List.map_cons,
      List.sum_cons]

theorem yearText_inj {year year' : Int} (h : year.natAbs < 1000000) (h' : year'.natAbs < 1000000)
    (he : yearText year = yearText year') : year = year' := by
  unfold yearText at he
  by_cases hfour : 0 ≤ year ∧ year ≤ 9999 <;> by_cases hfour' : 0 ≤ year' ∧ year' ≤ 9999
  · rw [if_pos hfour, if_pos hfour'] at he
    have := padded_inj (show year.toNat < 10 ^ 4 by omega) (by omega) he
    omega
  · rw [if_pos hfour, if_neg hfour'] at he
    have := congrArg List.length he
    simp [padded_length] at this
  · rw [if_neg hfour, if_pos hfour'] at he
    have := congrArg List.length he
    simp [padded_length] at this
  · rw [if_neg hfour, if_neg hfour'] at he
    obtain ⟨hsign, habs⟩ := List.cons.inj he
    have habs := padded_inj (show year.natAbs < 10 ^ 6 by omega) (by omega) habs
    have hsame : year < 0 ↔ year' < 0 := by
      by_cases hneg : year < 0 <;> by_cases hneg' : year' < 0
      · exact iff_of_true hneg hneg'
      · rw [if_pos hneg, if_neg hneg'] at hsign
        exact absurd hsign (by decide)
      · rw [if_neg hneg, if_pos hneg'] at hsign
        exact absurd hsign (by decide)
      · exact iff_of_false hneg hneg'
    omega

theorem valuesOf_fits (t : Int) : Fits shape (valuesOf t) := by
  obtain ⟨hmonth, hday⟩ := civil_bounds (t / 86400000)
  unfold valuesOf shape
  refine .cons ?_ (.cons ?_ (.cons ?_ (.cons ?_ (.cons ?_ (.cons ?_ .nil)))))
  all_goals
    simp only
    omega

/-- The times that a `Date` can hold. -/
def IsDate (t : Int) : Prop := -8640000000000000 ≤ t ∧ t ≤ 8640000000000000

instance (t : Int) : Decidable (IsDate t) := inferInstanceAs (Decidable (_ ∧ _))

/-- **The text tells the time.** Two dates with one text are one. -/
theorem toISOString_inj {t t' : Int} (h : IsDate t) (h' : IsDate t')
    (he : toISOString t = toISOString t') : t = t' := by
  obtain ⟨hlow, hhigh⟩ := h
  obtain ⟨hlow', hhigh'⟩ := h'
  have hfit := valuesOf_fits t
  have hfit' := valuesOf_fits t'
  obtain ⟨hyear, htail⟩ := List.append_inj' he (by simp [marked_length hfit, marked_length hfit'])
  have hyear : (civil (t / 86400000)).year = (civil (t' / 86400000)).year :=
    yearText_inj (year_bounds (by omega)) (year_bounds (by omega)) hyear
  have hvalues := marked_inj hfit hfit' (List.append_inj' htail rfl).1
  simp only [valuesOf, List.cons.injEq, and_true] at hvalues
  obtain ⟨hmonth, hday, hhour, hminute, hsecond, hms⟩ := hvalues
  have hbounds := civil_bounds (t / 86400000)
  have hbounds' := civil_bounds (t' / 86400000)
  have hdate : civil (t / 86400000) = civil (t' / 86400000) := by
    rw [Civil.mk.injEq]
    omega
  have hdays : t / 86400000 = t' / 86400000 := by
    rw [← daysOf_civil (t / 86400000), hdate, daysOf_civil]
  omega

example : toISOString 951782400000 = "2000-02-29T00:00:00.000Z".toList := by decide +kernel

end Encoding.IsoTime
