import DomainModel.Calendar

/-!
# The calendar, day by day

Dates are computed from the numbers of days by divisions, with years that begin in March.  They are
the dates of the Gregorian calendar: day 0 is the first of January 1970, and after each date comes
the next (`ofDays_succ`), as the lengths of the months and the leap years have it.  So later days
have later dates (`before_ofDays`), and later instants later years or more after the same year
(`Instant.year_lt_or_rest_lt`).
-/

namespace DomainModel

namespace Date

def IsLeap (year : Int) : Prop := year % 4 = 0 ∧ (year % 100 ≠ 0 ∨ year % 400 = 0)

instance (year : Int) : Decidable (IsLeap year) := inferInstanceAs (Decidable (_ ∧ _))

def monthLength (year month : Int) : Int :=
  if month = 2 then if IsLeap year then 29 else 28
  else if month = 4 ∨ month = 6 ∨ month = 9 ∨ month = 11 then 30
  else 31

/-- The date of the day after. -/
def next (date : Date) : Date :=
  if date.day < monthLength date.year date.month then { date with day := date.day + 1 }
  else if date.month < 12 then { year := date.year, month := date.month + 1, day := 1 }
  else { year := date.year + 1, month := 1, day := 1 }

theorem monthLength_pos (year month : Int) : 0 < monthLength year month := by
  unfold monthLength
  split
  · split <;> decide
  · split <;> decide

theorem monthLength_le (year month : Int) : monthLength year month ≤ 31 := by
  unfold monthLength
  split
  · split <;> decide
  · split <;> decide

/-! ## Years that begin in March -/

/-- The number of the first of March of a year, if that of year 0 is 0. -/
def yearStart (y : Int) : Int := 365 * y + y / 4 - y / 100 + y / 400

/-- The days of a year before a month; both are counted from March. -/
def monthStart (m : Int) : Int := (153 * m + 2) / 5

/-- The date of a day of a month, all counted from zero, in a year that begins in March. -/
def ofMarch (y m d : Int) : Date where
  year := if m < 10 then y else y + 1
  month := if m < 10 then m + 3 else m - 9
  day := d + 1

theorem yearStart_add_cycles (y k : Int) : yearStart (y + k * 400) = yearStart y + k * 146097 := by
  unfold yearStart
  omega

theorem yearStart_succ (y : Int) :
    yearStart (y + 1) = yearStart y + if IsLeap (y + 1) then 366 else 365 := by
  by_cases h : IsLeap (y + 1)
  · rw [if_pos h]
    unfold yearStart IsLeap at *
    omega
  · rw [if_neg h]
    unfold yearStart IsLeap at *
    omega

theorem yearStart_mono {y y' : Int} (h : y ≤ y') : yearStart y ≤ yearStart y' := by
  unfold yearStart
  omega

/-- The months from March to January have their lengths in every year, and the last has what is left
of the year. -/
theorem monthLength_ofMarch (y d : Int) {m : Int} (hm : 0 ≤ m ∧ m ≤ 11) :
    monthLength (ofMarch y m d).year (ofMarch y m d).month
      = if m < 11 then monthStart (m + 1) - monthStart m
        else yearStart (y + 1) - yearStart y - monthStart m := by
  obtain rfl | h : m = 11 ∨ m < 11 := by omega
  · have hfebruary : monthLength (ofMarch y 11 d).year (ofMarch y 11 d).month
        = if IsLeap (y + 1) then 29 else 28 := rfl
    have hstart : monthStart 11 = 337 := rfl
    have hlast : ¬ (11 : Int) < 11 := by decide
    rw [hfebruary, if_neg hlast, hstart, yearStart_succ]
    by_cases hl : IsLeap (y + 1)
    · rw [if_pos hl, if_pos hl]
      omega
    · rw [if_neg hl, if_neg hl]
      omega
  · obtain rfl | rfl | rfl | rfl | rfl | rfl | rfl | rfl | rfl | rfl | rfl : m = 0 ∨ m = 1 ∨ m = 2
        ∨ m = 3 ∨ m = 4 ∨ m = 5 ∨ m = 6 ∨ m = 7 ∨ m = 8 ∨ m = 9 ∨ m = 10 := by omega
    all_goals rfl

/-- A day by its number from the first of March of year 0, and by its year, month and day, which are
counted from zero and from March. -/
structure IsMarchDay (n y m d : Int) : Prop where
  month : 0 ≤ m ∧ m ≤ 11
  day : 0 ≤ d ∧ d < monthLength (ofMarch y m d).year (ofMarch y m d).month
  number : n = yearStart y + monthStart m + d

namespace IsMarchDay

variable {n y m d : Int}

theorem mem_year (h : IsMarchDay n y m d) : yearStart y ≤ n ∧ n < yearStart (y + 1) := by
  have hd := h.day
  have hn := h.number
  have hy := yearStart_succ y
  rw [monthLength_ofMarch y d h.month] at hd
  unfold monthStart at hd hn
  have := h.month
  split at hd <;> split at hy <;> omega

theorem mem_month (h : IsMarchDay n y m d) :
    monthStart m ≤ n - yearStart y ∧ (n - yearStart y < monthStart (m + 1)) := by
  have hd := h.day
  have hn := h.number
  have hy := yearStart_succ y
  rw [monthLength_ofMarch y d h.month] at hd
  have := h.month
  split at hd
  · omega
  · obtain rfl : m = 11 := by omega
    split at hy <;> simp only [monthStart] at * <;> omega

theorem unique (h : IsMarchDay n y m d) {y' m' d' : Int} (h' : IsMarchDay n y' m' d') :
    y' = y ∧ m' = m ∧ d' = d := by
  obtain rfl : y' = y := by
    rcases Int.lt_trichotomy y' y with hy | hy | hy
    · have := yearStart_mono (show y' + 1 ≤ y from hy)
      have := h.mem_year
      have := h'.mem_year
      omega
    · exact hy
    · have := yearStart_mono (show y + 1 ≤ y' from hy)
      have := h.mem_year
      have := h'.mem_year
      omega
  obtain rfl : m' = m := by
    have := h.mem_month
    have := h'.mem_month
    unfold monthStart at *
    omega
  exact ⟨rfl, rfl, by have := h.number; have := h'.number; omega⟩

/-- The day after is the next of the same month, the first of the next month or the first of the
next year. -/
theorem succ (h : IsMarchDay n y m d) : ∃ y' m' d', IsMarchDay (n + 1) y' m' d' ∧
    ofMarch y' m' d' = (ofMarch y m d).next := by
  have hm := h.month
  have hd := h.day
  have hn := h.number
  have hl := monthLength_ofMarch y d hm
  by_cases hlast : d + 1 < monthLength (ofMarch y m d).year (ofMarch y m d).month
  · refine ⟨y, m, d + 1, ⟨hm, ⟨by omega, hlast⟩, by omega⟩, ?_⟩
    exact (if_pos hlast).symm
  have hnext : (ofMarch y m d).next = if (ofMarch y m d).month < 12 then
      ⟨(ofMarch y m d).year, (ofMarch y m d).month + 1, 1⟩
      else ⟨(ofMarch y m d).year + 1, 1, 1⟩ := if_neg hlast
  rw [hnext]
  obtain rfl | hm' : m = 11 ∨ m < 11 := by omega
  · refine ⟨y + 1, 0, 0, ⟨by decide, ⟨by decide, monthLength_pos _ _⟩, ?_⟩, rfl⟩
    rw [if_neg (by decide)] at hl
    simp only [monthStart] at *
    omega
  · refine ⟨y, m + 1, 0, ⟨by omega, ⟨by decide, ?_⟩, ?_⟩, ?_⟩
    · exact monthLength_pos _ _
    · rw [if_pos hm'] at hl
      omega
    · obtain h | rfl | rfl : m < 9 ∨ m = 9 ∨ m = 10 := by omega
      · have h10 : m + 1 < 10 ∧ m < 10 ∧ m + 3 < 12 := by omega
        simp only [ofMarch, h10.1, h10.2.1, h10.2.2, if_true, Date.mk.injEq]
        exact ⟨trivial, by omega, rfl⟩
      · rfl
      · rfl

end IsMarchDay

/-! ## The dates of days -/

/-- The days of a cycle of 400 years, by century, by four years, by year and by day, all counted
from zero.  A leap day is day 365 of the last of four years, but of a century only if this is the
last. -/
theorem exists_cycles {n : Int} (h0 : 0 ≤ n) (h1 : n < 146097) : ∃ c q j u : Int,
    n = 36524 * c + 1461 * q + 365 * j + u ∧ (0 ≤ c ∧ c ≤ 3) ∧ (0 ≤ q ∧ q ≤ 24) ∧
      (0 ≤ j ∧ j ≤ 3) ∧ (0 ≤ u ∧ u ≤ 365) ∧ (u = 365 → j = 3 ∧ (q = 24 → c = 3)) := by
  obtain ⟨c, r, hc, hr, rfl, hr'⟩ : ∃ c r : Int, (0 ≤ c ∧ c ≤ 3) ∧ (0 ≤ r ∧ r ≤ 36524) ∧
      n = 36524 * c + r ∧ (r = 36524 → c = 3) := by
    by_cases h : n = 146096
    · exact ⟨3, 36524, by omega⟩
    · exact ⟨n / 36524, n % 36524, by omega⟩
  obtain ⟨q, t, hq, ht, rfl⟩ : ∃ q t : Int, (0 ≤ q ∧ q ≤ 24) ∧ (0 ≤ t ∧ t ≤ 1460) ∧
      r = 1461 * q + t := ⟨r / 1461, r % 1461, by omega⟩
  by_cases h : t = 1460
  · exact ⟨c, q, 3, 365, by omega⟩
  · exact ⟨c, q, t / 365, t % 365, by omega⟩

/-- The year of a day in a cycle of 400 years, as it is computed. -/
def yearOfCycle (n : Int) : Int := (n - n / 1460 + n / 36524 - n / 146096) / 365

section Cycles

variable {n c q j u : Int} (hn : n = 36524 * c + 1461 * q + 365 * j + u)
  (hc : 0 ≤ c ∧ c ≤ 3) (hq : 0 ≤ q ∧ q ≤ 24) (hj : 0 ≤ j ∧ j ≤ 3) (hu : 0 ≤ u ∧ u ≤ 365)
  (hlast : u = 365 → j = 3 ∧ (q = 24 → c = 3))

include hn hc hq hj hu hlast

theorem yearOfCycle_eq : yearOfCycle n = 100 * c + 4 * q + j := by
  have h1 : n / 1460 = 25 * c + q + (24 * c + q + 365 * j + u) / 1460 := by omega
  have h2 : n / 36524 - n / 146096 = c := by
    by_cases h : n = 146096
    · subst h
      omega
    · have : n / 36524 = c := by omega
      omega
  -- the spans of 1460 days are counted once more in the last days of a century
  have h3 : n - n / 1460 + n / 36524 - n / 146096
      = u - (24 * c + q + 365 * j + u) / 1460 + 365 * (100 * c + 4 * q + j) := by omega
  have h4 : 0 ≤ u - (24 * c + q + 365 * j + u) / 1460
      ∧ u - (24 * c + q + 365 * j + u) / 1460 < 365 := by omega
  rw [yearOfCycle, h3, Int.add_mul_ediv_left _ _ (by decide), Int.ediv_eq_zero_of_lt h4.1 h4.2,
    Int.zero_add]

theorem mem_yearOfCycle : yearStart (yearOfCycle n) ≤ n ∧ n < yearStart (yearOfCycle n + 1) ∧
    0 ≤ yearOfCycle n ∧ yearOfCycle n ≤ 399 := by
  rw [yearOfCycle_eq hn hc hq hj hu hlast]
  unfold yearStart
  omega

end Cycles

/-- The month of a day of the year, as it is computed. -/
def marchMonth (d : Int) : Int := (5 * d + 2) / 153

theorem mem_marchMonth {d : Int} (h : 0 ≤ d ∧ d ≤ 365) :
    (0 ≤ marchMonth d ∧ marchMonth d ≤ 11) ∧
      monthStart (marchMonth d) ≤ d ∧ d < monthStart (marchMonth d + 1) := by
  unfold monthStart marchMonth
  omega

theorem ofDays_eq {days n y d : Int} (hn : n = (days + 719468) % 146097) (hy : y = yearOfCycle n)
    (hd : d = n - (365 * y + y / 4 - y / 100)) (hm : 0 ≤ marchMonth d ∧ marchMonth d ≤ 11) :
    ofDays days = ofMarch (y + (days + 719468) / 146097 * 400) (marchMonth d)
      (d - monthStart (marchMonth d)) := by
  have hof : ofDays days =
      { year := y + (days + 719468) / 146097 * 400
          + if (if marchMonth d < 10 then marchMonth d + 3 else marchMonth d - 9) ≤ 2 then 1 else 0
        month := if marchMonth d < 10 then marchMonth d + 3 else marchMonth d - 9
        day := d - monthStart (marchMonth d) + 1 } := by
    subst hd hy hn
    rfl
  rw [hof, ofMarch]
  by_cases h : marchMonth d < 10
  · have : ¬ marchMonth d + 3 ≤ 2 := by omega
    simp only [h, if_true, this, if_false, Int.add_zero]
  · have : marchMonth d - 9 ≤ 2 := by omega
    simp only [h, if_false, this, if_true]

theorem isMarchDay_ofDays (days : Int) :
    ∃ y m d, IsMarchDay (days + 719468) y m d ∧ ofDays days = ofMarch y m d := by
  obtain ⟨n, hn⟩ : ∃ n, n = (days + 719468) % 146097 := ⟨_, rfl⟩
  obtain ⟨k, hk⟩ : ∃ k, k = (days + 719468) / 146097 := ⟨_, rfl⟩
  obtain ⟨c, q, j, u, hsplit, hc, hq, hj, hu, hlast⟩ :=
    exists_cycles (show 0 ≤ n by omega) (by omega)
  obtain ⟨hlo, hhi, h0, h1⟩ := mem_yearOfCycle hsplit hc hq hj hu hlast
  obtain ⟨y, hy⟩ : ∃ y, y = yearOfCycle n := ⟨_, rfl⟩
  rw [← hy] at hlo hhi h0 h1
  have hstart : yearStart y = 365 * y + y / 4 - y / 100 := by
    rw [yearStart, Int.ediv_eq_zero_of_lt h0 (by omega : y < 400), Int.add_zero]
  have hlen := yearStart_succ y
  obtain ⟨d, hd⟩ : ∃ d, d = n - yearStart y := ⟨_, rfl⟩
  have hd365 : 0 ≤ d ∧ d ≤ 365 := by
    split at hlen <;> omega
  obtain ⟨hm, hmlo, hmhi⟩ := mem_marchMonth hd365
  refine ⟨y + k * 400, marchMonth d, d - monthStart (marchMonth d), ⟨hm, ⟨by omega, ?_⟩, ?_⟩, ?_⟩
  · rw [monthLength_ofMarch _ _ hm]
    split
    · omega
    · rw [Int.add_right_comm, yearStart_add_cycles, yearStart_add_cycles]
      omega
  · rw [yearStart_add_cycles]
    omega
  · rw [hk]
    exact ofDays_eq hn hy (hstart ▸ hd) hm

theorem ofDays_succ (days : Int) : ofDays (days + 1) = (ofDays days).next := by
  obtain ⟨y, m, d, h, hof⟩ := isMarchDay_ofDays days
  obtain ⟨y₁, m₁, d₁, h₁, hnext⟩ := h.succ
  obtain ⟨y₂, m₂, d₂, h₂, hof₂⟩ := isMarchDay_ofDays (days + 1)
  rw [Int.add_right_comm] at h₂
  obtain ⟨rfl, rfl, rfl⟩ := h₁.unique h₂
  rw [hof₂, hof, hnext]

theorem month_ofDays (days : Int) : 1 ≤ (ofDays days).month ∧ (ofDays days).month ≤ 12 := by
  obtain ⟨y, m, d, h, hof⟩ := isMarchDay_ofDays days
  have := h.month
  simp only [hof, ofMarch]
  split <;> omega

theorem day_ofDays (days : Int) : 1 ≤ (ofDays days).day ∧
    (ofDays days).day ≤ monthLength (ofDays days).year (ofDays days).month := by
  obtain ⟨y, m, d, h, hof⟩ := isMarchDay_ofDays days
  have := h.day
  rw [hof]
  exact ⟨by simp only [ofMarch]; omega, this.2⟩

/-! ## The order of dates -/

/-- Whether a date comes before another: years go before months, and months before days. -/
def Before (a b : Date) : Prop :=
  a.year < b.year ∨ a.year = b.year ∧ (a.month < b.month ∨ a.month = b.month ∧ a.day < b.day)

theorem Before.trans {a b c : Date} (h : a.Before b) (h' : b.Before c) : a.Before c := by
  unfold Before at *
  omega

theorem before_next (date : Date) : date.Before date.next := by
  unfold next
  split
  · exact .inr ⟨rfl, .inr ⟨rfl, Int.lt_succ _⟩⟩
  · split
    · exact .inr ⟨rfl, .inl (Int.lt_succ _)⟩
    · exact .inl (Int.lt_succ _)

theorem before_ofDays_succ (days : Int) : (ofDays days).Before (ofDays (days + 1)) := by
  rw [ofDays_succ]
  exact before_next _

theorem before_ofDays_add (days : Int) :
    ∀ n : Nat, (ofDays days).Before (ofDays (days + (n + 1 : Nat)))
  | 0 => before_ofDays_succ days
  | n + 1 => by
    have := before_ofDays_succ (days + (n + 1 : Nat))
    rw [Int.add_assoc] at this
    exact (before_ofDays_add days n).trans this

/-- Later days have later dates. -/
theorem before_ofDays {days days' : Int} (h : days < days') :
    (ofDays days).Before (ofDays days') := by
  have := before_ofDays_add days (days' - days - 1).toNat
  rwa [show days + ((days' - days - 1).toNat + 1 : Nat) = days' by omega] at this

end Date

/-! ## The order of instants -/

namespace Instant

def date (t : Instant) : Date := Date.ofDays (t.seconds / 86400)

/-- The hour, the minute and the second of a second of a day, in two digits each. -/
def clock (time : Int) : Int := (time / 3600 * 100 + time / 60 % 60) * 100 + time % 60

theorem clock_lt {time time' : Int} (h : time < time') : clock time < clock time' := by
  have h1 : time / 3600 = time / 60 / 60 := by omega
  have h2 : time' / 3600 = time' / 60 / 60 := by omega
  unfold clock
  omega

theorem clock_mem {time : Int} (h : 0 ≤ time ∧ time < 86400) :
    0 ≤ clock time ∧ clock time < 1000000 := by
  unfold clock
  omega

/-- What stands after the year in a stamp, read as a number. -/
def rest (t : Instant) : Int :=
  (t.date.month * 100 + t.date.day) * 1000000 + clock (t.seconds % 86400)

theorem date_mem (t : Instant) :
    1 ≤ t.date.month ∧ t.date.month ≤ 12 ∧ 1 ≤ t.date.day ∧ t.date.day ≤ 31 := by
  obtain ⟨hm, hm'⟩ := Date.month_ofDays (t.seconds / 86400)
  obtain ⟨hd, hd'⟩ := Date.day_ofDays (t.seconds / 86400)
  exact ⟨hm, hm', hd, Int.le_trans hd' (Date.monthLength_le _ _)⟩

/-- A later instant has a later year, or the same year and more after it. -/
theorem year_lt_or_rest_lt {t t' : Instant} (h : t.seconds < t'.seconds) :
    t.date.year < t'.date.year ∨ t.date.year = t'.date.year ∧ t.rest < t'.rest := by
  by_cases hd : t.seconds / 86400 = t'.seconds / 86400
  · have hdate : t.date = t'.date := by rw [date, hd, date]
    have := clock_lt (show t.seconds % 86400 < t'.seconds % 86400 by omega)
    unfold rest
    rw [hdate]
    omega
  · have hb : t.date.Before t'.date := Date.before_ofDays (by omega)
    have := t.date_mem
    have := t'.date_mem
    have := clock_mem (show 0 ≤ t.seconds % 86400 ∧ t.seconds % 86400 < 86400 by omega)
    have := clock_mem (show 0 ≤ t'.seconds % 86400 ∧ t'.seconds % 86400 < 86400 by omega)
    unfold Date.Before at hb
    unfold rest
    omega

end Instant

end DomainModel
