import Mathlib.Data.String.Basic
import Mathlib.Data.List.Lex

/-!
# Dates, times and their ISO texts

The proleptic Gregorian calendar of Python's `datetime`, from the year 1 to the year 9999, and the
texts ISO 8601 has for its times in UTC. Every field is written to a fixed width, the greatest
first, so texts compare as the times do (`isoSeconds_append_lt_iff`): two texts that start with a
second compare by the seconds, and by what follows them only where the seconds are the same.
-/

namespace Civil

/-! ## Texts of a fixed width -/

/-- Texts that start with texts of one length compare by these first. -/
theorem append_lt_append_iff {a b r s : List Char} (h : a.length = b.length) :
    a ++ r < b ++ s ↔ a < b ∨ a = b ∧ r < s := by
  induction a generalizing b with
  | nil =>
    obtain rfl : b = [] := List.length_eq_zero_iff.mp h.symm
    simp
  | cons x a ih =>
    cases b with
    | nil => simp at h
    | cons y b =>
      have hlength : a.length = b.length := by simpa using h
      rw [List.cons_append, List.cons_append, List.cons_lt_cons_iff, List.cons_lt_cons_iff,
        ih hlength, List.cons.injEq]
      tauto

/-- The last digits of a number, as many as asked for. -/
def padded : Nat → Nat → List Char
  | 0, _ => []
  | width + 1, n => padded width (n / 10) ++ [Nat.digitChar (n % 10)]

@[simp] theorem length_padded (width n : Nat) : (padded width n).length = width := by
  induction width generalizing n with
  | zero => rfl
  | succ width ih => simp [padded, ih]

theorem digitChar_lt_iff {m n : Nat} (hm : m < 10) (hn : n < 10) :
    Nat.digitChar m < Nat.digitChar n ↔ m < n := by
  have hdigits : ∀ m < 10, ∀ n < 10, (Nat.digitChar m < Nat.digitChar n ↔ m < n) := by decide
  exact hdigits m hm n hn

theorem padded_lt_iff {width m n : Nat} (hm : m < 10 ^ width) (hn : n < 10 ^ width) :
    padded width m < padded width n ↔ m < n := by
  induction width generalizing m n with
  | zero =>
    obtain rfl : m = 0 := by omega
    obtain rfl : n = 0 := by omega
    simp [padded]
  | succ width ih =>
    have hm' : m / 10 < 10 ^ width := by omega
    have hn' : n / 10 < 10 ^ width := by omega
    -- equal digits are digits neither of which is below the other
    have heq : padded width (m / 10) = padded width (n / 10) ↔ m / 10 = n / 10 := by
      refine ⟨fun h => ?_, fun h => by rw [h]⟩
      have hlt := ih hm' hn'
      have hgt := ih hn' hm'
      rw [h] at hlt hgt
      have h1 := mt hlt.mpr (lt_irrefl _)
      have h2 := mt hgt.mpr (lt_irrefl _)
      omega
    have hdigit : m % 10 < 10 ∧ n % 10 < 10 := by omega
    rw [padded, padded, append_lt_append_iff (by simp), ih hm' hn', heq, List.cons_lt_cons_iff,
      digitChar_lt_iff hdigit.1 hdigit.2]
    simp only [List.not_lt_nil, and_false, or_false]
    omega

theorem padded_inj {width m n : Nat} (hm : m < 10 ^ width) (hn : n < 10 ^ width) :
    padded width m = padded width n ↔ m = n := by
  refine ⟨fun h => ?_, fun h => by rw [h]⟩
  have hlt := padded_lt_iff hm hn
  have hgt := padded_lt_iff hn hm
  rw [h] at hlt hgt
  have h1 := mt hlt.mpr (lt_irrefl _)
  have h2 := mt hgt.mpr (lt_irrefl _)
  omega

/-- Numbers of one width compare first, in texts that start with them. -/
theorem padded_append_lt_iff {width m n : Nat} {r s : List Char} (hm : m < 10 ^ width)
    (hn : n < 10 ^ width) :
    padded width m ++ r < padded width n ++ s ↔ m < n ∨ m = n ∧ r < s := by
  rw [append_lt_append_iff (by simp), padded_lt_iff hm hn, padded_inj hm hn]

/-- What holds of every digit holds of every character of a number. -/
theorem forall_padded {P : Char → Prop} (h : ∀ d < 10, P (Nat.digitChar d)) (width n : Nat) :
    ∀ c ∈ padded width n, P c := by
  induction width generalizing n with
  | zero =>
    intro c hc
    simp [padded] at hc
  | succ width ih =>
    intro c hc
    rcases List.mem_append.mp hc with hc | hc
    · exact ih _ c hc
    · rw [List.mem_singleton.mp hc]
      exact h _ (Nat.mod_lt _ (by omega))

/-! ## Dates -/

/-- Whether a year has a leap day. -/
def isLeap (year : Nat) : Bool := 4 ∣ year ∧ (¬ 100 ∣ year ∨ 400 ∣ year)

def daysInMonth (year month : Nat) : Nat :=
  if month = 2 then if isLeap year then 29 else 28
  else if month ∈ [4, 6, 9, 11] then 30
  else 31

/-- A day of the calendar. -/
structure Date where
  year : Nat
  month : Nat
  day : Nat
  year_pos : 1 ≤ year
  year_le : year ≤ 9999
  month_pos : 1 ≤ month
  month_le : month ≤ 12
  day_pos : 1 ≤ day
  day_le : day ≤ daysInMonth year month

theorem daysInMonth_le (year month : Nat) : daysInMonth year month ≤ 31 := by
  unfold daysInMonth
  split_ifs <;> omega

/-- The days of the years before a year. -/
def daysBeforeYear (year : Nat) : Nat :=
  (year - 1) * 365 + (year - 1) / 4 - (year - 1) / 100 + (year - 1) / 400

/-- The days of the year before a month. -/
def daysBeforeMonth (year : Nat) : Nat → Nat
  | 0 => 0
  | 1 => 0
  | month + 2 => daysBeforeMonth year (month + 1) + daysInMonth year (month + 1)

def daysInYear (year : Nat) : Nat := if isLeap year then 366 else 365

theorem daysBeforeYear_succ {year : Nat} (h : 1 ≤ year) :
    daysBeforeYear (year + 1) = daysBeforeYear year + daysInYear year := by
  obtain ⟨before, rfl⟩ : ∃ before, year = before + 1 := ⟨year - 1, by omega⟩
  have h100 : 400 ∣ before + 1 → 100 ∣ before + 1 := fun h => Nat.dvd_trans (by decide) h
  have h4 : 100 ∣ before + 1 → 4 ∣ before + 1 := fun h => Nat.dvd_trans (by decide) h
  have hle : before / 100 ≤ before / 4 := Nat.div_le_div_left (by decide) (by decide)
  unfold daysBeforeYear daysInYear isLeap
  simp only [Nat.add_sub_cancel, Nat.succ_div, decide_eq_true_eq]
  split_ifs <;> omega

theorem daysBeforeYear_mono {a b : Nat} (ha : 1 ≤ a) (h : a ≤ b) :
    daysBeforeYear a ≤ daysBeforeYear b := by
  induction b, h using Nat.le_induction with
  | base => exact le_rfl
  | succ b hb ih =>
    rw [daysBeforeYear_succ (ha.trans hb)]
    exact ih.trans (Nat.le_add_right _ _)

theorem daysBeforeMonth_succ (year : Nat) {month : Nat} (h : 1 ≤ month) :
    daysBeforeMonth year (month + 1) = daysBeforeMonth year month + daysInMonth year month := by
  cases month with
  | zero => omega
  | succ month => rfl

theorem daysBeforeMonth_mono (year : Nat) {a b : Nat} (ha : 1 ≤ a) (h : a ≤ b) :
    daysBeforeMonth year a ≤ daysBeforeMonth year b := by
  induction b, h using Nat.le_induction with
  | base => exact le_rfl
  | succ b hb ih =>
    rw [daysBeforeMonth_succ year (ha.trans hb)]
    exact ih.trans (Nat.le_add_right _ _)

theorem daysBeforeMonth_thirteen (year : Nat) : daysBeforeMonth year 13 = daysInYear year := by
  unfold daysInYear
  cases h : isLeap year <;> simp [daysBeforeMonth, daysInMonth, h]

namespace Date

variable (a b : Date)

/-- `date.toordinal`: the days from the first of January of the year 1, which is 1. -/
def ordinal : Nat := daysBeforeYear a.year + daysBeforeMonth a.year a.month + a.day

/-- The days in the order of their fields. -/
def Before : Prop :=
  a.year < b.year ∨ a.year = b.year ∧ (a.month < b.month ∨ a.month = b.month ∧ a.day < b.day)

/-- `date.isoformat`. -/
def iso : List Char := padded 4 a.year ++ '-' :: (padded 2 a.month ++ '-' :: padded 2 a.day)

variable {a b}

@[ext] theorem ext (hyear : a.year = b.year) (hmonth : a.month = b.month) (hday : a.day = b.day) :
    a = b := by
  obtain ⟨year, month, day⟩ := a
  obtain ⟨year', month', day'⟩ := b
  cases hyear
  cases hmonth
  cases hday
  rfl

theorem before_trichotomy : a.Before b ∨ a = b ∨ b.Before a := by
  by_cases h : a.year = b.year ∧ a.month = b.month ∧ a.day = b.day
  · exact .inr (.inl (ext h.1 h.2.1 h.2.2))
  · unfold Before
    omega

/-- No month is longer than what the year has left. -/
theorem day_le_year : daysBeforeMonth a.year a.month + a.day ≤ daysInYear a.year := by
  have hday := a.day_le
  have hmonth := daysBeforeMonth_mono a.year (Nat.le_add_left 1 a.month)
    (Nat.succ_le_succ a.month_le)
  rw [daysBeforeMonth_thirteen, daysBeforeMonth_succ a.year a.month_pos] at hmonth
  omega

theorem Before.ordinal_lt (h : a.Before b) : a.ordinal < b.ordinal := by
  have hday := b.day_pos
  unfold ordinal
  rcases h with hyear | ⟨hyear, hmonth | ⟨hmonth, h⟩⟩
  · have hbefore := daysBeforeYear_mono (Nat.le_add_left 1 a.year) (Nat.succ_le_of_lt hyear)
    rw [daysBeforeYear_succ a.year_pos] at hbefore
    have hrest := a.day_le_year
    omega
  · have hbefore := daysBeforeMonth_mono a.year (Nat.le_add_left 1 a.month)
      (Nat.succ_le_of_lt hmonth)
    rw [daysBeforeMonth_succ a.year a.month_pos] at hbefore
    have hrest := a.day_le
    rw [← hyear]
    omega
  · rw [← hyear, ← hmonth]
    omega

theorem ordinal_lt_iff : a.ordinal < b.ordinal ↔ a.Before b := by
  refine ⟨fun h => ?_, Before.ordinal_lt⟩
  rcases before_trichotomy (a := a) (b := b) with hab | rfl | hba
  · exact hab
  · exact absurd h (lt_irrefl _)
  · exact absurd h (lt_asymm hba.ordinal_lt)

@[simp] theorem length_iso : a.iso.length = 10 := by simp [iso]

theorem iso_lt_iff : a.iso < b.iso ↔ a.ordinal < b.ordinal := by
  have hyear := a.year_le
  have hyear' := b.year_le
  have hmonth := a.month_le
  have hmonth' := b.month_le
  have hday := a.day_le.trans (daysInMonth_le _ _)
  have hday' := b.day_le.trans (daysInMonth_le _ _)
  rw [ordinal_lt_iff, iso, iso, padded_append_lt_iff (by omega) (by omega), List.cons_lt_cons_iff,
    padded_append_lt_iff (by omega) (by omega), List.cons_lt_cons_iff,
    padded_lt_iff (by omega) (by omega)]
  simp only [lt_irrefl, true_and, false_or]
  exact Iff.rfl

theorem ordinal_inj : a.ordinal = b.ordinal ↔ a = b := by
  refine ⟨fun h => ?_, fun h => by rw [h]⟩
  rcases before_trichotomy (a := a) (b := b) with hab | hab | hba
  · exact absurd h hab.ordinal_lt.ne
  · exact hab
  · exact absurd h hba.ordinal_lt.ne'

theorem iso_inj : a.iso = b.iso ↔ a = b := by
  refine ⟨fun h => ?_, fun h => by rw [h]⟩
  have hab : ¬ a.ordinal < b.ordinal := mt iso_lt_iff.mpr (h ▸ lt_irrefl b.iso)
  have hba : ¬ b.ordinal < a.ordinal := mt iso_lt_iff.mpr (h ▸ lt_irrefl a.iso)
  exact ordinal_inj.mp (by omega)

end Date

/-! ## Times -/

/-- A `datetime` in UTC. -/
structure DateTime where
  date : Date
  hour : Nat
  minute : Nat
  second : Nat
  microsecond : Nat
  hour_lt : hour < 24
  minute_lt : minute < 60
  second_lt : second < 60
  microsecond_lt : microsecond < 1000000

namespace DateTime

variable (a b : DateTime)

/-- The seconds of the day before this one. -/
def secondOfDay : Nat := a.hour * 3600 + a.minute * 60 + a.second

/-- The second, counted from the start of the day before the first. -/
def seconds : Nat := a.date.ordinal * 86400 + a.secondOfDay

/-- The microseconds from the first of January 1970, the day 719163. -/
def instant : Int := ((a.seconds : Int) - 719163 * 86400) * 1000000 + a.microsecond

/-- The text of the time of the day, to the second. -/
def isoTime : List Char :=
  padded 2 a.hour ++ ':' :: (padded 2 a.minute ++ ':' :: padded 2 a.second)

/-- The text of the time, to the second. -/
def isoSeconds : List Char := a.date.iso ++ 'T' :: a.isoTime

/-- The text of the microseconds; Python leaves out zero. -/
def isoFraction : List Char := if a.microsecond = 0 then [] else '.' :: padded 6 a.microsecond

/-- `datetime.isoformat`. -/
def isoformat : String := String.ofList (a.isoSeconds ++ (a.isoFraction ++ "+00:00".toList))

/-- `ts.replace(microsecond=0)`. -/
def wholeSecond : DateTime := { a with microsecond := 0, microsecond_lt := by omega }

variable {a b}

theorem secondOfDay_lt : a.secondOfDay < 86400 := by
  have hhour := a.hour_lt
  have hminute := a.minute_lt
  have hsecond := a.second_lt
  unfold secondOfDay
  omega

theorem instant_lt_iff :
    a.instant < b.instant ↔
      a.seconds < b.seconds ∨ a.seconds = b.seconds ∧ a.microsecond < b.microsecond := by
  have ha := a.microsecond_lt
  have hb := b.microsecond_lt
  unfold instant
  omega

theorem instant_le_iff :
    a.instant ≤ b.instant ↔
      a.seconds < b.seconds ∨ a.seconds = b.seconds ∧ a.microsecond ≤ b.microsecond := by
  have ha := a.microsecond_lt
  have hb := b.microsecond_lt
  unfold instant
  omega

@[simp] theorem length_isoTime : a.isoTime.length = 8 := by simp [isoTime]

@[simp] theorem length_isoSeconds : a.isoSeconds.length = 19 := by simp [isoSeconds]

theorem isoTime_lt_iff : a.isoTime < b.isoTime ↔ a.secondOfDay < b.secondOfDay := by
  have hhour := a.hour_lt
  have hhour' := b.hour_lt
  have hminute := a.minute_lt
  have hminute' := b.minute_lt
  have hsecond := a.second_lt
  have hsecond' := b.second_lt
  rw [isoTime, isoTime, padded_append_lt_iff (by omega) (by omega), List.cons_lt_cons_iff,
    padded_append_lt_iff (by omega) (by omega), List.cons_lt_cons_iff,
    padded_lt_iff (by omega) (by omega)]
  simp only [lt_irrefl, true_and, false_or, secondOfDay]
  omega

theorem isoSeconds_lt_iff : a.isoSeconds < b.isoSeconds ↔ a.seconds < b.seconds := by
  have ha := secondOfDay_lt (a := a)
  have hb := secondOfDay_lt (a := b)
  rw [isoSeconds, isoSeconds, append_lt_append_iff (by simp), Date.iso_lt_iff, Date.iso_inj,
    ← Date.ordinal_inj, List.cons_lt_cons_iff, isoTime_lt_iff]
  simp only [lt_irrefl, true_and, false_or, seconds]
  omega

theorem isoSeconds_eq_iff : a.isoSeconds = b.isoSeconds ↔ a.seconds = b.seconds := by
  have hlt := isoSeconds_lt_iff (a := a) (b := b)
  have hgt := isoSeconds_lt_iff (a := b) (b := a)
  constructor
  · intro h
    rw [h] at hlt hgt
    have h1 := mt hlt.mpr (lt_irrefl _)
    have h2 := mt hgt.mpr (lt_irrefl _)
    omega
  · intro h
    have h1 := mt hlt.mp (by omega)
    have h2 := mt hgt.mp (by omega)
    exact le_antisymm (not_lt.mp h2) (not_lt.mp h1)

/-- **Texts compare as the times they start with.** -/
theorem isoSeconds_append_lt_iff {r s : List Char} :
    a.isoSeconds ++ r < b.isoSeconds ++ s ↔
      a.seconds < b.seconds ∨ a.seconds = b.seconds ∧ r < s := by
  rw [append_lt_append_iff (by simp), isoSeconds_lt_iff, isoSeconds_eq_iff]

@[simp] theorem wholeSecond_isoSeconds : a.wholeSecond.isoSeconds = a.isoSeconds := rfl

@[simp] theorem wholeSecond_seconds : a.wholeSecond.seconds = a.seconds := rfl

@[simp] theorem wholeSecond_isoFraction : a.wholeSecond.isoFraction = [] := rfl

/-- The characters of the text of a second: digits, and what stands between the fields. -/
theorem forall_isoSeconds {P : Char → Prop} (hdigit : ∀ d < 10, P (Nat.digitChar d))
    (hbetween : P '-' ∧ P 'T' ∧ P ':') : ∀ c ∈ a.isoSeconds, P c := by
  have hpadded := forall_padded hdigit
  simp only [isoSeconds, Date.iso, isoTime, List.forall_mem_append, List.forall_mem_cons]
  exact ⟨⟨hpadded 4 _, hbetween.1, hpadded 2 _, hbetween.1, hpadded 2 _⟩, hbetween.2.1,
    hpadded 2 _, hbetween.2.2, hpadded 2 _, hbetween.2.2, hpadded 2 _⟩

theorem forall_isoFraction {P : Char → Prop} (hdigit : ∀ d < 10, P (Nat.digitChar d))
    (hpoint : P '.') : ∀ c ∈ a.isoFraction, P c := by
  unfold isoFraction
  split_ifs
  · simp
  · exact List.forall_mem_cons.mpr ⟨hpoint, forall_padded hdigit 6 _⟩

end DateTime

end Civil
