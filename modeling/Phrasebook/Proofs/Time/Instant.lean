import Phrasebook.Time.Instant
import Mathlib.Data.Nat.Digits.Defs
import Mathlib.Data.String.Basic

/-!
The order of points in time. A later day has a later date, across the ends of months, leap years and
centuries, and a later second has the later text, as long as years have four digits.
-/

namespace Phrasebook

namespace CivilDate

/-- How many of the first days of an era are no leap days. -/
def plainDays (day : Nat) : Nat := day - day / 1460 + day / 36524 - day / 146096

/-- The first day of a year of an era. -/
def yearStart (year : Nat) : Nat := 365 * year + year / 4 - year / 100

theorem plainDays_mono {a b : Nat} (le : a ≤ b) : plainDays a ≤ plainDays b := by
  unfold plainDays
  omega

theorem plainDays_around_start : ∀ year < 400,
    plainDays (yearStart year - 1) < 365 * year + 1 - min year 1 ∧
      365 * (year + 1) ≤ plainDays (yearStart year + 366) := by
  decide +kernel

/-- Each day of an era lies in the year that it is counted to. -/
theorem year_of_plainDays {day : Nat} (inEra : day < 146097) :
    plainDays day / 365 < 400 ∧ yearStart (plainDays day / 365) ≤ day ∧
      day ≤ yearStart (plainDays day / 365) + 365 := by
  have last : plainDays 146096 = 145999 := by decide
  have most : plainDays day ≤ plainDays 146096 := plainDays_mono (by omega)
  have small : plainDays day / 365 < 400 := by omega
  obtain ⟨before, behind⟩ := plainDays_around_start _ small
  refine ⟨small, ?_, ?_⟩
  · by_contra late
    have less : plainDays day ≤ plainDays (yearStart (plainDays day / 365) - 1) :=
      plainDays_mono (by omega)
    by_cases first : plainDays day / 365 = 0
    · rw [first] at late
      exact late (Nat.zero_le _)
    · omega
  · by_contra late
    have more : plainDays (yearStart (plainDays day / 365) + 366) ≤ plainDays day :=
      plainDays_mono (by omega)
    omega

/-- The day of an era that a day is. -/
def dayOfEra (day : Int) : Nat := ((day + 719468) % 146097).toNat

/-- The day of a year that begins in March. -/
def dayOfYear (day : Int) : Nat := dayOfEra day - yearStart (plainDays (dayOfEra day) / 365)

/-- Months in all, from March of the year 0. -/
def monthsOf (day : Int) : Int :=
  12 * ((day + 719468) / 146097 * 400 + (plainDays (dayOfEra day) / 365 : Nat))
    + ((5 * dayOfYear day + 2) / 153 : Nat)

theorem dayOfEra_lt (day : Int) : dayOfEra day < 146097 := by
  unfold dayOfEra
  omega

theorem dayOfYear_le (day : Int) : dayOfYear day ≤ 365 := by
  obtain ⟨-, -, le⟩ := year_of_plainDays (dayOfEra_lt day)
  unfold dayOfYear
  omega

theorem day_ofDay (day : Int) :
    (ofDay day).day = dayOfYear day - (153 * ((5 * dayOfYear day + 2) / 153) + 2) / 5 + 1 := rfl

theorem month_ofDay (day : Int) : 1 ≤ (ofDay day).month ∧ (ofDay day).month ≤ 12 ∧
    12 * (ofDay day).year + (ofDay day).month = monthsOf day + 3 := by
  have le := dayOfYear_le day
  have month : (ofDay day).month = if (5 * dayOfYear day + 2) / 153 < 10
      then (5 * dayOfYear day + 2) / 153 + 3 else (5 * dayOfYear day + 2) / 153 - 9 := rfl
  have year : (ofDay day).year = (day + 719468) / 146097 * 400 +
    (plainDays (dayOfEra day) / 365 : Nat)
      + (if (ofDay day).month ≤ 2 then 1 else 0) := rfl
  unfold monthsOf
  rw [year, month]
  split <;> split <;> omega

theorem day_ofDay_le (day : Int) : (ofDay day).day ≤ 31 := by
  have le := dayOfYear_le day
  rw [day_ofDay]
  omega

/-- A later day is in a later month, or later in the same month. -/
theorem ofDay_later {a b : Int} (less : a < b) :
    monthsOf a < monthsOf b ∨ monthsOf a = monthsOf b ∧ (ofDay a).day < (ofDay b).day := by
  obtain ⟨firstYear, firstStart, -⟩ := year_of_plainDays (dayOfEra_lt a)
  obtain ⟨secondYear, secondStart, -⟩ := year_of_plainDays (dayOfEra_lt b)
  have firstDay := dayOfYear_le a
  have secondDay := dayOfYear_le b
  rw [day_ofDay, day_ofDay]
  have eras : (a + 719468) / 146097 ≤ (b + 719468) / 146097 := by omega
  rcases eras.lt_or_eq with apart | same
  · left
    unfold monthsOf
    omega
  · have days : dayOfEra a < dayOfEra b := by
      unfold dayOfEra
      omega
    have years : plainDays (dayOfEra a) / 365 ≤ plainDays (dayOfEra b) / 365 :=
      Nat.div_le_div_right (plainDays_mono days.le)
    unfold monthsOf
    rw [same]
    rcases years.lt_or_eq with apart | alike
    · left
      omega
    · have later : dayOfYear a < dayOfYear b := by
        unfold dayOfYear
        rw [alike] at firstStart ⊢
        omega
      omega

end CivilDate

namespace Instant

theorem toList_padded (width n : Nat) : (padded width n).toList =
    List.replicate (width - (Nat.toDigits 10 n).length) '0' ++ Nat.toDigits 10 n := by
  simp [padded, toString, Nat.repr]

theorem padded_digit {n : Nat} (small : n < 10) : (padded 1 n).toList = [Nat.digitChar n] := by
  rw [toList_padded, Nat.toDigits_of_lt_base small]
  rfl

/-- The last digit of a number stands behind the others. -/
theorem padded_succ {width : Nat} (wide : 0 < width) (n : Nat) :
    (padded (width + 1) n).toList = (padded width (n / 10)).toList ++ [Nat.digitChar (n % 10)] := by
  obtain ⟨less, rfl⟩ := Nat.exists_eq_add_of_lt wide
  rw [toList_padded, toList_padded]
  by_cases small : n < 10
  · rw [Nat.div_eq_of_lt small, Nat.mod_eq_of_lt small, Nat.toDigits_of_lt_base small,
      Nat.toDigits_zero]
    simp [← List.replicate_succ']
  · rw [Nat.toDigits_eq_if (by decide), if_neg small, List.length_append, List.length_singleton,
      Nat.add_sub_add_right, List.append_assoc]

theorem length_padded {width n : Nat} (wide : 0 < width) (fits : n < 10 ^ width) :
    (padded width n).toList.length = width := by
  induction width, wide using Nat.le_induction generalizing n with
  | base => rw [padded_digit fits]; rfl
  | succ width wide ih =>
    rw [padded_succ wide, List.length_append, ih (by omega)]
    rfl

theorem digitChar_lt : ∀ b < 10, ∀ a < b, Nat.digitChar a < Nat.digitChar b := by decide

theorem append_lt {as bs cs ds : List Char} (long : as.length = bs.length)
    (later : as < bs ∨ as = bs ∧ cs < ds) : as ++ cs < bs ++ ds := by
  induction as generalizing bs with
  | nil =>
    obtain rfl : bs = [] := List.eq_nil_of_length_eq_zero long.symm
    simpa using later
  | cons a as ih =>
    obtain ⟨b, bs, rfl⟩ := List.exists_cons_of_length_eq_add_one long.symm
    rw [List.cons_append, List.cons_append, List.cons_lt_cons_iff]
    rcases later with less | ⟨same, less⟩
    · rcases List.cons_lt_cons_iff.mp less with first | ⟨rfl, rest⟩
      · exact .inl first
      · exact .inr ⟨rfl, ih (by simpa using long) (.inl rest)⟩
    · obtain ⟨rfl, rfl⟩ := List.cons.inj same
      exact .inr ⟨rfl, ih rfl (.inr ⟨rfl, less⟩)⟩

/-- Digits of one number are in the order of the numbers. -/
theorem padded_lt {width a b : Nat} (wide : 0 < width) (fits : b < 10 ^ width) (less : a < b) :
    (padded width a).toList < (padded width b).toList := by
  induction width, wide using Nat.le_induction generalizing a b with
  | base =>
    rw [padded_digit fits, padded_digit (less.trans fits), List.cons_lt_cons_iff]
    exact .inl (digitChar_lt b fits a less)
  | succ width wide ih =>
    rw [padded_succ wide, padded_succ wide]
    have long : (padded width (a / 10)).toList.length = (padded width (b / 10)).toList.length := by
      rw [length_padded wide (by omega), length_padded wide (by omega)]
    refine append_lt long ?_
    rcases (Nat.div_le_div_right less.le : a / 10 ≤ b / 10).lt_or_eq with first | same
    · exact .inl (ih (by omega) first)
    · refine .inr ⟨by rw [same], List.cons_lt_cons_iff.mpr (.inl ?_)⟩
      exact digitChar_lt _ (Nat.mod_lt b (by decide)) _ (by omega)

/-- Numbers in front of other texts: the first difference counts. -/
theorem padded_append_lt {width a b : Nat} {rest more : List Char} (wide : 0 < width)
    (first : a < 10 ^ width) (second : b < 10 ^ width) (later : a < b ∨ a = b ∧ rest < more) :
    (padded width a).toList ++ rest < (padded width b).toList ++ more := by
  refine append_lt (by rw [length_padded wide first, length_padded wide second]) ?_
  exact later.imp (padded_lt wide second) fun ⟨same, less⟩ => ⟨by rw [same], less⟩

/-- A point in time whose year has four digits and no sign. -/
def IsDated (t : Instant) : Prop := 0 ≤ t.date.year ∧ t.date.year ≤ 9999

instance (t : Instant) : Decidable t.IsDated := inferInstanceAs (Decidable (_ ∧ _))

theorem toList_fileText {t : Instant} (dated : t.IsDated) : t.fileText.toList =
    (padded 4 t.date.year.toNat).toList ++ '-' :: ((padded 2 t.date.month).toList ++ '-' ::
      ((padded 2 t.date.day).toList ++ '_' :: ((padded 2 (t.secondOfDay / 3600)).toList ++ '-' ::
        ((padded 2 (t.secondOfDay / 60 % 60)).toList ++ '-' ::
          (padded 2 (t.secondOfDay % 60)).toList)))) := by
  have year : yearText t.date.year = padded 4 t.date.year.toNat := by
    obtain ⟨year, same⟩ := Int.eq_ofNat_of_zero_le dated.1
    rw [yearText, same]
    simp
  simp [fileText, dateText, year, clock]

/-- All fields have the width that they are written in. -/
theorem fields_fit {t : Instant} (dated : t.IsDated) : t.date.year.toNat < 10 ^ 4 ∧
    t.date.month < 10 ^ 2 ∧ t.date.day < 10 ^ 2 ∧ t.secondOfDay / 3600 < 10 ^ 2 ∧
    t.secondOfDay / 60 % 60 < 10 ^ 2 ∧ t.secondOfDay % 60 < 10 ^ 2 := by
  have year := dated.2
  have month : t.date.month ≤ 12 := (CivilDate.month_ofDay _).2.1
  have day : t.date.day ≤ 31 := CivilDate.day_ofDay_le _
  have clock : t.secondOfDay < 86400 := by
    unfold secondOfDay secondsPerDay
    omega
  omega

theorem length_fileText {t : Instant} (dated : t.IsDated) : t.fileText.toList.length = 19 := by
  obtain ⟨year, month, day, hour, minute, second⟩ := fields_fit dated
  rw [toList_fileText dated]
  simp only [List.length_append, List.length_cons, length_padded (by decide : 0 < 4) year,
    length_padded (by decide : 0 < 2) month, length_padded (by decide : 0 < 2) day,
    length_padded (by decide : 0 < 2) hour, length_padded (by decide : 0 < 2) minute,
    length_padded (by decide : 0 < 2) second]

/-- The first field in which two points in time differ is later in the later one. -/
theorem fields_later {a b : Instant} (first : a.IsDated) (less : a.seconds < b.seconds) :
    let year (t : Instant) := t.date.year.toNat
    year a < year b ∨ year a = year b ∧
      (a.date.month < b.date.month ∨ a.date.month = b.date.month ∧
        (a.date.day < b.date.day ∨ a.date.day = b.date.day ∧
          (a.secondOfDay / 3600 < b.secondOfDay / 3600 ∨
            a.secondOfDay / 3600 = b.secondOfDay / 3600 ∧
            (a.secondOfDay / 60 % 60 < b.secondOfDay / 60 % 60 ∨
              a.secondOfDay / 60 % 60 = b.secondOfDay / 60 % 60 ∧
                a.secondOfDay % 60 < b.secondOfDay % 60)))) := by
  dsimp only
  have days : a.seconds / secondsPerDay ≤ b.seconds / secondsPerDay := by
    unfold secondsPerDay
    omega
  rcases days.lt_or_eq with earlier | same
  · obtain ⟨monthOne, monthLast, months⟩ := CivilDate.month_ofDay (a.seconds / secondsPerDay)
    obtain ⟨otherOne, otherLast, others⟩ := CivilDate.month_ofDay (b.seconds / secondsPerDay)
    have later := CivilDate.ofDay_later earlier
    have dated := first.1
    unfold date at dated ⊢
    omega
  · have seconds : a.secondOfDay < b.secondOfDay := by
      unfold secondOfDay secondsPerDay at *
      omega
    have dates : a.date = b.date := congrArg CivilDate.ofDay same
    rw [dates]
    omega

/-- A later second has a later name. -/
theorem fileText_lt {a b : Instant} (first : a.IsDated) (second : b.IsDated)
    (less : a.seconds < b.seconds) : a.fileText < b.fileText := by
  have behind (c : Char) {cs ds : List Char} (less : cs < ds) : c :: cs < c :: ds :=
    List.cons_lt_cons_iff.mpr (.inr ⟨rfl, less⟩)
  obtain ⟨year, month, day, hour, minute, -⟩ := fields_fit first
  obtain ⟨otherYear, otherMonth, otherDay, otherHour, otherMinute, last⟩ := fields_fit second
  have two : 0 < 2 := by decide
  rw [String.lt_iff_toList_lt, toList_fileText first, toList_fileText second]
  refine padded_append_lt (by decide) year otherYear ?_
  refine (fields_later first less).imp_right fun ⟨same, later⟩ => ⟨same, behind '-' ?_⟩
  refine padded_append_lt two month otherMonth ?_
  refine later.imp_right fun ⟨same, later⟩ => ⟨same, behind '-' ?_⟩
  refine padded_append_lt two day otherDay ?_
  refine later.imp_right fun ⟨same, later⟩ => ⟨same, behind '_' ?_⟩
  refine padded_append_lt two hour otherHour ?_
  refine later.imp_right fun ⟨same, later⟩ => ⟨same, behind '-' ?_⟩
  refine padded_append_lt two minute otherMinute ?_
  exact later.imp_right fun ⟨same, later⟩ => ⟨same, behind '-' (padded_lt two last later)⟩

theorem fileText_lt_iff {a b : Instant} (first : a.IsDated) (second : b.IsDated) :
    a.fileText < b.fileText ↔ a.seconds < b.seconds := by
  refine ⟨fun less => ?_, fileText_lt first second⟩
  rcases lt_trichotomy a.seconds b.seconds with earlier | same | later
  · exact earlier
  · obtain rfl : a = b := congrArg Instant.mk same
    exact (String.lt_irrefl _ less).elim
  · exact (String.lt_asymm less (fileText_lt second first later)).elim

end Instant
end Phrasebook
