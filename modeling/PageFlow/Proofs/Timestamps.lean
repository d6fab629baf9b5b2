import Mathlib.Data.List.Forall2
import Mathlib.Data.List.Lex
import PageFlow.Calendar

/-!
# The order of timestamps

The timestamp of a moment in the years 1 to 9999 has parts of fixed width: year,
month and day, hour, minute and second, and milliseconds. So timestamps are
ordered as texts in the way in which the milliseconds of their moments are
ordered as numbers, over every month, year and leap day.
-/

namespace PageFlow.Calendar

open PageFlow.Decimal

/-! ## Numbers of fixed width -/

theorem length_padZeros {width n : Nat} (wide : 0 < width)
    (fits : n < Nat.pow 10 width) :
    (padZeros width (natDigits n)).length = width := by
  have few : (natDigits n).length ≤ width :=
    (Nat.length_toDigits_le_iff (by decide) wide).mpr fits
  rw [padZeros, List.length_append, List.length_replicate]
  omega

theorem isDigit_padZeros {width n : Nat} {c : Char}
    (member : c ∈ padZeros width (natDigits n)) : c.isDigit = true := by
  rw [padZeros, List.mem_append, List.mem_replicate] at member
  rcases member with ⟨_, rfl⟩ | digit
  · rfl
  · exact Nat.isDigit_of_mem_toDigits (by omega) (Nat.le_refl 10) digit

/-- The last digit of a number stands behind those of the rest of it. -/
theorem padZeros_concat (width n : Nat) :
    padZeros (width + 2) (natDigits n) =
      padZeros (width + 1) (natDigits (n / 10)) ++
        [Nat.digitChar (n % 10)] := by
  by_cases small : n < 10
  · have single : natDigits n = [Nat.digitChar (n % 10)] := by
      rw [natDigits, Nat.toDigits_of_lt_base small, Nat.mod_eq_of_lt small]
    have nothing : natDigits (n / 10) = ['0'] := by
      rw [Nat.div_eq_of_lt small]
      rfl
    rw [single, nothing, padZeros, padZeros, List.length_singleton,
      List.length_singleton]
    exact congrArg (· ++ _) List.replicate_succ'
  · have split : natDigits n = natDigits (n / 10) ++ [Nat.digitChar (n % 10)] :=
      Nat.toDigits_of_base_le (by decide) (Nat.le_of_not_lt small)
    have zeros : width + 2 - ((natDigits (n / 10)).length + 1) =
        width + 1 - (natDigits (n / 10)).length := by
      omega
    rw [split, padZeros, padZeros, List.length_append, List.length_singleton,
      zeros, List.append_assoc]

theorem lex_append {α : Type} [LT α] {first second : List α}
    (same : first.length = second.length) (less : List.Lex (· < ·) first second)
    (later last : List α) :
    List.Lex (· < ·) (first ++ later) (second ++ last) := by
  induction less with
  | nil => cases same
  | rel less => exact .rel less
  | cons _ induction => exact .cons (induction (Nat.succ.inj same))

theorem lex_padZeros {width m n : Nat} (wide : 0 < width)
    (fits : n < Nat.pow 10 width) (less : m < n) :
    List.Lex (· < ·) (padZeros width (natDigits m))
      (padZeros width (natDigits n)) := by
  have digits : ∀ n < 10, ∀ m < n, Nat.digitChar m < Nat.digitChar n := by
    decide
  obtain ⟨width, rfl⟩ : ∃ rest, width = rest + 1 := ⟨width - 1, by omega⟩
  induction width generalizing m n with
  | zero =>
      have small : n < 10 := fits
      have single (k : Nat) (small : k < 10) :
          padZeros 1 (natDigits k) = [Nat.digitChar k] := by
        rw [natDigits, Nat.toDigits_of_lt_base small]
        rfl
      rw [single m (by omega), single n small]
      exact .rel (digits n small m less)
  | succ width induction =>
      have fewer : n / 10 < Nat.pow 10 (width + 1) :=
        Nat.div_lt_of_lt_mul (Nat.mul_comm _ _ ▸ fits)
      rw [padZeros_concat, padZeros_concat]
      by_cases same : m / 10 = n / 10
      · rw [same]
        exact List.Lex.append_left _ (.rel (digits _ (by omega) _ (by omega))) _
      · have lower : m / 10 < n / 10 := by omega
        refine lex_append ?_ (induction lower (by omega) fewer) _ _
        rw [length_padZeros (by omega) fewer,
          length_padZeros (by omega) (Nat.lt_trans lower fewer)]

/-- Numbers of fixed widths, each with a mark behind it. -/
def row : List (Nat × Char) → List Nat → List Char
  | (width, mark) :: layout, n :: numbers =>
    padZeros width (natDigits n) ++ mark :: row layout numbers
  | _, _ => []

/-- There is a number for each width, and it is not wider. -/
def Fits (layout : List (Nat × Char)) (numbers : List Nat) : Prop :=
  List.Forall₂ (fun part n => 0 < part.1 ∧ n < Nat.pow 10 part.1) layout numbers

theorem fits_iff_widths {layout : List (Nat × Char)} {numbers : List Nat} :
    Fits layout numbers ↔
    List.Forall₂ (fun width n => 0 < width ∧ n < Nat.pow 10 width)
      (layout.map (·.1)) numbers := by
  rw [List.forall₂_map_left_iff, Fits]

theorem length_row {layout : List (Nat × Char)} {numbers others : List Nat}
    (fits : Fits layout numbers) (fits' : Fits layout others) :
    (row layout numbers).length = (row layout others).length := by
  induction fits generalizing others with
  | nil => rfl
  | cons here _ induction =>
      cases fits' with
      | cons here' later' =>
          simp only [row, List.length_append, List.length_cons,
            length_padZeros here.1 here.2, length_padZeros here'.1 here'.2,
            induction later']

theorem mem_row {layout : List (Nat × Char)} {numbers : List Nat} {c : Char}
    (member : c ∈ row layout numbers) :
    c.isDigit = true ∨ c ∈ layout.map (·.2) := by
  induction layout generalizing numbers with
  | nil => simp [row] at member
  | cons part layout induction =>
      cases numbers with
      | nil => simp [row] at member
      | cons n numbers =>
          simp only [row, List.mem_append, List.mem_cons] at member
          rw [List.map_cons, List.mem_cons]
          rcases member with digit | mark | later
          · exact .inl (isDigit_padZeros digit)
          · exact .inr (.inl mark)
          · exact (induction later).imp_right .inr

theorem map_row {f : Char → Char}
    (fixes : ∀ c : Char, c.isDigit = true → f c = c)
    (layout : List (Nat × Char)) (numbers : List Nat) :
    (row layout numbers).map f =
      row (layout.map fun part => (part.1, f part.2)) numbers := by
  induction layout generalizing numbers with
  | nil => simp [row]
  | cons part layout induction =>
      cases numbers with
      | nil => simp [row]
      | cons n numbers =>
          have same : (padZeros part.1 (natDigits n)).map f =
              padZeros part.1 (natDigits n) :=
            (List.map_congr_left fun c digit =>
              fixes c (isDigit_padZeros digit)).trans (List.map_id' _)
          simp only [List.map_cons, row, List.map_append, same, induction]

theorem lex_row {layout : List (Nat × Char)} {numbers others : List Nat}
    (fits : Fits layout numbers) (fits' : Fits layout others)
    (less : List.Lex (· < ·) numbers others) :
    List.Lex (· < ·) (row layout numbers) (row layout others) := by
  induction less generalizing layout with
  | nil =>
      cases fits
      cases fits'
  | rel less =>
      cases fits with
      | cons here later =>
          cases fits' with
          | cons here' later' =>
              refine lex_append ?_ (lex_padZeros here'.1 here'.2 less) _ _
              rw [length_padZeros here.1 here.2,
                length_padZeros here'.1 here'.2]
  | cons _ induction =>
      cases fits with
      | cons here later =>
          cases fits' with
          | cons here' later' =>
              exact List.Lex.append_left _ (.cons (induction later later')) _

/-! ## Dates -/

/-- The year of a day in its era of 400 years. Years begin in March here, so
that a leap day is the last of its year. -/
def yearOfEra (day : Int) : Int :=
  (day - day / 1460 + day / 36524 - day / 146096) / 365

/-- The day with which a year begins in its era. -/
def yearStart (year : Int) : Int :=
  365 * year + year / 4 - year / 100

theorem yearOfEra_mono {day later : Int} (inEra : 0 ≤ day)
    (inEra' : later < 146097) (atMost : day ≤ later) :
    yearOfEra day ≤ yearOfEra later := by
  have first : day - day / 1460 ≤ later - later / 1460 := by omega
  have second :
      day / 36524 - day / 146096 ≤ later / 36524 - later / 146096 := by
    omega
  unfold yearOfEra
  omega

/-- The day before a year begins is one of an earlier year, and so is the day
366 days later one of a later year, unless the era has ended before. -/
theorem yearOfEra_yearStart : ∀ year : Nat, year < 400 →
    (0 < year → yearOfEra (yearStart year - 1) < year) ∧
      (year < 399 → year < yearOfEra (yearStart year + 366)) := by
  decide +kernel

/-- A day stands behind the start of its year, and at most 365 days behind
it. -/
theorem yearStart_yearOfEra {day : Int} (inEra : 0 ≤ day)
    (inEra' : day < 146097) :
    yearStart (yearOfEra day) ≤ day ∧
      day ≤ yearStart (yearOfEra day) + 365 := by
  have range : 0 ≤ yearOfEra day ∧ yearOfEra day < 400 := by
    unfold yearOfEra
    omega
  obtain ⟨year, same⟩ := Int.eq_ofNat_of_zero_le range.1
  rw [same] at range ⊢
  obtain ⟨before, behind⟩ := yearOfEra_yearStart year (by omega)
  have start :
      yearStart year = 365 * year + (year : Int) / 4 - (year : Int) / 100 :=
    rfl
  constructor
  · by_cases first : year = 0
    · subst first
      exact inEra
    · refine Int.not_lt.mp fun early => ?_
      have earlier : yearOfEra day ≤ yearOfEra (yearStart year - 1) :=
        yearOfEra_mono inEra (by omega) (by omega)
      have := before (by omega)
      omega
  · by_cases last : year = 399
    · subst last
      omega
    · refine Int.not_lt.mp fun late => ?_
      have later : yearOfEra (yearStart year + 366) ≤ yearOfEra day :=
        yearOfEra_mono (by omega) inEra' (by omega)
      have := behind (by omega)
      omega

def dayOfEra (days : Int) : Int :=
  days + 719468 - (days + 719468) / 146097 * 146097

/-- The year that a day belongs to, if years begin in March. -/
def marchYear (days : Int) : Int :=
  yearOfEra (dayOfEra days) + (days + 719468) / 146097 * 400

/-- The day of that year, from zero. -/
def yearDay (days : Int) : Int :=
  dayOfEra days - yearStart (yearOfEra (dayOfEra days))

/-- The month of a day of the year, where March is zero. -/
def marchMonth (day : Int) : Int :=
  (5 * day + 2) / 153

/-- The months from the first one of the year 0 to that of a day. -/
def monthCount (days : Int) : Int :=
  12 * marchYear days + marchMonth (yearDay days) + 2

def monthDay (days : Int) : Int :=
  yearDay days - (153 * marchMonth (yearDay days) + 2) / 5 + 1

theorem dayOfEra_range (days : Int) :
    0 ≤ dayOfEra days ∧ dayOfEra days < 146097 := by
  unfold dayOfEra
  omega

theorem yearDay_range (days : Int) : 0 ≤ yearDay days ∧ yearDay days ≤ 365 := by
  obtain ⟨least, most⟩ := dayOfEra_range days
  have start := yearStart_yearOfEra least most
  unfold yearDay
  omega

theorem marchMonth_range (days : Int) :
    0 ≤ marchMonth (yearDay days) ∧ marchMonth (yearDay days) ≤ 11 := by
  have range := yearDay_range days
  unfold marchMonth
  omega

theorem monthDay_range (days : Int) :
    1 ≤ monthDay days ∧ monthDay days ≤ 31 := by
  unfold monthDay marchMonth
  omega

/-- The date of a day is read off the count of the months and the day in its
month. -/
theorem ofDayNumber_eq (days : Int) : ofDayNumber days =
    ⟨(monthCount days / 12).toNat, (monthCount days % 12 + 1).toNat,
      (monthDay days).toNat⟩ := by
  have range := marchMonth_range days
  -- January and February belong to the next year.
  have opened : ofDayNumber days =
      let month := marchMonth (yearDay days)
      let civil := if month < 10 then month + 3 else month - 9
      ⟨(marchYear days + if civil ≤ 2 then 1 else 0).toNat, civil.toNat,
        (monthDay days).toNat⟩ := by
    simp (disch := decide) only [ofDayNumber, Int.fdiv_eq_ediv_of_nonneg]
    rfl
  rw [opened, monthCount]
  generalize marchMonth (yearDay days) = month at range ⊢
  by_cases early : month < 10
  · have civil : (12 * marchYear days + month + 2) % 12 + 1 = month + 3 := by
      omega
    have year :
        (12 * marchYear days + month + 2) / 12 = marchYear days + 0 := by
      omega
    simp only [if_pos early, civil, year]
    rw [if_neg (by omega)]
  · have civil : (12 * marchYear days + month + 2) % 12 + 1 = month - 9 := by
      omega
    have year :
        (12 * marchYear days + month + 2) / 12 = marchYear days + 1 := by
      omega
    simp only [if_neg early, civil, year]
    rw [if_pos (by omega)]

/-- A later day is one of a later year, or a later one of the same year. -/
theorem marchYear_lt {days later : Int} (less : days < later) :
    marchYear days < marchYear later ∨
      marchYear days = marchYear later ∧ yearDay days < yearDay later := by
  obtain ⟨least, most⟩ := dayOfEra_range days
  obtain ⟨least', most'⟩ := dayOfEra_range later
  have years : yearOfEra (dayOfEra days) < 400 := by
    unfold yearOfEra
    omega
  have years' : 0 ≤ yearOfEra (dayOfEra later) := by
    unfold yearOfEra
    omega
  have day :
      dayOfEra days = days + 719468 - (days + 719468) / 146097 * 146097 :=
    rfl
  have day' :
      dayOfEra later = later + 719468 - (later + 719468) / 146097 * 146097 :=
    rfl
  unfold marchYear yearDay
  by_cases era : (days + 719468) / 146097 = (later + 719468) / 146097
  · have mono := yearOfEra_mono least most' (by omega)
    rcases Int.lt_or_eq_of_le mono with before | same
    · omega
    · rw [same]
      omega
  · omega

/-- A later day is one of a later month, or a later one of the same month. -/
theorem monthCount_lt {days later : Int} (less : days < later) :
    monthCount days < monthCount later ∨
      monthCount days = monthCount later ∧ monthDay days < monthDay later := by
  have months := marchMonth_range days
  have months' := marchMonth_range later
  have month : marchMonth (yearDay days) = (5 * yearDay days + 2) / 153 := rfl
  have month' : marchMonth (yearDay later) = (5 * yearDay later + 2) / 153 :=
    rfl
  unfold monthCount monthDay
  rcases marchYear_lt less with before | ⟨same, day⟩
  · omega
  · omega

/-- The year, the month and the day of a date. -/
def dateParts (date : Date) : List Nat :=
  [date.year, date.month, date.day]

theorem lex_three {a b c x y z : Nat}
    (less : a < x ∨ a = x ∧ (b < y ∨ b = y ∧ c < z)) :
    List.Lex (· < ·) [a, b, c] [x, y, z] := by
  rcases less with first | ⟨rfl, second | ⟨rfl, third⟩⟩
  · exact .rel first
  · exact .cons (.rel second)
  · exact .cons (.cons (.rel third))

theorem lex_dateParts {days later : Int} (known : 1 ≤ (ofDayNumber days).year)
    (less : days < later) :
    List.Lex (· < ·) (dateParts (ofDayNumber days))
      (dateParts (ofDayNumber later)) := by
  have order := monthCount_lt less
  have range := monthDay_range days
  rw [ofDayNumber_eq days] at known ⊢
  rw [ofDayNumber_eq later]
  dsimp only [dateParts] at known ⊢
  refine lex_three ?_
  omega

theorem dateParts_range (days : Int) :
    (ofDayNumber days).month < 100 ∧ (ofDayNumber days).day < 100 := by
  have range := monthDay_range days
  rw [ofDayNumber_eq days]
  dsimp only
  omega

/-! ## Timestamps -/

/-- The widths of a timestamp, with the marks between them. -/
def stampLayout : List (Nat × Char) :=
  [(4, '-'), (2, '-'), (2, 'T'), (2, ':'), (2, ':'), (2, '.'), (3, 'Z')]

/-- The numbers of a timestamp. -/
def stampParts (time : DateTime) : List Nat :=
  dateParts time.date ++ [time.hour, time.minute, time.second] ++
    [time.micro / 1000]

theorem toList_stampText {time : DateTime} (utc : time.offset = some 0) :
    (stampText time).toList = row stampLayout (stampParts time) := by
  simp [stampText, dateText, clockText, digits, utc, stampLayout, stampParts,
    dateParts, row]

def millisecondOf (moment : Int) : Int :=
  moment / 1000

theorem stampParts_ofMoment (moment : Int) :
    let second := millisecondOf moment / 1000
    let rest := (second - second / 86400 * 86400).toNat
    stampParts (ofMoment moment) =
      dateParts (ofDayNumber (second / 86400)) ++
          [rest / 3600, rest / 60 % 60, rest % 60] ++
        [(millisecondOf moment - second * 1000).toNat] := by
  intro second rest
  have seconds : moment / 1000000 = second := by
    simp only [second, millisecondOf]
    omega
  have milli : (moment - second * 1000000).toNat / 1000 =
      (millisecondOf moment - second * 1000).toNat := by
    simp only [second, millisecondOf]
    omega
  simp (disch := decide) only [stampParts, ofMoment, Int.fdiv_eq_ediv_of_nonneg,
    seconds, milli]
  rfl

/-- The year of a moment is one of those in which dates are written. -/
def Known (moment : Int) : Prop :=
  1 ≤ (ofMoment moment).date.year ∧ (ofMoment moment).date.year ≤ 9999

instance (moment : Int) : Decidable (Known moment) :=
  inferInstanceAs (Decidable (_ ∧ _))

theorem date_ofMoment (moment : Int) :
    (ofMoment moment).date =
      ofDayNumber (millisecondOf moment / 1000 / 86400) := by
  have seconds : moment / 1000000 = millisecondOf moment / 1000 := by
    unfold millisecondOf
    omega
  simp (disch := decide) only [ofMoment, Int.fdiv_eq_ediv_of_nonneg, seconds]

theorem fits_stampParts {moment : Int} (known : Known moment) :
    Fits stampLayout (stampParts (ofMoment moment)) := by
  have date := dateParts_range (millisecondOf moment / 1000 / 86400)
  have year :
      (ofDayNumber (millisecondOf moment / 1000 / 86400)).year < 10000 := by
    rw [← date_ofMoment]
    exact Nat.lt_succ_of_le known.2
  rw [stampParts_ofMoment]
  simp only [dateParts, List.cons_append, List.nil_append]
  refine .cons ⟨by decide, year⟩
    (.cons ⟨by decide, date.1⟩ (.cons ⟨by decide, date.2⟩
    (.cons ⟨by decide, ?_⟩ (.cons ⟨by decide, ?_⟩ (.cons ⟨by decide, ?_⟩
      (.cons ⟨by decide, ?_⟩ .nil))))))
  all_goals
    simp only [Nat.pow_eq, Nat.reducePow]
    omega

theorem lex_stampParts {moment later : Int} (known : Known moment)
    (less : millisecondOf moment < millisecondOf later) :
    List.Lex (· < ·) (stampParts (ofMoment moment))
      (stampParts (ofMoment later)) := by
  have year : 1 ≤ (ofDayNumber (millisecondOf moment / 1000 / 86400)).year :=
    date_ofMoment moment ▸ known.1
  rw [stampParts_ofMoment, stampParts_ofMoment]
  -- The first of day, second and millisecond that differs decides.
  by_cases day : millisecondOf moment / 1000 / 86400 =
    millisecondOf later / 1000 / 86400
  · rw [day, List.append_assoc, List.append_assoc]
    refine List.Lex.append_left _ ?_ _
    by_cases second : millisecondOf moment / 1000 = millisecondOf later / 1000
    · rw [second]
      exact List.Lex.append_left _ (.rel (by omega)) _
    · refine lex_append (by rfl) (lex_three ?_) _ _
      omega
  · have before :
        millisecondOf moment / 1000 / 86400 <
          millisecondOf later / 1000 / 86400 := by
      omega
    rw [List.append_assoc, List.append_assoc]
    exact lex_append (by rfl) (lex_dateParts year before) _ _

theorem stampText_lt {moment later : Int} (known : Known moment)
    (known' : Known later) (less : millisecondOf moment < millisecondOf later) :
    stampText (ofMoment moment) < stampText (ofMoment later) := by
  rw [String.lt_iff, ← List.lex_lt, toList_stampText rfl, toList_stampText rfl]
  exact lex_row (fits_stampParts known) (fits_stampParts known')
    (lex_stampParts known less)

theorem stampText_congr {moment other : Int}
    (same : millisecondOf moment = millisecondOf other) :
    stampText (ofMoment moment) = stampText (ofMoment other) := by
  apply String.toList_injective
  rw [toList_stampText rfl, toList_stampText rfl, stampParts_ofMoment,
    stampParts_ofMoment, same]

theorem stampText_mono {moment later : Int} (known : Known moment)
    (known' : Known later) (atMost : moment ≤ later) :
    stampText (ofMoment moment) = stampText (ofMoment later) ∨
      stampText (ofMoment moment) < stampText (ofMoment later) := by
  have milli : millisecondOf moment ≤ millisecondOf later := by
    unfold millisecondOf
    omega
  rcases Int.lt_or_eq_of_le milli with less | same
  · exact .inr (stampText_lt known known' less)
  · exact .inl (stampText_congr same)

/-- The last millisecond of a leap day comes before the first of March. -/
example : stampText (ofMoment 1709251199999000) = "2024-02-29T23:59:59.999Z" ∧
    stampText (ofMoment 1709251200000000) = "2024-03-01T00:00:00.000Z" := by
  decide +kernel

end PageFlow.Calendar
