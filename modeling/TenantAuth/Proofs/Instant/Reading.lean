import TenantAuth.Instant
import TenantAuth.Text.Decimal
import TenantAuth.Text.Split

/-!
This module contains the reading of a point in time from its text. The main statement is that the text of
a point in time is read as the same point, cut to whole milliseconds (`ofText?_text`).
-/

namespace TenantAuth

namespace Instant

def Date.toDay (d : Date) : Int :=
  let year := if d.month ≤ 2 then d.year - 1 else d.year
  let month := if d.month ≤ 2 then d.month + 9 else d.month - 3
  let era := year.fdiv 400
  let yearOfEra := (year - era * 400).toNat
  let dayOfYear := (153 * month + 2) / 5 + d.day - 1
  era * 146097 + (365 * yearOfEra + yearOfEra / 4 - yearOfEra / 100 + dayOfYear : Nat) - 719468

/--
Reads decimal numbers, each with its own mark behind it.
-/
def fields? : List Char → List Char → Option (List Nat)
  | [], cs => if cs.isEmpty then some [] else none
  | mark :: marks, cs =>
    match Text.cut? mark cs with
    | some (digits, rest) =>
      if digits.isEmpty || !digits.all Char.isDigit then none
      else (fields? marks rest).map (Text.decimalValue digits :: ·)
    | none => none

def sign : List Char → Bool × List Char
  | '-' :: cs => (true, cs)
  | '+' :: cs => (false, cs)
  | cs => (false, cs)

def ofFields (negative : Bool) (year month day hour minute second milli : Nat) : Instant :=
  let date : Date := ⟨if negative then -year else year, month, day⟩
  .ofMillis (date.toDay * 86400000 + (hour * 3600000 + minute * 60000 + second * 1000 + milli : Nat))

def ofText? (s : String) : Option Instant :=
  let (negative, cs) := sign s.toList
  match fields? ['-', '-', 'T', ':', ':', '.', 'Z'] cs with
  | some [year, month, day, hour, minute, second, milli] =>
    some (ofFields negative year month day hour minute second milli)
  | _ =>
    match fields? ['-', '-', 'T', ':', ':', 'Z'] cs with
    | some [year, month, day, hour, minute, second] =>
      some (ofFields negative year month day hour minute second 0)
    | _ => none

section Date

-- A day of an era of 400 years lies in a century `a`, in a cycle `b` of four years and in a year `e`.
theorem exists_dayOfEra {n : Nat} (h : n < 146097)
    : ∃ a b e d : Nat, a ≤ 3 ∧ b ≤ 24 ∧ e ≤ 3 ∧ d ≤ 365 ∧ (d = 365 → e = 3 ∧ (b = 24 → a = 3))
        ∧ n = 36524 * a + 1461 * b + 365 * e + d := by
  let a := min (n / 36524) 3
  let b := (n - 36524 * a) / 1461
  let e := min ((n - 36524 * a - 1461 * b) / 365) 3
  refine ⟨a, b, e, n - 36524 * a - 1461 * b - 365 * e, ?_⟩
  omega

theorem yearOfEra_eq {a b e d : Nat} (ha : a ≤ 3) (hb : b ≤ 24) (he : e ≤ 3) (hd : d ≤ 365)
    (hleap : d = 365 → e = 3 ∧ (b = 24 → a = 3))
    : let n := 36524 * a + 1461 * b + 365 * e + d
      (n - n / 1460 + n / 36524 - n / 146096) / 365 = 100 * a + 4 * b + e := by
  intro n
  have hcycles : n / 1460 = 25 * a + b + (24 * a + b + 365 * e + d) / 1460 := by omega
  have hend : n < 36524 * (a + 1) ∨ a = 3 ∧ n = 146096 := by omega
  have hcenturies : n / 36524 = a + n / 146096 := by omega
  omega

theorem daysOfYears_eq {a b e : Nat} (hb : b ≤ 24) (he : e ≤ 3)
    : let y := 100 * a + 4 * b + e
      365 * y + y / 4 - y / 100 = 36524 * a + 1461 * b + 365 * e := by
  omega

theorem monthOfYear_eq {d : Nat} (hd : d ≤ 365)
    : let month := (5 * d + 2) / 153
      month ≤ 11 ∧ (153 * month + 2) / 5 + (d - (153 * month + 2) / 5 + 1) - 1 = d := by
  omega

theorem exists_era (n : Int)
    : ∃ (era : Int) (a b e d : Nat), a ≤ 3 ∧ b ≤ 24 ∧ e ≤ 3 ∧ d ≤ 365
        ∧ (d = 365 → e = 3 ∧ (b = 24 → a = 3))
        ∧ n = era * 146097 + (36524 * a + 1461 * b + 365 * e + d : Nat) - 719468 := by
  have hlt : ((n + 719468) % 146097).toNat < 146097 := by omega
  rcases exists_dayOfEra hlt with ⟨a, b, e, d, ha, hb, he, hd, hleap, heq⟩
  refine ⟨(n + 719468) / 146097, a, b, e, d, ha, hb, he, hd, hleap, ?_⟩
  omega

theorem ofDay_eq {era : Int} {a b e d : Nat} (ha : a ≤ 3) (hb : b ≤ 24) (he : e ≤ 3) (hd : d ≤ 365)
    (hleap : d = 365 → e = 3 ∧ (b = 24 → a = 3))
    : Date.ofDay (era * 146097 + (36524 * a + 1461 * b + 365 * e + d : Nat) - 719468)
        =
      let year := ((100 * a + 4 * b + e : Nat) : Int) + era * 400
      let month := (5 * d + 2) / 153
      let day := d - (153 * month + 2) / 5 + 1
      if month < 10 then ⟨year, month + 3, day⟩ else ⟨year + 1, month - 9, day⟩ := by
  have hera : (era * 146097 + (36524 * a + 1461 * b + 365 * e + d : Nat) - 719468 + 719468).fdiv 146097 = era := by
    rw [Int.fdiv_eq_ediv_of_nonneg _ (by decide)]
    omega
  have hday : (era * 146097 + (36524 * a + 1461 * b + 365 * e + d : Nat) - 719468 + 719468
      - era * 146097).toNat = 36524 * a + 1461 * b + 365 * e + d := by
    omega
  have hyear := yearOfEra_eq ha hb he hd hleap
  have hdays := daysOfYears_eq (a := a) hb he
  have hrest : 36524 * a + 1461 * b + 365 * e + d - (36524 * a + 1461 * b + 365 * e) = d := by omega
  simp only [Date.ofDay, hera, hday, hyear, hdays, hrest]

theorem toDay_eq {era : Int} {year month day : Nat} (hyear : year < 400) (hmonth : month ≤ 11)
    : Date.toDay (if month < 10 then ⟨year + era * 400, month + 3, day⟩
          else ⟨year + era * 400 + 1, month - 9, day⟩)
        =
      era * 146097 + (365 * year + year / 4 - year / 100 + ((153 * month + 2) / 5 + day - 1) : Nat) - 719468 := by
  have hera : ((year : Int) + era * 400).fdiv 400 = era := by
    rw [Int.fdiv_eq_ediv_of_nonneg _ (by decide)]
    omega
  have hyearOfEra : ((year : Int) + era * 400 - era * 400).toNat = year := by omega
  by_cases h : month < 10
  . have hmonth' : ¬ month + 3 ≤ 2 := by omega
    have hback : month + 3 - 3 = month := by omega
    simp only [if_pos h, Date.toDay, if_neg hmonth', hera, hyearOfEra, hback]
  . have hmonth' : month - 9 ≤ 2 := by omega
    have hback : month - 9 + 9 = month := by omega
    have hyear' : (year : Int) + era * 400 + 1 - 1 = year + era * 400 := by omega
    simp only [if_neg h, Date.toDay, if_pos hmonth', hyear', hera, hyearOfEra, hback]

theorem toDay_ofDay (n : Int) : (Date.ofDay n).toDay = n := by
  rcases exists_era n with ⟨era, a, b, e, d, ha, hb, he, hd, hleap, rfl⟩
  rcases monthOfYear_eq hd with ⟨hmonth, hday⟩
  have hyear : 100 * a + 4 * b + e < 400 := by omega
  rw [ofDay_eq ha hb he hd hleap, toDay_eq hyear hmonth, hday, daysOfYears_eq hb he]

end Date

section Digits

variable {width n : Nat} {c mark : Char} {marks cs : List Char}

theorem toList_digits
    : (digits width n).toList
        =
      List.replicate (width - (Nat.toDigits 10 n).length) '0' ++ Nat.toDigits 10 n := by
  rw [digits, String.toList_ofList]

theorem isDigit_of_mem_digits (h : c ∈ (digits width n).toList) : c.isDigit = true := by
  rw [toList_digits, List.mem_append] at h
  cases h with
  | inl h =>
    rw [(List.mem_replicate.1 h).2]
    rfl
  | inr h => exact Nat.isDigit_of_mem_toDigits (by decide) (by decide) h

theorem toList_digits_ne_nil : (digits width n).toList ≠ [] := by
  rw [toList_digits]
  exact List.append_ne_nil_of_right_ne_nil _ Nat.toDigits_ne_nil

theorem decimalValue_digits : Text.decimalValue (digits width n).toList = n := by
  show Nat.ofDigitChars 10 (digits width n).toList 0 = n
  rw [toList_digits, Nat.ofDigitChars_append, Nat.ofDigitChars_replicate_zero, Nat.mul_zero,
    Nat.ofDigitChars_ten_toDigits]

theorem not_mem_digits (hmark : mark.isDigit = false) : mark ∉ (digits width n).toList := by
  intro h
  rw [isDigit_of_mem_digits h] at hmark
  cases hmark

theorem fields?_digits (hmark : mark.isDigit = false)
    : fields? (mark :: marks) ((digits width n).toList ++ mark :: cs) = (fields? marks cs).map (n :: ·) := by
  have hcut : Text.cut? mark ((digits width n).toList ++ mark :: cs) = some ((digits width n).toList, cs) :=
    Text.cut?_eq_some_iff.2 ⟨rfl, not_mem_digits hmark⟩
  have hall : (digits width n).toList.all Char.isDigit = true := by
    rw [List.all_eq_true]
    exact fun _ => isDigit_of_mem_digits
  have hempty : (digits width n).toList.isEmpty = false := by
    rw [List.isEmpty_eq_false_iff]
    exact toList_digits_ne_nil
  rw [fields?, hcut]
  simp only [hall, hempty, Bool.not_true, Bool.or_self, Bool.false_eq_true, if_false, decimalValue_digits]

theorem sign_digits : sign ((digits width n).toList ++ cs) = (false, (digits width n).toList ++ cs) := by
  cases hdigits : (digits width n).toList with
  | nil => exact absurd hdigits toList_digits_ne_nil
  | cons c ds =>
    have hc : c.isDigit = true := isDigit_of_mem_digits (hdigits ▸ List.mem_cons_self)
    rw [List.cons_append]
    unfold sign
    split
    . next heq =>
      cases heq
      cases hc
    . next heq =>
      cases heq
      cases hc
    . rfl

theorem sign_yearText (year : Int)
    : ∃ negative, sign ((yearText year).toList ++ cs) = (negative, (digits 4 year.natAbs).toList ++ cs)
        ∧ (if negative = true then -(year.natAbs : Int) else year.natAbs) = year := by
  unfold yearText
  split
  . have hyear : year.toNat = year.natAbs := by omega
    rw [hyear]
    refine ⟨false, sign_digits, ?_⟩
    rw [if_neg (by decide)]
    omega
  . split
    . have hyear : (-year).toNat = year.natAbs := by omega
      rw [hyear]
      refine ⟨true, ?_, ?_⟩
      . rw [String.toList_append]
        rfl
      . rw [if_pos rfl]
        omega
    . have hyear : year.toNat = year.natAbs := by omega
      rw [hyear]
      refine ⟨false, ?_, ?_⟩
      . rw [String.toList_append]
        rfl
      . rw [if_neg (by decide)]
        omega

end Digits

def day (t : Instant) : Int :=
  t.millis.fdiv 86400000

def millisOfDay (t : Instant) : Nat :=
  (t.millis - t.day * 86400000).toNat

theorem toList_text (t : Instant)
    : t.text.toList
        =
      (yearText (Date.ofDay t.day).year).toList ++ '-' :: ((digits 2 (Date.ofDay t.day).month).toList
        ++ '-' :: ((digits 2 (Date.ofDay t.day).day).toList
        ++ 'T' :: ((digits 2 (t.millisOfDay / 3600000)).toList
        ++ ':' :: ((digits 2 (t.millisOfDay / 60000 % 60)).toList
        ++ ':' :: ((digits 2 (t.millisOfDay / 1000 % 60)).toList
        ++ '.' :: ((digits 3 (t.millisOfDay % 1000)).toList ++ ['Z'])))))) := by
  have htext : t.text = yearText (Date.ofDay t.day).year ++ "-" ++ digits 2 (Date.ofDay t.day).month
      ++ "-" ++ digits 2 (Date.ofDay t.day).day ++ "T" ++ digits 2 (t.millisOfDay / 3600000)
      ++ ":" ++ digits 2 (t.millisOfDay / 60000 % 60) ++ ":" ++ digits 2 (t.millisOfDay / 1000 % 60)
      ++ "." ++ digits 3 (t.millisOfDay % 1000) ++ "Z" := rfl
  have hdash : "-".toList = ['-'] := rfl
  have htime : "T".toList = ['T'] := rfl
  have hcolon : ":".toList = [':'] := rfl
  have hpoint : ".".toList = ['.'] := rfl
  have hend : "Z".toList = ['Z'] := rfl
  rw [htext]
  simp only [String.toList_append, List.append_assoc, hdash, htime, hcolon, hpoint, hend, List.cons_append,
    List.nil_append]

theorem millis_eq (t : Instant) : t.millis = t.day * 86400000 + t.millisOfDay := by
  have hday : t.day = t.millis / 86400000 := Int.fdiv_eq_ediv_of_nonneg _ (by decide)
  unfold millisOfDay
  omega

theorem ofFields_eq {negative : Bool} {t : Instant}
    (hyear : (if negative = true then -((Date.ofDay t.day).year.natAbs : Int)
      else (Date.ofDay t.day).year.natAbs) = (Date.ofDay t.day).year)
    : ofFields negative (Date.ofDay t.day).year.natAbs (Date.ofDay t.day).month (Date.ofDay t.day).day
          (t.millisOfDay / 3600000) (t.millisOfDay / 60000 % 60) (t.millisOfDay / 1000 % 60)
          (t.millisOfDay % 1000)
        =
      .ofMillis t.millis := by
  have htime : t.millisOfDay / 3600000 * 3600000 + t.millisOfDay / 60000 % 60 * 60000
      + t.millisOfDay / 1000 % 60 * 1000 + t.millisOfDay % 1000 = t.millisOfDay := by
    omega
  simp only [ofFields, hyear, htime]
  rw [toDay_ofDay, ← millis_eq]

theorem ofText?_text (t : Instant) : ofText? t.text = some (.ofMillis t.millis) := by
  rcases sign_yearText (Date.ofDay t.day).year with ⟨negative, hsign, hyear⟩
  rw [ofText?, toList_text, hsign]
  dsimp only
  rw [fields?_digits rfl, fields?_digits rfl, fields?_digits rfl, fields?_digits rfl, fields?_digits rfl,
    fields?_digits rfl, fields?_digits rfl, fields?]
  rw [← ofFields_eq hyear]
  rfl

def IsPlain (c : Char) : Prop :=
  0x22 < c.toNat ∧ c.toNat < 0x7f

instance (c : Char) : Decidable (IsPlain c) :=
  inferInstanceAs (Decidable (_ ∧ _))

theorem isPlain_digits (width n : Nat) : ∀ c ∈ (digits width n).toList, IsPlain c := by
  intro c h
  rcases Char.isDigit_iff_toNat.1 (isDigit_of_mem_digits h) with ⟨hlow, hhigh⟩
  exact ⟨Nat.lt_of_lt_of_le (by decide) hlow, Nat.lt_of_le_of_lt hhigh (by decide)⟩

theorem isPlain_yearText (year : Int) : ∀ c ∈ (yearText year).toList, IsPlain c := by
  unfold yearText
  split
  . exact isPlain_digits 4 _
  . split
    . have hsign : ∀ c ∈ "-".toList, IsPlain c := List.forall_mem_singleton.2 (by decide)
      rw [String.toList_append]
      exact List.forall_mem_append.2 ⟨hsign, isPlain_digits 4 _⟩
    . have hsign : ∀ c ∈ "+".toList, IsPlain c := List.forall_mem_singleton.2 (by decide)
      rw [String.toList_append]
      exact List.forall_mem_append.2 ⟨hsign, isPlain_digits 4 _⟩

theorem isPlain_text (t : Instant) : ∀ c ∈ t.text.toList, IsPlain c := by
  rw [toList_text]
  simp only [List.forall_mem_append, List.forall_mem_cons]
  exact ⟨isPlain_yearText _, by decide, isPlain_digits _ _, by decide, isPlain_digits _ _, by decide,
    isPlain_digits _ _, by decide, isPlain_digits _ _, by decide, isPlain_digits _ _, by decide,
    isPlain_digits _ _, by decide, List.forall_mem_nil _⟩

end Instant

end TenantAuth
