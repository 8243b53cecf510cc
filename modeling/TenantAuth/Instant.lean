/-!
This module contains points in time and their text with milliseconds, such as
`2026-01-01T00:00:00.000Z`.
-/

namespace TenantAuth

/--
A point in time, in nanoseconds since the start of 1970. Leap seconds are not counted.
-/
structure Instant where
  nanos : Int
deriving DecidableEq, Repr

namespace Instant

instance : LT Instant := ⟨fun a b => a.nanos < b.nanos⟩

instance : LE Instant := ⟨fun a b => a.nanos ≤ b.nanos⟩

instance (a b : Instant) : Decidable (a < b) := inferInstanceAs (Decidable (a.nanos < b.nanos))

instance (a b : Instant) : Decidable (a ≤ b) := inferInstanceAs (Decidable (a.nanos ≤ b.nanos))

def epoch : Instant := ⟨0⟩

def ofMillis (n : Int) : Instant := ⟨n * 1000000⟩

def ofSeconds (n : Int) : Instant := ⟨n * 1000000000⟩

def addMillis (t : Instant) (n : Int) : Instant := ⟨t.nanos + n * 1000000⟩

def millis (t : Instant) : Int :=
  t.nanos.fdiv 1000000

def seconds (t : Instant) : UInt64 :=
  UInt64.ofNat (t.nanos.fdiv 1000000000).toNat

theorem seconds_ofSeconds (w : UInt64) : (ofSeconds w.toNat).seconds = w := by
  have hdiv : ((w.toNat : Int) * 1000000000).fdiv 1000000000 = w.toNat :=
    Int.mul_fdiv_cancel _ (by decide)
  rw [seconds, ofSeconds, hdiv, Int.toNat_natCast, UInt64.ofNat_toNat]

structure Date where
  year : Int
  month : Nat
  day : Nat
deriving DecidableEq, Repr

/--
The day with the given number, counted from 1970-01-01. Years are taken to start in March, so that the
leap day is the last day of a year; 400 years have 146097 days.
-/
def Date.ofDay (n : Int) : Date :=
  let shifted := n + 719468
  let era := shifted.fdiv 146097
  let dayOfEra := (shifted - era * 146097).toNat
  let yearOfEra := (dayOfEra - dayOfEra / 1460 + dayOfEra / 36524 - dayOfEra / 146096) / 365
  let dayOfYear := dayOfEra - (365 * yearOfEra + yearOfEra / 4 - yearOfEra / 100)
  let month := (5 * dayOfYear + 2) / 153
  let day := dayOfYear - (153 * month + 2) / 5 + 1
  let year := (yearOfEra : Int) + era * 400
  if month < 10 then ⟨year, month + 3, day⟩ else ⟨year + 1, month - 9, day⟩

def digits (width n : Nat) : String :=
  let ds := Nat.toDigits 10 n
  String.ofList (List.replicate (width - ds.length) '0' ++ ds)

def yearText (year : Int) : String :=
  if 0 ≤ year ∧ year ≤ 9999 then digits 4 year.toNat
  else if year < 0 then "-" ++ digits 4 (-year).toNat
  else "+" ++ digits 4 year.toNat

def text (t : Instant) : String :=
  let day := t.millis.fdiv 86400000
  let ms := (t.millis - day * 86400000).toNat
  let date := Date.ofDay day
  yearText date.year ++ "-" ++ digits 2 date.month ++ "-" ++ digits 2 date.day
    ++ "T" ++ digits 2 (ms / 3600000) ++ ":" ++ digits 2 (ms / 60000 % 60)
    ++ ":" ++ digits 2 (ms / 1000 % 60) ++ "." ++ digits 3 (ms % 1000) ++ "Z"

end Instant

end TenantAuth
