import InstrumentControl.Decimal.Literal
import InstrumentControl.Decimal.Layout

/-! Points in time in TOML: a date, a time of day, or both with or without an offset.  `text` is the
standard form: a capital `T` between date and time, a capital `Z`, and a fraction of a second
without zeros at its end. -/

namespace InstrumentControl.Toml

open Decimal

structure Date where
  year : Nat
  month : Nat
  day : Nat
deriving DecidableEq

structure TimeOfDay where
  hour : Nat
  minute : Nat
  second : Nat
  nanosecond : Nat
deriving DecidableEq

inductive Offset where
  | utc
  | minutes (m : Int)
deriving DecidableEq

structure Moment where
  date : Option Date
  time : Option TimeOfDay
  offset : Option Offset
deriving DecidableEq

/-- The key of the only entry of a table that stands for a point in time. -/
def momentKey : String := "$__toml_private_datetime"

/-- `n` with zeros in front up to `width` digits. -/
def padded (width n : Nat) : List Char :=
  let ds := Nat.toDigits 10 n
  List.replicate (width - ds.length) '0' ++ ds

namespace Date

def isLeap (year : Nat) : Bool := year % 4 = 0 && (year % 100 ≠ 0 || year % 400 = 0)

def daysIn (year month : Nat) : Nat :=
  if month = 2 then (if isLeap year then 29 else 28)
  else if month = 4 || month = 6 || month = 9 || month = 11 then 30
  else 31

def chars (d : Date) : List Char :=
  padded 4 d.year ++ '-' :: (padded 2 d.month ++ '-' :: padded 2 d.day)

end Date

namespace TimeOfDay

def chars (t : TimeOfDay) : List Char :=
  let fraction := ((padded 9 t.nanosecond).reverse.dropWhile (· = '0')).reverse
  padded 2 t.hour ++ ':' :: (padded 2 t.minute ++ ':' :: padded 2 t.second) ++
    (if fraction.isEmpty then [] else '.' :: fraction)

end TimeOfDay

namespace Offset

def chars : Offset → List Char
  | utc => ['Z']
  | minutes m =>
    (if m < 0 then '-' else '+') ::
      (padded 2 (m.natAbs / 60) ++ ':' :: padded 2 (m.natAbs % 60))

end Offset

/-- The number of exactly `count` digits that `s` begins with, if it lies between the bounds. -/
def readField (count low high : Nat) (s : List Char) : Option (Nat × List Char) :=
  let ds := s.take count
  if ds.length = count && ds.all Char.isDigit then
    let n := digitsValue 0 ds
    if low ≤ n && n ≤ high then some (n, s.drop count) else none
  else none

/-- `s` without the character that it has to begin with. -/
def readMark (mark : Char) : List Char → Option (List Char)
  | c :: s => if c = mark then some s else none
  | [] => none

def readDate (s : List Char) : Option (Date × List Char) := do
  let (year, s) ← readField 4 0 9999 s
  let s ← readMark '-' s
  let (month, s) ← readField 2 1 12 s
  let s ← readMark '-' s
  let (day, s) ← readField 2 1 (Date.daysIn year month) s
  return (⟨year, month, day⟩, s)

/-- The fraction of a second in nanoseconds; digits after the ninth do not count. -/
def readFraction : List Char → Option (Nat × List Char)
  | '.' :: s =>
    let (ds, rest) := takeDigits s
    if ds.isEmpty then none
    else
      let ds := ds.take 9
      some (digitsValue 0 ds * Nat.pow 10 (9 - ds.length), rest)
  | s => some (0, s)

def readTime (s : List Char) : Option (TimeOfDay × List Char) := do
  let (hour, s) ← readField 2 0 23 s
  let s ← readMark ':' s
  let (minute, s) ← readField 2 0 59 s
  let s ← readMark ':' s
  let (second, s) ← readField 2 0 60 s
  let (nanosecond, s) ← readFraction s
  return (⟨hour, minute, second, nanosecond⟩, s)

def readOffset : List Char → Option (Option Offset × List Char)
  | [] => some (none, [])
  | c :: s =>
    if c = 'Z' || c = 'z' then some (some .utc, s)
    else if c = '+' || c = '-' then do
      let (hours, s) ← readField 2 0 23 s
      let s ← readMark ':' s
      let (minutes, s) ← readField 2 0 59 s
      let total : Int := hours * 60 + minutes
      return (some (.minutes (if c = '-' then -total else total)), s)
    else some (none, c :: s)

namespace Moment

def text (m : Moment) : String :=
  let date := (m.date.map Date.chars).getD []
  let time := (m.time.map TimeOfDay.chars).getD []
  let mark := if m.date.isSome && m.time.isSome then ['T'] else []
  String.ofList (date ++ mark ++ time ++ (m.offset.map Offset.chars).getD [])

/-- A time after a date and a `T` or a blank; without one, the date stands alone. -/
def readAfterDate (date : Date) (s : List Char) : Option (Moment × List Char) :=
  match s with
  | c :: t =>
    if c = 'T' || c = 't' then do
      let (time, t) ← readTime t
      let (offset, t) ← readOffset t
      return (⟨some date, some time, offset⟩, t)
    else if c = ' ' && (readTime t).isSome then do
      let (time, t) ← readTime t
      let (offset, t) ← readOffset t
      return (⟨some date, some time, offset⟩, t)
    else some (⟨some date, none, none⟩, s)
  | [] => some (⟨some date, none, none⟩, [])

/-- The point in time that `s` begins with, and what follows it. -/
def readPart (s : List Char) : Option (Moment × List Char) :=
  match readDate s with
  | some (date, rest) => readAfterDate date rest
  | none => (readTime s).map fun p => (⟨none, some p.1, none⟩, p.2)

def read? (s : String) : Option Moment :=
  match readPart s.toList with
  | some (m, []) => some m
  | _ => none

end Moment

end InstrumentControl.Toml
