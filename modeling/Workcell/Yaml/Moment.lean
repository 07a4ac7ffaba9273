import Workcell.Text.Digit
import Workcell.Yaml.Error

namespace Workcell.Yaml

structure ZoneOffset where
  west : Bool
  minutes : Nat
  deriving DecidableEq, Repr

structure TimeOfDay where
  hour : Nat
  minute : Nat
  second : Nat
  microsecond : Nat
  zone : Option ZoneOffset
  deriving DecidableEq, Repr

/-- A date, or a date and a time. The numbers need not name an existing one. -/
structure Moment where
  year : Nat
  month : Nat
  day : Nat
  time : Option TimeOfDay
  deriving DecidableEq, Repr

namespace Moment

open Text

def readNumber (least most : Nat) (cs : List Char) : Option (Nat × List Char) :=
  let ds := (cs.take most).takeWhile Char.isDigit
  if least ≤ ds.length then some (ofDigits (ds.filterMap asciiDigit?), cs.drop ds.length) else none

def expect (c : Char) : List Char → Option (List Char)
  | d :: r => if d = c then some r else none
  | [] => none

def isGap (c : Char) : Bool := c == ' ' || c == '\t'

def readFraction : List Char → Nat × List Char
  | '.' :: r =>
    let ds := r.takeWhile Char.isDigit
    let six := (ds.filterMap asciiDigit? ++ List.replicate 6 0).take 6
    (ofDigits six, r.drop ds.length)
  | r => (0, r)

def readZone (cs : List Char) : Option (Option ZoneOffset) :=
  match cs, cs.dropWhile isGap with
  | [], _ => some none
  | _, ['Z'] => some (some ⟨false, 0⟩)
  | _, sign :: r =>
    if sign = '+' ∨ sign = '-' then do
      let (hours, r) ← readNumber 1 2 r
      let (minutes, r) ← if r = [] then some (0, []) else (expect ':' r).bind (readNumber 2 2)
      if r = [] then some (some ⟨sign = '-', 60 * hours + minutes⟩) else none
    else none
  | _, [] => none

def readTime (cs : List Char) : Option TimeOfDay := do
  let r ← match cs with
    | 'T' :: r | 't' :: r => some r
    | c :: r => if isGap c then some (r.dropWhile isGap) else none
    | [] => none
  let (hour, r) ← readNumber 1 2 r
  let (minute, r) ← (expect ':' r).bind (readNumber 2 2)
  let (second, r) ← (expect ':' r).bind (readNumber 2 2)
  let (microsecond, r) := readFraction r
  let zone ← readZone r
  some ⟨hour, minute, second, microsecond, zone⟩

def read (cs : List Char) : Option Moment := do
  let (year, r) ← readNumber 4 4 cs
  let (month, r) ← (expect '-' r).bind (readNumber 1 2)
  let (day, r) ← (expect '-' r).bind (readNumber 1 2)
  if r = [] then some ⟨year, month, day, none⟩
  else
    let time ← readTime r
    some ⟨year, month, day, some time⟩

def isLeap (year : Nat) : Bool := year % 4 == 0 && (year % 100 != 0 || year % 400 == 0)

def daysIn (year month : Nat) : Nat :=
  if month = 2 then if isLeap year then 29 else 28
  else if month ∈ [4, 6, 9, 11] then 30 else 31

/-- A span of time, counted in whole days toward the past and seconds from there. -/
def span (o : ZoneOffset) : String :=
  let seconds : Int := if o.west then -(60 * o.minutes : Nat) else (60 * o.minutes : Nat)
  let days := Int.fdiv seconds 86400
  let rest := seconds - 86400 * days
  let parts :=
    (if days = 0 then [] else [s!"days={days}"]) ++ (if rest = 0 then [] else [s!"seconds={rest}"])
  if parts = [] then "datetime.timedelta(0)" else "datetime.timedelta(" ++ ", ".intercalate parts ++ ")"

/-- What keeps a moment from existing, the zone looked at first, then the date. -/
def fault? (m : Moment) : Option String :=
  match m.time.bind (·.zone) with
  | some o =>
    if 24 * 60 ≤ o.minutes then
      some ("offset must be a timedelta strictly between -timedelta(hours=24) and " ++
        s!"timedelta(hours=24), not {span o}.")
    else dated
  | none => dated
where
  dated : Option String :=
    if m.year = 0 then some "year 0 is out of range"
    else if m.month = 0 ∨ 12 < m.month then some "month must be in 1..12"
    else if m.day = 0 ∨ daysIn m.year m.month < m.day then some "day is out of range for month"
    else match m.time with
      | none => none
      | some t =>
        if 23 < t.hour then some "hour must be in 0..23"
        else if 59 < t.minute then some "minute must be in 0..59"
        else if 59 < t.second then some "second must be in 0..59"
        else none

def zoneText (o : ZoneOffset) : String :=
  if o.minutes = 0 then "datetime.timezone.utc" else s!"datetime.timezone({span o})"

def shown (m : Moment) : String :=
  let date := [m.year, m.month, m.day]
  match m.time with
  | none => "datetime.date(" ++ ", ".intercalate (date.map toString) ++ ")"
  | some t =>
    let seconds :=
      if t.microsecond ≠ 0 then [t.second, t.microsecond] else if t.second ≠ 0 then [t.second] else []
    let zone := match t.zone with
      | some o => ["tzinfo=" ++ zoneText o]
      | none => []
    "datetime.datetime(" ++
      ", ".intercalate ((date ++ [t.hour, t.minute] ++ seconds).map toString ++ zone) ++ ")"

end Moment

end Workcell.Yaml
