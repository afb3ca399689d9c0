import PathRouting.Toml.Quoted

/-! Dates and times of TOML. A moment is a date, a time of day, or both; with both
there may be an offset from universal time. The normal form has a `T` between date
and time and at most nine digits of a second. -/

namespace PathRouting.Toml

/-- A number of exactly `count` digits, and the text after it. -/
def digitCount? (count : Nat) (text : List Char) : Option (Nat × List Char) :=
  let digits := text.take count
  if digits.length = count && digits.all Text.isDigit then
    some (Text.number 10 digits, text.drop count)
  else none

def pair? (least most : Nat) (text : List Char) : Option (Nat × List Char) := do
  let (value, after) ← digitCount? 2 text
  if least ≤ value && value ≤ most then return (value, after) else none

/-- The text after a character that has to come first. -/
def expect? (c : Char) : List Char → Option (List Char)
  | d :: rest => if d = c then some rest else none
  | [] => none

def padded (width : Nat) (value : Nat) : String :=
  let digits := Nat.toDigits 10 value
  String.ofList (List.replicate (width - digits.length) '0' ++ digits)

def isLeapYear (year : Nat) : Bool := year % 4 = 0 && (year % 100 ≠ 0 || year % 400 = 0)

def daysIn (year month : Nat) : Nat :=
  if month = 2 then if isLeapYear year then 29 else 28
  else if month = 4 || month = 6 || month = 9 || month = 11 then 30
  else 31

def date? (text : List Char) : Option (String × List Char) := do
  let (year, afterYear) ← digitCount? 4 text
  let (month, afterMonth) ← (expect? '-' afterYear).bind (pair? 1 12)
  let (day, after) ← (expect? '-' afterMonth).bind (pair? 1 (daysIn year month))
  return (padded 4 year ++ "-" ++ padded 2 month ++ "-" ++ padded 2 day, after)

/-- The digits of a part of a second: nine at most, and no zeros at the end. -/
def secondPart (digits : List Char) : String :=
  let kept := ((digits.take 9).reverse.dropWhile fun c => c = '0').reverse
  if kept.isEmpty then "" else "." ++ String.ofList kept

/-- A time of day. A minute may have a leap second. -/
def time? (text : List Char) : Option (String × List Char) := do
  let (hour, afterHour) ← pair? 0 23 text
  let (minute, afterMinute) ← (expect? ':' afterHour).bind (pair? 0 59)
  let (second, afterSecond) ← (expect? ':' afterMinute).bind (pair? 0 60)
  let clock := padded 2 hour ++ ":" ++ padded 2 minute ++ ":" ++ padded 2 second
  match afterSecond with
  | '.' :: rest =>
    let digits := rest.takeWhile Text.isDigit
    if digits.isEmpty then none
    return (clock ++ secondPart digits, rest.dropWhile Text.isDigit)
  | after => return (clock, after)

/-- An offset from universal time, if there is one. -/
def offset? : List Char → Option (String × List Char)
  | [] => some ("", [])
  | c :: rest =>
    if c = 'Z' || c = 'z' then some ("Z", rest)
    else if c = '+' || c = '-' then do
      let (hour, afterHour) ← pair? 0 23 rest
      let (minute, after) ← (expect? ':' afterHour).bind (pair? 0 59)
      let mark := if c = '-' && 0 < hour + minute then "-" else "+"
      return (mark ++ padded 2 hour ++ ":" ++ padded 2 minute, after)
    else some ("", c :: rest)

/-- A moment at the head of the text, and the text after it. -/
def moment? (text : List Char) : Option (String × List Char) :=
  match date? text with
  | none => time? text
  | some (date, after) =>
    match after with
    | [] => some (date, [])
    | c :: rest =>
      if c = 'T' || c = 't' || c = ' ' then
        match time? rest with
        | none => some (date, after)
        | some (time, afterTime) =>
          (offset? afterTime).map fun (offset, last) => (date ++ "T" ++ time ++ offset, last)
      else some (date, after)

end PathRouting.Toml
