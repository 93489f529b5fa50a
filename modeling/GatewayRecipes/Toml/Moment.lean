import GatewayRecipes.Toml.Text

/-! Dates and times of TOML, read and written in one form. -/
namespace GatewayRecipes.Toml

structure Date where
  year : Nat
  month : Nat
  day : Nat
  deriving Repr, DecidableEq, Inhabited

structure Time where
  hour : Nat
  minute : Nat
  second : Nat
  nanosecond : Nat
  deriving Repr, DecidableEq, Inhabited

/-- How far a clock is ahead of the universal one. -/
inductive Offset
  | universal
  | minutes (n : Int)
  deriving Repr, DecidableEq, Inhabited

/-- A date, a time, or both. An offset belongs to both. -/
structure Moment where
  date : Option Date
  time : Option Time
  offset : Option Offset
  deriving Repr, DecidableEq, Inhabited

/-- Read a number of `n` digits between two bounds. -/
def readField? (n low high : Nat) (text : List Char) : Option (Nat × List Char) := do
  let digits := (text.take n).takeWhile Char.isDigit
  guard (digits.length = n)
  let value := Number.ofDigits digits
  guard (low ≤ value && value ≤ high)
  return (value, text.drop n)

def readMark? (p : Char → Bool) : List Char → Option (Char × List Char)
  | c :: rest => if p c then some (c, rest) else none
  | [] => none

def isLeap (year : Nat) : Bool := year % 4 = 0 && (year % 100 != 0 || year % 400 = 0)

def daysIn (year month : Nat) : Nat :=
  if month = 2 then (if isLeap year then 29 else 28)
  else if [4, 6, 9, 11].contains month then 30
  else 31

def readDate? (text : List Char) : Option (Date × List Char) := do
  let (year, text) ← readField? 4 0 9999 text
  let (_, text) ← readMark? (· == '-') text
  let (month, text) ← readField? 2 1 12 text
  let (_, text) ← readMark? (· == '-') text
  let (day, text) ← readField? 2 1 (daysIn year month) text
  return (⟨year, month, day⟩, text)

/-- Read the fraction of a second, of which nine digits count. -/
def readNanosecond? : List Char → Option (Nat × List Char)
  | '.' :: rest =>
    let digits := rest.takeWhile Char.isDigit
    if digits.isEmpty then none
    else
      let kept := digits.take 9
      some (Number.ofDigits kept * Nat.pow 10 (9 - kept.length), rest.drop digits.length)
  | rest => some (0, rest)

def readTime? (text : List Char) : Option (Time × List Char) := do
  let (hour, text) ← readField? 2 0 23 text
  let (_, text) ← readMark? (· == ':') text
  let (minute, text) ← readField? 2 0 59 text
  let (_, text) ← readMark? (· == ':') text
  let (second, text) ← readField? 2 0 60 text
  let (nanosecond, text) ← readNanosecond? text
  return (⟨hour, minute, second, nanosecond⟩, text)

def readOffset? (text : List Char) : Option (Option Offset × List Char) :=
  match text with
  | [] => some (none, [])
  | c :: rest =>
    if c = 'Z' ∨ c = 'z' then some (some .universal, rest)
    else if c = '+' ∨ c = '-' then do
      let (hours, rest) ← readField? 2 0 23 rest
      let (_, rest) ← readMark? (· == ':') rest
      let (minutes, rest) ← readField? 2 0 59 rest
      let n : Int := hours * 60 + minutes
      return (some (.minutes (if c = '-' then -n else n)), rest)
    else some (none, text)

def goesOnWithTime (text : List Char) : Bool :=
  match text with
  | c :: rest =>
    (c == 'T' || c == 't' || c == ' ') && (rest.take 2).length = 2 &&
      (rest.take 2).all Char.isDigit && rest[2]? == some ':'
  | [] => false

def readMoment? (text : List Char) : Option (Moment × List Char) :=
  match readDate? text with
  | some (date, rest) =>
    if goesOnWithTime rest then do
      let (time, rest) ← readTime? (rest.drop 1)
      let (offset, rest) ← readOffset? rest
      return (⟨some date, some time, offset⟩, rest)
    else some (⟨some date, none, none⟩, rest)
  | none => (readTime? text).map fun (time, rest) => (⟨none, some time, none⟩, rest)

def padded (n value : Nat) : String :=
  let digits := toString value
  String.ofList (List.replicate (n - digits.length) '0') ++ digits

def Date.text (d : Date) : String :=
  padded 4 d.year ++ "-" ++ padded 2 d.month ++ "-" ++ padded 2 d.day

def Time.text (t : Time) : String :=
  let fraction :=
    if t.nanosecond = 0 then ""
    else
      let digits := (padded 9 t.nanosecond).toList.reverse.dropWhile (· == '0')
      "." ++ String.ofList digits.reverse
  padded 2 t.hour ++ ":" ++ padded 2 t.minute ++ ":" ++ padded 2 t.second ++ fraction

def Offset.text : Offset → String
  | universal => "Z"
  | minutes n =>
    (if n < 0 then "-" else "+") ++ padded 2 (n.natAbs / 60) ++ ":" ++ padded 2 (n.natAbs % 60)

def Moment.text (m : Moment) : String :=
  let date := (m.date.map Date.text).getD ""
  let between := if m.date.isSome && m.time.isSome then "T" else ""
  date ++ between ++ (m.time.map Time.text).getD "" ++ (m.offset.map Offset.text).getD ""

end GatewayRecipes.Toml
