import Gleaner.Text.Digits
import Gleaner.Text.Scan

set_option autoImplicit false

/-! Dates and times in TOML, and the form in which they are kept. -/
namespace Gleaner.Toml

open Text Text.Scan

structure Date where
  year : Nat
  month : Nat
  day : Nat

structure Time where
  hour : Nat
  minute : Nat
  second : Nat
  nanosecond : Nat

inductive Offset where
  | zulu
  | minutes (minutes : Int)

/-- A date, a time, or both, and perhaps the distance from universal time. -/
structure Moment where
  date : Option Date := none
  time : Option Time := none
  offset : Option Offset := none

/-- A number of the given count of digits. -/
def digits (width : Nat) : Scan Nat := do
  let cs ← count isDigit width
  pure (ofDigits cs)

/-- A number of two digits between bounds. -/
def bounded (low high : Nat) : Scan Nat := do
  let n ← digits 2
  if low ≤ n ∧ n ≤ high then pure n else failure

def isLeap (year : Nat) : Bool :=
  year % 4 == 0 && (year % 100 != 0 || year % 400 == 0)

def daysIn (year month : Nat) : Nat :=
  if month = 2 then (if isLeap year then 29 else 28)
  else if month = 4 ∨ month = 6 ∨ month = 9 ∨ month = 11 then 30
  else 31

def date : Scan Date := do
  let year ← digits 4
  exactly '-'
  let month ← bounded 1 12
  exactly '-'
  let day ← bounded 1 31
  if day ≤ daysIn year month then pure ⟨year, month, day⟩ else failure

/-- The first nine digits after the point, as billionths. -/
def fraction : Scan Nat := do
  let cs ← takeSome isDigit
  let kept := cs.take 9
  pure (ofDigits (kept ++ List.replicate (9 - kept.length) '0'))

/-- A time; a minute may have a second more. -/
def time : Scan Time := do
  let hour ← bounded 0 23
  exactly ':'
  let minute ← bounded 0 59
  exactly ':'
  let second ← bounded 0 60
  if ← skip '.' then
    pure ⟨hour, minute, second, ← fraction⟩
  else pure ⟨hour, minute, second, 0⟩

/-- Hours and minutes from universal time. -/
def distance : Scan Int := do
  let hour ← bounded 0 23
  exactly ':'
  let minute ← bounded 0 59
  pure (60 * hour + minute)

def offset : Scan Offset := do
  match ← char with
  | 'Z' => pure .zulu
  | 'z' => pure .zulu
  | '+' => Offset.minutes <$> distance
  | '-' => (fun d => Offset.minutes (-d)) <$> distance
  | _ => failure

/-- A time after a date, with what stands between them. -/
def timeOfDay : Scan Time := do
  let _ ← charIf fun c => c == 'T' || c == 't' || c == ' '
  time

def moment : Scan Moment := do
  (do
    let date ← date
    (do
      let time ← timeOfDay
      let offset ← (some <$> offset) <|> pure none
      pure { date := some date, time := some time, offset }) <|>
      pure { date := some date }) <|>
    (do
      let time ← time
      pure { time := some time })

/-- A number with zeros in front. -/
def padded (width n : Nat) : List Char :=
  let digits := decimalDigits n
  List.replicate (width - digits.length) '0' ++ digits

def Date.chars (d : Date) : List Char :=
  padded 4 d.year ++ '-' :: padded 2 d.month ++ '-' :: padded 2 d.day

def Time.chars (t : Time) : List Char :=
  let fraction := (padded 9 t.nanosecond).reverse.dropWhile (· == '0')
  padded 2 t.hour ++ ':' :: padded 2 t.minute ++ ':' :: padded 2 t.second ++
    (if fraction.isEmpty then [] else '.' :: fraction.reverse)

def Offset.chars : Offset → List Char
  | .zulu => ['Z']
  | .minutes m =>
      (if m < 0 then '-' else '+') :: padded 2 (m.natAbs / 60) ++ ':' :: padded 2 (m.natAbs % 60)

/-- The text of a moment, without zeros at the end of the fraction. -/
def Moment.text (m : Moment) : String :=
  let date := (m.date.map Date.chars).getD []
  let time := (m.time.map Time.chars).getD []
  let between := if m.date.isSome && m.time.isSome then ['T'] else []
  String.ofList (date ++ between ++ time ++ (m.offset.map Offset.chars).getD [])

end Gleaner.Toml
