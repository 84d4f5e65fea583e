import AssetSync.Text.Blank

/-!
Stored times. A time of the form year-month-day hour:minute:second is shown in its ISO form, in UTC;
any other text is shown as it stands.
-/

namespace AssetSync.Timestamp

structure Fields where
  year : Int
  month : Nat
  day : Nat
  hour : Nat
  minute : Nat
  second : Nat
  deriving DecidableEq

def digitsValue (digits : List Char) : Nat :=
  digits.foldl (fun n c => n * 10 + (c.toNat - '0'.toNat)) 0

def number? (width : Nat) (input : List Char) : Option (Nat × List Char) :=
  let digits := (input.take width).takeWhile Char.isDigit
  if digits.isEmpty then none else some (digitsValue digits, input.drop digits.length)

def short? (input : List Char) : Option (Nat × List Char) :=
  number? 2 (Text.trimLeft input)

def year? (input : List Char) : Option (Int × List Char) :=
  match Text.trimLeft input with
  | '-' :: rest => (number? rest.length rest).map fun (n, rest) => (-n, rest)
  | '+' :: rest => (number? rest.length rest).map fun (n, rest) => (n, rest)
  | rest => (number? 4 rest).map fun (n, rest) => (n, rest)

def literal? (c : Char) : List Char → Option (List Char)
  | d :: rest => if d = c then some rest else none
  | [] => none

def isLeap (year : Int) : Bool :=
  year % 4 = 0 ∧ (year % 100 ≠ 0 ∨ year % 400 = 0)

def daysIn (year : Int) (month : Nat) : Nat :=
  if month = 2 then (if isLeap year then 29 else 28)
  else if month = 4 ∨ month = 6 ∨ month = 9 ∨ month = 11 then 30
  else 31

def Fields.isValid (f : Fields) : Bool :=
  -262143 ≤ f.year && f.year ≤ 262142 && 1 ≤ f.month && f.month ≤ 12 && 1 ≤ f.day &&
    f.day ≤ daysIn f.year f.month && f.hour ≤ 23 && f.minute ≤ 59 && f.second ≤ 60

def fields? (input : List Char) : Option Fields := do
  let (year, rest) ← year? input
  let rest ← literal? '-' rest
  let (month, rest) ← short? rest
  let rest ← literal? '-' rest
  let (day, rest) ← short? rest
  let (hour, rest) ← short? rest
  let rest ← literal? ':' rest
  let (minute, rest) ← short? rest
  let rest ← literal? ':' rest
  let (second, rest) ← short? rest
  let fields : Fields := ⟨year, month, day, hour, minute, second⟩
  if rest.isEmpty && fields.isValid then some fields else none

def padded (width n : Nat) : List Char :=
  let digits := Nat.toDigits 10 n
  List.replicate (width - digits.length) '0' ++ digits

def yearChars (year : Int) : List Char :=
  if 0 ≤ year ∧ year ≤ 9999 then padded 4 year.toNat
  else (if year < 0 then '-' else '+') :: padded 4 year.natAbs

def Fields.dateChars (f : Fields) : List Char :=
  yearChars f.year ++ '-' :: padded 2 f.month ++ '-' :: padded 2 f.day

def Fields.timeChars (f : Fields) : List Char :=
  padded 2 f.hour ++ ':' :: padded 2 f.minute ++ ':' :: padded 2 f.second

def Fields.iso (f : Fields) : String :=
  String.ofList (f.dateChars ++ 'T' :: f.timeChars ++ ['Z'])

def Fields.spaced (f : Fields) : String :=
  String.ofList (f.dateChars ++ ' ' :: f.timeChars)

def Fields.offset (f : Fields) : String :=
  String.ofList (f.dateChars ++ 'T' :: f.timeChars ++ "+00:00".toList)

/-- The fields of a number of seconds since 1970. Years are counted from March, so that a leap day is
the last day of its year. -/
def Fields.ofEpochSeconds (seconds : Nat) : Fields :=
  let days := seconds / 86400 + 719468
  let day := days % 146097
  let year := (day - day / 1460 + day / 36524 - day / 146096) / 365
  let dayOfYear := day - (365 * year + year / 4 - year / 100)
  let month := (5 * dayOfYear + 2) / 153
  let isEarly := 10 ≤ month
  { year := (year + days / 146097 * 400 + (if isEarly then 1 else 0) : Nat)
    month := if isEarly then month - 9 else month + 3
    day := dayOfYear - (153 * month + 2) / 5 + 1
    hour := seconds / 3600 % 24
    minute := seconds / 60 % 60
    second := seconds % 60 }

def shown (stored : String) : String :=
  match fields? stored.toList with
  | some fields => fields.iso
  | none => stored

end AssetSync.Timestamp
