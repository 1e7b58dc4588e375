import TextQuery.Datum
import TextQuery.Datum.Yaml.Scalar
import TextQuery.Failure
import TextQuery.Number.Arithmetic
import TextQuery.Text.Case
import TextQuery.Text.DecimalDigit

set_option autoImplicit false

namespace TextQuery.Datum.Yaml.Value

open Number

abbrev Reading := Except ScalarFault

def sign {α : Type} (shown : α → Char) : List α → Bool × List α
  | [] => (false, [])
  | mark :: rest =>
    if shown mark == '-' then (true, rest)
    else if shown mark == '+' then (false, rest)
    else (false, mark :: rest)

-- The first letter of a number has to be there, as it may be a sign.
def signed (text : Loose) : Reading (Bool × List Letter) :=
  match text.letters.filter (· != .char '_') with
  | [] => .error .empty
  | word => .ok (sign Letter.standIn word)

def isSpace (c : Char) : Bool := c == ' ' || ('\t' ≤ c && c ≤ '\r')

def trimmed (text : List Char) : List Char :=
  (((text.map Text.inNumber).dropWhile isSpace).reverse.dropWhile isSpace).reverse

def digitIn? (base : Nat) (c : Char) : Option Nat := (Document.JsonReader.hexValue? c).filter (· < base)

def marks : List (Nat × List Char) := [(2, ['b', 'B']), (8, ['o', 'O']), (16, ['x', 'X'])]

def dropMark (base : Nat) (text : List Char) : List Char :=
  match text with
  | '0' :: mark :: rest => if ((marks.lookup base).getD []).contains mark then rest else text
  | _ => text

def whole (base : Nat) (text : List Letter) : Reading Int :=
  let (negative, body) := sign id (trimmed (text.map Letter.standIn))
  let body := dropMark base body
  let digits := (body.takeWhile fun c => (digitIn? base c).isSome).filterMap (digitIn? base)
  -- Bases that are powers of two have no limit.
  if base == 10 && digits.length > ScalarFault.mostDigits then .error (.tooManyDigits digits.length)
  else if digits.isEmpty || digits.length < body.length then
    .error (.notAnInteger base ⟨text⟩)
  else
    let value := digits.foldl (fun value digit => base * value + digit) 0
    .ok (if negative then -(value : Int) else value)

def int (text : Loose) : Reading Int := do
  let (negative, body) ← signed text
  let value ← match body.map Letter.standIn with
    | [] => .error .empty
    | ['0'] => .ok 0
    | '0' :: 'b' :: _ => whole 2 (body.drop 2)
    | '0' :: 'x' :: _ => whole 16 (body.drop 2)
    | '0' :: _ => whole 8 body
    | _ =>
      let places ← (Scalar.places (.char ':') body).mapM (whole 10)
      .ok (places.foldl (fun value place => 60 * value + place) 0)
  return if negative then -value else value

def power? : List Char → Option Int
  | [] => some 0
  | e :: rest =>
    let (negative, digits) := sign id rest
    if (e == 'e' || e == 'E') && !digits.isEmpty && digits.all isDigit then
      some (if negative then -(valueOf digits : Int) else valueOf digits)
    else none

def infinities : List String := ["inf", "infinity"]

def real? (text : List Char) : Option Binary64 :=
  let (negative, body) := sign id (trimmed text)
  let name := Text.asciiFold (String.ofList body)
  if infinities.contains name then some (.infinite negative)
  else if name == "nan" then some .nan
  else
    let (whole, rest) := spanDigits body
    let (fraction, rest) := match rest with
      | '.' :: rest => spanDigits rest
      | rest => ([], rest)
    if whole.isEmpty && fraction.isEmpty then none
    else (power? rest).map fun power =>
      .ofDecimal negative (valueOf (whole ++ fraction)) (power - fraction.length)

def real (text : List Letter) : Reading Binary64 :=
  match real? (text.map Letter.standIn) with
  | some value => .ok value
  | none => .error (.notAReal ⟨text⟩)

def joinPlaces : (value : Binary64) → (factor : Nat) → List Binary64 → Reading Binary64
  | value, _, [] => .ok value
  | value, factor, place :: rest =>
    match Binary64.ofRatio false factor 1 with
    | .finite negative mantissa exponent =>
      joinPlaces (value.add (place.mul (.finite negative mantissa exponent))) (60 * factor) rest
    | _ => .error .placeTooLarge

-- Of what is no number there is one that the notation has a sign for. All others are computed.
def computed (value : Binary64) : Leaf := if value = .nan then .stray else .real value

def float (text : Loose) : Reading Leaf := do
  let (negative, body) ← signed text.lower
  let word : Loose := ⟨body⟩
  if word = ".inf" then return .real (.infinite negative)
  if word = ".nan" then return .real .nan
  let value ← match Scalar.places (.char ':') body with
    | [_] => real body
    | places => do joinPlaces (.zero false) 1 (← places.mapM real).reverse
  return computed (if negative then value.negate else value)

def truths : List (String × Bool) := [
  ("yes", true), ("no", false), ("true", true), ("false", false), ("on", true), ("off", false)]

def bool (text : Loose) : Reading Bool :=
  match text.lower.plain?.bind (List.lookup · truths) with
  | some value => .ok value
  | none => .error (.notATruth text.lower)

def isLeap (year : Nat) : Bool := year % 4 == 0 && (year % 100 != 0 || year % 400 == 0)

def daysIn (year month : Nat) : Nat :=
  if month == 2 then if isLeap year then 29 else 28
  else if [4, 6, 9, 11].contains month then 30
  else 31

def checkDate (year month day : Nat) : Reading Unit :=
  if year == 0 then .error (.notInCalendar .year)
  else if month == 0 || month > 12 then .error (.notInCalendar .month)
  else if day == 0 || day > daysIn year month then .error (.notInCalendar .day)
  else .ok ()

def checkTime (time : Scalar.Time) : Reading Unit :=
  if time.hour > 23 then .error (.notInCalendar .hour)
  else if time.minute > 59 then .error (.notInCalendar .minute)
  else if time.second > 59 then .error (.notInCalendar .second)
  else .ok ()

def minutesOfDay : Nat := 24 * 60

def dayNumber (year month day : Nat) : Int :=
  let before := year - 1
  let months := (List.range (month - 1)).foldl (fun days index => days + daysIn year (index + 1)) 0
  .ofNat (365 * before + before / 4 - before / 100 + before / 400 + months + day)

def microsecondsOfMinute : Int := 60 * 1000000

def microsecondNumber (day : Int) (time : Scalar.Time) : Int :=
  ((day * 24 + time.hour) * 60 + time.minute) * microsecondsOfMinute + time.second * 1000000 + time.microsecond

def moment (text : Loose) : Reading Stamp := do
  match Scalar.moment? (Scalar.dropLineBreak text.standIns) with
  | none => throw .notAMoment
  | some ((year, month, day), time) =>
    let offset := time.bind Scalar.Time.offset
    if let some offset := offset then
      if offset.natAbs ≥ minutesOfDay then throw (.offsetTooLarge offset)
    checkDate year month day
    let number := dayNumber year month day
    match time with
    | none => return .day number
    | some time =>
      checkTime time
      let microseconds := microsecondNumber number time
      return (offset.map fun offset => .instant (microseconds - offset * microsecondsOfMinute)).getD
        (.clock microseconds)

def sixBits? (c : Char) : Option Nat :=
  if 'A' ≤ c && c ≤ 'Z' then some (c.toNat - 'A'.toNat)
  else if 'a' ≤ c && c ≤ 'z' then some (c.toNat - 'a'.toNat + 26)
  else if isDigit c then some (digitValue c + 52)
  else if c == '+' then some 62
  else if c == '/' then some 63
  else none

/-- The bytes that are complete, the bits that are left over, how many characters of a group of four
have come, and how many padding characters behind them. -/
structure Group where
  bytes : List UInt8 := []
  rest : Nat := 0
  count : Nat := 0
  padding : Nat := 0

def Group.take (group : Group) (bits : Nat) : Group :=
  let all := 64 * group.rest + bits
  match group.count with
  | 0 => { group with rest := bits, count := 1, padding := 0 }
  | 1 => ⟨UInt8.ofNat (all / 16) :: group.bytes, all % 16, 2, 0⟩
  | 2 => ⟨UInt8.ofNat (all / 4) :: group.bytes, all % 4, 3, 0⟩
  | _ => ⟨UInt8.ofNat all :: group.bytes, 0, 0, 0⟩

/-- The bytes of a text. Characters outside of the alphabet are passed over, and what follows the
padding of a group is not read. -/
def bytesFrom : Group → List Char → Option (List UInt8)
  | group, [] => if group.count == 0 then some group.bytes.reverse else none
  | group, c :: rest =>
    if c == '=' then
      if group.count < 2 then bytesFrom group rest
      else if group.count + group.padding + 1 ≥ 4 then some group.bytes.reverse
      else bytesFrom { group with padding := group.padding + 1 } rest
    else match sixBits? c with
      | some bits => bytesFrom (group.take bits) rest
      | none => bytesFrom group rest

def bytes? (text : Loose) : Option (List UInt8) :=
  if text.standIns.all fun c => c.toNat < 0x80 then bytesFrom {} text.standIns else none

end TextQuery.Datum.Yaml.Value
