import Themer.Datum
import Themer.Text.CharClass
import Themer.Failure

/-! What plain scalars stand for: null, flags and numbers by their spelling, or texts. -/

namespace Themer.Yaml

/-- The spellings of null. -/
def nullWords : List String := ["~", "null", "Null", "NULL", ""]

/-- The spellings of true. -/
def trueWords : List String := ["yes", "Yes", "YES", "true", "True", "TRUE", "on", "On", "ON"]

/-- The spellings of false. -/
def falseWords : List String := ["no", "No", "NO", "false", "False", "FALSE", "off", "Off", "OFF"]

/-- The sign of a number: whether it is negative, and the text after it. -/
def readSign : List Char → Bool × List Char
  | '-' :: rest => (true, rest)
  | '+' :: rest => (false, rest)
  | rest => (false, rest)

/-- Whether all characters of a text belong to a class, underscores being allowed. -/
def allOf (isDigit : Char → Bool) (text : List Char) : Bool :=
  !text.isEmpty && text.all fun c => isDigit c || c == '_'

/-- Whether a character is one of the digits below a base. -/
def isDigitOf (base : Nat) (c : Char) : Bool :=
  (Text.hexValue? c).any (· < base)

/-- Whether a text is a digit and then digits and underscores. -/
def isNumeral (text : List Char) : Bool :=
  text.head?.any (isDigitOf 10) && allOf (isDigitOf 10) text

/-- The text without its underscores. -/
def withoutUnderscores (text : List Char) : List Char := text.filter (· != '_')

/-- The number that digits of a base stand for. -/
def numberIn (base : Nat) (digits : List Char) : Nat :=
  digits.foldl (fun n c => n * base + (Text.hexValue? c).getD 0) 0

/-- The parts of a text between colons. -/
def colonParts : List Char → List (List Char)
  | [] => [[]]
  | c :: rest =>
    if c = ':' then [] :: colonParts rest
    else match colonParts rest with
      | [] => [[c]]
      | part :: more => (c :: part) :: more

/-- Whether a part after a colon is a number below sixty. -/
def isSixtieth (part : List Char) : Bool :=
  match part with
  | [c] => isDigitOf 10 c
  | [c, d] => isDigitOf 6 c && isDigitOf 10 d
  | _ => false

/-- Whole numbers by their spelling: how many in which base, or of which parts in base sixty. -/
inductive WholeForm
  | digits (base : Nat) (text : List Char)
  | sixtieths (parts : List (List Char))

/-- The form of a whole number without its sign. -/
def wholeForm? (text : List Char) : Option WholeForm :=
  match text with
  | '0' :: 'b' :: rest => if allOf (isDigitOf 2) rest then some (.digits 2 rest) else none
  | '0' :: 'x' :: rest => if allOf (isDigitOf 16) rest then some (.digits 16 rest) else none
  | ['0'] => some (.digits 10 text)
  | '0' :: rest => if allOf (isDigitOf 8) rest then some (.digits 8 rest) else none
  | _ =>
    match colonParts text with
    | [one] => if isNumeral one then some (.digits 10 one) else none
    | first :: more =>
      if isNumeral first && more.all isSixtieth then some (.sixtieths (first :: more)) else none
    | [] => none

/-- The number of a part in base ten. -/
def readPart (part : List Char) : Except Interruption Nat :=
  (readNumeral (withoutUnderscores part)).mapError .tooManyDigits

/-- The number of parts in base sixty, after the ones before them. -/
def readSixtieths (value : Nat) : List (List Char) → Except Interruption Nat
  | [] => .ok value
  | part :: rest => do readSixtieths (value * 60 + (← readPart part)) rest

/-- The number of a form; only in base ten is the count of digits limited. -/
def WholeForm.read : WholeForm → Except Interruption Nat
  | .digits base text =>
    let digits := withoutUnderscores text
    if base = 10 then readPart text
    -- The zero in front of an octal number is a digit as well.
    else if digits.isEmpty && base != 8 then .error (.badNumeral ⟨base⟩)
    else .ok (numberIn base digits)
  | .sixtieths parts => readSixtieths 0 parts

/-- The power of ten after the letter of an exponent, whose sign has to be there. -/
def readPower? (text : List Char) : Option Int :=
  match text with
  | [] => some 0
  | e :: sign :: digits =>
    if (e = 'e' || e = 'E') && (sign = '+' || sign = '-') && !digits.isEmpty &&
        digits.all (isDigitOf 10) then
      let size : Int := numberIn 10 digits
      some (if sign = '-' then -size else size)
    else none
  | _ => none

/-- The number of digits before and after a point, and the text after those. -/
def pointed (negative : Bool) (whole text : List Char) : Option Binary64 :=
  let isPlace (c : Char) : Bool := isDigitOf 10 c || c == '_'
  let places := withoutUnderscores (text.takeWhile isPlace)
  (readPower? (text.dropWhile isPlace)).map fun power =>
    .ofDecimal negative (numberIn 10 (withoutUnderscores whole ++ places)) (power - places.length)

/-- The number of parts in base sixty, the last of them with a point. -/
def sixtiethsReal (negative : Bool) (parts : List (List Char)) (places : List Char) : Binary64 :=
  let digits := withoutUnderscores places
  let last := (parts.getLast?.getD []) ++ digits
  let values := (parts.dropLast.map fun part =>
      Binary64.ofNat (numberIn 10 (withoutUnderscores part)))
    ++ [.ofDecimal false (numberIn 10 (withoutUnderscores last)) (-(digits.length : Int))]
  let (sum, _) := values.reverse.foldl (fun (sum, base) value =>
    (Binary64.add sum (value.mul (.ofNat base)), base * 60)) (Binary64.ofNat 0, 1)
  .ofMagnitude negative sum.magnitude

/-- The number with a point that a text without its sign spells. -/
def readPointed? (negative signed : Bool) (text : List Char) : Option Binary64 :=
  let whole := text.takeWhile (· != '.')
  match text.dropWhile (· != '.') with
  | '.' :: rest =>
    if whole.isEmpty then
      -- A point in front takes no sign, and a digit has to follow it.
      if !signed && rest.head?.any (isDigitOf 10) then pointed negative [] rest else none
    else match colonParts whole with
      | [one] => if isNumeral one then pointed negative one rest else none
      | first :: more =>
        if isNumeral first && more.all isSixtieth
            && (rest.isEmpty || allOf (isDigitOf 10) rest) then
          some (sixtiethsReal negative (first :: more) rest)
        else none
      | [] => none
  | _ => none

/-- The number that a text spells, if it has a point or is none of the finite ones. -/
def readReal? (text : List Char) : Option Binary64 :=
  let (negative, unsigned) := readSign text
  if [".inf", ".Inf", ".INF"].contains (String.ofList unsigned) then
    some (.ofMagnitude negative Binary64.infinityMagnitude)
  else if [".nan", ".NaN", ".NAN"].contains (String.ofList text) then
    some ⟨0xFFF8000000000000⟩
  else readPointed? negative (unsigned.length != text.length) unsigned

/-- The value that a plain scalar stands for. -/
def plainValue (text : String) : Except Interruption Datum :=
  let (negative, unsigned) := readSign text.toList
  if nullWords.contains text then .ok .null
  else if trueWords.contains text then .ok (.flag true)
  else if falseWords.contains text then .ok (.flag false)
  else match readReal? text.toList, wholeForm? unsigned with
    | some value, _ => .ok (.real value)
    | none, some form => do
      let size : Int := (← form.read)
      return .whole (if negative then -size else size)
    | none, none => .ok (.text text)

end Themer.Yaml
