import Themer.Number.Binary64
import Themer.Script.Arithmetic

/-! The texts that a script prints: escapes, and values laid out by a format. -/

namespace Themer.Script

/-- The characters that single letters stand for after a backslash. -/
def escapeLetters : List (Char × Char) :=
  [('a', '\x07'), ('b', '\x08'), ('f', '\x0C'), ('n', '\n'), ('r', '\r'), ('t', '\t'),
    ('v', '\x0B'), ('\\', '\\')]

/-- Whether a character is a digit of an octal number. -/
def isOctal (c : Char) : Bool := '0' ≤ c && c ≤ '7'

/-- What an escape after its backslash stands for, and what follows it; others stay as they are. -/
def readEscape (text : Chars) : Char × Chars :=
  match text with
  | c :: rest =>
    if isOctal c then
      let digits := (text.take 3).takeWhile isOctal
      let value := digits.foldl (fun n c => n * 8 + (c.toNat - 48)) 0
      -- Three digits may spell more than a byte holds.
      (Char.ofNat (value % 256), text.drop digits.length)
    else match escapeLetters.lookup c with
      | some meant => (meant, rest)
      | none => ('\\', text)
  | [] => ('\\', [])

/--
A text with its escapes replaced, for at most so many steps, and whether it is cut short.

An octal number may have one more zero in front, and a text ends at an escaped c.
-/
def unescape : Nat → Chars → Chars × Bool
  | 0, _ => ([], false)
  | _ + 1, [] => ([], false)
  | steps + 1, '\\' :: rest =>
    let (meant, after) := match rest with
      | '0' :: d :: _ => readEscape (if isOctal d then rest.drop 1 else rest)
      | _ => readEscape rest
    -- What comes after it is not printed at all.
    if rest.head? = some 'c' then ([], true)
    else
      let (more, isCut) := unescape steps after
      (meant :: more, isCut)
  | steps + 1, c :: rest =>
    let (more, isCut) := unescape steps rest
    (c :: more, isCut)

/-- What the words of an echo print. -/
def echoText (words : List Chars) : Chars :=
  let (ending, words) := match words with
    | ['-', 'n'] :: rest => ([], rest)
    | words => (['\n'], words)
  let text := [' '].intercalate words
  let (shown, isCut) := unescape (text.length + 1) text
  if isCut then shown else shown ++ ending

/-- How a value is laid out: marks, the least width, and the precision. -/
structure Spacing where
  flags : Chars
  width : Nat
  precision : Option Nat
deriving DecidableEq, Repr

/-- A value with its sign, filled up to the least width; zeros go behind the sign. -/
def Spacing.fill (spacing : Spacing) (zeros : Bool) (sign body : Chars) : Chars :=
  let missing := spacing.width - (sign.length + body.length)
  if spacing.flags.contains '-' then sign ++ body ++ List.replicate missing ' '
  else if zeros && spacing.flags.contains '0' then sign ++ List.replicate missing '0' ++ body
  else List.replicate missing ' ' ++ sign ++ body

/-- The sign of a number that may also be positive. -/
def Spacing.sign (spacing : Spacing) (negative : Bool) : Chars :=
  if negative then ['-']
  else if spacing.flags.contains '+' then ['+']
  else if spacing.flags.contains ' ' then [' ']
  else []

/-- A whole number laid out in a base, whose mark is written if so asked. -/
def Spacing.whole (spacing : Spacing) (sign mark : Chars) (digits : Chars) : Chars :=
  -- With no places asked for, zero has none.
  let digits := if spacing.precision = some 0 && digits = ['0'] then [] else digits
  let digits := List.replicate (spacing.precision.getD 1 - digits.length) '0' ++ digits
  let mark := if spacing.flags.contains '#' && digits.any (· != '0') then mark else []
  spacing.fill spacing.precision.isNone (sign ++ mark) digits

/-- A number with some places after its point. -/
def Spacing.fixed (spacing : Spacing) (x : Binary64) : Chars :=
  let sign := spacing.sign x.negative
  -- What is no finite number is filled up with blanks, whatever else is asked.
  if x.isNaN then spacing.fill false sign "nan".toList
  else if x.isInfinite then spacing.fill false sign "inf".toList
  else
    let places := spacing.precision.getD 6
    let scaled := roundDiv (x.steps.natAbs * tenTo places) (twoTo 1074)
    let digits := (toString scaled).toList
    -- At least one digit stands in front of the point.
    let digits := List.replicate (places + 1 - digits.length) '0' ++ digits
    let whole := digits.take (digits.length - places)
    let point := if places = 0 && !spacing.flags.contains '#' then [] else ['.']
    spacing.fill true sign (whole ++ point ++ digits.drop (digits.length - places))

/-- A number of a ratio with one digit before its point and some behind it, and its exponent. -/
def Spacing.scientificDigits (places : Nat) (num den : Nat) : Nat × Int :=
  if num = 0 then (0, 0)
  else
    -- The exponent by the count of digits may be one too high or low, which rounding shows.
    let guess : Int := ((Nat.toDigits 10 num).length : Int) - (Nat.toDigits 10 den).length
    let scaled (exponent : Int) : Nat :=
      let shift := (places : Int) - exponent
      if 0 ≤ shift then roundDiv (num * tenTo shift.toNat) den
      else roundDiv num (den * tenTo (-shift).toNat)
    let candidates := [guess + 1, guess, guess - 1]
    match candidates.find? fun exponent => tenTo places ≤ scaled exponent with
    | some exponent => (scaled exponent, exponent)
    | none => (scaled (guess - 1), guess - 1)

/-- A number with an exponent. -/
def Spacing.scientific (spacing : Spacing) (isUpper : Bool) (x : Binary64) : Chars :=
  let places := spacing.precision.getD 6
  let (digits, exponent) := Spacing.scientificDigits places x.steps.natAbs (twoTo 1074)
  let digits := (toString digits).toList
  let digits := digits ++ List.replicate (places + 1 - digits.length) '0'
  let point := if places = 0 then [] else ['.']
  let size := (toString exponent.natAbs).toList
  let size := List.replicate (2 - size.length) '0' ++ size
  let mark := [if isUpper then 'E' else 'e', if exponent < 0 then '-' else '+']
  spacing.fill true (spacing.sign x.negative)
    (digits.take 1 ++ point ++ digits.drop 1 ++ mark ++ size)

/-- A number in whichever form is shorter, without zeros behind its last place. -/
def Spacing.general (spacing : Spacing) (isUpper : Bool) (x : Binary64) : Chars :=
  let precision := max 1 (spacing.precision.getD 6)
  let (_, exponent) := Spacing.scientificDigits (precision - 1) x.steps.natAbs (twoTo 1074)
  let trimmed (body : Chars) : Chars :=
    if !body.contains '.' || spacing.flags.contains '#' then body
    else ((body.reverse.dropWhile (· == '0')).dropWhile (· == '.')).reverse
  let bare : Spacing := ⟨[], 0, some (precision - 1)⟩
  let body :=
    -- The exponent is the one that the rounded number has.
    if exponent < -4 || precision ≤ exponent then
      let written := bare.scientific isUpper x.abs
      let isMark (c : Char) : Bool := c == 'e' || c == 'E'
      trimmed (written.takeWhile (!isMark ·)) ++ written.dropWhile (!isMark ·)
    else trimmed (Spacing.fixed ⟨[], 0, some ((precision : Int) - 1 - exponent).toNat⟩ x.abs)
  spacing.fill true (spacing.sign x.negative) body

/-- What is wrong with a value or a format. -/
inductive FormatError
  | notNumeric (value : Chars)
  | notOnlyNumeric (value : Chars)
  | outOfRange (value : Chars)
  | noCharacter
  | badDirective (directive : Chars)
deriving DecidableEq, Repr

/-- The words for an error in a value or a format. -/
def FormatError.text : FormatError → Chars
  | .notNumeric value => value ++ ": expected numeric value".toList
  | .notOnlyNumeric value => value ++ ": not completely converted".toList
  | .outOfRange value => value ++ ": Numerical result out of range".toList
  | .noCharacter => "missing format character".toList
  | .badDirective directive => directive ++ ": invalid directive".toList

/-- A value without the blanks and the sign in front, and whether that is a minus. -/
def splitSign (text : Chars) : Bool × Chars :=
  match text.dropWhile fun c => c == ' ' || ('\t' ≤ c && c ≤ '\r') with
  | '-' :: rest => (true, rest)
  | '+' :: rest => (false, rest)
  | rest => (false, rest)

/-- The number that some digits spell in base sixteen, eight or ten, and what follows them. -/
def readMagnitude (text : Chars) : Nat × Chars :=
  let rest := (readNumber text).2
  let spelled := text.take (text.length - rest.length)
  let (base, digits) := match spelled with
    | '0' :: x :: digits => if x.isDigit then (8, x :: digits) else (16, digits)
    | digits => (10, digits)
  let digit (c : Char) : Nat :=
    if c.isDigit then c.toNat - 48 else if c.isLower then c.toNat - 87 else c.toNat - 55
  (digits.foldl (fun n c => n * base + digit c) 0, rest)

/-- The number that a value starts with, and what is wrong with the value. -/
def wholeValue (isSigned : Bool) (value : Chars) : Int × List FormatError :=
  match value with
  | [] => (0, [])
  | ['"'] | ['\''] => (0, [])
  -- Behind a quote a character stands for its number.
  | '"' :: c :: _ | '\'' :: c :: _ => (c.toNat, [])
  | _ =>
    let (negative, digits) := splitSign value
    if !digits.head?.any Char.isDigit then (0, [.notNumeric value])
    else
      let (count, after) := readMagnitude digits
      let bound := if isSigned then twoTo 63 - (if negative then 0 else 1) else twoTo 64 - 1
      let errors :=
        if !after.isEmpty then [.notOnlyNumeric value]
        else if bound < count then [.outOfRange value] else []
      -- What is out of range is told, and counts as the bound.
      let number : Int := min count bound
      (if negative && !(bound < count && !isSigned) then -number else number, errors)
/-- The number that some digits spell, with a fraction and an exponent, and what follows them. -/
def readDecimal? (negative : Bool) (text : Chars) : Option (Binary64 × Chars) :=
  let number (digits : Chars) : Nat := digits.foldl (fun n c => n * 10 + (c.toNat - 48)) 0
  let whole := text.takeWhile Char.isDigit
  let (fraction, after) := match text.dropWhile Char.isDigit with
    | '.' :: rest => (rest.takeWhile Char.isDigit, rest.dropWhile Char.isDigit)
    | rest => ([], rest)
  let (exponent, after) : Int × Chars := match after with
    | e :: rest =>
      let (below, digits) := match rest with
        | '-' :: digits => (true, digits)
        | '+' :: digits => (false, digits)
        | digits => (false, digits)
      -- Without a digit the letter is no exponent but the start of what follows.
      if (e = 'e' || e = 'E') && digits.head?.any Char.isDigit then
        let size : Int := number (digits.takeWhile Char.isDigit)
        (if below then -size else size, digits.dropWhile Char.isDigit)
      else (0, after)
    | [] => (0, after)
  if whole.isEmpty && fraction.isEmpty then none
  else some (.ofDecimal negative (number (whole ++ fraction)) (exponent - fraction.length), after)

/-- The floating-point number that a value starts with, and what is wrong with the value. -/
def realValue (value : Chars) : Binary64 × List FormatError :=
  let (negative, text) := splitSign value
  let word := (text.takeWhile Char.isAlpha).map Char.toLower
  let found? : Option (Binary64 × Chars) :=
    if word = "inf".toList || word = "infinity".toList then
      some (.ofMagnitude negative Binary64.infinityMagnitude, text.drop word.length)
    else if word = "nan".toList then
      some (.ofMagnitude negative (Binary64.infinityMagnitude + twoTo 51), text.drop word.length)
    else match text with
      | '0' :: x :: _ =>
        if x = 'x' || x = 'X' then
          let (count, after) := readMagnitude text
          some (.ofDecimal negative count 0, after)
        else readDecimal? negative text
      | text => readDecimal? negative text
  match found? with
  | none => (.ofDecimal false 0 0, if value.isEmpty then [] else [.notNumeric value])
  | some (number, after) => (number, if after.isEmpty then [] else [.notOnlyNumeric value])

/-- A printing: the text so far, what is wrong so far, the values left, and whether it ends here. -/
structure Printing where
  text : Chars
  errors : List FormatError
  values : List Chars
  isOver : Bool
  hasFailed : Bool
deriving DecidableEq, Repr

namespace Printing

/-- The printing with more text. -/
def add (printing : Printing) (text : Chars) : Printing :=
  { printing with text := printing.text ++ text }

/-- The printing with one value less, more text, and more that is wrong. -/
def use (printing : Printing) (text : Chars) (errors : List FormatError) : Printing :=
  { printing with
    text := printing.text ++ text, errors := printing.errors ++ errors
    values := printing.values.drop 1 }

/-- The printing at its end, with an error. -/
def stop (printing : Printing) (e : FormatError) : Printing :=
  { printing with errors := printing.errors ++ [e], isOver := true, hasFailed := true }

/-- The printing after a value was laid out as a letter asks; nothing if it asks nothing. -/
def layOut? (printing : Printing) (spacing : Spacing) (letter : Char) : Option Printing :=
  let value := printing.values.head?.getD []
  let unsigned (base : Nat) (mark : Chars) (isUpper : Bool) : Option Printing :=
    let (number, errors) := wholeValue false value
    let digits := Nat.toDigits base (number % (twoTo 64 : Nat)).toNat
    let digits := if isUpper then digits.map Char.toUpper else digits
    some (printing.use (spacing.whole [] mark digits) errors)
  match letter with
  | 's' =>
    let shown := (spacing.precision.map value.take).getD value
    some (printing.use (spacing.fill false [] shown) [])
  | 'b' =>
    let (text, isCut) := unescape (value.length + 1) value
    let shown := (spacing.precision.map text.take).getD text
    let printing := printing.use (spacing.fill false [] shown) []
    -- A text that is cut short ends all of the printing.
    some (if isCut then { printing with isOver := true } else printing)
  | 'c' => some (printing.use (spacing.fill false [] [value.head?.getD '\x00']) [])
  | 'd' | 'i' =>
    let (number, errors) := wholeValue true value
    let digits := (toString number.natAbs).toList
    some (printing.use (spacing.whole (spacing.sign (decide (number < 0))) [] digits) errors)
  | 'u' => unsigned 10 [] false
  | 'o' => unsigned 8 ['0'] false
  | 'x' => unsigned 16 ['0', 'x'] false
  | 'X' => unsigned 16 ['0', 'X'] true
  | 'f' | 'F' | 'e' | 'E' | 'g' | 'G' =>
    let (number, errors) := realValue value
    let text :=
      if letter.toLower = 'f' || number.isNaN || number.isInfinite then spacing.fixed number
      else if letter.toLower = 'e' then spacing.scientific letter.isUpper number
      else spacing.general letter.isUpper number
    some (printing.use text errors)
  | _ => none

/-- A number in a directive: some digits, or a star for the next value. -/
def readCount (printing : Printing) (format : Chars) : Int × Chars × Printing :=
  match format with
  | '*' :: rest =>
    let (number, errors) := wholeValue true (printing.values.head?.getD [])
    (number, rest, printing.use [] errors)
  | _ =>
    let digits := format.takeWhile Char.isDigit
    let number : Int := digits.foldl (fun n c => n * 10 + (c.toNat - 48)) 0
    (number, format.drop digits.length, printing)

/-- The printing after a directive behind its percent sign, and the format after that. -/
def direct (printing : Printing) (format : Chars) : Printing × Chars :=
  let flags := format.takeWhile ['#', '-', '+', ' ', '0'].contains
  let (width, rest, printing) := printing.readCount (format.drop flags.length)
  -- A width that is less than nothing asks for the other side.
  let flags := if width < 0 then '-' :: flags else flags
  let (precision, rest, printing) := match rest with
    | '.' :: rest =>
      let (count, rest, printing) := printing.readCount rest
      (if count < 0 then none else some count.toNat, rest, printing)
    | rest => (none, rest, printing)
  match rest with
  | [] => (printing.stop .noCharacter, [])
  | letter :: after =>
    match printing.layOut? ⟨flags, width.natAbs, precision⟩ letter with
    | some printing => (printing, after)
    | none =>
      let length := format.length - after.length
      (printing.stop (.badDirective ('%' :: format.take length)), after)

/-- The printing after a format was gone through once, for at most so many steps. -/
def once : Nat → Printing → Chars → Printing
  | 0, printing, _ => printing
  | _ + 1, printing, [] => printing
  | steps + 1, printing, c :: rest =>
    if printing.isOver then printing
    else match c, rest with
      | '%', '%' :: rest => once steps (printing.add ['%']) rest
      | '%', rest =>
        let (printing, rest) := printing.direct rest
        once steps printing rest
      | '\\', rest =>
        let (meant, after) := readEscape rest
        once steps (printing.add [meant]) after
      | c, rest => once steps (printing.add [c]) rest

/-- The printing after a format was gone through until no value is left. -/
def rounds : Nat → Printing → Chars → Printing
  | 0, printing, _ => printing
  | count + 1, printing, format =>
    let after := once (format.length + 1) printing format
    -- A format that uses no values would never come to an end of them.
    if after.isOver || after.values.isEmpty || after.values.length == printing.values.length then
      after
    else rounds count after format

end Printing

/-- What a format prints for some values. -/
def printed (format : Chars) (values : List Chars) : Printing :=
  .rounds (values.length + 1) ⟨[], [], values, false, false⟩ format

/-- A format is used again for the values it has left. -/
example : (printed "%02d,".toList [['7'], ['1', '2']]).text = "07,12,".toList := by decide

end Themer.Script
