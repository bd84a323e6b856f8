import Themer.Datum
import Themer.Nesting
import Themer.Number.Numeral

/-! JSON documents read into values, with the place and the cause of what is no JSON. -/

namespace Themer.Json

/-- What is wrong at a place of a document. -/
inductive Cause
  | byteOrderMark
  | expectingValue
  | expectingName
  | expectingColon
  | expectingComma
  | unterminatedString
  | controlCharacter
  | badEscape
  | badUnicodeEscape
  | extraData
deriving DecidableEq, Repr

/-- The words for what is wrong. -/
def Cause.text : Cause → String
  | .byteOrderMark => "Unexpected UTF-8 BOM (decode using utf-8-sig)"
  | .expectingValue => "Expecting value"
  | .expectingName => "Expecting property name enclosed in double quotes"
  | .expectingColon => "Expecting ':' delimiter"
  | .expectingComma => "Expecting ',' delimiter"
  | .unterminatedString => "Unterminated string starting at"
  | .controlCharacter => "Invalid control character at"
  | .badEscape => "Invalid \\escape"
  | .badUnicodeEscape => "Invalid \\uXXXX escape"
  | .extraData => "Extra data"

/-- Why reading stops, the place given by the rest of the document from there on. -/
inductive Stop
  | malformed (cause : Cause) (rest : List Char)
  | repeated (name : String)
  | tooManyDigits (e : TooManyDigits)
  | tooDeep (e : TooDeep)
deriving DecidableEq, Repr

/-- An outcome that takes some levels, the first of them first, where so many are left. -/
def within {α : Type} (levels : Nat) (taken : List Level) (outcome : Except Stop α) :
    Except Stop α :=
  match taken[levels]? with
  | some level => .error (.tooDeep ⟨level⟩)
  | none => outcome

/-- The levels that it takes to tell what is wrong. -/
def complaintLevels : List Level := [.call, .body, .call]

/-- A stop where so many levels are left: what is malformed is told at once, and takes some. -/
def Stop.raised {α : Type} (levels : Nat) : Stop → Except Stop α
  -- A missing value is only noted here, and told outside of all values.
  | .malformed .expectingValue rest => .error (.malformed .expectingValue rest)
  | .malformed cause rest => within levels complaintLevels (.error (.malformed cause rest))
  | other => .error other

/-- A reading where so many levels are left. -/
def raising {α : Type} (levels : Nat) : Except Stop α → Except Stop α
  | .ok value => .ok value
  | .error stop => stop.raised levels

/-- The document from the next character on that is no blank. -/
def skipBlanks (document : List Char) : List Char :=
  document.dropWhile fun c => c == ' ' || c == '\t' || c == '\n' || c == '\r'

/-- The code that four hexadecimal digits stand for. -/
def hexCode? : List Char → Option Nat
  | [a, b, c, d] =>
    match Text.hexValue? a, Text.hexValue? b, Text.hexValue? c, Text.hexValue? d with
    | some a, some b, some c, some d => some (((a * 16 + b) * 16 + c) * 16 + d)
    | _, _, _, _ => none
  | _ => none

/-- The four characters after a Unicode escape, if the document goes on after them. -/
def escapeDigits? (rest : List Char) : Option (List Char) :=
  -- One character more is asked for than the four, as the string has to be closed behind them.
  if 4 < rest.length then some (rest.take 4) else none

/--
The character that a Unicode escape stands for, and how long the escape is after its backslash.

A code of the upper surrogates joins one of the lower ones that is escaped right after it.
A surrogate left alone is no character here and becomes the replacement character, so that two
texts may be the same here that differ by such surrogates alone.
-/
def unicodeEscape (rest : List Char) : Except Stop (Char × Nat) :=
  match (escapeDigits? (rest.drop 1)).bind hexCode? with
  | none => .error (.malformed .badUnicodeEscape rest)
  | some code =>
    -- The letter and its four digits are behind; a second escape would begin here.
    let after := rest.drop 5
    let alone := if 0xD800 ≤ code ∧ code < 0xE000 then '\uFFFD' else Char.ofNat code
    if 0xD800 ≤ code ∧ code < 0xDC00 ∧ 6 < after.length ∧ after.take 2 = ['\\', 'u'] then
      match hexCode? ((after.drop 2).take 4) with
      | none => .error (.malformed .badUnicodeEscape (after.drop 1))
      | some low =>
        if 0xDC00 ≤ low ∧ low < 0xE000 then
          .ok (Char.ofNat (0x10000 + (code - 0xD800) * 0x400 + (low - 0xDC00)), 11)
        -- A code behind an upper surrogate that is no lower one is read again, by itself.
        else .ok (alone, 5)
    else .ok (alone, 5)

/-- The character that an escape stands for, and how long the escape is after its backslash. -/
def escape (document rest : List Char) : Except Stop (Char × Nat) :=
  match rest with
  -- Each of these is one letter behind the backslash, and takes no other character.
  | '"' :: _ => .ok ('"', 1)
  | '\\' :: _ => .ok ('\\', 1)
  | '/' :: _ => .ok ('/', 1)
  | 'b' :: _ => .ok ('\x08', 1)
  | 'f' :: _ => .ok ('\x0C', 1)
  | 'n' :: _ => .ok ('\n', 1)
  | 'r' :: _ => .ok ('\r', 1)
  | 't' :: _ => .ok ('\t', 1)
  | 'u' :: _ => unicodeEscape rest
  | _ => .error (.malformed .badEscape document)

/--
The characters of a string up to its closing quote, some of them skipped first.

The opening quote is the place of a string that never closes.
-/
def readString (opening : List Char) : Nat → List Char → Except Stop (List Char × List Char)
  | _, [] => .error (.malformed .unterminatedString opening)
  | skipped + 1, _ :: rest => readString opening skipped rest
  | 0, c :: rest =>
    if c = '"' then .ok ([], rest)
    else if c = '\\' then
      -- A backslash at the very end escapes nothing, and no quote can follow.
      if rest.isEmpty then .error (.malformed .unterminatedString opening)
      else do
        let (escaped, length) ← escape (c :: rest) rest
        let (more, after) ← readString opening length rest
        return (escaped :: more, after)
    -- Line breaks and tabs are refused as well, and have to be escaped.
    else if c.toNat < 0x20 then .error (.malformed .controlCharacter (c :: rest))
    else do
      let (more, after) ← readString opening 0 rest
      return (c :: more, after)

/-- Whether a character is one of the ten digits of ASCII. -/
def isDigit (c : Char) : Bool := '0' ≤ c && c ≤ '9'

/-- The digits of a number's whole part: a single zero, or digits that start with none. -/
def wholePart? (document : List Char) : Option (List Char × List Char) :=
  match document with
  -- Digits behind a leading zero belong to no number, and are found to be extra.
  | '0' :: rest => some (['0'], rest)
  | c :: _ =>
    if isDigit c then some (document.takeWhile isDigit, document.dropWhile isDigit) else none
  | [] => none

/-- The digits after a point; a point with none after it belongs to something else. -/
def fraction (document : List Char) : List Char × List Char :=
  match document with
  | '.' :: rest =>
    if (rest.takeWhile isDigit).isEmpty then ([], document)
    else (rest.takeWhile isDigit, rest.dropWhile isDigit)
  | _ => ([], document)

/-- The number that follows an exponent's letter and sign, if one does. -/
def exponent? (document : List Char) : Option (Int × List Char) :=
  match document with
  | e :: rest =>
    if e = 'e' || e = 'E' then
      -- A sign may stand in front of the power, and at least one digit has to follow.
      let (negative, digits) := match rest with
        | '-' :: digits => (true, digits)
        | '+' :: digits => (false, digits)
        | digits => (false, digits)
      if (digits.takeWhile isDigit).isEmpty then none
      else
        let size : Int := Text.digitsValue (digits.takeWhile isDigit)
        some (if negative then -size else size, digits.dropWhile isDigit)
    else none
  | [] => none

/-- The value of a number by its digits: whole if it has neither fraction nor exponent. -/
def numberValue (negative : Bool) (whole rest : List Char) : Except Stop Datum :=
  let (places, after) := fraction rest
  match places.isEmpty, exponent? after with
  -- With neither a fraction nor an exponent the number is whole, of any size up to the limit.
  | true, none =>
    match readNumeral whole with
    | .ok size => .ok (.whole (if negative then -(size : Int) else size))
    | .error e => .error (.tooManyDigits e)
  | _, power =>
    -- The places behind the point count as digits, and take as much off the exponent.
    let size := Text.digitsValue (whole ++ places)
    let scale := ((power.map Prod.fst).getD 0) - places.length
    .ok (.real (.ofDecimal negative size scale))

/-- What a number leaves of the document, given what follows its whole part. -/
def afterNumber (rest : List Char) : List Char :=
  let (_, after) := fraction rest
  ((exponent? after).map Prod.snd).getD after

/-- A number, or nothing that JSON knows. -/
def readNumber (document : List Char) : Except Stop (Datum × List Char) :=
  -- The sign is a minus alone; a plus is not known here.
  let (negative, unsigned) := match document with
    | '-' :: rest => (true, rest)
    | _ => (false, document)
  match wholePart? unsigned with
  | some (whole, rest) => do return (← numberValue negative whole rest, afterNumber rest)
  | none => .error (.malformed .expectingValue document)

/-- The values written as words, the three that are no finite numbers among them. -/
def words : List (String × Datum) :=
  [("null", .null), ("true", .flag true), ("false", .flag false),
    ("NaN", .real ⟨0x7FF8000000000000⟩), ("Infinity", .real ⟨0x7FF0000000000000⟩),
    ("-Infinity", .real ⟨0xFFF0000000000000⟩)]

/-- The levels that it takes to look up the value of a word: one, if that is a number. -/
def wordLevels : Datum → List Level
  | .real _ => [.call]
  | _ => []

/-- A word or a number, where so many levels are left. -/
def readScalar (levels : Nat) (document : List Char) : Except Stop (Datum × List Char) :=
  match words.find? fun word => word.1.toList.isPrefixOf document with
  | some word => within levels (wordLevels word.2) (.ok (word.2, document.drop word.1.length))
  | none => readNumber document

/-- The first name that stands in a list for the second time. -/
def firstRepeat? (seen : List String) : List String → Option String
  | [] => none
  | name :: rest => if name ∈ seen then some name else firstRepeat? (name :: seen) rest

/-- The map of some members; if names must differ, one given twice stops the reading. -/
def closeObject (distinct : Bool) (levels : Nat) (members : List (String × Datum)) :
    Except Stop Datum :=
  -- The check comes with the closing brace, after all values of the object were read. Names that
  -- differ by surrogates left alone are one name to it, but no color has a name like that.
  match if distinct then firstRepeat? [] (members.map Prod.fst) else none with
  -- The function that makes the map takes a level, and more if it has something to tell.
  | some name => within levels (.body :: complaintLevels) (.error (.repeated name))
  | none =>
    within levels [.body] (.ok (.map (members.map fun member => (.text member.1, member.2))))

mutual

/-- A value that may hold so many levels of others, for at most so many steps. -/
def readValue (distinct : Bool) : Nat → Nat → List Char → Except Stop (Datum × List Char)
  | 0, _, document => .error (.malformed .expectingValue document)
  | steps + 1, levels, document =>
    match document, levels with
    | '"' :: rest, levels => do
      let (text, after) ← raising levels (readString document 0 rest)
      return (.text (String.ofList text), after)
    -- The level is counted at the bracket, before anything in the list is looked at.
    | '[' :: _, 0 => .error (.tooDeep ⟨.array⟩)
    | '[' :: rest, levels + 1 =>
      match skipBlanks rest with
      | ']' :: after => .ok (.list [], after)
      | first => do
        let (items, after) ← readItems distinct steps levels first
        return (.list items, after)
    | '\x7b' :: _, 0 => .error (.tooDeep ⟨.object⟩)
    | '\x7b' :: rest, levels + 1 =>
      match skipBlanks rest with
      | '\x7d' :: after => do return (← closeObject distinct levels [], after)
      | first => do
        let (members, after) ← readMembers distinct steps levels first
        return (← closeObject distinct levels members, after)
    -- Whatever begins in no other way is a word or a number, or nothing at all.
    | _, levels => readScalar levels document

/-- The items of a list from one on to the closing bracket. -/
def readItems (distinct : Bool) : Nat → Nat → List Char →
    Except Stop (List Datum × List Char)
  | 0, _, document => .error (.malformed .expectingValue document)
  | steps + 1, levels, document => do
    let (item, rest) ← readValue distinct steps levels document
    match skipBlanks rest with
    | ']' :: after => return ([item], after)
    | ',' :: next =>
      let (items, after) ← readItems distinct steps levels (skipBlanks next)
      return (item :: items, after)
    | other => (Stop.malformed .expectingComma other).raised levels

/-- The members of an object from one on to the closing brace. -/
def readMembers (distinct : Bool) : Nat → Nat → List Char →
    Except Stop (List (String × Datum) × List Char)
  | 0, _, document => .error (.malformed .expectingName document)
  | steps + 1, levels, document =>
    match document with
    | '"' :: inner => do
      let (name, rest) ← raising levels (readString document 0 inner)
      match skipBlanks rest with
      | ':' :: next =>
        let (value, rest) ← readValue distinct steps levels (skipBlanks next)
        let member := (String.ofList name, value)
        match skipBlanks rest with
        | '\x7d' :: after => return ([member], after)
        | ',' :: next =>
          let (members, after) ← readMembers distinct steps levels (skipBlanks next)
          return (member :: members, after)
        | other => (Stop.malformed .expectingComma other).raised levels
      -- Each of the two is told at the character that stands where the mark should.
      | other => (Stop.malformed .expectingColon other).raised levels
    | _ => (Stop.malformed .expectingName document).raised levels

end

/-- A whole document, where so many levels are left: one value with blanks around it. -/
def readDocument (levels : Nat) (distinct : Bool) (document : List Char) : Except Stop Datum :=
  match document with
  -- The mark would be no blank, and is told by its own name.
  | '\uFEFF' :: _ => .error (.malformed .byteOrderMark document)
  | _ => do
    -- A value inside a list or an object takes two steps for a character of its own.
    let (value, rest) ← readValue distinct (2 * document.length + 2) levels (skipBlanks document)
    match skipBlanks rest with
    | [] => return value
    -- Only blanks may follow the value.
    | extra => throw (.malformed .extraData extra)

/-- A place of a document: its line, its column and the characters before it. -/
structure Place where
  line : Nat
  column : Nat
  offset : Nat
deriving DecidableEq, Repr

/-- The place after some characters; lines and columns count from one. -/
def Place.after (before : List Char) : Place :=
  ⟨before.count '\n' + 1, (before.reverse.takeWhile (· != '\n')).length + 1, before.length⟩

/-- Why a document is not read. -/
inductive Error
  | malformed (cause : Cause) (place : Place)
  | repeated (name : String)
  | tooManyDigits (e : TooManyDigits)
  | tooDeep (e : TooDeep)
deriving DecidableEq, Repr

/-- What a stop means in the document it happened in. -/
def Stop.inDocument (document : List Char) : Stop → Error
  | .malformed cause rest =>
    .malformed cause (.after (document.take (document.length - rest.length)))
  | .repeated name => .repeated name
  | .tooManyDigits e => .tooManyDigits e
  | .tooDeep e => .tooDeep e

/-- The words for what is wrong and where. -/
def malformedText (cause : Cause) (place : Place) : String :=
  s!"{cause.text}: line {place.line} column {place.column} (char {place.offset})"

/--
The value of a document, where so many levels are left.

Names must differ within each object if so asked.
-/
def read (levels : Nat) (distinct : Bool) (text : String) : Except Error Datum :=
  (readDocument levels distinct text.toList).mapError (Stop.inDocument text.toList)

/-- A comma before the closing bracket asks for one more value. -/
example : read 1 false "[1, ]" = .error (.malformed .expectingValue ⟨1, 5, 4⟩) := by rfl

/-- With one level left a list may be opened, but not one within it. -/
example : read 1 false "[[]]" = .error (.tooDeep ⟨.array⟩) := by rfl

/-- An object takes one level more than a list, for the function that makes it a map. -/
example : read 1 false "\x7b\x7d" = .error (.tooDeep ⟨.body⟩) := by rfl

end Themer.Json
