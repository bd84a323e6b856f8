import Themer.Script.Options
import Themer.Script.Regex

/-! The program that works out the formula that its words spell, one word for each sign. -/

namespace Themer.Script

/-- What is wrong with a formula. -/
inductive FormulaError
  | missingAfter (word : Chars)
  | missingParenthesis (word : Chars)
  | otherParenthesis (word : Chars)
  | strayParenthesis
  | leftOver (word : Chars)
  | noInteger
  | divisionByZero
  | badPattern
deriving DecidableEq, Repr

/-- The complaint about a formula. -/
def FormulaError.text : FormulaError → Chars
  | .missingAfter word => "syntax error: missing argument after ".toList ++ bentQuotes word
  | .missingParenthesis word => "syntax error: expecting ')' after ".toList ++ bentQuotes word
  | .otherParenthesis word => "syntax error: expecting ')' instead of ".toList ++ bentQuotes word
  | .strayParenthesis => "syntax error: unexpected ')'".toList
  | .leftOver word => "syntax error: unexpected argument ".toList ++ bentQuotes word
  | .noInteger => "non-integer argument".toList
  | .divisionByZero => "division by zero".toList
  | .badPattern => "Invalid regular expression".toList

/-- A step through a formula: what it answers, and the words that are left. -/
abbrev Working (α : Type) := StateT (Chars × List Chars) (Except FormulaError) α

namespace Working

/-- The next word, which is passed. -/
def next : Working Chars := do
  match (← get).2 with
  | [] => throw (.missingAfter (← get).1)
  | word :: rest =>
    set (word, rest)
    return word

/-- An outcome as a step that passes no words. -/
def ofOutcome {α : Type} (outcome : Except FormulaError α) : Working α :=
  match outcome with
  | .ok value => return value
  | .error error => throw error

/-- Passes the next word if it is one of some signs. -/
def sign? (signs : List String) : Working (Option String) := do
  match (← get).2 with
  | word :: rest =>
    if signs.contains (String.ofList word) then
      set (word, rest)
      return some (String.ofList word)
    else return none
  | [] => return none

end Working

/-- The integer that a text spells, in decimal digits behind a minus sign or none. -/
def numeral? (text : Chars) : Option Int :=
  let digits := if text.head? = some '-' then text.drop 1 else text
  if digits.isEmpty || !digits.all Char.isDigit then none
  else (String.ofList text).toInt?

/-- Whether a text counts as false: it is empty, or zero. -/
def isNothing (text : Chars) : Bool := text.isEmpty || numeral? text == some 0

/-- The text of an answer that is yes or no. -/
def yesOrNo (answer : Bool) : Chars := if answer then ['1'] else ['0']

/-- What a sign makes of two integers. -/
def combined (sign : String) (a b : Int) : Except FormulaError Int :=
  match sign with
  | "+" => .ok (a + b)
  | "-" => .ok (a - b)
  | "*" => .ok (a * b)
  | _ =>
    if b = 0 then .error .divisionByZero
    else .ok (if sign = "/" then a.tdiv b else a.tmod b)

/-- Whether two texts compare as a sign says: as integers if both are some, else in their order. -/
def compares (sign : String) (a b : Chars) : Bool :=
  -- Two numbers may be spelled in several ways, so they are compared by what they count.
  let (less, same) := match numeral? a, numeral? b with
    | some a, some b => (decide (a < b), a == b)
    | _, _ => (decide (a < b), a == b)
  match sign with
  | "<" => less
  | "<=" => less || same
  | "=" | "==" => same
  | "!=" => !same
  | ">=" => !less
  | _ => !(less || same)

/-- What a pattern finds at the start of a text: its first group if it has one, or the length. -/
def foundAtStart (text pattern : Chars) : Except FormulaError Chars :=
  match Regex.read? false (widen pattern) with
  | none => .error .badPattern
  | some regex =>
    let hasGroup := (pattern.zip (pattern.drop 1)).contains ('\\', '(')
    match regex.matchAt? false ⟨none, widen text, []⟩ with
    -- No match is no text where a group was asked for, and no length where it was not.
    | none => .ok (if hasGroup then [] else ['0'])
    | some found =>
      .ok (if hasGroup then narrow ((found.groups.lookup 1).getD [])
        else (toString found.text.length).toList)

/-- The signs that join two parts of a formula, the weakest ones first. -/
def signLevels : List (List String) :=
  [["|"], ["&"], ["<", "<=", "=", "==", "!=", ">=", ">"], ["+", "-"], ["*", "/", "%"], [":"]]

/-- What a sign makes of two texts; nothing is worked out that does not count. -/
def joined (counts : Bool) (sign : String) (a b : Chars) : Working Chars := do
  -- Its text does not matter, for nothing comes of it.
  if !counts then return a
  match sign with
  | "|" => return if !isNothing a then a else if isNothing b then ['0'] else b
  | "&" => return if isNothing a || isNothing b then ['0'] else a
  | ":" => Working.ofOutcome (foundAtStart a b)
  | sign =>
    if ["+", "-", "*", "/", "%"].contains sign then
      match numeral? a, numeral? b with
      | some a, some b => return (toString (← Working.ofOutcome (combined sign a b))).toList
      | _, _ => throw .noInteger
    else return yesOrNo (compares sign a b)

mutual

/-- A formula without signs between its parts, for at most so many steps. -/
def workPart : Nat → Bool → Working Chars
  | 0, _ => throw .noInteger
  | steps + 1, counts => do
    let word ← Working.next
    match String.ofList word with
    | "(" =>
      let value ← workFrom steps counts signLevels
      let (last, rest) ← get
      match rest with
      | [] => throw (.missingParenthesis last)
      | other :: rest =>
        -- It takes the place of the parenthesis, so it is what is told.
        if other ≠ [')'] then throw (.otherParenthesis other)
        set (other, rest)
        return value
    | ")" => throw .strayParenthesis
    | "+" => Working.next
    | "length" => return (toString (widen (← workPart steps counts)).length).toList
    | "match" =>
      let text ← workPart steps counts
      joined counts ":" text (← workPart steps counts)
    | "index" =>
      let text := widen (← workPart steps counts)
      let sought := widen (← workPart steps counts)
      let before := text.takeWhile fun c => !sought.contains c
      return (toString (if before.length = text.length then 0 else before.length + 1)).toList
    | "substr" =>
      let text := widen (← workPart steps counts)
      let start := numeral? (← workPart steps counts)
      let length := numeral? (← workPart steps counts)
      match start, length with
      | some start, some length =>
        -- Outside of the text there is nothing, and that is no mistake.
        if start ≤ 0 || length ≤ 0 then return []
        return narrow ((text.drop (start.toNat - 1)).take length.toNat)
      | _, _ => return []
    | _ => return word

/-- A formula of parts that the signs of some levels join, for at most so many steps. -/
def workFrom : Nat → Bool → List (List String) → Working Chars
  | 0, _, _ => throw .noInteger
  | steps + 1, counts, [] => workPart steps counts
  | steps + 1, counts, signs :: tighter => do
    workMore steps counts signs tighter (← workFrom steps counts tighter)

/-- A formula whose first part is worked out, for at most so many steps. -/
def workMore : Nat → Bool → List String → List (List String) → Chars → Working Chars
  | 0, _, _, _, _ => throw .noInteger
  | steps + 1, counts, signs, tighter, value => do
    match ← Working.sign? signs with
    | none => return value
    | some sign =>
      -- The other part is read all the same, but only worked out where it can still matter.
      let counted := counts && match sign with
        | "|" => isNothing value
        | "&" => !isNothing value
        | _ => true
      let other ← workFrom steps counted tighter
      workMore steps counts signs tighter (← joined counts sign value other)

end

/-- The value of the formula that some words spell. -/
def formulaValue (words : List Chars) : Except FormulaError Chars := do
  let (value, (_, rest)) ← (workFrom (10 * words.length + 10) true signLevels).run ([], words)
  match rest with
  | [] => return value
  | word :: _ => throw (.leftOver word)

open Act in
/-- Writes the value of a formula; the status tells whether it counts as false. -/
def workOut : Program := fun words => do
  let words := match words with
    -- It only says that no options follow, and there are none.
    | ['-', '-'] :: rest => rest
    | words => words
  if words.isEmpty then return ← misuse "expr" 2 "missing operand".toList
  match formulaValue words with
  | .error error =>
    report "expr" error.text
    return 2
  | .ok value =>
    write 1 (value ++ ['\n'])
    return if isNothing value then 1 else 0

end Themer.Script
