import Themer.Script.Syntax

/-! The whole numbers of a shell script: reading expressions of 64 bits and working them out. -/

namespace Themer.Script

/-- The operators between two numbers that always need both. -/
inductive Operator
  | times
  | over
  | modulo
  | plus
  | minus
  | shiftLeft
  | shiftRight
  | less
  | lessOrEqual
  | greater
  | greaterOrEqual
  | equal
  | unequal
  | bitAnd
  | bitXor
  | bitOr
deriving DecidableEq, Repr

/-- The operators as they are written, and how loosely each binds. -/
def operators : List (String × Operator × Nat) :=
  [("*", .times, 0), ("/", .over, 0), ("%", .modulo, 0), ("+", .plus, 1), ("-", .minus, 1),
    ("<<", .shiftLeft, 2), (">>", .shiftRight, 2), ("<", .less, 3), ("<=", .lessOrEqual, 3),
    (">", .greater, 3), (">=", .greaterOrEqual, 3), ("==", .equal, 4), ("!=", .unequal, 4),
    ("&", .bitAnd, 5), ("^", .bitXor, 6), ("|", .bitOr, 7)]

/-- The operators that an assignment may be joined with, as they are written. -/
def assignments : List (String × Option Operator) :=
  [("=", none), ("*=", some .times), ("/=", some .over), ("%=", some .modulo),
    ("+=", some .plus), ("-=", some .minus), ("<<=", some .shiftLeft), (">>=", some .shiftRight),
    ("&=", some .bitAnd), ("^=", some .bitXor), ("|=", some .bitOr)]

/-- Why an expression has no value. -/
inductive ArithmeticError
  | noPrimary
  | noEnd
  | noClosing
  | noColon
  | divisionByZero
  | illegalNumber (text : Chars)
deriving DecidableEq, Repr

/--
An expression over numbers and variables, or the part of one up to an error.

What stands before the error is worked out all the same, and may fail for another reason.
-/
inductive Expression
  | broken (error : ArithmeticError)
  | before (operand : Expression) (error : ArithmeticError)
  | number (value : Int64)
  | name (name : Chars)
  | negative (operand : Expression)
  | not (operand : Expression)
  | complement (operand : Expression)
  | binary (operator : Operator) (left right : Expression)
  | both (left right : Expression)
  | either (left right : Expression)
  | choice (condition consequent alternative : Expression)
  | assignment (name : Chars) (operator : Option Operator) (value : Expression)
deriving Repr

/-- The tokens of an expression. -/
inductive Lexeme
  | number (value : Int64)
  | name (name : Chars)
  | sign (text : String)
deriving DecidableEq, Repr

/-- The number that some digits of a base spell, within the bounds of 64 bits. -/
def digitsValue (base : Nat) (digits : Chars) : Int64 :=
  let digit (c : Char) : Nat :=
    if c.isDigit then c.toNat - 48 else if c.isLower then c.toNat - 87 else c.toNat - 55
  let value := digits.foldl (fun n c => n * base + digit c) 0
  -- A number that is too big counts as the biggest one.
  if value < 9223372036854775807 then Int64.ofNat value else 9223372036854775807

/-- The number that a text starts with, in base sixteen, eight or ten, and what follows it. -/
def readNumber (text : Chars) : Int64 × Chars :=
  let spelled (base : Nat) (isDigit : Char → Bool) (text : Chars) : Int64 × Chars :=
    (digitsValue base (text.takeWhile isDigit), text.dropWhile isDigit)
  let isHex (c : Char) : Bool := c.isDigit || ('a' ≤ c && c ≤ 'f') || ('A' ≤ c && c ≤ 'F')
  match text with
  | '0' :: x :: c :: rest =>
    -- Without a digit behind it the letter is no part of the number.
    if (x = 'x' || x = 'X') && isHex c then spelled 16 isHex (c :: rest)
    else spelled 8 (fun c => '0' ≤ c && c ≤ '7') text
  | '0' :: _ => spelled 8 (fun c => '0' ≤ c && c ≤ '7') text
  | _ => spelled 10 Char.isDigit text

/-- The signs of an expression, the longer ones first. -/
def signs : List String :=
  ["<<=", ">>=", "<<", ">>", "<=", ">=", "==", "!=", "&&", "||", "*=", "/=", "%=", "+=", "-=",
    "&=", "^=", "|=", "*", "/", "%", "+", "-", "<", ">", "=", "!", "~", "&", "^", "|", "?", ":",
    "(", ")"]

/-- The tokens of a text, for at most so many steps; any other character is a sign of its own. -/
def lexemes : Nat → Chars → List Lexeme
  | 0, _ => []
  | _ + 1, [] => []
  | steps + 1, c :: rest =>
    let text := c :: rest
    if c = ' ' || ('\t' ≤ c && c ≤ '\r') then lexemes steps rest
    else if c.isDigit then
      let (value, after) := readNumber text
      .number value :: lexemes steps after
    else if startsName c then
      .name (text.takeWhile isNameChar) :: lexemes steps (text.dropWhile isNameChar)
    else match signs.find? fun sign => sign.toList.isPrefixOf text with
      | some sign => .sign sign :: lexemes steps (text.drop sign.length)
      -- No rule takes such a sign, so it ends the expression with an error.
      | none => .sign c.toString :: lexemes steps rest

/-- An expression that some tokens start with, and the tokens after it. -/
abbrev Parsed := Expression × List Lexeme

/-- The operator that a token is between two numbers, and how loosely it binds. -/
def operator? : Lexeme → Option (Operator × Nat)
  | .sign text => operators.lookup text
  | _ => none

mutual

/-- An expression with nothing but signs in front, for at most so many steps. -/
def parsePrimary : Nat → List Lexeme → Parsed
  | 0, _ => (.broken .noPrimary, [])
  | steps + 1, tokens =>
    let unary (build : Expression → Expression) (rest : List Lexeme) : Parsed :=
      let (operand, after) := parsePrimary steps rest
      (build operand, after)
    match tokens with
    | .number value :: rest => (.number value, rest)
    | .name name :: rest => (.name name, rest)
    | .sign "(" :: rest =>
      match parseAssignment steps rest with
      | (inner, .sign ")" :: after) => (inner, after)
      -- The error ends the expression, so no token is left to be read.
      | (inner, _) => (.before inner .noClosing, [])
    | .sign "+" :: rest => unary id rest
    | .sign "-" :: rest => unary .negative rest
    | .sign "!" :: rest => unary .not rest
    | .sign "~" :: rest => unary .complement rest
    | _ => (.broken .noPrimary, [])

/-- An expression whose operators bind no looser than a bound, behind its first operand. -/
def parseOperators : Nat → Nat → Expression → List Lexeme → Parsed
  | 0, _, left, tokens => (left, tokens)
  | steps + 1, bound, left, tokens =>
    match tokens with
    | [] => (left, [])
    | token :: rest => match operator? token with
      | none => (left, tokens)
      | some (operator, looseness) =>
        -- A looser one belongs to whoever asked for this operand.
        if bound < looseness then (left, tokens)
        else
          let (right, after) := parsePrimary steps rest
          -- What binds tighter than this operator belongs to its second operand.
          let (right, after) :=
            if looseness = 0 then (right, after)
            else parseOperators steps (looseness - 1) right after
          parseOperators steps bound (.binary operator left right) after

/-- An expression of operators that may need only their first operand, and of choices. -/
def parseChoice : Nat → List Lexeme → Parsed
  | 0, _ => (.broken .noPrimary, [])
  | steps + 1, tokens =>
    match parseEither steps tokens with
    | (condition, .sign "?" :: rest) =>
      -- Between its two signs, a choice holds anything.
      match parseAssignment steps rest with
      | (consequent, .sign ":" :: rest) =>
        let (alternative, after) := parseChoice steps rest
        (.choice condition consequent alternative, after)
      | (consequent, _) => (.choice condition consequent (.broken .noColon), [])
    | parsed => parsed

/-- An expression that holds if one of several holds. -/
def parseEither : Nat → List Lexeme → Parsed
  | 0, _ => (.broken .noPrimary, [])
  | steps + 1, tokens =>
    match parseBoth steps tokens with
    | (left, .sign "||" :: rest) =>
      let (right, after) := parseEither steps rest
      (.either left right, after)
    | parsed => parsed

/-- An expression that holds if all of several hold. -/
def parseBoth : Nat → List Lexeme → Parsed
  | 0, _ => (.broken .noPrimary, [])
  | steps + 1, tokens =>
    let (first, after) := parsePrimary steps tokens
    match parseOperators steps 7 first after with
    | (left, .sign "&&" :: rest) =>
      let (right, after) := parseBoth steps rest
      (.both left right, after)
    | parsed => parsed

/-- An expression of any kind. -/
def parseAssignment : Nat → List Lexeme → Parsed
  | 0, _ => (.broken .noPrimary, [])
  | steps + 1, tokens =>
    match tokens with
    | .name name :: .sign sign :: rest => match assignments.lookup sign with
      | some operator =>
        let (value, after) := parseAssignment steps rest
        (.assignment name operator value, after)
      | none => parseChoice steps tokens
    | _ => parseChoice steps tokens

end

/-- The expression that a text spells. -/
def parseExpression (text : Chars) : Expression :=
  let tokens := lexemes text.length text
  match parseAssignment (8 * tokens.length + 8) tokens with
  | (expression, []) => expression
  | (expression, _) => .before expression .noEnd

/-- The first error of an expression that is not worked out. -/
def Expression.fault? : Expression → Option ArithmeticError
  | .broken error => some error
  | .before operand error => operand.fault? <|> some error
  | .number _ => none
  | .name _ => none
  | .negative operand => operand.fault?
  | .not operand => operand.fault?
  | .complement operand => operand.fault?
  | .binary _ left right => left.fault? <|> right.fault?
  | .both left right => left.fault? <|> right.fault?
  | .either left right => left.fault? <|> right.fault?
  | .choice condition consequent alternative =>
    condition.fault? <|> consequent.fault? <|> alternative.fault?
  | .assignment _ _ operand => operand.fault?

/-- Passes over an expression, which still may not be broken. -/
def Expression.passOver (expression : Expression) : Except ArithmeticError Unit :=
  match expression.fault? with
  | some error => .error error
  | none => .ok ()

/-- Variables with numbers that a working out has set, over the texts of all others. -/
structure Ledger where
  changed : List (Chars × Int64)
  textOf : Chars → Chars

/-- The number that the text of a variable spells; nothing spells zero. -/
def numberOfText (text : Chars) : Except ArithmeticError Int64 :=
  let isSpace (c : Char) : Bool := c == ' ' || ('\t' ≤ c && c ≤ '\r')
  let body := text.dropWhile isSpace
  let (negated, digits) := match body with
    | '-' :: rest => (true, rest)
    | '+' :: rest => (false, rest)
    | rest => (false, rest)
  let (value, after) := readNumber digits
  -- Blanks around a number do not count, and a text of blanks alone spells zero as well.
  if (digits.head?.any Char.isDigit && after.all isSpace) || body.isEmpty then
    .ok (if negated then -value else value)
  else .error (.illegalNumber text)

/-- The number of a variable. -/
def Ledger.numberOf (ledger : Ledger) (name : Chars) : Except ArithmeticError Int64 :=
  match ledger.changed.lookup name with
  | some value => .ok value
  | none => numberOfText (ledger.textOf name)

/-- The ledger with a variable set. -/
def Ledger.set (ledger : Ledger) (name : Chars) (value : Int64) : Ledger :=
  { ledger with changed := (name, value) :: ledger.changed.filter (·.1 != name) }

/-- A number for an answer: one if it is yes. -/
def answer (yes : Bool) : Int64 := if yes then 1 else 0

/-- What an operator gives for two numbers. -/
def Operator.apply (operator : Operator) (left right : Int64) : Except ArithmeticError Int64 :=
  match operator with
  | .times => .ok (left * right)
  | .over => if right = 0 then .error .divisionByZero else .ok (left / right)
  | .modulo => if right = 0 then .error .divisionByZero else .ok (left % right)
  | .plus => .ok (left + right)
  | .minus => .ok (left - right)
  | .shiftLeft => .ok (left <<< right)
  | .shiftRight => .ok (left >>> right)
  | .less => .ok (answer (decide (left < right)))
  | .lessOrEqual => .ok (answer (decide (left ≤ right)))
  | .greater => .ok (answer (decide (right < left)))
  | .greaterOrEqual => .ok (answer (decide (right ≤ left)))
  | .equal => .ok (answer (left == right))
  | .unequal => .ok (answer (left != right))
  | .bitAnd => .ok (left &&& right)
  | .bitXor => .ok (left ^^^ right)
  | .bitOr => .ok (left ||| right)

/-- The value of an expression, and the ledger after it is worked out. -/
def Expression.value : Expression → Ledger → Except ArithmeticError (Int64 × Ledger)
  | .broken error, _ => .error error
  | .before operand error, ledger => do
    let _ ← operand.value ledger
    throw error
  | .number value, ledger => .ok (value, ledger)
  | .name text, ledger => do return (← ledger.numberOf text, ledger)
  | .negative operand, ledger => do
    let (value, ledger) ← operand.value ledger
    return (-value, ledger)
  | .not operand, ledger => do
    let (value, ledger) ← operand.value ledger
    return (answer (value == 0), ledger)
  | .complement operand, ledger => do
    let (value, ledger) ← operand.value ledger
    return (~~~value, ledger)
  | .binary operator left right, ledger => do
    let (first, ledger) ← left.value ledger
    let (second, ledger) ← right.value ledger
    return (← operator.apply first second, ledger)
  | .both left right, ledger => do
    let (first, ledger) ← left.value ledger
    if first = 0 then
      -- The second one is not worked out, so what it would set stays unset.
      right.passOver
      return (0, ledger)
    let (second, ledger) ← right.value ledger
    return (answer (second != 0), ledger)
  | .either left right, ledger => do
    let (first, ledger) ← left.value ledger
    if first ≠ 0 then
      right.passOver
      return (1, ledger)
    let (second, ledger) ← right.value ledger
    return (answer (second != 0), ledger)
  | .choice condition consequent alternative, ledger => do
    let (test, ledger) ← condition.value ledger
    if test ≠ 0 then
      -- Of the two only one is worked out, but either of them has to be an expression.
      let result ← consequent.value ledger
      alternative.passOver
      return result
    consequent.passOver
    alternative.value ledger
  | .assignment target operator operand, ledger => do
    -- What the operand sets counts for the operator as well.
    let (value, ledger) ← operand.value ledger
    let result ← match operator with
      | none => pure value
      | some operator => operator.apply (← ledger.numberOf target) value
    return (result, ledger.set target result)

/-- The words for an error in an expression. -/
def ArithmeticError.text (expression : Chars) : ArithmeticError → Chars
  | .illegalNumber text => "Illegal number: ".toList ++ text
  | error =>
    let cause := match error with
      | .noPrimary => "expecting primary"
      | .noEnd => "expecting EOF"
      | .noClosing => "expecting ')'"
      | .noColon => "expecting ':'"
      | _ => "division by zero"
    s!"arithmetic expression: {cause}: \"".toList ++ expression ++ ['"']

/-- A product binds tighter than a sum, and what is set has a value. -/
example : ((parseExpression "x = 1 + 2 * 3".toList).value ⟨[], fun _ => []⟩).toOption.map
    (fun (value, ledger) => (value, ledger.changed)) = some (7, [(['x'], 7)]) := by
  rfl

end Themer.Script
