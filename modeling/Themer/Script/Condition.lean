import Themer.Script.Shell

/-! The conditions that a script tests: what their words ask, and whether it holds. -/

namespace Themer.Script

/-- What a word of a condition is. -/
inductive ConditionWord
  | ending
  | operand
  | unary (letter : Char)
  | binary (name : String)
  | not
  | both
  | either
  | opening
  | closing
deriving DecidableEq, Repr

/-- Why some words are no condition. -/
inductive ConditionError
  | unexpected (word : Chars)
  | noArgument (operator : Chars)
  | notClosed
  | illegalNumber (word : Chars)
deriving DecidableEq, Repr

/-- The words for an error in a condition. -/
def ConditionError.text : ConditionError → Chars
  | .unexpected [] => "unexpected operator".toList
  | .unexpected word => word ++ ": unexpected operator".toList
  | .noArgument operator => operator ++ ": argument expected".toList
  | .notClosed => "closing paren expected".toList
  | .illegalNumber word => "Illegal number: ".toList ++ word

/-- The operators between two operands. -/
def comparisons : List String :=
  ["=", "!=", "<", ">", "-eq", "-ne", "-ge", "-gt", "-le", "-lt", "-nt", "-ot", "-ef"]

/-- The operator that a word is, if it is one. -/
def conditionOperator? (word : Chars) : Option ConditionWord :=
  match word with
  | ['!'] => some .not
  | ['('] => some .opening
  | [')'] => some .closing
  | ['-', 'a'] => some .both
  | ['-', 'o'] => some .either
  | ['-', letter] =>
    if "rwxefdcbpugkstznhOGLS".toList.contains letter then some (.unary letter) else none
  | _ => (comparisons.find? (· == String.ofList word)).map .binary

/-- Whether a word is an operator between two operands. -/
def isComparison (word : Chars) : Bool :=
  match conditionOperator? word with
  | some (.binary _) => true
  | _ => false

/-- What the first of some words is; an operator without its operand is an operand. -/
def conditionWord : List Chars → ConditionWord
  | [] => .ending
  | word :: rest =>
    match conditionOperator? word, rest with
    | some (.unary _), [] => .operand
    | some (.unary letter), next :: _ :: _ =>
      -- With a comparison behind it, even a word that looks like an operator is compared.
      if isComparison next then .operand else .unary letter
    -- By itself a bracket is a word like any other.
    | some .opening, [] => .operand
    | some operator, _ => operator
    | none, _ => .operand

/-- The number that a word spells, with blanks around it. -/
def conditionNumber (word : Chars) : Except ConditionError Int :=
  let isSpace (c : Char) : Bool := c == ' ' || ('\t' ≤ c && c ≤ '\r')
  let body := word.dropWhile isSpace
  let (negated, digits) := match body with
    | '-' :: rest => (true, rest)
    | '+' :: rest => (false, rest)
    | rest => (false, rest)
  let spelled := digits.takeWhile Char.isDigit
  let value : Int := spelled.foldl (fun n c => n * 10 + (c.toNat - 48)) 0
  if spelled.isEmpty || !(digits.drop spelled.length).all isSpace || 9223372036854775807 < value
  then .error (.illegalNumber word)
  else .ok (if negated then -value else value)

namespace Shell

/-- Whether what a letter asks of an operand holds. -/
def asks (shell : Shell) (letter : Char) (operand : Chars) : Bool :=
  let found := shell.at? operand
  match letter with
  | 'n' => !operand.isEmpty
  | 'z' => operand.isEmpty
  | 'e' | 'r' | 'w' | 'O' | 'G' => found.isSome
  | 'd' => found == some .directory
  | 'c' => found == some .device
  | 'f' => match found with
    | some (.file _ _) => true
    | _ => false
  | 's' => match found with
    | some (.file content _) => !content.isEmpty
    | other => other == some .directory
  | 'x' => match found with
    | some (.file _ executable) => executable
    | other => other == some .directory
  | _ => false

/-- Whether a comparison of two operands holds. -/
def compares (shell : Shell) (name : String) (left right : Chars) :
    Except ConditionError Bool := do
  let numbers (holds : Int → Int → Bool) : Except ConditionError Bool := do
    return holds (← conditionNumber left) (← conditionNumber right)
  let exists? (name : Chars) : Bool := (shell.at? name).isSome
  match name with
  | "=" => return left == right
  | "!=" => return left != right
  | "<" => return decide (left < right)
  | ">" => return decide (right < left)
  | "-eq" => numbers (· == ·)
  | "-ne" => numbers (· != ·)
  | "-lt" => numbers fun a b => a < b
  | "-le" => numbers fun a b => a ≤ b
  | "-gt" => numbers fun a b => b < a
  | "-ge" => numbers fun a b => b ≤ a
  | "-nt" => return exists? left && !exists? right
  | "-ot" => return !exists? left && exists? right
  | _ => return exists? left && match shell.spot left, shell.spot right with
    | .ok first, .ok second => first == second
    | _, _ => false

/-- An answer, and the words from the last one that it was taken from on. -/
abbrev Answer := Except ConditionError (Bool × List Chars)

mutual

/-- The answer to one question at the first of some words, for at most so many steps. -/
def answerOne (shell : Shell) : Nat → ConditionWord → List Chars → Answer
  | 0, _, words => .ok (false, words)
  | steps + 1, word, words =>
    match word with
    | .ending => .ok (false, words)
    | .opening => do
      let inside := words.drop 1
      let next := conditionWord inside
      -- Nothing between the two brackets is no condition, and so it does not hold.
      if next = .closing then return (false, inside)
      let (answer, words) ← answerEither shell steps next inside
      if conditionWord (words.drop 1) ≠ .closing then throw .notClosed
      return (answer, words.drop 1)
    | .unary letter => match words.drop 1 with
      | [] => .error (.noArgument (words.head?.getD []))
      | operand :: rest => .ok (shell.asks letter operand, operand :: rest)
    -- Whatever else it looks like, a word in front of a comparison is its operand.
    | _ => match conditionWord (words.drop 1), words with
      | .binary name, left :: operator :: rest => match rest with
        | [] => .error (.noArgument operator)
        | right :: more => do return (← shell.compares name left right, right :: more)
      -- A word alone asks whether it is empty.
      | _, words => .ok (words.head?.any (!·.isEmpty), words)

/-- The answer to a question that may be turned around. -/
def answerNot (shell : Shell) : Nat → ConditionWord → List Chars → Answer
  | 0, _, words => .ok (false, words)
  | steps + 1, word, words =>
    if word = .not then do
      let next := conditionWord (words.drop 1)
      let (answer, words) ←
        answerNot shell steps next (if next = .ending then words else words.drop 1)
      return (!answer, words)
    else answerOne shell steps word words

/-- Whether all of several questions have the answer yes. -/
def answerBoth (shell : Shell) : Nat → ConditionWord → List Chars → Answer
  | 0, _, words => .ok (false, words)
  | steps + 1, word, words => do
    let (answer, words) ← answerNot shell steps word words
    if conditionWord (words.drop 1) = .both then
      let rest := words.drop 2
      let (more, words) ← answerBoth shell steps (conditionWord rest) rest
      return (answer && more, words)
    return (answer, words)

/-- Whether one of several questions has the answer yes. -/
def answerEither (shell : Shell) : Nat → ConditionWord → List Chars → Answer
  | 0, _, words => .ok (false, words)
  | steps + 1, word, words => do
    let (answer, words) ← answerBoth shell steps word words
    if conditionWord (words.drop 1) = .either then
      let rest := words.drop 2
      let (more, words) ← answerEither shell steps (conditionWord rest) rest
      return (answer || more, words)
    return (answer, words)

end

/-- The answer to a condition whose first word is of a known kind. -/
def answerAll (shell : Shell) (word : ConditionWord) (words : List Chars) :
    Except ConditionError Bool := do
  let (answer, rest) ← answerEither shell (4 * words.length + 4) word words
  match rest with
  | culprit :: _ :: _ => throw (.unexpected culprit)
  | _ => return answer

/-- Whether the condition that some words spell holds; how they are read depends on their number. -/
def holds (shell : Shell) (words : List Chars) : Except ConditionError Bool :=
  match words with
  | [] => .ok false
  | [first, operator, last] =>
    -- Three words with a comparison in the middle are one, whatever the outer ones look like.
    if isComparison operator then shell.answerAll .operand words
    else if first = ['('] && last = [')'] then
      shell.answerAll (conditionWord [operator]) [operator]
    -- The words after it are counted anew.
    else if first = ['!'] then (shell.holds [operator, last]).map not
    else shell.answerAll (conditionWord words) words
  | [first, second, third, last] =>
    if first = ['('] && last = [')'] then
      shell.answerAll (conditionWord [second, third]) [second, third]
    else if first = ['!'] then (shell.holds [second, third, last]).map not
    else shell.answerAll (conditionWord words) words
  | words => shell.answerAll (conditionWord words) words
termination_by words.length

end Shell

end Themer.Script
