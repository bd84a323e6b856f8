import Themer.Script.Pattern
import Themer.Script.Shell

/-! Regular expressions of both kinds: reading them, and finding the first longest match. -/

namespace Themer.Script

/-- A regular expression; its groups are numbered. -/
inductive Regex
  | nothing
  | exactly (c : Char)
  | any
  | set (negated : Bool) (members : List Member)
  | lineStart
  | lineEnd
  | wordEdge (atStart atEnd : Bool)
  | noWordEdge
  | noWordBefore
  | noWordAfter
  | group (number : Nat) (inner : Regex)
  | again (number : Nat)
  | sequence (first second : Regex)
  | either (first second : Regex)
  | repeated (inner : Regex) (least : Nat) (most : Option Nat)
deriving Repr

/-- The first character that stands for a byte that is no part of a text. -/
def strayStart : Nat := 0x10FF00

/-- The text of some bytes, in which bytes that spell no character stand for themselves. -/
def wideText : Nat → Chars → List Char
  | 0, _ => []
  | _ + 1, [] => []
  | steps + 1, c :: rest =>
    let lengths := if c < '\x80' then [1] else [2, 3, 4]
    let read? (length : Nat) : Option (Char × Chars) :=
      match Text.Utf8.decode (bytesOf ((c :: rest).take length)) with
      | .ok [wide] => some (wide, (c :: rest).drop length)
      | _ => none
    -- Byte by byte: what spells no character by itself does not spoil what follows.
    match lengths.findSome? read? with
    | some (wide, after) => wide :: wideText steps after
    | none => Char.ofNat (strayStart + c.toNat) :: wideText steps rest

/-- The characters that some bytes spell. -/
def widen (text : Chars) : List Char := wideText text.length text

/-- Whether a character stands for a byte that is no part of a text. -/
def isStray (c : Char) : Bool := strayStart ≤ c.toNat && c.toNat < strayStart + 256

/-- The bytes of some characters. -/
def narrow (text : List Char) : Chars :=
  text.flatMap fun c =>
    if isStray c then [Char.ofNat (c.toNat - strayStart)] else charsOf (Text.Utf8.encode [c])

/-- Whether a character is part of a word. -/
def isWordChar (c : Char) : Bool := isNameChar c

/-- The tokens of a regular expression. -/
inductive RegexToken
  | atom (regex : Regex)
  | opening
  | closing
  | bar
  | times (least : Nat) (most : Option Nat)
deriving Repr

/-- The members of a bracket up to its end, and the text after it. -/
def readBracket? (text : List Char) : Option (List Member × List Char) :=
  let glyphs : List Glyph := text.map (⟨·, true⟩)
  (readMembers (text.length + 1) true glyphs).map fun (members, rest) =>
    (members, rest.map (·.char))

/-- The bounds of a repetition up to a closing sign, and the text after it. -/
def readBounds? (closing : List Char) (text : List Char) : Option (RegexToken × List Char) := do
  let number (digits : List Char) : Option Nat := (String.ofList digits).toNat?
  let first := text.takeWhile Char.isDigit
  let rest := text.drop first.length
  let least := (number first).getD 0
  let (most, rest) ← match rest with
    | ',' :: more =>
      let second := more.takeWhile Char.isDigit
      some (number second, more.drop second.length)
    | rest => if first.isEmpty then none else some (some least, rest)
  if closing.isPrefixOf rest then return (.times least most, rest.drop closing.length) else none

/-- What a letter behind a backslash stands for among characters. -/
def escapedAtom (c : Char) : Regex :=
  let word : List Member := [.named "alnum", .range '_' '_']
  match c with
  | 'n' => .exactly '\n'
  | 't' => .exactly '\t'
  | 'w' => .set false word
  | 'W' => .set true word
  | 's' => .set false [.named "space"]
  | 'S' => .set true [.named "space"]
  | 'b' => .wordEdge true true
  | 'B' => .noWordEdge
  | '<' => .wordEdge true false
  | '>' => .wordEdge false true
  | c => if '1' ≤ c && c ≤ '9' then .again (c.toNat - 48) else .exactly c

/-- Whether a token leaves nothing in front of the next one that could be repeated. -/
def startsBranch : Option RegexToken → Bool
  | none => true
  | some .opening => true
  | some .bar => true
  | some (.atom .lineStart) => true
  | _ => false

/--
The tokens of a regular expression, for at most so many steps; nothing if a bracket stays open.

In an extended one signs are special as they are, and in a basic one behind a backslash.
-/
def regexTokens (extended : Bool) : Nat → Option RegexToken → List Char → Option (List RegexToken)
  | 0, _, _ => some []
  | _ + 1, _, [] => some []
  | steps + 1, before, c :: rest =>
    let go (token : RegexToken) (rest : List Char) : Option (List RegexToken) :=
      (regexTokens extended steps (some token) rest).map (token :: ·)
    let plain : Option (List RegexToken) := go (.atom (.exactly c)) rest
    let sign (c : Char) (rest : List Char) : Option (List RegexToken) :=
      match c with
      | '(' => go .opening rest
      | ')' => go .closing rest
      | '|' => go .bar rest
      | '+' => go (.times 1 none) rest
      | '?' => go (.times 0 (some 1)) rest
      | _ =>
        match readBounds? (if extended then ['\x7d'] else ['\\', '\x7d']) rest with
        | some (token, after) => go token after
        | none => go (.atom (.exactly c)) rest
    let isSign (c : Char) : Bool := ['(', ')', '|', '+', '?', '\x7b'].contains c
    match c, rest with
    | '.', _ => go (.atom .any) rest
    -- With nothing to repeat in front of it a star is a character.
    | '*', _ => if startsBranch before then plain else go (.times 0 none) rest
    | '^', _ =>
      -- In the middle of a basic expression the sign stands for itself.
      if extended || startsBranch before then go (.atom .lineStart) rest else plain
    | '$', _ =>
      let isLast := match rest with
        | [] => true
        | '\\' :: ')' :: _ | '\\' :: '|' :: _ => true
        | _ => false
      if extended || isLast then go (.atom .lineEnd) rest else plain
    | '[', _ =>
      let (negated, inside) := match rest with
        | '^' :: inside => (true, inside)
        | _ => (false, rest)
      match readBracket? inside with
      | some (members, after) => go (.atom (.set negated members)) after
      | none => none
    | '\\', d :: after =>
      if isSign d then
        -- A backslash does opposite things in the two kinds.
        if extended then go (.atom (.exactly d)) after
        else if startsBranch before && (d = '+' || d = '?') then go (.atom (.exactly d)) after
        else sign d after
      else go (.atom (escapedAtom d)) after
    | c, rest => if extended && isSign c then sign c rest else plain

mutual

/-- The branches of an expression, and the number of the next group, for at most so many steps. -/
def parseBranches : Nat → Nat → List RegexToken → Option (Regex × Nat × List RegexToken)
  | 0, _, _ => none
  | steps + 1, groups, tokens => do
    let (first, groups, rest) ← parseSequence steps groups .nothing tokens
    match rest with
    | .bar :: rest =>
      let (second, groups, rest) ← parseBranches steps groups rest
      return (.either first second, groups, rest)
    | rest => return (first, groups, rest)

/-- What follows some part of a branch. -/
def parseSequence : Nat → Nat → Regex → List RegexToken → Option (Regex × Nat × List RegexToken)
  | 0, _, _, _ => none
  | steps + 1, groups, before, tokens =>
    match tokens with
    | [] => some (before, groups, [])
    | .bar :: _ | .closing :: _ => some (before, groups, tokens)
    -- What repeats nothing is passed over.
    | .times _ _ :: rest => parseSequence steps groups before rest
    | .atom regex :: rest => parseRepeated steps groups before regex rest
    | .opening :: rest => do
      -- A group has its number from where it opens, so those inside of it come later.
      let (inner, next, rest) ← parseBranches steps (groups + 1) rest
      match rest with
      | .closing :: rest => parseRepeated steps next before (.group groups inner) rest
      | _ => none

/-- The repetitions of a part of a branch, and what follows it. -/
def parseRepeated : Nat → Nat → Regex → Regex → List RegexToken →
    Option (Regex × Nat × List RegexToken)
  | 0, _, _, _, _ => none
  | steps + 1, groups, before, last, tokens =>
    match tokens with
    | .times least most :: rest =>
      parseRepeated steps groups before (.repeated last least most) rest
    | tokens => parseSequence steps groups (.sequence before last) tokens

end

/-- The regular expression that a text spells. -/
def Regex.read? (extended : Bool) (text : List Char) : Option Regex := do
  let tokens ← regexTokens extended text.length none text
  let (regex, _, rest) ← parseBranches (3 * tokens.length + 3) 1 tokens
  if rest.isEmpty then return regex else none

/-- A place in a text: the character before it, the text ahead, and the groups found so far. -/
structure Place where
  before : Option Char
  rest : List Char
  groups : List (Nat × List Char)
deriving DecidableEq, Repr

namespace Place

/-- The place behind the next character. -/
def next (place : Place) : Place :=
  { place with before := place.rest.head? <|> place.before, rest := place.rest.drop 1 }

/-- Whether the place is at an edge of a word. -/
def edge (place : Place) : Bool × Bool :=
  let before := place.before.any isWordChar
  let after := place.rest.head?.any isWordChar
  (!before && after, before && !after)

/-- Some places with only the first of those that have the same text ahead. -/
def distinct (places : List Place) : List Place :=
  places.foldl (fun kept place =>
    if kept.any (·.rest.length == place.rest.length) then kept else kept ++ [place]) []

end Place

/-- The places that a step leads to when it is repeated, more of it first. -/
def repeatPlaces (step : Place → List Place) : Nat → Nat → Option Nat → Place → List Place
  | 0, least, _, place => if least = 0 then [place] else []
  | rounds + 1, least, most, place =>
    let further :=
      if most = some 0 then []
      else
        let nexts := (step place).filter fun next =>
          -- A round that takes nothing is only worth something while rounds are still owed.
          next.rest.length < place.rest.length || 0 < least
        nexts.flatMap (repeatPlaces step rounds (least - 1) (most.map (· - 1)))
    -- More rounds come first, since the first of several places is preferred.
    Place.distinct (further ++ if least = 0 then [place] else [])

/-- The places that an expression leads to from a place, the preferred ones first. -/
def Regex.places (sameCase : Char → Char) : Regex → Place → List Place
  | .nothing, place => [place]
  | .exactly c, place =>
    if place.rest.head?.any (sameCase · == sameCase c) then [place.next] else []
  | .any, place => if place.rest.head?.any (!isStray ·) then [place.next] else []
  | .set negated members, place =>
    -- A set of one case also has the letters of the other where both count as the same.
    let cases (c : Char) : List Char := [c, c.toLower, c.toUpper].filter (sameCase · == sameCase c)
    let has (c : Char) : Bool := members.any fun member => (cases c).any member.has
    if place.rest.head?.any fun c => !isStray c && has c != negated then [place.next] else []
  | .lineStart, place => if place.before.isNone then [place] else []
  | .lineEnd, place => if place.rest.isEmpty then [place] else []
  | .wordEdge atStart atEnd, place =>
    if (atStart && place.edge.1) || (atEnd && place.edge.2) then [place] else []
  | .noWordEdge, place => if place.edge = (false, false) then [place] else []
  | .noWordBefore, place => if place.before.any isWordChar then [] else [place]
  | .noWordAfter, place => if place.rest.head?.any isWordChar then [] else [place]
  | .group number inner, place =>
    (inner.places sameCase place).map fun after =>
      let text := place.rest.take (place.rest.length - after.rest.length)
      -- A group that is gone through again has the text of its last round.
      { after with groups := (number, text) :: after.groups.filter (·.1 != number) }
  | .again number, place =>
    match place.groups.lookup number with
    | some text =>
      let ahead := place.rest.take text.length
      if ahead.map sameCase == text.map sameCase then
        [{ place with
          before := text.getLast? <|> place.before, rest := place.rest.drop text.length }]
      else []
    -- A group that was not gone through matches nothing, not even an empty text.
    | none => []
  | .sequence first second, place =>
    Place.distinct ((first.places sameCase place).flatMap (second.places sameCase))
  | .either first second, place =>
    Place.distinct (first.places sameCase place ++ second.places sameCase place)
  | .repeated inner least most, place =>
    repeatPlaces (inner.places sameCase) (place.rest.length + least + 1) least most place

/-- A match: the text before it, the matched text, the text after it, and the groups. -/
structure Match where
  before : List Char
  text : List Char
  rest : List Char
  groups : List (Nat × List Char)
deriving DecidableEq, Repr

/-- The longest match at a place, the preferred one of these. -/
def Regex.matchAt? (regex : Regex) (anyCase : Bool) (place : Place) : Option Match :=
  let sameCase (c : Char) : Char := if anyCase then c.toLower else c
  (regex.places sameCase place).foldl (fun best after =>
    let found : Match := ⟨[], place.rest.take (place.rest.length - after.rest.length), after.rest,
      after.groups⟩
    match best with
    -- Of two that are as long, the one found first is kept.
    | some earlier => if earlier.text.length < found.text.length then some found else best
    | none => some found) none

/-- The first match from a place on, where a character stands before it, or none. -/
def Regex.find? (regex : Regex) (anyCase : Bool) (before : Option Char) :
    List Char → Option Match
  | [] => regex.matchAt? anyCase ⟨before, [], []⟩
  | c :: rest =>
    match regex.matchAt? anyCase ⟨before, c :: rest, []⟩ with
    -- A match further on does not count, however long it is.
    | some found => some found
    | none => (regex.find? anyCase (some c) rest).map fun found =>
      { found with before := c :: found.before }

/-- The longest of the matches at the first place is found. -/
example : ((Regex.read? true "a|ab|b+".toList).bind fun regex =>
    (regex.find? false none "xabb".toList).map (·.text)) = some ['a', 'b'] := by
  rfl

end Themer.Script
