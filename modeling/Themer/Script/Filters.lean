import Themer.Script.Files
import Themer.Script.Format
import Themer.Script.Pattern
import Themer.Script.Pieces

/-! The programs that read texts line by line or piece by piece, and write others. -/

namespace Themer.Script

/-- Writes some lines. -/
def writeLines (lines : List Chars) : Act Unit :=
  Act.write 1 (lines.flatMap (· ++ ['\n']))

/-- A number at the right end of a field of some width. -/
def rightAligned (width n : Nat) : Chars :=
  let digits := decimal n
  List.replicate (width - digits.length) ' ' ++ digits

/-- Writes a text to a file. -/
def writeToFile (program : String) (name text : Chars) : Act Nat := do
  match (← get).disk.writeFile (pathOf name) (bytesOf text) with
  | .ok disk =>
    modify ({ · with disk })
    return 0
  | .error e =>
    let cause := match e with
      | .os e => e.cause.text
      -- A name of the shell has no character that is not passed on.
      | _ => ""
    Act.report program (name ++ ": ".toList ++ cause.toList)
    return 1

/-- Whether a name is one of a file that has something in it, and that the output goes to. -/
def isOutput (shell : Shell) (name : Chars) : Bool :=
  match shell.stream? 1, shell.spot name with
  | some (_, .file location _ _), .ok (.taken place (.file content _)) =>
    location == place && !content.isEmpty
  | _, _ => false

/-- Writes the texts of files one after the other. -/
def concatenate : Program := fun words =>
  withOptions "cat" "" "nbsEATuvet" true words fun options => do
    let shell ← get
    let inputs := Act.inputsOf options.words
    -- A file that grows while it is read would never come to its end.
    let failures ← (inputs.filter (isOutput shell)).mapM fun name =>
      Act.report "cat" (name ++ ": input file is output file".toList)
    let (texts, failed) ← Act.textsOfInputs "cat" (inputs.filter (!isOutput shell ·))
    let status := if failures.isEmpty then failed else 1
    let text := if (inputs.filter (!isOutput shell ·)).isEmpty then [] else texts.flatten
    let marked (line : Chars) : Chars :=
      let ends := options.has 'E' || options.has 'A' || options.has 'e'
      let tabs := options.has 'T' || options.has 'A' || options.has 't'
      line.flatMap fun c =>
        if c = '\n' && ends then ['$', '\n'] else if c = '\t' && tabs then ['^', 'I'] else [c]
    let isBlank (line : Chars) : Bool := line == ['\n']
    let rec squeeze : List Chars → List Chars
      | first :: second :: rest =>
        if isBlank first && isBlank second then squeeze (second :: rest)
        else first :: squeeze (second :: rest)
      | lines => lines
    let rec number (n : Nat) : List Chars → Chars
      | [] => []
      | line :: rest =>
        -- A blank line takes no number away from the others.
        if options.has 'b' && isBlank line then marked line ++ number n rest
        else rightAligned 6 n ++ '\t' :: marked line ++ number (n + 1) rest
    let lines := if options.has 's' then squeeze (linesWithEnds text) else linesWithEnds text
    Act.write 1 <|
      if options.has 'n' || options.has 'b' then number 1 lines else lines.flatMap marked
    return status

/-- The part that an end of a text has, counted in lines or bytes. -/
structure Portion where
  count : Nat
  isBytes : Bool
  isReversed : Bool
deriving DecidableEq, Repr

/-- The first part of a text; a reversed count is of what it leaves out. -/
def Portion.ofStart (portion : Portion) (text : Chars) : Chars :=
  let cut {α : Type} (items : List α) : List α :=
    items.take (if portion.isReversed then items.length - portion.count else portion.count)
  if portion.isBytes then cut text else (cut (linesWithEnds text)).flatten

/-- The last part of a text; a reversed count is of where it starts. -/
def Portion.ofEnd (portion : Portion) (text : Chars) : Chars :=
  let cut {α : Type} (items : List α) : List α :=
    items.drop (if portion.isReversed then portion.count - 1 else items.length - portion.count)
  if portion.isBytes then cut text else (cut (linesWithEnds text)).flatten

/-- Writes a part of each input, under a heading if there are more than one. -/
def writePortions (program : String) (reversing : Char) (part : Portion → Chars → Chars) :
    Program := fun words => do
  -- A bare number stands for as many lines.
  let bare? := match words with
    | ('-' :: d :: digits) :: _ => if (d :: digits).all Char.isDigit then some (d :: digits) else none
    | _ => none
  if let some digits := bare? then
    if program = "tail" && words.length > 2 then
      Act.report program ("option used in invalid context -- ".toList ++ digits)
      return 1
  let words := match bare? with
    | some digits => ['-', 'n'] :: digits :: words.drop 1
    | none => words
  withOptions program "nc" "qv" true words fun options => do
    let isBytes := options.has 'c'
    let spelled := ((options.argument? (if isBytes then 'c' else 'n')).getD ['1', '0'])
    -- The sign that turns a count around differs from program to program.
    let isReversed := spelled.head? = some reversing
    let isSigned := spelled.head?.any fun c => c == '-' || c == '+'
    let digits := if isSigned then spelled.drop 1 else spelled
    match (String.ofList digits).toNat? with
    | none =>
      let kind := if isBytes then "invalid number of bytes: " else "invalid number of lines: "
      Act.report program (kind.toList ++ bentQuotes spelled)
      return 1
    | some count =>
      let names := Act.inputsOf options.words
      let hasHeadings := (names.length > 1 || options.has 'v') && !options.has 'q'
      let head (name : Chars) (isFirst : Bool) : Act Unit := do
        if hasHeadings then
          let shown := if name = ['-'] then "standard input".toList else name
          Act.write 1 <|
            (if isFirst then [] else ['\n']) ++ "==> ".toList ++ shown ++ " <==\n".toList
      let mut isFirst := true
      let mut status := 0
      for name in names do
        let content ←
          if name = ['-'] then do pure (.ok (← Act.readAll 0))
          else do pure (((← get).content name).map charsOf)
        match content with
        | .ok text =>
          head name isFirst
          isFirst := false
          Act.write 1 (part ⟨count, isBytes, isReversed⟩ text)
        -- It can be opened, and only the reading fails, so its heading stands already.
        | .error .isDirectory =>
          head name isFirst
          isFirst := false
          if count ≠ 0 || isReversed then
            Act.report program ("error reading ".toList ++ quotedName name ++
              ": Is a directory".toList)
            status := 1
        | .error cause =>
          Act.report program ("cannot open ".toList ++ quotedName name ++ " for reading: ".toList ++
            cause.text.toList)
          status := 1
      return status

/-- The number of words in a text. -/
def wordCount (text : Chars) : Nat :=
  let isSpace (c : Char) : Bool := c == ' ' || ('\t' ≤ c && c ≤ '\r')
  (text.foldl (fun (count, inWord) c =>
    if isSpace c then (count, false) else (if inWord then count else count + 1, true))
    (0, false)).1

/-- Counts lines, words and bytes. -/
def countAll : Program := fun words =>
  withOptions "wc" "" "lwcmL" true words fun options => do
    let letters := ['l', 'w', 'm', 'c', 'L'].filter options.has
    -- The columns come in an order of their own, whatever order they are asked for in.
    let letters := if letters.isEmpty then ['l', 'w', 'c'] else letters
    let counts (text : Chars) : List Nat := letters.map fun letter => match letter with
      | 'l' => text.count '\n'
      | 'w' => wordCount text
      -- Each character has one byte that does not continue another.
      | 'm' => (text.filter fun c => c.toNat < 128 || 192 ≤ c.toNat).length
      | 'L' => ((linesIn text).map List.length).foldl max 0
      | _ => text.length
    let names := Act.inputsOf options.words
    let shell ← get
    let texts ← names.mapM (Act.textOfInput "wc")
    let isFile (name : Chars) : Bool :=
      if name = ['-'] then match shell.stream? 0 with
        | some (_, .file _ _ _) => true
        | _ => false
      else match shell.at? name with
        | some (.file _ _) => true
        | found => found.isNone
    let size := (texts.filterMap id).flatten.length
    let width :=
      -- A single number is not lined up with anything.
      if names.length = 1 && letters.length = 1 then 1
      else if names.all isFile then (decimal size).length else 7
    let line (numbers : List Nat) (name : Chars) : Chars :=
      [' '].intercalate (numbers.map (rightAligned width)) ++
        if name.isEmpty then [] else ' ' :: name
    let shownName (name : Chars) : Chars := if options.words.isEmpty then [] else name
    for (name, text?) in names.zip texts do
      match text? with
      | some text => writeLines [line (counts text) (shownName name)]
      | none =>
        if shell.at? name = some .directory then
          writeLines [line (letters.map fun _ => 0) (shownName name)]
    if names.length > 1 then
      let totals := letters.zipIdx.map fun (letter, column) =>
        (texts.filterMap id).foldl (fun total text =>
          let count := (counts text)[column]?.getD 0
          if letter = 'L' then max total count else total + count) 0
      writeLines [line totals "total".toList]
    return if texts.any Option.isNone then 1 else 0

/-- The number in front of a text, with the digits behind its point, for an order of numbers. -/
def leadingNumber (text : Chars) : Int × Chars :=
  let body := text.dropWhile fun c => c == ' ' || c == '\t'
  let (negated, digits) := match body with
    | '-' :: rest => (true, rest)
    | rest => (false, rest)
  let whole : Int := (digits.takeWhile Char.isDigit).foldl (fun n c => n * 10 + (c.toNat - 48)) 0
  let fraction := match digits.dropWhile Char.isDigit with
    | '.' :: rest => rest.takeWhile Char.isDigit
    | _ => []
  (if negated then -whole else whole, fraction)

/-- A key that lines are put in order by: its first and last fields, and its own letters. -/
structure SortKey where
  first : Nat
  last : Option Nat
  letters : Chars
deriving DecidableEq, Repr

/-- The key that a text spells. -/
def SortKey.read (text : Chars) : SortKey :=
  let number (text : Chars) : Nat := (String.ofList (text.takeWhile Char.isDigit)).toNat?.getD 0
  let (first, rest) := (text.takeWhile (· != ','), text.dropWhile (· != ','))
  let last := rest.drop 1
  let letters := first.filter Char.isAlpha ++ last.filter Char.isAlpha
  ⟨number first, if last.isEmpty then none else some (number last), letters⟩

/-- The fields of a line; without a separator each has the blanks in front of it. -/
def sortFields (separator : Option Char) (line : Chars) : List Chars :=
  match separator with
  | some c => splitAt c line
  | none =>
    let rec go (begun : Chars) : Chars → List Chars
      | [] => [begun.reverse]
      | c :: rest =>
        let isBlank := c == ' ' || c == '\t'
        let wasBlank := match begun with
          | [] => true
          | d :: _ => d == ' ' || d == '\t'
        -- The blanks in front of a field belong to it.
        if isBlank && !wasBlank then begun.reverse :: go [c] rest else go (c :: begun) rest
    go [] line

/-- The part of a line that a key looks at. -/
def SortKey.part (key : SortKey) (separator : Option Char) (line : Chars) : Chars :=
  let fields := (sortFields separator line).drop (key.first - 1)
  let fields := match key.last with
    | some last => fields.take (last + 1 - key.first)
    | none => fields
  (match separator with
    | some c => [c]
    | none => []).intercalate fields

/-- The order of two texts as some letters want it. -/
def compareBy (letters : Chars) (a b : Chars) : Ordering :=
  let ordering :=
    if letters.contains 'n' then
      let (first, second) := (leadingNumber a, leadingNumber b)
      (compare first.1 second.1).then (compareOfLessAndEq first.2 second.2)
    else
      -- Only where texts are compared, for a number passes over blanks by itself.
      let folded (text : Chars) : Chars :=
        let text := if letters.contains 'b' then text.dropWhile (· == ' ') else text
        if letters.contains 'f' then text.map Char.toUpper else text
      compareOfLessAndEq (folded a) (folded b)
  if letters.contains 'r' then ordering.swap else ordering

/-- Tells of the first line that is out of order, if there is one. -/
def checkOrder (name : Chars) (inOrder : Chars → Chars → Bool) : Nat → List Chars → Act Nat
  | number, first :: second :: rest =>
    if inOrder first second then checkOrder name inOrder (number + 1) (second :: rest)
    else do
      Act.report "sort" <|
        name ++ ':' :: decimal (number + 1) ++ ": disorder: ".toList ++ second
      return 1
  | _, _ => return 0

/-- Puts lines in order. -/
def sortLines : Program := fun words =>
  withOptions "sort" "kto" "nrufbscmdgVhz" true words fun options => do
    if let some extra := if options.has 'c' then options.words[1]? else none then
      Act.report "sort" ("extra operand ".toList ++ quotedName extra ++ " not allowed with -c".toList)
      return 2
    let (texts, failed) ← (do
      let names := Act.inputsOf options.words
      let texts ← names.mapM fun name => do
        if name = ['-'] then return some (← Act.readAll 0)
        match (← get).content name with
        | .ok bytes => return some (charsOf bytes)
        | .error cause =>
          Act.report "sort" <|
            (if cause = .isDirectory then "read failed: " else "cannot read: ").toList ++ name ++
              ": ".toList ++ cause.text.toList
          return none
      return (texts.filterMap id, texts.any Option.isNone) : Act (List Chars × Bool))
    if failed then return 2
    let lines := texts.flatMap linesIn
    let separator := (options.argument? 't').bind List.head?
    let own := ['n', 'r', 'f', 'b'].filter options.has
    let keys := (options.letters.filter (·.1 == 'k')).map fun (_, text) => SortKey.read text
    let compareKeys (a b : Chars) : Ordering :=
      if keys.isEmpty then compareBy own a b
      else keys.foldl (fun ordering key =>
        let letters := if key.letters.isEmpty then own else key.letters
        ordering.then (compareBy letters (key.part separator a) (key.part separator b))) .eq
    -- Lines with the same keys are told apart by all of their text, unless that is turned off.
    let last (a b : Chars) : Ordering :=
      if options.has 'u' || options.has 's' then .eq else compareBy (own.filter (· == 'r')) a b
    if options.has 'c' then
      return ← checkOrder (options.words.head?.getD ['-']) (fun a b =>
        if options.has 'u' then compareKeys a b == .lt
        else (compareKeys a b).then (last a b) != .gt) 1 lines
    let sorted := lines.mergeSort fun a b => (compareKeys a b).then (last a b) != .gt
    let rec distinct : List Chars → List Chars
      | first :: second :: rest =>
        if compareKeys first second = .eq then
          match distinct (second :: rest) with
          | _ :: more => first :: more
          | [] => [first]
        else first :: distinct (second :: rest)
      | lines => lines
    let result := if options.has 'u' then distinct sorted else sorted
    match options.argument? 'o' with
    | none => writeLines result; return 0
    | some name => writeToFile "sort" name (result.flatMap (· ++ ['\n']))

/-- Lines in a row that are the same, with their number. -/
def runsOf (same : Chars → Chars → Bool) : List Chars → List (Nat × Chars)
  | [] => []
  | line :: rest =>
    match runsOf same rest with
    -- The run behind the line goes on with it or ends in front of it.
    | (count, next) :: more =>
      if same line next then (count + 1, line) :: more else (1, line) :: (count, next) :: more
    | [] => [(1, line)]

/-- Writes lines that come in a row only once. -/
def uniqueLines : Program := fun words =>
  withOptions "uniq" "fsw" "cdui" true words fun options => do
    if let some extra := options.words[2]? then
      return ← Act.misuse "uniq" 1 ("extra operand ".toList ++ bentQuotes extra)
    let (texts, status) ← Act.textsOfInputs "uniq" (options.words.take 1)
    if status ≠ 0 then return 1
    let same (a b : Chars) : Bool :=
      if options.has 'i' then a.map Char.toLower == b.map Char.toLower else a == b
    let kept := (runsOf same (linesIn texts.flatten)).filter fun (count, _) =>
      (!options.has 'd' || 1 < count) && (!options.has 'u' || count = 1)
    let lines := kept.map fun (count, line) =>
      if options.has 'c' then rightAligned 7 count ++ ' ' :: line else line
    match options.words[1]? with
    | none => writeLines lines; return 0
    | some name => writeToFile "uniq" name (lines.flatMap (· ++ ['\n']))

/-- The range of numbers that a text spells, or what is wrong with it. -/
def rangeOf (isFields : Bool) (range : Chars) : Except Chars (Nat × Option Nat) :=
  let first := range.takeWhile (· != '-')
  let last? := match range.dropWhile (· != '-') with
    | [] => none
    | _ :: last => some last
  let number (digits : Chars) : Option Nat := (String.ofList digits).toNat?
  let kind := if isFields then "field value " else "byte/character position "
  if !(first ++ last?.getD []).all Char.isDigit then
    .error ("invalid ".toList ++ kind.toList ++ bentQuotes range)
  else if number first = some 0 || (first.isEmpty && last? = none) then
    .error (if isFields then "fields are numbered from 1"
      else "byte/character positions are numbered from 1").toList
  else match last? with
    | none => .ok ((number first).getD 1, number first)
    | some last =>
      if first.isEmpty && last.isEmpty then .error "invalid range with no endpoint: -".toList
      else if (number last).any fun last => last < (number first).getD 1 then
        .error "invalid decreasing range".toList
      else .ok ((number first).getD 1, number last)

/-- Writes parts of lines. -/
def cutLines : Program := fun words =>
  withOptions "cut" "dfcbO" "snC" true words fun options => do
    let isFields := options.has 'f'
    let list? := ['f', 'c', 'b'].findSome? options.argument?
    match list? with
    | none =>
      Act.misuse "cut" 1 "you must specify a list of bytes, characters, or fields".toList
    | some [] =>
      let letter := (['f', 'c', 'b'].find? options.has).getD 'f'
      Act.misuse "cut" 1 ("option requires an argument -- '".toList ++ [letter, '\''])
    | some list =>
      if (options.argument? 'd').any (·.length > 1) then
        return ← Act.misuse "cut" 1 "the delimiter must be a single character".toList
      let ranges ← match (splitAt ',' list).mapM (rangeOf isFields) with
        | .ok ranges => pure ranges
        | .error text => return ← Act.misuse "cut" 1 text
      let isInverted := options.has 'C'
      let isKept (place : Nat) : Bool :=
        (ranges.any fun (first, last?) => first ≤ place && last?.all (place ≤ ·)) != isInverted
      let kept {α : Type} (items : List α) : List α :=
        (items.zipIdx 1).filterMap fun (item, place) => if isKept place then some item else none
      let separator := ((options.argument? 'd').bind List.head?).getD '\t'
      let (texts, status) ← Act.textsOfInputs "cut" options.words
      writeLines <| (texts.flatMap linesIn).filterMap fun line =>
        if !isFields then some (kept line)
        -- A line that has no fields is kept as a whole or not at all.
        else if !line.contains separator then if options.has 's' then none else some line
        else some (((options.argument? 'O').getD [separator]).intercalate
          (kept (splitAt separator line)))
      return status

/-- The set in brackets that repeats a character, up to the size of another set, if one is. -/
def repeatedSet? (size : Nat) (text : Chars) : Option (Chars × Chars) :=
  match text with
  | c :: '*' :: rest =>
    let digits := rest.takeWhile Char.isDigit
    match rest.drop digits.length with
    | ']' :: after =>
      let count := ((String.ofList digits).toNat?.filter (· != 0)).getD size
      some (List.replicate count c, after)
    | _ => none
  | _ => none

/-- The first range whose ends are in the wrong order, if a set has one. -/
def wrongRange? : Chars → Option Chars
  | c :: '-' :: d :: rest => if d < c then some [c, '-', d] else wrongRange? rest
  | _ :: rest => wrongRange? rest
  | [] => none

/-- The characters that a set spells, for at most so many steps. -/
def spelledSet : Nat → Chars → Chars
  | 0, _ => []
  | _ + 1, [] => []
  | steps + 1, '[' :: ':' :: rest =>
    let name := rest.takeWhile Char.isAlpha
    match rest.drop name.length with
    | ':' :: ']' :: after =>
      let members := ((List.range 256).map Char.ofNat).filter (classHas (String.ofList name))
      members ++ spelledSet steps after
    | _ => '[' :: spelledSet steps (':' :: rest)
  | steps + 1, c :: rest =>
    let (first, after) := if c = '\\' && !rest.isEmpty then readPlain rest else (c, rest)
    match after with
    | '-' :: d :: more =>
      let (last, after) := if d = '\\' && !more.isEmpty then readPlain more else (d, more)
      let between := (List.range (last.toNat + 1 - first.toNat)).map fun n =>
        Char.ofNat (first.toNat + n)
      between ++ spelledSet steps after
    | after => first :: spelledSet steps after
where
  /-- The character that an escape behind its backslash stands for; others stand for themselves. -/
  readPlain (text : Chars) : Char × Chars :=
    match text with
    | c :: rest =>
      if isOctal c || (escapeLetters.lookup c).isSome then readEscape text else (c, rest)
    | [] => ('\\', [])

/-- A text with characters of a set that come in a row only once. -/
def squeezed (set : Chars) : Chars → Chars
  | first :: second :: rest =>
    if first = second && set.contains first then squeezed set (second :: rest)
    else first :: squeezed set (second :: rest)
  | text => text

/-- Puts characters in the place of others. -/
def exchangeCharacters : Program := fun words =>
  withOptions "tr" "" "cCdst" false words fun options => do
    let isDeleting := options.has 'd'
    let setOf (text : Chars) : Chars := spelledSet text.length text
    match options.words with
    | [] => Act.misuse "tr" 1 "missing operand".toList
    | first :: more =>
      -- A second set is for what is put in place, or for what is squeezed afterwards.
      let most := if isDeleting && !options.has 's' then 0 else 1
      if let some extra := more[most]? then
        Act.report "tr" ("extra operand ".toList ++ bentQuotes extra)
        if most = 0 then
          Act.write 2 <|
            "Only one string may be given when deleting without squeezing repeats.\n".toList
        Act.write 2 "Try 'tr --help' for more information.\n".toList
        return 1
      if let some range := (first :: more).findSome? wrongRange? then
        Act.report "tr" <| "range-endpoints of ".toList ++ quotedName range ++
          " are in reverse collating sequence order".toList
        return 1
      if more.isEmpty && !isDeleting && !options.has 's' then
        Act.report "tr" ("missing operand after ".toList ++ bentQuotes first)
        Act.write 2 "Two strings must be given when translating.\n".toList
        Act.write 2 "Try 'tr --help' for more information.\n".toList
        return 1
      let target :=
        let text := more.head?.getD []
        -- The rest of the first set is met by the character that a bracket repeats.
        match text.span (· != '[') with
        | (before, _ :: rest) =>
          let before := setOf before
          match repeatedSet? ((setOf first).length - before.length) rest with
          | some (repeated, after) => before ++ repeated ++ setOf after
          | none => setOf text
        | _ => setOf text
      let spelled :=
        if options.has 't' then (setOf first).take target.length else setOf first
      let isIn (c : Char) : Bool := spelled.contains c != (options.has 'c' || options.has 'C')
      let text ← Act.readAll 0
      let change (c : Char) : Char :=
        if !isIn c then c
        -- The characters outside of a set have no places, so all of them become the same one.
        else if options.has 'c' || options.has 'C' then target.getLast?.getD c
        else
          -- The last of the places counts, and the last character stands for all that lack one.
          let place := spelled.length - 1 - (spelled.reverse.idxOf c)
          (target[place]? <|> target.getLast?).getD c
      let changed :=
        if isDeleting then text.filter fun c => !isIn c
        else if more.isEmpty then text else text.map change
      let result :=
        if !options.has 's' then changed
        else if more.isEmpty then
          squeezed ((List.range 256).map Char.ofNat |>.filter isIn) changed
        else squeezed target changed
      Act.write 1 result
      return 0

/-- Writes the input to files too. -/
def copyInput : Program := fun words =>
  withOptions "tee" "" "ai" true words fun options => do
    let text ← Act.readAll 0
    let status ← Act.forAll options.words fun name => do
      let content := ((← get).content name).toOption.getD []
      -- What was there is read before it is written over.
      let before := if options.has 'a' then content else []
      writeToFile "tee" name (charsOf before ++ text)
    Act.write 1 text
    return status

/-- Writes the lines of inputs changed by a function of all of them. -/
def changeLines (program : String) (refusal : Chars → OsCause → Chars)
    (change : List Chars → List Chars) : Program := fun words =>
  withOptions program "" "" true words fun options =>
    Act.forAll (Act.inputsOf options.words) fun name => do
      let content ←
        if name = ['-'] then do pure (.ok (← Act.readAll 0))
        else do pure (((← get).content name).map charsOf)
      match content with
      | .ok text =>
        Act.write 1 (change (linesWithEnds text)).flatten
        return 0
      | .error cause =>
        Act.report program (refusal name cause)
        return 1

/-- Writes the lines of inputs, the last one first. -/
def writeBackwards : Program :=
  changeLines "tac" (fun name cause =>
    if cause = .isDirectory then name ++ ": read error: Invalid argument".toList
    else "failed to open ".toList ++ quotedName name ++ " for reading: ".toList ++
      cause.text.toList) List.reverse

/-- A line with its characters in the other order, each kept whole. -/
def reversedLine (line : Chars) : Chars :=
  let (body, ending) := (line.takeWhile (· != '\n'), line.dropWhile (· != '\n'))
  let isInside (c : Char) : Bool := '\x80' ≤ c && c < '\xC0'
  let step (pieces : List Chars) (c : Char) : List Chars :=
    match pieces with
    | piece :: more => if isInside c then (piece ++ [c]) :: more else [c] :: pieces
    | [] => [[c]]
  (body.foldl step []).flatten ++ ending

/-- Writes the lines of inputs, each with its characters in the other order. -/
def reverseLines : Program :=
  changeLines "rev" (fun name cause =>
    if cause = .isDirectory then name ++ ": Is a directory".toList
    else "cannot open ".toList ++ name ++ ": ".toList ++ cause.text.toList)
    (·.map reversedLine)

/-- The whole number that a word spells, if it does. -/
def integer? (word : Chars) : Option Int :=
  let (negated, digits) := match word with
    | '-' :: rest => (true, rest)
    | '+' :: rest => (false, rest)
    | rest => (false, rest)
  if digits.isEmpty || !digits.all Char.isDigit then none
  else
    let n : Int := digits.foldl (fun n c => n * 10 + (c.toNat - 48)) 0
    some (if negated then -n else n)

/-- Counts from a number to another. -/
def countUp : Program := fun words => do
  let isOption (word : Chars) : Bool := word.head? == some '-' && (integer? word).isNone
  let options := Options.read ['s', 'f'] false (words.takeWhile isOption ++
    if (words.takeWhile isOption).getLast? = some ['-', 's'] then
      (words.dropWhile isOption).take 1 else [])
  let operands := words.dropWhile isOption
  let operands :=
    if (words.takeWhile isOption).getLast? = some ['-', 's'] then operands.drop 1 else operands
  match operands.find? fun word => (integer? word).isNone with
  | some word => Act.misuse "seq" 1 ("invalid floating point argument: ".toList ++ bentQuotes word)
  | none => match operands.filterMap integer? with
    | [] => Act.misuse "seq" 1 "missing operand".toList
    | _ :: _ :: _ :: _ :: _ =>
      Act.misuse "seq" 1 ("extra operand ".toList ++ bentQuotes (operands[3]?.getD []))
    -- With no step it would never get there.
    | [_, 0, _] =>
      Act.misuse "seq" 1 <|
        "invalid Zero increment value: ".toList ++ bentQuotes (operands[1]?.getD [])
    | numbers =>
      let (first, step, last) : Int × Int × Int := match numbers with
        | [last] => (1, 1, last)
        | [first, last] => (first, 1, last)
        | first :: step :: last :: _ => (first, step, last)
        | [] => (1, 1, 0)
      let count :=
        if step = 0 then 0
        else if 0 < step then ((last - first + step) / step).toNat
        else ((first - last - step) / (-step)).toNat
      let values := (List.range count).map fun (n : Nat) => (toString (first + n * step)).toList
      let width := (values.map List.length).foldl max 0
      let shown := values.map fun digits =>
        if options.has 'w' then List.replicate (width - digits.length) '0' ++ digits else digits
      let separator := (options.argument? 's').getD ['\n']
      if !shown.isEmpty then Act.write 1 (separator.intercalate shown ++ ['\n'])
      return 0

/-- Writes a line again and again, until as much is written as a pipe holds. -/
def repeatLine : Program := fun words => do
  let line := if words.isEmpty then ['y'] else [' '].intercalate words
  writeLines (List.replicate (65536 / (line.length + 1)) line)
  return 0

/-- Writes the last parts of names, without an ending. -/
def baseNames : Program := fun words =>
  withOptions "basename" "s" "az" false words fun options => do
    let cut (ending name : Chars) : Chars :=
      let last := lastPart name
      -- A name is never cut down to nothing.
      if ending.isSuffixOf last && ending ≠ last then last.take (last.length - ending.length)
      else last
    if options.has 'a' || options.has 's' then
      writeLines (options.words.map (cut ((options.argument? 's').getD [])))
      return 0
    match options.words with
    | [] => Act.misuse "basename" 1 "missing operand".toList
    | [name] => writeLines [cut [] name]; return 0
    | [name, ending] => writeLines [cut ending name]; return 0
    | _ :: _ :: extra :: _ =>
      Act.misuse "basename" 1 ("extra operand ".toList ++ bentQuotes extra)

/-- Writes names without their last parts. -/
def directoryNames : Program := fun words =>
  withOptions "dirname" "" "z" true words fun options => do
    if options.words.isEmpty then return ← Act.misuse "dirname" 1 "missing operand".toList
    writeLines (options.words.map directoryPart)
    return 0

/-- Where a text ends that is shorter than the one it is compared with. -/
def endOfShorter (inLines : Bool) (text : Chars) : Chars :=
  let line := text.count '\n' + 1
  if text.isEmpty then " which is empty".toList
  else " after byte ".toList ++ decimal text.length ++
    if !inLines then []
    else if text.getLast? = some '\n' then ", line ".toList ++ decimal (line - 1)
    else ", in line ".toList ++ decimal line

/-- Tells where two texts differ, if they do: nothing, the first place, or all of them. -/
def tellDifference (options : Options) (a b first second : Chars) : Act Nat := do
  if first = second then return 0
  let pairs := (first.zip second).zipIdx 1
  let same := (pairs.takeWhile fun ((c, d), _) => c == d).length
  let showsAll := options.has 'l'
  if options.has 's' then return 1
  let octal (c : Char) : Chars :=
    let digits := Nat.toDigits 8 c.toNat
    List.replicate (3 - digits.length) ' ' ++ digits
  -- All places where both have a byte come before the end of the shorter one is told.
  if showsAll then
    let width := (decimal (min first.length second.length)).length
    let numberWidth := max width (decimal (max first.length second.length)).length
    writeLines <| (pairs.filter fun ((c, d), _) => c != d).map fun ((c, d), place) =>
      rightAligned numberWidth place ++ ' ' :: octal c ++ ' ' :: octal d
  if same = pairs.length || (showsAll && first.length ≠ second.length) then
    let (name, text) := if first.length < second.length then (a, first) else (b, second)
    Act.report "cmp" ("EOF on ".toList ++ name ++ endOfShorter (!showsAll) text)
  else if !showsAll then
    writeLines [a ++ ' ' :: b ++ " differ: char ".toList ++ decimal (same + 1) ++
      ", line ".toList ++ decimal ((first.take same).count '\n' + 1)]
  return 1

/-- Tells whether two files are the same, and where they start to differ. -/
def compareFiles : Program := fun words =>
  withOptions "cmp" "" "sl" true words fun options => do
    let misuse (text : Chars) : Act Nat := do
      Act.report "cmp" text
      Act.report "cmp" "Try 'cmp --help' for more information.".toList
      return 2
    if options.has 's' && options.has 'l' then
      return ← misuse "options -l and -s are incompatible".toList
    if let some extra := options.words[2]? then
      return ← misuse <| "invalid --ignore-initial value ".toList ++ quotedName extra
    let shell ← get
    match options.words with
    | [] => misuse "missing operand after 'cmp'".toList
    | a :: rest =>
      let b := rest.head?.getD ['-']
      let refuse (name : Chars) (cause : OsCause) : Act Nat := do
        Act.report "cmp" (name ++ ": ".toList ++ cause.text.toList)
        return 2
      let read (name : Chars) : Act (Except OsCause Chars) := do
        if name = ['-'] then return .ok (← Act.readAll 0) else return (shell.content name).map charsOf
      -- Both are opened before one is read, and a file is the same as itself.
      let absent? := [a, b].findSome? fun name =>
        if name = ['-'] then none
        else match shell.content name with
          | .ok _ | .error .isDirectory => none
          | .error cause => some (name, cause)
      match absent? with
      | some (name, cause) => refuse name cause
      | none =>
        -- Two names for one file are not read at all.
        let isSame := match shell.spot a, shell.spot b with
          | .ok (.taken first _), .ok (.taken second _) => a != ['-'] && first == second
          | _, _ => false
        if isSame then return 0
        match ← read a, ← read b with
        | .error cause, _ => refuse a cause
        | _, .error cause => refuse b cause
        | .ok first, .ok second => tellDifference options a b first second

/-- Writes its words, with escapes replaced only if so asked. -/
def echoWords : Program := fun words => do
  let isOption (word : Chars) : Bool :=
    word.length > 1 && word.head? == some '-' && (word.drop 1).all ['n', 'e', 'E'].contains
  let letters := (words.takeWhile isOption).flatten
  let text := [' '].intercalate (words.dropWhile isOption)
  let (shown, isCut) :=
    if letters.contains 'e' then unescape (text.length + 1) text else (text, false)
  Act.write 1 (if letters.contains 'n' || isCut then shown else shown ++ ['\n'])
  return 0

end Themer.Script
