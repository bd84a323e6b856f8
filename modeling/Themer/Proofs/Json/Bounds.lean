import Themer.Json.Reader

/-! What makes a document too much to read: a long run of digits, or values nested too deep. -/

namespace Themer.Json

/-- Whether no run of digits is longer than those that are read as a whole number. -/
def WithinDigits (document : List Char) : Prop :=
  ∀ run, run <:+: document → (∀ c ∈ run, isDigit c) → run.length ≤ digitLimit

/-- Where a place of a document is: in no string, in one, or behind a backslash in one. -/
inductive Mode
  | plain
  | quoted
  | escaped

/-- The most brackets and braces that are open at once from a place on where so many are. -/
def deepest : Mode → Nat → List Char → Nat
  | _, level, [] => level
  | .escaped, level, _ :: rest => deepest .quoted level rest
  | .quoted, level, c :: rest =>
    -- Brackets in a string are characters like all others.
    deepest (if c = '"' then .plain else if c = '\\' then .escaped else .quoted) level rest
  | .plain, level, c :: rest =>
    if c = '"' then deepest .quoted level rest
    else if c = '[' ∨ c = '\x7b' then deepest .plain (level + 1) rest
    else if c = ']' ∨ c = '\x7d' then max level (deepest .plain (level - 1) rest)
    else deepest .plain level rest

/-- How many lists and objects of a document lie in one another at most. -/
def nesting (document : List Char) : Nat := deepest .plain 0 document

/-- The levels that have to be left within all values: those that it takes to tell of a name. -/
def spareLevels : Nat := (Level.body :: complaintLevels).length

/-- Whether a document keeps the limits on digits and, where so many levels are left, on these. -/
structure WithinBounds (levels : Nat) (document : List Char) : Prop where
  digits : WithinDigits document
  levels : nesting document + spareLevels ≤ levels

/-- At every place at least the brackets are open that are open there already. -/
theorem le_deepest (mode : Mode) (level : Nat) (document : List Char) :
    level ≤ deepest mode level document := by
  induction document generalizing mode level with
  | nil => cases mode <;> exact Nat.le_refl level
  | cons c rest ih =>
    cases mode with
    | escaped => exact ih .quoted level
    | quoted => exact ih _ level
    | plain =>
      rw [deepest]
      split
      · exact ih .quoted level
      split
      · exact Nat.le_of_succ_le (ih .plain (level + 1))
      split
      · exact Nat.le_max_left _ _
      · exact ih .plain level

/-- Each character of a document opens one bracket at most. -/
theorem deepest_le (mode : Mode) (level : Nat) (document : List Char) :
    deepest mode level document ≤ level + document.length := by
  induction document generalizing mode level with
  | nil => cases mode <;> exact Nat.le_refl level
  | cons c rest ih =>
    have later := ih .plain
    have inString := ih .quoted level
    rw [List.length_cons]
    cases mode with
    | escaped => exact Nat.le_trans inString (by omega)
    | quoted => exact Nat.le_trans (ih _ level) (by omega)
    | plain =>
      rw [deepest]
      split
      · omega
      split
      · have := later (level + 1)
        omega
      split
      · have := later (level - 1)
        omega
      · have := later level
        omega

/-- A document that is shorter than the levels that are left keeps both limits. -/
theorem withinBounds_of_length_le {levels : Nat} {document : List Char}
    (short : document.length + spareLevels ≤ levels) (few : document.length ≤ digitLimit) :
    WithinBounds levels document where
  digits _ among _ := Nat.le_trans among.length_le few
  levels := by
    have most := deepest_le .plain 0 document
    rw [nesting]
    omega

/-- Whether a character neither opens nor closes anything. -/
def IsInert (c : Char) : Prop :=
  c ≠ '"' ∧ c ≠ '[' ∧ c ≠ '\x7b' ∧ c ≠ ']' ∧ c ≠ '\x7d'

instance (c : Char) : Decidable (IsInert c) :=
  inferInstanceAs (Decidable (_ ∧ _ ∧ _ ∧ _ ∧ _))

/-- What neither opens nor closes anything may be passed over. -/
theorem deepest_of_isInert {c : Char} (inert : IsInert c) (level : Nat) (rest : List Char) :
    deepest .plain level (c :: rest) = deepest .plain level rest := by
  obtain ⟨noQuote, noBracket, noBrace, noEnd, noBraceEnd⟩ := inert
  simp [deepest, noQuote, noBracket, noBrace, noEnd, noBraceEnd]

/-- What is left of a document when so many of the brackets open in it have been closed. -/
structure Behind (closed : Nat) (later document : List Char) : Prop where
  suffix : later <:+ document
  deepest_le (level : Nat) : deepest .plain level later ≤ deepest .plain (level + closed) document

namespace Behind

variable {closed : Nat} {later document : List Char}

/-- A document is left as a whole before it is read. -/
theorem refl (document : List Char) : Behind 0 document document :=
  ⟨List.suffix_rfl, fun _ => Nat.le_refl _⟩

/-- What is left of what is left is left of the whole. -/
theorem trans {more : Nat} {last : List Char} (second : Behind closed last later)
    (first : Behind more later document) : Behind (closed + more) last document :=
  ⟨second.suffix.trans first.suffix, fun level => by
    have above := first.deepest_le (level + closed)
    rw [Nat.add_assoc] at above
    exact Nat.le_trans (second.deepest_le level) above⟩

/-- What is passed over first does not close anything. -/
theorem of_passed {last : List Char} (second : Behind closed last later)
    (first : Behind 0 later document) : Behind closed last document :=
  second.trans first

/-- Characters that are inert are passed over. -/
theorem append {passed : List Char} (inert : ∀ c ∈ passed, IsInert c) (later : List Char) :
    Behind 0 later (passed ++ later) := by
  induction passed with
  | nil => exact .refl later
  | cons c rest ih =>
    obtain ⟨first, others⟩ := List.forall_mem_cons.mp inert
    have next := ih others
    refine ⟨next.suffix.trans (List.suffix_cons _ _), fun level => ?_⟩
    rw [List.cons_append, Nat.add_zero, deepest_of_isInert first]
    exact next.deepest_le level

/-- An inert character is passed over. -/
theorem cons {c : Char} (inert : IsInert c) (later : List Char) : Behind 0 later (c :: later) :=
  append (List.forall_mem_singleton.mpr inert) later

/-- Inert characters are passed over up to the first that is not among some of them. -/
theorem dropWhile {among : Char → Bool} (inert : ∀ c, among c = true → IsInert c)
    (document : List Char) : Behind 0 (document.dropWhile among) document := by
  have split : document = _ ++ document.dropWhile among := List.takeWhile_append_dropWhile.symm
  conv => rhs; rw [split]
  exact append (fun c inside => inert c (List.all_eq_true.mp List.all_takeWhile c inside)) _

/-- What closes a bracket leaves what follows it. -/
theorem of_closing {bracket : Char} (closes : bracket = ']' ∨ bracket = '\x7d')
    (later : List Char) : Behind 1 later (bracket :: later) := by
  refine ⟨List.suffix_cons _ _, fun level => ?_⟩
  rcases closes with rfl | rfl <;> exact Nat.le_max_right _ _

/-- With what opens a bracket in front, one less has been closed. -/
theorem of_opening {bracket : Char} {rest : List Char}
    (opens : bracket = '[' ∨ bracket = '\x7b') (behind : Behind 1 later rest) :
    Behind 0 later (bracket :: rest) := by
  refine ⟨behind.suffix.trans (List.suffix_cons _ _), fun level => ?_⟩
  have inside := behind.deepest_le level
  rcases opens with rfl | rfl <;> simpa [deepest] using inside

end Behind

/-- Whether a stop at a limit tells what the document has beyond it, for so many levels left. -/
def Stop.Justified (levels : Nat) (document : List Char) : Stop → Prop
  | .tooManyDigits _ => ¬ WithinDigits document
  | .tooDeep _ => ∀ level, levels + level < deepest .plain level document + spareLevels
  | .malformed _ _ | .repeated _ => True

/-- A stop that the rest of a document justifies is one that the document justifies. -/
theorem Stop.Justified.of_behind {levels : Nat} {later document : List Char} {stop : Stop}
    (behind : Behind 0 later document) (justified : stop.Justified levels later) :
    stop.Justified levels document := by
  cases stop with
  | tooManyDigits e =>
    exact fun within => justified fun run among =>
      within run (among.trans behind.suffix.isInfix)
  | tooDeep e =>
    exact fun level => Nat.lt_of_lt_of_le (justified level)
      (Nat.add_le_add_right (behind.deepest_le level) _)
  | malformed | repeated => trivial

/-- With few levels left, a stop for want of one is justified by any document. -/
theorem Stop.justified_of_lt {levels : Nat} (few : levels < spareLevels) (e : TooDeep)
    (document : List Char) : (Stop.tooDeep e).Justified levels document := fun level => by
  have least := le_deepest .plain level document
  omega

/-- Whether a reading leaves the rest of its document, or stops with a reason in that document. -/
def Reads {α : Type} (closed levels : Nat) (document : List Char) :
    Except Stop (α × List Char) → Prop
  | .ok (_, rest) => Behind closed rest document
  | .error stop => stop.Justified levels document

/-- Levels that are taken for a short time are missing only where few of them are left. -/
theorem justified_of_within {α : Type} {levels : Nat} {taken : List Level} {document : List Char}
    {outcome : Except Stop α} {stop : Stop} (few : taken.length ≤ spareLevels)
    (justified : ∀ own, outcome = .error own → own.Justified levels document)
    (failed : within levels taken outcome = .error stop) : stop.Justified levels document := by
  unfold within at failed
  split at failed
  · rename_i level missing
    cases failed
    obtain ⟨below, _⟩ := List.getElem?_eq_some_iff.mp missing
    exact Stop.justified_of_lt (Nat.lt_of_lt_of_le below few) _ document
  · exact justified stop failed

/-- What is malformed is told, or there are too few levels left for that. -/
theorem justified_of_raised {α : Type} {levels : Nat} {document rest : List Char} {cause : Cause}
    {stop : Stop} (told : (Stop.malformed cause rest).raised (α := α) levels = .error stop) :
    stop.Justified levels document := by
  unfold Stop.raised at told
  split at told
  · cases told
    trivial
  · refine justified_of_within (by decide) ?_ told
    rintro own ⟨⟩
    trivial
  · cases told
    trivial

namespace Reads

variable {α β : Type} {closed levels : Nat} {document later : List Char}

/-- A reading of the rest of a document is one of the document. -/
theorem of_behind {outcome : Except Stop (α × List Char)} (behind : Behind 0 later document)
    (reads : Reads closed levels later outcome) : Reads closed levels document outcome := by
  cases outcome with
  | ok result => exact Behind.trans reads behind
  | error stop => exact Stop.Justified.of_behind behind reads

/-- A reading may be followed by one of what it leaves. -/
theorem bind {more : Nat} {first : Except Stop (α × List Char)}
    {next : α × List Char → Except Stop (β × List Char)} (reads : Reads more levels document first)
    (goesOn : ∀ value rest, Behind more rest document →
      Reads closed levels document (next (value, rest))) :
    Reads closed levels document (first >>= next) := by
  cases first with
  | ok result => exact goesOn result.1 result.2 reads
  | error stop => exact reads

/-- A value may be worked out before, if that stops for a reason in the document or not at all. -/
theorem after {first : Except Stop β} {next : β → Except Stop (α × List Char)}
    (justified : ∀ stop, first = .error stop → stop.Justified levels document)
    (goesOn : ∀ value, Reads closed levels document (next value)) :
    Reads closed levels document (first >>= next) := by
  cases first with
  | ok value => exact goesOn value
  | error stop => exact justified stop rfl

/-- What is malformed stops a reading with a reason. -/
theorem of_raised (cause : Cause) (rest : List Char) :
    Reads closed levels document
      ((Stop.malformed cause rest).raised (α := α × List Char) levels) := by
  cases told : (Stop.malformed cause rest).raised (α := α × List Char) levels with
  | ok result =>
    unfold Stop.raised within at told
    split at told
    · cases told
    · split at told <;> cases told
    · cases told
  | error stop => exact justified_of_raised told

end Reads

/-- What is left after blanks is the rest of the document. -/
theorem behind_skipBlanks (document : List Char) : Behind 0 (skipBlanks document) document := by
  refine .dropWhile (fun c blank => ?_) document
  simp only [Bool.or_eq_true, beq_iff_eq] at blank
  rcases blank with ((rfl | rfl) | rfl) | rfl <;> decide

/-- What comes behind an inert character after blanks is left of the document as well. -/
theorem behind_of_skipBlanks {document after : List Char} {c : Char} (inert : IsInert c)
    (next : skipBlanks document = c :: after) : Behind 0 after document := by
  have behind := behind_skipBlanks document
  rw [next] at behind
  exact (Behind.cons inert after).of_passed behind

/-- What comes behind a closing bracket after blanks has one bracket less open. -/
theorem behind_of_closing {document after : List Char} {bracket : Char}
    (closes : bracket = ']' ∨ bracket = '\x7d') (next : skipBlanks document = bracket :: after) :
    Behind 1 after document := by
  have behind := behind_skipBlanks document
  rw [next] at behind
  exact (Behind.of_closing closes after).of_passed behind

/-- A hexadecimal digit neither ends a string nor begins an escape. -/
theorem deepest_of_hexValue? {c : Char} {value : Nat} (digit : Text.hexValue? c = some value)
    (level : Nat) (rest : List Char) :
    deepest .quoted level (c :: rest) = deepest .quoted level rest := by
  have noQuote : c ≠ '"' := by
    rintro rfl
    cases digit
  have noBackslash : c ≠ '\\' := by
    rintro rfl
    cases digit
  rw [deepest, if_neg noQuote, if_neg noBackslash]

/-- The four digits of a code are passed over in a string. -/
theorem deepest_of_hexCode? {digits rest : List Char} {code : Nat}
    (read : hexCode? digits = some code) (level : Nat) :
    deepest .quoted level (digits ++ rest) = deepest .quoted level rest := by
  unfold hexCode? at read
  split at read
  · split at read
    · rename_i first second third fourth
      simp only [List.cons_append, List.nil_append, deepest_of_hexValue? first,
        deepest_of_hexValue? second, deepest_of_hexValue? third, deepest_of_hexValue? fourth]
    · cases read
  · cases read

/-- What is skipped of a string is not looked at. -/
theorem readString_eq_drop (opening : List Char) (skipped : Nat) (document : List Char) :
    readString opening skipped document = readString opening 0 (document.drop skipped) := by
  induction document generalizing skipped with
  | nil => cases skipped <;> rfl
  | cons c rest ih =>
    cases skipped with
    | zero => rfl
    | succ skipped => exact ih skipped

/-- An escape for a code ends behind its digits, and takes along a second one at most. -/
theorem deepest_of_unicodeEscape {rest : List Char} {c : Char} {length : Nat}
    (read : unicodeEscape ('u' :: rest) = .ok (c, length)) (level : Nat) :
    deepest .quoted level (('u' :: rest).drop length) = deepest .escaped level ('u' :: rest) := by
  -- The four digits are the first characters behind the letter.
  have passed {digits : List Char} {code : Nat} (four : hexCode? (digits.take 4) = some code) :
      deepest .quoted level digits = deepest .quoted level (digits.drop 4) := by
    conv => lhs; rw [← List.take_append_drop 4 digits]
    exact deepest_of_hexCode? four level
  unfold unicodeEscape at read
  split at read
  · cases read
  · rename_i code found
    obtain ⟨digits, taken, four⟩ := Option.bind_eq_some_iff.mp found
    unfold escapeDigits? at taken
    split at taken <;> cases taken
    have first : deepest .escaped level ('u' :: rest) = deepest .quoted level (rest.drop 4) :=
      passed four
    dsimp only at read
    split at read
    · rename_i again
      obtain ⟨_, _, _, starts⟩ := again
      split at read
      · cases read
      · rename_i low second
        -- The second escape begins with a backslash and the letter, and then has four digits too.
        split at read <;> obtain ⟨-, rfl⟩ := Prod.mk.inj (Except.ok.inj read)
        · obtain ⟨more, behind⟩ : ∃ more, rest.drop 4 = '\\' :: 'u' :: more :=
            ⟨(rest.drop 4).drop 2, (List.take_append_drop 2 _).symm.trans
              (congrArg (· ++ (rest.drop 4).drop 2) starts)⟩
          have secondDigits : hexCode? (more.take 4) = some low := by
            rw [List.drop_succ_cons, behind] at second
            exact second
          have last : rest.drop 10 = more.drop 4 := by
            rw [show rest.drop 10 = (rest.drop 4).drop 6 by rw [List.drop_drop], behind]
            rfl
          rw [first, behind, List.drop_succ_cons, last, ← passed secondDigits]
          rfl
        · exact first.symm
    · cases read
      exact first.symm

/-- What an escape takes of a string has no bracket and no quote that counts. -/
theorem deepest_of_escape {document rest : List Char} {c : Char} {length : Nat}
    (read : escape document rest = .ok (c, length)) (level : Nat) :
    deepest .quoted level (rest.drop length) = deepest .escaped level rest := by
  unfold escape at read
  -- All escapes but that of a code are one character.
  split at read
  case h_9 => exact deepest_of_unicodeEscape read level
  case h_10 => cases read
  all_goals
    cases read
    rfl

/-- An escape that is none is malformed. -/
theorem malformed_of_escape {document rest : List Char} {stop : Stop}
    (failed : escape document rest = .error stop) :
    ∃ cause place, stop = .malformed cause place := by
  unfold escape at failed
  -- The marks that stand for one character never fail, so two cases are left.
  split at failed <;> try cases failed
  · unfold unicodeEscape at failed
    split at failed
    · cases failed
      exact ⟨_, _, rfl⟩
    · dsimp only at failed
      split at failed
      · split at failed
        · cases failed
          exact ⟨_, _, rfl⟩
        · split at failed <;> cases failed
      · cases failed
  · exact ⟨_, _, rfl⟩

/-- Whether a reading of a string comes to its end, or to something malformed. -/
def EndsString (document : List Char) : Except Stop (List Char × List Char) → Prop
  | .ok (_, rest) => rest <:+ document ∧
      ∀ level, deepest .plain level rest ≤ deepest .quoted level document
  | .error stop => ∃ cause place, stop = .malformed cause place

/-- A string is read to its quote, or something in it is malformed. -/
theorem endsString_readString (opening document : List Char) :
    EndsString document (readString opening 0 document) := by
  -- An escape takes several characters at once, so the induction is on how many are left.
  induction size : document.length using Nat.strongRecOn generalizing document with
  | ind size ih =>
    subst size
    cases document with
    | nil => exact ⟨_, _, rfl⟩
    | cons c rest =>
      -- The reading goes on behind some characters, which count for nothing in a string.
      have goesOn {skipped : Nat} (more : Char)
          (passed : ∀ level, deepest .quoted level (rest.drop skipped) =
            deepest .quoted level (c :: rest)) :
          EndsString (c :: rest) (do
            let part ← readString opening skipped rest
            return (more :: part.1, part.2)) := by
        rw [readString_eq_drop]
        have later := ih _ (Nat.lt_succ_of_le (by simp)) (rest.drop skipped) rfl
        cases read : readString opening 0 (rest.drop skipped) with
        | error stop =>
          rw [read] at later
          exact later
        | ok result =>
          rw [read] at later
          refine ⟨(later.1.trans (List.drop_suffix _ _)).trans (List.suffix_cons _ _),
            fun level => ?_⟩
          rw [← passed]
          exact later.2 level
      rw [readString]
      split
      · -- The quote that ends it.
        rename_i quote
        subst quote
        exact ⟨List.suffix_cons _ _, fun level => Nat.le_refl _⟩
      rename_i noQuote
      split
      · rename_i backslash
        subst backslash
        split
        · exact ⟨_, _, rfl⟩
        · cases escaped : escape ('\\' :: rest) rest with
          | error stop => exact malformed_of_escape escaped
          | ok result => exact goesOn result.1 fun level => deepest_of_escape escaped level
      rename_i noBackslash
      split
      · exact ⟨_, _, rfl⟩
      · refine goesOn c fun level => ?_
        rw [deepest, if_neg noQuote, if_neg noBackslash]
        rfl

/-- A string in a document leaves the rest of it. -/
theorem reads_readString (levels : Nat) (opening document : List Char) :
    Reads 0 levels ('"' :: document) (raising levels (readString opening 0 document)) := by
  have ends := endsString_readString opening document
  cases read : readString opening 0 document with
  | ok result =>
    rw [read] at ends
    exact ⟨ends.1.trans (List.suffix_cons _ _), ends.2⟩
  | error stop =>
    rw [read] at ends
    obtain ⟨cause, place, rfl⟩ := ends
    exact .of_raised cause place

/-- Digits neither open nor close anything. -/
theorem isInert_of_isDigit {c : Char} (digit : isDigit c = true) : IsInert c := by
  refine ⟨?_, ?_, ?_, ?_, ?_⟩ <;>
  · rintro rfl
    cases digit

/-- The whole part of a number is digits, and what follows it is the rest of the document. -/
theorem wholePart?_spec {document whole rest : List Char}
    (found : wholePart? document = some (whole, rest)) :
    document = whole ++ rest ∧ ∀ c ∈ whole, isDigit c := by
  unfold wholePart? at found
  -- A zero stands alone, and any other digit takes all the digits behind it along.
  split at found
  · cases found
    exact ⟨rfl, by simp [isDigit]⟩
  · split at found
    · cases found
      exact ⟨List.takeWhile_append_dropWhile.symm,
        List.all_eq_true.mp (List.all_takeWhile)⟩
    · cases found
  · cases found

/-- A fraction leaves the rest of the document. -/
theorem behind_fraction (document : List Char) : Behind 0 (fraction document).2 document := by
  unfold fraction
  split
  · -- A dot without digits is no fraction, and stays where it is.
    split
    · exact .refl _
    · exact (Behind.dropWhile (fun _ => isInert_of_isDigit) _).of_passed (.cons (by decide) _)
  · exact .refl _

/-- An exponent leaves the rest of the document. -/
theorem behind_exponent? {document after : List Char} {power : Int}
    (found : exponent? document = some (power, after)) : Behind 0 after document := by
  have digits (rest : List Char) : Behind 0 (rest.dropWhile isDigit) rest :=
    .dropWhile (fun _ => isInert_of_isDigit) rest
  unfold exponent? at found
  split at found
  · rename_i e rest
    split at found
    · rename_i letter
      have inert : IsInert e := by
        simp only [Bool.or_eq_true, decide_eq_true_eq] at letter
        rcases letter with rfl | rfl <;> decide
      dsimp only at found
      -- The sign, if there is one, comes before the digits.
      split at found <;> split at found <;> cases found
      · exact ((digits _).of_passed (.cons (by decide) _)).of_passed (.cons inert _)
      · exact ((digits _).of_passed (.cons (by decide) _)).of_passed (.cons inert _)
      · exact (digits _).of_passed (.cons inert _)
    · cases found
  · cases found

/-- A number leaves the rest of the document. -/
theorem behind_afterNumber (rest : List Char) : Behind 0 (afterNumber rest) rest := by
  unfold afterNumber
  -- The exponent is looked for behind the fraction, whether there is one or not.
  cases found : exponent? (fraction rest).2 with
  | none => simpa [found] using behind_fraction rest
  | some power =>
    simpa [found] using (behind_exponent? found).of_passed (behind_fraction rest)

/-- The value of a number stops at the limit on digits alone, and its whole part is beyond it. -/
theorem tooManyDigits_of_numberValue {negative : Bool} {whole rest : List Char} {stop : Stop}
    (failed : numberValue negative whole rest = .error stop) :
    digitLimit < whole.length ∧ ∃ e, stop = .tooManyDigits e := by
  unfold numberValue at failed
  dsimp only at failed
  -- Only a whole number is counted; with a fraction or an exponent any length will do.
  split at failed
  · split at failed
    · cases failed
    · rename_i e beyond
      cases failed
      unfold readNumeral at beyond
      split at beyond
      · rename_i more
        exact ⟨more, e, rfl⟩
      · cases beyond
  · cases failed

/-- The digits of a number are read to the end of it, or there are too many of them. -/
theorem reads_unsigned {levels : Nat} {digits document : List Char} (negative : Bool)
    (follows : Behind 0 digits document) :
    Reads 0 levels document (match wholePart? digits with
      | some (whole, rest) => do return (← numberValue negative whole rest, afterNumber rest)
      | none => .error (.malformed .expectingValue document)) := by
  cases found : wholePart? digits with
  | none => trivial
  | some part =>
    obtain ⟨whole, rest⟩ := part
    obtain ⟨rfl, areDigits⟩ := wholePart?_spec found
    refine .after ?_ fun value => ?_
    · intro stop failed
      obtain ⟨beyond, e, rfl⟩ := tooManyDigits_of_numberValue failed
      -- The whole part is a run of digits in the document.
      intro within
      have run : whole <:+: document :=
        (List.infix_append' [] whole rest).trans follows.suffix.isInfix
      exact absurd (within whole run areDigits) (Nat.not_le_of_lt beyond)
    · have passed := Behind.append (fun c among => isInert_of_isDigit (areDigits c among)) rest
      exact ((behind_afterNumber rest).of_passed passed).of_passed follows

/-- A number leaves the rest of the document, or it has too many digits. -/
theorem reads_readNumber (levels : Nat) (document : List Char) :
    Reads 0 levels document (readNumber document) := by
  unfold readNumber
  -- The digits begin behind the sign, which belongs to the document but not to the run.
  split
  rename_i sign
  split at sign <;> cases sign
  · exact reads_unsigned _ (.cons (by decide) _)
  · exact reads_unsigned _ (.refl _)

/-- A word or a number leaves the rest of the document, unless it is too much to read. -/
theorem reads_readScalar (levels : Nat) (document : List Char) :
    Reads 0 levels document (readScalar levels document) := by
  unfold readScalar
  split
  · rename_i word found
    -- The letters of a word neither open nor close anything.
    have known := List.mem_of_find?_eq_some found
    have inert : ∀ word ∈ words, ∀ c ∈ word.1.toList, IsInert c := by simp [words, IsInert]
    have few : ∀ word ∈ words, (wordLevels word.2).length ≤ spareLevels := by decide
    have begins : word.1.toList.isPrefixOf document = true := by simpa using List.find?_some found
    obtain ⟨rest, split⟩ := List.isPrefixOf_iff_prefix.mp begins
    have left : document.drop word.1.length = rest := by
      rw [← split, ← String.length_toList, List.drop_left]
    cases read : within levels (wordLevels word.2)
        (.ok (word.2, document.drop word.1.length) : Except Stop (Datum × List Char)) with
    | ok result =>
      unfold within at read
      split at read
      · cases read
      · cases read
        rw [left, ← split]
        exact .append (inert word known) rest
    | error stop => exact justified_of_within (few word known) (fun _ none => by cases none) read
  · exact reads_readNumber levels document

/-- Closing an object stops at a name given twice, or for want of levels. -/
theorem justified_of_closeObject {distinct : Bool} {levels : Nat}
    {members : List (String × Datum)} {stop : Stop}
    (failed : closeObject distinct levels members = .error stop) (document : List Char) :
    stop.Justified levels document := by
  unfold closeObject at failed
  split at failed
  · refine justified_of_within (Nat.le_refl _) ?_ failed
    rintro own ⟨⟩
    trivial
  · exact justified_of_within (by decide) (fun _ none => by cases none) failed

/-- A bracket that opens leaves one level less to what follows it. -/
theorem Reads.of_opening {α : Type} {levels : Nat} {bracket : Char} {rest : List Char}
    {outcome : Except Stop (α × List Char)} (opens : bracket = '[' ∨ bracket = '\x7b')
    (reads : Reads 1 levels rest outcome) : Reads 0 (levels + 1) (bracket :: rest) outcome := by
  cases outcome with
  | ok result => exact Behind.of_opening opens reads
  | error stop =>
    cases stop with
    | tooDeep e =>
      -- The level that it takes is made up for by the bracket that is open from here on.
      intro level
      have inside : levels + (level + 1) < deepest .plain (level + 1) rest + spareLevels :=
        reads (level + 1)
      have same : deepest .plain level (bracket :: rest) = deepest .plain (level + 1) rest := by
        rcases opens with rfl | rfl <;> rfl
      rw [same]
      omega
    | tooManyDigits e =>
      exact fun within => reads fun run among =>
        within run (among.trans (List.suffix_cons _ _).isInfix)
    | malformed | repeated => trivial

section

variable {distinct : Bool} {steps : Nat}

/-- A value leaves the rest of its document, if what lies within it does. -/
theorem reads_readValue
    (items : ∀ levels document, Reads 1 levels document (readItems distinct steps levels document))
    (members : ∀ levels document,
      Reads 1 levels document (readMembers distinct steps levels document))
    (levels : Nat) (document : List Char) :
    Reads 0 levels document (readValue distinct (steps + 1) levels document) := by
  unfold readValue
  split
  · -- A string.
    exact .bind (reads_readString _ _ _) fun _ _ follows => follows
  · -- A list where none may lie any more.
    exact Stop.justified_of_lt (by decide) ⟨.array⟩ _
  · -- A list, empty or with items.
    rename_i rest levels
    refine .of_opening (.inl rfl) ?_
    split
    · rename_i after closing
      exact behind_of_closing (.inl rfl) closing
    · exact .bind ((items levels _).of_behind (behind_skipBlanks rest))
        fun _ _ follows => follows
  · -- An object where none may lie any more.
    exact Stop.justified_of_lt (by decide) ⟨.object⟩ _
  · -- An object, empty or with members, which may be given twice.
    rename_i rest levels
    refine .of_opening (.inr rfl) ?_
    split
    · rename_i after closing
      exact .after (fun _ failed => justified_of_closeObject failed rest)
        fun _ => behind_of_closing (.inr rfl) closing
    · exact .bind ((members levels _).of_behind (behind_skipBlanks rest)) fun _ _ follows =>
        .after (fun _ failed => justified_of_closeObject failed rest) fun _ => follows
  · -- Anything else is a word or a number.
    exact reads_readScalar _ _

/-- The items of a list leave the rest of their document, if each value does. -/
theorem reads_readItems
    (values : ∀ levels document,
      Reads 0 levels document (readValue distinct steps levels document))
    (items : ∀ levels document, Reads 1 levels document (readItems distinct steps levels document))
    (levels : Nat) (document : List Char) :
    Reads 1 levels document (readItems distinct (steps + 1) levels document) := by
  unfold readItems
  refine .bind (values levels document) fun item rest follows => ?_
  dsimp only
  -- Behind an item the list is closed, or a comma has another one follow.
  split
  · rename_i after closing
    exact (behind_of_closing (.inl rfl) closing).of_passed follows
  · rename_i next comma
    have later := (behind_skipBlanks next).of_passed
      ((behind_of_skipBlanks (by decide) comma).of_passed follows)
    exact .bind ((items levels _).of_behind later) fun _ _ follows => follows
  · exact .of_raised _ _

/-- The members of an object leave the rest of their document, if each value does. -/
theorem reads_readMembers
    (values : ∀ levels document,
      Reads 0 levels document (readValue distinct steps levels document))
    (members : ∀ levels document,
      Reads 1 levels document (readMembers distinct steps levels document))
    (levels : Nat) (document : List Char) :
    Reads 1 levels document (readMembers distinct (steps + 1) levels document) := by
  unfold readMembers
  split
  · rename_i inner
    -- The name, a colon, the value, and then as behind an item.
    refine .bind (reads_readString _ _ _) fun name rest follows => ?_
    dsimp only
    split
    · rename_i next colon
      have held := (behind_skipBlanks next).of_passed
        ((behind_of_skipBlanks (by decide) colon).of_passed follows)
      refine .bind ((values levels _).of_behind held) fun value rest follows => ?_
      dsimp only
      split
      · rename_i after closing
        exact (behind_of_closing (.inr rfl) closing).of_passed follows
      · rename_i next comma
        have later := (behind_skipBlanks next).of_passed
          ((behind_of_skipBlanks (by decide) comma).of_passed follows)
        exact .bind ((members levels _).of_behind later) fun _ _ follows => follows
      · exact .of_raised _ _
    · exact .of_raised _ _
  · exact .of_raised _ _

end

/-- Values, items and members leave the rest of their document, or go beyond one of the limits. -/
theorem reads_all (distinct : Bool) (steps : Nat) :
    (∀ levels document, Reads 0 levels document (readValue distinct steps levels document)) ∧
    (∀ levels document, Reads 1 levels document (readItems distinct steps levels document)) ∧
    (∀ levels document, Reads 1 levels document (readMembers distinct steps levels document)) := by
  -- All three at once, since each goes on with the others a step later.
  induction steps with
  | zero => exact ⟨fun _ _ => trivial, fun _ _ => trivial, fun _ _ => trivial⟩
  | succ steps ih =>
    obtain ⟨values, items, members⟩ := ih
    exact ⟨reads_readValue items members, reads_readItems values items,
      reads_readMembers values members⟩

/-- A whole document that is stopped at for a limit goes beyond that limit. -/
theorem justified_of_readDocument {levels : Nat} {distinct : Bool} {document : List Char}
    {stop : Stop} (failed : readDocument levels distinct document = .error stop) :
    stop.Justified levels document := by
  unfold readDocument at failed
  split at failed
  · cases failed
    trivial
  · have reads := ((reads_all distinct (2 * document.length + 2)).1 levels
      (skipBlanks document)).of_behind (behind_skipBlanks document)
    cases ended : readValue distinct (2 * document.length + 2) levels
      (skipBlanks document) with
    | error first =>
      -- The value itself has stopped; else, what comes behind it is malformed.
      rw [ended] at failed reads
      cases failed
      exact reads
    | ok result =>
      rw [ended] at failed
      dsimp only [bind, Except.bind] at failed
      split at failed
      · cases failed
      · cases failed
        trivial

/-- Within bounds, a text that is not read is malformed or gives a name twice. -/
theorem malformed_or_repeated_of_read {levels : Nat} {distinct : Bool} {text : String} {e : Error}
    (within : WithinBounds levels text.toList) (failed : read levels distinct text = .error e) :
    (∃ cause place, e = .malformed cause place) ∨ ∃ name, e = .repeated name := by
  unfold read at failed
  cases stopped : readDocument levels distinct text.toList with
  | ok value =>
    rw [stopped] at failed
    cases failed
  | error stop =>
    rw [stopped] at failed
    cases failed
    have justified := justified_of_readDocument stopped
    -- The other two kinds of stop are justified by what the bounds exclude.
    cases stop with
    | malformed cause rest => exact .inl ⟨_, _, rfl⟩
    | repeated name => exact .inr ⟨_, rfl⟩
    | tooManyDigits e => exact absurd within.digits justified
    | tooDeep e =>
      have beyond : levels + 0 < nesting text.toList + spareLevels := justified 0
      exact absurd within.levels (Nat.not_le_of_lt beyond)

/-- A number of more digits than are read as a whole number is too much for the reader. -/
theorem read_of_digits (levels : Nat) (distinct : Bool) {count : Nat}
    (beyond : digitLimit < count) :
    read levels distinct (String.ofList (List.replicate count '1')) =
      .error (.tooManyDigits ⟨count⟩) := by
  obtain ⟨more, rfl⟩ : ∃ more, count = more + 1 := ⟨count - 1, by omega⟩
  -- The whole document is one number, whose whole part is all of it.
  have part : wholePart? (List.replicate (more + 1) '1') =
      some (List.replicate (more + 1) '1', []) := by
    have isDigitOne : isDigit '1' = true := by decide
    rw [List.replicate_succ, wholePart?, if_pos isDigitOne, ← List.replicate_succ,
      List.takeWhile_replicate, List.dropWhile_replicate, if_pos isDigitOne, if_pos isDigitOne]
    simp
  have valued : numberValue false (List.replicate (more + 1) '1') [] =
      .error (.tooManyDigits ⟨more + 1⟩) := by
    have tooMany : readNumeral (List.replicate (more + 1) '1') = .error ⟨more + 1⟩ := by
      rw [readNumeral, List.length_replicate, if_pos beyond]
    simp only [numberValue, fraction, exponent?, List.isEmpty_nil, tooMany]
  have number : readNumber (List.replicate (more + 1) '1') =
      .error (.tooManyDigits ⟨more + 1⟩) := by
    rw [List.replicate_succ] at part valued ⊢
    rw [readNumber]
    · rw [part]
      dsimp only
      rw [valued]
      rfl
    · simp
  have scalar : readScalar levels (List.replicate (more + 1) '1') =
      .error (.tooManyDigits ⟨more + 1⟩) := number
  have document : readDocument levels distinct (List.replicate (more + 1) '1') =
      .error (.tooManyDigits ⟨more + 1⟩) := by
    have value (steps : Nat) : readValue distinct (steps + 1) levels
        (List.replicate (more + 1) '1') = readScalar levels (List.replicate (more + 1) '1') := rfl
    have begun : skipBlanks (List.replicate (more + 1) '1') = List.replicate (more + 1) '1' := rfl
    rw [List.replicate_succ] at begun value scalar ⊢
    rw [readDocument]
    · rw [begun, value, scalar]
      rfl
    · simp
  rw [read, String.toList_ofList, document]
  rfl

end Themer.Json
