import Themer.Text.Lines

/-!
A text falls into its lines in one way: those that a break ends, and then one that none does.

Unifying its breaks before that changes no word in it, and putting the lines together again
changes nothing but the end of the last one.
-/

namespace Themer.Text

/-- The lines of a text whose breaks are all alike, without those breaks. -/
inductive IsLines : List Char → List (List Char) → Prop
  | none : IsLines [] []
  | last {line : List Char} (some : line ≠ []) (unbroken : '\n' ∉ line) : IsLines line [line]
  | ended {line rest : List Char} {lines : List (List Char)} (unbroken : '\n' ∉ line)
      (later : IsLines rest lines) : IsLines (line ++ '\n' :: rest) (line :: lines)

/-- A character that is no carriage return stays where breaks are unified. -/
theorem unifyBreaks_cons_of_ne {c : Char} (other : c ≠ '\r') (rest : List Char) :
    unifyBreaks (c :: rest) = c :: unifyBreaks rest :=
  unifyBreaks.eq_4 c rest (fun _ same _ => other same) other

/-- A text without carriage returns has its breaks unified already. -/
theorem unifyBreaks_eq_self {text : List Char} (none : '\r' ∉ text) :
    unifyBreaks text = text := by
  -- Only a carriage return is ever replaced, and none comes up.
  induction text with
  | nil => rfl
  | cons c rest ih =>
    rw [List.mem_cons, not_or] at none
    obtain ⟨other, later⟩ := none
    rw [unifyBreaks_cons_of_ne (Ne.symm other), ih later]

/-- Unifying breaks spells no word without a break that was not there at the start already. -/
theorem prefix_of_prefix_unifyBreaks {word text : List Char} (unbroken : '\n' ∉ word)
    (begins : word <+: unifyBreaks text) : word <+: text := by
  -- The word is taken off character by character, so it stays quantified over.
  induction text using unifyBreaks.induct generalizing word with
  | case1 => simpa [unifyBreaks] using begins
  | case2 rest ih | case3 rest _ ih =>
    -- A break at the start leaves only the empty word.
    cases word with
    | nil => exact List.nil_prefix
    | cons d word =>
      simp only [unifyBreaks, List.cons_prefix_cons] at begins
      simp [begins.1] at unbroken
  | case4 c rest noPair noReturn ih =>
    cases word with
    | nil => exact List.nil_prefix
    | cons d word =>
      have other : c ≠ '\r' := fun same => noReturn same
      rw [unifyBreaks_cons_of_ne other, List.cons_prefix_cons] at begins
      obtain ⟨rfl, later⟩ := begins
      exact List.cons_prefix_cons.mpr ⟨rfl, ih (mt (List.mem_cons_of_mem d) unbroken) later⟩

/-- A word without a break is spelled by a text if it is once the breaks of this are unified. -/
theorem infix_of_infix_unifyBreaks {word text : List Char} (unbroken : '\n' ∉ word)
    (spelled : word <:+: unifyBreaks text) : word <:+: text := by
  -- A word begins the text, or the rest of the text spells it.
  have step {text rest : List Char} {c : Char} (whole : unifyBreaks text = c :: unifyBreaks rest)
      (behind : rest <:+ text) (ih : word <:+: unifyBreaks rest → word <:+: rest)
      (spelled : word <:+: unifyBreaks text) : word <:+: text := by
    rw [whole, List.infix_cons_iff, ← whole] at spelled
    rcases spelled with begins | later
    · exact (prefix_of_prefix_unifyBreaks unbroken begins).isInfix
    · exact (ih later).trans behind.isInfix
  induction text using unifyBreaks.induct with
  | case1 => simpa [unifyBreaks] using spelled
  | case2 rest ih =>
    have behind : rest <:+ '\r' :: '\n' :: rest := ⟨['\r', '\n'], rfl⟩
    exact step (by rw [unifyBreaks]) behind ih spelled
  | case3 rest alone ih =>
    have whole : unifyBreaks ('\r' :: rest) = '\n' :: unifyBreaks rest := by
      rw [unifyBreaks]
      exact alone
    exact step whole (List.suffix_cons _ _) ih spelled
  | case4 c rest noPair noReturn ih =>
    exact step (unifyBreaks_cons_of_ne (fun same => noReturn same) rest) (List.suffix_cons _ _) ih
      spelled

/-- A line that no break ends is the last one, or none if it is empty. -/
theorem splitLines_of_unbroken {line : List Char} (unbroken : '\n' ∉ line) :
    splitLines line = if line = [] then [] else [line] := by
  -- Each character goes in front of the one line that the rest is, or makes one by itself.
  induction line with
  | nil => rfl
  | cons c rest ih =>
    have notBreak : c ≠ '\n' := by
      rintro rfl
      exact unbroken List.mem_cons_self
    rw [splitLines, if_neg notBreak, ih (mt (List.mem_cons_of_mem c) unbroken)]
    cases rest <;> rfl

/-- A break ends the line before it. -/
theorem splitLines_of_ended {line : List Char} (unbroken : '\n' ∉ line) (rest : List Char) :
    splitLines (line ++ '\n' :: rest) = line :: splitLines rest := by
  -- Up to the break, each character goes in front of the line that the break ends.
  induction line with
  | nil => rw [List.nil_append, splitLines, if_pos rfl]
  | cons c line ih =>
    have notBreak : c ≠ '\n' := by
      rintro rfl
      exact unbroken List.mem_cons_self
    rw [List.cons_append, splitLines, if_neg notBreak, ih (mt (List.mem_cons_of_mem c) unbroken)]

/-- The lines that a text is split into are its lines. -/
theorem isLines_splitLines (text : List Char) : IsLines text (splitLines text) := by
  -- A break in front ends an empty line before those of the rest.
  induction text with
  | nil => exact .none
  | cons c rest ih =>
    rw [splitLines]
    split
    · rename_i isBreak
      rw [isBreak]
      have empty : '\n' ∉ ([] : List Char) := by simp
      exact .ended empty ih
    · rename_i notBreak
      -- The character goes in front of the first line that follows.
      cases lines : splitLines rest with
      | nil =>
        rw [lines] at ih
        cases ih
        exact .last (by simp) (by simpa [eq_comm] using notBreak)
      | cons line more =>
        rw [lines] at ih
        cases ih with
        | last some unbroken => exact .last (by simp) (by simp [unbroken, Ne.symm notBreak])
        | ended unbroken later =>
          have longer : '\n' ∉ c :: line := by simp [unbroken, Ne.symm notBreak]
          exact .ended longer later

/-- A text has no other lines than those it is split into. -/
theorem IsLines.eq_splitLines {text : List Char} {lines : List (List Char)}
    (areLines : IsLines text lines) : lines = splitLines text := by
  induction areLines with
  | none => rfl
  | last some unbroken => rw [splitLines_of_unbroken unbroken, if_neg some]
  | ended unbroken _ ih => rw [splitLines_of_ended unbroken, ih]

/-- No line of a text has a break in it. -/
theorem IsLines.unbroken {text : List Char} {lines : List (List Char)}
    (areLines : IsLines text lines) : ∀ line ∈ lines, '\n' ∉ line := by
  induction areLines with
  | none => simp
  | last _ unbroken => simpa using unbroken
  | ended unbroken _ ih => simpa using ⟨unbroken, ih⟩

/-- Every line of a text is spelled in it. -/
theorem IsLines.isInfix {text : List Char} {lines : List (List Char)}
    (areLines : IsLines text lines) : ∀ line ∈ lines, line <:+: text := by
  -- The first line begins the text, and the others are in what is behind its break.
  induction areLines with
  | none => simp
  | last _ _ => simp
  | @ended line rest lines _ _ ih =>
    intro other among
    rcases List.mem_cons.mp among with rfl | later
    · exact (List.prefix_append other ('\n' :: rest)).isInfix
    · have behind : rest <:+ line ++ '\n' :: rest := ⟨line ++ ['\n'], by simp⟩
      exact (ih other later).trans behind.isInfix

/-- A text with a break at its end; where there is nothing, none is put. -/
def withLastBreak (text : List Char) : List Char :=
  if text.getLast?.all (· == '\n') then text else text ++ ['\n']

/-- The lines of a text, each with a break behind it, are the text with a break at its end. -/
theorem IsLines.flatMap_break {text : List Char} {lines : List (List Char)}
    (areLines : IsLines text lines) :
    (lines.flatMap fun line => line ++ ['\n']) = withLastBreak text := by
  induction areLines with
  | none => rfl
  | @last line some unbroken =>
    -- A last line without a break gets one.
    have open' : line.getLast?.all (· == '\n') = false := by
      rw [List.getLast?_eq_some_getLast some, Option.all_some, beq_eq_false_iff_ne]
      rintro isBreak
      exact unbroken (isBreak ▸ List.getLast_mem some)
    simp [withLastBreak, open']
  | @ended line rest lines _ _ ih =>
    -- Whether the text ends in a break is up to what follows its first line.
    rw [List.flatMap_cons, ih]
    unfold withLastBreak
    cases rest with
    | nil => simp
    | cons c rest =>
      have same : (line ++ '\n' :: c :: rest).getLast? = (c :: rest).getLast? := by
        simp [List.getLast?_append, List.getLast?_cons]
      rw [same]
      split <;> simp

/-- A line is the same whether it is handed over with the break at its end or without. -/
theorem stripBreaks_of_unbroken {line : List Char} (unbroken : '\n' ∉ line) :
    stripBreaks line = line ∧ stripBreaks (line ++ ['\n']) = line := by
  -- Nothing is taken off the end but breaks, and the line itself does not end in one.
  have kept : line.reverse.dropWhile (· == '\n') = line.reverse := by
    cases backwards : line.reverse with
    | nil => rfl
    | cons c rest =>
      have among : c ∈ line := by
        rw [← List.mem_reverse, backwards]
        exact List.mem_cons_self
      have notBreak : c ≠ '\n' := by
        rintro rfl
        exact unbroken among
      exact List.dropWhile_cons_of_neg (by simpa using notBreak)
  constructor
  · rw [stripBreaks, kept, List.reverse_reverse]
  · rw [stripBreaks, List.reverse_append, List.reverse_singleton, List.singleton_append,
      List.dropWhile_cons_of_pos (by simp), kept, List.reverse_reverse]

end Themer.Text
