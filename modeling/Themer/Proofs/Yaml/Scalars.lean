import Themer.Proofs.Yaml.Limits

/-!
What scalars are read from: each reader leaves a later part of the text that it was given.

A plain scalar of a single word is a part of the text as it stands, and any other has gaps in it.
-/

namespace Themer.Yaml

section Plain

/-- What follows a break is a later part of the text, and the break counts as a gap. -/
theorem of_readBreak? {text after : List Char} {c : Char}
    (read : readBreak? text = some (c, after)) :
    after <:+ text ∧ isGap c = true := by
  -- Two characters make one break only together, and every other break is a character.
  unfold readBreak? at read
  split at read
  · cases read
    exact ⟨⟨['\r', '\n'], rfl⟩, by decide⟩
  · split at read
    · cases read
      exact ⟨List.suffix_cons _ _, by decide⟩
    split at read
    · rename_i breaks
      cases read
      exact ⟨List.suffix_cons _ _, by simp [isGap, breaks]⟩
    · cases read
  · cases read

/-- The breaks of a plain scalar are gaps, with a later part of the text behind them. -/
theorem of_plainBreaks (text : List Char) :
    (plainBreaks text).2 <:+ text ∧
      ∀ breaks, (plainBreaks text).1 = some breaks → ∀ c ∈ breaks, isGap c = true := by
  -- A mark between documents ends the breaks and leaves none of them.
  induction text with
  | nil => exact ⟨List.suffix_rfl, by simp [plainBreaks]⟩
  | cons c rest ih =>
    obtain ⟨behind, gaps⟩ := ih
    have later := behind.trans (List.suffix_cons c rest)
    rw [plainBreaks]
    split
    · exact ⟨later, gaps⟩
    split
    · rename_i breaks
      split
      · exact ⟨List.suffix_cons c rest, nofun⟩
      · refine ⟨later, fun kept found => ?_⟩
        obtain ⟨more, read, rfl⟩ := Option.map_eq_some_iff.mp found
        refine List.forall_mem_cons.mpr ⟨?_, gaps more read⟩
        split
        · decide
        · simp [isGap, breaks]
    · exact ⟨List.suffix_rfl, by simp⟩

/-- What breaks are folded to is gaps. -/
theorem isGap_of_mem_folded {first : Char} {more : List Char} (own : isGap first = true)
    (others : ∀ c ∈ more, isGap c = true) : ∀ c ∈ folded first more, isGap c = true := by
  unfold folded
  split
  · exact List.forall_mem_cons.mpr ⟨own, others⟩
  split
  · simp [isGap]
  · exact others

/-- What is kept after a word is gaps, with a later part of the text behind it. -/
theorem of_plainGap (text : List Char) :
    (plainGap text).rest <:+ text ∧ ∀ c ∈ (plainGap text).kept, isGap c = true := by
  -- The spaces of one line are kept as they are, and breaks are folded.
  have behind : text.dropWhile (· == ' ') <:+ text := List.dropWhile_suffix _
  unfold plainGap
  dsimp only
  split
  · refine ⟨behind, fun c among => ?_⟩
    have space := List.all_eq_true.mp List.all_takeWhile c among
    simp only [isGap, space, Bool.true_or]
  · rename_i first rest read
    obtain ⟨later, gap⟩ := of_readBreak? read
    obtain ⟨last, gaps⟩ := of_plainBreaks rest
    split
    · exact ⟨later.trans behind, by simp⟩
    · split
      · rename_i same
        rw [same] at last
        exact ⟨(last.trans later).trans behind, by simp⟩
      · rename_i more _ same
        rw [same] at last gaps
        exact ⟨(last.trans later).trans behind, isGap_of_mem_folded gap (gaps more rfl)⟩

/-- A word and what follows it are the text. -/
theorem plainWord_append (inFlow : Bool) (text : List Char) :
    (plainWord inFlow text).1 ++ (plainWord inFlow text).2 = text := by
  induction text with
  | nil => rfl
  | cons c rest ih =>
    rw [plainWord]
    split
    · rfl
    · exact congrArg (c :: ·) ih

/-- A plain scalar is the start of the text or has a gap in it, with a later part behind it. -/
theorem of_plainScalar (inFlow : Bool) (indent : Int) (words column : Nat) (text : List Char) :
    (plainScalar inFlow indent words column text).rest <:+ text ∧
      ((plainScalar inFlow indent words column text).text <+: text ∨
        ∃ c ∈ (plainScalar inFlow indent words column text).text, isGap c = true) := by
  -- The induction is on the words that may come; each is read from a later column and text.
  induction words generalizing column text with
  | zero => exact ⟨List.suffix_rfl, .inl List.nil_prefix⟩
  | succ words ih =>
    have whole := plainWord_append inFlow text
    rw [plainScalar]
    generalize plainWord inFlow text = read at whole ⊢
    obtain ⟨word, after⟩ := read
    obtain rfl : word ++ after = text := whole
    obtain ⟨behind, gaps⟩ := of_plainGap after
    have later := behind.trans (List.suffix_append word after)
    have single : word <+: word ++ after := List.prefix_append word after
    dsimp only
    split
    · exact ⟨List.suffix_rfl, .inl List.nil_prefix⟩
    generalize columnAfter column _ = column'
    split
    · exact ⟨later, .inl single⟩
    split
    · exact ⟨later, .inl single⟩
    · -- More words come only after a gap that is kept.
      rename_i goesOn _
      refine ⟨(ih column' _).1.trans later, .inr ?_⟩
      simp only [Bool.or_eq_true, not_or] at goesOn
      obtain ⟨c, among⟩ : ∃ c, c ∈ (plainGap after).kept := by
        cases kept : (plainGap after).kept with
        | nil => simp [kept] at goesOn
        | cons c rest => exact ⟨c, List.mem_cons_self⟩
      refine ⟨c, ?_, gaps c among⟩
      exact List.mem_append_left _ (List.mem_append_right _ among)

end Plain

section Quoted

/-- The breaks inside of quotes leave a later part of the text, unless something is wrong there. -/
theorem gives_quotedBreaks {bad : Stop → Prop} (faults : ∀ fault : Fault, bad fault.stop)
    (lines : Nat) (text : List Char) :
    Gives (fun result : List Char × List Char => result.2 <:+ text) bad
      (quotedBreaks lines text) := by
  -- Blanks at the start of a line fall away with the breaks.
  induction lines generalizing text with
  | zero => exact List.suffix_rfl
  | succ lines ih =>
    have blanks : (text.dropWhile fun c => c == ' ' || c == '\t') <:+ text :=
      List.dropWhile_suffix _
    rw [quotedBreaks]
    split
    · exact faults .separatorInQuote
    dsimp only
    split
    · rename_i first rest read
      exact (ih rest).bind fun _ behind => (behind.trans (of_readBreak? read).1).trans blanks
    · exact blanks

/-- The digits of a code are read one by one, each into a number below sixteen. -/
theorem of_mapM_hexValue? {digits : List Char} {values : List Nat}
    (read : digits.mapM Text.hexValue? = some values) :
    values.length = digits.length ∧ (∀ c ∈ digits, isNumeralChar c = true) ∧
      ∀ value ∈ values, value < 16 := by
  -- All digits have a value, or there would be none for the whole.
  induction digits generalizing values with
  | nil =>
    cases read
    exact ⟨rfl, List.forall_mem_nil _, List.forall_mem_nil _⟩
  | cons c rest ih =>
    rw [List.mapM_cons] at read
    obtain ⟨value, first, later⟩ := Option.bind_eq_some_iff.mp read
    obtain ⟨others, more, same⟩ := Option.bind_eq_some_iff.mp later
    cases same
    obtain ⟨length, numeral, below⟩ := ih more
    refine ⟨congrArg (· + 1) length, List.forall_mem_cons.mpr ⟨?_, numeral⟩,
      List.forall_mem_cons.mpr ⟨hexValue?_lt first, below⟩⟩
    simp [isNumeralChar, first]

/-- A code of some digits is below that power of sixteen. -/
theorem code_lt {digits : List Char} {values : List Nat}
    (read : digits.mapM Text.hexValue? = some values) :
    values.foldl (fun code value => code * 16 + value) 0 < 16 ^ digits.length := by
  obtain ⟨count, _, below⟩ := of_mapM_hexValue? read
  calc values.foldl (fun code value => code * 16 + value) 0
      < (0 + 1) * 16 ^ values.length := foldl_lt (by omega) below 0
    _ = 16 ^ digits.length := by rw [Nat.zero_add, Nat.one_mul, count]

/-- Only the letter of the longest codes has some beyond all characters. -/
theorem letter_of_large {letter : Char} {length code : Nat}
    (known : codeLengths.lookup letter = some length) (below : code < 16 ^ length)
    (large : 0x110000 ≤ code) : letter = 'U' := by
  -- The other two have codes of two digits and of four.
  simp only [codeLengths, List.lookup_cons, List.lookup_nil] at known
  split at known
  · cases known
    omega
  split at known
  · cases known
    omega
  split at known
  · rename_i same
    exact eq_of_beq same
  · cases known

/-- Only after the letter of the longest codes there can be one that no character has. -/
theorem gives_readCode {source rest : List Char} {letter : Char} {length : Nat}
    (known : codeLengths.lookup letter = some length) (among : '\\' :: letter :: rest <:+: source) :
    Gives (fun _ => True) (MayStop source) (readCode (rest.take length) length) := by
  unfold readCode
  cases read : (rest.take length).mapM Text.hexValue? with
  | none => exact trivial
  | some values =>
    have bound := code_lt read
    dsimp only
    generalize code : values.foldl (fun code value => code * 16 + value) 0 = number at bound ⊢
    -- Both ways to be cut short are for a code that is too large, and that is in the text.
    have tooLarge (large : 0x110000 ≤ number) : HasNoCharacter source := by
      have fewer : (rest.take length).length ≤ length := List.length_take_le ..
      have below : number < 16 ^ length :=
        Nat.lt_of_lt_of_le bound (Nat.pow_le_pow_right (by omega) fewer)
      obtain rfl := letter_of_large known below large
      have shorter : '\\' :: 'U' :: rest.take length <+: '\\' :: 'U' :: rest :=
        List.prefix_append_right_inj ['\\', 'U'] |>.mpr (List.take_prefix length rest)
      exact ⟨rest.take length, values, shorter.isInfix.trans among, read, code ▸ large⟩
    split
    · exact trivial
    split
    · exact tooLarge (by omega)
    split
    · exact tooLarge (by omega)
    split
    · exact trivial
    · exact trivial

/-- An escape leaves a later part of the text behind its backslash. -/
theorem gives_readEscape {source text : List Char} (among : '\\' :: text <:+: source) :
    Gives (fun result : List Char × List Char => result.2 <:+ text) (MayStop source)
      (readEscape text) := by
  have faults (fault : Fault) : MayStop source fault.stop := trivial
  unfold readEscape
  -- An escape is a single letter, a code, or a break with the blanks around it.
  split
  · exact faults .unterminatedQuote
  · rename_i c rest
    have behind : rest <:+ c :: rest := List.suffix_cons c rest
    split
    · exact behind
    · rename_i length _ known
      exact (gives_readCode known among).bind fun _ _ =>
        (List.drop_suffix length rest).trans behind
    · rename_i after _ _ read
      exact (gives_quotedBreaks faults _ after).mono
        (fun _ later => later.trans (of_readBreak? read).1) fun _ stop => stop
    · exact faults .unknownEscape

/-- A quoted scalar leaves a later part of the text behind its quotes. -/
theorem gives_quotedScalar {source : List Char} (quote : Char) (steps : Nat) {text : List Char}
    (within : text <:+ source) :
    Gives (fun result : List Char × List Char => result.2 <:+ text) (MayStop source)
      (quotedScalar quote steps text) := by
  have faults (fault : Fault) : MayStop source fault.stop := trivial
  -- Each step takes one share of the scalar, and the next one starts from a later text.
  induction steps generalizing text with
  | zero => exact faults .unterminatedQuote
  | succ steps ih =>
    cases text with
    | nil => exact faults .unterminatedQuote
    | cons c rest =>
      have behind : rest <:+ c :: rest := List.suffix_cons c rest
      unfold quotedScalar
      extract_lets go
      have goesOn (kept : List Char) {after : List Char} (later : after <:+ c :: rest) :
          Gives (fun result : List Char × List Char => result.2 <:+ c :: rest) (MayStop source)
            (go kept after) :=
        (ih (later.trans within)).bind fun _ last => last.trans later
      split
      · -- A quote ends the scalar, unless a second single one follows.
        split
        · split
          · exact goesOn _ ((List.suffix_cons _ _).trans behind)
          · exact behind
        · exact List.nil_suffix
      split
      · rename_i opens
        obtain rfl : c = '\\' := by simp at opens; exact opens.1
        have escape := gives_readEscape within.isInfix
        split
        · rename_i kept after same
          exact goesOn kept ((escape.of_ok same).trans behind)
        · rename_i same
          exact escape.of_error same
      split
      · have blanks : ((c :: rest).dropWhile fun c => c == ' ' || c == '\t') <:+ c :: rest :=
          List.dropWhile_suffix _
        split
        · rename_i first after read
          have lines := gives_quotedBreaks faults (after.length + 1) after
          have later := (of_readBreak? read).1.trans blanks
          split
          · rename_i more last same
            exact goesOn _ ((lines.of_ok same).trans later)
          · rename_i same
            exact lines.of_error same
        · exact goesOn _ blanks
      · exact goesOn _ behind

end Quoted

end Themer.Yaml
