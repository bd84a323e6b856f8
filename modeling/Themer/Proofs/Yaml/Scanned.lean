import Themer.Proofs.Yaml.Nodes
import Themer.Proofs.Yaml.Scalars

/-!
The tokens of a text: what is in them is in the text as well.

A plain scalar is spelled there, and a stop has its reason there.
For each list or map that is opened, a bracket or a mark of its own is passed.
-/

namespace Themer.Yaml

/-- Whether a text has in it what a plain scalar spells, or what the reason for a stop is. -/
abbrev Token.IsFrom (source : List Char) : Token → Prop :=
  Token.Fits (fun text plain => plain = true → IsSpelled source text) (MayStop source)

namespace Scan

/--
How far a scan may have got in a text, with what rest, which tokens and what cuts the text off.

No more was opened than the characters passed allow, apart from so many openings ahead of theirs.
-/
structure Reached (source : List Char) (ahead : Nat) (rest : List Char) (tokens : List Token)
    (cut : Option Stop) : Prop where
  within : rest <:+ source
  known : ∀ token ∈ tokens, token.IsFrom source
  opened : tokens.countP Token.opens + openings rest ≤ openings source + ahead
  cut : ∀ stop, cut = some stop → MayStop source stop

/-- Whether a scan may be one of a text. -/
abbrev Follows (source : List Char) (ahead : Nat) (scan : Scan) : Prop :=
  Reached source ahead scan.rest scan.tokens scan.cut

/-- Whether a step of a scan leads to one of the same text, or stops with reason. -/
abbrev GoesOn (source : List Char) : Except Stop Scan → Prop :=
  Gives (Follows source 0) (MayStop source)

variable {source : List Char} {ahead : Nat} {scan : Scan}

namespace Follows

/-- More may have been opened ahead than was. -/
theorem mono (follows : scan.Follows source ahead) {more : Nat} (few : ahead ≤ more) :
    scan.Follows source more :=
  ⟨follows.within, follows.known, Nat.le_trans follows.opened (Nat.add_le_add_left few _),
    follows.cut⟩

/-- A scan moves on to a later rest. -/
theorem moveTo (follows : scan.Follows source ahead) {later : List Char}
    (behind : later <:+ scan.rest) : (scan.moveTo later).Follows source ahead where
  within := behind.trans follows.within
  known := follows.known
  opened := by
    have fewer : openings later ≤ openings scan.rest := behind.sublist.countP_le
    have opened := follows.opened
    change scan.tokens.countP Token.opens + openings later ≤ _
    omega
  cut := follows.cut

/-- One more token comes in somewhere, and what it opens is ahead of its mark. -/
theorem withToken {rest : List Char} {tokens more : List Token} {cut : Option Stop} {token : Token}
    (reached : Reached source ahead rest tokens cut) (among : more.Perm (token :: tokens))
    (known : token.IsFrom source) :
    Reached source (ahead + [token].countP Token.opens) rest more cut where
  -- Only which tokens there are counts, so the place of the new one does not matter.
  within := reached.within
  known other held := by
    rcases List.mem_cons.mp (among.mem_iff.mp held) with rfl | old
    · exact known
    · exact reached.known other old
  opened := by
    have opened := reached.opened
    have parts : more.countP Token.opens =
        [token].countP Token.opens + tokens.countP Token.opens := by
      rw [among.countP_eq, ← List.singleton_append, List.countP_append]
    omega
  cut := reached.cut

/-- A token is put in front of some others. -/
theorem insert (follows : scan.Follows source ahead) (count : Nat) (token : Token)
    (known : token.IsFrom source) :
    (scan.insert count token).Follows source (ahead + [token].countP Token.opens) := by
  have among (place : Nat) : (scan.tokens.take place ++ token :: scan.tokens.drop place).Perm
      (token :: scan.tokens) := by
    refine List.perm_middle.trans ?_
    rw [List.take_append_drop]
  exact withToken follows (among _) known

/-- A token is put behind all others. -/
theorem add (follows : scan.Follows source ahead) (token : Token)
    (known : token.IsFrom source) :
    (scan.add token).Follows source (ahead + [token].countP Token.opens) :=
  withToken follows (.refl _) known

/-- The characters of a token make up for what it opens, and for what was opened ahead. -/
theorem take (follows : scan.Follows source ahead) {count : Nat} {token : Token}
    (known : token.IsFrom source)
    (paid : ahead + [token].countP Token.opens ≤ openings (scan.rest.take count)) :
    (scan.take count token).Follows source 0 := by
  -- The openings among the characters taken are no longer in the rest, and so free for the tokens.
  have added := (follows.moveTo (List.drop_suffix count scan.rest)).add token known
  refine ⟨added.within, added.known, ?_, added.cut⟩
  have opened := (follows.add token known).opened
  have parts : openings scan.rest =
      openings (scan.rest.take count) + openings (scan.rest.drop count) := by
    rw [openings, openings, openings, ← List.countP_append, List.take_append_drop]
  change (token :: scan.tokens).countP Token.opens + openings scan.rest ≤ _ at opened
  change (token :: scan.tokens).countP Token.opens + openings (scan.rest.drop count) ≤ _
  omega

end Follows

/-- Blocks that are closed put the tokens for their ends after the others. -/
theorem exists_close (column : Int) (outer : List Int) (indent : Int) (tokens : List Token) :
    ∃ count, (unwind.close column outer indent tokens).2.2 =
      List.replicate count Token.blockEnd ++ tokens := by
  -- Each block that is closed hands one more end on to the next, so the tokens are generalized.
  induction outer generalizing indent tokens with
  | nil =>
    unfold unwind.close
    split
    · exact ⟨1, rfl⟩
    · exact ⟨0, rfl⟩
  | cons next rest ih =>
    unfold unwind.close
    split
    · obtain ⟨count, same⟩ := ih next (.blockEnd :: tokens)
      exact ⟨count + 1, by rw [same, List.replicate_succ', List.append_assoc]; rfl⟩
    · exact ⟨0, rfl⟩

/-- The ends of blocks open nothing, and the rest of the text stays. -/
theorem Follows.unwind (follows : scan.Follows source ahead) (column : Int) :
    (scan.unwind column).Follows source ahead ∧ (scan.unwind column).rest = scan.rest := by
  unfold Scan.unwind
  split
  · exact ⟨follows, rfl⟩
  · -- Outside of brackets the ends of blocks come in, which spell nothing and open nothing.
    obtain ⟨count, same⟩ := exists_close column scan.outer scan.indent scan.tokens
    refine ⟨⟨follows.within, ?_, ?_, follows.cut⟩, rfl⟩
    · change ∀ token ∈ (unwind.close column scan.outer scan.indent scan.tokens).2.2,
        token.IsFrom source
      rw [same]
      intro token among
      rcases List.mem_append.mp among with ended | own
      · rw [List.eq_of_mem_replicate ended]
        exact trivial
      · exact follows.known token own
    · change (unwind.close column scan.outer scan.indent scan.tokens).2.2.countP Token.opens +
        openings scan.rest ≤ _
      rw [same, List.countP_append, List.countP_replicate]
      simpa [Token.opens] using follows.opened

/-- A block that is opened changes the indentation and nothing else. -/
theorem of_openBlock? {column : Nat} {opened : Scan}
    (found : scan.openBlock? column = some opened) :
    opened = { scan with outer := scan.indent :: scan.outer, indent := column } := by
  unfold openBlock? at found
  split at found <;> cases found
  rfl

/-- Where a block is opened, this is ahead of its mark. -/
theorem Follows.openHere (follows : scan.Follows source 0) {token : Token}
    (known : token.IsFrom source) :
    (scan.openHere token).Follows source 1 ∧ (scan.openHere token).rest = scan.rest := by
  -- Where the column is not deeper no block is opened, and the one that is ahead stays unused.
  have atMost : [token].countP Token.opens ≤ 1 := List.countP_le_length
  unfold Scan.openHere
  split
  · rename_i opened found
    rw [of_openBlock? found]
    exact ⟨Follows.mono (Follows.add follows token known) (by omega), rfl⟩
  · exact ⟨follows.mono (by omega), rfl⟩

/-- Whether a step leads to a scan that has got as far and no further, or stops with reason. -/
abbrev Stays (source : List Char) (ahead : Nat) (scan : Scan) : Except Stop Scan → Prop :=
  Gives (fun after => after.Follows source ahead ∧ after.rest = scan.rest) (MayStop source)

/-- Stale candidates fall away. -/
theorem Follows.stays_dropStale (follows : scan.Follows source ahead) :
    scan.Stays source ahead scan.dropStale := by
  unfold dropStale
  split
  · exact trivial
  · exact ⟨follows, rfl⟩

/-- So does the candidate at the present depth. -/
theorem Follows.stays_dropCandidate (follows : scan.Follows source ahead) :
    scan.Stays source ahead scan.dropCandidate := by
  unfold dropCandidate
  split
  · exact trivial
  · exact ⟨follows, rfl⟩

/-- A candidate may come in. -/
theorem Follows.stays_saveCandidate (follows : scan.Follows source ahead) :
    scan.Stays source ahead scan.saveCandidate := by
  unfold saveCandidate
  split
  · exact follows.stays_dropCandidate.bind fun _ kept => kept
  · exact ⟨follows, rfl⟩

section Fetch

variable (follows : scan.Follows source 0)

include follows

/-- Gaps and comments are passed. -/
theorem Follows.skipGaps (steps : Nat) : (scan.skipGaps steps).Follows source 0 := by
  -- Blanks, a comment and a break are passed on each line, and each leaves a later rest.
  induction steps generalizing scan with
  | zero => exact follows
  | succ steps ih =>
    unfold Scan.skipGaps
    extract_lets text uncommented
    have blanks : text <:+ scan.rest := List.dropWhile_suffix _
    clear_value text
    have comment : uncommented <:+ scan.rest := by
      unfold uncommented
      split
      · exact (List.dropWhile_suffix _).trans blanks
      · exact blanks
    split
    · rename_i after read
      exact ih (follows.moveTo ((of_readBreak? read).1.trans comment))
    · exact follows.moveTo comment

/-- A mark between documents is passed. -/
theorem Follows.goesOn_fetchSeparator {token : Token} (known : token.IsFrom source)
    (closed : token.opens = false) : GoesOn source (scan.fetchSeparator token) :=
  (follows.unwind (-1)).1.stays_dropCandidate.bind fun _ kept =>
    Follows.take kept.1 known (by simp [closed])

/-- An opening bracket is passed with the token for it. -/
theorem Follows.goesOn_fetchOpen {token : Token} (known : token.IsFrom source)
    (mark : openings (scan.rest.take 1) = 1) : GoesOn source (scan.fetchOpen token) := by
  -- The bracket opens one collection and is one opening in the text.
  have atMost : [token].countP Token.opens ≤ 1 := List.countP_le_length
  refine follows.stays_saveCandidate.bind fun after kept => Follows.take kept.1 known ?_
  rw [kept.2]
  omega

/-- A closing bracket is passed. -/
theorem Follows.goesOn_fetchClose {token : Token} (known : token.IsFrom source)
    (closed : token.opens = false) : GoesOn source (scan.fetchClose token) :=
  follows.stays_dropCandidate.bind fun _ kept => Follows.take kept.1 known (by simp [closed])

/-- A comma is passed. -/
theorem Follows.goesOn_fetchComma : GoesOn source scan.fetchComma :=
  follows.stays_dropCandidate.bind fun _ kept =>
    Follows.take kept.1 trivial (by simp [Token.opens])

/-- A mark is passed, of which a block may have been opened ahead. -/
theorem Follows.goesOn_mark (block token : Token) (opening : block.IsFrom source)
    (known : token.IsFrom source) (closed : token.opens = false)
    (mark : openings (scan.rest.take 1) = 1) (allowed : Scan → Bool) {outOfPlace : Bool}
    {fault : Fault} :
    GoesOn source (do
      if outOfPlace then throw fault.stop
      let scan := if scan.inFlow then scan else scan.openHere block
      let scan ← (scan.allowKey (allowed scan)).dropCandidate
      return scan.take 1 token) := by
  -- In brackets no block is opened; elsewhere the mark itself makes up for the one that may be.
  obtain ⟨reached, rest⟩ : (if scan.inFlow then scan else scan.openHere block).Follows source 1 ∧
      (if scan.inFlow then scan else scan.openHere block).rest = scan.rest := by
    split
    · exact ⟨follows.mono (by omega), rfl⟩
    · exact follows.openHere opening
  dsimp only
  split
  · exact trivial
  · refine Gives.bind (Follows.stays_dropCandidate reached) fun after kept => ?_
    refine Follows.take kept.1 known ?_
    rw [kept.2.trans rest, mark]
    simp [closed]

/-- The hyphen of an item is passed. -/
theorem Follows.goesOn_fetchEntry (mark : openings (scan.rest.take 1) = 1) :
    GoesOn source scan.fetchEntry :=
  follows.goesOn_mark .blockList .entry trivial trivial rfl mark fun _ => true

/-- The question mark of a key is passed. -/
theorem Follows.goesOn_fetchKey (mark : openings (scan.rest.take 1) = 1) :
    GoesOn source scan.fetchKey :=
  follows.goesOn_mark .blockMap .key trivial trivial rfl mark fun scan => !scan.inFlow

/-- The colon of a value is passed; the block of its key may have been opened ahead of it. -/
theorem Follows.goesOn_fetchValue (mark : openings (scan.rest.take 1) = 1) :
    GoesOn source scan.fetchValue := by
  unfold fetchValue
  split
  · -- The key stands before its colon, so the tokens for it are put in where it started.
    rename_i candidate _
    have forgotten : scan.forget.Follows source 0 := follows
    have keyed := forgotten.insert candidate.tokens .key trivial
    extract_lets keyedScan opened
    obtain ⟨reached, rest⟩ : opened.Follows source 1 ∧ opened.rest = scan.rest := by
      unfold opened
      split
      · rename_i block _ found
        rw [of_openBlock? found]
        exact ⟨Follows.insert keyed candidate.tokens .blockMap trivial, rfl⟩
      · exact ⟨keyed.mono (by decide), rfl⟩
    refine Follows.take reached trivial ?_
    change 1 ≤ openings (opened.rest.take 1)
    exact Nat.le_of_eq (by rw [rest, mark])
  · -- Without a candidate the colon stands alone, and goes like the mark of a key.
    exact follows.goesOn_mark .blockMap .value trivial trivial rfl mark fun scan => !scan.inFlow

/-- A scalar in quotes is passed. -/
theorem Follows.goesOn_fetchQuoted (quote : Char) : GoesOn source (scan.fetchQuoted quote) := by
  -- What is in the quotes is not compared with the text, since no number is read from it.
  refine follows.stays_saveCandidate.bind fun after kept => ?_
  obtain ⟨follows, _⟩ := kept
  have behind : after.rest.drop 1 <:+ after.rest := List.drop_suffix 1 after.rest
  refine (gives_quotedScalar quote _ (behind.trans follows.within)).bind fun result later => ?_
  exact Follows.add (Follows.moveTo follows (later.trans behind))
    (.scalar (String.ofList result.1) false) nofun

/-- A plain scalar is passed. -/
theorem Follows.goesOn_fetchPlain : GoesOn source scan.fetchPlain := by
  refine follows.stays_saveCandidate.bind fun after kept => ?_
  obtain ⟨follows, _⟩ := kept
  obtain ⟨behind, spelled⟩ := of_plainScalar after.inFlow (after.indent + 1)
    (after.rest.length + 1) after.column after.rest
  -- A scalar of a single word starts the rest, and that is the end of the text.
  refine Follows.add (Follows.moveTo follows behind) (.scalar _ true) fun _ => ?_
  unfold IsSpelled
  rw [String.toList_ofList]
  exact spelled.symm.imp id fun starts => starts.isInfix.trans follows.within.isInfix

/-- The token that starts with the next character is passed. -/
theorem Follows.goesOn_fetchFrom {c : Char} {rest : List Char} (next : scan.rest = c :: rest) :
    GoesOn source (scan.fetchFrom c rest) := by
  have mark (opens : isOpening c = true) : openings (scan.rest.take 1) = 1 := by
    simp [next, openings, opens]
  -- The cases are the marks between documents, the characters that decide alone, and all others.
  unfold fetchFrom
  split
  · split
    · exact follows.goesOn_fetchSeparator trivial rfl
    · exact follows.goesOn_fetchSeparator trivial rfl
  · split
    · exact follows.goesOn_fetchOpen trivial (mark rfl)
    · exact follows.goesOn_fetchOpen trivial (mark rfl)
    · exact follows.goesOn_fetchClose trivial rfl
    · exact follows.goesOn_fetchClose trivial rfl
    · exact follows.goesOn_fetchComma
    · exact follows.goesOn_fetchQuoted _
    · exact follows.goesOn_fetchQuoted _
    · -- Hyphen, question mark and colon are marks in their places, and start words elsewhere.
      dsimp only
      split
      · rename_i hyphen
        obtain ⟨rfl, _⟩ := hyphen
        exact follows.goesOn_fetchEntry (mark rfl)
      split
      · rename_i question
        obtain ⟨rfl, _⟩ := question
        exact follows.goesOn_fetchKey (mark rfl)
      split
      · rename_i colon
        obtain ⟨rfl, _⟩ := colon
        exact follows.goesOn_fetchValue (mark rfl)
      split
      · exact trivial
      · exact follows.goesOn_fetchPlain

/-- The end of the text is reached. -/
theorem Follows.goesOn_fetchEnd : GoesOn source scan.fetchEnd :=
  (follows.unwind (-1)).1.stays_dropCandidate.bind fun _ kept =>
    Follows.add kept.1 .textEnd trivial

/-- A step of a text that is cut off stops there at most. -/
theorem Follows.goesOn_beforeCut {fetched : Except Stop Scan} (gives : GoesOn source fetched) :
    GoesOn source (beforeCut scan.cut fetched) := by
  -- The stop of the text takes the place of what a step at its end would find wrong.
  unfold beforeCut
  split
  · exact gives
  · split
    · exact follows.cut _ ‹_›
    · exact gives
  · exact follows.cut _ ‹_›
  · exact gives

/-- The next token is passed. -/
theorem Follows.goesOn_fetch : GoesOn source scan.fetch := by
  unfold fetch
  have follows := follows.skipGaps (scan.rest.length + 1)
  generalize scan.skipGaps (scan.rest.length + 1) = scan at follows
  dsimp only
  -- The rest is cut off here, or at its end, or goes on with a character.
  split
  · exact follows.cut _ ‹_›
  · exact follows.stays_dropStale.bind fun after kept =>
      (kept.1.unwind after.column).1.goesOn_fetchEnd
  · rename_i c rest _ next
    refine follows.stays_dropStale.bind fun after kept => follows.goesOn_beforeCut ?_
    obtain ⟨unwound, same⟩ := kept.1.unwind after.column
    exact unwound.goesOn_fetchFrom ((same.trans kept.2).trans next)

/-- More tokens are fetched until the one at some place is settled. -/
theorem Follows.goesOn_settle (place steps : Nat) : GoesOn source (scan.settle place steps) := by
  -- Every round fetches one token, or finds that none has to come in before this place.
  induction steps generalizing scan with
  | zero => exact follows
  | succ steps ih =>
    unfold settle
    split
    · exact follows
    split
    · exact follows.goesOn_fetch.bind fun _ => ih
    · refine follows.stays_dropStale.bind fun after kept => ?_
      split
      · exact kept.1.goesOn_fetch.bind fun _ => ih
      · exact kept.1

/-- All tokens of the scan are from the text, and no more of them open something than it allows. -/
theorem Follows.of_run (place steps : Nat) :
    (∀ token ∈ scan.run place steps, token.IsFrom source) ∧
      (scan.run place steps).countP Token.opens ≤ openings source := by
  -- Tokens are kept with the last one in front, which changes neither part.
  have ended {scan : Scan} (follows : scan.Follows source 0) :
      (∀ token ∈ scan.tokens.reverse, token.IsFrom source) ∧
        scan.tokens.reverse.countP Token.opens ≤ openings source := by
    refine ⟨fun token among => follows.known token (List.mem_reverse.mp among), ?_⟩
    have opened := follows.opened
    rw [List.countP_reverse]
    omega
  induction steps generalizing place scan with
  | zero => exact ended follows
  | succ steps ih =>
    have settled := follows.goesOn_settle place (scan.rest.length + 2)
    unfold run
    split
    · rename_i stop same
      obtain ⟨known, opened⟩ := ended follows
      constructor
      · -- The tokens settled so far are given, and then the stop itself.
        intro token among
        rcases List.mem_append.mp among with early | last
        · exact known token (List.mem_of_mem_take early)
        · rw [List.mem_singleton.mp last]
          exact settled.of_error same
      · have fewer := (List.take_sublist place scan.tokens.reverse).countP_le (p := Token.opens)
        rw [List.countP_append]
        exact Nat.le_trans fewer opened
    · rename_i later same
      split
      · exact ended (settled.of_ok same)
      · exact ih (settled.of_ok same) (place + 1)

end Fetch

end Scan

/-- The tokens of a source are from its text, and no more of them open something than it allows. -/
theorem of_tokensOf {source : Source}
    (cut : ∀ stop, source.cut = some stop → MayStop source.text stop) :
    (∀ token ∈ tokensOf source, token.IsFrom source.text) ∧
      (tokensOf source).countP Token.opens ≤ openings source.text := by
  -- A mark of the byte order at the start is passed over.
  have behind : (Scan.start source).rest <:+ source.text := by
    unfold Scan.start
    dsimp only
    cases source.text with
    | nil => exact List.suffix_rfl
    | cons c rest =>
      split
      · rename_i same
        cases same
        exact List.suffix_cons _ _
      · exact List.suffix_rfl
  have start : (Scan.start source).Follows source.text 0 := by
    refine ⟨behind, List.forall_mem_nil _, ?_, cut⟩
    have fewer : openings (Scan.start source).rest ≤ openings source.text :=
      behind.sublist.countP_le
    change 0 + openings (Scan.start source).rest ≤ _
    omega
  exact start.of_run 0 _

end Themer.Yaml
