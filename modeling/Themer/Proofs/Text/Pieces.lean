import Themer.Proofs.Outcome
import Themer.Proofs.Text.Blocks
import Themer.Proofs.Text.Lines
import Themer.Text.Feed

/-! A file that comes in by pieces: each piece is a share of its text, with the breaks unified. -/

namespace Themer.Text

/-- Breaks are unified on each side of a place that no break goes across. -/
theorem unifyBreaks_append {first second : List Char}
    (apart : first.getLast? = some '\r' → second.head? ≠ some '\n') :
    unifyBreaks (first ++ second) = unifyBreaks first ++ unifyBreaks second := by
  -- That no break goes across concerns the last character only, and so what is left of the text.
  have behind {c : Char} {rest : List Char}
      (apart : (c :: rest).getLast? = some '\r' → second.head? ≠ some '\n') :
      rest.getLast? = some '\r' → second.head? ≠ some '\n' := by
    intro last
    exact apart (by rw [List.getLast?_cons, last]; rfl)
  induction first using unifyBreaks.induct with
  | case1 => rfl
  | case2 rest ih =>
    have later := behind (behind apart)
    simp only [List.cons_append, unifyBreaks, ih later]
  | case3 rest alone ih =>
    have later := behind apart
    -- Nothing after the return makes it half of a break, on neither side of the place.
    have alone' : ∀ after, rest ++ second = '\n' :: after → False := by
      intro after same
      cases rest with
      | nil =>
        refine apart rfl ?_
        rw [List.nil_append] at same
        rw [same]
        rfl
      | cons c rest =>
        rw [List.cons_append, List.cons.injEq] at same
        exact alone rest (by rw [same.1])
    rw [List.cons_append, unifyBreaks.eq_3 _ alone', unifyBreaks.eq_3 _ alone, ih later,
      List.cons_append]
  | case4 c rest noPair noReturn ih =>
    have other : c ≠ '\r' := fun same => noReturn same
    have later := behind apart
    rw [List.cons_append, unifyBreaks_cons_of_ne other, unifyBreaks_cons_of_ne other, ih later,
      List.cons_append]

/-- What is left behind some first bytes is left behind as many. -/
theorem drop_length_take (size : Nat) (bytes : Bytes) :
    bytes.drop (bytes.take size).length = bytes.drop size := by
  -- Fewer bytes than asked for are all there are, and nothing is behind them.
  rw [List.length_take]
  rcases Nat.le_total size bytes.length with enough | short
  · rw [Nat.min_eq_left enough]
  · rw [Nat.min_eq_right short, List.drop_eq_nil_of_le (Nat.le_refl _),
      List.drop_eq_nil_of_le short]

namespace Feed

/-- A carriage return that waits for what follows it. -/
def waiting (feed : Feed) : List Char := if feed.breakWaits then ['\r'] else []

/-- Whether some text is what a file under way still gives, which can be read to its end. -/
def Follows (feed : Feed) (remaining : List Char) : Prop :=
  ∃ rest, Utf8.scan 0 none (feed.left ++ feed.unread) = (rest, .whole) ∧
    (Utf8.scan 0 none feed.left).1 = [] ∧
    remaining = feed.ready ++ unifyBreaks (feed.waiting ++ rest)

/-- What waited comes in front of a block, and then a return at the end of this waits. -/
theorem take_of_ne_nil (feed : Feed) (size : Nat) {text : List Char} (left : Bytes)
    (some : text ≠ []) :
    (feed.take size text left).waiting =
        (if (feed.waiting ++ text).getLast? = Option.some '\r' then ['\r'] else []) ∧
      (feed.take size text left).ready = feed.ready ++ unifyBreaks
        (if (feed.waiting ++ text).getLast? = Option.some '\r' then (feed.waiting ++ text).dropLast
        else feed.waiting ++ text) := by
  have notEmpty : text.isEmpty = false := by simpa using some
  -- The return that waited is written out, and behind it the block is the same.
  unfold take waiting
  cases feed.breakWaits <;> simp [notEmpty]

/-- The text of a block is ready or waits, and the rest of the text still follows. -/
theorem unifyBreaks_take (feed : Feed) (size : Nat) (text : List Char) (left : Bytes)
    (rest : List Char) :
    feed.ready ++ unifyBreaks (feed.waiting ++ (text ++ rest)) =
      (feed.take size text left).ready ++
        unifyBreaks ((feed.take size text left).waiting ++ rest) := by
  -- A block without a character changes nothing, and any other ends in a return or not.
  by_cases none : text = []
  · subst none
    unfold take waiting
    cases feed.breakWaits <;> simp [unifyBreaks]
  · obtain ⟨waits, ready⟩ := feed.take_of_ne_nil size left none
    rw [ready, waits, ← List.append_assoc feed.waiting, List.append_assoc feed.ready]
    congr 1
    generalize feed.waiting ++ text = block
    by_cases returns : block.getLast? = some '\r'
    · obtain ⟨body, rfl⟩ := List.getLast?_eq_some_iff.mp returns
      simp only [List.getLast?_concat, List.dropLast_concat, if_true, List.append_assoc]
      exact unifyBreaks_append fun _ => by simp
    · simp only [returns, if_false, List.nil_append]
      exact unifyBreaks_append fun last => absurd last returns

/-- Reading on as far as it takes gives a file under way that still gives the same. -/
theorem gives_fill {remaining : List Char} (wanted blocks : Nat) {feed : Feed}
    (follows : feed.Follows remaining) :
    Gives (fun filled : Feed => filled.Follows remaining) (fun _ => False)
      (feed.fill wanted blocks) := by
  -- Every block leaves a file under way that still gives the same, so the file varies.
  induction blocks generalizing feed with
  | zero => exact follows
  | succ blocks ih =>
    obtain ⟨rest, read, unfinished, rfl⟩ := follows
    rw [fill]
    split
    · exact ⟨rest, read, unfinished, rfl⟩
    split
    · -- At the end nothing is left of a character.
      rename_i ended
      rw [List.isEmpty_iff.mp ended, List.append_nil] at read
      rw [read] at unfinished
      obtain rfl : rest = [] := unfinished
      have decoded : Utf8.decode feed.left = .ok [] := by rw [Utf8.decode, read]
      rw [decoded]
      have nothing : feed.unread = [] := List.isEmpty_iff.mp ended
      refine ⟨[], ?_, rfl, ?_⟩
      · rw [nothing]
        rfl
      · unfold waiting
        cases feed.breakWaits <;> simp [unifyBreaks]
    · -- Otherwise a block is taken off the bytes, and its text goes with what is ready.
      generalize feed.blockSize (wanted - feed.ready.length) = size
      have parts : feed.left ++ feed.unread.take size ++ feed.unread.drop size =
          feed.left ++ feed.unread := by
        rw [List.append_assoc, List.take_append_drop]
      rw [← parts] at read
      obtain ⟨text, left, later, decoded, rfl, whole, kept⟩ := Utf8.decodeBlock_of_whole read
      dsimp only
      rw [decoded]
      refine ih ⟨later, ?_, kept, unifyBreaks_take ..⟩
      change Utf8.scan 0 none (left ++ feed.unread.drop (feed.unread.take size).length) = _
      rw [drop_length_take, whole]

/-- The pieces of a file that can be read to its end are its text, as far as they go. -/
theorem pieces_of_follows {remaining : List Char} (size steps : Nat) {feed : Feed}
    (follows : feed.Follows remaining) :
    (feed.pieces size steps).1.flatten <+: remaining ∧ (feed.pieces size steps).2 = none := by
  -- A piece is taken off what the file still gives, so both vary from step to step.
  induction steps generalizing feed remaining with
  | zero => exact ⟨List.nil_prefix, rfl⟩
  | succ steps ih =>
    have gives := gives_fill size (feed.unread.length + 1) follows
    rw [pieces]
    cases filled : feed.fill size (feed.unread.length + 1) with
    | error failure => exact (gives.of_error filled).elim
    | ok filled' =>
      obtain ⟨rest, read, unfinished, rfl⟩ := gives.of_ok filled
      dsimp only
      split
      · exact ⟨List.nil_prefix, rfl⟩
      · -- The piece is in front, and behind it follows what is not in it.
        have behind : Follows { filled' with ready := filled'.ready.drop size }
            (filled'.ready.drop size ++ unifyBreaks (filled'.waiting ++ rest)) :=
          ⟨rest, read, unfinished, rfl⟩
        obtain ⟨⟨last, more⟩, none⟩ := ih behind
        refine ⟨⟨last, ?_⟩, none⟩
        rw [List.flatten_cons, List.append_assoc, more, ← List.append_assoc,
          List.take_append_drop]

/-- A file before its first byte still gives all of its text. -/
theorem follows_start {bytes : Bytes} {text : List Char}
    (decoded : Utf8.decode bytes = .ok text) : (start bytes).Follows (unifyBreaks text) := by
  -- Before the first byte, nothing is left of a character, ready or waiting.
  refine ⟨text, ?_, rfl, rfl⟩
  unfold Utf8.decode at decoded
  split at decoded <;> simp_all [start]

end Feed

end Themer.Text
