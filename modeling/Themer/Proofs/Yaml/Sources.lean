import Themer.Proofs.Text.Pieces
import Themer.Proofs.Yaml.Scanned

/-!
A document read from the bytes of a text: it has a value, or the text has the reason why not.

No other way out is left to a text, neither by the way it comes in nor by what is done with it.
-/

namespace Themer.Yaml

/-- Each piece of a source is a share of its text, and a stop at its end tells of a fault. -/
theorem Source.of_ofPieces (pieces : List (List Char)) :
    (ofPieces none pieces).text <+: pieces.flatten ∧
      ∀ stop, (ofPieces none pieces).cut = some stop → ∃ fault : Fault, stop = fault.stop := by
  -- A piece with a character that nobody can read is left out, with all behind it.
  induction pieces with
  | nil => exact ⟨List.prefix_rfl, nofun⟩
  | cons piece rest ih =>
    rw [ofPieces]
    split
    · rename_i c _
      exact ⟨List.nil_prefix, fun stop same => ⟨_, (Option.some.inj same).symm⟩⟩
    · exact ⟨(List.prefix_append_right_inj piece).mpr ih.1, ih.2⟩

/-- The source of a file that can be read to its end is its text, as far as it goes. -/
theorem Source.of_ofBytes {bytes : Text.Bytes} {text : List Char}
    (decoded : Text.Utf8.decode bytes = .ok text) :
    (ofBytes bytes).text <+: Text.unifyBreaks text ∧
      ∀ stop, (ofBytes bytes).cut = some stop → ∃ fault : Fault, stop = fault.stop := by
  have follows := Text.Feed.follows_start decoded
  obtain ⟨share, ended⟩ := Text.Feed.pieces_of_follows pieceSize (bytes.length + 1) follows
  unfold ofBytes
  generalize (Text.Feed.start bytes).pieces pieceSize (bytes.length + 1) = read at share ended ⊢
  obtain ⟨pieces, failure⟩ := read
  obtain rfl : failure = none := ended
  -- The first two pieces count as one, which does not change what they are together.
  have same (joined : List (List Char)) (whole : joined.flatten = pieces.flatten) :
      (ofPieces none joined).text <+: Text.unifyBreaks text ∧
        ∀ stop, (ofPieces none joined).cut = some stop → ∃ fault : Fault, stop = fault.stop := by
    obtain ⟨shares, faults⟩ := of_ofPieces joined
    rw [whole] at shares
    exact ⟨shares.trans share, faults⟩
  match pieces with
  | [] => exact same [] rfl
  | [piece] => exact same [piece] rfl
  | first :: second :: rest =>
    exact same ((first ++ second) :: rest) (List.append_assoc first second rest.flatten)

/-- A break opens nothing, in whatever way it is written. -/
theorem openings_unifyBreaks_le (text : List Char) :
    openings (Text.unifyBreaks text) ≤ openings text := by
  -- The cases are those of unifying: a pair becomes one break, a lone return becomes another.
  have noReturn : isOpening '\r' = false := by decide
  have noBreak : isOpening '\n' = false := by decide
  unfold openings
  induction text using Text.unifyBreaks.induct with
  | case1 => exact Nat.le_refl _
  | case2 rest ih => simpa [Text.unifyBreaks, noReturn, noBreak] using ih
  | case3 rest alone ih =>
    rw [Text.unifyBreaks.eq_3 _ alone]
    simpa [noReturn, noBreak] using ih
  | case4 c rest noPair noReturn' ih =>
    rw [Text.unifyBreaks_cons_of_ne fun same => noReturn' same]
    simpa [List.countP_cons] using ih

section Unified

variable {text part : List Char} (starts : part <+: Text.unifyBreaks text)

include starts

/-- What has no break in it is spelled in the text already. -/
theorem infix_of_infix_part {word : List Char} (unbroken : '\n' ∉ word) (among : word <:+: part) :
    word <:+: text :=
  Text.infix_of_infix_unifyBreaks unbroken (among.trans starts.isInfix)

/-- A limit that the text keeps is kept where its breaks are unified. -/
theorem WithinNumerals.of_unified (within : WithinNumerals text) : WithinNumerals part := by
  intro run among numeral
  refine within run (infix_of_infix_part starts (fun breaks => ?_) among) numeral
  exact absurd (numeral '\n' breaks) (by decide)

/-- A reason that is in a text with unified breaks is in the text itself. -/
theorem Justified.of_unified {cause : Interruption} (justified : Justified part cause) :
    Justified text cause := by
  -- Whatever the reason, it is a part of the text without a break, or counts single characters.
  cases cause with
  | tooManyDigits | tooManyToWrite => exact mt (·.of_unified starts) justified
  | badNumeral =>
    exact justified.imp (infix_of_infix_part starts (by decide))
      (infix_of_infix_part starts (by decide))
  | noCharacter | codeOutOfBounds =>
    obtain ⟨digits, values, among, read, large⟩ := justified
    refine ⟨digits, values, infix_of_infix_part starts (fun breaks => ?_) among, read, large⟩
    simp only [List.mem_cons, Char.reduceEq, false_or] at breaks
    exact absurd ((of_mapM_hexValue? read).2.1 '\n' breaks) (by decide)
  | tooDeep =>
    have fewer : openings part ≤ openings (Text.unifyBreaks text) := starts.sublist.countP_le
    have tooMany :=
      Nat.lt_of_lt_of_le justified.2 (Nat.le_trans fewer (openings_unifyBreaks_le text))
    exact ⟨justified.1, tooMany⟩
  | _ => exact justified.elim

/-- So is the reason of a stop. -/
theorem MayStop.of_unified {stop : Stop} (may : MayStop part stop) : MayStop text stop := by
  cases stop with
  | reported fault => exact trivial
  | cutShort cause => exact Justified.of_unified starts may

end Unified

/-- A source has a value that can be shown, or its text has the reason why it has none. -/
theorem gives_read_of_cut {source : Source}
    (cut : ∀ stop, source.cut = some stop → ∃ fault : Fault, stop = fault.stop) :
    Gives (IsShowable source.text) (MayStop source.text) (read source) := by
  have faults (fault : Fault) : MayStop source.text fault.stop := trivial
  have justified (stop : Stop) (same : source.cut = some stop) : MayStop source.text stop := by
    obtain ⟨fault, rfl⟩ := cut stop same
    exact faults fault
  obtain ⟨known, opened⟩ := of_tokensOf justified
  have value {text : String} {plain : Bool} (spelled : plain = true → IsSpelled source.text text) :
      Gives (IsShowable source.text) (MayStop source.text) (scalarValue text plain) :=
    gives_scalarValue_of_isSpelled spelled
  -- A value that is left out counts as an empty scalar, which every text spells.
  have nothing : IsSpelled source.text "" := .inr List.nil_infix
  have null : IsShowable source.text .null := by
    rintro - ⟨⟩
  refine gives_read faults (isHereditary_isShowable source.text) null ?_
  refine Node.gives_ofTokens faults (value fun _ => nothing) (fun token among => ?_) ?_
  · have isFrom := known token among
    cases token with
    | scalar => exact value isFrom
    | stopped => exact isFrom
    | _ => exact trivial
  · exact fun tooMany => ⟨rfl, Nat.lt_of_lt_of_le tooMany opened⟩

/-- The bytes of a text have a value that can be shown, or the text has the reason why not. -/
theorem gives_readBytes {bytes : Text.Bytes} {text : List Char}
    (decoded : Text.Utf8.decode bytes = .ok text) :
    Gives (IsShowable text) (MayStop text) (readBytes bytes) := by
  obtain ⟨starts, cut⟩ := Source.of_ofBytes decoded
  exact (gives_read_of_cut cut).mono (fun _ showable within => showable (within.of_unified starts))
    fun _ may => may.of_unified starts

end Themer.Yaml
