import Themer.Problem
import Themer.Proofs.Disk.Names
import Themer.Proofs.Text.OneLine

/-!
What messages take over from outside as it is, and that nothing else breaks them into lines.
-/

namespace Themer

open Text (IsOneLine isOneLine_append isOneLine_eq_true isOneLine_ofList isOneLine_intercalate
  break_not_mem_toDigits)

namespace Binary64

/-- The digits of a decimal number are no line breaks. -/
theorem break_not_mem_layout (d : Decimal) : '\n' ∉ d.layout.1 := by
  -- The layout only takes zeros away from the end of the digits.
  intro inside
  have kept := (List.dropWhile_sublist _).subset (List.mem_reverse.mp inside)
  exact break_not_mem_toDigits (by decide) _ (List.mem_reverse.mp kept)

/-- Digits are written as a number without a line break. -/
theorem break_not_mem_write (style : Style) {digits : List Char} (plain : '\n' ∉ digits)
    (point : Int) : '\n' ∉ style.write digits point := by
  have start (count : Nat) : '\n' ∉ digits.take count := fun inside =>
    plain (List.mem_of_mem_take inside)
  have rest (count : Nat) : '\n' ∉ digits.drop count := fun inside =>
    plain (List.mem_of_mem_drop inside)
  have filled (width number : Nat) : '\n' ∉ zeroFilled width number := by
    simp [zeroFilled, break_not_mem_toDigits]
  -- Every way to write them puts zeros and marks around parts of the digits.
  unfold Style.write
  dsimp only
  split
  · -- A number with an exponent has a sign in it as well, and the point only with more digits.
    have sign : '\n' ≠ if point - 1 < 0 then '-' else '+' := by split <;> decide
    have fraction : '\n' ∉ if digits.length ≤ 1 then [] else '.' :: digits.drop 1 := by
      split <;> simp [rest 1, -List.drop_one]
    generalize (if point - 1 < 0 then '-' else '+') = mark at sign
    simp [start, fraction, sign, filled, -List.drop_one]
  split
  · simp [plain]
  · have fraction : '\n' ∉ if (digits.drop point.toNat).isEmpty then ['0']
        else digits.drop point.toNat := by
      split <;> simp [rest]
    simp only [List.mem_append, not_or]
    exact ⟨⟨⟨start _, by simp⟩, by decide⟩, fraction⟩

/-- A real number is written in one line. -/
@[simp] theorem isOneLine_text (x : Binary64) : IsOneLine x.text := by
  have sign : IsOneLine (if x.negative then "-" else "") := by split <;> decide
  -- Words for what is no number or infinite, and digits else.
  unfold text
  dsimp only
  generalize (if x.negative then "-" else "") = mark at sign
  split_ifs
  · decide
  · exact isOneLine_append.mpr ⟨sign, by decide⟩
  · exact isOneLine_append.mpr ⟨sign, by decide⟩
  · have written := break_not_mem_write valueStyle (break_not_mem_layout x.shortest)
      x.shortest.layout.2
    exact isOneLine_append.mpr ⟨sign, isOneLine_ofList.mpr written⟩

end Binary64

/-- A value of a kind of its own stands in a sentence in one line. -/
@[simp] theorem Foreign.isOneLine_plain (value : Foreign) : IsOneLine value.plain :=
  value.inLine.2

namespace Datum

-- By induction on the value, with its items and its entries: the marks around them are no breaks.
mutual

/-- Whatever a value holds, messages show it in one line. -/
theorem isOneLine_shown : ∀ value : Datum, IsOneLine value.shown
  | .null | .flag true | .flag false => by decide
  | .whole value => Text.isOneLine_repr_int value
  | .real value => value.isOneLine_text
  | .text value => Text.isOneLine_quoted value
  | .foreign value => value.inLine.1
  | .list items => by
    have inside : IsOneLine (", ".intercalate (shownItems items)) :=
      (isOneLine_intercalate (by decide)).mpr (isOneLine_shownItems items)
    simp only [shown, isOneLine_append]
    exact ⟨⟨by decide, inside⟩, by decide⟩
  | .map entries => by
    have inside : IsOneLine (", ".intercalate (shownEntries entries)) :=
      (isOneLine_intercalate (by decide)).mpr (isOneLine_shownEntries entries)
    simp only [shown, isOneLine_append]
    exact ⟨⟨by decide, inside⟩, by decide⟩

/-- Each item of a list is shown in one line. -/
theorem isOneLine_shownItems : ∀ items : List Datum, ∀ text ∈ shownItems items, IsOneLine text
  | [] => by simp [shownItems]
  | item :: rest => by
    rw [shownItems, List.forall_mem_cons]
    exact ⟨isOneLine_shown item, isOneLine_shownItems rest⟩

/-- Each entry of a map is shown in one line, its key as well. -/
theorem isOneLine_shownEntries :
    ∀ entries : List (Datum × Datum), ∀ text ∈ shownEntries entries, IsOneLine text
  | [] => by simp [shownEntries]
  | (key, value) :: rest => by
    rw [shownEntries, List.forall_mem_cons]
    refine ⟨?_, isOneLine_shownEntries rest⟩
    simp only [isOneLine_append]
    exact ⟨⟨isOneLine_shown key, by decide⟩, isOneLine_shown value⟩

end

end Datum

/-- A path is written in one line exactly where no name in it has a line break. -/
theorem Path.isOneLine_text_iff {path : Path} : IsOneLine path.text ↔ path.Lacks '\n' := by
  have names : IsOneLine ("/".intercalate path.parts) ↔ path.Lacks '\n' :=
    isOneLine_intercalate (by decide)
  unfold text
  -- A path without a name is written as its anchor alone.
  split
  · rename_i none
    rw [Lacks, none]
    decide
  · rw [isOneLine_append, names]
    cases path.anchor <;> simp +decide

-- Below, the words of the program are seen to be one line by their characters: worked out from the
-- bytes of a text, as it is stored, this would take long.

/-- The message of a refusal is one line, since it quotes the path. -/
@[simp] theorem OsError.isOneLine_message (e : OsError) : IsOneLine e.message := by
  have words : IsOneLine e.cause.text := by
    cases e.cause <;> exact isOneLine_ofList.mpr (by decide)
  unfold message
  simp (disch := apply isOneLine_ofList.mpr; decide) [isOneLine_eq_true, words]

/-- The message for bytes that are no text is one line. -/
@[simp] theorem Text.Utf8.Failure.isOneLine_message (e : Failure) : IsOneLine e.message := by
  have byteIs (byte : UInt8) : IsOneLine (hexByte byte) := by
    rw [hexByte, isOneLine_ofList]
    simp
  have words : IsOneLine e.reason.text := by
    cases e.reason <;> exact isOneLine_ofList.mpr (by decide)
  unfold message
  split <;>
    simp (disch := apply isOneLine_ofList.mpr; decide) [isOneLine_eq_true, byteIs, words]

/-- The words for what is no JSON are one line, wherever it is. -/
@[simp] theorem Json.isOneLine_malformedText (cause : Cause) (place : Place) :
    IsOneLine (malformedText cause place) := by
  have words : IsOneLine cause.text := by
    cases cause <;> exact isOneLine_ofList.mpr (by decide)
  unfold malformedText
  simp (disch := apply isOneLine_ofList.mpr; decide) [isOneLine_eq_true, words]

/-- The list of all formats is one line. -/
@[simp] theorem Format.isOneLine_listed : IsOneLine Format.listed := by
  decide +kernel

/-- The names of colors are listed in one line. -/
@[simp] theorem Scheme.isOneLine_names : IsOneLine ("`, `".intercalate names) :=
  (isOneLine_intercalate (by decide)).mpr (by decide +kernel)

/-- The texts that the message for a directive takes over. -/
def DirectiveError.taken : DirectiveError → List String
  | .malformed line => [line]
  | .unknownName name _ => [name]
  | .unknownFormat value _ => [value]
  | .missingDirectory path _ | .notDirectory path _ => [path.text]
  | .closed | .os _ => []

/-- The texts that the message for a blueprint takes over. -/
def BlueprintError.taken (e : BlueprintError) : List String :=
  e.source.text :: match e.fault with
    | .directive e => e.taken
    | .unwritable output _ => [output.text]
    | .notUtf8 _ | .unreadable _ => []

/-- The texts that the message for a fault of a colorscheme takes over. -/
def Scheme.Fault.taken : Fault → List String
  | .notJson _ _ | .notObject => []
  | .repeatedName name | .unknownName name | .notText name _ | .missing name => [name]
  | .notColor name e => [name, e.text]

/-- The texts that the message for a colorscheme takes over. -/
def SchemeError.taken (e : SchemeError) : List String :=
  e.source.text :: match e.fault with
    | .content fault => fault.taken
    | .unreadable _ | .notUtf8 _ => []

/-- The texts that the message for a script takes over. -/
def ScriptError.taken : ScriptError → List String
  | .notLaunched script _ => [script.text]
  | .exited script _ complaint => [script.text, String.ofList complaint]

/-- The texts that the message for a fault of the settings takes over. -/
def SettingsFault.taken : SettingsFault → List String
  | .badFormat (.text text) => [text]
  | _ => []

/-- The texts that the message for the surroundings takes over. -/
def SetupError.taken : SetupError → List String
  | .noHome => []
  | .noBlueprint name candidates => name :: candidates.map Path.text
  | .directoryNotMade path _ | .noSettings path | .settingsUnreadable path _
  | .settingsNotMapping path | .schemesUnreadable path _ => [path.text]
  | .settingsMalformed path complaint => [path.text, complaint.words]
  | .settings file fault => file.text :: fault.taken

/-- The texts from outside that the message of a problem takes over as they are. -/
def Problem.taken : Problem → List String
  | .blueprint e => e.taken
  | .scheme e => e.taken
  | .script e => e.taken
  | .setup e => e.taken

/-- The message for a directive is broken by the texts that it takes over only. -/
theorem DirectiveError.isOneLine_message_iff {e : DirectiveError} :
    IsOneLine e.message ↔ ∀ text ∈ e.taken, IsOneLine text := by
  cases e <;> unfold message taken <;>
    simp (disch := apply isOneLine_ofList.mpr; decide) [isOneLine_eq_true, Directive.formatName,
      Directive.directoryName]

/-- The message for a blueprint is broken by the texts that it takes over only. -/
theorem BlueprintError.isOneLine_message_iff {e : BlueprintError} :
    IsOneLine e.message ↔ ∀ text ∈ e.taken, IsOneLine text := by
  obtain ⟨source, fault⟩ := e
  -- The path comes before all else, and a bad directive tells in its own words.
  unfold message
  rw [taken, List.forall_mem_cons]
  cases fault with
  | directive e =>
    simp (disch := apply isOneLine_ofList.mpr; decide) [isOneLine_eq_true, BlueprintFault.message,
      e.isOneLine_message_iff]
  | _ =>
    simp (disch := apply isOneLine_ofList.mpr; decide) [isOneLine_eq_true,
      BlueprintFault.message]

/-- The message for a text that is no color is broken by this text only. -/
theorem Color.NotHex.isOneLine_message_iff {e : NotHex} :
    IsOneLine e.message ↔ IsOneLine e.text := by
  unfold message
  simp (disch := apply isOneLine_ofList.mpr; decide) [isOneLine_eq_true]

/-- The message for a fault of a colorscheme is broken by the texts that it takes over only. -/
theorem Scheme.Fault.isOneLine_message_iff {fault : Fault} :
    IsOneLine fault.message ↔ ∀ text ∈ fault.taken, IsOneLine text := by
  cases fault <;> unfold message taken <;>
    simp (disch := apply isOneLine_ofList.mpr; decide) [isOneLine_eq_true, Datum.isOneLine_shown,
      Color.NotHex.isOneLine_message_iff]

/-- The message for a colorscheme is broken by the texts that it takes over only. -/
theorem SchemeError.isOneLine_message_iff {e : SchemeError} :
    IsOneLine e.message ↔ ∀ text ∈ e.taken, IsOneLine text := by
  obtain ⟨source, fault⟩ := e
  -- As for a blueprint, with the content in the place of a directive.
  unfold message
  rw [taken, List.forall_mem_cons]
  cases fault with
  | content fault =>
    simp (disch := apply isOneLine_ofList.mpr; decide) [isOneLine_eq_true,
      fault.isOneLine_message_iff]
  | _ => simp (disch := apply isOneLine_ofList.mpr; decide) [isOneLine_eq_true]

/-- The message for a script is broken by its path and by what it complains of only. -/
theorem ScriptError.isOneLine_message_iff {e : ScriptError} :
    IsOneLine e.message ↔ ∀ text ∈ e.taken, IsOneLine text := by
  cases e with
  | notLaunched script e =>
    unfold message taken
    simp (disch := apply isOneLine_ofList.mpr; decide) [isOneLine_eq_true]
  | exited script status complaint =>
    -- A script that says nothing is told of without a colon.
    have told : IsOneLine (if complaint.isEmpty then "" else ": " ++ String.ofList complaint) ↔
        IsOneLine (String.ofList complaint) := by
      split
      · rename_i none
        obtain rfl : complaint = [] := List.isEmpty_iff.mp none
        decide
      · simp (disch := apply isOneLine_ofList.mpr; decide) only [isOneLine_append,
          isOneLine_eq_true, true_and]
    unfold message taken
    simp (disch := apply isOneLine_ofList.mpr; decide) only [isOneLine_append,
      Text.isOneLine_toString, isOneLine_eq_true, told, List.forall_mem_cons, true_and, and_true]
    simp

/-- The message for the settings is broken by a text in the place of a format only. -/
theorem SettingsFault.isOneLine_message_iff {fault : SettingsFault} :
    IsOneLine fault.message ↔ ∀ text ∈ fault.taken, IsOneLine text := by
  cases fault with
  | badFormat value =>
    -- Of all values only a text is told as it is; the others are shown, which is one line.
    have told : IsOneLine value.plain ↔ ∀ text ∈ (badFormat value).taken, IsOneLine text := by
      cases value <;> simp [Datum.plain, taken, Datum.isOneLine_shown]
    rw [← told]
    unfold message
    simp (disch := apply isOneLine_ofList.mpr; decide) [isOneLine_eq_true]
  | _ =>
    unfold message taken
    simp (disch := apply isOneLine_ofList.mpr; decide) [isOneLine_eq_true, Datum.isOneLine_shown]

/-- The message for the surroundings is broken by the texts that it takes over only. -/
theorem SetupError.isOneLine_message_iff {e : SetupError} :
    IsOneLine e.message ↔ ∀ text ∈ e.taken, IsOneLine text := by
  cases e with
  | settings file fault =>
    unfold message taken
    simp (disch := apply isOneLine_ofList.mpr; decide) [isOneLine_eq_true,
      fault.isOneLine_message_iff]
  | noBlueprint name candidates =>
    have joined : IsOneLine ("`, `".intercalate (candidates.map Path.text)) ↔
        ∀ text ∈ candidates.map Path.text, IsOneLine text := isOneLine_intercalate (by decide)
    unfold message taken
    simp (disch := apply isOneLine_ofList.mpr; decide) only [isOneLine_append,
      Text.isOneLine_toString, isOneLine_eq_true, joined, List.forall_mem_cons, true_and, and_true]
  | _ =>
    unfold message taken
    simp (disch := apply isOneLine_ofList.mpr; decide) [isOneLine_eq_true]

/-- The message of a problem is one line exactly where each text is one that it takes over. -/
theorem Problem.isOneLine_message_iff {problem : Problem} :
    IsOneLine problem.message ↔ ∀ text ∈ problem.taken, IsOneLine text := by
  cases problem with
  | blueprint e => exact e.isOneLine_message_iff
  | scheme e => exact e.isOneLine_message_iff
  | script e => exact e.isOneLine_message_iff
  | setup e => exact e.isOneLine_message_iff

end Themer
