import Themer.Proofs.Settings.Reported

/-!
Which documents are taken as settings: the maps that fit, and what counts as nothing.

All others are refused by an error about their file. An empty list, text or zero counts as nothing
as much as null does, so that it is taken where a list, text or number that holds something is not.
-/

namespace Themer

namespace Datum

/-- What counts as nothing without being a map: null, false, zero, and what is empty. -/
inductive IsBlank : Datum → Prop
  | null : IsBlank .null
  | flag : IsBlank (.flag false)
  | whole : IsBlank (.whole 0)
  | real {value : Binary64} (zero : value.magnitude = 0) : IsBlank (.real value)
  | text : IsBlank (.text "")
  | foreign {value : Foreign} (nothing : value.isTruthy = false) : IsBlank (.foreign value)
  | list : IsBlank (.list [])

/-- What counts as nothing is blank, or a map with no entries. -/
theorem isTruthy_eq_false_iff {document : Datum} :
    document.isTruthy = false ↔ document.IsBlank ∨ document = .map [] := by
  constructor
  · intro nothing
    -- Each kind of value has one that counts as nothing, and no other.
    cases document with
    | null => exact .inl .null
    | flag value =>
      cases value with
      | false => exact .inl .flag
      | true => cases nothing
    | whole value =>
      obtain rfl : value = 0 := by simpa [isTruthy] using nothing
      exact .inl .whole
    | real value => exact .inl (.real (by simpa [isTruthy] using nothing))
    | text value =>
      obtain rfl : value = "" := by simpa [isTruthy] using nothing
      exact .inl .text
    | foreign value => exact .inl (.foreign nothing)
    | list items =>
      obtain rfl : items = [] := by simpa [isTruthy] using nothing
      exact .inl .list
    | map entries =>
      obtain rfl : entries = [] := by simpa [isTruthy] using nothing
      exact .inr rfl
  · rintro (blank | rfl)
    · cases blank <;> simp_all [isTruthy]
    · rfl

/-- The entries of a document: those of a map, or none. -/
def entries : Datum → List (Datum × Datum)
  | .map entries => entries
  | _ => []

end Datum

namespace Settings

variable {settings other : Settings} {entries : List (Datum × Datum)}

/-- Settings that fit have nothing wrong in them. -/
theorem Fits.noFault {format : Format} {enabled : Bool} {path : Option String}
    (fits : settings.Fits format enabled path) : settings.fault? = none := by
  -- Each test looks up what the settings are known to have, and is passed by it.
  obtain ⟨script, ofScript, ofEnabled, ofPath⟩ := fits.script
  have named : isFormat (.text format.name) = true := by
    rw [isFormat, Format.ofName?_name]
    rfl
  have isPath : isTextOrNull (pathValue path) = true := by cases path <;> rfl
  simp only [fault?, fits.format, ofScript, ofEnabled, ofPath, Option.getD_some, named, isPath]
  rfl

/-- Settings that come from the same entries fit alike. -/
theorem Merges.fits_of_fits (merges : settings.Merges entries) (likewise : other.Merges entries)
    {format : Format} {enabled : Bool} {path : Option String}
    (fits : settings.Fits format enabled path) : other.Fits format enabled path := by
  -- Keys that are not joined find the value from the entries, or else the usual one.
  have same {key : Datum} (single : key = scriptKey → ∀ others,
      Datum.find? entries key ≠ some (.map others)) : other.find? key = settings.find? key := by
    cases found : Datum.find? entries key with
    | none => rw [merges.kept key found, likewise.kept key found]
    | some value =>
      have apart (ofScript : key = scriptKey) (others : List (Datum × Datum)) :
          value ≠ .map others :=
        fun isMap => single ofScript others (by rw [found, isMap])
      rw [merges.replaced key value found apart, likewise.replaced key value found apart]
  obtain ⟨script, ofScript, ofEnabled, ofPath⟩ := fits.script
  refine ⟨by rw [same (by simp [formatKey, scriptKey]), fits.format], ?_⟩
  by_cases joins : ∃ others, Datum.find? entries scriptKey = some (.map others)
  · -- Two maps that were joined from the same entries may differ, but all keys find the same.
    obtain ⟨others, found⟩ := joins
    obtain ⟨own, held, each⟩ := merges.joined others found
    obtain ⟨their, theirHeld, theirEach⟩ := likewise.joined others found
    cases ofScript.symm.trans held
    exact ⟨their, theirHeld, by rw [theirEach, ← each, ofEnabled],
      by rw [theirEach, ← each, ofPath]⟩
  · have alike : other.find? scriptKey = settings.find? scriptKey :=
      same fun _ others found => joins ⟨others, found⟩
    exact ⟨script, alike.trans ofScript, ofEnabled, ofPath⟩

/-- Whether the usual settings with some entries set in them fit. -/
def Fitting (entries : List (Datum × Datum)) : Prop :=
  ∃ (settings : Settings) (format : Format) (enabled : Bool) (path : Option String),
    settings.Merges entries ∧ settings.Fits format enabled path

/-- The entries of a document have nothing wrong in them where they fit. -/
theorem fault?_ofDocument_eq_none_iff (proper : (Datum.map entries).IsProper) :
    (ofDocument entries).fault? = none ↔ Fitting entries := by
  -- Whichever settings are found to fit, those of the document merge the same entries.
  have merges := merges_ofDocument proper
  constructor
  · intro fine
    obtain ⟨format, enabled, path, fits⟩ := merges.fits fine
    exact ⟨_, format, enabled, path, merges, fits⟩
  · rintro ⟨settings, format, enabled, path, likewise, fits⟩
    exact (likewise.fits_of_fits merges fits).noFault

variable {reader : DocumentReader} {levels : Nat} {disk : Disk} {layout : Option Layout}
  {asked : Option Path} {file : Path} {bytes : Text.Bytes} {executable : Bool} {document : Datum}

/-- The settings in a file that is there are those of the document that its reader makes of it. -/
theorem load_eq_ofValue (chosen : file? layout asked = some file)
    (isFile : disk.look file = .ok (some (.file bytes executable)))
    (read : reader.read bytes = .ok document) :
    load reader levels disk layout asked = ofValue levels file document := by
  obtain ⟨held, same⟩ := load_eq_ofFile reader levels chosen isFile
  simp only [same, ofFile, held, read]

/-- A map is checked with its entries set in the usual settings, also if it has none. -/
theorem ofValue_map (levels : Nat) (file : Path) (entries : List (Datum × Datum)) :
    ofValue levels file (.map entries) = checked levels file (ofDocument entries) := by
  cases entries <;> rfl

/-- How a document in a file may be judged, and what its settings come to then. -/
inductive Judged (levels : Nat) (file : Path) : Datum → Except (Failure Problem) Settings → Prop
  | fitting {entries : List (Datum × Datum)} {settings : Settings} (fit : Fitting entries)
    (merges : settings.Merges entries) : Judged levels file (.map entries) (.ok settings)
  | blank {document : Datum} (blank : document.IsBlank) : Judged levels file document (.ok usual)
  | notMap {document : Datum} (noMap : ∀ entries, document ≠ .map entries)
    (something : ¬ document.IsBlank) :
    Judged levels file document (.error (.reported (.setup (.settingsNotMapping file))))
  | faulty {entries : List (Datum × Datum)} {fault : SettingsFault} (unfit : ¬ Fitting entries) :
    Judged levels file (.map entries) (.error (.reported (.setup (.settings file fault))))
  | unshown {entries : List (Datum × Datum)} {reason : Unshown} (unfit : ¬ Fitting entries)
    (untold : Untold levels entries reason) :
    Judged levels file (.map entries) (.error (.cutShort reason.interruption))

/-- A map is judged by what is wrong with the settings that its entries make. -/
theorem judged_map (levels : Nat) (file : Path) (proper : (Datum.map entries).IsProper) :
    Judged levels file (.map entries) (ofValue levels file (.map entries)) := by
  -- The check on the merged settings decides, and a fault may have a value that cannot be told.
  have merges := merges_ofDocument proper
  have fits := fault?_ofDocument_eq_none_iff proper
  rw [ofValue_map, checked]
  cases wrong : (ofDocument entries).fault? with
  | none => exact .fitting (fits.mp wrong) merges
  | some fault =>
    have unfit : ¬ Fitting entries := by
      rw [← fits, wrong]
      exact Option.some_ne_none fault
    dsimp only
    cases shows : fault.unshown? levels with
    | none => exact .faulty unfit
    | some reason => exact .unshown unfit (merges.untold wrong shows)

/-- Every document is judged in one of these ways. -/
theorem judged (levels : Nat) (file : Path) (proper : document.IsProper) :
    Judged levels file document (ofValue levels file document) := by
  -- A map is judged by its entries, also one without any that counts as nothing.
  by_cases isMap : ∃ entries, document = .map entries
  · obtain ⟨entries, rfl⟩ := isMap
    exact judged_map levels file proper
  have noMap (entries : List (Datum × Datum)) : document ≠ .map entries :=
    fun same => isMap ⟨entries, same⟩
  -- Whether it counts as nothing is asked first, before its kind is.
  unfold ofValue
  cases counts : document.isTruthy with
  | false =>
    obtain blank | none := Datum.isTruthy_eq_false_iff.mp counts
    · exact .blank blank
    · exact absurd none (noMap [])
  | true =>
    have something : ¬ document.IsBlank := by
      intro blank
      rw [Datum.isTruthy_eq_false_iff.mpr (.inl blank)] at counts
      cases counts
    cases document with
    | map entries => exact absurd rfl (noMap entries)
    | _ => exact .notMap noMap something

variable {outcome : Except (Failure Problem) Settings}

/-- Settings are taken from maps that fit and from what is blank. -/
theorem Judged.exists_ok_iff (judged : Judged levels file document outcome) :
    (∃ settings, outcome = .ok settings) ↔
      document.IsBlank ∨ ∃ entries, document = .map entries ∧ Fitting entries := by
  constructor
  · rintro ⟨settings, rfl⟩
    cases judged with
    | fitting fit => exact .inr ⟨_, rfl, fit⟩
    | blank blank => exact .inl blank
  · -- What could be taken is none of what is refused.
    intro acceptable
    cases judged with
    | fitting => exact ⟨_, rfl⟩
    | blank => exact ⟨_, rfl⟩
    | notMap noMap something =>
      obtain blank | ⟨entries, same, _⟩ := acceptable
      · exact absurd blank something
      · exact absurd same (noMap entries)
    | faulty unfit | unshown unfit =>
      obtain ⟨⟨⟩⟩ | ⟨_, ⟨⟩, fit⟩ := acceptable
      exact absurd fit unfit

/-- What is taken are the usual settings with the entries of the document set in them. -/
theorem Judged.merges (judged : Judged levels file document (.ok settings)) :
    settings.Merges document.entries := by
  cases judged with
  | fitting _ merges => exact merges
  | blank blank =>
    -- Nothing is set in the usual settings.
    have noEntries : document.entries = [] := by cases blank <;> rfl
    rw [noEntries]
    exact merges_ofDocument (.map .nil fun _ none => nomatch none)

/-- What is neither a map nor blank is refused for not being a map. -/
theorem Judged.of_not_map (judged : Judged levels file document outcome)
    (noMap : ∀ entries, document ≠ .map entries) (something : ¬ document.IsBlank) :
    outcome = .error (.reported (.setup (.settingsNotMapping file))) := by
  cases judged with
  | notMap => rfl
  | blank blank => exact absurd blank something
  | fitting | faulty | unshown => exact absurd rfl (noMap _)

/-- A map that does not fit is refused for what is wrong in it, unless that cannot be told. -/
theorem Judged.of_not_fitting (judged : Judged levels file (.map entries) outcome)
    (unfit : ¬ Fitting entries) :
    (∃ fault, outcome = .error (.reported (.setup (.settings file fault)))) ∨
      ∃ reason, Untold levels entries reason ∧
        outcome = .error (.cutShort reason.interruption) := by
  cases judged with
  | fitting fit => exact absurd fit unfit
  | blank blank => cases blank
  | notMap noMap => exact absurd rfl (noMap entries)
  | faulty => exact .inl ⟨_, rfl⟩
  | unshown _ untold => exact .inr ⟨_, untold, rfl⟩

end Settings

/--
A document is taken as settings if it is a map whose entries fit, or if it is blank.

This is so for every document that any reader makes of the bytes of a file.
What is taken are the usual settings with its entries set in them. Any other document is refused by
an error about its file, unless the value that the message would show is too long or too deep.
-/
theorem settings_accepted_iff {reader : DocumentReader} {levels : Nat} {disk : Disk}
    {layout : Option Layout} {asked : Option Path} {file : Path} {bytes : Text.Bytes}
    {executable : Bool} {document : Datum}
    (chosen : Settings.file? layout asked = some file)
    (isFile : disk.look file = .ok (some (.file bytes executable)))
    (read : reader.read bytes = .ok document) :
    let loaded := Settings.load reader levels disk layout asked
    ((∃ settings, loaded = .ok settings) ↔
      document.IsBlank ∨ ∃ entries, document = .map entries ∧ Settings.Fitting entries) ∧
    (∀ settings, loaded = .ok settings → settings.Merges document.entries) ∧
    ((∀ entries, document ≠ .map entries) → ¬ document.IsBlank →
      loaded = .error (.reported (.setup (.settingsNotMapping file)))) ∧
    ∀ entries, document = .map entries → ¬ Settings.Fitting entries →
      (∃ fault, loaded = .error (.reported (.setup (.settings file fault)))) ∨
        ∃ reason, Settings.Untold levels entries reason ∧
          loaded = .error (.cutShort reason.interruption) := by
  intro loaded
  have judged : Settings.Judged levels file document loaded := by
    have same : loaded = _ := Settings.load_eq_ofValue chosen isFile read
    rw [same]
    exact Settings.judged levels file (reader.isProper read)
  refine ⟨judged.exists_ok_iff, fun settings taken => ?_, judged.of_not_map, ?_⟩
  · rw [taken] at judged
    exact judged.merges
  · rintro entries rfl unfit
    exact judged.of_not_fitting unfit

/-- A map that sets one thing is taken, and a list that holds something is refused. -/
theorem settings_accepted_iff_of_two :
    let map := Text.Utf8.encode "post_script: \x7benabled: no\x7d\n".toList
    let list := Text.Utf8.encode "[1]\n".toList
    let disk : Disk := ⟨["home"], [(["home"], .directory), (["home", "c.yaml"], .file map false),
      (["home", "d.yaml"], .file list false)]⟩
    (∃ entries, DocumentReader.yaml.read map = .ok (.map entries) ∧ Settings.Fitting entries ∧
      ∃ settings, Settings.load .yaml 994 disk none (some (Path.ofString "c.yaml")) = .ok settings ∧
        settings.Merges entries) ∧
    ∃ document, DocumentReader.yaml.read list = .ok document ∧ document.kind = "list" ∧
      document.isTruthy = true ∧
      Settings.load .yaml 994 disk none (some (Path.ofString "d.yaml")) =
        .error (.reported (.setup (.settingsNotMapping (Path.ofString "d.yaml")))) := by
  intro map list disk
  constructor
  · obtain ⟨document, read, something⟩ := exists_ok_of_map_toOption (by decide +kernel :
      (DocumentReader.yaml.read map).toOption.map Datum.isTruthy = some true)
    have chosen : Settings.file? none (some (Path.ofString "c.yaml")) = _ := rfl
    obtain ⟨taken, merged, _⟩ := settings_accepted_iff chosen (by decide +kernel :
      disk.look (Path.ofString "c.yaml") = .ok (some (.file map false))) read
    obtain ⟨settings, loaded⟩ := isOk_iff.mp (by decide +kernel :
      (Settings.load .yaml 994 disk none (some (Path.ofString "c.yaml"))).isOk = true)
    obtain blank | ⟨entries, rfl, fit⟩ := taken.mp ⟨settings, loaded⟩
    · rw [Datum.isTruthy_eq_false_iff.mpr (.inl blank)] at something
      cases something
    · exact ⟨entries, read, fit, settings, loaded, merged settings loaded⟩
  · obtain ⟨document, read, shape⟩ := exists_ok_of_map_toOption (by decide +kernel :
      (DocumentReader.yaml.read list).toOption.map
        (fun document => (document.kind, document.isTruthy)) = some ("list", true))
    obtain ⟨kind, something⟩ := Prod.mk.inj shape
    have chosen : Settings.file? none (some (Path.ofString "d.yaml")) = _ := rfl
    obtain ⟨_, _, refused, _⟩ := settings_accepted_iff chosen (by decide +kernel :
      disk.look (Path.ofString "d.yaml") = .ok (some (.file list false))) read
    refine ⟨document, read, kind, something, refused ?_ fun blank => ?_⟩
    · rintro entries rfl
      simp [Datum.kind] at kind
    · rw [Datum.isTruthy_eq_false_iff.mpr (.inl blank)] at something
      cases something

/-- An empty list is taken as settings, though it is no map and not null. -/
theorem empty_list_taken_as_settings :
    let bytes := Text.Utf8.encode "[]\n".toList
    let file := Path.ofString "c.yaml"
    let disk : Disk := ⟨["home"], [(["home"], .directory),
      (["home", "c.yaml"], .file bytes false)]⟩
    Settings.file? none (some file) = some file ∧
      disk.look file = .ok (some (.file bytes false)) ∧
      (∃ document, DocumentReader.yaml.read bytes = .ok document ∧ document.kind = "list") ∧
      ∃ settings, Settings.load .yaml 994 disk none (some file) = .ok settings := by
  intro bytes file disk
  exact ⟨rfl, by decide +kernel, exists_ok_of_map_toOption (by decide +kernel),
    isOk_iff.mp (by decide +kernel)⟩

end Themer
