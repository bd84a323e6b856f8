import Themer.AtHand
import Themer.Proofs.Disk.Place
import Themer.Settings

/-!
Settings are the usual ones with those of a document set in them.

Whatever document they come from, they are of the kinds that the program looks for in them, so that
looking them up never fails.
-/

namespace Themer

/-- The format of a given name has that name. -/
theorem Format.name_of_ofName? {name : String} {format : Format}
    (found : Format.ofName? name = some format) : format.name = name := by
  obtain ⟨same, _⟩ := List.find?_eq_some_iff_append.mp found
  exact eq_of_beq same

/-- Each format has a name of its own. -/
theorem Format.ofName?_name (format : Format) : Format.ofName? format.name = some format := by
  cases format <;> decide

namespace Datum

/-- Two keys that are the same find the same. -/
theorem find?_congr (entries : List (Datum × Datum)) {a b : Datum} (same : a.sameKey b = true) :
    find? entries a = find? entries b := by
  -- Each key of the entries is the same as both or as neither.
  induction entries with
  | nil => rfl
  | cons entry rest ih =>
    rw [find?_cons, find?_cons, ih, sameKey_comm entry.1 a, sameKey_comm entry.1 b,
      sameKey_congr same]

/-- A text is the same key as itself and as no other value. -/
theorem sameKey_text_iff (key : Datum) (value : String) :
    key.sameKey (.text value) = true ↔ key = .text value := by
  cases key <;> simp [sameKey, keyNumber?]

end Datum

namespace Settings

/-- Of entries with others set in them, the others are found first. -/
theorem find?_putAll {others : List (Datum × Datum)} (differ : Datum.KeysDiffer others)
    (entries : List (Datum × Datum)) (key : Datum) :
    Datum.find? (putAll entries others) key =
      (Datum.find? others key).or (Datum.find? entries key) := by
  -- The others are put in one by one, so the entries that they go into vary.
  induction others generalizing entries with
  | nil => rfl
  | cons entry rest ih =>
    obtain ⟨_, later⟩ := List.pairwise_cons.mp differ
    change Datum.find? (putAll (Datum.put entries entry.1 entry.2) rest) key = _
    rw [ih later, Datum.find?_put, Datum.find?_cons]
    by_cases here : entry.1.sameKey key = true
    · rw [if_pos here, if_pos here, differ.find?_rest here]
      rfl
    · rw [if_neg here, if_neg here]

/-- What is found of a setting after a value was set over the one before. -/
def merged (before : Option Datum) (value : Datum) : Datum :=
  match value, before with
  | .map others, some (.map entries) => .map (putAll entries others)
  | value, _ => value

/-- A setting is found as it was set, and the others as before. -/
theorem find?_set (settings : Settings) (key value other : Datum) :
    (settings.set key value).find? other =
      if key.sameKey other then some (merged (settings.find? key) value)
      else settings.find? other := by
  -- To set a value is to put it in, joined with the one before if both are maps.
  have entries : (settings.set key value).entries =
      Datum.put settings.entries key (merged (settings.find? key) value) := by
    cases value with
    | map others =>
      cases held : Datum.find? settings.entries key with
      | none => simp [set, merged, find?, held]
      | some old => cases old <;> simp [set, merged, find?, held]
    | _ => rfl
  rw [find?, entries, Datum.find?_put]
  rfl

/-- A setting is that of the document, set over the usual one. -/
theorem find?_ofDocument {entries : List (Datum × Datum)} (differ : Datum.KeysDiffer entries)
    (key : Datum) :
    (ofDocument entries).find? key =
      match Datum.find? entries key with
      | some value => some (merged (usual.find? key) value)
      | none => usual.find? key := by
  -- What was set before is as good as the usual settings.
  unfold ofDocument
  generalize usual = settings
  induction entries generalizing settings with
  | nil => rfl
  | cons entry rest ih =>
    obtain ⟨_, later⟩ := List.pairwise_cons.mp differ
    rw [List.foldl_cons, ih later, find?_set, Datum.find?_cons]
    by_cases here : entry.1.sameKey key = true
    · rw [if_pos here, if_pos here, differ.find?_rest here]
      unfold find?
      rw [Datum.find?_congr settings.entries here]
    · rw [if_neg here, if_neg here]

/-- The settings of a script that somebody has who has set nothing. -/
def usualScript : List (Datum × Datum) := [(enabledKey, .flag true), (pathKey, .null)]

/-- The usual settings are a format and a map for the script. -/
theorem find?_usual (key : Datum) :
    usual.find? key =
      if formatKey.sameKey key then some (.text Format.hashed.name)
      else if scriptKey.sameKey key then some (.map usualScript) else none := by
  unfold usual find?
  rw [Datum.find?_cons, Datum.find?_cons]
  rfl

/-- Whether settings are the usual ones with some entries set in them. -/
structure Merges (settings : Settings) (entries : List (Datum × Datum)) : Prop where
  keys : ∀ key, (settings.find? key).isSome = true ↔
    (usual.find? key).isSome = true ∨ (Datum.find? entries key).isSome = true
  kept : ∀ key, Datum.find? entries key = none → settings.find? key = usual.find? key
  replaced : ∀ key value, Datum.find? entries key = some value →
    (key = scriptKey → ∀ others, value ≠ .map others) → settings.find? key = some value
  joined : ∀ others, Datum.find? entries scriptKey = some (.map others) →
    ∃ script, settings.find? scriptKey = some (.map script) ∧
      ∀ key, Datum.find? script key = (Datum.find? others key).or (Datum.find? usualScript key)

/-- The settings of a document are the usual ones with its entries set in them. -/
theorem merges_ofDocument {entries : List (Datum × Datum)}
    (proper : (Datum.map entries).IsProper) : (ofDocument entries).Merges entries := by
  -- No key comes twice in a proper document, so each setting is set over the usual one at most.
  obtain ⟨differ, each⟩ : Datum.KeysDiffer entries ∧ ∀ entry ∈ entries, entry.2.IsProper := by
    cases proper with
    | map differ each => exact ⟨differ, each⟩
  constructor
  case keys =>
    intro key
    rw [find?_ofDocument differ]
    cases Datum.find? entries key <;> simp
  case kept =>
    intro key missing
    rw [find?_ofDocument differ, missing]
  case replaced =>
    intro key value found another
    rw [find?_ofDocument differ, found, find?_usual]
    -- Only a map set over the one for the script does not stand as it is.
    cases value with
    | map others =>
      have apart : ¬ scriptKey.sameKey key = true := by
        rw [Datum.sameKey_comm, scriptKey, Datum.sameKey_text_iff]
        exact fun same => another same others rfl
      rw [if_neg apart]
      by_cases ofFormat : formatKey.sameKey key = true
      · rw [if_pos ofFormat]
        rfl
      · rw [if_neg ofFormat]
        rfl
    | _ => rfl
  case joined =>
    intro others found
    obtain ⟨entry, among, held⟩ := Datum.exists_mem_of_find? found
    have inner : Datum.KeysDiffer others := by
      have proper := each entry among
      rw [held] at proper
      cases proper with
      | map differ _ => exact differ
    refine ⟨putAll usualScript others, ?_, find?_putAll inner usualScript⟩
    rw [find?_ofDocument differ, found]
    rfl

/-- A value is the name of a format where there is a format of that name. -/
theorem exists_format_of_isFormat {value : Datum} (named : isFormat value = true) :
    ∃ format : Format, value = .text format.name := by
  -- Only a text is looked for among the names of formats.
  unfold isFormat at named
  split at named
  · obtain ⟨format, found⟩ := Option.isSome_iff_exists.mp named
    exact ⟨format, by rw [Format.name_of_ofName? found]⟩
  · cases named

/-- What is not null where a setting is looked up is there. -/
theorem eq_some_of_getD {found : Option Datum} {value : Datum} (held : found.getD .null = value)
    (something : value ≠ .null) : found = some value := by
  cases found with
  | none => exact absurd held.symm something
  | some own => rw [← held, Option.getD_some]

/-- Settings with nothing wrong in them name a format, and have a map for the script. -/
theorem exists_of_noFault {settings : Settings} (fine : settings.fault? = none) :
    ∃ (format : Format) (script : List (Datum × Datum)) (enabled : Bool),
      settings.find? formatKey = some (.text format.name) ∧
      settings.find? scriptKey = some (.map script) ∧
      Datum.find? script enabledKey = some (.flag enabled) ∧
      isTextOrNull ((Datum.find? script pathKey).getD .null) = true := by
  -- Each test that finds nothing wrong says of one setting what it is.
  unfold fault? at fine
  dsimp only at fine
  split at fine
  · cases fine
  rename_i named
  obtain ⟨format, isName⟩ := exists_format_of_isFormat (by simpa using named)
  have ofFormat := eq_some_of_getD isName (by simp)
  split at fine
  · rename_i script held
    have ofScript := eq_some_of_getD held (by simp)
    split at fine
    · cases fine
    rename_i isFlag
    split at fine
    · cases fine
    rename_i isPath
    cases set : (Datum.find? script enabledKey).getD .null with
    | flag enabled =>
      exact ⟨format, script, enabled, ofFormat, ofScript, eq_some_of_getD set (by simp),
        by simpa using isPath⟩
    | _ => simp [set, Settings.isFlag] at isFlag
  · cases fine

/-- What stands in settings for the text of a path, or for none. -/
def pathValue : Option String → Datum
  | some text => .text text
  | none => .null

/-- The script at a path: the one that the text spells, or the usual one if it spells none. -/
def scriptAt (layout : Layout) : Option String → Path
  | some text => if text = "" then layout.postScript else Path.expandHome layout.home text
  | none => layout.postScript

/-- Whether settings name a format, and say of the script whether it runs and where it is. -/
structure Fits (settings : Settings) (format : Format) (enabled : Bool) (path : Option String) :
    Prop where
  format : settings.find? formatKey = some (.text format.name)
  script : ∃ entries, settings.find? scriptKey = some (.map entries) ∧
    Datum.find? entries enabledKey = some (.flag enabled) ∧
    Datum.find? entries pathKey = some (pathValue path)

/-- What is set for the path is there in all settings: it is null if a document does not set it. -/
theorem Merges.path {settings : Settings} {entries script : List (Datum × Datum)}
    (merges : settings.Merges entries) (held : settings.find? scriptKey = some (.map script)) :
    (Datum.find? script pathKey).isSome = true := by
  -- The script is the usual one, joined with one of the document, or given by this alone.
  have usualPath : Datum.find? usualScript pathKey = some .null := by rfl
  cases found : Datum.find? entries scriptKey with
  | none =>
    rw [merges.kept scriptKey found] at held
    cases held
    exact (congrArg Option.isSome usualPath).trans rfl
  | some value =>
    cases value with
    | map others =>
      obtain ⟨own, same, each⟩ := merges.joined others found
      rw [held] at same
      cases same
      rw [each, usualPath]
      cases Datum.find? others pathKey <;> rfl
    | _ =>
      rw [merges.replaced scriptKey _ found (fun _ others => by simp)] at held
      cases held

/-- Merged settings with nothing wrong in them fit. -/
theorem Merges.fits {settings : Settings} {entries : List (Datum × Datum)}
    (merges : settings.Merges entries) (fine : settings.fault? = none) :
    ∃ format enabled path, settings.Fits format enabled path := by
  -- That the path is there is known from merging, and that it is a text or null from the check.
  obtain ⟨format, script, enabled, ofFormat, ofScript, ofEnabled, isPath⟩ := exists_of_noFault fine
  obtain ⟨value, held⟩ := Option.isSome_iff_exists.mp (merges.path ofScript)
  rw [held, Option.getD_some] at isPath
  cases value with
  | text path => exact ⟨format, enabled, some path, ofFormat, script, ofScript, ofEnabled, held⟩
  | null => exact ⟨format, enabled, none, ofFormat, script, ofScript, ofEnabled, held⟩
  | _ => cases isPath

/-- The format of settings that fit is found. -/
theorem Fits.format_eq {settings : Settings} {format : Format} {enabled : Bool}
    {path : Option String} (fits : settings.Fits format enabled path) :
    settings.format = .ok format := by
  unfold Settings.format
  rw [fits.format]
  dsimp only [Option.getD_some]
  rw [Format.ofName?_name]

/-- The script of settings that fit is found: where they say, if they say where. -/
theorem Fits.script?_eq {settings : Settings} {format : Format} {enabled : Bool}
    {path : Option String} (fits : settings.Fits format enabled path) (layout : Layout) :
    settings.script? layout = .ok (if enabled then some (scriptAt layout path) else none) := by
  obtain ⟨entries, ofScript, ofEnabled, ofPath⟩ := fits.script
  have found : settings.scriptEntries = .ok entries := by
    rw [scriptEntries, ofScript]
  unfold script?
  rw [found]
  -- The lookups are settled, and what is left depends on the flag and on the text alone.
  simp only [bind, Except.bind, ofEnabled, ofPath, Option.getD_some]
  cases enabled with
  | false => rfl
  | true =>
    cases path with
    | none => rfl
    | some text =>
      by_cases empty : text = ""
      · rw [empty]
        rfl
      · simp [pathValue, scriptAt, Datum.isTruthy, Datum.plain, empty, pure, Except.pure]

/--
Whether settings come from some entries: those of the document in their file, or none.

There are none without a file, if nothing is there, and if the document counts as nothing.
-/
inductive ComeFrom (reader : DocumentReader) (disk : Disk) :
    Option Path → List (Datum × Datum) → Prop
  | document {file : Path} {bytes : Text.Bytes} {entries : List (Datum × Datum)}
      (held : disk.readFile file = .ok bytes) (read : reader.read bytes = .ok (.map entries)) :
      ComeFrom reader disk (some file) entries
  | blank {file : Path} {bytes : Text.Bytes} {document : Datum}
      (held : disk.readFile file = .ok bytes) (read : reader.read bytes = .ok document)
      (nothing : document.isTruthy = false) : ComeFrom reader disk (some file) []
  | missing {file : Path} (nowhere : disk.isThere file = .ok false) :
      ComeFrom reader disk (some file) []
  | noFile : ComeFrom reader disk none []

variable {reader : DocumentReader} {disk : Disk}

/-- Entries of a document are those of a proper map. -/
theorem ComeFrom.isProper {file : Option Path} {entries : List (Datum × Datum)}
    (source : ComeFrom reader disk file entries) : (Datum.map entries).IsProper := by
  cases source with
  | document held read => exact reader.isProper read
  | blank | missing | noFile => exact .map .nil fun _ none => nomatch none

/-- Settings that pass the check have nothing wrong in them. -/
theorem eq_of_checked {levels : Nat} {file : Path} {settings passed : Settings}
    (fine : checked levels file settings = .ok passed) :
    passed = settings ∧ settings.fault? = none := by
  -- With anything wrong in them, they would not have passed.
  unfold checked at fine
  split at fine
  · split at fine <;> cases fine
  · rename_i noFault
    cases fine
    exact ⟨rfl, noFault⟩

/-- The usual settings have nothing wrong in them. -/
theorem noFault_usual : usual.fault? = none := by rfl

/-- The settings of a file are those of the entries that they come from. -/
theorem comeFrom_of_ofFile {levels : Nat} {file : Path} {settings : Settings}
    (read : ofFile reader levels disk file = .ok settings) :
    ∃ entries, ComeFrom reader disk (some file) entries ∧ settings = ofDocument entries ∧
      settings.fault? = none := by
  -- To come to settings, the file was read and parsed, and its document was nothing or a map.
  unfold ofFile at read
  split at read
  · cases read
  · cases read
  rename_i bytes held
  split at read
  · cases read
  · cases read
  rename_i document parsed
  unfold ofValue at read
  split at read
  · rename_i nothing
    obtain ⟨rfl, fine⟩ := eq_of_checked read
    exact ⟨[], .blank held parsed (by simpa using nothing), rfl, fine⟩
  · split at read
    · obtain ⟨rfl, fine⟩ := eq_of_checked read
      exact ⟨_, .document held parsed, rfl, fine⟩
    · cases read

/-- The file of settings: the one asked for, or else the usual one if there is one. -/
def file? (layout : Option Layout) (asked : Option Path) : Option Path :=
  asked.or (layout.map Layout.configFile)

/-- The settings of a session are those of the entries that they come from. -/
theorem comeFrom_of_load {levels : Nat} {layout : Option Layout} {asked : Option Path}
    {settings : Settings} (loaded : load reader levels disk layout asked = .ok settings) :
    ∃ entries, ComeFrom reader disk (file? layout asked) entries ∧
      settings = ofDocument entries ∧ settings.fault? = none := by
  -- A file that is asked for must be there, and the usual one need not be.
  unfold load at loaded
  split at loaded
  · split at loaded
    · exact comeFrom_of_ofFile loaded
    · cases loaded
    · cases loaded
  · split at loaded
    · exact comeFrom_of_ofFile loaded
    · rename_i nowhere
      cases loaded
      exact ⟨[], .missing nowhere, rfl, noFault_usual⟩
    · cases loaded
  · cases loaded
    exact ⟨[], .noFile, rfl, noFault_usual⟩

end Settings

/--
The settings of a session are the usual ones with the entries of a document set in them.

This is so for every reader that the documents may have. The settings name a format and have a map
for the script, with a flag and with a text or null for its path. So the format is found, and so is
the script: none if the flag is off, the one at the path if that says anything, and the usual one
otherwise.
-/
theorem settings_merge_and_fit {reader : DocumentReader} {levels : Nat} {disk : Disk}
    {layout : Option Layout} {asked : Option Path} {settings : Settings}
    (loaded : Settings.load reader levels disk layout asked = .ok settings) :
    ∃ entries format enabled path,
      Settings.ComeFrom reader disk (Settings.file? layout asked) entries ∧
      settings.Merges entries ∧ settings.Fits format enabled path ∧ settings.format = .ok format ∧
      ∀ own : Layout, settings.script? own =
        .ok (if enabled then some (Settings.scriptAt own path) else none) := by
  obtain ⟨entries, source, rfl, fine⟩ := Settings.comeFrom_of_load loaded
  have merges := Settings.merges_ofDocument source.isProper
  obtain ⟨format, enabled, path, fits⟩ := merges.fits fine
  exact ⟨entries, format, enabled, path, source, merges, fits, fits.format_eq, fits.script?_eq⟩

/-- A document that sets only the path keeps the usual format, and the script stays on. -/
theorem settings_merge_and_fit_hook :
    let layout : Layout := ⟨Path.ofString "/home", Path.ofString "/home/.config/chromasync",
      Path.ofString "/home/.cache/chromasync"⟩
    let config : Location := ["home", ".config", "chromasync"]
    let disk : Disk := ⟨["home"], [(["home"], .directory), (["home", ".config"], .directory),
      (config, .directory), (config ++ ["config.yaml"], .file (Text.Utf8.encode
        "1: x\npost_script: \x7bpath: ~/hooks/post.sh, 1.0: y\x7d\n".toList) false)]⟩
    ∃ settings, Settings.load .yaml 994 disk (some layout) none = .ok settings ∧
      (settings.format.toOption, (settings.script? layout).toOption) =
        (some .hashed, some (some (Path.ofString "/home/hooks/post.sh"))) ∧
      ∃ entries format enabled path,
        Settings.ComeFrom .yaml disk (some layout.configFile) entries ∧ settings.Merges entries ∧
        settings.Fits format enabled path ∧ settings.format = .ok format ∧
        ∀ own : Layout, settings.script? own =
          .ok (if enabled then some (Settings.scriptAt own path) else none) := by
  intro layout config disk
  obtain ⟨settings, loaded, found⟩ := exists_ok_of_map_toOption (by decide +kernel :
    ((Settings.load .yaml 994 disk (some layout) none).toOption.map fun settings =>
      (settings.format.toOption, (settings.script? layout).toOption)) =
        some (some .hashed, some (some (Path.ofString "/home/hooks/post.sh"))))
  exact ⟨settings, loaded, found, settings_merge_and_fit loaded⟩

end Themer
