import Themer.Scheme.File
import Themer.Proofs.Blueprint.History
import Themer.Proofs.Color.Hex
import Themer.Proofs.Disk.Changed
import Themer.Proofs.Scheme.Accepted
import Themer.Proofs.Session.Work
import Themer.Proofs.Text.Lines
import Themer.Proofs.Text.Utf8

/-! A colorscheme that was loaded, used and saved is loaded again just as it was. -/

namespace Themer

namespace Palette

/-- A palette with every name that a colorscheme gives a color, each once, and with no other. -/
structure IsWhole (palette : Palette) : Prop where
  distinct : palette.names.Nodup
  known : ∀ name ∈ palette.names, name ∈ Scheme.names
  every : ∀ name ∈ Scheme.names, name ∈ palette.names

/-- The names of a whole palette are those that a colorscheme gives a color, in some order. -/
theorem isWhole_iff_perm {palette : Palette} :
    palette.IsWhole ↔ palette.names.Perm Scheme.names := by
  have once : Scheme.names.Nodup := by decide
  constructor
  · exact fun whole => (List.perm_ext_iff_of_nodup whole.distinct once).mpr fun name =>
      ⟨whole.known name, whole.every name⟩
  · exact fun same => ⟨same.nodup_iff.mpr once, fun _ => same.mem_iff.mp, fun _ => same.mem_iff.mpr⟩

/-- A whole palette has plain names. -/
theorem IsWhole.isScheme {palette : Palette} (whole : palette.IsWhole) : palette.IsScheme := by
  have plain : ∀ name ∈ Scheme.names, IsPlain name := by decide
  exact fun name among => plain name (whole.known name among)

end Palette

namespace Scheme

/-- Every text that is accepted as a colorscheme gives a whole palette. -/
theorem isWhole_of_read {levels : Nat} {text : String} {palette : Palette}
    (accepted : read levels text = .ok palette) : palette.IsWhole := by
  obtain ⟨given, _, each, spelled⟩ := read_eq_ok_iff_spells.mp accepted
  rw [Palette.isWhole_iff_perm, Palette.names, map_fst_of_spells spelled]
  exact each

/-- A file is loaded where it can be read, is a text, and that text is accepted. -/
theorem ofFile_eq_ok_iff {levels : Nat} {disk : Disk} {path : Path} {palette : Palette} :
    ofFile levels disk path = .ok palette ↔
      ∃ bytes text, disk.readFile path = .ok bytes ∧ Text.Utf8.decode bytes = .ok text ∧
        read levels (String.ofList (Text.unifyBreaks text)) = .ok palette := by
  unfold ofFile
  cases disk.readFile path with
  | error denial => cases denial <;> simp
  | ok bytes =>
    simp only [mapError_eq_ok_iff, ofBytes]
    cases decoded : Text.Utf8.decode bytes with
    | error e => simp [decoded]
    | ok text => simp [decoded, mapError_eq_ok_iff]

/-- Every file that is loaded holds a whole palette. -/
theorem isWhole_of_ofFile {levels : Nat} {disk : Disk} {path : Path} {palette : Palette}
    (loaded : ofFile levels disk path = .ok palette) : palette.IsWhole := by
  obtain ⟨_, _, _, _, accepted⟩ := ofFile_eq_ok_iff.mp loaded
  exact isWhole_of_read accepted

/-- A file is loaded only where a document and its texts have a level each. -/
theorem two_le_of_ofFile {levels : Nat} {disk : Disk} {path : Path} {palette : Palette}
    (loaded : ofFile levels disk path = .ok palette) : 2 ≤ levels := by
  obtain ⟨_, _, _, _, accepted⟩ := ofFile_eq_ok_iff.mp loaded
  exact two_le_of_read accepted

/-- A file that is loaded where some levels are left is loaded where more of them are. -/
theorem ofFile_of_le {levels left : Nat} (room : levels ≤ left) {disk : Disk} {path : Path}
    {palette : Palette} (loaded : ofFile levels disk path = .ok palette) :
    ofFile left disk path = .ok palette := by
  obtain ⟨bytes, text, held, decoded, accepted⟩ := ofFile_eq_ok_iff.mp loaded
  exact ofFile_eq_ok_iff.mpr ⟨bytes, text, held, decoded, read_of_le room accepted⟩

/-- A color is written in characters that need no escape. -/
theorem isBareText_write_hashed (color : Color) : Json.IsBareText (color.write .hashed) := by
  -- There are sixteen digits, and each channel is written as two of them.
  have digit : ∀ value < 16, Json.IsBare (Color.hexDigit value) := by decide
  have hash : Json.IsBare '#' := by decide
  have small (channel : Fin 256) : channel.val / 16 < 16 ∧ channel.val % 16 < 16 := by omega
  simp only [Json.IsBareText, Color.write, String.toList_ofList, Color.hexDigits, Color.hexPair,
    List.cons_append, List.nil_append, List.forall_mem_cons]
  exact ⟨hash, digit _ (small _).1, digit _ (small _).2, digit _ (small _).1, digit _ (small _).2,
    digit _ (small _).1, digit _ (small _).2, by simp⟩

/-- What is saved of a palette is read as the scheme that it has grown from, by two levels. -/
theorem ofBytes_fileText {levels : Nat} (enough : 2 ≤ levels) {scheme palette : Palette}
    (whole : scheme.IsWhole) (grown : Palette.GrownFrom scheme palette) :
    ofBytes levels (Text.Utf8.encode (fileText palette)) = .ok scheme := by
  -- Only the names of the scheme are written, each with the color that it had from the start.
  have base := grown.base whole.isScheme
  let given := scheme.entries.map fun entry => (entry.1, entry.2.write .hashed)
  have bareNames : ∀ name ∈ names, Json.IsBareText name := by decide
  have bare : ∀ member ∈ given, Json.IsBareMember member := by
    intro member among
    obtain ⟨entry, found, rfl⟩ := List.mem_map.mp among
    exact ⟨bareNames _ (whole.known _ (List.mem_map_of_mem found)),
      isBareText_write_hashed entry.2⟩
  have each : (given.map Prod.fst).Perm names := by
    rw [List.map_map]
    exact Palette.isWhole_iff_perm.mp whole
  have spelled : List.Forall₂ Spells given scheme.entries :=
    List.forall₂_map_left_iff.mpr (List.forall₂_same.mpr fun entry _ =>
      ⟨rfl, Color.read_write_hashed entry.2⟩)
  have text : fileText palette = Json.writeObject given := by rw [fileText, base]
  -- Each of the steps from colors to bytes is undone by the one that reads.
  rw [ofBytes, Text.Utf8.decode_encode, text]
  dsimp only
  rw [Text.unifyBreaks_eq_self (Json.not_mem_writeObject bare),
    read_writeObject enough bare each spelled]
  rfl

/-- Saving makes the directories and then writes the file, unless the system refuses either. -/
theorem runIn_save (levels : Nat) (palette : Palette) (path : Path) (session : Session) :
    (save levels palette path).runIn session =
      match session.disk.ensurePath levels path.parent with
      | (.error denial, made) =>
        (.error (.cutShort (.denied denial)), { session with disk := made })
      | (.ok _, made) =>
        match made.writeFile path (Text.Utf8.encode (fileText palette)) with
        | .error denial => (.error (.cutShort (.denied denial)), { session with disk := made })
        | .ok disk => (.ok path, { session with disk }) := by
  rw [save, Work.runIn_bind_of_ok (Work.runIn_disk session)]
  cases session.disk.ensurePath levels path.parent with
  | mk made disk =>
    dsimp only
    rw [Work.runIn_bind_of_ok (Work.runIn_setDisk disk session), Work.runIn_bind]
    cases made with
    | error denial => rfl
    | ok done =>
      -- The directories stay made, whether the file can be written then or not.
      change (Work.granted (disk.writeFile path (Text.Utf8.encode (fileText palette))) >>=
        _).runIn { session with disk } = _
      dsimp only
      cases disk.writeFile path (Text.Utf8.encode (fileText palette)) <;> rfl

/-- Loading reads the file and leaves the session alone. -/
theorem runIn_load (levels : Nat) (path : Path) (session : Session) :
    (load levels path).runIn session =
      ((ofFile levels session.disk path).mapError (·.map .scheme), session) := by
  rw [load, Work.runIn_bind_of_ok (Work.runIn_disk session), Work.runIn_ofExcept]

/-- What is reported in loading is what is wrong with the file. -/
theorem reported_of_load {levels : Nat} {path : Path} {session after : Session}
    {problem : Problem}
    (ended : (load levels path).runIn session = (.error (.reported problem), after)) :
    after = session ∧ ∃ e, problem = .scheme e ∧
      ofFile levels session.disk path = .error (.reported e) := by
  rw [runIn_load] at ended
  obtain ⟨e, bad, rfl⟩ := reported_of_mapError (congrArg Prod.fst ended)
  exact ⟨(congrArg Prod.snd ended).symm, e, rfl, bad⟩

/-- A file holds the scheme that its bytes read as. -/
theorem ofFile_of_readFile {levels : Nat} {disk : Disk} {path : Path} {bytes : Text.Bytes}
    {scheme : Palette} (held : disk.readFile path = .ok bytes)
    (reads : ofBytes levels bytes = .ok scheme) : ofFile levels disk path = .ok scheme := by
  rw [ofFile, held]
  dsimp only
  rw [reads]
  rfl

/-- A file that a whole colorscheme was saved in holds it. -/
theorem ofFile_of_saved {levels : Nat} (enough : 2 ≤ levels) {disk : Disk} {path : Path}
    {scheme : Palette} (whole : scheme.IsWhole)
    (held : disk.readFile path = .ok (Text.Utf8.encode (fileText scheme))) :
    ofFile levels disk path = .ok scheme :=
  ofFile_of_readFile held (ofBytes_fileText enough whole (.refl scheme))

end Scheme

/--
Whatever a colorscheme was asked for since it was read, saved and loaded it is what it was read as.

It has the same names in the same order with the same colors, and no mix among them.
It can be saved unless the directories or the file are refused,
and a device keeps nothing that could be loaded.
The levels left to the loads are those that the text was read with, and to the save any number.
-/
theorem load_after_save (levels making : Nat) (text : String) (scheme : Palette)
    (accepted : Scheme.read levels text = .ok scheme) (history : List Request)
    (plain : ∀ request ∈ history, request.IsPlain) (session : Session) (path : Path) :
    let palette := history.foldl Palette.after scheme
    let (outcome, after) := (Scheme.save making palette path).runIn session
    (outcome = .ok path ∧
      (after.disk.look path ≠ .ok (some .device) →
        (Scheme.load levels path).runIn after = (.ok scheme, after))) ∨
    (∃ denial, outcome = .error (.cutShort (.denied denial)) ∧
      ((session.disk.ensurePath making path.parent).1 = .error denial ∨
        (session.disk.ensurePath making path.parent).2.writeFile path
          (Text.Utf8.encode (Scheme.fileText palette)) = .error denial)) := by
  intro palette
  have whole := Scheme.isWhole_of_read accepted
  have grown : Palette.GrownFrom scheme palette :=
    (Palette.GrownFrom.refl scheme).foldl_after whole.isScheme plain
  rw [Scheme.runIn_save]
  cases session.disk.ensurePath making path.parent with
  | mk made disk =>
    cases made with
    | error denial => exact .inr ⟨denial, rfl, .inl rfl⟩
    | ok done =>
      dsimp only
      cases written : disk.writeFile path (Text.Utf8.encode (Scheme.fileText palette)) with
      | error denial => exact .inr ⟨denial, rfl, .inr rfl⟩
      | ok after =>
        refine .inl ⟨rfl, fun noDevice => ?_⟩
        -- What is written to a file can be read again, and reads as the scheme.
        have held := Disk.readFile_of_writeFile written noDevice
        rw [Scheme.runIn_load,
          Scheme.ofFile_of_readFile held
            (Scheme.ofBytes_fileText (Scheme.two_le_of_read accepted) whole grown)]
        rfl

/-- A colorscheme in an order of its own, in small digits with blanks, is kept beside two mixes. -/
theorem load_after_save_kept :
    let text := String.ofList
      (Json.writeObject (Scheme.names.reverse.map fun name => (name, " a1b2c3 ")))
    let scheme : Palette := ⟨Scheme.names.reverse.map fun name => (name, ⟨161, 178, 195⟩)⟩
    let history : List Request := [.mix "background" 50 "cursor", .mix "cursor" 101 "cursor",
      .line "#6h" "\x7bforeground:30:background\x7d".toList]
    let disk : Disk := ⟨["home"], [(["home"], .directory)]⟩
    let session : Session := ⟨disk, scheme, []⟩
    let path := Path.ofString "cache/current.json"
    let (outcome, after) :=
      (Scheme.save 1 (history.foldl Palette.after scheme) path).runIn session
    Scheme.read 2 text = .ok scheme ∧ (∀ request ∈ history, request.IsPlain) ∧
      (history.foldl Palette.after scheme).names.length = scheme.names.length + 2 ∧
      outcome = .ok path ∧ (Scheme.load 2 path).runIn after = (.ok scheme, after) := by
  intro text scheme history disk session path
  have accepted : Scheme.read 2 text = .ok scheme := by
    -- The characters of the text are at hand, so they need not be got from its bytes.
    have spelled : text.toList =
        Json.writeObject (Scheme.names.reverse.map fun name => (name, " a1b2c3 ")) :=
      String.toList_ofList
    have read : (Scheme.read 2 text).toOption = some scheme := by
      rw [Scheme.read, Json.read, spelled]
      decide +kernel
    exact ok_of_toOption read
  have plain : ∀ request ∈ history, request.IsPlain := by decide
  have mixes : (history.foldl Palette.after scheme).names.length = scheme.names.length + 2 := by
    decide +kernel
  have saved :
      let ran := (Scheme.save 1 (history.foldl Palette.after scheme) path).runIn session
      ran.1.toOption = some path ∧ ran.2.disk.look path ≠ .ok (some .device) := by
    decide +kernel
  have kept := load_after_save 2 1 text scheme accepted history plain session path
  dsimp only at saved kept
  generalize (Scheme.save 1 (history.foldl Palette.after scheme) path).runIn session = ran
    at saved kept ⊢
  obtain ⟨outcome, after⟩ := ran
  obtain ⟨done, noDevice⟩ := saved
  obtain ⟨ended, loads⟩ | ⟨denial, refused, _⟩ := kept
  · exact ⟨accepted, plain, mixes, ended, loads noDevice⟩
  · rw [refused] at done
    cases done

end Themer
