import Themer.Proofs.Color.Memory
import Themer.Proofs.Json.Deeper
import Themer.Scheme.Reader

/-! The texts that are colorschemes: objects that give each of the names one color. -/

namespace Themer

namespace Scheme

/-- Whether a name with the text of its value gives an entry: under that name, with its color. -/
def Spells (member : String × String) (entry : String × Color) : Prop :=
  entry.1 = member.1 ∧ Color.read member.2 = .ok entry.2

/-- The entries that members give have the names of these, in their order. -/
theorem map_fst_of_spells {given : List (String × String)} {entries : List (String × Color)}
    (spelled : List.Forall₂ Spells given entries) :
    entries.map Prod.fst = given.map Prod.fst := by
  -- By induction on the two lists side by side.
  induction spelled with
  | nil => rfl
  | cons first _ ih => rw [List.map_cons, List.map_cons, first.1, ih]

/-- A member is read where its name is known and its value is the text of a color. -/
theorem readMember_eq_ok_iff {name : String} {value : Datum} {entry : String × Color} :
    readMember name value = .ok entry ↔
      name ∈ names ∧ ∃ text, value = .text text ∧ Spells (name, text) entry := by
  obtain ⟨own, color⟩ := entry
  -- The name is looked at before the value.
  unfold readMember
  by_cases known : name ∈ names
  · rw [if_neg (not_not_intro known)]
    cases value with
    | text text => cases spelled : Color.read text <;> simp [known, Spells, spelled, eq_comm]
    | _ => simp
  · simp [known]

/-- The entries of an object in which all values are texts, in their order. -/
def entriesOf (given : List (String × String)) : List (Datum × Datum) :=
  given.map fun member => (.text member.1, .text member.2)

/-- An object of texts has no name twice exactly where its names differ. -/
theorem isProper_entriesOf_iff {given : List (String × String)} :
    (Datum.map (entriesOf given)).IsProper ↔ (given.map Prod.fst).Nodup := by
  have whole := @Json.isProper_map_iff (given.map fun member => (member.1, .text member.2))
  rw [List.map_map, List.map_map] at whole
  -- A text holds nothing that could have a name twice.
  exact whole.trans (and_iff_left (List.forall_mem_map.mpr fun _ _ => .text))

/-- Texts under names are read where the names are known and the texts are colors. -/
theorem readMembers_entriesOf {given : List (String × String)} {colors : List (String × Color)} :
    readMembers (entriesOf given) = .ok colors ↔
      (∀ member ∈ given, member.1 ∈ names) ∧ List.Forall₂ Spells given colors := by
  -- Members are read from the first on, and each one read gives the next of the colors.
  induction given generalizing colors with
  | nil =>
    rw [List.forall₂_nil_left_iff]
    constructor
    · intro read
      cases read
      simp
    · rintro ⟨_, rfl⟩
      rfl
  | cons member rest ih =>
    rw [entriesOf, List.map_cons, readMembers, bind_eq_ok_iff, List.forall_mem_cons,
      List.forall₂_cons_left_iff]
    constructor
    · rintro ⟨entry, first, later⟩
      obtain ⟨more, others, ended⟩ := bind_eq_ok_iff.mp later
      cases ended
      obtain ⟨known, text, isText, spells⟩ := readMember_eq_ok_iff.mp first
      cases isText
      obtain ⟨allKnown, spelled⟩ := ih.mp others
      exact ⟨⟨known, allKnown⟩, entry, more, spells, spelled, rfl⟩
    · rintro ⟨⟨known, allKnown⟩, entry, more, spells, spelled, rfl⟩
      exact ⟨entry, readMember_eq_ok_iff.mpr ⟨known, _, rfl, spells⟩,
        bind_eq_ok_iff.mpr ⟨more, ih.mpr ⟨allKnown, spelled⟩, rfl⟩⟩

/-- Members that are read have texts for their values. -/
theorem exists_entriesOf_of_readMembers {members : List (String × Datum)}
    {colors : List (String × Color)}
    (read : readMembers (members.map fun member => (.text member.1, member.2)) = .ok colors) :
    ∃ given, (members.map fun member => (.text member.1, member.2)) = entriesOf given := by
  -- A member with another value would have stopped the reading.
  induction members generalizing colors with
  | nil => exact ⟨[], rfl⟩
  | cons member rest ih =>
    rw [List.map_cons, readMembers, bind_eq_ok_iff] at read
    obtain ⟨entry, first, later⟩ := read
    obtain ⟨more, others, _⟩ := bind_eq_ok_iff.mp later
    obtain ⟨_, text, isText, _⟩ := readMember_eq_ok_iff.mp first
    obtain ⟨given, same⟩ := ih others
    refine ⟨(member.1, text) :: given, ?_⟩
    rw [List.map_cons, same, isText]
    rfl

/-- Colors are complete where each of the names has one. -/
theorem complete_eq_ok_iff {colors : List (String × Color)} {palette : Palette} :
    complete colors = .ok palette ↔
      (∀ name ∈ names, name ∈ colors.map Prod.fst) ∧ palette = Palette.ofList colors := by
  -- The search is for a name that no color has.
  have lacks (name : String) :
      (colors.lookup name).isNone = true ↔ name ∉ colors.map Prod.fst := by
    rw [Option.isNone_iff_eq_none, List.lookup_eq_none_iff, List.mem_map]
    constructor
    · rintro none ⟨entry, among, rfl⟩
      simpa using none entry among
    · exact fun absent entry among => bne_iff_ne.mpr fun same => absent ⟨entry, among, same.symm⟩
  have lacksNone : names.find? (fun name => (colors.lookup name).isNone) = none ↔
      ∀ name ∈ names, name ∈ colors.map Prod.fst := by
    rw [List.find?_eq_none]
    simp only [lacks, not_not]
  rw [← lacksNone, complete]
  cases names.find? fun name => (colors.lookup name).isNone <;> simp [eq_comm]

/-- A text is accepted where it is an object whose members are read and lack no color. -/
theorem read_eq_ok_iff {levels : Nat} {text : String} {palette : Palette} :
    read levels text = .ok palette ↔
      ∃ members colors, Json.read levels true text = .ok (.map members) ∧
        readMembers members = .ok colors ∧ complete colors = .ok palette := by
  have taken : read levels text = .ok palette ↔
      ∃ document, Json.read levels true text = .ok document ∧
        ofDatum document = .ok palette := by
    unfold read
    cases Json.read levels true text with
    | error e => cases e <;> simp
    | ok document => simp [mapError_eq_ok_iff]
  rw [taken]
  -- A document that is no object fails at once.
  constructor
  · rintro ⟨document, given, colored⟩
    cases document with
    | map members =>
      obtain ⟨colors, spelled, made⟩ := bind_eq_ok_iff.mp colored
      exact ⟨members, colors, given, spelled, made⟩
    | _ => cases colored
  · rintro ⟨members, colors, given, spelled, made⟩
    exact ⟨_, given, bind_eq_ok_iff.mpr ⟨colors, spelled, made⟩⟩

/-- A text is accepted where it is an object that names each color once and spells them all. -/
theorem read_eq_ok_iff_spells {levels : Nat} {text : String} {palette : Palette} :
    read levels text = .ok palette ↔
      ∃ given, Json.read levels false text = .ok (.map (entriesOf given)) ∧
        (given.map Prod.fst).Perm names ∧ List.Forall₂ Spells given palette.entries := by
  have once : names.Nodup := by decide
  rw [read_eq_ok_iff]
  constructor
  · rintro ⟨entries, colors, strict, read, made⟩
    obtain ⟨_, members, rfl⟩ := Json.exists_members_of_read strict
    obtain ⟨given, same⟩ := exists_entriesOf_of_readMembers read
    rw [same] at strict read
    obtain ⟨loose, proper⟩ := Json.read_eq_ok_iff.mp strict
    obtain ⟨known, spelled⟩ := readMembers_entriesOf.mp read
    obtain ⟨every, rfl⟩ := complete_eq_ok_iff.mp made
    have sameNames := map_fst_of_spells spelled
    -- The reader lets no name come twice, each member is of a known name, and no name is missing.
    have distinct := isProper_entriesOf_iff.mp proper
    have each : (given.map Prod.fst).Perm names := by
      refine (List.perm_ext_iff_of_nodup distinct once).mpr fun name => ⟨fun among => ?_, ?_⟩
      · obtain ⟨member, own, rfl⟩ := List.mem_map.mp among
        exact known member own
      · exact fun among => sameNames ▸ every name among
    refine ⟨given, loose, each, ?_⟩
    rwa [Palette.ofList_of_nodup (sameNames ▸ distinct)]
  · rintro ⟨given, loose, each, spelled⟩
    -- In whatever order, the names are those of the list, so they differ and none is missing.
    have sameNames := map_fst_of_spells spelled
    have distinct : (given.map Prod.fst).Nodup := each.nodup_iff.mpr once
    refine ⟨_, _, Json.read_eq_ok_iff.mpr ⟨loose, isProper_entriesOf_iff.mpr distinct⟩,
      readMembers_entriesOf.mpr ⟨fun member own => ?_, spelled⟩,
      complete_eq_ok_iff.mpr ⟨fun name among => ?_, ?_⟩⟩
    · exact each.mem_iff.mp (List.mem_map_of_mem own)
    · exact sameNames ▸ each.mem_iff.mpr among
    · rw [Palette.ofList_of_nodup (sameNames ▸ distinct)]

/-- A text that is accepted where some levels are left is accepted where more of them are. -/
theorem read_of_le {levels left : Nat} (room : levels ≤ left) {text : String} {palette : Palette}
    (accepted : read levels text = .ok palette) : read left text = .ok palette := by
  obtain ⟨members, colors, given, spelled, made⟩ := read_eq_ok_iff.mp accepted
  exact read_eq_ok_iff.mpr ⟨members, colors, Json.read_of_le room given, spelled, made⟩

/-- Two levels were left for a text that was accepted. -/
theorem two_le_of_read {levels : Nat} {text : String} {palette : Palette}
    (accepted : read levels text = .ok palette) : 2 ≤ levels := by
  obtain ⟨_, _, given, _⟩ := read_eq_ok_iff.mp accepted
  exact (Json.exists_members_of_read given).1

/-- An object written from bare texts is accepted where these name each color once and spell it. -/
theorem read_writeObject {levels : Nat} (enough : 2 ≤ levels) {given : List (String × String)}
    {palette : Palette} (bare : ∀ member ∈ given, Json.IsBareMember member)
    (each : (given.map Prod.fst).Perm names) (spelled : List.Forall₂ Spells given palette.entries) :
    read levels (String.ofList (Json.writeObject given)) = .ok palette := by
  have once : names.Nodup := by decide
  have loose := Json.read_writeObject enough false bare (each.nodup_iff.mpr once)
  exact read_eq_ok_iff_spells.mpr ⟨given, loose, each, spelled⟩

end Scheme

/--
A text is accepted as a colorscheme exactly where it is an object that names each of the nineteen
colors once, in any order, and nothing else, and whose values are texts of colors.

The palette has the colors in the order of the text, each as its value spells it.
Both readings are made with as many levels left.
-/
theorem scheme_accepted_iff_each_named_once (levels : Nat) (text : String) (palette : Palette) :
    (Scheme.read levels text = .ok palette ↔
      ∃ given, Json.read levels false text = .ok (.map (Scheme.entriesOf given)) ∧
        (given.map Prod.fst).Perm Scheme.names ∧
        List.Forall₂ Scheme.Spells given palette.entries) ∧
      Scheme.names.Nodup ∧ Scheme.names.length = 19 :=
  ⟨Scheme.read_eq_ok_iff_spells, by decide, by decide⟩

/-- A colorscheme that starts with its last color is accepted, blanks around the digits and all. -/
theorem scheme_accepted_iff_each_named_once_reversed :
    let given := Scheme.names.reverse.map fun name => (name, " #A1b2C3 ")
    let text := String.ofList (Json.writeObject given)
    let palette : Palette := ⟨Scheme.names.reverse.map fun name => (name, ⟨161, 178, 195⟩)⟩
    Json.read 2 false text = .ok (.map (Scheme.entriesOf given)) ∧
      Scheme.read 2 text = .ok palette := by
  intro given text palette
  have bareNames : ∀ name ∈ Scheme.names.reverse, Json.IsBareText name := by decide
  have bareText : Json.IsBareText " #A1b2C3 " := by decide
  have bare : ∀ member ∈ given, Json.IsBareMember member :=
    List.forall_mem_map.mpr fun name among => ⟨bareNames name among, bareText⟩
  have loose : Json.read 2 false text = .ok (.map (Scheme.entriesOf given)) :=
    Json.read_writeObject (Nat.le_refl 2) false bare (by decide)
  have color : Color.read " #A1b2C3 " = .ok ⟨161, 178, 195⟩ := ok_of_toOption (by decide +kernel)
  have spelled : List.Forall₂ Scheme.Spells given palette.entries :=
    List.forall₂_map_left_iff.mpr (List.forall₂_map_right_iff.mpr
      (List.forall₂_same.mpr fun _ _ => ⟨rfl, color⟩))
  have each : (given.map Prod.fst).Perm Scheme.names := by
    rw [List.map_map]
    exact (List.map_id _).symm ▸ List.reverse_perm _
  exact ⟨loose, (scheme_accepted_iff_each_named_once 2 text palette).1.mpr
    ⟨given, loose, each, spelled⟩⟩

end Themer
