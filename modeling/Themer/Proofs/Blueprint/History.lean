import Themer.Proofs.Blueprint.Alike
import Themer.Proofs.Color.Average

/-! A line comes out the same whatever its palette has been asked for before. -/

namespace Themer

namespace Placeholder

/-- The color of a placeholder, worked out from the colors of a scheme alone. -/
def freshColor? (colors : String → Option Color) : Placeholder → Option Color
  | .plain name => colors name
  | .mix first digits second =>
    match readNumeral digits.toList with
    | .error _ => none
    | .ok amount => (Palette.freshMix colors first amount second).toOption.join

/-- The text for a placeholder and the warnings about it, worked out from the colors of a scheme. -/
def freshly (format : String) (colors : String → Option Color) (placeholder : Placeholder) :
    List Char × List Warning :=
  match placeholder.freshColor? colors with
  | none => ([], [.noColor placeholder.expression])
  | some color =>
    match color.writeNamed format with
    | .ok text => (text.toList, [])
    | .error e => ([], [.noFormat placeholder.expression e.name])

/-- No mix has more than the whole of its first color. -/
theorem freshMix_of_lt {colors : String → Option Color} {amount : Nat} (high : maxAmount < amount)
    (first second : String) : (Palette.freshMix colors first amount second).toOption.join = none := by
  -- Mixing refuses such an amount, whichever the colors are.
  have outside : (100 : Int) < amount := by
    rw [maxAmount] at high
    omega
  have refused (a b : Color) : a.mix amount b = .error (.amountOutOfRange amount) :=
    Color.mix_eq_error_iff.mpr ⟨.inr outside, rfl⟩
  unfold Palette.freshMix
  split
  · rfl
  · split
    · rw [refused]
      rfl
    · rfl

/-- A placeholder's color is the one worked out afresh, and the palette grows at most by it. -/
theorem color?_grown {scheme palette : Palette} (grown : Palette.GrownFrom scheme palette)
    (named : scheme.IsScheme) {placeholder : Placeholder} (plain : placeholder.IsPlain) :
    (placeholder.color? palette).1 = placeholder.freshColor? scheme.get? ∧
      Palette.GrownFrom scheme (placeholder.color? palette).2 := by
  cases placeholder with
  | plain name => exact ⟨grown.get?_of_isPlain plain, grown⟩
  | mix first digits second =>
    simp only [color?, freshColor?, readAmount]
    -- Digits that are no number give no color either way.
    cases readNumeral digits.toList with
    | error e => exact ⟨rfl, grown⟩
    | ok amount =>
      by_cases high : maxAmount < amount
      · -- Neither of the two checks on the amount lets the palette be asked.
        simp only [freshMix_of_lt high]
        by_cases huge : 255 < amount
        · simpa only [huge, if_true, true_and] using grown
        · simpa only [huge, if_false, high, if_true, true_and] using grown
      · have small : ¬ 255 < amount := by
          rw [maxAmount] at high
          omega
        -- The palette answers with the fresh mix, and keeps at most that.
        have answer := grown.mixed_fst named amount plain.1 plain.2
        have after := grown.mixed_snd amount plain.1 plain.2
        simp only [small, if_false, high, ← answer]
        cases asked : palette.mixed first amount second with
        | mk mixed left =>
          rw [asked] at after
          cases mixed <;> exact ⟨rfl, after⟩

/-- A placeholder turns into what it does afresh, whatever the palette remembers. -/
theorem resolve_grown {scheme palette : Palette} (grown : Palette.GrownFrom scheme palette)
    (named : scheme.IsScheme) (format : String) {placeholder : Placeholder}
    (plain : placeholder.IsPlain) :
    let resolution := placeholder.resolve format palette
    (resolution.text, resolution.warnings) = placeholder.freshly format scheme.get? ∧
      Palette.GrownFrom scheme resolution.palette := by
  -- From the color on, the palette is not asked for anything more.
  obtain ⟨colors, after⟩ := color?_grown grown named plain
  simp only [resolve, freshly, ← colors]
  cases asked : placeholder.color? palette with
  | mk found left =>
    rw [asked] at after
    cases found with
    | none => exact ⟨rfl, after⟩
    | some color =>
      cases written : color.writeNamed format <;> simpa only [written, true_and] using after

end Placeholder

/-- What a piece of a line turns into, worked out from the colors of a scheme alone. -/
def Piece.freshly (format : String) (colors : String → Option Color) :
    Piece → List Char × List Warning
  | .char c => ([c], [])
  | .hole placeholder => placeholder.freshly format colors

/-- What a line turns into, and the warnings on the way, from the colors of a scheme alone. -/
def freshLine (format : String) (colors : String → Option Color) (line : List Char) :
    List Char × List Warning :=
  let parts := (Placeholder.pieces line).map (Piece.freshly format colors)
  (parts.flatMap Prod.fst, parts.flatMap Prod.snd)

/-- Pieces turn into what they do afresh, one after the other, while the palette grows. -/
theorem resolvePieces_grown {scheme palette : Palette} (grown : Palette.GrownFrom scheme palette)
    (named : scheme.IsScheme) (format : String) {pieces : List Piece}
    (plain : ∀ placeholder, .hole placeholder ∈ pieces → placeholder.IsPlain) :
    let resolution := resolvePieces format palette pieces
    let parts := pieces.map (Piece.freshly format scheme.get?)
    resolution.text = parts.flatMap Prod.fst ∧ resolution.warnings = parts.flatMap Prod.snd ∧
      Palette.GrownFrom scheme resolution.palette := by
  -- That the palette has grown from the scheme is what each piece hands on to the next.
  induction pieces generalizing palette with
  | nil => exact ⟨rfl, rfl, grown⟩
  | cons piece rest ih =>
    have plainLater := fun placeholder member => plain placeholder (List.mem_cons_of_mem piece member)
    cases piece with
    | char c =>
      obtain ⟨text, warnings, after⟩ := ih grown plainLater
      simp only [resolvePieces, List.map_cons, List.flatMap_cons, Piece.freshly, text, warnings]
      exact ⟨rfl, rfl, after⟩
    | hole placeholder =>
      -- The first placeholder may add a mix, and the rest is resolved with that.
      obtain ⟨first, between⟩ :=
        Placeholder.resolve_grown grown named format (plain placeholder (by simp))
      obtain ⟨text, warnings, after⟩ := ih between plainLater
      simp only [resolvePieces, List.map_cons, List.flatMap_cons, Piece.freshly, text, warnings,
        ← first]
      exact ⟨trivial, trivial, after⟩

/-- A line turns into what it does afresh, and the palette grows at most by mixes. -/
theorem resolveLine_grown {scheme palette : Palette} (grown : Palette.GrownFrom scheme palette)
    (named : scheme.IsScheme) (format : String) (line : List Char) :
    let resolution := resolveLine format palette line
    (resolution.text, resolution.warnings) = freshLine format scheme.get? line ∧
      Palette.GrownFrom scheme resolution.palette := by
  -- Every placeholder of a line is spelled there, so it calls colors by plain names.
  obtain ⟨text, warnings, after⟩ :=
    resolvePieces_grown grown named format fun _ => Placeholder.isPlain_of_mem_pieces
  exact ⟨Prod.ext text warnings, after⟩

namespace Defaults

variable {scheme palette : Palette} (grown : Palette.GrownFrom scheme palette)
  (named : scheme.IsScheme) (defaults : Defaults) (disk : Disk) (source : Path)
include grown named

/-- A grown palette renders a blueprint given by its lines just as its scheme does. -/
theorem renderLines_grown (lines : List (List Char)) :
    (defaults.renderLines disk palette source lines).Alike
        (defaults.renderLines disk scheme source lines) ∧
      Palette.GrownFrom scheme (defaults.renderLines disk palette source lines).palette :=
  -- The scheme itself is one of the palettes that have grown from it.
  (named.bisimulation.renderLines ⟨grown, .refl scheme⟩ defaults disk source lines).imp_right
    And.left

/-- A grown palette renders the blueprint in a file just as its scheme does. -/
theorem renderFile_grown :
    (defaults.renderFile disk palette source).Alike (defaults.renderFile disk scheme source) ∧
      Palette.GrownFrom scheme (defaults.renderFile disk palette source).palette :=
  (named.bisimulation.renderFile ⟨grown, .refl scheme⟩ defaults disk source).imp_right And.left

end Defaults

/-- What a palette is asked for in the course of a session. -/
inductive Request
  | get (name : String)
  | mix (first : String) (amount : Int) (second : String)
  | line (format : String) (line : List Char)
  | lines (defaults : Defaults) (disk : Disk) (source : Path) (lines : List (List Char))
  | file (defaults : Defaults) (disk : Disk) (source : Path)

/-- Mixes are asked for by plain names; all other requests are free. -/
def Request.IsPlain : Request → Prop
  | .mix first _ second => Palette.IsPlain first ∧ Palette.IsPlain second
  | _ => True

instance : DecidablePred Request.IsPlain
  | .mix first _ second =>
    inferInstanceAs (Decidable (Palette.IsPlain first ∧ Palette.IsPlain second))
  | .get _ | .line _ _ | .lines _ _ _ _ | .file _ _ _ => isTrue trivial

/-- The palette after one request. -/
def Palette.after (palette : Palette) : Request → Palette
  | .get _ => palette
  | .mix first amount second => (palette.mixed first amount second).2
  | .line format line => (resolveLine format palette line).palette
  | .lines defaults disk source lines => (defaults.renderLines disk palette source lines).palette
  | .file defaults disk source => (defaults.renderFile disk palette source).palette

/-- No request makes a palette forget its scheme or remember a wrong mix. -/
theorem Palette.GrownFrom.after {scheme palette : Palette} (grown : GrownFrom scheme palette)
    (named : scheme.IsScheme) {request : Request} (plain : request.IsPlain) :
    GrownFrom scheme (palette.after request) := by
  cases request with
  | get name => exact grown
  | mix first amount second => exact grown.mixed_snd amount plain.1 plain.2
  | line format line => exact (resolveLine_grown grown named format line).2
  | lines defaults disk source lines =>
    exact (Defaults.renderLines_grown grown named defaults disk source lines).2
  | file defaults disk source => exact (Defaults.renderFile_grown grown named defaults disk source).2

/-- After any requests, the palette has grown from the scheme it was before the first of them. -/
theorem Palette.GrownFrom.foldl_after {scheme palette : Palette} (grown : GrownFrom scheme palette)
    (named : scheme.IsScheme) {history : List Request}
    (plain : ∀ request ∈ history, request.IsPlain) :
    GrownFrom scheme (history.foldl Palette.after palette) := by
  -- One request keeps the invariant, and so does any number of them.
  induction history generalizing palette with
  | nil => exact grown
  | cons request rest ih =>
    rw [List.forall_mem_cons] at plain
    exact ih (grown.after named plain.1) plain.2

/--
Remembering mixes cannot be noticed: after any requests a line comes out as from the scheme alone.

So a blueprint comes to the same whatever blueprints were rendered before it.
-/
theorem resolveLine_after_requests (scheme : Palette) (named : scheme.IsScheme)
    (history : List Request) (plain : ∀ request ∈ history, request.IsPlain) :
    (∀ format line blueprint,
      let resolution := resolveLine format (history.foldl Palette.after scheme) line
      let fresh := freshLine format scheme.get? line
      resolution.text = fresh.1 ∧
        resolution.warnings.map (Warning.notice blueprint) =
          fresh.2.map (Warning.notice blueprint)) ∧
    (∀ defaults disk source lines,
      (Defaults.renderLines defaults disk (history.foldl Palette.after scheme) source lines).Alike
        (defaults.renderLines disk scheme source lines)) ∧
    (∀ defaults disk source,
      (Defaults.renderFile defaults disk (history.foldl Palette.after scheme) source).Alike
        (defaults.renderFile disk scheme source)) := by
  have grown := (Palette.GrownFrom.refl scheme).foldl_after named plain
  refine ⟨?_, ?_, ?_⟩
  · intro format line blueprint
    obtain ⟨fresh, _⟩ := resolveLine_grown grown named format line
    simp only [← fresh, and_self]
  · intro defaults disk source lines
    exact (Defaults.renderLines_grown grown named defaults disk source lines).1
  · intro defaults disk source
    exact (Defaults.renderFile_grown grown named defaults disk source).1

/-- A mix that was refused, one that was kept and one that was missing leave no trace in a line. -/
theorem resolveLine_after_requests_kept :
    let scheme : Palette := ⟨[("ink", ⟨0, 0, 0⟩), ("paper", ⟨255, 255, 255⟩)]⟩
    let history : List Request := [.mix "ink" 150 "paper",
      .line "#6h" "\x7bpaper:50:ink\x7d\x7bnone\x7d".toList, .mix "none" 50 "ink", .get "paper"]
    let line := "\x7bpaper:050:ink\x7d".toList
    scheme.IsScheme ∧ (∀ request ∈ history, request.IsPlain) ∧
    (history.foldl Palette.after scheme).names = ["ink", "paper", "paper:50:ink"] ∧
    (resolveLine "6h" (history.foldl Palette.after scheme) line).text =
      (freshLine "6h" scheme.get? line).1 ∧
    (freshLine "6h" scheme.get? line).1 = "7F7F7F".toList := by
  intro scheme history line
  have named : scheme.IsScheme := by decide
  have plain : ∀ request ∈ history, request.IsPlain := by decide
  exact ⟨named, plain, by decide +kernel,
    ((resolveLine_after_requests scheme named history plain).1 "6h" line "b").1,
    by decide +kernel⟩

end Themer
