import Themer.Color.Basic

/-! The colors of one scheme by name, with the mixes of them that have been asked for. -/

namespace Themer

/--
Colors by name, in the order they came.

Mixes stand behind the colors they are made of, each under a name of its own.
-/
structure Palette where
  entries : List (String × Color)
deriving DecidableEq, Repr

namespace Palette

/-- The mark between the fields of a mix's name; no color of a scheme has it in its name. -/
def separator : Char := ':'

/-- The name of a mix: its first color, the amount of that and its second color. -/
def mixName (first : String) (amount : Int) (second : String) : String :=
  first ++ separator.toString ++ toString amount ++ separator.toString ++ second

/-- The name of a mix, if the amount has no more digits than are written. -/
def writeMixName (first : String) (amount : Int) (second : String) : Except ColorError String :=
  if isTooLongToWrite amount then .error (.amountTooLong amount)
  else .ok (mixName first amount second)

/-- The entries with one set: a name already there keeps its place, a new one comes last. -/
def put (entries : List (String × Color)) (name : String) (color : Color) :
    List (String × Color) :=
  match entries with
  | [] => [(name, color)]
  | entry :: rest =>
    -- Names differ within a palette, so the search may end at the first of them.
    if entry.1 = name then (name, color) :: rest else entry :: put rest name color

/-- The palette of some colors, where the last color of a name counts. -/
def ofList (colors : List (String × Color)) : Palette :=
  ⟨colors.foldl (fun entries (name, color) => put entries name color) []⟩

/-- The color of a name. -/
def get? (palette : Palette) (name : String) : Option Color :=
  palette.entries.lookup name

/-- Whether a name has a color. -/
def contains (palette : Palette) (name : String) : Bool :=
  (palette.get? name).isSome

/-- The names, in order. -/
def names (palette : Palette) : List String :=
  palette.entries.map Prod.fst

/-- The number of colors and mixes. -/
def size (palette : Palette) : Nat :=
  palette.entries.length

/-- The palette as a message shows it. -/
def shown (palette : Palette) : String :=
  s!"ColorTable({palette.size} colors)"

/-- The colors of the scheme without the mixes. -/
def base (palette : Palette) : List (String × Color) :=
  palette.entries.filter fun entry => !entry.1.toList.contains separator

/--
A mix of two colors by their names, and the palette that remembers it.

A mix asked for before is given again.
One of colors that are not there is none, and an amount out of range is refused; neither is kept.
-/
def mixed (palette : Palette) (first : String) (amount : Int) (second : String) :
    Except ColorError (Option Color) × Palette :=
  match writeMixName first amount second with
  | .error e => (.error e, palette)
  | .ok name =>
    -- The name of a mix says all that goes into it, so one found under it is this mix.
    match palette.get? name with
    | some color => (.ok (some color), palette)
    | none =>
      match palette.get? first, palette.get? second with
      -- Both colors are looked up before the amount is: without them it is not judged.
      | some a, some b =>
        match a.mix amount b with
        | .ok color => (.ok (some color), ⟨put palette.entries name color⟩)
        | .error e => (.error e, palette)
      | _, _ => (.ok none, palette)

end Palette

end Themer
