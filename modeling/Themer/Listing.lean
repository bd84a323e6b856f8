import Themer.Number.Fixed
import Themer.RunSort
import Themer.Scheme.File

/-! A table of the colorschemes there are, by brightness and contrast. -/

namespace Themer

/-- What the table shows of a colorscheme: its name, how bright it is and how it stands out. -/
structure Listing where
  name : String
  background : Color
  foreground : Color
  luminance : Binary64
  contrast : Binary64
deriving DecidableEq, Repr

/-- What a table is sorted by. -/
inductive Order
  | name
  | luminance
  | contrast
deriving DecidableEq, Repr

/-- An order that nobody knows. -/
structure UnknownOrder where
  text : String
deriving DecidableEq, Repr

/-- The message repeats what was asked for. -/
def UnknownOrder.message (e : UnknownOrder) : String :=
  s!"Unknown sort order `{e.text}`"

namespace Order

/-- The orders by all of their names, in the order messages list them. -/
def choices : List (String × Order) :=
  [("name", .name), ("n", .name)]
    ++ (["background-luminance", "background_luminance", "bg-lum", "bg_lum", "bglum",
        "background", "bg", "luminance", "lum", "background-brightness",
        "background_brightness", "brightness"].map (·, Order.luminance))
    ++ (["contrast", "contr", "cont", "con", "cntr", "cnt"].map (·, Order.contrast))

/-- The order of a given name. -/
def ofName (name : String) : Except UnknownOrder Order :=
  match choices.lookup name with
  | some order => .ok order
  | none => .error ⟨name⟩

/-- Whether one listing comes strictly before another. -/
def before (order : Order) (x y : Listing) : Bool :=
  match order with
  | .name => x.name < y.name
  | .luminance => x.luminance.lt y.luminance
  | .contrast => x.contrast.lt y.contrast

/-- Whether a listing has a place in the order: whether what it is sorted by is a number. -/
def places (order : Order) (x : Listing) : Bool :=
  match order with
  | .name => true
  -- A name always compares, while a number that is none compares with nothing.
  | .luminance => !x.luminance.isNaN
  | .contrast => !x.contrast.isNaN

end Order

namespace Listing

/-- The luminance below which a background is dark. -/
def darkLimit : Binary64 := .ofDecimal false 5 (-1)

/-- Whether the background is dark. -/
def isDark (listing : Listing) : Bool :=
  listing.luminance.lt darkLimit

/-- What the table shows of the colorscheme in a file, if it has both of the colors. -/
def ofPalette? (path : Path) (palette : Palette) : Option Listing :=
  match palette.get? Scheme.background, palette.get? Scheme.foreground with
  -- The contrast is how far the two lie apart, whichever of them is brighter.
  | some background, some foreground =>
    let luminance := background.luminance
    some ⟨path.stem, background, foreground, luminance,
      (foreground.luminance.sub luminance).abs⟩
  | _, _ => none

/-- Those of some paths that files are at, as far as the disk can tell. -/
def filesAmong (disk : Disk) : List Path → Except OsError (List Path)
  | [] => .ok []
  | path :: rest => do
    let isFile ← disk.isFile path
    -- The first refusal ends the search, so that later paths are not looked at then.
    let more ← filesAmong disk rest
    return if isFile then path :: more else more

/-- The listings of some files; one that holds no colorscheme is told of and left out. -/
def ofFiles (levels : Nat) : List Path → Work (List Listing)
  | [] => pure []
  | path :: rest => do
    match Scheme.ofFile levels (← Work.disk) path with
    | .ok palette =>
      let more ← ofFiles levels rest
      return (ofPalette? path palette).toList ++ more
    -- A file that is at fault is passed over, and the others are still listed.
    | .error (.reported e) =>
      Work.tell .warning e.message
      ofFiles levels rest
    -- Whatever else stops the reading stops the whole listing.
    | .error (.cutShort cause) => Work.cutShort cause

/-- The listings of all colorschemes in a directory, by the names of their files. -/
def collect (levels : Nat) (directory : Path) : Work (List Listing) := do
  let disk ← Work.disk
  let names ← Work.grantedOr (fun e => .setup (.schemesUnreadable directory e))
    (disk.list directory)
  -- Looking at the names may be refused too, and that is told of the directory as well.
  let files ← Work.grantedOr (fun e => .setup (.schemesUnreadable directory e))
    ((filesAmong disk (names.map directory.entry)).mapError .os)
  ofFiles levels files

/-- The dark or the light ones among some listings, or all; dark counts first. -/
def filter (dark light : Bool) (listings : List Listing) : List Listing :=
  -- With both asked for, the dark ones are shown alone.
  if dark then listings.filter isDark
  else if light then listings.filter fun listing => !listing.isDark
  else listings

/--
The listings in an order; those that it does not tell apart stay as they were.

A value that is no number is neither before nor after any other, so that no order exists with it.
-/
def sort (order : Order) (listings : List Listing) : List Listing :=
  -- Two that neither comes before the other count as in order, which keeps them as they were.
  if listings.all order.places then listings.mergeSort fun x y => !order.before y x
  else RunSort.sort order.before listings

/-- A text filled with spaces up to a width. -/
def padded (width : Nat) (text : String) : String :=
  text ++ String.ofList (List.replicate (width - text.length) ' ')

/-- A row of the table, its first column of a given width. -/
def row (width : Nat) (name luminance contrast : String) : String :=
  s!"│ {padded width name} │ {padded 8 luminance} │ {padded 4 contrast} │"

/-- The table of some listings, line by line. -/
def table (listings : List Listing) : List String :=
  -- The first column is as wide as the longest name, and no narrower than its heading.
  let width := listings.foldl (fun width listing => max width listing.name.length) 4
  row width "NAME" "LUM (BG)" "CONT" :: listings.map fun listing =>
    row width listing.name listing.luminance.fixed2 listing.contrast.fixed2

end Listing

end Themer
