import Themer.Path

/-! The directories and files of one user, found once from the environment. -/

namespace Themer

/-- The name that everything the program keeps is filed under. -/
def appName : String := "chromasync"

/-- Where everything lies: the home directory, and the two directories of the program. -/
structure Layout where
  home : Path
  configDir : Path
  cacheDir : Path
deriving DecidableEq, Repr

namespace Layout

/-- A variable of the environment, unless it is empty. -/
def filled? (environment : List (String × String)) (name : String) : Option String :=
  match environment.lookup name with
  -- An empty variable counts as one that is not set.
  | some "" => none
  | found => found

/-- The directory for one purpose: the one the environment names, or the usual one at home. -/
def baseDir (environment : List (String × String)) (home : Path) (name usual : String) : Path :=
  match filled? environment name with
  -- What the environment names is taken as it is, even where it starts at no root.
  | some text => Path.ofString text
  | none => home.child usual

/-- The layout that an environment asks for; without a home directory there is none. -/
def ofEnvironment? (environment : List (String × String)) : Option Layout :=
  (filled? environment "HOME").map fun text =>
    let home := Path.ofString text
    -- The program keeps to a directory of its own below either of the two.
    { home
      configDir := (baseDir environment home "XDG_CONFIG_HOME" ".config").child appName
      cacheDir := (baseDir environment home "XDG_CACHE_HOME" ".cache").child appName }

/-- The directory of all colorschemes. -/
def schemesDir (layout : Layout) : Path := layout.configDir.child "colorschemes"

/-- The directory of the user's own blueprints. -/
def ownBlueprintsDir (layout : Layout) : Path := layout.configDir.child "blueprints"

/-- The directory of blueprints that other programs leave. -/
def sharedBlueprintsDir (layout : Layout) : Path := layout.cacheDir.child "blueprints"

/-- The directories of blueprints, in the order they are built. -/
def blueprintDirs (layout : Layout) : List Path :=
  [layout.ownBlueprintsDir, layout.sharedBlueprintsDir]

/-- Where a blueprint's output goes unless it says otherwise. -/
def outDir (layout : Layout) : Path := layout.cacheDir.child "out"

/-- The name of the script that runs after a build. -/
def postScriptName : String := appName ++ "-post.sh"

/-- The script that runs after a build unless the settings name another. -/
def postScript (layout : Layout) : Path := layout.configDir.child postScriptName

/-- The file that remembers the colorscheme loaded last. -/
def currentScheme (layout : Layout) : Path := layout.cacheDir.child "current.json"

/-- The file of settings that is read unless another is named. -/
def configFile (layout : Layout) : Path := layout.configDir.child "config.yaml"

/-- The file of the colorscheme of a given name. -/
def schemeFile (layout : Layout) (name : String) : Path :=
  layout.schemesDir.child (name ++ ".json")

/-- Every directory that is read from or written to, in the order they are made. -/
def directories (layout : Layout) : List Path :=
  [layout.configDir, layout.schemesDir, layout.ownBlueprintsDir, layout.cacheDir, layout.outDir,
    layout.sharedBlueprintsDir]

end Layout

/-- The path that a text spells, a tilde and a slash in front standing for the home directory. -/
def Path.expandHome (home : Path) (text : String) : Path :=
  match text.toList with
  -- A tilde counts in front of a slash only; by itself it is a name like any other.
  | '~' :: '/' :: rest => home.child (String.ofList rest)
  | _ => Path.ofString text

end Themer
