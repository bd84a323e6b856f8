/-! The texts that explain the command line. -/

namespace Themer.Command.Usage

/-- A text of some lines, each of them ended. -/
def lines (texts : List String) : String :=
  String.join (texts.map (· ++ "\n"))

/-- The usage of the whole program. -/
def top : List String :=
  ["usage: chromasync [-h] [--quiet | --verbose] [--config CONFIG]",
    "                  \x7bload,reload,list\x7d ..."]

/-- What the help of the whole program says after the usage. -/
def topHelp : List String :=
  ["",
    "`chromasync` is a tool designed to automate the process of changing",
    "colorschemes for various terminal applications.",
    "",
    "positional arguments:",
    "  \x7bload,reload,list\x7d",
    "    load              Load a new colorscheme",
    "    reload            Reload the latest colorscheme",
    "    list              List the available colorschemes",
    "",
    "options:",
    "  -h, --help          show this help message and exit",
    "  --quiet, -q         Disable logs on the terminal",
    "  --verbose, -v       Show more logs on the terminal",
    "  --config CONFIG     Path to config YAML (default: config.yaml in the config",
    "                      directory)."]

/-- The usage of loading a colorscheme. -/
def load : List String :=
  ["usage: chromasync load [-h] colorscheme"]

/-- What the help of loading a colorscheme says after the usage. -/
def loadHelp : List String :=
  ["",
    "positional arguments:",
    "  colorscheme  Name of the colorscheme to load. Run `chromasync list` to list",
    "               the available themes",
    "",
    "options:",
    "  -h, --help   show this help message and exit"]

/-- The usage of building again. -/
def reload : List String :=
  ["usage: chromasync reload [-h] [--blueprint BLUEPRINT] [--no-script]"]

/-- What the help of building again says after the usage. -/
def reloadHelp : List String :=
  ["",
    "options:",
    "  -h, --help            show this help message and exit",
    "  --blueprint BLUEPRINT, -b BLUEPRINT",
    "                        The specific blueprint to reload. If not specified,",
    "                        all blueprints are reloaded",
    "  --no-script           Prevent the execution of `chromasync-post.sh`"]

/-- The usage of the table of colorschemes. -/
def list : List String :=
  ["usage: chromasync list [-h] [--dark | --light]",
    "                       [--sort-by \x7bname,background-luminance,contrast\x7d]"]

/-- What the help of the table of colorschemes says after the usage. -/
def listHelp : List String :=
  ["",
    "options:",
    "  -h, --help            show this help message and exit",
    "  --dark, -d            List colorschemes with a dark background color",
    "  --light, -l           List colorschemes with a light background color",
    "  --sort-by \x7bname,background-luminance,contrast\x7d",
    "                        Specify the sorting order (default: name)"]

end Themer.Command.Usage
