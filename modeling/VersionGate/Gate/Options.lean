import VersionGate.CommandLine.Session

/-!
# Options of the version gate

The options that the program understands, and its help.
-/

namespace VersionGate.Gate

open CommandLine

/-- The version of the program itself. -/
def toolVersion : Version := ⟨0, 1, 0⟩

/-- The options of the program. -/
def options : List Declaration :=
  [{ name := "help", aliases := "-h --help" },
    { name := "version", aliases := "--version" },
    { name := "verbose", aliases := "-v --verbose" },
    { name := "sort", aliases := "-s --sort" },
    { name := "require", aliases := "-r --require", target := .text },
    { name := "file", aliases := "-f --file", target := .text, multiple := true },
    { name := "limit", aliases := "-n --limit", target := .integer }]

/-- The lines of the help. -/
def helpLines : List String :=
  ["cloparse - version gate",
    "Usage:",
    "  cloparse -r 1.2.0 1.4.1 1.1.9           # Check versions against a minimum",
    "  cloparse -r1.2.0 -f versions.txt        # Short options take attached values",
    "  cloparse --require 2.0 --sort -v 2.1 1.9",
    "  cloparse -n 2 -- 1.0.0 2.0.0 3.0.0      # Everything after -- is a version",
    "",
    "Options:",
    "  -h, --help             Show this message",
    "  --version              Show the cloparse version",
    "  -v, --verbose          Print one line per checked version",
    "  -s, --sort             Check versions in ascending order",
    "  -r, --require VERSION  Minimum version (default 0.0.0)",
    "  -f, --file PATH        Read whitespace-separated versions from PATH",
    "  -n, --limit N          Only check the first N versions",
    "",
    "  Config file: $XDG_CONFIG_HOME/cloparse.conf or $HOME/.config/cloparse.conf",
    "  Config format: KEY=VALUE (short_option_length, default_args, require)",
    "  Supports CLOPARSE_OPTS=... and CLOPARSE_SHORT_OPTION_LENGTH=... overrides",
    ""]

/-- The line that tells the version of the program. -/
def versionLine : String :=
  "cloparse " ++ toolVersion.text

end VersionGate.Gate
