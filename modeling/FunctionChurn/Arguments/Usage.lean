/-!
# What the command line can be told

The flags of the command, their spellings, and the two texts that explain them.

* `Flag` is one choice that can be made; `Flag.spellings` are the ways to name it.
* `Flag.takesValue` tells whether a value goes with it.
* `usageText` is shown with every complaint, `helpText` is the whole explanation.
-/

namespace FunctionChurn

/-- The name of the program as its own texts give it. -/
def programName : String := "git-hotspots"

/-- **A choice on the command line.** -/
inductive Flag where
  | help
  | root
  | total
  | skip
  | pathPrefix
  | invertMatch
  | excludeFunc
  | logLevel
  | logFile
  | config
  | noProgress
  deriving DecidableEq, Repr

namespace Flag

/-- All flags, in the order of the help text. -/
def all : List Flag :=
  [help, root, total, skip, pathPrefix, invertMatch, excludeFunc, logLevel, logFile, config,
    noProgress]

/-- **The spellings of a flag**, the short one first. -/
def spellings : Flag → List String
  | help => ["-h", "--help"]
  | root => ["-r", "--root"]
  | total => ["-t", "--total"]
  | skip => ["-s", "--skip"]
  | pathPrefix => ["-p", "--prefix"]
  | invertMatch => ["-v", "--invert-match"]
  | excludeFunc => ["-F", "--exclude-func"]
  | logLevel => ["-V", "--log-level"]
  | logFile => ["--log-file"]
  | config => ["--config"]
  | noProgress => ["--no-progress"]

/-- Whether a value goes with a flag. -/
def takesValue : Flag → Bool
  | help | logLevel | noProgress => false
  | _ => true

/-- A flag as complaints name it. -/
def name (f : Flag) : String := "/".intercalate f.spellings

/-- All spellings with their flags. -/
def spelled : List (String × Flag) := all.flatMap fun f => f.spellings.map (·, f)

/-- The flag of a spelling. -/
def ofSpelling? (s : String) : Option Flag := (spelled.find? fun p => p.1 == s).map Prod.snd

end Flag

/-! ## Texts -/

/-- **The short explanation.** -/
def usageText : String :=
  "\n".intercalate [
    "usage: git-hotspots [-h] [-r ROOT] [-t TOTAL] [-s SKIP] [-p PREFIX]",
    "                    [-v INVERT_MATCH] [-F EXCLUDE_FUNC] [-V]",
    "                    [--log-file LOG_FILE] [--config CONFIG] [--no-progress]",
    "                    [root]",
    ""]

/-- **The whole explanation.** -/
def helpText : String :=
  usageText ++ "\n".intercalate [
    "",
    "Find the functions that changed most often in a git repository.",
    "",
    "positional arguments:",
    "  root                  Root of the project to inspect (defaults to the",
    "                        current directory).",
    "",
    "options:",
    "  -h, --help            show this help message and exit",
    "  -r ROOT, --root ROOT  Root of the project to inspect.",
    "  -t TOTAL, --total TOTAL",
    "                        Total number of results. Default: 50",
    "  -s SKIP, --skip SKIP  Skip the first n results.",
    "  -p PREFIX, --prefix PREFIX",
    "                        Show results beginning with the given path. Can be",
    "                        repeated.",
    "  -v INVERT_MATCH, --invert-match INVERT_MATCH",
    "                        Exclude partially matched paths. Can be repeated.",
    "  -F EXCLUDE_FUNC, --exclude-func EXCLUDE_FUNC",
    "                        Exclude functions by partial name match. Can be",
    "                        repeated.",
    "  -V, --log-level       Log level. Try -VV for more logs!",
    "  --log-file LOG_FILE   Also write logs to this file.",
    "  --config CONFIG       Path to a .hotspots.yml file (defaults to the one in",
    "                        ROOT).",
    "  --no-progress         Do not draw a progress bar.",
    "",
    "Run `git-hotspots version` to print the version.",
    ""]

end FunctionChurn
