import Provisioner.Cli.Spec
import Provisioner.Text.Quote
import Provisioner.Cli.Similar

/-! What the command line prints about itself: usages, help pages and refusals. Help rows stand
beside their text when that fits 100 columns, else every help goes on a line of its own. A
refusal is `error:` and its reason, then tips, the usage and a pointer to `--help`, with blank
lines between the parts. -/

namespace Provisioner.Cli

def helpSetting : Setting :=
  { id := "help", long := "help", short := some 'h', help := "Print help", reading := .switch,
    order := 1000 }

def versionSetting : Setting :=
  { id := "version", long := "version", short := some 'V', help := "Print version",
    reading := .switch, order := 1001 }

def lineWidth : Nat := 100

namespace Command

def usage (c : Command) : String :=
  c.usageName ++ " [OPTIONS]" ++ (if c.hasSubcommands then " <COMMAND>" else "")

def usageWith (c : Command) (used : List Setting) : String :=
  if used.isEmpty then c.usage else
  c.usageName ++ String.join (used.map fun s => " " ++ s.display) ++
    (if c.hasSubcommands then " <COMMAND>" else "")

def rows (c : Command) : List Setting :=
  (c.settings.mergeSort fun a b => a.order < b.order || (a.order == b.order && a.sortKey ≤ b.sortKey))
    ++ [helpSetting] ++ (if c.versioned then [versionSetting] else [])

end Command

def shownDefault (v : String) : String :=
  if v.any Char.isWhitespace then Text.quote v else v

def specFacts (env : String → Option String) (s : Setting) : String :=
  let envFact := match s.env with
    | some name =>
      if s.hideEnvValue then ["[env: " ++ name ++ "]"]
      else ["[env: " ++ name ++ "=" ++ (env name).getD "" ++ "]"]
    | none => []
  let defaultFact := match s.default with
    | some v => ["[default: " ++ shownDefault v ++ "]"]
    | none => []
  " ".intercalate (envFact ++ defaultFact)

def rowHelp (env : String → Option String) (s : Setting) : String :=
  let facts := specFacts env s
  if facts.isEmpty then s.help else if s.help.isEmpty then facts else s.help ++ " " ++ facts

def shortPart (s : Setting) : String :=
  match s.short with
  | some ch => "-" ++ ch.toString ++ ", "
  | none => "    "

def formWidth (s : Setting) : Nat := 4 + s.display.length

def helpOnOwnLine (env : String → Option String) (rows : List Setting) : Bool :=
  let longest := (rows.map formWidth).foldl max 0
  let taken := longest + 4
  rows.any fun s =>
    taken ≤ lineWidth && taken * 10 > 4 * lineWidth &&
      s.help.length + (specFacts env s).length > lineWidth - taken

def optionLines (env : String → Option String) (rows : List Setting) : List String :=
  let longest := (rows.map formWidth).foldl max 0
  if helpOnOwnLine env rows then
    rows.flatMap fun s => ["  " ++ shortPart s ++ s.display, "          " ++ rowHelp env s]
  else
    rows.map fun s =>
      "  " ++ shortPart s ++ s.display ++ "".pushn ' ' (longest + 2 - formWidth s) ++
        rowHelp env s

def helpText (env : String → Option String) (c : Command) : String :=
  let longestName := ((c.subcommandNames).map String.length).foldl max 0
  let commandLines := (c.subcommands ++ [("help", helpAbout)]).map fun (n, a) =>
    "  " ++ n ++ "".pushn ' ' (longestName + 2 - n.length) ++ a
  let commands := if c.hasSubcommands then ["Commands:"] ++ commandLines ++ [""] else []
  "\n".intercalate ([c.about, "", "Usage: " ++ c.usage, ""] ++ commands ++
    ["Options:"] ++ optionLines env c.rows)

def helpCommandText : String :=
  "\n".intercalate [helpAbout, "", "Usage: " ++ binName ++ " help [COMMAND]...", "",
    "Arguments:", "  [COMMAND]...  Print help for the subcommand(s)"]

inductive ArgumentTip where
  | similar (flag : String)
  | inSubcommand (sub flag : String)
  deriving DecidableEq, Repr

/-- Why a command line is refused. -/
inductive UsageError where
  | unknownArgument (arg : String) (tip : Option ArgumentTip) (usage : String)
  | escapedSubcommand (name : String) (usage : String)
  | unneededValue (value arg : String) (usage : String)
  | repeated (arg : String) (usage : String)
  | missingValue (arg : String) (possible : List String)
  | invalidValue (value arg : String) (possible : List String)
  | refusedValue (value arg reason : String)
  | invalidSubcommand (name : String) (similar : List String) (usage : String)
  | unknownSubcommand (name : String) (usage : String)
  | missingSubcommand (names : List String) (usage : String)
  deriving DecidableEq, Repr

def valueList (heading : String) (values : List String) : String :=
  if values.isEmpty then "" else
  "\n  [" ++ heading ++ ": " ++ ", ".intercalate (values.map shownDefault) ++ "]"

def similarTip (what : String) : List String → String
  | [one] => "  tip: a similar " ++ what ++ " exists: '" ++ one ++ "'"
  | many => "  tip: some similar " ++ what ++ "s exist: " ++
      ", ".intercalate (many.map fun w => "'" ++ w ++ "'")

namespace UsageError

def parts : UsageError → String × List String × Option String
  | .unknownArgument arg tip usage =>
    let tips := match tip with
      | some (.similar flag) => [similarTip "argument" [flag]]
      | some (.inSubcommand sub flag) => ["  tip: '" ++ sub ++ " " ++ flag ++ "' exists"]
      | none => []
    ("unexpected argument '" ++ arg ++ "' found", tips, some usage)
  | .escapedSubcommand name usage =>
    ("unexpected argument '--' found",
      ["  tip: subcommand '" ++ name ++ "' exists; to use it, remove the '--' before it"],
      some usage)
  | .unneededValue value arg usage =>
    ("unexpected value '" ++ value ++ "' for '" ++ arg ++ "' found; no more were expected", [],
      some usage)
  | .repeated arg usage => ("the argument '" ++ arg ++ "' cannot be used multiple times", [],
      some usage)
  | .missingValue arg possible =>
    ("a value is required for '" ++ arg ++ "' but none was supplied" ++
      valueList "possible values" possible, [], none)
  | .invalidValue value arg possible =>
    let reason := if value.isEmpty then "a value is required for '" ++ arg ++ "' but none was supplied"
      else "invalid value '" ++ value ++ "' for '" ++ arg ++ "'"
    let tips := match (similar value possible).getLast? with
      | some s => [similarTip "value" [s]]
      | none => []
    (reason ++ valueList "possible values" possible, tips, none)
  | .refusedValue value arg reason =>
    ("invalid value '" ++ value ++ "' for '" ++ arg ++ "': " ++ reason, [], none)
  | .invalidSubcommand name candidates usage =>
    ("unrecognized subcommand '" ++ name ++ "'",
      [similarTip "subcommand" candidates,
        "  tip: to pass '" ++ name ++ "' as a value, use '" ++ binName ++ " -- " ++ name ++ "'"],
      some usage)
  | .unknownSubcommand name usage => ("unrecognized subcommand '" ++ name ++ "'", [], some usage)
  | .missingSubcommand names usage =>
    ("'" ++ binName ++ "' requires a subcommand but one was not provided" ++
      valueList "subcommands" names, [], some usage)

def text (e : UsageError) : String :=
  let (reason, tips, usage) := e.parts
  let tipText := if tips.isEmpty then "" else "\n\n" ++ "\n".intercalate tips
  let usageText := match usage with
    | some u => "\n\nUsage: " ++ u
    | none => ""
  "error: " ++ reason ++ tipText ++ usageText ++ "\n\nFor more information, try '--help'."

end UsageError

end Provisioner.Cli
