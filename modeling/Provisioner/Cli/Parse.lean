import Provisioner.Cli.Usage
import Provisioner.Harness.Duration
import Provisioner.Harness.Strategy

/-! Reading a command line into the arguments each command received. Words are read from the
left: a subcommand reads the rest, `--` makes later words plain, long and short names take a
value attached or the next word. A value is checked when it is taken in, so an unknown argument
right after an option is reported first; what the words leave missing comes from the
environment, then from defaults, and a subcommand finishes before its command. -/

namespace Provisioner.Cli

inductive Source where
  | default
  | env
  | line
  deriving DecidableEq, Repr

def Source.rank : Source → Nat
  | .default => 0
  | .env => 1
  | .line => 2

structure Given where
  setting : Setting
  values : List String
  source : Source

structure Gathered where
  given : List Given := []
  pending : Option (Setting × Option String) := none
  escaped : Bool := false

namespace Gathered

def find? (g : Gathered) (id : String) : Option Given := g.given.find? (·.setting.id == id)

def used (g : Gathered) : List Setting :=
  (g.given.filter (·.source != .default)).map (·.setting)

def waiting (g : Gathered) : Bool :=
  match g.pending with
  | some (_, none) => true
  | _ => false

end Gathered

inductive Stop where
  | help (text : String)
  | version
  | refused (e : UsageError)
  | helpInstead (text : String)

/-- Reads a signed 64-bit integer; a refusal says why the text is none. -/
def readInteger (s : String) : Except String Int :=
  let cs := s.toList
  let (neg, digits) := match cs with
    | '-' :: rest => (true, rest)
    | '+' :: rest => (false, rest)
    | _ => (false, cs)
  if cs.isEmpty then .error "cannot parse integer from empty string"
  else if digits.isEmpty then .error "invalid digit found in string"
  else
    let bound : Nat := if neg then Nat.pow 2 63 else Nat.pow 2 63 - 1
    let step (acc : Except String Nat) (c : Char) : Except String Nat :=
      match acc with
      | .error e => .error e
      | .ok n =>
        if !c.isDigit then .error "invalid digit found in string"
        else
          let n' := n * 10 + (c.toNat - '0'.toNat)
          if n' > bound then
            .error (if neg then "number too small to fit in target type"
              else "number too large to fit in target type")
          else .ok n'
    match digits.foldl step (.ok 0) with
    | .error e => .error e
    | .ok n => .ok (if neg then -(n : Int) else n)

def countLimit : Nat := 4294967295

def readCount (s : String) : Except String Nat := do
  let n ← readInteger s
  if 0 ≤ n ∧ n ≤ countLimit then pure n.toNat
  else throw (toString n ++ " is not in 0..=" ++ toString countLimit)

inductive WordError where
  | empty
  | invalidDigit
  | posOverflow
  deriving DecidableEq, Repr

def digitsValue (digits : List Char) (n : Nat) : Except WordError Nat :=
  match digits with
  | [] => .ok n
  | c :: rest =>
    if c.isDigit then
      if 10 * n + (c.toNat - '0'.toNat) ≤ countLimit then
        digitsValue rest (10 * n + (c.toNat - '0'.toNat))
      else .error .posOverflow
    else .error .invalidDigit

/-- Reads an unsigned 32-bit decimal as the standard library does, the way the harness reads its
counts: an optional plus sign, then digits, at most the largest word. -/
def readWord (s : String) : Except WordError Nat :=
  match s.toList with
  | [] => .error .empty
  | ['+'] | ['-'] => .error .invalidDigit
  | '+' :: digits => digitsValue digits 0
  | digits => digitsValue digits 0

def switchValues : List String := ["true", "false"]

def checkValue (s : Setting) (v : String) : Except UsageError Unit :=
  let refuse (reason : String) : Except UsageError Unit := .error (.refusedValue v s.display reason)
  match s.reading with
  | .text => .ok ()
  | .count => match readCount v with
    | .ok _ => .ok ()
    | .error r => refuse r
  | .duration => match Duration.parse v with
    | .ok _ => .ok ()
    | .error r => refuse r
  | .strategy => match Strategy.parse v with
    | .ok _ => .ok ()
    | .error r => refuse r
  | .switch => if switchValues.contains v then .ok () else .error (.invalidValue v s.display switchValues)

def take (cmd : Command) (g : Gathered) (s : Setting) (raw : List String) (src : Source) :
    Except UsageError Gathered := do
  if !s.many && (g.find? s.id).isSome then throw (.repeated s.display cmd.usage)
  let vals := if s.reading == .switch && raw.isEmpty then ["true"] else raw
  let vals := if s.many then vals.flatMap (·.splitOn ",") else vals
  vals.forM (checkValue s)
  match g.find? s.id with
  | some _ => return { g with given := g.given.map fun x =>
      if x.setting.id == s.id then { x with values := x.values ++ vals, source := src } else x }
  | none => return { g with given := g.given ++ [⟨s, vals, src⟩] }

def settle (cmd : Command) (g : Gathered) : Except UsageError Gathered :=
  match g.pending with
  | none => .ok g
  | some (s, none) => .error (.missingValue s.display [])
  | some (s, some v) => take cmd { g with pending := none } s [v] .line

def settleAnyway (cmd : Command) (g : Gathered) : Gathered :=
  match settle cmd g with
  | .ok g' => g'
  | .error _ => { g with pending := none }

def takeNamed (cmd : Command) (g : Gathered) (s : Setting) (raw : List String) :
    Except Stop Gathered :=
  match settle cmd g >>= fun g => take cmd g s raw .line with
  | .ok g => .ok g
  | .error e => .error (.refused e)

def flagSetting? (cmd : Command) (name : String) : Option Setting :=
  if name == "help" then some helpSetting
  else if name == "version" && cmd.versioned then some versionSetting
  else none

def argumentTip (cmd : Command) (name : String) (rest : List String) : Option ArgumentTip :=
  match closest name cmd.longNames with
  | some c => some (.similar ("--" ++ c))
  | none =>
    let found := cmd.subcommands.filterMap fun (sub, _) =>
      match subcommand? sub with
      | none => none
      | some sc => match closest name sc.longNames, rest.idxOf? sub with
        | some c, some i => some (i, sub, c)
        | _, _ => none
    match found.foldl (fun best x => match best with
        | some b => if x.1 < b.1 then some x else best
        | none => some x) none with
    | some (_, sub, c) => some (.inSubcommand sub ("--" ++ c))
    | none => none

def unknownLong (cmd : Command) (g : Gathered) (name : String) (rest : List String) :
    UsageError :=
  let g := settleAnyway cmd g
  let tip := argumentTip cmd name rest
  let suggested := match tip with
    | some (.similar flag) =>
      let n := flag.drop 2 |>.toString
      match cmd.long? n with
      | some s => some s
      | none => flagSetting? cmd n
    | _ => none
  let used := g.used
  let used := match suggested with
    | some s => if used.any (·.id == s.id) then used else used ++ [s]
    | none => used
  .unknownArgument ("--" ++ name) tip (cmd.usageWith used)

def strayWord (cmd : Command) (g : Gathered) (w : String) : UsageError :=
  if g.escaped && cmd.subcommandNames.contains w then .escapedSubcommand w cmd.usage
  else if cmd.hasSubcommands then
    match similar w cmd.subcommandNames with
    | [] => .unknownSubcommand w cmd.usage
    | cs => .invalidSubcommand w cs cmd.usage
  else .unknownArgument w none cmd.usage

def helpFor (env : String → Option String) : List String → Stop
  | [] => .help (helpText env topCommand)
  | name :: rest =>
    if name == "help" then
      match rest with
      | [] => .help helpCommandText
      | w :: _ => .refused (.unknownSubcommand w (binName ++ " help [COMMAND]..."))
    else match subcommand? name with
      | none => .refused (.unknownSubcommand name topCommand.usage)
      | some sc => match rest with
        | [] => .help (helpText env sc)
        | w :: _ => .refused (.unknownSubcommand w sc.usage)

def readCluster (env : String → Option String) (cmd : Command) (g : Gathered) :
    List Char → Except Stop Gathered
  | [] => .ok g
  | c :: more =>
    if c == 'h' then
      match settle cmd g with
      | .ok _ => .error (.help (helpText env cmd))
      | .error e => .error (.refused e)
    else if c == 'V' && cmd.versioned then
      match settle cmd g with
      | .ok _ => .error .version
      | .error e => .error (.refused e)
    else match cmd.short? c with
      | none => .error (.refused (.unknownArgument ("-" ++ c.toString) none cmd.usage))
      | some s =>
        if !s.takesValue then
          match takeNamed cmd g s [] with
          | .ok g => readCluster env cmd g more
          | .error e => .error e
        else
          let attached := match more with
            | '=' :: v => some (String.ofList v)
            | [] => none
            | v => some (String.ofList v)
          match attached with
          | some v => takeNamed cmd g s [v]
          | none =>
            match settle cmd g with
            | .ok g => .ok { g with pending := some (s, none) }
            | .error e => .error (.refused e)

def readLong (env : String → Option String) (cmd : Command) (g : Gathered) (body : String)
    (rest : List String) : Except Stop Gathered :=
  let (name, value?) := match body.splitOn "=" with
    | n :: v :: more => (n, some ("=".intercalate (v :: more)))
    | _ => (body, none)
  let asFlag := flagSetting? cmd name
  match cmd.long? name, asFlag with
  | some s, _ =>
    if s.takesValue then
      match value? with
      | some v => takeNamed cmd g s [v]
      | none => match settle cmd g with
        | .ok g => .ok { g with pending := some (s, none) }
        | .error e => .error (.refused e)
    else match value? with
      | some v => .error (.refused (.unneededValue v s.display (cmd.usageWith (g.used ++ [s]))))
      | none => takeNamed cmd g s []
  | none, some f =>
    match value? with
    | some v => .error (.refused (.unneededValue v f.display (cmd.usageWith (g.used ++ [f]))))
    | none => match settle cmd g with
      | .ok _ => .error (if f.id == "help" then .help (helpText env cmd) else .version)
      | .error e => .error (.refused e)
  | none, none => .error (.refused (unknownLong cmd g name rest))

def readWords (env : String → Option String) (cmd : Command) :
    Gathered → List String → Except Stop (Gathered × Option (String × List String))
  | g, [] => .ok (g, none)
  | g, w :: rest =>
    if !g.escaped && cmd.subcommandNames.contains w then
      if w == "help" then .error (helpFor env rest) else .ok (g, some (w, rest))
    else if !g.escaped && w == "--" then readWords env cmd { g with escaped := true } rest
    else if !g.escaped && w.startsWith "--" then
      match readLong env cmd g (w.drop 2).toString rest with
      | .ok g => readWords env cmd g rest
      | .error e => .error e
    else if !g.escaped && w.startsWith "-" && w.length > 1 then
      match readCluster env cmd g (w.toList.drop 1) with
      | .ok g => readWords env cmd g rest
      | .error e => .error e
    else if !g.escaped && g.waiting then
      match g.pending with
      | some (s, _) => readWords env cmd { g with pending := some (s, some w) } rest
      | none => readWords env cmd g rest
    else .error (.refused (strayWord cmd (settleAnyway cmd g) w))

/-- Finishes a command: its pending value, then the environment, then defaults; a command that
needs a subcommand and has none stops here. -/
def finish (env : String → Option String) (cmd : Command) (g : Gathered) (named : Bool) :
    Except Stop Gathered := do
  let g ← (settle cmd g).mapError Stop.refused
  let fromEnv (g : Gathered) (s : Setting) : Except Stop Gathered :=
    if (g.find? s.id).isSome then pure g
    else match s.env.bind env with
      | some v => (take cmd g s [v] .env).mapError Stop.refused
      | none => pure g
  let g ← cmd.settings.foldlM fromEnv g
  let byDefault (g : Gathered) (s : Setting) : Gathered :=
    if (g.find? s.id).isSome then g
    else match s.default with
      | some d => { g with given := g.given ++ [⟨s, [d], .default⟩] }
      | none => g
  let g := cmd.settings.foldl byDefault g
  if !named && cmd.hasSubcommands then
    if g.used.isEmpty then throw (.helpInstead (helpText env cmd))
    else throw (.refused (.missingSubcommand cmd.subcommandNames cmd.usage))
  return g

structure Parsed where
  top : Gathered
  subcommand : String
  sub : Gathered

def readCommandLine (env : String → Option String) (args : List String) : Except Stop Parsed := do
  let (g, named) ← readWords env topCommand {} args
  match named with
  | none =>
    let _ ← finish env topCommand g false
    throw (.refused (.missingSubcommand topCommand.subcommandNames topCommand.usage))
  | some (name, rest) =>
    match subcommand? name with
    | none => throw (.refused (.unknownSubcommand name topCommand.usage))
    | some sc =>
      let (sg, _) ← readWords env sc {} rest
      let sg ← finish env sc sg true
      let g ← finish env topCommand g true
      return ⟨g, name, sg⟩

end Provisioner.Cli
