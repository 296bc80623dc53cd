import Provisioner.Journal

/-! Which events and spans a log shows, as comma-separated directives. A directive is a level,
or a component prefix and a bracketed span part with an optional `=level`; no directive means
`info`. Static directives decide by the most specific match; a dynamic one, with a span name or
field values, shows its spans and admits inside them the level of its matching directives. -/

namespace Provisioner.Log

inductive Threshold where
  | off
  | upTo (l : Level)
  deriving DecidableEq, Repr

namespace Threshold

def rank : Threshold → Nat
  | .off => 0
  | .upTo l => l.rank

def admits (t : Threshold) (l : Level) : Bool := l.rank ≤ t.rank

def max (a b : Threshold) : Threshold := if a.rank < b.rank then b else a

def ofWord? (s : String) : Option Threshold :=
  match s.toLower with
  | "off" | "0" => some .off
  | "error" | "1" => some (.upTo .error)
  | "warn" | "2" => some (.upTo .warn)
  | "info" | "3" => some (.upTo .info)
  | "debug" | "4" => some (.upTo .debug)
  | "trace" | "5" => some (.upTo .trace)
  | _ => none

def readsAsLevel (s : String) : Bool :=
  (ofWord? s).isSome ||
    (!s.isEmpty && s.all Char.isDigit && s.toNat! ≤ 5)

end Threshold

structure FieldMatch where
  name : String
  value : Option String
  deriving DecidableEq, Repr

structure Directive where
  target : Option String
  span : Option String
  fields : List FieldMatch
  threshold : Threshold
  deriving DecidableEq, Repr

def isTargetChar (c : Char) : Bool :=
  c.isAlphanum || c == '_' || c == ':' || c == '-' || (c.toNat ≥ 128 && !c.isWhitespace)

def isWordChar (c : Char) : Bool := c.isAlphanum || c == '_'

def directiveParts : Nat → List Char → List (Bool × String) × List Char
  | 0, cs => ([], cs)
  | n + 1, cs =>
    match cs with
    | '[' :: rest =>
      if rest.contains ']' then
        let inner := rest.takeWhile (· != ']')
        let (more, tail) := directiveParts n (rest.dropWhile (· != ']') |>.drop 1)
        ((true, String.ofList inner) :: more, tail)
      else ([], cs)
    | _ =>
      let run := cs.takeWhile isTargetChar
      if run.isEmpty then ([], cs)
      else
        let (more, tail) := directiveParts n (cs.dropWhile isTargetChar)
        ((false, String.ofList run) :: more, tail)

def fieldMatches (fuel : Nat) (cs : List Char) : List FieldMatch :=
  match fuel, cs with
  | 0, _ => []
  | _, [] => []
  | fuel + 1, c :: rest =>
    if !isWordChar c then fieldMatches fuel rest
    else
      let nameRun := c :: rest.takeWhile (fun d => isWordChar d || d == '.')
      let after := rest.dropWhile (fun d => isWordChar d || d == '.')
      let (valuePart, after) := match after with
        | '=' :: v :: more =>
          if v == ',' then ([], after)
          else ('=' :: v :: more.takeWhile (· != ','), more.dropWhile (· != ','))
        | _ => ([], after)
      let ending := match after with
        | ',' :: d :: more => if d.isWhitespace then some ([',', d], more) else some ([','], d :: more)
        | [','] => some ([','], [])
        | [] => some ([], [])
        | _ => none
      match ending with
      | some (sep, more) =>
        let whole := String.ofList (nameRun ++ valuePart ++ sep)
        let m := match whole.splitOn "=" with
          | n :: v :: _ => ⟨n, some v⟩
          | _ => ⟨whole, none⟩
        m :: fieldMatches fuel more
      | none => fieldMatches fuel rest

def spanPart (inner : String) : Option String × List FieldMatch :=
  let cs := inner.toList
  let nameRun := cs.takeWhile (· != '{')
  let name := if nameRun.isEmpty then none else some (String.ofList nameRun)
  let rest := cs.drop nameRun.length
  let fields := match rest with
    | '{' :: more =>
      if more.contains '}' then fieldMatches (more.length + 1) (more.takeWhile (· != '}'))
      else []
    | _ => []
  (name, fields)

def Directive.ofText? (s : String) : Option Directive :=
  match Threshold.ofWord? s with
  | some t => some ⟨none, none, [], t⟩
  | none =>
    let (parts, tail) := directiveParts 2 s.toList
    let level? : Option (Option Threshold) := match tail with
      | [] => some none
      | '=' :: [] => some none
      | '=' :: w => (Threshold.ofWord? (String.ofList w)).map some
      | _ => none
    match parts, level? with
    | [], _ => none
    | _, none => none
    | _, some level =>
      let target := (parts.filter (!·.1)).getLast?.map (·.2)
      let target := target.bind fun t => if Threshold.readsAsLevel t then none else some t
      let (span, fields) := match (parts.filter (·.1)).getLast? with
        | some (_, inner) => spanPart inner
        | none => (none, [])
      some ⟨target, span, fields, level.getD (.upTo .trace)⟩

namespace Directive

def isDynamic (d : Directive) : Bool := d.span.isSome || d.fields.any (·.value.isSome)

def fieldNames (d : Directive) : List String := d.fields.map (·.name)

/-- Whether a directive is more specific than another: a longer component, then (for dynamic
ones) a span name, then more fields, then the larger component and fields. -/
def moreSpecific (a b : Directive) : Bool :=
  let len (d : Directive) : Nat := match d.target with | some t => t.length + 1 | none => 0
  if len a != len b then len a > len b
  else if a.span.isSome != b.span.isSome then a.span.isSome
  else if a.fields.length != b.fields.length then a.fields.length > b.fields.length
  else if a.target != b.target then
    match a.target, b.target with
    | some x, some y => decide (y < x)
    | some _, none => true
    | _, _ => false
  else compare (b.fieldNames.map String.toList) (a.fieldNames.map String.toList) == .lt

end Directive

def addDirective (ds : List Directive) (d : Directive) : List Directive :=
  let same (e : Directive) : Bool := e.target == d.target && e.span == d.span && e.fields == d.fields
  if ds.any same then ds.map fun e => if same e then d else e
  else
    let (before, after) := ds.span fun e => e.moreSpecific d
    before ++ d :: after

structure Site where
  isSpan : Bool
  name : String
  target : String
  level : Level
  fieldNames : List String

structure Filter where
  statics : List Directive
  dynamics : List Directive

def Directive.static (d : Directive) : Directive :=
  { d with span := none, fields := d.fields.map fun f => { f with value := none } }

def Filter.ofDirectives (ds : List Directive) : Filter :=
  let dyn := ds.filter (·.isDynamic)
  let statics := (ds.filter (!·.isDynamic)).map Directive.static
  let f : Filter := ⟨statics.foldl addDirective [], dyn.foldl addDirective []⟩
  if f.statics.isEmpty && f.dynamics.isEmpty then ⟨[⟨none, none, [], .upTo .info⟩], []⟩ else f

/-- Reads the directives of a filter; `none` when one is refused. -/
def Filter.ofText? (s : String) : Option Filter :=
  let pieces := (s.splitOn ",").filter (· != "")
  (pieces.mapM Directive.ofText?).map Filter.ofDirectives

namespace Filter

def applies (d : Directive) (site : Site) : Bool :=
  (match d.target with | some t => site.target.startsWith t | none => true) &&
  (match d.span with | some n => site.name == n | none => true) &&
  (if d.isDynamic || !site.isSpan then d.fieldNames.all site.fieldNames.contains else true)

def dynamicMax (f : Filter) : Threshold :=
  f.dynamics.foldl (fun t d => t.max d.threshold) .off

def staticVerdict (f : Filter) (site : Site) : Bool :=
  match f.statics.find? fun d => applies d site with
  | some d => d.threshold.admits site.level
  | none => false

def spanSite (s : Span) : Site := ⟨true, s.name, s.target, .info, s.fields.map (·.1)⟩

def spanThreshold? (f : Filter) (s : Span) : Option Threshold :=
  let caring := f.dynamics.filter fun d => applies d (spanSite s)
  if caring.isEmpty then none
  else
    let matched := caring.filter fun d => d.fields.all fun m =>
      match m.value with
      | none => true
      | some v => (s.fields.find? (·.1 == m.name)).any fun (_, x) => x == v || x == "\"" ++ v ++ "\""
    some (matched.foldl (fun t d => t.max d.threshold) .off)

def admits (f : Filter) (entered : List Threshold) (site : Site) : Bool :=
  (!f.dynamics.isEmpty && f.dynamicMax.admits site.level &&
    ((site.isSpan && (f.dynamics.any fun d => applies d site)) ||
      entered.any (·.admits site.level))) ||
  f.staticVerdict site

def enterOne (f : Filter) (acc : List Span × List Threshold) (s : Span) :
    List Span × List Threshold :=
  let (shown, entered) := acc
  if f.admits entered (spanSite s) then
    (shown ++ [s], match f.spanThreshold? s with
      | some t => entered ++ [t]
      | none => entered)
  else (shown, entered)

def enter (f : Filter) (scope : Scope) : List Span × List Threshold :=
  scope.foldl f.enterOne ([], [])

/-- The spans an event is shown in, if the event is shown. -/
def shownIn? (f : Filter) (scope : Scope) (e : Event) : Option (List Span) :=
  let (shown, entered) := f.enter scope
  let site : Site := ⟨false, e.message, e.target, e.level, "message" :: e.fields.map (·.1)⟩
  if f.admits entered site then some shown else none

def showsSpan (f : Filter) (scope : Scope) : Bool := !(f.enter scope).1.isEmpty

end Filter

end Provisioner.Log
