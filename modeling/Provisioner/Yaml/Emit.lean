/-! Writing YAML in block style. Each scalar asks for a style and falls back to single, then
double quotes when its text cannot bear it; lines are never folded. A mapping key is written in
place when it is a short single-line scalar, else after `?`, and a document whose last literal
block keeps its trailing breaks is closed with `...`. -/

namespace Provisioner.Yaml

inductive Requested where
  | any
  | plain
  | singleQuoted
  | literal
  deriving DecidableEq, Repr

inductive Written where
  | plain
  | singleQuoted
  | doubleQuoted
  | literal
  deriving DecidableEq, Repr

structure Scalar where
  text : String
  style : Requested
  deriving Repr

inductive Node where
  | scalar (s : Scalar)
  | seq (items : List Node)
  | map (entries : List (Scalar × Node))
  deriving Repr

def isBreakChar (c : Char) : Bool :=
  c == '\n' || c == '\r' || c.toNat == 0x85 || c.toNat == 0x2028 || c.toNat == 0x2029

def isBlankOrEnd : Option Char → Bool
  | none => true
  | some c => c == ' ' || c == '\t' || isBreakChar c || c.toNat == 0

def isPrintableChar (c : Char) : Bool :=
  let n := c.toNat
  n == 0x0A || (0x20 ≤ n && n ≤ 0x7E) || (0xA0 ≤ n && n ≤ 0xD7FF) ||
    (0xE000 ≤ n && n ≤ 0xFFFD && n != 0xFEFF) || 0x10000 ≤ n

structure Analysis where
  multiline : Bool
  flowPlain : Bool
  blockPlain : Bool
  singleQuoted : Bool
  block : Bool
  empty : Bool
  bytes : Nat

structure Findings where
  flowIndicators : Bool := false
  blockIndicators : Bool := false
  lineBreaks : Bool := false
  special : Bool := false
  leadingSpace : Bool := false
  leadingBreak : Bool := false
  trailingSpace : Bool := false
  trailingBreak : Bool := false
  breakSpace : Bool := false
  spaceBreak : Bool := false
  previousSpace : Bool := false
  previousBreak : Bool := false

def scan (first preceded : Bool) (f : Findings) : List Char → Findings
  | [] => f
  | c :: rest =>
    let followed := isBlankOrEnd rest.head?
    let last := rest.isEmpty
    let f := if first then
        let f := if "#,[]\x7b\x7d&*!|>'\"%@\x60".toList.contains c then
            { f with flowIndicators := true, blockIndicators := true } else f
        let f := if c == '?' || c == ':' then
            { f with flowIndicators := true, blockIndicators := f.blockIndicators || followed }
          else f
        if c == '-' && followed then { f with flowIndicators := true, blockIndicators := true }
        else f
      else
        let f := if ",?[]\x7b\x7d".toList.contains c then { f with flowIndicators := true } else f
        let f := if c == ':' then
            { f with flowIndicators := true, blockIndicators := f.blockIndicators || followed }
          else f
        if c == '#' && preceded then { f with flowIndicators := true, blockIndicators := true }
        else f
    let f := if !isPrintableChar c then { f with special := true } else f
    let f := if isBreakChar c then { f with lineBreaks := true } else f
    let f := if c == ' ' then
        { f with leadingSpace := f.leadingSpace || first, trailingSpace := f.trailingSpace || last,
                 breakSpace := f.breakSpace || f.previousBreak, previousSpace := true,
                 previousBreak := false }
      else if isBreakChar c then
        { f with leadingBreak := f.leadingBreak || first, trailingBreak := f.trailingBreak || last,
                 spaceBreak := f.spaceBreak || f.previousSpace, previousSpace := false,
                 previousBreak := true }
      else { f with previousSpace := false, previousBreak := false }
    scan false (isBlankOrEnd (some c)) f rest

def analyze (s : String) : Analysis :=
  let cs := s.toList
  if cs.isEmpty then ⟨false, false, true, true, false, true, 0⟩ else
  let marker := cs.take 3 == ['-', '-', '-'] || cs.take 3 == ['.', '.', '.']
  let f := scan true true { flowIndicators := marker, blockIndicators := marker } cs
  let edges := f.leadingSpace || f.leadingBreak || f.trailingSpace || f.trailingBreak
  let mixed := f.spaceBreak || f.special
  ⟨f.lineBreaks,
    !(edges || f.breakSpace || mixed || f.lineBreaks || f.flowIndicators),
    !(edges || f.breakSpace || mixed || f.lineBreaks || f.blockIndicators),
    !(f.breakSpace || mixed),
    !(f.trailingSpace || mixed),
    false, s.utf8ByteSize⟩

/-- The style a scalar is written in, in block context, as a key in place or not. -/
def choose (a : Analysis) (asked : Requested) (simpleKey : Bool) : Written :=
  if simpleKey && a.multiline then .doubleQuoted else
  let style : Written := match asked with
    | .any | .plain => .plain
    | .singleQuoted => .singleQuoted
    | .literal => .literal
  let style := if style == .plain && (!a.blockPlain || (a.empty && simpleKey)) then
      Written.singleQuoted else style
  let style := if style == .singleQuoted && !a.singleQuoted then Written.doubleQuoted else style
  if style == .literal && (!a.block || simpleKey) then .doubleQuoted else style

structure Pen where
  text : String
  column : Nat
  whitespace : Bool
  indention : Bool
  openEnded : Nat

def Pen.start : Pen := ⟨"", 0, true, true, 0⟩

namespace Pen

def put (p : Pen) (c : Char) : Pen := { p with text := p.text.push c, column := p.column + 1 }

def putAll (p : Pen) (s : String) : Pen := s.foldl put p

def newline (p : Pen) : Pen := { p with text := p.text.push '\n', column := 0 }

def putBreak (p : Pen) (c : Char) : Pen :=
  if c == '\n' then p.newline else { p with text := p.text.push c, column := 0 }

def indentTo (p : Pen) (indent : Int) : Pen :=
  let n := indent.toNat
  let p := if !p.indention || p.column > n || (p.column == n && !p.whitespace) then p.newline
    else p
  let p := p.putAll (String.ofList (List.replicate (n - p.column) ' '))
  { p with whitespace := true, indention := true }

def indicator (p : Pen) (s : String) (needWhitespace isWhitespace isIndention : Bool) : Pen :=
  let p := if needWhitespace && !p.whitespace then p.put ' ' else p
  let p := p.putAll s
  { p with whitespace := isWhitespace, indention := p.indention && isIndention, openEnded := 0 }

end Pen

def upperHex (n width : Nat) : String :=
  String.ofList ((List.range width).reverse.map fun k =>
    let d := (n >>> (4 * k)) % 16
    if d < 10 then Char.ofNat (48 + d) else Char.ofNat (55 + d))

def escapeCode (c : Char) : String :=
  match c.toNat with
  | 0x00 => "0"
  | 0x07 => "a"
  | 0x08 => "b"
  | 0x09 => "t"
  | 0x0A => "n"
  | 0x0B => "v"
  | 0x0C => "f"
  | 0x0D => "r"
  | 0x1B => "e"
  | 0x22 => "\""
  | 0x5C => "\\"
  | 0x85 => "N"
  | 0xA0 => "_"
  | 0x2028 => "L"
  | 0x2029 => "P"
  | n =>
    if n ≤ 0xFF then "x" ++ upperHex n 2
    else if n ≤ 0xFFFF then "u" ++ upperHex n 4
    else "U" ++ upperHex n 8

def escapedInDoubleQuotes (c : Char) : Bool :=
  !isPrintableChar c || c.toNat == 0xFEFF || isBreakChar c || c == '"' || c == '\\'

def writePlain (s : String) (root : Bool) (p : Pen) : Pen :=
  let p := if !p.whitespace && !s.isEmpty then p.put ' ' else p
  let p := p.putAll s
  { p with whitespace := false, indention := false, openEnded := if root then 1 else p.openEnded }

def singleQuotedBody (indent : Int) : List Char → Bool → Pen → Pen
  | [], breaks, p => if breaks then p.indentTo indent else p
  | c :: rest, breaks, p =>
    if c == ' ' then singleQuotedBody indent rest false (p.put c)
    else if isBreakChar c then
      let p := if !breaks && c == '\n' then p.newline else p
      singleQuotedBody indent rest true { p.putBreak c with indention := true }
    else
      let p := if breaks then p.indentTo indent else p
      let p := if c == '\'' then p.put '\'' else p
      singleQuotedBody indent rest false { p.put c with indention := false }

def writeSingleQuoted (s : String) (indent : Int) (p : Pen) : Pen :=
  let p := p.indicator "'" true false false
  let p := singleQuotedBody indent s.toList false p
  let p := p.indicator "'" false false false
  { p with whitespace := false, indention := false }

def writeDoubleQuoted (s : String) (p : Pen) : Pen :=
  let p := p.indicator "\"" true false false
  let p := s.foldl (fun p c =>
    if escapedInDoubleQuotes c then (p.put '\\').putAll (escapeCode c) else p.put c) p
  let p := p.indicator "\"" false false false
  { p with whitespace := false, indention := false }

def chomping (cs : List Char) : Option String :=
  match cs.reverse with
  | [] => some "-"
  | last :: before =>
    if !isBreakChar last then some "-"
    else match before with
      | [] => some "+"
      | prev :: _ => if isBreakChar prev then some "+" else none

def literalBody (indent : Int) : List Char → Bool → Pen → Pen
  | [], _, p => p
  | c :: rest, breaks, p =>
    if isBreakChar c then literalBody indent rest true { p.putBreak c with indention := true }
    else
      let p := if breaks then p.indentTo indent else p
      literalBody indent rest false { p.put c with indention := false }

def writeLiteral (s : String) (indent : Int) (p : Pen) : Pen :=
  let cs := s.toList
  let p := p.indicator "|" true false false
  let p := match cs.head? with
    | some c => if c == ' ' || isBreakChar c then p.indicator "2" false false false else p
    | none => p
  let p := { p with openEnded := 0 }
  let p := match chomping cs with
    | some "+" => { p.indicator "+" false false false with openEnded := 2 }
    | some h => p.indicator h false false false
    | none => p
  let p := { p.newline with indention := true, whitespace := true }
  literalBody indent cs true p

structure Context where
  root : Bool
  sequence : Bool
  mapping : Bool
  simpleKey : Bool

def writeScalar (s : Scalar) (indent : Int) (ctx : Context) (p : Pen) : Pen :=
  let a := analyze s.text
  let indent := if indent < 0 then 2 else indent + 2
  match choose a s.style ctx.simpleKey with
  | .plain => writePlain s.text ctx.root p
  | .singleQuoted => writeSingleQuoted s.text indent p
  | .doubleQuoted => writeDoubleQuoted s.text p
  | .literal => writeLiteral s.text indent p

def Node.isSimpleKey : Node → Bool
  | .scalar s => let a := analyze s.text; !a.multiline && a.bytes ≤ 128
  | .seq items => items.isEmpty
  | .map entries => entries.isEmpty

mutual

def writeNode : Node → Int → Context → Pen → Pen
  | .scalar s, indent, ctx, p => writeScalar s indent ctx p
  | .seq [], _, _, p => (p.indicator "[" true true false).indicator "]" false false false
  | .seq (x :: xs), indent, ctx, p =>
    let indentless := ctx.mapping && !p.indention
    let indent := if indent < 0 then 0 else if indentless then indent else indent + 2
    writeItems (x :: xs) indent p
  | .map [], _, _, p => (p.indicator "\x7b" true true false).indicator "\x7d" false false false
  | .map (e :: es), indent, _, p =>
    writeEntries (e :: es) (if indent < 0 then 0 else indent + 2) p

def writeItems : List Node → Int → Pen → Pen
  | [], _, p => p
  | x :: xs, indent, p =>
    let p := (p.indentTo indent).indicator "-" true false true
    writeItems xs indent (writeNode x indent ⟨false, true, false, false⟩ p)

def writeEntries : List (Scalar × Node) → Int → Pen → Pen
  | [], _, p => p
  | (k, v) :: es, indent, p =>
    let p := p.indentTo indent
    let p := if (Node.scalar k).isSimpleKey then
        (writeScalar k indent ⟨false, false, true, true⟩ p).indicator ":" false false false
      else
        let p := writeScalar k indent ⟨false, false, true, false⟩ (p.indicator "?" true false true)
        (p.indentTo indent).indicator ":" true false true
    writeEntries es indent (writeNode v indent ⟨false, false, true, false⟩ p)

end

def Node.render (n : Node) : String :=
  let p := writeNode n (-1) ⟨true, false, false, false⟩ Pen.start
  let p := p.indentTo (-1)
  let p := if p.openEnded == 2 then (p.indicator "..." true false false).indentTo (-1) else p
  p.text

end Provisioner.Yaml
