import Provisioner.Json.Value
import Provisioner.Text.Utf8
import Provisioner.Text.Quote
import Provisioner.Decimal.Shortest

/-! Reading JSON text byte by byte. Every fault is reported at a line and a column, the column
counting bytes since the last line feed, either where the reader stands or one byte further
when the fault was seen by looking ahead. A number without point or exponent becomes a word
when it fits one; every other number becomes a double, the digits that fit a word scaled by a
power of ten. Nesting deeper than 127 levels is refused. -/

namespace Provisioner.Json

inductive Fault where
  | eofList
  | eofObject
  | eofString
  | eofValue
  | expectedColon
  | expectedListCommaOrEnd
  | expectedObjectCommaOrEnd
  | expectedIdent
  | expectedValue
  | invalidEscape
  | invalidNumber
  | numberOutOfRange
  | invalidCodePoint
  | controlCharacter
  | keyMustBeString
  | loneLeadingSurrogate
  | trailingComma
  | trailingCharacters
  | unexpectedEndOfHexEscape
  | recursionLimit
  | outOfFuel

def Fault.message : Fault → String
  | .eofList => "EOF while parsing a list"
  | .eofObject => "EOF while parsing an object"
  | .eofString => "EOF while parsing a string"
  | .eofValue => "EOF while parsing a value"
  | .expectedColon => "expected `:`"
  | .expectedListCommaOrEnd => "expected `,` or `]`"
  | .expectedObjectCommaOrEnd => "expected `,` or `\x7d`"
  | .expectedIdent => "expected ident"
  | .expectedValue => "expected value"
  | .invalidEscape => "invalid escape"
  | .invalidNumber => "invalid number"
  | .numberOutOfRange => "number out of range"
  | .invalidCodePoint => "invalid unicode code point"
  | .controlCharacter => "control character (\\u0000-\\u001F) found while parsing a string"
  | .keyMustBeString => "key must be a string"
  | .loneLeadingSurrogate => "lone leading surrogate in hex escape"
  | .trailingComma => "trailing comma"
  | .trailingCharacters => "trailing characters"
  | .unexpectedEndOfHexEscape => "unexpected end of hex escape"
  | .recursionLimit => "recursion limit exceeded"
  | .outOfFuel => "recursion limit exceeded"

inductive Found where
  | null
  | bool (b : Bool)
  | unsigned (n : Nat)
  | signed (n : Int)
  | float (f : Float)
  | str (s : String)
  | seq
  | map

def floatText (f : Float) : String := Decimal.scientificText f

def Found.describe : Found → String
  | .null => "null"
  | .bool b => "boolean `" ++ toString b ++ "`"
  | .unsigned n => "integer `" ++ toString n ++ "`"
  | .signed n => "integer `" ++ toString n ++ "`"
  | .float f => "floating point `" ++ floatText f ++ "`"
  | .str s => "string " ++ Text.quote s
  | .seq => "sequence"
  | .map => "map"

inductive Problem where
  | malformed (f : Fault)
  | invalidType (found : Found) (expected : String)
  | invalidValue (found : Found) (expected : String)
  | invalidLength (n : Nat) (expected : String)
  | missingField (name : String)
  | duplicateField (name : String)

def Problem.message : Problem → String
  | .malformed f => f.message
  | .invalidType found e => "invalid type: " ++ found.describe ++ ", expected " ++ e
  | .invalidValue found e => "invalid value: " ++ found.describe ++ ", expected " ++ e
  | .invalidLength n e => "invalid length " ++ toString n ++ ", expected " ++ e
  | .missingField n => "missing field `" ++ n ++ "`"
  | .duplicateField n => "duplicate field `" ++ n ++ "`"

structure ReadError where
  problem : Problem
  position : Option (Nat × Nat)

def ReadError.message (e : ReadError) : String :=
  match e.position with
  | some (line, column) =>
    e.problem.message ++ " at line " ++ toString line ++ " column " ++ toString column
  | none => e.problem.message

def positionOf (bytes : ByteArray) (i : Nat) : Nat × Nat :=
  let before := (bytes.extract 0 i).toList
  (1 + before.count 10, (before.reverse.takeWhile (· != 10)).length)

/-- A reading step: it sees the whole text and keeps the index it stands at, also when it
fails. -/
abbrev Reader := ReaderT ByteArray (EStateM ReadError Nat)

namespace Reader

def byteAt? (bytes : ByteArray) (i : Nat) : Option UInt8 :=
  if h : i < bytes.size then some bytes[i] else none

def isDigit (c : UInt8) : Bool := 48 ≤ c && c ≤ 57

def isBlank (c : UInt8) : Bool := c == 32 || c == 10 || c == 9 || c == 13

def blankEnd (bytes : ByteArray) (i : Nat) : Nat :=
  if h : i < bytes.size then
    if isBlank bytes[i] then blankEnd bytes (i + 1) else i
  else i
termination_by bytes.size - i

def digitEnd (bytes : ByteArray) (i : Nat) : Nat :=
  if h : i < bytes.size then
    if isDigit bytes[i] then digitEnd bytes (i + 1) else i
  else i
termination_by bytes.size - i

def plainEnd (bytes : ByteArray) (i : Nat) : Nat :=
  if h : i < bytes.size then
    let c := bytes[i]
    if c == 34 || c == 92 || c < 32 then i else plainEnd bytes (i + 1)
  else i
termination_by bytes.size - i

def wordMax : Nat := Nat.pow 2 64 - 1

/-- Digits from `i` on added to `acc` while the total stays at most `bound`: the total, the
index reached, and whether a digit was left because it would have passed the bound. When
`takeLast` holds, that digit is consumed all the same. -/
def boundedDigits (bytes : ByteArray) (bound : Nat) (takeLast : Bool) (i acc : Nat) :
    Nat × Nat × Bool :=
  if h : i < bytes.size then
    let c := bytes[i]
    if isDigit c then
      let next := acc * 10 + (c - 48).toNat
      if next > bound then (acc, if takeLast then i + 1 else i, true)
      else boundedDigits bytes bound takeLast (i + 1) next
    else (acc, i, false)
  else (acc, i, false)
termination_by bytes.size - i

def peek? : Reader (Option UInt8) := do
  return byteAt? (← read) (← get)

def bump : Reader Unit := modify (· + 1)

def next? : Reader (Option UInt8) := do
  let c ← peek?
  if c.isSome then bump
  return c

def skipBlanks : Reader (Option UInt8) := do
  let bytes ← read
  let j := blankEnd bytes (← get)
  set j
  return byteAt? bytes j

def failHere {α : Type} (p : Problem) : Reader α := do
  throw ⟨p, some (positionOf (← read) (← get))⟩

def failAhead {α : Type} (p : Problem) : Reader α := do
  let bytes ← read
  throw ⟨p, some (positionOf bytes (min bytes.size ((← get) + 1)))⟩

def placed (e : ReadError) : Reader ReadError := do
  match e.position with
  | some _ => return e
  | none => return ⟨e.problem, some (positionOf (← read) (← get))⟩

def fixing {α : Type} (x : Reader α) : Reader α :=
  tryCatch x fun e => do throw (← placed e)

def attempt {α : Type} (x : Reader α) : Reader (Except ReadError α) :=
  tryCatch (Except.ok <$> x) fun e => pure (Except.error e)

/-- After the body of a list or map, runs its closing step; a fault of the body wins over a
fault of the closing. -/
def closing {α : Type} (body : Except ReadError α) (close : Reader Unit) : Reader α := do
  let closed ← attempt close
  match body, closed with
  | .error e, _ => throw e
  | .ok _, .error e => throw e
  | .ok a, .ok () => return a

def expectIdent : List UInt8 → Reader Unit
  | [] => pure ()
  | c :: rest => do
    match ← next? with
    | none => failHere (.malformed .eofValue)
    | some d => if d == c then expectIdent rest else failHere (.malformed .expectedIdent)

inductive Parsed where
  | nat (n : Nat)
  | neg (n : Nat)
  | float (f : Float)

def tenTo (k : Nat) : Float := Float.ofScientific 1 false k

def scale : Nat → Float → Int → Option Float
  | 0, f, _ => some f
  | fuel + 1, f, e =>
    if e.natAbs ≤ 308 then
      if e ≥ 0 then
        let g := f * tenTo e.toNat
        if g.isInf then none else some g
      else some (f / tenTo e.natAbs)
    else if f == 0 then some f
    else if e ≥ 0 then none
    else scale fuel (f / tenTo 308) (e + 308)

def fromParts (positive : Bool) (sig : Nat) (e : Int) : Reader Float := do
  match scale 8 sig.toFloat e with
  | none => failHere (.malformed .numberOutOfRange)
  | some f => return if positive then f else -f

def clamp32 (e : Int) : Int := max (-2147483648) (min 2147483647 e)

def exponent (positive : Bool) (sig : Nat) (start : Int) : Reader Float := do
  bump
  let positiveExp ← do
    match ← peek? with
    | some c =>
      if c == 43 then bump; pure true
      else if c == 45 then bump; pure false
      else pure true
    | none => pure true
  match ← next? with
  | none => failHere (.malformed .eofValue)
  | some c =>
    if !isDigit c then failHere (.malformed .invalidNumber) else
    let bytes ← read
    let (e, j, overflow) := boundedDigits bytes 2147483647 true (← get) (c - 48).toNat
    set j
    if overflow then
      if sig ≠ 0 && positiveExp then failHere (.malformed .numberOutOfRange)
      else
        set (digitEnd bytes j)
        return if positive then 0.0 else -0.0
    else
      fromParts positive sig (clamp32 (if positiveExp then start + e else start - e))

def exponentOrParts (positive : Bool) (sig : Nat) (e : Int) : Reader Float := do
  match ← peek? with
  | some c => if c == 101 || c == 69 then exponent positive sig e else fromParts positive sig e
  | none => fromParts positive sig e

def fraction (positive : Bool) (sig : Nat) (before : Int) : Reader Float := do
  bump
  let bytes ← read
  let i ← get
  let (sig', j, overflow) := boundedDigits bytes wordMax false i sig
  set j
  let e := before - ((j - i : Nat) : Int)
  if overflow then
    set (digitEnd bytes j)
    exponentOrParts positive sig' e
  else if j = i then
    match ← peek? with
    | some _ => failAhead (.malformed .invalidNumber)
    | none => failAhead (.malformed .eofValue)
  else exponentOrParts positive sig' e

def numberTail (positive : Bool) (sig : Nat) : Reader Parsed := do
  match ← peek? with
  | some c =>
    if c == 46 then return .float (← fraction positive sig 0)
    else if c == 101 || c == 69 then return .float (← exponent positive sig 0)
    else return whole
  | none => return whole
where
  whole : Parsed :=
    if positive then .nat sig
    else if sig = 0 then .float (-0.0)
    else if sig ≤ Nat.pow 2 63 then .neg sig
    else .float (-sig.toFloat)

def longInteger (positive : Bool) (sig : Nat) : Reader Float := do
  let bytes ← read
  let i ← get
  let j := digitEnd bytes i
  set j
  let e : Int := (j - i : Nat)
  match ← peek? with
  | some c =>
    if c == 46 then fraction positive sig e
    else if c == 101 || c == 69 then exponent positive sig e
    else fromParts positive sig e
  | none => fromParts positive sig e

def integer (positive : Bool) : Reader Parsed := do
  match ← next? with
  | none => failHere (.malformed .eofValue)
  | some c =>
    if c == 48 then
      match ← peek? with
      | some d => if isDigit d then failAhead (.malformed .invalidNumber) else numberTail positive 0
      | none => numberTail positive 0
    else if isDigit c then
      let bytes ← read
      let (sig, j, overflow) := boundedDigits bytes wordMax false (← get) (c - 48).toNat
      set j
      if overflow then return .float (← longInteger positive sig) else numberTail positive sig
    else failHere (.malformed .invalidNumber)

def Parsed.toNumber : Parsed → Number
  | .nat n => .nat n.toUInt64
  | .neg n => .neg (Int64.ofInt (-(n : Int)))
  | .float f => .float f

def hexValue (c : UInt8) : Option Nat :=
  if 48 ≤ c && c ≤ 57 then some (c - 48).toNat
  else if 97 ≤ c && c ≤ 102 then some (c - 87).toNat
  else if 65 ≤ c && c ≤ 70 then some (c - 55).toNat
  else none

def hexNumber (digits : List UInt8) : Option Nat :=
  digits.foldlM (fun n c => (hexValue c).map (n * 16 + ·)) 0

/-- The four hexadecimal digits of a `\u` escape. The four bytes are taken together, so a
fault in any of them is reported after the last. -/
def hexEscape : Reader Nat := do
  let bytes ← read
  let i ← get
  if i + 4 > bytes.size then
    set bytes.size
    failHere (.malformed .eofString)
  else
    set (i + 4)
    match hexNumber (bytes.extract i (i + 4)).toList with
    | some n => return n
    | none => failHere (.malformed .invalidEscape)

def peekOrEof : Reader UInt8 := do
  match ← peek? with
  | some c => return c
  | none => failHere (.malformed .eofString)

def utf8Of (n : Nat) : List UInt8 := (String.singleton (Char.ofNat n)).toUTF8.toList

def unicodeEscape (acc : Array UInt8) : Reader (Array UInt8) := do
  let n ← hexEscape
  if 0xDC00 ≤ n && n ≤ 0xDFFF then failHere (.malformed .loneLeadingSurrogate)
  else if 0xD800 ≤ n && n ≤ 0xDBFF then
    let c1 ← peekOrEof
    bump
    if c1 != 92 then failHere (.malformed .unexpectedEndOfHexEscape) else
    let c2 ← peekOrEof
    bump
    if c2 != 117 then failHere (.malformed .unexpectedEndOfHexEscape) else
    let n2 ← hexEscape
    if n2 < 0xDC00 || n2 > 0xDFFF then failHere (.malformed .loneLeadingSurrogate) else
    return acc ++ (utf8Of ((n - 0xD800) * 1024 + (n2 - 0xDC00) + 0x10000)).toArray
  else return acc ++ (utf8Of n).toArray

def escape (checked : Bool) (acc : Array UInt8) : Reader (Array UInt8) := do
  match ← next? with
  | none => failHere (.malformed .eofString)
  | some c =>
    if c == 34 then return acc.push 34
    else if c == 92 then return acc.push 92
    else if c == 47 then return acc.push 47
    else if c == 98 then return acc.push 8
    else if c == 102 then return acc.push 12
    else if c == 110 then return acc.push 10
    else if c == 114 then return acc.push 13
    else if c == 116 then return acc.push 9
    else if c == 117 then
      if checked then unicodeEscape acc else do let _ ← hexEscape; return acc
    else failHere (.malformed .invalidEscape)

def stringBody (checked : Bool) : Nat → Array UInt8 → Reader (Array UInt8)
  | 0, _ => failHere (.malformed .outOfFuel)
  | fuel + 1, acc => do
    let bytes ← read
    let i ← get
    let j := plainEnd bytes i
    set j
    let acc := acc ++ (bytes.extract i j).toList.toArray
    match byteAt? bytes j with
    | some c =>
      if c == 34 then return acc
      else if c == 92 then
        set (j + 1)
        stringBody checked fuel (← escape checked acc)
      else if checked then
        set (j + 1)
        failHere (.malformed .controlCharacter)
      else failHere (.malformed .controlCharacter)
    | none => failHere (.malformed .eofString)

def text : Reader String := do
  let acc ← stringBody true ((← read).size + 1) #[]
  match Text.Utf8.decode? acc.toList with
  | some s => bump; return s
  | none => failHere (.malformed .invalidCodePoint)

def skipText : Reader Unit := do
  let _ ← stringBody false ((← read).size + 1) #[]
  bump

def nextItem (first : Bool) : Reader Bool := do
  match ← skipBlanks with
  | none => failAhead (.malformed .eofList)
  | some c =>
    if c == 93 then return false
    else if c == 44 && !first then
      bump
      match ← skipBlanks with
      | none => failAhead (.malformed .eofValue)
      | some d => if d == 93 then failAhead (.malformed .trailingComma) else return true
    else if first then return true
    else failAhead (.malformed .expectedListCommaOrEnd)

def nextKey (first : Bool) : Reader Bool := do
  match ← skipBlanks with
  | none => failAhead (.malformed .eofObject)
  | some c =>
    if c == 125 then return false
    else
      let d? ← if c == 44 && !first then do bump; skipBlanks
        else if first then pure (some c)
        else failAhead (.malformed .expectedObjectCommaOrEnd)
      match d? with
      | none => failAhead (.malformed .eofValue)
      | some d =>
        if d == 34 then return true
        else if d == 125 then failAhead (.malformed .trailingComma)
        else failAhead (.malformed .keyMustBeString)

def colon : Reader Unit := do
  match ← skipBlanks with
  | some c => if c == 58 then bump else failAhead (.malformed .expectedColon)
  | none => failAhead (.malformed .eofObject)

def endList : Reader Unit := do
  match ← skipBlanks with
  | some c =>
    if c == 93 then bump
    else if c == 44 then
      bump
      match ← skipBlanks with
      | some d =>
        if d == 93 then failAhead (.malformed .trailingComma)
        else failAhead (.malformed .trailingCharacters)
      | none => failAhead (.malformed .trailingCharacters)
    else failAhead (.malformed .trailingCharacters)
  | none => failAhead (.malformed .eofList)

def endMap : Reader Unit := do
  match ← skipBlanks with
  | some c =>
    if c == 125 then bump
    else if c == 44 then failAhead (.malformed .trailingComma)
    else failAhead (.malformed .trailingCharacters)
  | none => failAhead (.malformed .eofObject)

def finish : Reader Unit := do
  match ← skipBlanks with
  | some _ => failAhead (.malformed .trailingCharacters)
  | none => pure ()

mutual

def value : Nat → Nat → Reader Json
  | 0, _ => failHere (.malformed .outOfFuel)
  | fuel + 1, depth => do
    match ← skipBlanks with
    | none => failAhead (.malformed .eofValue)
    | some c =>
      if c == 110 then bump; expectIdent [117, 108, 108]; return .null
      else if c == 116 then bump; expectIdent [114, 117, 101]; return .bool true
      else if c == 102 then bump; expectIdent [97, 108, 115, 101]; return .bool false
      else if c == 45 then bump; return .num (← integer false).toNumber
      else if isDigit c then return .num (← integer true).toNumber
      else if c == 34 then bump; return .str (← text)
      else if c == 91 then
        if depth ≤ 1 then failAhead (.malformed .recursionLimit) else
        bump
        let xs ← items fuel (depth - 1) true []
        endList
        return .arr xs
      else if c == 123 then
        if depth ≤ 1 then failAhead (.malformed .recursionLimit) else
        bump
        let ms ← members fuel (depth - 1) true []
        endMap
        return .obj ms
      else failAhead (.malformed .expectedValue)

def items : Nat → Nat → Bool → List Json → Reader (List Json)
  | 0, _, _, _ => failHere (.malformed .outOfFuel)
  | fuel + 1, depth, first, acc => do
    if ← nextItem first then
      let v ← value fuel depth
      items fuel depth false (v :: acc)
    else return acc.reverse

def members : Nat → Nat → Bool → List (String × Json) → Reader (List (String × Json))
  | 0, _, _, _ => failHere (.malformed .outOfFuel)
  | fuel + 1, depth, first, acc => do
    if ← nextKey first then
      bump
      let key ← text
      colon
      let v ← value fuel depth
      members fuel depth false (Json.insertMember acc key v)
    else return acc

end

def skipNumber : Reader Unit := do
  let c := (← next?).getD 0
  if c == 48 then
    match ← peek? with
    | some d => if isDigit d then failAhead (.malformed .invalidNumber) else pure ()
    | none => pure ()
  else if isDigit c then set (digitEnd (← read) (← get))
  else failHere (.malformed .invalidNumber)
  let mut c ← peek?
  if c == some 46 then
    bump
    let i ← get
    let j := digitEnd (← read) i
    set j
    if j = i then failAhead (.malformed .invalidNumber)
    c ← peek?
  if c == some 101 || c == some 69 then
    bump
    let s ← peek?
    if s == some 43 || s == some 45 then bump
    let d := (← next?).getD 0
    if !isDigit d then failHere (.malformed .invalidNumber)
    set (digitEnd (← read) (← get))

mutual

def skipValue : Nat → Reader Unit
  | 0 => failHere (.malformed .outOfFuel)
  | fuel + 1 => do
    match ← skipBlanks with
    | none => failAhead (.malformed .eofValue)
    | some c =>
      if c == 110 then bump; expectIdent [117, 108, 108]
      else if c == 116 then bump; expectIdent [114, 117, 101]
      else if c == 102 then bump; expectIdent [97, 108, 115, 101]
      else if c == 45 then bump; skipNumber
      else if isDigit c then skipNumber
      else if c == 34 then bump; skipText
      else if c == 91 then bump; skipItems fuel false
      else if c == 123 then bump; skipMembers fuel false
      else failAhead (.malformed .expectedValue)

def skipItems : Nat → Bool → Reader Unit
  | 0, _ => failHere (.malformed .outOfFuel)
  | fuel + 1, afterValue => do
    match ← skipBlanks with
    | none => failAhead (.malformed .eofList)
    | some c =>
      if c == 93 then bump
      else if afterValue then
        if c == 44 then bump; skipValue fuel; skipItems fuel true
        else failAhead (.malformed .expectedListCommaOrEnd)
      else skipValue fuel; skipItems fuel true

def skipMembers : Nat → Bool → Reader Unit
  | 0, _ => failHere (.malformed .outOfFuel)
  | fuel + 1, afterValue => do
    match ← skipBlanks with
    | none => failAhead (.malformed .eofObject)
    | some c =>
      if c == 125 then bump
      else if afterValue && c != 44 then failAhead (.malformed .expectedObjectCommaOrEnd)
      else
        if afterValue then bump
        match ← skipBlanks with
        | some d =>
          if d == 34 then bump; skipText else failAhead (.malformed .keyMustBeString)
        | none => failAhead (.malformed .eofObject)
        colon
        skipValue fuel
        skipMembers fuel true

end

def fuelFor (bytes : ByteArray) : Nat := 8 * (bytes.size + 8)

end Reader

def Reader.run {α : Type} (r : Reader α) (bytes : ByteArray) : Except ReadError α :=
  match (ReaderT.run r bytes).run 0 with
  | .ok a _ => .ok a
  | .error e _ => .error e

def parseBytes (bytes : ByteArray) : Except ReadError Json :=
  Reader.run (do
    let v ← Reader.value (Reader.fuelFor bytes) 128
    Reader.finish
    return v) bytes

def parse (s : String) : Except ReadError Json := parseBytes s.toUTF8

end Provisioner.Json
