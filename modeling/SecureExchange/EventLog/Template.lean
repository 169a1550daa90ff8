import SecureExchange.Datum
import SecureExchange.Failure.Fault
import SecureExchange.Number.Decimal
import SecureExchange.Text.Digit

/-!
# Templates

A template is a text with places that arguments are written into. A place is a percent sign, an
optional name in parentheses, flags, a width, a precision and a letter that says how the argument is
written. Arguments are taken in order, or by name from a single map.

A template may also be given one value in the place of the arguments. A list then counts as
something to take names from, which fails, so that it need not be used up.
-/

namespace SecureExchange.EventLog.Template

open Text

inductive Fault
  | notEnough
  | leftOver
  | needsMap
  | missing (name : String)
  | indexByName
  | unclosedName
  | unfinished
  | unknownLetter (c : Char) (index : Nat)
  | endless
  | noNumber
  | needsRealNumber (letter : Char) (typeName : String)
  | needsInteger (letter : Char) (typeName : String)
  | needsFloat (typeName : String)
  | needsCharacter
  | noCharacter
  | needsWidth
  | tooLarge
  | outOfRange (typeName : String)
  | tooBig (part : String)
  deriving DecidableEq, Repr

def Fault.toFault : Fault → Failure.Fault
  | .notEnough => .invalidType "not enough arguments for format string"
  | .leftOver => .invalidType "not all arguments converted during string formatting"
  | .needsMap => .invalidType "format requires a mapping"
  | .missing name => .missingKey name
  | .indexByName => .invalidType "list indices must be integers or slices, not str"
  | .unclosedName => .invalidValue "incomplete format key"
  | .unfinished => .invalidValue "incomplete format"
  | .unknownLetter c index =>
    .invalidValue ("unsupported format character '"
      ++ String.singleton (if 0x1F < c.toNat ∧ c.toNat < 0x7F then c else '?')
      ++ "' (0x" ++ String.ofList (Nat.toDigits 16 c.toNat) ++ ") at index " ++ toString index)
  | .endless => .overflow "cannot convert float infinity to integer"
  | .noNumber => .invalidValue "cannot convert float NaN to integer"
  | .needsRealNumber letter typeName =>
    .invalidType ("%" ++ String.singleton letter ++ " format: a real number is required, not "
      ++ typeName)
  | .needsInteger letter typeName =>
    .invalidType ("%" ++ String.singleton letter ++ " format: an integer is required, not "
      ++ typeName)
  | .needsFloat typeName => .invalidType ("must be real number, not " ++ typeName)
  | .needsCharacter => .invalidType "%c requires int or char"
  | .noCharacter => .overflow "%c arg not in range(0x110000)"
  | .needsWidth => .invalidType "* wants int"
  | .tooLarge => .overflow "int too large to convert to float"
  | .outOfRange typeName => .overflow ("Python int too large to convert to C " ++ typeName)
  | .tooBig part => .invalidValue (part ++ " too big")

/-- What is left to write into the template: values in order, or one value as a whole. From a single
map every name can be taken any number of times; `current` is what the next place takes. -/
inductive Arguments
  | inOrder (rest : List Datum)
  | single (whole : Datum) (current : Option Datum)

namespace Arguments

def ofValue (x : Datum) : Arguments := .single x (some x)

/-- A single map that is not empty is taken by name. -/
def ofList (args : List Datum) : Arguments :=
  match args with
  | [.map (e :: entries)] => .ofValue (.map (e :: entries))
  | args => .inOrder args

def typeName : Arguments → String
  | .inOrder _ => "tuple"
  | .single whole _ => whole.typeName

def next : Arguments → Except Fault (Datum × Arguments)
  | .inOrder (x :: rest) => .ok (x, .inOrder rest)
  | .inOrder [] => .error .notEnough
  | .single whole (some x) => .ok (x, .single whole none)
  | .single _ none => .error .notEnough

/-- Whether names may stand in the template. -/
def takesNames : Arguments → Bool
  | .single (.map _) _ | .single (.list _) _ => true
  | _ => false

def select (name : String) : Arguments → Except Fault Arguments
  | .single (.map entries) _ =>
    match OrderedMap.get? name entries with
    | some x => .ok (.single (.map entries) (some x))
    | none => .error (.missing name)
  | .single (.list _) _ => .error .indexByName
  | _ => .error .needsMap

def isUsedUp (a : Arguments) : Bool :=
  match a with
  | .inOrder rest => rest.isEmpty
  | .single _ current => a.takesNames || current.isNone

end Arguments

/-! ### Places -/

structure Place where
  left : Bool
  plus : Bool
  blank : Bool
  alternate : Bool
  zero : Bool
  width : Nat
  precision : Option Nat

def Place.empty : Place := ⟨false, false, false, false, false, 0, none⟩

def setFlag (c : Char) (p : Place) : Option Place :=
  match c with
  | '-' => some { p with left := true }
  | '+' => some { p with plus := true }
  | ' ' => some { p with blank := true }
  | '#' => some { p with alternate := true }
  | '0' => some { p with zero := true }
  | _ => none

def readFlags (p : Place) : List Char → Place × List Char
  | [] => (p, [])
  | c :: rest =>
    match setFlag c p with
    | some p => readFlags p rest
    | none => (p, c :: rest)

/-- Widths and precisions have bounds of their own, and names for the numbers within. -/
structure Bound where
  part : String
  typeName : String
  limit : Nat

def widthBound : Bound := ⟨"width", "ssize_t", 0x8000000000000000⟩

def precisionBound : Bound := ⟨"precision", "int", 0x80000000⟩

def readNumber (b : Bound) (s : List Char) : Except Fault (Nat × List Char) :=
  let n := (s.takeWhile isAsciiDigit).foldl (fun n c ↦ 10 * n + (c.toNat - 0x30)) 0
  if n < b.limit then .ok (n, s.dropWhile isAsciiDigit) else .error (.tooBig b.part)

/-- A whole number that an argument gives in place of digits. -/
def nextNumber (b : Bound) (a : Arguments) : Except Fault (Int × Arguments) :=
  match a.next with
  | .error e => .error e
  | .ok (.int i, a) =>
    if -(b.limit : Int) ≤ i ∧ i < b.limit then .ok (i, a) else .error (.outOfRange b.typeName)
  | .ok (.bool one, a) => .ok (if one then 1 else 0, a)
  | .ok _ => .error .needsWidth

/-- A negative width from an argument asks for the left side. -/
def readWidth (p : Place) (a : Arguments) (s : List Char) :
    Except Fault (Place × Arguments × List Char) :=
  match s with
  | '*' :: rest =>
    match nextNumber widthBound a with
    | .error e => .error e
    | .ok (i, a) => .ok ({ p with width := i.natAbs, left := p.left || decide (i < 0) }, a, rest)
  | s => (readNumber widthBound s).map fun (n, rest) ↦ ({ p with width := n }, a, rest)

def readPrecision (p : Place) (a : Arguments) (s : List Char) :
    Except Fault (Place × Arguments × List Char) :=
  match s with
  | '.' :: '*' :: rest =>
    match nextNumber precisionBound a with
    | .error e => .error e
    | .ok (i, a) => .ok ({ p with precision := some i.toNat }, a, rest)
  | '.' :: rest =>
    (readNumber precisionBound rest).map fun (n, rest) ↦ ({ p with precision := some n }, a, rest)
  | s => .ok (p, a, s)

def skipLength (s : List Char) : List Char :=
  match s with
  | 'h' :: rest | 'l' :: rest | 'L' :: rest => rest
  | s => s

/-- A name up to its closing parenthesis; parentheses inside are paired. -/
def readName (depth : Nat) : List Char → Option (List Char × List Char)
  | [] => none
  | ')' :: rest =>
    match depth with
    | 0 => some ([], rest)
    | d + 1 => (readName d rest).map fun r ↦ (')' :: r.1, r.2)
  | c :: rest => (readName (if c = '(' then depth + 1 else depth) rest).map fun r ↦ (c :: r.1, r.2)

/-! ### Writing -/

/-- A number in its parts, which are padded between prefix and digits or in front. -/
structure Figure where
  sign : List Char
  base : List Char
  digits : List Char

def Place.padFigure (p : Place) (f : Figure) : List Char :=
  let all := f.sign ++ f.base ++ f.digits
  let missing := p.width - all.length
  if p.left then
    all ++ List.replicate missing ' '
  else if p.zero then f.sign ++ f.base ++ List.replicate missing '0' ++ f.digits
  else List.replicate missing ' ' ++ all

def Place.padText (p : Place) (s : List Char) : List Char :=
  let missing := p.width - s.length
  if p.left then s ++ List.replicate missing ' ' else List.replicate missing ' ' ++ s

def Place.sign (p : Place) (negative : Bool) : List Char :=
  if negative then ['-'] else if p.plus then ['+'] else if p.blank then [' '] else []

def capital (s : List Char) : List Char := s.map Char.toUpper

def basePrefix (letter : Char) : List Char :=
  match letter with
  | 'o' => ['0', 'o']
  | 'x' => ['0', 'x']
  | 'X' => ['0', 'X']
  | _ => []

def digitsOf (letter : Char) (n : Nat) : List Char :=
  match letter with
  | 'o' => Nat.toDigits 8 n
  | 'x' => Nat.toDigits 16 n
  | 'X' => capital (Nat.toDigits 16 n)
  | _ => Nat.toDigits 10 n

def Place.writeInteger (p : Place) (letter : Char) (i : Int) : List Char :=
  let digits := digitsOf letter i.natAbs
  p.padFigure {
    sign := p.sign (decide (i < 0))
    base := if p.alternate then basePrefix letter else []
    digits := List.replicate (p.precision.getD 0 - digits.length) '0' ++ digits }

/-- The whole number that an argument stands for; a fraction is cut off, except where digits of
another base are asked for. -/
def integerOf (letter : Char) (x : Datum) : Except Fault Int :=
  let decimal := letter == 'd' || letter == 'i' || letter == 'u'
  match x with
  | .int i => .ok i
  | .bool b => .ok (if b then 1 else 0)
  | .float x =>
    if !decimal then .error (.needsInteger letter "float")
    else match x with
      | .finite negative units => .ok (Number.signed negative (units / Binary64.one))
      | .infinity _ => .error .endless
      | .nan => .error .noNumber
  | x =>
    .error (if decimal then .needsRealNumber letter x.typeName else .needsInteger letter x.typeName)

def floatOf (x : Datum) : Except Fault Binary64 :=
  let ofInt (i : Int) : Except Fault Binary64 :=
    match Binary64.ofInt? i with
    | some x => .ok x
    | none => .error .tooLarge
  match x with
  | .float x => .ok x
  | .int i => ofInt i
  | .bool b => ofInt (if b then 1 else 0)
  | x => .error (.needsFloat x.typeName)

def formOf (letter : Char) : Binary64.DecimalForm :=
  match letter with
  | 'e' | 'E' => .scientific
  | 'f' | 'F' => .fixed
  | _ => .general

def showsMinus : Binary64 → Bool
  | .nan => false
  | .infinity negative => negative
  | .finite negative _ => negative

def Place.writeFloat (p : Place) (letter : Char) (x : Binary64) : List Char :=
  let digits := Binary64.decimalText (formOf letter) (p.precision.getD 6) p.alternate x
  p.padFigure {
    sign := p.sign (showsMinus x)
    base := []
    digits := if letter.isUpper then capital digits else digits }

def Place.writeText (p : Place) (s : List Char) : List Char :=
  p.padText (match p.precision with
    | some n => s.take n
    | none => s)

def characterOf (x : Datum) : Except Fault Char :=
  let ofInt (i : Int) : Except Fault Char :=
    if 0 ≤ i ∧ i < 0x110000 then .ok (Char.ofNat i.toNat) else .error .noCharacter
  match x with
  | .int i => ofInt i
  | .bool b => ofInt (if b then 1 else 0)
  | .text s =>
    match s.toList with
    | [c] => .ok c
    | _ => .error .needsCharacter
  | _ => .error .needsCharacter

def literalAscii (x : Datum) : List Char :=
  x.literal.toList.flatMap fun c ↦ if isAscii c then [c] else Quoted.escapeCode c.toNat

inductive Writing
  | text
  | literal
  | literalAscii
  | integer
  | float
  | character

def writingOf? (letter : Char) : Option Writing :=
  match letter with
  | 's' => some .text
  | 'r' => some .literal
  | 'a' => some .literalAscii
  | 'd' | 'i' | 'u' | 'o' | 'x' | 'X' => some .integer
  | 'e' | 'E' | 'f' | 'F' | 'g' | 'G' => some .float
  | 'c' => some .character
  | _ => none

def Place.write (p : Place) (letter : Char) (x : Datum) : Writing → Except Fault (List Char)
  | .text => .ok (p.writeText x.display.toList)
  | .literal => .ok (p.writeText x.literal.toList)
  | .literalAscii => .ok (p.writeText (Template.literalAscii x))
  | .integer => (integerOf letter x).map (p.writeInteger letter)
  | .float => (floatOf x).map (p.writeFloat letter)
  | .character => (characterOf x).map fun c ↦ p.padText [c]

/-- A place read, with what follows it. -/
structure Reading where
  written : List Char
  arguments : Arguments
  rest : List Char

/-- The letter of a place, at a position counted from the end of the template. -/
def finishPlace (total : Nat) (p : Place) (a : Arguments) (s : List Char) : Except Fault Reading :=
  match s with
  | [] => .error .unfinished
  | letter :: rest =>
    match a.next with
    | .error e => .error e
    | .ok (x, a) =>
      match writingOf? letter with
      | none => .error (.unknownLetter letter (total - rest.length - 1))
      | some w => (p.write letter x w).map fun written ↦ ⟨written, a, rest⟩

/-- Flags, width, precision and letter, after the percent sign and the name. -/
def readPlace (total : Nat) (a : Arguments) (s : List Char) : Except Fault Reading :=
  let (p, s) := readFlags .empty s
  match readWidth p a s with
  | .error e => .error e
  | .ok (p, a, s) =>
    match readPrecision p a s with
    | .error e => .error e
    | .ok (p, a, s) => finishPlace total p a (skipLength s)

/-- A name in front comes from the map. A second percent sign stands for itself. -/
def readNamedPlace (total : Nat) (a : Arguments) (s : List Char) : Except Fault Reading :=
  match s with
  | '%' :: rest => .ok ⟨['%'], a, rest⟩
  | '(' :: rest =>
    if !a.takesNames then .error .needsMap
    else match readName 0 rest with
      | none => .error .unclosedName
      | some (name, rest) =>
        match a.select (String.ofList name) with
        | .error e => .error e
        | .ok a => readPlace total a rest
  | s => readPlace total a s

/-- `budget` bounds the places to come; every place takes at least one character. -/
def fillFrom (total : Nat) : Nat → Arguments → List Char → Except Fault (List Char)
  | _, a, [] => if a.isUsedUp then .ok [] else .error .leftOver
  | 0, _, _ => .error .unfinished
  | budget + 1, a, '%' :: rest =>
    match readNamedPlace total a rest with
    | .error e => .error e
    | .ok r => (fillFrom total budget r.arguments r.rest).map (r.written ++ ·)
  | budget + 1, a, c :: rest => (fillFrom total budget a rest).map (c :: ·)

/-- The template with the arguments written into its places. -/
def fill (template : String) (a : Arguments) : Except Fault String :=
  let s := template.toList
  (fillFrom s.length s.length a s).map String.ofList

end SecureExchange.EventLog.Template
