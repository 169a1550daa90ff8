import SecureExchange.Text.Utf8

/-!
# Lines of credential files

A file of credentials is a text that holds blocks. The content of a block that stands for a
certificate or a key is kept whole: it has no octets here, only what it stands for.

A file is read line by line, and a line that is too long in several pieces. What follows a zero
octet in a line is lost, and padding at the end of a line does not count.
-/

namespace SecureExchange.Credential

open Text

/-- A pair of certificate and key, known by its number. -/
abbrev Pair := Nat

/-- What the content of a block stands for. -/
inductive Content
  | certificate (pair : Pair)
  | key (pair : Pair)
  | lockedKey (pair : Pair)
  deriving DecidableEq, Repr

def ascii (s : String) : Octets := Utf8.encode s.toList

def certificateName : Octets := ascii "CERTIFICATE"

/-- The name of the blocks that hold such a content. -/
def Content.name : Content → Octets
  | .certificate _ => certificateName
  | .key _ => ascii "PRIVATE KEY"
  | .lockedKey _ => ascii "ENCRYPTED PRIVATE KEY"

/-- A part of a file: a whole block, or any text. -/
inductive Part
  | block (c : Content)
  | text (s : List Char)
  deriving DecidableEq, Repr

/-- A piece of a line as it is read, or the lines of a content. -/
inductive Line
  | octets (s : Octets)
  | content (c : Content)
  deriving DecidableEq, Repr

def startMark : Octets := ascii "-----BEGIN "

def endMark : Octets := ascii "-----END "

def markTail : Octets := ascii "-----"

def lineEnd : UInt8 := 10

/-- An octet of a file, or a content. -/
inductive Item
  | octet (b : UInt8)
  | content (c : Content)

def Part.items : Part → List Item
  | .text s => (Utf8.encode s).map .octet
  | .block c =>
    (startMark ++ c.name ++ markTail ++ [lineEnd]).map .octet
      ++ .content c :: (endMark ++ c.name ++ markTail ++ [lineEnd]).map .octet

namespace Line

/-- The most octets of a piece. -/
def maxLength : Nat := 254

/-- A piece that was being read when the file ended. -/
def unfinished (reversed : Octets) : List Line :=
  if reversed.isEmpty then [] else [.octets reversed.reverse]

/-- Cuts items into pieces. `reversed` was read of the current one, which has `room` for more. -/
def cutFrom (reversed : Octets) (room : Nat) : List Item → List Line
  | [] => unfinished reversed
  | .content c :: rest => unfinished reversed ++ .content c :: cutFrom [] maxLength rest
  | .octet b :: rest =>
    if b = lineEnd ∨ room ≤ 1 then .octets (b :: reversed).reverse :: cutFrom [] maxLength rest
    else cutFrom (b :: reversed) (room - 1) rest

def ofParts (parts : List Part) : List Line := cutFrom [] maxLength (parts.flatMap Part.items)

/-- What is left of a piece in front of a zero octet. -/
def seen (s : Octets) : Octets := s.takeWhile (· != 0)

/-- The line goes on in the next piece. -/
def goesOn (s : Octets) : Bool := s.length == maxLength && s.getLast? != some lineEnd

/-- Blanks, control characters and everything beyond ASCII. -/
def isPadding (b : UInt8) : Bool := decide (b ≤ 0x20) || decide (0x80 ≤ b)

def clean (s : Octets) : Octets := (s.reverse.dropWhile isPadding).reverse

/-- The mark of UTF-8 in front of a text that is longer than the mark. -/
def dropByteOrderMark (s : Octets) : Octets :=
  match s with
  | 0xEF :: 0xBB :: 0xBF :: b :: rest => b :: rest
  | s => s

/-- `s` without a start. -/
def dropStart? (start s : Octets) : Option Octets :=
  if start.isPrefixOf s then some (s.drop start.length) else none

/-- The name of the block that a clean line starts. -/
def startedName? (s : Octets) : Option Octets :=
  match dropStart? startMark s with
  | none => none
  | some rest =>
    if markTail.isSuffixOf rest then some (rest.take (rest.length - markTail.length)) else none

theorem cutFrom_nil (room : Nat) : cutFrom [] room [] = [] := rfl

end Line

end SecureExchange.Credential
