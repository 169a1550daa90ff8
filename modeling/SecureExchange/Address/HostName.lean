import SecureExchange.Address.HostName.Table
import SecureExchange.Address.Punycode
import SecureExchange.Text.Case
import SecureExchange.Text.Normal
import SecureExchange.Text.Quoted

/-!
# Internationalised host names

A host name is a sequence of labels. `encode` checks each label and writes those with characters
beyond ASCII in their ASCII form, which begins with `xn--`; `decode` reads such labels back.

A label is valid when it is composed, does not misuse hyphens, does not begin with a mark, holds
only permitted characters or characters permitted in their context, and does not mix directions.
-/

namespace SecureExchange.Address.HostName

open Text

/-- What is wrong with a label. Places in it are counted from one. -/
inductive Flaw
  | empty
  | tooLong
  | notComposed
  | hyphensInside
  | hyphenAtEnd
  | leadingMark
  | joinsUnknown (place : Nat)
  | joinerOutOfContext (place : Nat)
  | outOfContext (place : Nat)
  | notPermitted (place : Nat)
  | unknownDirection (place : Nat)
  | undirectedStart
  | directionInRightToLeft (place : Nat)
  | directionInLeftToRight (place : Nat)
  | mixedNumerals
  | undirectedEnd
  deriving DecidableEq, Repr

/-- Why a name is refused. A label with a flaw is given by its code points. -/
inductive Fault
  | emptyDomain
  | emptyLabel
  | domainTooLong
  | labelTooLong
  | nothingEncoded
  | hyphenLast
  | malformed
  | notCanonical
  | label (f : Flaw) (codes : List Nat)
  deriving DecidableEq, Repr

/-! ### Direction -/

def direction (c : Char) : Direction :=
  match directions.find? fun r ↦ decide (r.1 ≤ c.toNat) && decide (c.toNat ≤ r.2.1) with
  | some r => r.2.2
  | none => .leftToRight

def Direction.turns : Direction → Bool
  | .rightToLeft | .arabicLetter | .arabicNumber => true
  | _ => false

def Direction.fitsRightToLeft : Direction → Bool
  | .leftToRight | .unassigned => false
  | _ => true

def Direction.fitsLeftToRight : Direction → Bool
  | .rightToLeft | .arabicLetter | .arabicNumber | .unassigned => false
  | _ => true

/-- Whether a label may end in such a character, marks aside. -/
def Direction.ends (rightToLeft : Bool) : Direction → Bool
  | .europeanNumber => true
  | .leftToRight => !rightToLeft
  | .rightToLeft | .arabicLetter | .arabicNumber => rightToLeft
  | _ => false

def isNumeral (d : Direction) : Bool := d == .europeanNumber || d == .arabicNumber

/-- Characters in turn, with the first kind of numeral met so far. -/
def checkDirections (rightToLeft : Bool) : Option Direction → Nat → List Char → Except Flaw Unit
  | _, _, [] => .ok ()
  | numeral, place, c :: rest =>
    let d := direction c
    if rightToLeft then
      if !d.fitsRightToLeft then .error (.directionInRightToLeft place)
      else if isNumeral d then match numeral with
        | none => checkDirections rightToLeft (some d) (place + 1) rest
        | some n =>
          if n = d then checkDirections rightToLeft numeral (place + 1) rest
          else .error .mixedNumerals
      else checkDirections rightToLeft numeral (place + 1) rest
    else if !d.fitsLeftToRight then .error (.directionInLeftToRight place)
    else checkDirections rightToLeft numeral (place + 1) rest

def endsDirected (rightToLeft : Bool) (label : List Char) : Bool :=
  match (label.reverse.map direction).dropWhile (· == .mark) with
  | [] => false
  | d :: _ => d.ends rightToLeft

def checkDirection (label : List Char) : Except Flaw Unit :=
  match label.findIdx? (direction · == .unassigned) with
  | some i => .error (.unknownDirection (i + 1))
  | none =>
    if !label.any (direction · |>.turns) then .ok ()
    else match label.head?.map direction with
      | some .leftToRight => checkAll false
      | some .rightToLeft | some .arabicLetter => checkAll true
      | _ => .error .undirectedStart
where
  checkAll (rightToLeft : Bool) : Except Flaw Unit :=
    match checkDirections rightToLeft none 1 label with
    | .error e => .error e
    | .ok () => if endsDirected rightToLeft label then .ok () else .error .undirectedEnd

/-! ### Context -/

def isVirama (c : Char) : Bool := Normal.markClass c == 9

/-- The neighbour in one direction, marks aside, joins in the other direction. -/
def joinsAcross (side : CharClass) (s : List Char) : Bool :=
  match s.dropWhile joinsThrough.contains with
  | [] => false
  | c :: _ => side.contains c || joinsBoth.contains c

/-- Ideographs that the character database lists as ranges only, without names. -/
def unnamedIdeographs : CharClass where
  ranges := #[(0x17000, 0x187F7), (0x18D00, 0x18D08)]

/-- Permitted characters that have no name. -/
def isUnnamed (c : Char) : Bool :=
  Normal.markClass c == 0 && (direction c == .unassigned || unnamedIdeographs.contains c)

/-- Whether a joiner fits behind `before`, which is reversed, and in front of `after`. Nothing can
be told of it behind a character without a name. -/
def joinerFits? (c : Char) (before after : List Char) : Option Bool :=
  match before with
  | [] => some false
  | p :: _ =>
    if isVirama p then some true
    else if isUnnamed p then none
    else some (c == '\u200C' && joinsAcross joinsLeft before && joinsAcross joinsRight after)

def isArabicDigit (c : Char) : Bool := decide (0x660 ≤ c.toNat) && decide (c.toNat ≤ 0x669)

def isExtendedArabicDigit (c : Char) : Bool :=
  decide (0x6F0 ≤ c.toNat) && decide (c.toNat ≤ 0x6F9)

/-- The characters that are permitted in some contexts only. -/
def isContextual (c : Char) : Bool :=
  c == '\u00B7' || c == '\u0375' || c == '\u05F3' || c == '\u05F4' || c == '\u30FB'
    || isArabicDigit c || isExtendedArabicDigit c

def contextFits (c : Char) (before after label : List Char) : Bool :=
  if c = '\u00B7' then before.head? == some 'l' && after.head? == some 'l'
  else if c = '\u0375' then match after with
    | n :: _ => greek.contains n
    | [] => false
  else if c = '\u05F3' ∨ c = '\u05F4' then match before with
    | p :: _ => hebrew.contains p
    | [] => false
  else if c = '\u30FB' then
    label.any fun x ↦
      x != '\u30FB' && (hiragana.contains x || katakana.contains x || han.contains x)
  else if isArabicDigit c then !label.any isExtendedArabicDigit
  else !label.any isArabicDigit

/-! ### Labels -/

def isJoiner (c : Char) : Bool := c == '\u200C' || c == '\u200D'

/-- Each character is permitted, or permitted between its neighbours. -/
def checkCharacters (label : List Char) : List Char → List Char → Except Flaw Unit
  | _, [] => .ok ()
  | before, c :: after =>
    let place := before.length + 1
    if permitted.contains c then checkCharacters label (c :: before) after
    else if isJoiner c then
      match joinerFits? c before after with
      | some true => checkCharacters label (c :: before) after
      | some false => .error (.joinerOutOfContext place)
      | none => .error (.joinsUnknown place)
    else if isContextual c then
      if contextFits c before after label then checkCharacters label (c :: before) after
      else .error (.outOfContext place)
    else .error (.notPermitted place)

def checkLabel (label : List Char) : Except Flaw Unit :=
  match label with
  | [] => .error .empty
  | first :: _ =>
    if 254 < label.length then .error .tooLong
    else if !Normal.isComposed label then .error .notComposed
    else if (label.drop 2).take 2 == ['-', '-'] then .error .hyphensInside
    else if first = '-' ∨ label.getLast? = some '-' then .error .hyphenAtEnd
    else if marks.contains first then .error .leadingMark
    else match checkCharacters label [] label with
      | .error e => .error e
      | .ok () => checkDirection label

/-- A character that is permitted nowhere. Surrogates are judged as it is. -/
def standIn : Char := '\uE000'

def charOfCode (n : Nat) : Char := if n.isValidChar then Char.ofNat n else standIn

/-- The label of some code points, if it has no flaw. -/
def labelOfCodes (codes : List Nat) : Except Fault (List Char) :=
  let label := codes.map charOfCode
  match checkLabel label with
  | .error f => .error (.label f codes)
  | .ok () => .ok label

def checked (label : List Char) : Except Fault (List Char) := labelOfCodes (label.map Char.toNat)

def encodedStart : List Char := ['x', 'n', '-', '-']

/-- Reads the part of a label that follows the start of an ASCII form. What is read has to be
written in the same way again. -/
def decodeBody (body : List Char) : Except Fault (List Char) :=
  if body.isEmpty then .error .nothingEncoded
  else if body.getLast? = some '-' then .error .hyphenLast
  else match Punycode.decode body with
    | none => .error .malformed
    | some codes =>
      if Punycode.encode codes = body then labelOfCodes codes else .error .notCanonical

/-- Reads an ASCII label, in small letters, back into its characters. -/
def decodeLabel (label : List Char) : Except Fault (List Char) :=
  let small := label.map lowerAscii
  if 1024 < label.length then .error .labelTooLong
  else if encodedStart.isPrefixOf small then decodeBody (small.drop encodedStart.length)
  else checked small

def encodeLabel (label : List Char) : Except Fault (List Char) :=
  if allAscii label then
    match decodeLabel label with
    | .error e => .error e
    | .ok _ => if label.length ≤ 63 then .ok label else .error .labelTooLong
  else match checked label with
    | .error e => .error e
    | .ok label =>
      let encoded := encodedStart ++ Punycode.encode (label.map Char.toNat)
      if encoded.length ≤ 63 then .ok encoded else .error .labelTooLong

/-! ### Names -/

def isDot (c : Char) : Bool := c == '.' || c == '\u3002' || c == '\uFF0E' || c == '\uFF61'

/-- The labels of a name, and whether a dot follows the last one. -/
def labels (s : List Char) : List (List Char) × Bool :=
  let all := pieces '.' (s.map fun c ↦ if isDot c then '.' else c)
  if all.getLast? = some [] then (all.dropLast, true) else (all, false)

def mapLabels (f : List Char → Except Fault (List Char)) :
    List (List Char) → Except Fault (List (List Char))
  | [] => .ok []
  | l :: rest =>
    match f l with
    | .error e => .error e
    | .ok [] => .error .emptyLabel
    | .ok l' => (mapLabels f rest).map (l' :: ·)

def rejoin (ls : List (List Char)) (dotLast : Bool) : List Char :=
  join '.' (if dotLast then ls ++ [[]] else ls)

def convert (f : List Char → Except Fault (List Char)) (s : List Char) :
    Except Fault (List Char) :=
  if 254 < s.length then .error .domainTooLong
  else if s.isEmpty then .error .emptyDomain
  else
    let (ls, dotLast) := labels s
    (mapLabels f ls).map fun ls' ↦ rejoin ls' dotLast

def encode (s : List Char) : Except Fault (List Char) :=
  match convert encodeLabel s with
  | .error e => .error e
  | .ok name =>
    if name.length ≤ (if name.getLast? = some '.' then 254 else 253) then .ok name
    else .error .domainTooLong

def decode (s : List Char) : Except Fault (List Char) := convert decodeLabel s

/-! ### Messages -/

/-- A code point, with at least four digits. -/
def codeText (n : Nat) : String :=
  let width := if n < 0x10000 then 4 else if n < 0x100000 then 5 else 6
  "U+" ++ String.ofList (hexDigits .capital width n)

def Flaw.message (f : Flaw) (codes : List Nat) : String :=
  let label := String.ofList (Quoted.encodeCodes codes)
  let code (place : Nat) : String := codeText (codes.getD (place - 1) 0)
  match f with
  | .empty => "Empty Label"
  | .tooLong => "Label too long"
  | .notComposed => "Label must be in Normalization Form C"
  | .hyphensInside => "Label has disallowed hyphens in 3rd and 4th position"
  | .hyphenAtEnd => "Label must not start or end with a hyphen"
  | .leadingMark => "Label begins with an illegal combining character"
  | .joinsUnknown place =>
    "Unknown codepoint adjacent to joiner " ++ code place ++ " at position " ++ toString place
      ++ " in " ++ label
  | .joinerOutOfContext place =>
    "Joiner " ++ code place ++ " not allowed at position " ++ toString place ++ " in " ++ label
  | .outOfContext place =>
    "Codepoint " ++ code place ++ " not allowed at position " ++ toString place ++ " in " ++ label
  | .notPermitted place =>
    "Codepoint " ++ code place ++ " at position " ++ toString place ++ " of " ++ label
      ++ " not allowed"
  | .unknownDirection place =>
    "Unknown directionality in label " ++ label ++ " at position " ++ toString place
  | .undirectedStart =>
    "First codepoint in label " ++ label ++ " must be directionality L, R or AL"
  | .directionInRightToLeft place =>
    "Invalid direction for codepoint at position " ++ toString place
      ++ " in a right-to-left label"
  | .directionInLeftToRight place =>
    "Invalid direction for codepoint at position " ++ toString place
      ++ " in a left-to-right label"
  | .mixedNumerals => "Can not mix numeral types in a right-to-left label"
  | .undirectedEnd => "Label ends with illegal codepoint directionality"

def Fault.message : Fault → String
  | .emptyDomain => "Empty domain"
  | .emptyLabel => "Empty label"
  | .domainTooLong => "Domain too long"
  | .labelTooLong => "Label too long"
  | .nothingEncoded => "Malformed A-label, no Punycode eligible content found"
  | .hyphenLast => "A-label must not end with a hyphen"
  | .malformed => "Invalid A-label"
  | .notCanonical => "A-label is not the canonical Punycode encoding of its U-label"
  | .label f codes => f.message codes

end SecureExchange.Address.HostName
