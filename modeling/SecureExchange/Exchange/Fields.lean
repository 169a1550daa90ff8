import SecureExchange.OrderedMap
import SecureExchange.Text.Case
import SecureExchange.Text.Charset

/-!
# Header fields

Fields are pairs of octet strings; names are compared with ASCII letters in small form. A map of
request fields also knows the character set in which its texts are written, once that has been
settled: it is settled the first time that entries are read, by what the entries then hold.
-/

namespace SecureExchange

open Text

structure Field where
  name : Octets
  value : Octets
  deriving DecidableEq, Repr

def lowerOctet (b : UInt8) : UInt8 := if 0x41 ≤ b ∧ b ≤ 0x5A then b + 0x20 else b

namespace Field

/-- The name by which a field is found. -/
def key (f : Field) : Octets := f.name.map lowerOctet

def ofText (name value : String) : Field :=
  ⟨Utf8.encode name.toList, Utf8.encode value.toList⟩

end Field

/-- Replaces the first field of the name, drops later ones, or appends the field. -/
def putField (f : Field) (entries : List Field) : List Field :=
  match entries with
  | [] => [f]
  | e :: rest =>
    if e.key = f.key then f :: rest.filter fun e' ↦ decide (e'.key ≠ f.key)
    else e :: putField f rest

def hasField (key : Octets) (entries : List Field) : Bool :=
  entries.any fun e ↦ decide (e.key = key)

/-- The first character set that all names and values fit. -/
def charsetOf (entries : List Field) : Charset :=
  let fits (k : Charset) : Bool :=
    entries.all fun e ↦ (k.decode? e.name).isSome && (k.decode? e.value).isSome
  if fits .ascii then .ascii else if fits .utf8 then .utf8 else .latin1

def readWith (k : Charset) (s : Octets) : String := String.ofList ((k.decode? s).getD [])

/-- Names in small letters and values, as text. -/
def readFields (k : Charset) (entries : List Field) : List (String × String) :=
  entries.map fun e ↦ (readWith k e.key, readWith k e.value)

/-- The value of each name; values of one name are joined. -/
def joinValues (pairs : List (String × String)) : OrderedMap String String :=
  (OrderedMap.group pairs).map fun p ↦ (p.1, ", ".intercalate p.2)

/-- The joined values of the fields that a text names, letter case aside. -/
def findField? (k : Charset) (name : String) (entries : List Field) :
    Except Unencodable (Option String) :=
  match k.encode (lowerChars name.toList) with
  | .error e => .error e
  | .ok key =>
    match entries.filter fun e ↦ decide (e.key = key) with
    | [] => .ok none
    | found => .ok (some (", ".intercalate (found.map fun e ↦ readWith k e.value)))

/-- Why fields cannot be listed: the look-up of a listed name fails, or finds nothing. -/
inductive ListingFault
  | unencodable (e : Unencodable)
  | missing (name : String)
  deriving DecidableEq, Repr

def lookUpAll (k : Charset) (entries : List Field) :
    List String → Except ListingFault (List (String × String))
  | [] => .ok []
  | name :: rest =>
    match findField? k name entries with
    | .error e => .error (.unencodable e)
    | .ok none => .error (.missing name)
    | .ok (some value) => (lookUpAll k entries rest).map ((name, value) :: ·)

/-- Each name in small letters, and what the look-up of it finds. Listing leaves letters beyond
ASCII as they are, but the look-up does not, so a listed name may be missing. -/
def listFields (k : Charset) (entries : List Field) :
    Except ListingFault (List (String × String)) :=
  lookUpAll k entries (joinValues (readFields k entries)).keys

@[simp] theorem putField_nil (f : Field) : putField f [] = [f] := rfl

/-- The fields of a request before it is sent. -/
structure Fields where
  entries : List Field
  charset : Option Charset
  deriving DecidableEq, Repr

namespace Fields

def empty : Fields := ⟨[], none⟩

/-- Sets a field, in UTF-8 unless a character set has been settled. -/
def set (name value : String) (h : Fields) : Except Unencodable Fields :=
  let k := h.charset.getD .utf8
  match k.encode name.toList, k.encode value.toList with
  | .error e, _ => .error e
  | .ok _, .error e => .error e
  | .ok n, .ok v => .ok { h with entries := putField ⟨n, v⟩ h.entries }

/-- The character set in which entries are read. -/
def readingCharset (h : Fields) : Charset := h.charset.getD (charsetOf h.entries)

/-- The map after its entries have been read. Reading an empty map settles nothing. -/
def settled (h : Fields) : Fields :=
  if h.entries.isEmpty then h else { h with charset := some h.readingCharset }

def texts (h : Fields) : OrderedMap String String :=
  joinValues (readFields h.readingCharset h.entries)

@[simp] theorem entries_settled (h : Fields) : h.settled.entries = h.entries := by
  unfold settled
  split <;> rfl

@[simp] theorem settled_empty : settled empty = empty := rfl

end Fields

end SecureExchange
