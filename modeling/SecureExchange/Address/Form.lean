import SecureExchange.Text.Percent

/-!
# Form-encoded pairs

A query as a list of names and values. Reading skips empty pieces, gives a name without an equals
sign an empty value, and reads a plus sign as a space.
-/

namespace SecureExchange.Address.Form

open Text

def plusToSpace (s : List Char) : List Char := s.map fun c ↦ if c = '+' then ' ' else c

def decodeText (s : List Char) : List Char := Percent.decode (plusToSpace s)

def decodePair (piece : List Char) : List Char × List Char :=
  let (name, value) := cut '=' piece
  (decodeText name, decodeText (value.getD []))

def decode (query : List Char) : List (List Char × List Char) :=
  ((pieces '&' query).filter (!·.isEmpty)).map decodePair

def isKept (c : Char) : Bool :=
  c.isAlphanum || c == '_' || c == '.' || c == '-' || c == '~' || c == '*' || c == ' '

def spaceToPlus (s : List Char) : List Char := s.map fun c ↦ if c = ' ' then '+' else c

def encodeText (s : List Char) : List Char := spaceToPlus (Percent.encodeWith isKept s)

def encodePair (p : List Char × List Char) : List Char := encodeText p.1 ++ '=' :: encodeText p.2

def encode (pairs : List (List Char × List Char)) : List Char := join '&' (pairs.map encodePair)

end SecureExchange.Address.Form
