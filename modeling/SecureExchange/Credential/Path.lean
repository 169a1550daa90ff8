import SecureExchange.Text.Cut

/-!
# Paths of files

A path is a root, which is empty for a relative path, and a list of names. Reading drops empty names
and dots; double dots stay, since a directory may be a link. The path without root and names is
written as a dot.
-/

namespace SecureExchange.Credential

open Text

structure Path where
  root : List Char
  names : List (List Char)
  deriving DecidableEq, Repr

namespace Path

/-- Exactly two slashes in front are kept apart from one; more count as one. -/
def rootOf (s : List Char) : List Char :=
  match s with
  | '/' :: '/' :: '/' :: _ => ['/']
  | '/' :: '/' :: _ => ['/', '/']
  | '/' :: _ => ['/']
  | _ => []

def isName (s : List Char) : Bool := !s.isEmpty && s != ['.']

def ofText (s : List Char) : Path := ⟨rootOf s, (pieces '/' s).filter isName⟩

def toText (p : Path) : List Char :=
  if p.root.isEmpty && p.names.isEmpty then ['.'] else p.root ++ join '/' p.names

end Path

end SecureExchange.Credential
