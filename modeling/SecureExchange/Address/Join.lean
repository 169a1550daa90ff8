import SecureExchange.Address.Reference

/-!
# Addresses relative to another

`join` completes a reference by the parts of a base that it leaves out. Segments of the base up to
its last slash come in front of a relative path, and dot segments are resolved.
-/

namespace SecureExchange.Address.Reference

open Text

/-- All but the first and last segment are kept only if they are not empty. -/
def dropEmptyInside (segments : List (List Char)) : List (List Char) :=
  match segments with
  | [] => []
  | first :: rest =>
    match rest.getLast? with
    | none => [first]
    | some last => first :: rest.dropLast.filter (!·.isEmpty) ++ [last]

/-- The segments of a base path that come in front of a relative one. -/
def leadingSegments (path : List Char) : List (List Char) :=
  let segments := pieces '/' path
  if segments.getLast? = some [] then segments else segments.dropLast

def mergeSegments (base path : List Char) : List (List Char) :=
  if path.head? = some '/' then pieces '/' path
  else dropEmptyInside (leadingSegments base ++ pieces '/' path)

def isDots (segment : List Char) : Bool := segment == ['.'] || segment == ['.', '.']

/-- A path that ends in a dot segment ends in a slash. -/
def resolveSegments (segments : List (List Char)) : List (List Char) :=
  let kept := segments.foldl (fun out s ↦
    if s == ['.', '.'] then out.dropLast else if s == ['.'] then out else out ++ [s]) []
  match segments.getLast? with
  | some last => if isDots last then kept ++ [[]] else kept
  | none => kept

def mergePaths (base path : List Char) : List Char :=
  let merged := Text.join '/' (resolveSegments (mergeSegments base path))
  if merged.isEmpty then ['/'] else merged

/-- The reference completed by the parts of a base of the same scheme. -/
def completedBy (r base : Reference) : Reference :=
  if !r.authority.isEmpty then r
  else if r.path.isEmpty && r.params.isEmpty then
    { r with
      authority := base.authority
      path := base.path
      params := base.params
      query := if r.query.isEmpty then base.query else r.query }
  else { r with authority := base.authority, path := mergePaths base.path r.path }

def join (base location : List Char) : Except Fault (List Char) :=
  if location.isEmpty then .ok base
  else match parse base, parse location with
    | .error e, _ => .error e
    | .ok _, .error e => .error e
    | .ok b, .ok r =>
      let r := if r.scheme.isEmpty then { r with scheme := b.scheme } else r
      if r.scheme = b.scheme then .ok (r.completedBy b).render else .ok location

end SecureExchange.Address.Reference
