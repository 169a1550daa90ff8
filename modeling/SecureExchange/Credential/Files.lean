import SecureExchange.Credential.Block
import SecureExchange.Credential.Path

/-!
# Files and directories

What paths lead to. A path is followed name by name, and every name but the last has to be that of a
directory. A working directory lies among temporary files. Of what lies beyond it only some
directories and files are known that hold no credentials.
-/

namespace SecureExchange.Credential

open Text

inductive Node
  | directory
  | file (parts : List Part)
  deriving DecidableEq, Repr

/-- Named files and directories below a directory. Directories that lead to a named file exist as
well. -/
abbrev Files := List (List (List Char) × Node)

/-- What a path leads to. -/
inductive Found
  | node (n : Node)
  | nothing
  | nameTooLong
  deriving DecidableEq, Repr

namespace Files

def nodeAt? (names : List (List Char)) (files : Files) : Option Node :=
  match files.find? (·.1 == names) with
  | some entry => some entry.2
  | none =>
    if names.isEmpty || files.any fun entry ↦ names.isPrefixOf entry.1 then some .directory
    else none

/-- Directories that every system has, and files without credentials. -/
def ofSystem : Files :=
  (["bin", "boot", "dev", "etc", "home", "lib", "media", "mnt", "opt", "proc", "root", "run",
    "sbin", "srv", "sys", "tmp", "usr", "var"].map fun name ↦ ([name.toList], .directory))
  ++ [(["dev".toList, "null".toList], .file []), (["etc".toList, "passwd".toList], .file []),
    (["etc".toList, "hosts".toList], .file []), (["etc".toList, "hostname".toList], .file [])]

def upward : List Char := ['.', '.']

/-- The most octets of a name. -/
def maxName : Nat := 255

/-- The octets of a path are fewer than this. -/
def pathBound : Nat := 4096

def octetCount (s : List Char) : Nat := (Utf8.encode s).length

/-- The directory that a working directory lies in. -/
def temporary : List Char := "tmp".toList

/-- Follows names from a directory, whose own names are given in reverse. Two dots lead to the
directory above. A root has none above it; any other first directory is a working directory. -/
def follow (isRoot : Bool) (files : Files) : List (List Char) → List (List Char) → Found
  | at_, [] =>
    match nodeAt? at_.reverse files with
    | some n => .node n
    | none => .nothing
  | at_, name :: rest =>
    match nodeAt? at_.reverse files with
    | some .directory =>
      if name = upward then
        match at_ with
        | [] => if isRoot then follow true files [] rest else follow true ofSystem [temporary] rest
        | _ :: above => follow isRoot files above rest
      else if maxName < octetCount name then .nameTooLong
      else follow isRoot files (name :: at_) rest
    | _ => .nothing

/-- What a path leads to from a working directory that holds `files`. No path holds a zero. -/
def lookup (p : Path) (files : Files) : Found :=
  if p.toText.contains '\x00' then .nothing
  else if pathBound ≤ octetCount p.toText then .nameTooLong
  else if p.root.isEmpty then follow false files [] p.names
  else follow true ofSystem [] p.names

end Files

end SecureExchange.Credential
