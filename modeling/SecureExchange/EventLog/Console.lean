import SecureExchange.Failure.Fault

/-!
# Events for people

The line that shows an event to people: time, level, name and logger in fixed places, then all other
entries in order of their keys. Entries that tell of a stack and an exception are not part of the
line; their texts follow below it, and what is not a text cannot be shown there.
-/

namespace SecureExchange.EventLog.Console

abbrev Entries := OrderedMap String Datum

def padTo (width : Nat) (s : String) : String :=
  s ++ String.ofList (List.replicate (width - s.length) ' ')

def bracketed (s : String) : String := "[" ++ s ++ "]"

/-- Characters that would make a bare text ambiguous. -/
def needsQuotes (c : Char) : Bool :=
  c == ' ' || c == '\t' || c == '=' || c == '\r' || c == '\n' || c == '\x22' || c == '\x27'

def shownValue : Datum → String
  | .text s => if s.toList.any needsQuotes then Text.quoted s else s
  | x => x.literal

/-- The entries with a place of their own, and how they are written there. -/
def places : List (String × (Datum → String)) :=
  [("timestamp", Datum.display),
   ("level", fun x ↦ bracketed (padTo 9 x.display)),
   ("event", fun x ↦ padTo 30 x.display),
   ("logger", fun x ↦ bracketed x.display),
   ("logger_name", fun x ↦ bracketed x.display)]

def hasPlace (key : String) : Bool := places.any (·.1 == key)

def placed (entries : Entries) : List String :=
  places.filterMap fun p ↦ (OrderedMap.get? p.1 entries).map p.2

/-- Puts an entry in front of the first one with a greater key. -/
def insertSorted (e : String × Datum) : Entries → Entries
  | [] => [e]
  | e' :: rest => if e.1 < e'.1 then e :: e' :: rest else e' :: insertSorted e rest

def sortByKey (entries : Entries) : Entries := entries.foldr insertSorted []

def others (entries : Entries) : List String :=
  (sortByKey (entries.filter (!hasPlace ·.1))).map fun e ↦ e.1 ++ "=" ++ shownValue e.2

def trimRight (s : String) : String :=
  String.ofList (s.toList.reverse.dropWhile (· == ' ')).reverse

/-- The line without its end. -/
def line (entries : Entries) : String :=
  trimRight (" ".intercalate ((placed entries ++ others entries).filter (!·.isEmpty)))

def stackKey : String := "stack"

def exceptionKey : String := "exception"

/-- Whether an exception was to be described. -/
def describedKey : String := "exc_info"

/-- The entries that are not part of the line. -/
def isBelow (key : String) : Bool := [stackKey, exceptionKey, describedKey].contains key

/-- An entry, unless it is absent or null. -/
def present? (key : String) (entries : Entries) : Option Datum :=
  match OrderedMap.get? key entries with
  | some .null => none
  | x => x

/-- A text on lines of its own. -/
def below (x : Datum) : Except Failure.Fault String :=
  match x with
  | .text s => .ok ("\n" ++ s)
  | x => .error (.invalidType ("can only concatenate str (not \"" ++ x.typeName ++ "\") to str"))

def rule : String := "\n\n" ++ String.ofList (List.replicate 79 '=') ++ "\n"

/-- The stack, a rule if an exception was there to be shown, and the exception. -/
def belowAll (entries : Entries) : Except Failure.Fault String :=
  let exception := present? exceptionKey entries
  let isRuled := exception.isSome || ((OrderedMap.get? describedKey entries).getD .null).isTrue
  let stackShown : Except Failure.Fault String := match present? stackKey entries with
    | none => .ok ""
    | some stack => (below stack).map (· ++ if isRuled then rule else "")
  match stackShown, exception with
  | .error f, _ => .error f
  | .ok s, none => .ok s
  | .ok s, some x => (below x).map (s ++ ·)

/-- The line and what follows below it, without the last end of line. -/
def render (entries : Entries) : Except Failure.Fault String :=
  (belowAll entries).map (line (entries.filter (!isBelow ·.1)) ++ ·)

end SecureExchange.EventLog.Console
