import SecureExchange.Credential.Line
import SecureExchange.Text.Base64

/-!
# Blocks of credential files

A block stands between a line that starts it and a line that ends it under the same name. Lines in
front of a blank line, or with a colon in one of them, are headers; what follows is data, and
without a blank line everything is.

`readings` reads block after block until the file is used up, over blocks that are malformed as
well.
-/

namespace SecureExchange.Credential

open Text

/-- A well-formed block. Its content is known only if there is no other data. -/
structure Block where
  name : Octets
  header : Octets
  content : Option Content
  deriving DecidableEq, Repr

/-- What is read in one go: a block, a malformed one, or no start of one. -/
inductive Reading
  | block (b : Block)
  | malformed
  | nothing
  deriving DecidableEq, Repr

namespace Block

/-- Whether the lines read so far are headers. -/
inductive Stage
  | undecided
  | header
  | data
  deriving DecidableEq, Repr

/-- A block that is being read, its lines in reverse. -/
structure Draft where
  stage : Stage
  /-- The last piece was not the whole of its line. -/
  goesOn : Bool
  /-- A short line of data was met, which has to be the last. -/
  isShort : Bool
  front : List Line
  data : List Line

def Draft.empty : Draft := ⟨.undecided, false, false, [], []⟩

/-- Lines behind headers have at most this length, and all but the last have it. -/
def fullLength : Nat := 64

def colon : UInt8 := 58

def textOf (lines : List Line) : Octets :=
  lines.flatMap fun l ↦ match l with
    | .octets s => s ++ [lineEnd]
    | .content _ => []

/-- What headers and data make up. -/
def assemble (name : Octets) (headers data : List Line) : Reading :=
  match data with
  | [.content c] => .block ⟨name, textOf headers, some c⟩
  | data =>
    if Base64.holdsData (textOf data) then .block ⟨name, textOf headers, none⟩ else .malformed

def Draft.finish (name : Octets) (d : Draft) : Reading :=
  match d.stage with
  | .undecided => assemble name [] d.front.reverse
  | _ => assemble name d.front.reverse d.data.reverse

def Draft.push (l : Line) (d : Draft) : Draft :=
  match d.stage with
  | .data => { d with data := l :: d.data }
  | _ => { d with front := l :: d.front }

/-- What a piece does to a block that is being read. -/
inductive Progress
  | more (d : Draft)
  | done (r : Reading)

/-- A line that is not blank and does not end the block. -/
def Draft.takeLine (clean : Octets) (d : Draft) : Progress :=
  if d.isShort then .done .malformed
  else if d.stage = .data then
    if fullLength < clean.length then .done .malformed
    else .more { d.push (.octets clean) with isShort := decide (clean.length < fullLength) }
  else .more (d.push (.octets clean))

/-- A blank line ends the headers. There is only one. -/
def Draft.takeBlank (wentOn : Bool) (d : Draft) : Progress :=
  if wentOn then .more d
  else if d.stage = .data then .done .malformed
  else .more { d with stage := .data }

def Draft.takeOctets (name seen : Octets) (d : Draft) : Progress :=
  let clean := Line.clean seen
  let stage := if d.stage = .undecided ∧ colon ∈ seen then .header else d.stage
  let next := { d with stage := stage, goesOn := Line.goesOn seen }
  if clean.isEmpty then next.takeBlank d.goesOn
  else match Line.dropStart? endMark clean with
    | some rest => .done (if rest = name ++ markTail then d.finish name else .malformed)
    | none => next.takeLine clean

def Draft.takeContent (c : Content) (d : Draft) : Progress :=
  if d.isShort then .done .malformed
  else .more { d.push (.content c) with goesOn := false, isShort := decide (d.stage = .data) }

/-- A line that begins with a zero octet counts as the end of the file. -/
def Draft.take (name : Octets) (l : Line) (d : Draft) : Progress :=
  match l with
  | .content c => d.takeContent c
  | .octets s => if (Line.seen s).isEmpty then .done .malformed else d.takeOctets name (Line.seen s)

/-- Reads up to the end of the block. -/
def readRest (name : Octets) (d : Draft) : List Line → Reading × List Line
  | [] => (.malformed, [])
  | l :: rest =>
    match d.take name l with
    | .done r => (r, rest)
    | .more d => readRest name d rest

/-- Looks for the start of a block and reads the block. A mark of UTF-8 counts on the first line
only. -/
def readNext (isFirst : Bool) : List Line → Reading × List Line
  | [] => (.nothing, [])
  | .content _ :: rest => readNext false rest
  | .octets s :: rest =>
    let seen := Line.seen s
    if seen.isEmpty then (.nothing, rest)
    else
      let clean := Line.clean (if isFirst then Line.dropByteOrderMark seen else seen)
      match Line.startedName? clean with
      | some name => readRest name .empty rest
      | none => readNext false rest

theorem length_readRest_le (name : Octets) (d : Draft) (lines : List Line) :
    (readRest name d lines).2.length ≤ lines.length := by
  induction lines generalizing d with
  | nil => simp [readRest]
  | cons l rest ih =>
      unfold readRest
      split
      · simp
      · exact Nat.le_succ_of_le (ih _)

theorem length_readNext_lt (isFirst : Bool) {lines : List Line} (h : lines ≠ []) :
    (readNext isFirst lines).2.length < lines.length := by
  induction lines generalizing isFirst with
  | nil => exact absurd rfl h
  | cons l rest ih =>
      have later : (readNext false rest).2.length ≤ rest.length := by
        by_cases hr : rest = []
        · simp [hr, readNext]
        · exact Nat.le_of_lt (ih false hr)
      cases l with
      | content c => exact Nat.lt_succ_of_le later
      | octets s =>
          unfold readNext
          dsimp only
          split
          · simp
          · split
            · exact Nat.lt_succ_of_le (length_readRest_le ..)
            · exact Nat.lt_succ_of_le later

/-- All that is read from a file. -/
def readings (lines : List Line) : List Reading :=
  match lines with
  | [] => []
  | l :: rest => (readNext true (l :: rest)).1 :: readings (readNext true (l :: rest)).2
termination_by lines.length
decreasing_by exact length_readNext_lt true (List.cons_ne_nil l rest)

end Block

end SecureExchange.Credential
