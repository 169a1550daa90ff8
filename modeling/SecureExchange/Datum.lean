import SecureExchange.Number.Literal
import SecureExchange.Number.Shortest
import SecureExchange.OrderedMap
import SecureExchange.Text.Quoted

/-!
# Data

The values that requests are described with and that log events carry: nothing, truth values,
numbers, texts, lists and maps with text keys. `literal` spells a value out as messages show it, and
`display` shows a text that stands alone without its quotes.
-/

namespace SecureExchange

inductive Datum
  | null
  | bool (b : Bool)
  | int (i : Int)
  | float (x : Binary64)
  | text (s : String)
  | list (items : List Datum)
  | map (entries : List (String × Datum))

instance : Inhabited Datum := ⟨.null⟩

namespace Datum

def ofNumber : Number → Datum
  | .whole i => .int i
  | .binary x => .float x

def ofText? : Option String → Datum
  | some s => .text s
  | none => .null

/-- The name of a value's type, as messages show it. -/
def typeName : Datum → String
  | .null => "NoneType"
  | .bool _ => "bool"
  | .int _ => "int"
  | .float _ => "float"
  | .text _ => "str"
  | .list _ => "list"
  | .map _ => "dict"

def isNull : Datum → Bool
  | .null => true
  | _ => false

/-- Whether a value counts as true: nothing, zero and what is empty do not. -/
def isTrue : Datum → Bool
  | .null => false
  | .bool b => b
  | .int i => i != 0
  | .float x => !x.isZero
  | .text s => !s.isEmpty
  | .list items => !items.isEmpty
  | .map entries => !entries.isEmpty

mutual

def literal : Datum → String
  | .null => "None"
  | .bool b => if b then "True" else "False"
  | .int i => toString i
  | .float x => x.text
  | .text s => Text.quoted s
  | .list items => "[" ++ literalItems items ++ "]"
  | .map entries => "\x7b" ++ literalEntries entries ++ "\x7d"

def literalItems : List Datum → String
  | [] => ""
  | [x] => literal x
  | x :: rest => literal x ++ ", " ++ literalItems rest

def literalEntries : List (String × Datum) → String
  | [] => ""
  | [(k, x)] => Text.quoted k ++ ": " ++ literal x
  | (k, x) :: rest => Text.quoted k ++ ": " ++ literal x ++ ", " ++ literalEntries rest

end

def display : Datum → String
  | .text s => s
  | x => literal x

@[simp] theorem display_text (s : String) : display (.text s) = s := rfl

end Datum

end SecureExchange
