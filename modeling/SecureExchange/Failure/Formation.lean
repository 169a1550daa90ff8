import SecureExchange.Failure.Fault
import SecureExchange.Text.Cut

/-!
# Forming faults

A fault is formed from its class and the arguments that it was raised with, which decide its text
and sometimes its class. Most classes take any arguments. Faults of the HTTP client take a message,
or nothing if their text is fixed; faults of text conversion take what they tell of. `Fault.form`
answers the fault, or the one that is raised because there is none of these arguments.
-/

namespace SecureExchange.Failure

/-- Arguments in parentheses; a single one is followed by a comma. -/
def tupleText (args : List Datum) : String :=
  match args with
  | [x] => "(" ++ x.literal ++ ",)"
  | args => "(" ++ Datum.literalItems args ++ ")"

/-- One argument is shown as it stands, several in parentheses. -/
def plainText (args : List Datum) : String :=
  match args with
  | [] => ""
  | [x] => x.display
  | args => tupleText args

/-! ### Faults of the operating system -/

/-- The arguments of a fault of the operating system: an error number, a text, and the names of up
to two files. -/
structure SystemArguments where
  number : Datum
  text : Datum
  file : Option Datum
  secondFile : Option Datum

def SystemArguments.ofList? (args : List Datum) : Option SystemArguments :=
  if args.length > 5 then none
  else match args with
    | number :: text :: rest =>
      let present : Option Datum → Option Datum
        | some .null => none
        | x => x
      some ⟨number, text, present rest[0]?, present rest[2]?⟩
    | _ => none

def systemText (f : SystemFault) (args : List Datum) : String :=
  match SystemArguments.ofList? args with
  | none => plainText args
  | some a =>
    let start := "[Errno " ++ a.number.display ++ "] " ++ a.text.display
    let file := match f, a.file with
      | .blocking, some (.int _) | .blocking, some (.bool _) => none
      | _, file => file
    match file, a.secondFile with
    | none, _ => start
    | some x, none => start ++ ": " ++ x.literal
    | some x, some y => start ++ ": " ++ x.literal ++ " -> " ++ y.literal

/-- The class that the error number stands for, if no narrower one was named. -/
def systemClass (f : SystemFault) (args : List Datum) : SystemFault :=
  match f, SystemArguments.ofList? args with
  | .any, some ⟨.int n, _, _, _⟩ => .ofErrorNumber n
  | f, _ => f

def formSystem (f : SystemFault) (args : List Datum) : Fault :=
  let f := systemClass f args
  ⟨.system f, systemText f args⟩

/-- Sizes and places stay below this, and are at least its negative. -/
def sizeBound : Int := 0x8000000000000000

def fitsSize (n : Int) : Bool := decide (-sizeBound ≤ n) && decide (n < sizeBound)

/-- A blocking fault takes a count in the place of a file; this one is out of bounds. -/
def hasWrongCount (f : SystemFault) (args : List Datum) : Bool :=
  match systemClass f args, SystemArguments.ofList? args with
  | .blocking, some ⟨_, _, some (.int n), _⟩ => !fitsSize n
  | _, _ => false

def tlsText (args : List Datum) : String :=
  match SystemArguments.ofList? args with
  | some ⟨_, .text s, _, _⟩ => s
  | some ⟨_, _, some _, _⟩ => tupleText (args.take 2)
  | _ => tupleText args

/-! ### Faults of the HTTP client -/

namespace HttpFault

/-- The class whose constructor forms faults of this class. -/
def constructor : HttpFault → HttpFault
  | .request | .decoding | .tooManyRedirects => .request
  | f => if f.isTransport then .request else f

/-- How many arguments the constructor takes. -/
def arity (f : HttpFault) : Nat := if f.fixedText?.isSome then 0 else 1

def refusal? (f : HttpFault) (args : List Datum) : Option Fault :=
  let start := f.constructor.name ++ ".__init__() "
  let given := match f with
    | .status _ => " positional arguments (and 2 keyword-only arguments) were given"
    | _ => " were given"
  if args.length < f.arity then
    some (.invalidType (start ++ "missing 1 required positional argument: 'message'"))
  else if f.arity < args.length then
    some (.invalidType (start ++ "takes " ++ toString (f.arity + 1) ++ " positional argument"
      ++ (if f.arity = 0 then "" else "s") ++ " but " ++ toString (args.length + 1) ++ given))
  else none

end HttpFault

/-! ### Faults of text conversion -/

/-- What an argument has to be. -/
inductive Wanted
  | text
  | place
  | anything
  deriving DecidableEq, Repr

/-- The type of a value, as a refusal of the value tells it. -/
def toldType (x : Datum) : String := if x.isNull then x.literal else x.typeName

/-- Why an argument, which is the one of this number, is not what it has to be. -/
def Wanted.refusal? (w : Wanted) (number : Nat) (x : Datum) : Option Fault :=
  match w, x with
  | .text, .text _ | .place, .bool _ | .anything, _ => none
  | .text, x =>
    some (.invalidType ("argument " ++ toString number ++ " must be str, not " ++ toldType x))
  | .place, .int n =>
    if fitsSize n then none
    else some (.overflow "Python int too large to convert to C ssize_t")
  | .place, x =>
    some (.invalidType ("'" ++ x.typeName ++ "' object cannot be interpreted as an integer"))

/-- The first argument that is not what it has to be. -/
def firstRefusal? (number : Nat) : List Wanted → List Datum → Option Fault
  | w :: ws, x :: xs => w.refusal? number x <|> firstRefusal? (number + 1) ws xs
  | _, _ => none

/-- A text conversion that may fail: from a text to octets, back, or from a text to another one. -/
inductive Conversion
  | encoding
  | decoding
  | translating
  deriving DecidableEq, Repr

namespace Conversion

def ofName? (name : String) : Option Conversion :=
  match name with
  | "UnicodeEncodeError" => some .encoding
  | "UnicodeDecodeError" => some .decoding
  | "UnicodeTranslateError" => some .translating
  | _ => none

/-- The name of the encoding, what was converted, the places of the first character that fails and
of the next one that does not, and the reason. -/
def wanted : Conversion → List Wanted
  | .encoding => [.text, .text, .place, .place, .text]
  | .decoding => [.text, .anything, .place, .place, .text]
  | .translating => [.text, .place, .place, .text]

/-- Octets are never given, so no fault of decoding can be formed. -/
def refusal? (c : Conversion) (args : List Datum) : Option Fault :=
  if args.length ≠ c.wanted.length then
    some (.invalidType ("function takes exactly " ++ toString c.wanted.length ++ " arguments ("
      ++ toString args.length ++ " given)"))
  else firstRefusal? 1 c.wanted args <|> match c, args with
    | .decoding, _ :: x :: _ =>
      some (.invalidType ("a bytes-like object is required, not '" ++ x.typeName ++ "'"))
    | _, _ => none

/-- The characters that fail, and where they are. -/
def failingText (converted : List Char) (first next : Int) : String :=
  match converted[first.toNat]? with
  | some c =>
    if next = first + 1 then
      " character '" ++ String.ofList (Text.Quoted.escapeCode c.toNat) ++ "' in position "
        ++ toString first
    else run
  | none => run
where
  run : String := " characters in position " ++ toString first ++ "-" ++ toString (next - 1)

def text (c : Conversion) (args : List Datum) : String :=
  let place : Datum → Int
    | .int n => n
    | .bool true => 1
    | _ => 0
  match c, args with
  | .encoding, [.text name, .text s, first, next, .text reason] =>
    "'" ++ name ++ "' codec can't encode" ++ failingText s.toList (place first) (place next)
      ++ ": " ++ reason
  | .translating, [.text s, first, next, .text reason] =>
    "can't translate" ++ failingText s.toList (place first) (place next) ++ ": " ++ reason
  | _, args => plainText args

end Conversion

/-! ### Faults of syntax -/

namespace SyntaxFault

def names : List String := ["SyntaxError", "IndentationError", "TabError"]

/-- The parts of a value that can be gone through. -/
def parts? : Datum → Option (List Datum)
  | .text s => some (s.toList.map fun c ↦ .text c.toString)
  | .list items => some items
  | .map entries => some (entries.map fun e ↦ .text e.1)
  | _ => none

/-- The second of two arguments tells the place: file, line, column and text, and maybe its end. -/
def refusal? (args : List Datum) : Option Fault :=
  match args with
  | [_, place] =>
    match parts? place with
    | none => some (.invalidType ("'" ++ place.typeName ++ "' object is not iterable"))
    | some ps =>
      let given := " arguments (" ++ toString ps.length ++ " given)"
      if ps.length < 4 then some (.invalidType ("function takes at least 4" ++ given))
      else if ps.length = 5 then
        some (.invalidType "end_offset must be provided when end_lineno is provided")
      else if 6 < ps.length then some (.invalidType ("function takes at most 6" ++ given))
      else none
  | _ => none

/-- The message, then file and line as far as they are told. -/
def text (args : List Datum) : String :=
  let message := (args.head?.getD .null).display
  let place := match args with
    | [_, place] => (parts? place).getD []
    | _ => []
  let file := match place with
    | .text s :: _ => some (String.ofList (Text.cutLast '/' s.toList).2)
    | _ => none
  let line := match place with
    | _ :: .int n :: _ => some ("line " ++ toString n)
    | _ => none
  match file, line with
  | none, none => message
  | some file, none => message ++ " (" ++ file ++ ")"
  | none, some line => message ++ " (" ++ line ++ ")"
  | some file, some line => message ++ " (" ++ file ++ ", " ++ line ++ ")"

end SyntaxFault

/-! ### Groups of faults -/

namespace FaultGroup

def names : List String := ["ExceptionGroup", "BaseExceptionGroup"]

def noItems : Fault :=
  .invalidValue "second argument (exceptions) must be a non-empty sequence"

def wrongItem : Fault :=
  .invalidValue "Item 0 of second argument (exceptions) is not an exception"

/-- A group gathers other faults, which are never given. -/
def refusal (args : List Datum) : Fault :=
  let start := "BaseExceptionGroup.__new__() "
  match args with
  | [.text _, .text s] => if s.isEmpty then noItems else wrongItem
  | [.text _, .list items] => if items.isEmpty then noItems else wrongItem
  | [.text _, _] => .invalidType "second argument (exceptions) must be a sequence"
  | [x, _] => .invalidType (start ++ "argument 1 must be str, not " ++ toldType x)
  | args =>
    .invalidType (start ++ "takes exactly 2 arguments (" ++ toString args.length ++ " given)")

end FaultGroup

/-! ### All faults -/

/-- Why no fault of the class is formed from the arguments. -/
def FaultClass.refusal? (cls : FaultClass) (args : List Datum) : Option Fault :=
  match cls with
  | .system f =>
    if hasWrongCount f args then
      some (.invalidValue "cannot fit 'int' into an index-sized integer")
    else none
  | .http f => f.refusal? args
  | .other name =>
    match Conversion.ofName? name with
    | some c => c.refusal? args
    | none =>
      if SyntaxFault.names.contains name then SyntaxFault.refusal? args
      else if FaultGroup.names.contains name then some (FaultGroup.refusal args)
      else none
  | .tls _ | .missingKey => none

namespace Fault

def ofArguments (cls : FaultClass) (args : List Datum) : Fault :=
  match cls with
  | .system f => formSystem f args
  | .tls _ => ⟨cls, tlsText args⟩
  | .http f => ⟨cls, f.fixedText?.getD (plainText args)⟩
  | .missingKey =>
    match args with
    | [x] => ⟨cls, x.literal⟩
    | args => ⟨cls, plainText args⟩
  | .other name =>
    match Conversion.ofName? name with
    | some c => ⟨cls, c.text args⟩
    | none =>
      ⟨cls, if SyntaxFault.names.contains name then SyntaxFault.text args else plainText args⟩

def form (cls : FaultClass) (args : List Datum) : Except Fault Fault :=
  match cls.refusal? args with
  | some f => .error f
  | none => .ok (ofArguments cls args)

end Fault

end SecureExchange.Failure
