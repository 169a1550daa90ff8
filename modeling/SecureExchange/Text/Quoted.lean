import SecureExchange.Text.Hex
import SecureExchange.Text.Printable

/-!
# Quoted texts

A text in quotes, as messages show it. Single quotes are used unless the text holds single quotes
and no double ones. Backslashes, the quote in use and unprintable characters are escaped.
-/

namespace SecureExchange.Text.Quoted

def escapeCode (n : Nat) : List Char :=
  if n < 0x100 then '\\' :: 'x' :: hexDigits .small 2 n
  else if n < 0x10000 then '\\' :: 'u' :: hexDigits .small 4 n
  else '\\' :: 'U' :: hexDigits .small 8 n

def escape (quote c : Char) : List Char :=
  if c = quote ∨ c = '\\' then ['\\', c]
  else if c = '\n' then ['\\', 'n']
  else if c = '\r' then ['\\', 'r']
  else if c = '\t' then ['\\', 't']
  else if isPrintable c then [c]
  else escapeCode c.toNat

def quoteFor (s : List Char) : Char :=
  if s.contains '\x27' && !s.contains '\x22' then '\x22' else '\x27'

def encode (s : List Char) : List Char :=
  let q := quoteFor s
  q :: s.flatMap (escape q) ++ [q]

/-- The quoted text of code points. Surrogates, which are no characters, are escaped. -/
def encodeCodes (s : List Nat) : List Char :=
  let q := quoteFor (s.map Char.ofNat)
  q :: s.flatMap (fun n ↦ if n.isValidChar then escape q (Char.ofNat n) else escapeCode n) ++ [q]

end Quoted

def quoted (s : String) : String := String.ofList (Quoted.encode s.toList)

end SecureExchange.Text
