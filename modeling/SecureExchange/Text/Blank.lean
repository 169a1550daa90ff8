import SecureExchange.Text.CharClass

/-!
# Blank space

The characters that count as blank, and the removal of blanks at both ends of a text.
-/

namespace SecureExchange.Text

/-- Spaces, line ends and the four ASCII information separators. -/
def blanks : CharClass where
  ranges := #[(0x9, 0xD), (0x1C, 0x20), (0x85, 0x85), (0xA0, 0xA0), (0x1680, 0x1680),
    (0x2000, 0x200A), (0x2028, 0x2029), (0x202F, 0x202F), (0x205F, 0x205F), (0x3000, 0x3000)]

def isBlank (c : Char) : Bool := blanks.contains c

def trimLeft (s : List Char) : List Char := s.dropWhile isBlank

def trim (s : List Char) : List Char := (trimLeft (trimLeft s).reverse).reverse

@[simp] theorem trimLeft_nil : trimLeft [] = [] := rfl

@[simp] theorem trim_nil : trim [] = [] := rfl

end SecureExchange.Text
