import SecureExchange.Text.Cut
import SecureExchange.Text.Digit
import SecureExchange.Text.Hex

/-!
# Numeric addresses

The texts that are addresses of version 4 or version 6 of the internet protocol.
-/

namespace SecureExchange.Address

open Text

/-- At most three digits, without a leading zero, and at most 255. -/
def isOctetText (s : List Char) : Bool :=
  !s.isEmpty && s.all isAsciiDigit && decide (s.length ≤ 3)
    && (s == ['0'] || s.head? != some '0')
    && decide (s.foldl (fun n c ↦ 10 * n + (c.toNat - 0x30)) 0 ≤ 255)

def isIpv4 (s : List Char) : Bool :=
  let octets := pieces '.' s
  octets.length == 4 && octets.all isOctetText

def isGroupText (s : List Char) : Bool :=
  !s.isEmpty && s.all isHexDigit && decide (s.length ≤ 4)

/-- A version 4 address in the last place stands for two groups. -/
def expandIpv4 (groups : List (List Char)) : Option (List (List Char)) :=
  match groups.getLast? with
  | none => some groups
  | some last =>
    if last.contains '.' then
      if isIpv4 last then some (groups.dropLast ++ [['0'], ['0']]) else none
    else some groups

/-- One side of a gap. A gap at an end of the address leaves a single empty text on that side. -/
def beside (groups : List (List Char)) : List (List Char) :=
  if groups == [[]] then [] else groups

/-- Eight groups, or at most seven around one gap. The gap is the first empty text that stands
between two others. -/
def areGroups (groups : List (List Char)) : Bool :=
  match (groups.tail.dropLast).findIdx? (·.isEmpty) with
  | none => groups.length == 8 && groups.all isGroupText
  | some i =>
    let kept := beside (groups.take (i + 1)) ++ beside (groups.drop (i + 2))
    decide (kept.length ≤ 7) && kept.all isGroupText

/-- A zone, if there is one, follows a percent sign and is neither empty nor holds another. -/
def splitZone (s : List Char) : Option (List Char) :=
  match cut '%' s with
  | (address, none) => some address
  | (address, some zone) => if zone.isEmpty || zone.contains '%' then none else some address

def isIpv6 (s : List Char) : Bool :=
  match splitZone s with
  | none => false
  | some address =>
    let groups := pieces ':' address
    decide (3 ≤ groups.length) && match expandIpv4 groups with
      | some gs => decide (gs.length ≤ 9) && areGroups gs
      | none => false

def isIp (s : List Char) : Bool := isIpv4 s || isIpv6 s

end SecureExchange.Address
