/-!
# Internet addresses as text

The text forms of IPv4 and IPv6 addresses. An IPv6 address has eight groups; two colons stand for
one or more groups of zeros, and the last two groups may be written as an IPv4 address.
-/

namespace Perimeter.IpText

/-- Whether a text is a number from 0 to 255 without a zero in front. -/
def isOctet (s : String) : Bool :=
  let cs := s.toList
  !cs.isEmpty && cs.length ≤ 3 && cs.all Char.isDigit
    && (cs.length = 1 || cs.head? ≠ some '0')
    && cs.foldl (fun n c => 10 * n + (c.toNat - 48)) 0 ≤ 255

def isV4 (s : String) : Bool :=
  let parts := s.splitOn "."
  parts.length = 4 && parts.all isOctet

def isHexDigit (c : Char) : Bool := c.isDigit || ('a' ≤ c && c ≤ 'f') || ('A' ≤ c && c ≤ 'F')

def isGroup (s : String) : Bool := !s.isEmpty && s.length ≤ 4 && s.toList.all isHexDigit

/-- How many groups the parts of an IPv6 address take. Only the last part may be an IPv4
address, and only at the end of the address. -/
def groupCount? (atEnd : Bool) : List String → Option Nat
  | [] => some 0
  | [s] => if isGroup s then some 1 else if atEnd && isV4 s then some 2 else none
  | s :: rest => if isGroup s then (groupCount? atEnd rest).map (· + 1) else none

/-- How many groups a stretch of an IPv6 address takes. -/
def stretch? (atEnd : Bool) (s : String) : Option Nat :=
  if s.isEmpty then some 0 else groupCount? atEnd (s.splitOn ":")

def isV6 (s : String) : Bool :=
  match s.splitOn "::" with
  | [whole] => stretch? true whole == some 8
  | [head, tail] =>
    match stretch? false head, stretch? true tail with
    | some m, some n => m + n ≤ 7
    | _, _ => false
  | _ => false

def isAddress (s : String) : Bool := isV4 s || isV6 s

end Perimeter.IpText
