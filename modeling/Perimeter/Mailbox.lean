import Perimeter.Idn.Domain
import Perimeter.IpText

/-!
# E-mail addresses

An address is a user part and a host with an at sign between them. The host is a domain name in
letters, digits and hyphens, an internet address in brackets, or an international domain name
that stands for such a host.
-/

namespace Perimeter.Mailbox

def isLabelChar (c : Char) : Bool := c.isAlphanum || c = '-'

def isUserChar (c : Char) : Bool :=
  c.isAlphanum || ".!#$%&'*+/=?^_\x60\x7b|\x7d~-".toList.contains c

/-- Whether characters are a label of a host: at most 63, and no hyphen at either end. -/
def isLabel (cs : List Char) : Bool :=
  !cs.isEmpty && cs.length ≤ 63 && cs.all isLabelChar && cs.head? ≠ some '-'
    && cs.getLast? ≠ some '-'

def isDomain (host : String) : Bool := (host.toList.splitOn '.').all isLabel

/-- Whether a text ends in an internet address in brackets. -/
def endsInLiteral (host : String) : Bool :=
  match host.toList.reverse with
  | ']' :: cs =>
    let inner := cs.takeWhile fun c => IpText.isHexDigit c || c = ':' || c = '.'
    (cs.drop inner.length).head? = some '[' && IpText.isAddress (String.ofList inner.reverse)
  | _ => false

/-- Whether a text is a host in ASCII. -/
def isPlainHost (host : String) : Bool := isDomain host || endsInLiteral host

def isHost (host : String) : Bool :=
  isPlainHost host || (Idn.toAscii? host.toList).any fun cs => isPlainHost (String.ofList cs)

/-- The user part and the host of an address, divided at the last at sign. -/
def split? (address : String) : Option (String × String) :=
  let cs := address.toList
  let host := (cs.reverse.takeWhile (· ≠ '@')).reverse
  if cs.contains '@' then
    some (String.ofList (cs.take (cs.length - host.length - 1)), String.ofList host)
  else none

/-- Whether a text is an e-mail address. User parts have at most 64 characters, hosts 255. -/
def isAddress (address : String) : Bool :=
  match split? address with
  | some (user, host) =>
    !user.isEmpty && user.length ≤ 64 && host.length ≤ 255 && user.toList.all isUserChar
      && isHost host
  | none => false

end Perimeter.Mailbox
