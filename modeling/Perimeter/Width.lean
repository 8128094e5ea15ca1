/-!
# Widths of numbers

Counts and settings are kept in numbers of fixed width. These are the largest of each width.
-/

namespace Perimeter

def maxWord16 : Nat := 0xffff

def maxWord32 : Nat := 0xffffffff

def maxWord64 : Nat := 0xffffffffffffffff

/-- The largest signed 64-bit number. -/
def maxSigned : Int := 0x7fffffffffffffff

end Perimeter
