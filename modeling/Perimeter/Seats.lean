import Perimeter.Fault
import Perimeter.Role
import Perimeter.Width

/-!
# Editor seats

A license caps the number of editors: users who hold a permission whose name begins in one of
the configured ways. The cap is checked when a grant would make new editors, and only then.
-/

namespace Perimeter

structure License where
  enabled : Bool
  seats : Nat
  editorStarts : List String
deriving DecidableEq

/-- The terms where none are configured: no cap. -/
def License.standard : License := ⟨false, 10, ["add_", "change_", "delete_"]⟩

/-- How the seats of a license are used. Counts are 32-bit and saturate. -/
structure SeatStatus where
  enforced : Bool
  total : Nat
  used : Nat
  available : Nat
deriving DecidableEq

namespace License

def isEdit (l : License) (codename : String) : Bool :=
  Codename.beginsWithAny l.editorStarts codename

def grantsEdit (l : License) (r : Role) : Bool := r.grantsEdit l.editorStarts

/-- Admits `new` editors beside the `current` ones. A grant that makes no editor always
passes, even over the cap. -/
def checkSeats (l : License) (current new : Nat) : Except Fault Unit :=
  if l.enabled ∧ new ≠ 0 ∧ l.seats < current + new then
    .error (.seatsExhausted current l.seats new)
  else .ok ()

/-- The use of the seats by `used` editors. -/
def status (l : License) (used : Nat) : SeatStatus :=
  let used := min used maxWord32
  ⟨l.enabled, l.seats, used, l.seats - used⟩

end License

end Perimeter
