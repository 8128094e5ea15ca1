import Perimeter.Mailbox
import Perimeter.Wire.Requests

/-!
# Complaints about requests

A request that can be read is checked once more before it is carried out: lengths, addresses and
what has to be given together. Lengths are counted in characters, before anything is trimmed.
-/

namespace Perimeter

/-- A rule that a field of a request breaks. Some rules have a wording of their own. -/
structure Complaint where
  field : String
  rule : String
  message : Option String
deriving DecidableEq

namespace Complaint

/-- A complaint as it is told to the caller. -/
def text (c : Complaint) : String :=
  s!"{c.field}: " ++ c.message.getD s!"Validation error: {c.rule}"

/-- Complaints as they are told to the caller, in alphabetical order. -/
def summary (cs : List Complaint) : String :=
  "\n".intercalate ((cs.map text).mergeSort fun s t => (compare s t).isLE)

/-- Complaints, by field. -/
def toJson (cs : List Complaint) : Json :=
  .object (cs.map fun c => (c.field, .array [.array [.string c.rule, .optString c.message]]))

/-- A complaint about a length outside a range. -/
def length (field : String) (least most : Nat) (message : Option String) (s : Option String) :
    List Complaint :=
  match s with
  | some s => if least ≤ s.length ∧ s.length ≤ most then [] else [⟨field, "length", message⟩]
  | none => []

end Complaint

def nameComplaints (name : Option String) : List Complaint :=
  Complaint.length "name" 1 200 (some "Folder name must be 1-200 characters") name

def maxDescription : Nat := 2000

def NewFolder.complaints (d : NewFolder) : List Complaint :=
  nameComplaints (some d.name) ++ Complaint.length "description" 0 maxDescription none d.description

def FolderChange.complaints (d : FolderChange) : List Complaint :=
  nameComplaints d.name ++ Complaint.length "description" 0 maxDescription none d.description

/-- What is wrong with a new user, whatever counts as an address. -/
def NewUser.complaintsBy (isAddress : String → Bool) (d : NewUser) : List Complaint :=
  (if isAddress d.email then []
    else [⟨"email", "email", some "A valid e-mail address is required"⟩])
    ++ Complaint.length "first_name" 0 150 none d.firstName
    ++ Complaint.length "last_name" 0 150 none d.lastName

def NewUser.complaints (d : NewUser) : List Complaint := d.complaintsBy Mailbox.isAddress

def UserChange.complaints (_ : UserChange) : List Complaint := []

def NewRole.complaints (d : NewRole) : List Complaint :=
  Complaint.length "name" 1 200 none (some d.name)

def NewGroup.complaints (d : NewGroup) : List Complaint :=
  Complaint.length "name" 1 200 none (some d.name)

def NewMember.complaints (_ : NewMember) : List Complaint := []

def AssignmentForm.complaints (d : AssignmentForm) : List Complaint :=
  if d.user.isSome = d.group.isSome then
    [⟨"__all__", "principal", some "Exactly one of user_id and user_group_id is required"⟩]
  else []

end Perimeter
