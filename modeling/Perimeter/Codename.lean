import Perimeter.Id

/-!
# Permission codenames

A permission is named `action_model`, such as `view_asset`. Whether its holder counts as an
editor is decided by how the name begins.
-/

namespace Perimeter.Codename

def isWordChar (c : Char) : Bool :=
  (97 ≤ c.toNat && c.toNat ≤ 122) || c.isDigit || c = '_'

/-- The part before the first underscore. -/
def action (cs : List Char) : List Char := cs.takeWhile (· ≠ '_')

/-- The part after the first underscore, if there is one. -/
def model? (cs : List Char) : Option (List Char) :=
  match cs.dropWhile (· ≠ '_') with
  | _ :: rest => some rest
  | [] => none

/-- Whether a codename is well formed: an action, an underscore and a model, in lower-case
letters, digits and underscores. -/
def isValid (codename : String) : Bool :=
  let cs := codename.toList
  match model? cs with
  | none => false
  | some model => !(action cs).isEmpty && !model.isEmpty && cs.all isWordChar

def beginsWithAny (starts : List String) (codename : String) : Bool :=
  starts.any fun start => start.toList.isPrefixOf codename.toList

/-- Codenames in ascending order, each once. -/
def canonical (codenames : List String) : List String :=
  (Std.ExtTreeSet.ofList codenames compare).toList

end Perimeter.Codename
