import Perimeter.Assignment

/-!
# Faults

What can go wrong, as causes. Each cause belongs to one kind of fault and has one wording.
-/

namespace Perimeter

/-- The kinds of fault. The first seven reject a request; the rest are failures of the service
or of what it stands on. -/
inductive FaultKind where
  | notFound
  | validation
  | conflict
  | cycle
  | protectedRoot
  | hasChildren
  | licenseLimit
  | database
  | configuration
  | serialization
  | internal
deriving DecidableEq

namespace FaultKind

def all : List FaultKind :=
  [notFound, validation, conflict, cycle, protectedRoot, hasChildren, licenseLimit, database,
    configuration, serialization, internal]

/-- The label that reports begin with. -/
def label : FaultKind → String
  | notFound => "NOT_FOUND"
  | validation => "VALIDATION"
  | conflict => "CONFLICT"
  | cycle => "CYCLE"
  | protectedRoot => "PROTECTED_ROOT"
  | hasChildren => "HAS_CHILDREN"
  | licenseLimit => "LICENSE_LIMIT"
  | database => "DATABASE"
  | configuration => "CONFIGURATION"
  | serialization => "SERIALIZATION"
  | internal => "INTERNAL"

/-- The name of a kind in encoded values. -/
def name : FaultKind → String
  | notFound => "NotFound"
  | validation => "Validation"
  | conflict => "Conflict"
  | cycle => "Cycle"
  | protectedRoot => "ProtectedRoot"
  | hasChildren => "HasChildren"
  | licenseLimit => "LicenseLimit"
  | database => "Database"
  | configuration => "Configuration"
  | serialization => "Serialization"
  | internal => "Internal"

def ofName? (s : String) : Option FaultKind := all.find? fun k => k.name == s

/-- Whether faults of this kind reject a request, rather than report a failure. -/
def isRejection : FaultKind → Bool
  | database | configuration | serialization | internal => false
  | _ => true

end FaultKind

inductive Fault where
  -- folders
  | folderMissing (id : FolderId)
  | folderNameEmpty
  | folderNameTooLong (limit : Nat)
  | rootMove
  | rootDeletion
  | moveCycle (id parent : FolderId)
  | folderHasChildren (id : FolderId) (count : Nat)
  | folderInUse (id : FolderId) (count : Nat)
  | endlessParents (id : FolderId)
  | treeTooDeep (limit : Nat)
  -- stored folders that form no tree
  | rootAbsent
  | rootRepeated
  | rootFlagInconsistent (id : FolderId)
  | folderRepeated (id : FolderId)
  | parentMissing (id parent : FolderId)
  | foldersOffRoot (count : Nat)
  -- users, roles, groups and assignments
  | userMissing (id : UserId)
  | emailInvalid (email : String)
  | emailTaken (email : String)
  | roleMissing (id : RoleId)
  | roleNameEmpty
  | roleNameTaken (name : String)
  | codenameInvalid (codename : String)
  | groupMissing (id : GroupId)
  | groupNameEmpty
  | principalMissing (principal : Principal)
  | assignmentMissing (id : AssignmentId)
  | seatsExhausted (used seats wanted : Nat)
  -- settings
  | settingsUnreadable
  | settingsMistyped
  | databaseUrlAbsent
  | rootNameBlank
  | depthOutOfRange (ceiling : Nat)
  | standardDepthTooDeep
  -- storage
  | rowTaken (entity key : String)
  | rowMissing (entity key : String)
  | storageDown (message : String)
  -- databases
  | statementFailed (action rows : String)
  | pingFailed
  | rootTaken
  | addressTaken (email : String)
  | memberTaken
  | folderReferenced (id : FolderId)
  | membershipMissing
  | connectionFailed (message : String)
  | migrationHalfApplied (version : Int)
  | migrationUnknown (version : Int)
  | migrationChanged (version : Int)
  | migrationRefused (version : Int) (message : String)
  | migrationsRefused (message : String)
  -- anything else, as its reporter words it
  | plain (kind : FaultKind) (message : String)
deriving DecidableEq

namespace Fault

def kind : Fault → FaultKind
  | folderMissing _ | userMissing _ | roleMissing _ | groupMissing _ | principalMissing _
  | assignmentMissing _ | rowMissing _ _ | membershipMissing => .notFound
  | folderNameEmpty | folderNameTooLong _ | treeTooDeep _ | emailInvalid _ | roleNameEmpty
  | codenameInvalid _ | groupNameEmpty => .validation
  | folderInUse _ _ | emailTaken _ | roleNameTaken _ | rowTaken _ _ | rootTaken | addressTaken _
  | memberTaken | folderReferenced _ => .conflict
  | moveCycle _ _ => .cycle
  | rootMove | rootDeletion => .protectedRoot
  | folderHasChildren _ _ => .hasChildren
  | seatsExhausted _ _ _ => .licenseLimit
  | storageDown _ | statementFailed _ _ | pingFailed | connectionFailed _ | migrationHalfApplied _
  | migrationUnknown _ | migrationChanged _ | migrationRefused _ _ | migrationsRefused _ =>
    .database
  | rootAbsent | rootRepeated | rootFlagInconsistent _ | folderRepeated _ | parentMissing _ _
  | foldersOffRoot _ | settingsUnreadable | settingsMistyped | databaseUrlAbsent | rootNameBlank
  | depthOutOfRange _ | standardDepthTooDeep => .configuration
  | endlessParents _ => .internal
  | plain kind _ => kind

def message : Fault → String
  | folderMissing id => s!"Folder {id} not found"
  | folderNameEmpty => "Folder name cannot be empty"
  | folderNameTooLong limit => s!"Folder name cannot exceed {limit} characters"
  | rootMove => "The root folder cannot be moved"
  | rootDeletion => "The root folder cannot be deleted"
  | moveCycle id parent => s!"Moving folder {id} under {parent} would create a cycle"
  | folderHasChildren id count => s!"Folder {id} still has {count} child folder(s)"
  | folderInUse id count =>
    s!"Folder {id} is still referenced by {count} group(s) or role assignment(s)"
  | endlessParents id => s!"Parent chain of folder {id} does not terminate"
  | treeTooDeep limit => s!"max_depth must not exceed {limit}"
  | rootAbsent => "Stored folders have no root folder"
  | rootRepeated => "Stored folders have more than one root folder"
  | rootFlagInconsistent id => s!"Folder {id} has an inconsistent root flag and parent"
  | folderRepeated id => s!"Folder {id} is stored twice"
  | parentMissing id parent => s!"Folder {id} references missing parent {parent}"
  | foldersOffRoot count =>
    s!"Folder graph contains a cycle: {count} folders do not reach the root"
  | userMissing id => s!"User {id} not found"
  | emailInvalid email => s!"Invalid e-mail address '{email}'"
  | emailTaken email => s!"E-mail '{email}' already exists"
  | roleMissing id => s!"Role {id} not found"
  | roleNameEmpty => "Role name cannot be empty"
  | roleNameTaken name => s!"Role '{name}' already exists"
  | codenameInvalid codename => s!"Invalid permission codename '{codename}'"
  | groupMissing id => s!"User group {id} not found"
  | groupNameEmpty => "Group name cannot be empty"
  | principalMissing principal => s!"Principal {principal.debug} not found"
  | assignmentMissing id => s!"Role assignment {id} not found"
  | seatsExhausted used seats wanted =>
    s!"License seat limit reached: {used} of {seats} editor seats in use, "
      ++ s!"grant needs {wanted} more"
  | settingsUnreadable => "Failed to build config"
  | settingsMistyped => "Failed to deserialize config"
  | databaseUrlAbsent => "database.url is required when database.provider = \"postgres\""
  | rootNameBlank => "hierarchy.root_folder_name must not be empty"
  | depthOutOfRange ceiling => s!"hierarchy.max_tree_depth must be between 1 and {ceiling}"
  | standardDepthTooDeep =>
    "hierarchy.default_tree_depth must not exceed hierarchy.max_tree_depth"
  | rowTaken entity key => s!"{entity} {key} already exists"
  | rowMissing entity key => s!"{entity} {key} not found"
  | storageDown message => message
  | statementFailed action rows => s!"Failed to {action} {rows}"
  | pingFailed => "Database ping failed"
  | rootTaken => "A root folder already exists"
  | addressTaken email => s!"Email '{email}' already exists"
  | memberTaken => "User is already a member of this group"
  | folderReferenced id => s!"Folder {id} is still referenced"
  | membershipMissing => "Membership not found"
  | connectionFailed message => s!"Failed to connect to database: {message}"
  | migrationHalfApplied version =>
    s!"Failed to apply migrations: migration {version} is partially applied; "
      ++ "fix and remove row from \x60_sqlx_migrations\x60 table"
  | migrationUnknown version =>
    s!"Failed to apply migrations: migration {version} was previously applied "
      ++ "but is missing in the resolved migrations"
  | migrationChanged version =>
    s!"Failed to apply migrations: migration {version} was previously applied "
      ++ "but has been modified"
  | migrationRefused version message =>
    s!"Failed to apply migrations: while executing migration {version}: "
      ++ s!"error returned from database: {message}"
  | migrationsRefused message =>
    "Failed to apply migrations: while executing migrations: "
      ++ s!"error returned from database: {message}"
  | plain _ message => message

/-- The kind and the wording in one line. -/
def report (f : Fault) : String := s!"{f.kind.label}: {f.message}"

end Fault

/-! ## Failures from outside -/

/-- A failure reported by something the service uses. -/
inductive OutsideError where
  | file (message : String)
  | json (message : String)
  | settings (message : String)
  | rowAbsent
  | protocol (message : String)
deriving DecidableEq

/-- A fault with the outside error that led to it, where there is one. -/
structure Incident where
  fault : Fault
  source : Option OutsideError
deriving DecidableEq

namespace Incident

/-- A fault of the service's own. -/
def ofFault (f : Fault) : Incident := ⟨f, none⟩

/-- The fault that an outside error becomes. An absent row is an ordinary `NotFound`. -/
def ofOutside : OutsideError → Incident
  | .file m => ⟨.plain .internal s!"I/O error: {m}", some (.file m)⟩
  | .json m => ⟨.plain .serialization s!"JSON serialization error: {m}", some (.json m)⟩
  | .settings m => ⟨.plain .configuration s!"Configuration error: {m}", some (.settings m)⟩
  | .rowAbsent => ⟨.plain .notFound "Row not found", none⟩
  | .protocol m =>
    ⟨.plain .database s!"Database error: encountered unexpected or invalid data: {m}",
      some (.protocol m)⟩

/-- A copy keeps the fault and leaves the source behind. -/
def copy (i : Incident) : Incident := ⟨i.fault, none⟩

end Incident

end Perimeter
