import Perimeter.Sql.Query
import Perimeter.Sql.Schema.Initial

/-!
# Bringing a schema up to date

A database keeps a journal of the migrations that were applied to it. Those that are missing are
applied, each in a transaction of its own, while a lock keeps others from doing the same. A
journal that does not fit the known migrations is a fault, and then nothing is applied.
-/

namespace Perimeter.Sql.Schema

/-! ## Migrations -/

/-- A step in the history of the schema. -/
structure Migration where
  version : Int
  description : String
  script : String
deriving DecidableEq

/-- Every migration, oldest first. -/
def migrations : List Migration := [⟨20260101000000, "init", initialScript⟩]

/-- What is sent to a database in order to bring it up to date. -/
inductive Command where
  | database
  | lock
  | createJournal
  | halfApplied
  | applied
  | begin
  | script (m : Migration)
  | record (m : Migration)
  | commit
  | measure (m : Migration)
  | unlock
deriving DecidableEq

namespace Command

def text : Command → String
  | database => "SELECT current_database()"
  | lock => "SELECT pg_advisory_lock($1)"
  | createJournal => "\nCREATE TABLE IF NOT EXISTS _sqlx_migrations (\n"
    ++ "    version BIGINT PRIMARY KEY,\n    description TEXT NOT NULL,\n"
    ++ "    installed_on TIMESTAMPTZ NOT NULL DEFAULT now(),\n    success BOOLEAN NOT NULL,\n"
    ++ "    checksum BYTEA NOT NULL,\n    execution_time BIGINT NOT NULL\n);\n                "
  | halfApplied =>
    "SELECT version FROM _sqlx_migrations WHERE success = false ORDER BY version LIMIT 1"
  | applied => "SELECT version, checksum FROM _sqlx_migrations ORDER BY version"
  | begin => "BEGIN"
  | script m => m.script
  | record _ =>
    "\n    INSERT INTO _sqlx_migrations "
      ++ "( version, description, success, checksum, execution_time )\n"
      ++ "    VALUES ( $1, $2, TRUE, $3, -1 )\n                "
  | commit => "COMMIT"
  | measure _ =>
    "\n    UPDATE _sqlx_migrations\n    SET execution_time = $1\n    WHERE version = $2\n"
      ++ "                "
  | unlock => "SELECT pg_advisory_unlock($1)"

/-- The fault of a command that the server rejects with a message. -/
def fault (message : String) : Command → Fault
  | script m => .migrationRefused m.version message
  | _ => .migrationsRefused message

end Command

/-! ## Databases -/

/-- A database as it is found. -/
structure Target where
  /-- The code and the message with which connections are refused, if they are. -/
  closedWith : Option (String × String)
  /-- A migration that was begun and did not end. -/
  halfApplied : Option Int
  /-- The versions in the journal, with the scripts that were run for them. -/
  journal : List (Int × String)
  /-- The message with which a text is rejected, if it is. -/
  rejects : String → Option String

namespace Target

/-- Work on a database, with the commands that were carried out. -/
abbrev Work := Exchange Command Unit

def send (t : Target) (c : Command) : Work :=
  match t.rejects c.text with
  | some message => .done (.error (c.fault message))
  | none => ⟨[c], .ok ()⟩

/-- Applies a migration and notes it in the journal. -/
def apply (t : Target) (m : Migration) : Work := do
  t.send .begin
  t.send (.script m)
  t.send (.record m)
  t.send .commit
  t.send (.measure m)

/-- The script that the journal gives for a version; of repeated versions the last counts. -/
def ranFor? (t : Target) (version : Int) : Option String := t.journal.reverse.lookup version

/-- Applies a migration unless the journal has it with the same script. -/
def ensure (t : Target) (m : Migration) : Work :=
  match t.ranFor? m.version with
  | some script =>
    .done (if script = m.script then .ok () else .error (.migrationChanged m.version))
  | none => t.apply m

/-- Demands that no migration stopped halfway. -/
def checkComplete (t : Target) : Except Fault Unit :=
  match t.halfApplied with
  | some version => .error (.migrationHalfApplied version)
  | none => .ok ()

/-- Demands that every version in the journal is known. -/
def checkKnown (t : Target) : Except Fault Unit :=
  match t.journal.find? fun a => !migrations.any (·.version = a.1) with
  | some (version, _) => .error (.migrationUnknown version)
  | none => .ok ()

/-- Brings the schema up to date. -/
def update (t : Target) : Work := do
  t.send .database
  t.send .lock
  t.send .createJournal
  t.send .halfApplied
  Exchange.done t.checkComplete
  t.send .applied
  Exchange.done t.checkKnown
  migrations.forM t.ensure
  t.send .database
  t.send .unlock

/-- The codes of a server that may admit connections a little later. -/
def transientCodes : List String := ["53300", "57P03"]

/-- Connects. Where a server may admit connections later, this is tried until the time is up. -/
def connect (t : Target) : Except Fault Unit :=
  match t.closedWith with
  | some (code, message) =>
    if transientCodes.contains code then
      .error (.connectionFailed "pool timed out while waiting for an open connection")
    else .error (.connectionFailed s!"error returned from database: {message}")
  | none => .ok ()

/-- Connects, and brings the schema up to date if that is wanted. -/
def establish (t : Target) (migrate : Bool) : Work := do
  Exchange.done t.connect
  if migrate then t.update else return ()

end Target

end Perimeter.Sql.Schema
