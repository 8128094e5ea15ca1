import Perimeter.Fault
import Perimeter.Sql.Statement

/-!
# Queries

A server answers each statement with a reply or a failure. A query is a statement together with
what is made of the answer, and a session is where queries are asked: once it is closed nothing
is sent any more, and every query fails.
-/

namespace Perimeter.Sql

/-! ## Servers -/

/-- Why a statement has no reply. -/
inductive Failure where
  /-- The server rejects it, under a code and perhaps in the name of a constraint. -/
  | rejected (code : String) (constraint : Option String) (message : String)
  /-- The connection is lost. -/
  | lost
  /-- The session is closed. -/
  | closed
deriving DecidableEq

namespace Failure

/-- Whether a constraint of the given name was violated. -/
def violates (name : String) : Failure → Bool
  | rejected _ constraint _ => constraint = some name
  | _ => false

def hasCode (code : String) : Failure → Bool
  | rejected given _ _ => given = code
  | _ => false

/-- The code of a value that has to be unique and is not. -/
def repeatedValue : String := "23505"

/-- The code of a row that others refer to, or that refers to none. -/
def brokenReference : String := "23503"

end Failure

/-- A row of a reply: values by column. -/
abbrev Row := List (String × Datum)

/-- The value of a column, which is null where the row has no such column. -/
def Row.get (r : Row) (column : String) : Datum := (r.lookup column).getD .null

/-- The rows that a statement yields, and how many it changed. -/
structure Reply where
  rows : List Row
  affected : Nat

abbrev Answer := Except Failure Reply

abbrev Server := Statement → Answer

/-! ## Queries -/

/-- A statement and what is made of the answer to it. -/
structure Query (α : Type) where
  statement : Statement
  read : Answer → Except Fault α

namespace Query

/-- Reads the rows; a reply that cannot be read fails like a statement without reply. -/
def reading {α : Type} (read? : Reply → Option α) (fault : Fault) (answer : Answer) :
    Except Fault α :=
  match answer with
  | .ok reply => (read? reply).elim (.error fault) .ok
  | .error _ => .error fault

def ping : Query Unit where
  statement := ⟨.ping, []⟩
  read := reading (fun r => r.rows.head?.map fun _ => ()) .pingFailed

end Query

/-! ## Exchanges -/

/-- The statements sent in the course of some work, and what came of it. -/
structure Exchange (σ α : Type) where
  sent : List σ
  result : Except Fault α

namespace Exchange

variable {σ α β : Type}

/-- A result for which nothing is sent. -/
def done (result : Except Fault α) : Exchange σ α := ⟨[], result⟩

/-- Goes on with a result; after a failure nothing more is sent. -/
def andThen (x : Exchange σ α) (next : α → Exchange σ β) : Exchange σ β :=
  match x.result with
  | .ok a => ⟨x.sent ++ (next a).sent, (next a).result⟩
  | .error e => ⟨x.sent, .error e⟩

instance : Monad (Exchange σ) where
  pure a := done (.ok a)
  bind := andThen

end Exchange

/-! ## Sessions -/

/-- A server, and whether statements are still sent to it. -/
structure Session where
  server : Server
  isOpen : Bool

namespace Session

def ask {α : Type} (s : Session) (q : Query α) : Exchange Statement α :=
  if s.isOpen then ⟨[q.statement], q.read (s.server q.statement)⟩
  else .done (q.read (.error .closed))

def close (s : Session) : Session := { s with isOpen := false }

end Session

/-! ## Prepared replies -/

/-- Replies that are prepared in advance, whatever the parameters are. -/
structure Script where
  failure : Option Failure
  rows : String → List Row
  affected : Nat
  count : Option Int

def Script.server (s : Script) : Server := fun statement =>
  match s.failure with
  | some f => .error f
  | none =>
    match statement.command with
    | .ping => .ok ⟨[[("?column?", .int 1)]], 0⟩
    | .count _ => .ok ⟨[[("count", s.count.elim .null .int)]], 0⟩
    | .delete _ _ => .ok ⟨[], s.affected⟩
    | .selectAll table _ | .select table _ | .insert table _ | .update table _ _ =>
      .ok ⟨s.rows table, 0⟩

end Perimeter.Sql
