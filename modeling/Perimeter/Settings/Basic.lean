import Perimeter.Page
import Perimeter.System.Basic
import Perimeter.Text.Blank
import Perimeter.Wire.Rows

/-!
# Settings

What an operator may set, section by section, with the values that hold where nothing is set.
Settings are checked before a server starts with them.
-/

namespace Perimeter

open Json.Decoder Fields

/-! ## Sections -/

/-- Which other sites may call the web interface. -/
structure CorsTerms where
  origins : List String
  methods : List String
  headers : List String
  maxAge : Nat
deriving DecidableEq

/-- Where the server listens, and its limits. -/
structure ServerTerms where
  host : String
  port : Nat
  requestTimeout : Nat
  shutdownGrace : Nat
  maxBody : Nat
  cors : CorsTerms
deriving DecidableEq

/-- Where rows are kept. -/
inductive Provider where
  | memory
  | postgres
deriving DecidableEq

/-- How rows are kept. -/
structure DatabaseTerms where
  provider : Provider
  url : String
  maxConnections : Nat
  minConnections : Nat
  connectTimeout : Nat
  idleTimeout : Nat
  runMigrations : Bool
deriving DecidableEq

/-- The root folder's name, and how deep outlines go. -/
structure TreeTerms where
  rootName : String
  depths : DepthLimits
deriving DecidableEq

/-- What is logged, and in which form. -/
structure LogTerms where
  level : String
  format : String
deriving DecidableEq

structure Settings where
  server : ServerTerms
  database : DatabaseTerms
  license : License
  tree : TreeTerms
  log : LogTerms
deriving DecidableEq

/-! ## Standard values -/

namespace CorsTerms

def standard : CorsTerms :=
  ⟨["*"], ["GET", "POST", "PUT", "DELETE", "PATCH", "OPTIONS"], ["*"], 3600⟩

def toJson (t : CorsTerms) : Json :=
  .object [("allowed_origins", .list .string t.origins),
    ("allowed_methods", .list .string t.methods), ("allowed_headers", .list .string t.headers),
    ("max_age_seconds", .nat t.maxAge)]

def decoder : Json.Decoder CorsTerms :=
  record (CorsTerms.mk <$> defaulted "allowed_origins" (list string) standard.origins
    <*> defaulted "allowed_methods" (list string) standard.methods
    <*> defaulted "allowed_headers" (list string) standard.headers
    <*> defaulted "max_age_seconds" (nat maxWord64) standard.maxAge)

end CorsTerms

namespace ServerTerms

def standard : ServerTerms := ⟨"0.0.0.0", 8000, 30, 30, 1024 * 1024, .standard⟩

def toJson (t : ServerTerms) : Json :=
  .object [("host", .string t.host), ("port", .nat t.port),
    ("request_timeout_seconds", .nat t.requestTimeout),
    ("shutdown_grace_seconds", .nat t.shutdownGrace), ("max_body_bytes", .nat t.maxBody),
    ("cors", t.cors.toJson)]

def decoder : Json.Decoder ServerTerms :=
  record (ServerTerms.mk <$> defaulted "host" string standard.host
    <*> defaulted "port" (nat maxWord16) standard.port
    <*> defaulted "request_timeout_seconds" (nat maxWord64) standard.requestTimeout
    <*> defaulted "shutdown_grace_seconds" (nat maxWord64) standard.shutdownGrace
    <*> defaulted "max_body_bytes" (nat maxWord64) standard.maxBody
    <*> defaulted "cors" CorsTerms.decoder standard.cors)

end ServerTerms

namespace Provider

def names : List (String × Provider) := [("memory", memory), ("postgres", postgres)]

def toJson : Provider → Json
  | memory => .string "memory"
  | postgres => .string "postgres"

def decoder : Json.Decoder Provider := choice names

end Provider

namespace DatabaseTerms

def standard : DatabaseTerms := ⟨.memory, "", 20, 2, 10, 300, true⟩

def toJson (t : DatabaseTerms) : Json :=
  .object [("provider", t.provider.toJson), ("url", .string t.url),
    ("max_connections", .nat t.maxConnections), ("min_connections", .nat t.minConnections),
    ("connect_timeout_seconds", .nat t.connectTimeout),
    ("idle_timeout_seconds", .nat t.idleTimeout), ("run_migrations", .bool t.runMigrations)]

def decoder : Json.Decoder DatabaseTerms :=
  record (DatabaseTerms.mk <$> defaulted "provider" Provider.decoder standard.provider
    <*> defaulted "url" string standard.url
    <*> defaulted "max_connections" (nat maxWord32) standard.maxConnections
    <*> defaulted "min_connections" (nat maxWord32) standard.minConnections
    <*> defaulted "connect_timeout_seconds" (nat maxWord64) standard.connectTimeout
    <*> defaulted "idle_timeout_seconds" (nat maxWord64) standard.idleTimeout
    <*> defaulted "run_migrations" bool standard.runMigrations)

end DatabaseTerms

namespace License

def toJson (l : License) : Json :=
  .object [("enabled", .bool l.enabled), ("seats", .nat l.seats),
    ("editor_prefixes", .list .string l.editorStarts)]

def decoder : Json.Decoder License :=
  record (License.mk <$> defaulted "enabled" bool standard.enabled
    <*> defaulted "seats" (nat maxWord32) standard.seats
    <*> defaulted "editor_prefixes" (list string) standard.editorStarts)

end License

namespace TreeTerms

def standard : TreeTerms := ⟨"Global", ⟨10, 32⟩⟩

/-- The terms of the values that are set one by one. -/
def ofParts (rootName : String) (standardDepth mostDepth : Nat) : TreeTerms :=
  ⟨rootName, ⟨standardDepth, mostDepth⟩⟩

def toJson (t : TreeTerms) : Json :=
  .object [("root_folder_name", .string t.rootName),
    ("default_tree_depth", .nat t.depths.standard), ("max_tree_depth", .nat t.depths.most)]

def decoder : Json.Decoder TreeTerms :=
  record (ofParts <$> defaulted "root_folder_name" string standard.rootName
    <*> defaulted "default_tree_depth" (nat maxWord32) standard.depths.standard
    <*> defaulted "max_tree_depth" (nat maxWord32) standard.depths.most)

end TreeTerms

namespace LogTerms

def standard : LogTerms := ⟨"info", "json"⟩

def toJson (t : LogTerms) : Json :=
  .object [("level", .string t.level), ("format", .string t.format)]

def decoder : Json.Decoder LogTerms :=
  record (LogTerms.mk <$> defaulted "level" string standard.level
    <*> defaulted "format" string standard.format)

end LogTerms

namespace Settings

def standard : Settings := ⟨.standard, .standard, .standard, .standard, .standard⟩

def toJson (s : Settings) : Json :=
  .object [("server", s.server.toJson), ("database", s.database.toJson),
    ("license", s.license.toJson), ("hierarchy", s.tree.toJson), ("logging", s.log.toJson)]

def decoder : Json.Decoder Settings :=
  record (Settings.mk <$> defaulted "server" ServerTerms.decoder standard.server
    <*> defaulted "database" DatabaseTerms.decoder standard.database
    <*> defaulted "license" License.decoder standard.license
    <*> defaulted "hierarchy" TreeTerms.decoder standard.tree
    <*> defaulted "logging" LogTerms.decoder standard.log)

/-! ## Checking -/

/-- No outline goes deeper than this: its JSON would be nested too deeply to be read. -/
def depthCeiling : Nat := 60

/-- Refuses settings that no server can start with. -/
def check (s : Settings) : Except Fault Unit :=
  if s.database.provider = .postgres ∧ s.database.url.isEmpty then .error .databaseUrlAbsent
  else if Text.isBlank s.tree.rootName then .error .rootNameBlank
  else if s.tree.depths.most = 0 ∨ depthCeiling < s.tree.depths.most then
    .error (.depthOutOfRange depthCeiling)
  else if s.tree.depths.most < s.tree.depths.standard then .error .standardDepthTooDeep
  else .ok ()

/-- The settings that the rules of the service depend on. The root's name is taken as it is
set. -/
def terms (s : Settings) : Terms := ⟨s.tree.rootName, s.tree.depths, s.license⟩

/-- The system over a storage that runs under the settings. -/
def launch (s : Settings) (storage : Storage) : Except Fault System × Storage :=
  System.start s.terms storage

end Settings

end Perimeter
