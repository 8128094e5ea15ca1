import Perimeter.Json.Decode
import Perimeter.Settings.Basic
import Perimeter.Settings.Layer
import Perimeter.Text.Case
import Perimeter.Toml.Document

/-!
# Loading settings

Settings come from three layers: a file `default`, a file named for the environment, and
variables. Later layers hide earlier ones. Files are TOML or JSON; a file that is missing gives
an empty layer. Variables are texts, so values are converted to the type that is wanted where
that can be done.
-/

namespace Perimeter

/-! ## Conversion -/

namespace Layer

/-- Reads a number written in decimal digits, with or without a plus in front. -/
def digits? (s : String) : Option Nat :=
  let ds := match s.toList with
    | '+' :: rest => rest
    | cs => cs
  if ds.isEmpty ∨ ¬ ds.all Char.isDigit then none else some (Toml.numberOf 10 ds)

/-- The words that stand for truth values. -/
def truthWord? (s : String) : Option Bool :=
  let word := Text.lower s
  if ["true", "on", "yes"].contains word then some true
  else if ["false", "off", "no"].contains word then some false
  else none

/-- A natural number up to `most`. Numbers with a fraction are rounded. -/
def toNat? (most : Nat) (l : Layer) : Option Nat :=
  let n := match l with
    | int n => if n < 0 then none else some n.toNat
    | real x => some (x.toNat maxWord64)
    | bool b => some b.toNat
    | text s => ((truthWord? s).map Bool.toNat <|> digits? s).filter (· ≤ maxWord64)
    | _ => none
  n.filter (· ≤ most)

/-- A truth value. Numbers other than zero are true. -/
def toBool? : Layer → Option Bool
  | bool b => some b
  | int n => some (n ≠ 0)
  | real x => some x.isNonzero
  | text s => truthWord? s <|> (if s = "1" then some true else if s = "0" then some false else none)
  | _ => none

def toText? : Layer → Option String
  | text s => some s
  | bool b => some (if b then "true" else "false")
  | int n => some (toString n)
  | real x => some x.text
  | _ => none

def toTexts? : Layer → Option (List String)
  | list items => items.mapM toText?
  | _ => none

/-- The constant of a name: the name itself, or a table of one field with that name. -/
def toConstant? {α : Type} (constants : List (String × α)) : Layer → Option α
  | text name => constants.lookup name
  | table [(name, _)] => constants.lookup name
  | _ => none

/-- How the values of a section are found: by name in a table, by place in a list. -/
def section? (names : List String) : Layer → Option (String → Option Layer)
  | table fields => some fun name => fields.lookup name
  | list items => some fun name => (names.idxOf? name).bind fun i => items[i]?
  | _ => none

/-- The value of a name, or the standard one where there is none. -/
def readOr {α : Type} (find : String → Option Layer) (name : String)
    (convert? : Layer → Option α) (standard : α) : Option α :=
  match find name with
  | some l => convert? l
  | none => some standard

end Layer

open Layer

def CorsTerms.ofLayer? (l : Layer) : Option CorsTerms := do
  let find ← l.section? ["allowed_origins", "allowed_methods", "allowed_headers",
    "max_age_seconds"]
  return { origins := ← readOr find "allowed_origins" toTexts? standard.origins
           methods := ← readOr find "allowed_methods" toTexts? standard.methods
           headers := ← readOr find "allowed_headers" toTexts? standard.headers
           maxAge := ← readOr find "max_age_seconds" (toNat? maxWord64) standard.maxAge }

def ServerTerms.ofLayer? (l : Layer) : Option ServerTerms := do
  let find ← l.section? ["host", "port", "request_timeout_seconds", "shutdown_grace_seconds",
    "max_body_bytes", "cors"]
  return {
    host := ← readOr find "host" toText? standard.host
    port := ← readOr find "port" (toNat? maxWord16) standard.port
    requestTimeout :=
      ← readOr find "request_timeout_seconds" (toNat? maxWord64) standard.requestTimeout
    shutdownGrace :=
      ← readOr find "shutdown_grace_seconds" (toNat? maxWord64) standard.shutdownGrace
    maxBody := ← readOr find "max_body_bytes" (toNat? maxWord64) standard.maxBody
    cors := ← readOr find "cors" CorsTerms.ofLayer? standard.cors }

def DatabaseTerms.ofLayer? (l : Layer) : Option DatabaseTerms := do
  let find ← l.section? ["provider", "url", "max_connections", "min_connections",
    "connect_timeout_seconds", "idle_timeout_seconds", "run_migrations"]
  return {
    provider := ← readOr find "provider" (toConstant? Provider.names) standard.provider
    url := ← readOr find "url" toText? standard.url
    maxConnections := ← readOr find "max_connections" (toNat? maxWord32) standard.maxConnections
    minConnections := ← readOr find "min_connections" (toNat? maxWord32) standard.minConnections
    connectTimeout :=
      ← readOr find "connect_timeout_seconds" (toNat? maxWord64) standard.connectTimeout
    idleTimeout := ← readOr find "idle_timeout_seconds" (toNat? maxWord64) standard.idleTimeout
    runMigrations := ← readOr find "run_migrations" toBool? standard.runMigrations }

def License.ofLayer? (l : Layer) : Option License := do
  let find ← l.section? ["enabled", "seats", "editor_prefixes"]
  return { enabled := ← readOr find "enabled" toBool? standard.enabled
           seats := ← readOr find "seats" (toNat? maxWord32) standard.seats
           editorStarts := ← readOr find "editor_prefixes" toTexts? standard.editorStarts }

def TreeTerms.ofLayer? (l : Layer) : Option TreeTerms := do
  let find ← l.section? ["root_folder_name", "default_tree_depth", "max_tree_depth"]
  return ofParts (← readOr find "root_folder_name" toText? standard.rootName)
    (← readOr find "default_tree_depth" (toNat? maxWord32) standard.depths.standard)
    (← readOr find "max_tree_depth" (toNat? maxWord32) standard.depths.most)

def LogTerms.ofLayer? (l : Layer) : Option LogTerms := do
  let find ← l.section? ["level", "format"]
  return { level := ← readOr find "level" toText? standard.level
           format := ← readOr find "format" toText? standard.format }

namespace Settings

def ofLayer? (l : Layer) : Option Settings := do
  let find ← l.section? ["server", "database", "license", "hierarchy", "logging"]
  return { server := ← readOr find "server" ServerTerms.ofLayer? standard.server
           database := ← readOr find "database" DatabaseTerms.ofLayer? standard.database
           license := ← readOr find "license" License.ofLayer? standard.license
           tree := ← readOr find "hierarchy" TreeTerms.ofLayer? standard.tree
           log := ← readOr find "logging" LogTerms.ofLayer? standard.log }

/-! ## Files -/

/-- A text without the byte order mark that may open it. -/
def unmarked (content : String) : String :=
  match content.toList with
  | '\uFEFF' :: rest => String.ofList rest
  | _ => content

/-- The layer of a file in one of the formats, which are named by the ends of file names. -/
def ofFormat? (format content : String) : Option Layer :=
  if format = "toml" then Toml.parse? content
  else
    match Json.parse? content with
    | some (.object fields) => some (Layer.ofJson (.object fields))
    | _ => none

/-- The end of a file's name, after its last point; `none` for a name without a point beyond its
first character. -/
def formatOf? (name : String) : Option String :=
  let cs := name.toList.reverse
  let ending := cs.takeWhile (· ≠ '.')
  if cs.length ≤ ending.length + 1 then none else some (String.ofList ending.reverse)

def directory : String := "config"

/-- The name of a file in the directory that a path from there leads to. There are no other
directories around than the one above. -/
def nameAt? : List String → Option String
  | ".." :: name :: rest => if name = directory then nameAt? rest else none
  | [name] => if name = ".." then none else some name
  | _ => none

/-- The file of a path below the directory, and its format: the file itself, or the one whose name
goes on with a format. A path that ends like one of a directory is not the file itself. -/
def findFile? (files : List (String × String)) (path : String) : Option (String × String) :=
  let parts := path.splitOn "/"
  let isStill (part : String) : Bool := part.isEmpty || part = "."
  match nameAt? (parts.filter fun part => !isStill part) with
  | none => none
  | some name =>
    match (if parts.getLast?.any isStill then none else files.lookup name) with
    | some content => ((formatOf? name).filter ["toml", "json"].contains).map fun format =>
      (format, content)
    | none => ["toml", "json"].findSome? fun format =>
      (files.lookup (name ++ "." ++ format)).map fun content => (format, content)

/-- The fields that a file adds, if it can be read; none for a file that is missing. -/
def fileFields? (files : List (String × String)) (path : String) :
    Option (List (String × Layer)) :=
  match findFile? files path with
  | some (format, content) => (ofFormat? format (unmarked content)).map Layer.fields
  | none => some []

/-! ## Variables -/

/-- How the names of variables begin, in lower case. -/
def variableStart : String := "grchub__"

/-- What a variable's name says after its beginning, levels divided by points; `none` for other
variables. -/
def variableKey? (name : String) : Option String :=
  let cs := (Text.lower name).toList
  if variableStart.toList.isPrefixOf cs then
    some (".".intercalate ((String.ofList (cs.drop variableStart.length)).splitOn "__"))
  else none

def signed? (s : String) : Option Int :=
  match s.toList with
  | '-' :: rest =>
    if rest.isEmpty ∨ ¬ rest.all Char.isDigit then none else some (-(Toml.numberOf 10 rest : Int))
  | _ => (Layer.digits? s).map Int.ofNat

/-- Reads a number with a fraction, an exponent or both, or one of the words for what is beyond
numbers, in any case. -/
def real? (s : String) : Option Binary64 :=
  let (negative, cs) := Toml.sign s.toList
  let word := String.ofList (cs.map Char.toLower)
  if word = "inf" ∨ word = "infinity" then some (.infinite negative)
  else if word = "nan" then some .nan
  else
    let whole := cs.takeWhile Char.isDigit
    let rest := cs.drop whole.length
    let (places, rest) := match rest with
      | '.' :: rest => (rest.takeWhile Char.isDigit, rest.dropWhile Char.isDigit)
      | _ => ([], rest)
    let exponent? : Option Int := match rest with
      | [] => some 0
      | c :: rest =>
        if c = 'e' ∨ c = 'E' then
          let (down, ds) := Toml.sign rest
          if ds.isEmpty ∨ ¬ ds.all Char.isDigit then none
          else some (if down then -(Toml.numberOf 10 ds : Int) else (Toml.numberOf 10 ds : Int))
        else none
    if whole.isEmpty ∧ places.isEmpty then none
    else exponent?.map fun e =>
      .ofDecimal negative (Toml.numberOf 10 (whole ++ places)) (e - places.length)

/-- The value of a variable: a truth value, a number, or else the text as it is. -/
def variableValue (s : String) : Layer :=
  let word := Text.lower s
  if word = "true" then .bool true
  else if word = "false" then .bool false
  else
    match signed? s with
    | some n => if -maxSigned - 1 ≤ n ∧ n ≤ maxSigned then .int n else .real (.ofInt n)
    | none =>
      match real? s with
      | some x => .real x
      | none => .text s

def variableFields (given : List (String × String)) : List (String × Layer) :=
  given.filterMap fun v => (variableKey? v.1).map fun key => (key, variableValue v.2)

/-! ## Loading -/

/-- The settings of an environment, checked. -/
def load (files : List (String × String)) (environment : String)
    (given : List (String × String)) : Except Fault Settings :=
  match fileFields? files "default", fileFields? files environment with
  | some base, some overlay =>
    let layers := [base, overlay, variableFields given]
    match ofLayer? (layers.foldl Layer.under .empty) with
    | some s => s.check.map fun _ => s
    | none => .error .settingsMistyped
  | _, _ => .error .settingsUnreadable

end Settings

end Perimeter
