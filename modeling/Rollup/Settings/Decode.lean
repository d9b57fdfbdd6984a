import Rollup.Settings.Basic
import Rollup.Toml.Reader
/-!
Settings from a file. What the file leaves out has its default, names nobody knows are left alone,
and a value of another kind makes the whole file unusable.
-/
namespace Rollup.Settings

open Toml (Value)

/-- The members of a section, which is a table or a list of the members in declared order. A date
is a section that sets nothing. -/
def members? (names : List String) : Value → Option (List (String × Value))
  | .table entries => some entries
  | .list items => some (names.zip items)
  | .time _ => some []
  | _ => none

/-- A member that may be left out. -/
def getD {α : Type} (decode : Value → Option α) (default : α) (name : String)
    (entries : List (String × Value)) : Option α :=
  match Toml.lookup name entries with
  | some v => decode v
  | none => some default

def text? : Value → Option String
  | .text s => some s
  | _ => none

/-- A natural number up to a greatest one. -/
def natural? (greatest : Nat) : Value → Option Nat
  | .integer (.ofNat n) => if n ≤ greatest then some n else none
  | _ => none

def greatestPort : Nat := 0xFFFF

/-- No file can hold a greater number. -/
def greatestNumber : Nat := Word.greatestSigned

def Database.decode? (default : Database) (v : Value) : Option Database := do
  let es ← members? ["path", "init_script"] v
  return {
    path := ← getD text? default.path "path" es
    initScript := ← getD (fun v => (text? v).map some) default.initScript "init_script" es }

def Api.decode? (v : Value) : Option Api := do
  let default : Api := {}
  let es ← members? ["host", "port", "request_timeout_secs", "max_body_size"] v
  return {
    host := ← getD text? default.host "host" es
    port := ← getD (natural? greatestPort) default.port "port" es
    requestTimeout :=
      ← getD (natural? greatestNumber) default.requestTimeout "request_timeout_secs" es
    bodyLimit := ← getD (natural? greatestNumber) default.bodyLimit "max_body_size" es }

def Compiler.decode? (v : Value) : Option Compiler := do
  let default : Compiler := {}
  let es ← members? ["default_time_column"] v
  return { timeColumn := ← getD text? default.timeColumn "default_time_column" es }

def Logging.decode? (v : Value) : Option Logging := do
  let default : Logging := {}
  let es ← members? ["level", "format"] v
  return {
    level := ← getD text? default.level "level" es
    format := ← getD text? default.format "format" es }

/-- The settings of a file's table. -/
def ofTable? (home : String) (es : List (String × Value)) : Option Settings := do
  let default := ofHome home
  return {
    database := ← getD (Database.decode? default.database) default.database "database" es
    api := ← getD Api.decode? default.api "api" es
    compiler := ← getD Compiler.decode? default.compiler "compiler" es
    logging := ← getD Logging.decode? default.logging "logging" es }

/-- The settings that the text of a file says. -/
def ofText? (home s : String) : Option Settings := (Toml.ofText? s).bind (ofTable? home)

end Rollup.Settings
