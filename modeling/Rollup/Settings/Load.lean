import Rollup.Settings.Decode
import Rollup.Text.Shown
/-!
Where settings come from: variables of the environment come before the file, and the file before
the defaults.
-/
namespace Rollup

/-- What a program finds around it. -/
structure Environment where
  home : String
  values : List (String × String) := []
  deriving Repr, DecidableEq

/-- The value of a variable, if it is set. -/
def Environment.get? (e : Environment) (name : String) : Option String :=
  (e.values.find? fun v => v.1 == name).map (·.2)

/-- A file's text by its path, or why it cannot be read. -/
abbrev Files := String → Except String String

namespace Settings

inductive LoadError where
  | unreadable (path why : String)
  | malformed (path : String)
  deriving Repr, DecidableEq

def LoadError.message : LoadError → String
  | unreadable path why => "Failed to read config file " ++ Text.shownPath path ++ ": " ++ why
  | malformed path => "Failed to parse config file " ++ Text.shownPath path

/-- A port: digits, perhaps behind a plus sign, of a number that is not too great. -/
def portOfText? (s : String) : Option Nat :=
  let digits := match s.toList with
    | '+' :: cs => cs
    | cs => cs
  if digits.isEmpty || !digits.all Char.isDigit then none
  else some (Double.ofDigits digits) |>.filter fun n => decide (n ≤ greatestPort)

/-- Settings with the environment's variables put over them. A port that is none is left alone. -/
def override (e : Environment) (s : Settings) : Settings where
  database := { s.database with
    path := (e.get? "ANALYTICA_DATABASE_PATH").getD s.database.path }
  api := { s.api with
    host := (e.get? "ANALYTICA_API_HOST").getD s.api.host
    port := ((e.get? "ANALYTICA_API_PORT").bind portOfText?).getD s.api.port }
  compiler := {
    timeColumn := (e.get? "ANALYTICA_DEFAULT_TIME_COLUMN").getD s.compiler.timeColumn }
  logging := {
    level := (e.get? "ANALYTICA_LOG_LEVEL").getD s.logging.level
    format := (e.get? "ANALYTICA_LOG_FORMAT").getD s.logging.format }

/-- Settings without a file. -/
def ofEnvironment (e : Environment) : Settings := (ofHome e.home).override e

/-- Settings of a file alone. -/
def load (home : String) (files : Files) (path : String) : Except LoadError Settings :=
  match files path with
  | .error why => .error (.unreadable path why)
  | .ok content =>
    match ofText? home content with
    | some s => .ok s
    | none => .error (.malformed path)

/-- Where a file is looked for, the user's own one first. -/
def searchPaths (home : String) : List String :=
  [home ++ "/.config/analytica/config.toml", "/etc/analytica/config.toml", "./config.toml"]

/-- Settings of the first file that is usable, if there is one, under the environment's variables. -/
def find (e : Environment) (files : Files) : Settings :=
  match (searchPaths e.home).findSome? fun path => (load e.home files path).toOption with
  | some s => s.override e
  | none => ofEnvironment e

end Settings

end Rollup
