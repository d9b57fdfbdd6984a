import Rollup.Statement.Compile
/-!
Settings of the service, with a default for each of them.
-/
namespace Rollup

/-- The place under the home directory where a database is kept that nobody placed elsewhere. -/
def homeDatabase : String := ".local/share/analytica/analytics.db"

/-- A path in which a leading tilde stands for the home directory. What follows the tilde is the
whole path if it is absolute itself. -/
def expandHome (home path : String) : String :=
  match path.toList with
  | '~' :: '/' :: '/' :: rest => String.ofList ('/' :: rest)
  | '~' :: '/' :: rest => home ++ String.ofList ('/' :: rest)
  | _ => path

namespace Settings

structure Database where
  path : String
  /-- A script that is run once at startup. -/
  initScript : Option String := none
  deriving Repr, DecidableEq

structure Api where
  host : String := "0.0.0.0"
  port : Nat := 8080
  /-- In seconds. -/
  requestTimeout : Nat := 30
  /-- In bytes. -/
  bodyLimit : Nat := 2 * 1024 * 1024
  deriving Repr, DecidableEq

/-- The address to listen at. -/
def Api.address (a : Api) : String := a.host ++ ":" ++ toString a.port

structure Compiler where
  timeColumn : String := Request.defaultTimeColumn
  deriving Repr, DecidableEq

structure Logging where
  level : String := "info"
  format : String := "pretty"
  deriving Repr, DecidableEq

end Settings

structure Settings where
  database : Settings.Database
  api : Settings.Api := {}
  compiler : Settings.Compiler := {}
  logging : Settings.Logging := {}
  deriving Repr, DecidableEq

/-- The settings of a user who set nothing. -/
def Settings.ofHome (home : String) : Settings where
  database := { path := home ++ "/" ++ homeDatabase }

example : expandHome "/home/u" "~/x" = "/home/u/x" := by decide +kernel
example : expandHome "/home/u" "~//x" = "/x" := by decide +kernel
example : expandHome "/home/u" "~x" = "~x" := by decide +kernel

end Rollup
