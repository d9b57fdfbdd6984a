/-!
The places at which the server answers.
-/
namespace Rollup.Http

inductive Endpoint where
  /-- Answers a request with its rows. -/
  | analytics
  /-- Answers a request with its statement. -/
  | compile
  | live
  | ready
  | health
  deriving Repr, DecidableEq

namespace Endpoint

def all : List Endpoint := [analytics, compile, live, ready, health]

def path : Endpoint → String
  | analytics => "/api/v1/analytics"
  | compile => "/api/v1/analytics/compile"
  | live => "/health/live"
  | ready => "/health/ready"
  | health => "/health"

/-- What is asked by GET may be asked by HEAD too, for the headers only. -/
def methods : Endpoint → List String
  | analytics | compile => ["POST"]
  | live | ready | health => ["GET", "HEAD"]

def ofPath? (p : String) : Option Endpoint := all.find? fun e => e.path == p

/-- No two endpoints share a path. -/
theorem ofPath?_path (e : Endpoint) : ofPath? e.path = some e := by cases e <;> decide

end Endpoint

end Rollup.Http
