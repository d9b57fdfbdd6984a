import Rollup.Settings.Load
/-!
A settings file to start from. It sets every default, with comments.
-/
namespace Rollup.Settings

def sampleLines : List String :=
  ["# Analytica Configuration",
   "#",
   "# Environment variables override these settings:",
   "# - ANALYTICA_DATABASE_PATH",
   "# - ANALYTICA_API_HOST",
   "# - ANALYTICA_API_PORT",
   "# - ANALYTICA_DEFAULT_TIME_COLUMN",
   "# - ANALYTICA_LOG_LEVEL",
   "# - ANALYTICA_LOG_FORMAT",
   "",
   "[database]",
   "# SQLite database file",
   "path = \"~/.local/share/analytica/analytics.db\"",
   "",
   "# SQL script run at startup (schema, seed data)",
   "# init_script = \"/etc/analytica/init.sql\"",
   "",
   "[api]",
   "# API server host",
   "host = \"0.0.0.0\"",
   "",
   "# API server port",
   "port = 8080",
   "",
   "# Request timeout in seconds",
   "request_timeout_secs = 30",
   "",
   "# Maximum request body size in bytes",
   "max_body_size = 2097152",
   "",
   "[compiler]",
   "# Column a time range filters on when the request has no time dimension",
   "default_time_column = \"creation_date\"",
   "",
   "[logging]",
   "# Log level: trace, debug, info, warn, error",
   "level = \"info\"",
   "",
   "# Log format: pretty (for development) or json (for production)",
   "format = \"pretty\""]

/-- The text of the file. -/
def sample : String := String.join (sampleLines.map (· ++ "\n"))

end Rollup.Settings
