import HelixGateway.CommandLine.Argument

/-!
# Help

What is printed for those who ask how the commands are used.
-/

namespace HelixGateway.CommandLine

def programName : String := "helixboard"

def versionText : String := programName ++ " 0.1.0\n"

/-- The lines of the help of a scope. -/
def helpLines : Scope → List String
  | none =>
    ["usage: helixboard [-h] [--version] \x7bserve,parse-schema,parse-queries\x7d ...",
      "",
      "Helixboard - REST API over a HelixDB schema and its queries",
      "",
      "positional arguments:",
      "  \x7bserve,parse-schema,parse-queries\x7d",
      "                        Available commands",
      "    serve               Run the API server (default)",
      "    parse-schema        Print a parsed schema file as JSON",
      "    parse-queries       Print the endpoints of a queries file as JSON",
      "",
      "options:",
      "  -h, --help            show this help message and exit",
      "  --version             show program's version number and exit"]
  | some .serve =>
    ["usage: helixboard serve [-h] [--port PORT] [--host HOST]",
      "                        [--listen-port LISTEN_PORT]",
      "                        [--log-level \x7bDEBUG,INFO,WARNING,ERROR\x7d]",
      "                        [\x7blocal-introspect,local-file,cloud\x7d] [cloud_url]",
      "",
      "positional arguments:",
      "  \x7blocal-introspect,local-file,cloud\x7d",
      "                        Where schema and query metadata come from",
      "  cloud_url             HelixDB URL (cloud mode only)",
      "",
      "options:",
      "  -h, --help            show this help message and exit",
      "  --port PORT, -p PORT  Local HelixDB port (default: $HELIX_PORT or 6969)",
      "  --host HOST           Address to listen on (default: $HOST)",
      "  --listen-port LISTEN_PORT",
      "                        Port to listen on (default: $PORT)",
      "  --log-level \x7bDEBUG,INFO,WARNING,ERROR\x7d",
      "                        Logging level"]
  | some c =>
    ["usage: helixboard " ++ c.text ++ " [-h] file",
      "",
      "positional arguments:",
      "  file        Path to " ++ (if c = .printSchema then "schema.hx" else "queries.hx"),
      "",
      "options:",
      "  -h, --help  show this help message and exit"]

/-- The help of a scope. -/
def help (scope : Scope) : String := String.join ((helpLines scope).map (· ++ "\n"))

end HelixGateway.CommandLine
