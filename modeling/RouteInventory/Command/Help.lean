import RouteInventory.Command.Arguments

/-!
# Help on the command line

What is printed when no command is run, and how such a run ends.
-/

namespace RouteInventory

namespace Usage

def versionLine : String := "endpoint-extractor 0.1.0\n"

/-- The form of the arguments. -/
def form : String := "Usage: endpoint-extractor <COMMAND>\n"

/-- What the commands do. -/
def commands : String :=
  "Commands:\n"
    ++ "  extract [ROOT]  Extract endpoints from a project\n"
    ++ "  detect [ROOT]   Print the framework a project uses\n"
    ++ "  init [DIR]      Write a default extractor.config.yaml\n"
    ++ "  help            Print this message\n"

/-- What the options do. -/
def options : String :=
  "Options of extract:\n"
    ++ "      --framework <FRAMEWORK>   Framework to extract for (default: detect from package.json)\n"
    ++ "      --entry <ENTRY>           Entry file, relative to the project root\n"
    ++ "  -c, --config <CONFIG>         Config file layered over the project's own configuration\n"
    ++ "  -o, --output <OUTPUT>         Write the report here instead of stdout\n"
    ++ "  -f, --format <FORMAT>         Output format: yaml or json\n"
    ++ "      --extract-responses       Infer response shapes from handlers\n"
    ++ "      --response-depth <DEPTH>  Nesting depth for rendered response types\n"
    ++ "      --auth-middlewares <A,B>  Auth middleware names, replacing the configured list\n"
    ++ "      --fail-on-public          Exit non-zero when any endpoint is public or unclassified\n"
    ++ "  -v, --verbose                 Enable debug logging\n\n"
    ++ "Options of init:\n"
    ++ "      --force                   Overwrite an existing config file\n\n"
    ++ "Options:\n"
    ++ "  -h, --help                    Print help\n"
    ++ "  -V, --version                 Print version\n"

/-- The text that is printed. -/
def text : Usage → String
  | .help =>
    "Static HTTP endpoint and authentication inventory for TypeScript services\n\n"
      ++ form ++ "\n" ++ commands ++ "\n" ++ options
  | .version => versionLine
  | .misuse => "error: invalid arguments\n\n" ++ form ++ "\nFor more information, try '--help'.\n"

/-- Only a misuse is an error. -/
def code : Usage → Nat
  | .misuse => 2
  | _ => 0

end Usage

end RouteInventory
