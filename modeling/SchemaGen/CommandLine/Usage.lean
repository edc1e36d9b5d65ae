/-!
# The usage of the command

The texts that tell how the command is called.
-/

namespace SchemaGen.CommandLine

/-- Some lines, each with its end. -/
def ofLines (lines : List String) : String :=
  String.join (lines.map (· ++ "\n"))

/-- How the command is called. -/
def usage : String := ofLines
  ["usage: dbdesigner-dbic [-h] [--url URL] [--namespace NAMESPACE]",
   "                       [--output OUTPUT_PATH] [--config CONFIG]",
   "                       [--target TARGET] [--layout \x7bclasses,namespaces\x7d]",
   "                       [--comments] [--dry-run] [--verbose]",
   "                       [--log-level \x7bDEBUG,INFO,WARNING,ERROR\x7d]",
   "                       [--list-targets]",
   "                       [file]"]

/-- What the command does and what its arguments mean. -/
def explanation : String := ofLines
  ["Create a DBIx::Class schema from a DBDesigner4 XML model",
   "",
   "positional arguments:",
   "  file                  DBDesigner4 XML file",
   "",
   "options:",
   "  -h, --help            show this help message and exit",
   "  --url URL             URL to fetch the XML model from",
   "  --namespace NAMESPACE, -n NAMESPACE",
   "                        Namespace of the generated packages (e.g. MyApp::DB)",
   "  --output OUTPUT_PATH, -o OUTPUT_PATH",
   "                        Output directory (default: .)",
   "  --config CONFIG       Configuration file path (JSON)",
   "  --target TARGET, -t TARGET",
   "                        Target ORM (default: dbic)",
   "  --layout \x7bclasses,namespaces\x7d",
   "                        Class layout: explicit load_classes or Result::",
   "                        namespaces",
   "  --comments            Add a header comment to generated files",
   "  --dry-run             Print the generated modules instead of writing them",
   "  --verbose, -v         Show generation details",
   "  --log-level \x7bDEBUG,INFO,WARNING,ERROR\x7d",
   "                        Log level (default: WARNING)",
   "  --list-targets        List supported targets and exit",
   "",
   "Examples:",
   "  dbdesigner-dbic model.xml --namespace MyApp::DB --output lib",
   "  dbdesigner-dbic --url https://example.com/model.xml --dry-run",
   "  dbdesigner-dbic model.xml --layout namespaces -o lib",
   "  dbdesigner-dbic --list-targets"]

/-- The help text. -/
def help : String := usage ++ "\n" ++ explanation

end SchemaGen.CommandLine
