import EdgeRouting.CommandLine.Arguments

/-!
# Help
-/

namespace EdgeRouting.CommandLine

def Page.lines : Page → List String
  | .program => [
    "Compile and preview edge redirect, rewrite and header rules",
    "",
    "Usage: edge-rules [OPTIONS] <COMMAND>",
    "",
    "Commands:",
    "  compile  Validate the rules and write the compiled edge bundle",
    "  preview  Serve the edge hooks locally in front of an origin",
    "  help     Print this message or the help of the given subcommand(s)",
    "",
    "Options:",
    "  -c, --config <CONFIG>  Path to the TOML configuration [default: edge.toml]",
    "  -h, --help             Print help"]
  | .compile => [
    "Validate the rules and write the compiled edge bundle",
    "",
    "Usage: edge-rules compile [OPTIONS]",
    "",
    "Options:",
    "  -o, --out <OUT>  Output file; stdout when omitted",
    "  -h, --help       Print help"]
  | .preview => [
    "Serve the edge hooks locally in front of an origin",
    "",
    "Usage: edge-rules preview [OPTIONS]",
    "",
    "Options:",
    "      --bundle <BUNDLE>  Use a previously compiled bundle instead of compiling the config",
    "      --bind <BIND>      Override preview.bind_address",
    "      --origin <ORIGIN>  Override preview.origin",
    "  -h, --help             Print help"]
  | .help => [
    "Print this message or the help of the given subcommand(s)",
    "",
    "Usage: edge-rules help [COMMAND]...",
    "",
    "Arguments:",
    "  [COMMAND]...  Print help for the subcommand(s)"]

def Page.text (page : Page) : String :=
  String.join (page.lines.map (· ++ "\n"))

end EdgeRouting.CommandLine
