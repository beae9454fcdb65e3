/-!
# Help texts

What the program says about itself.
-/

namespace HeaderBindings.CommandLine

inductive Verb where
  | symg
  | dump
  deriving Repr, DecidableEq

/-- What a help text is about. -/
inductive Topic where
  | program
  | verb (v : Verb)
  | help
  deriving Repr, DecidableEq

def version : String := "llbind 0.1.0\n"

def ofLines (lines : List String) : String := String.join (lines.map (· ++ "\n"))

def Topic.text : Topic → String
  | program => ofLines
    ["Symbol and type translation for C/C++ library bindings",
     "",
     "Usage: llbind [OPTIONS] <COMMAND>",
     "",
     "Commands:",
     "  symg  Generate the symbol table for the configured headers",
     "  dump  Print the bindings generated for the configured headers",
     "  help  Print this message or the help of the given subcommand(s)",
     "",
     "Options:",
     "  -v, --verbose...  Log more (-v info, -vv debug, -vvv trace); RUST_LOG overrides",
     "  -h, --help        Print help",
     "  -V, --version     Print version"]
  | verb .symg => ofLines
    ["Generate the symbol table for the configured headers",
     "",
     "Usage: llbind symg [OPTIONS]",
     "",
     "Options:",
     "  -c, --config <CONFIG>  Binding configuration [default: llbind.toml]",
     "  -v, --verbose...       Log more (-v info, -vv debug, -vvv trace); RUST_LOG overrides",
     "  -o, --output <OUTPUT>  Symbol table to write (default: next to the configuration)",
     "  -h, --help             Print help"]
  | verb .dump => ofLines
    ["Print the bindings generated for the configured headers",
     "",
     "Usage: llbind dump [OPTIONS]",
     "",
     "Options:",
     "  -c, --config <CONFIG>  Binding configuration [default: llbind.toml]",
     "  -v, --verbose...       Log more (-v info, -vv debug, -vvv trace); RUST_LOG overrides",
     "  -h, --help             Print help"]
  | help => ofLines
    ["Print this message or the help of the given subcommand(s)",
     "",
     "Usage: llbind help [COMMAND]...",
     "",
     "Arguments:",
     "  [COMMAND]...  Print help for the subcommand(s)"]

end HeaderBindings.CommandLine
