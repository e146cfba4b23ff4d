/-!
What the command line tells about itself.
-/
namespace ListingPanel.CommandLine

def versionText : String := "bytesight 0.1.0\n"

def usage : String := "Usage: bytesight [OPTIONS] <FILE>\n"

def helpText : String :=
  "Python bytecode viewer that follows source line selections\n\n" ++ usage ++
  "\nArguments:\n" ++
  "  <FILE>  Python source file to disassemble\n" ++
  "\nOptions:\n" ++
  "      --lines <A[:B]>    Source lines to highlight: a single line (`7`) or a range (`7:12`)\n" ++
  "      --python <PATH>    Interpreter (or installation root) to use instead of the configured " ++
  "one\n" ++
  "      --config <PATH>    Path to configuration file\n" ++
  "      --log-file <PATH>  Path to log file (default: system temp dir)\n" ++
  "      --height <N>       Only print this many rows, scrolled to the highlighted block\n" ++
  "      --plain            Mark highlighted lines with a `>` gutter instead of colors\n" ++
  "      --dump-config      Print the effective configuration as JSON and exit\n" ++
  "  -h, --help             Print help\n" ++
  "  -V, --version          Print version\n"

end ListingPanel.CommandLine
