/-!
The texts that `-h`, `--help` and `--version` print.
-/

namespace LinkBench.CommandLine

def versionText : String := "kmharness 0.1.0\n"

/-- Some options have no description; the columns that it would fill stay blank. -/
def blank (width : Nat) : String :=
  String.ofList (List.replicate width ' ')

def lines (ls : List String) : String :=
  String.join (ls.map (· ++ "\n"))

def summary : String :=
  "Builds the sample DOL/ALF inputs, runs every test case through the compiler and the linker " ++
  "under test, and checks the outputs against the golden fixtures"

def usage : String := "Usage: kmharness [OPTIONS] [TESTS_DIR]"

/-- One line for each argument. -/
def shortHelp : String := lines [
  summary,
  "",
  usage,
  "",
  "Arguments:",
  "  [TESTS_DIR]  Directory holding one subdirectory per test case [default: .]",
  "",
  "Options:",
  "      --bless                      Accept the current outputs as the new golden fixtures",
  "      --samples-only               Only write sample.dol and the sample ALF files, then exit",
  "      --cw <CW_DIR>                [default: ../cw]",
  "      --stdlib <INCLUDE_DIR>       [default: ../k_stdlib]",
  "      --linker <LINKER>            [default: ../Kamek]",
  "      --wine <WINE>                Program used to launch the compiler and assembler [default: wine]",
  "      --no-wine                    Run the compiler and assembler directly",
  "      --versions <VERSIONS>        [default: versions.txt]",
  "      --static-base <STATIC_BASE>  [default: 0x82000000]",
  "      --timeout <TIMEOUT>          Seconds an external tool may run before it is killed; 0 waits forever [default: 300]",
  "      --keep-failed                Leave _bin and _out in place when a test case fails",
  "  -v, --verbose" ++ blank 20,
  "  -z, --quiet" ++ blank 22,
  "  -h, --help                       Print help (see more with '--help')",
  "  -V, --version                    Print version"]

/-- A paragraph for each argument. -/
def longHelp : String := lines [
  summary ++ ".",
  "",
  "Tool paths are relative to the tests directory.",
  "",
  usage,
  "",
  "Arguments:",
  "  [TESTS_DIR]",
  "          Directory holding one subdirectory per test case",
  blank 10,
  "          [default: .]",
  "",
  "Options:",
  "      --bless",
  "          Accept the current outputs as the new golden fixtures",
  "",
  "      --samples-only",
  "          Only write sample.dol and the sample ALF files, then exit",
  "",
  "      --cw <CW_DIR>",
  "          [default: ../cw]",
  "",
  "      --stdlib <INCLUDE_DIR>",
  "          [default: ../k_stdlib]",
  "",
  "      --linker <LINKER>",
  "          [default: ../Kamek]",
  "",
  "      --wine <WINE>",
  "          Program used to launch the compiler and assembler",
  blank 10,
  "          [default: wine]",
  "",
  "      --no-wine",
  "          Run the compiler and assembler directly",
  "",
  "      --versions <VERSIONS>",
  "          [default: versions.txt]",
  "",
  "      --static-base <STATIC_BASE>",
  "          [default: 0x82000000]",
  "",
  "      --timeout <TIMEOUT>",
  "          Seconds an external tool may run before it is killed; 0 waits forever",
  blank 10,
  "          [default: 300]",
  "",
  "      --keep-failed",
  "          Leave _bin and _out in place when a test case fails",
  "",
  "  -v, --verbose",
  blank 10,
  "",
  "  -z, --quiet",
  blank 10,
  "",
  "  -h, --help",
  "          Print help (see a summary with '-h')",
  "",
  "  -V, --version",
  "          Print version"]

end LinkBench.CommandLine
