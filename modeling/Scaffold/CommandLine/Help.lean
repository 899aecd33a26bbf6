/-!
# Help and version

What the command says about itself.
-/

namespace Scaffold.CommandLine

/-- The name of the command. -/
def commandName : String := "testgen"

/-- The name and the version of the command. -/
def versionText : String := commandName ++ " 0.3.1\n"

/-- The variable of the environment that names a settings file. -/
def configVariable : String := "TESTGEN_CONFIG"

/-- How the command is called; the settings file of the environment is shown. -/
def helpText (environmentConfig : Option String) : String :=
  String.join [
    "Generate NUnit test scaffolds for C# classes\n\n",
    "Usage: ", commandName, " [OPTIONS] <SOURCES> <OUTPUT_DIR> [MAX_READING_TASKS] ",
    "[MAX_PROCESSING_TASKS] [MAX_WRITING_TASKS]\n\n",
    "Arguments:\n",
    "  <SOURCES>               Source files to read, joined by the separator (e.g. \"A.cs|B.cs\")\n",
    "  <OUTPUT_DIR>            Directory the generated test files are written to\n",
    "  [MAX_READING_TASKS]     Concurrent file reads (0 means default)\n",
    "  [MAX_PROCESSING_TASKS]  Concurrent parse-and-generate workers (0 means default)\n",
    "  [MAX_WRITING_TASKS]     Concurrent file writes (0 means default)\n\n",
    "Options:\n",
    "      --separator <SEPARATOR>  Separator between source paths [default: |]\n",
    "      --config <CONFIG>        Configuration file (defaults to the nearest .testgen.toml) ",
    "[env: ", configVariable, "=", environmentConfig.getD "", "]\n",
    "  -v, --verbose...             Increase log verbosity (-v info, -vv debug, -vvv trace)\n",
    "  -h, --help                   Print help\n",
    "  -V, --version                Print version\n"]

end Scaffold.CommandLine
