import Conformance.Command.Option

/-!
# Help

What the command line says about itself, page by page.
-/
namespace Conformance.Command

def mainHelp : List String := [
  "usage: jsonguard [-h] [--version] \x7bvalidate,check-schema\x7d ...",
  "",
  "Validate JSON documents against a JSON schema subset",
  "",
  "positional arguments:",
  "  \x7bvalidate,check-schema\x7d",
  "                        Commands",
  "    validate            Validate an instance against a schema",
  "    check-schema        Check that a schema compiles",
  "",
  "options:",
  "  -h, --help            show this help message and exit",
  "  --version             show program's version number and exit"]

def validateHelp : List String := [
  "usage: jsonguard validate [-h] [--format \x7btext,json\x7d] [--fail-fast]",
  "                          [--max-depth MAX_DEPTH]",
  "                          [--log-level \x7bsilent,info,verbose,debug\x7d]",
  "                          [--log-channel LOG_CHANNEL]",
  "                          schema instance",
  "",
  "positional arguments:",
  "  schema                Path to the schema file (.json, .yaml, .yml)",
  "  instance              Path to the instance file (use - for stdin)",
  "",
  "options:",
  "  -h, --help            show this help message and exit",
  "  --format \x7btext,json\x7d  Report format: text (default) or json",
  "  --fail-fast           Stop at the first violation",
  "  --max-depth MAX_DEPTH",
  "                        Maximum nesting depth (default: 64, or",
  "                        JSONGUARD_MAX_DEPTH env var)",
  "  --log-level \x7bsilent,info,verbose,debug\x7d",
  "                        Log verbosity level (default: silent, or",
  "                        JSONGUARD_LOG_LEVEL env var)",
  "  --log-channel LOG_CHANNEL",
  "                        Comma-separated log channels to show",
  "                        (compile,validate,load,system). Default: all"]

def checkSchemaHelp : List String := [
  "usage: jsonguard check-schema [-h] [--log-level \x7bsilent,info,verbose,debug\x7d]",
  "                              [--log-channel LOG_CHANNEL]",
  "                              schema",
  "",
  "positional arguments:",
  "  schema                Path to the schema file (.json, .yaml, .yml)",
  "",
  "options:",
  "  -h, --help            show this help message and exit",
  "  --log-level \x7bsilent,info,verbose,debug\x7d",
  "                        Log verbosity level (default: silent, or",
  "                        JSONGUARD_LOG_LEVEL env var)",
  "  --log-channel LOG_CHANNEL",
  "                        Comma-separated log channels to show",
  "                        (compile,validate,load,system). Default: all"]

namespace Page

def helpLines : Page → List String
  | .main => mainHelp
  | .validate => validateHelp
  | .checkSchema => checkSchemaHelp

/-- The help on a page, every line ended. -/
def help (page : Page) : Text := page.helpLines.flatMap fun line => Text.ofString line ++ "\n"

end Page

/-- The answer to the question for the version. -/
def versionLine : Text := "jsonguard 0.1.0\n"

end Conformance.Command
