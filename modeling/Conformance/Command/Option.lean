import Conformance.Report.Format
import Conformance.Logging.Level

/-!
# Pages and options of the command line

The command line has a page of its own and one for each of its commands. A page has options, which
stand anywhere, and arguments, which stand in order.
-/
namespace Conformance.Command

inductive Page where
  | main
  | validate
  | checkSchema
deriving DecidableEq

inductive CommandOption where
  | help
  | version
  | format
  | failFast
  | maxDepth
  | logLevel
  | logChannel
deriving DecidableEq

namespace CommandOption

/-- The ways to write an option. -/
def spellings : CommandOption → List Text
  | .help => ["-h", "--help"]
  | .version => ["--version"]
  | .format => ["--format"]
  | .failFast => ["--fail-fast"]
  | .maxDepth => ["--max-depth"]
  | .logLevel => ["--log-level"]
  | .logChannel => ["--log-channel"]

/-- All ways to write an option at once. -/
def label (option : CommandOption) : Text := Text.join "/" option.spellings

def takesValue : CommandOption → Bool
  | .help | .version | .failFast => false
  | .format | .maxDepth | .logLevel | .logChannel => true

end CommandOption

namespace Page

/-- The command of a page. -/
def commandName : Page → Text
  | .main => "jsonguard"
  | .validate => "validate"
  | .checkSchema => "check-schema"

/-- How the page calls the program. -/
def program : Page → Text
  | .main => "jsonguard"
  | page => "jsonguard " ++ page.commandName

/-- Pages of commands. -/
def commands : List Page := [.validate, .checkSchema]

def ofCommand? (name : Text) : Option Page := commands.find? fun page => page.commandName = name

def options : Page → List CommandOption
  | .main => [.help, .version]
  | .validate => [.help, .format, .failFast, .maxDepth, .logLevel, .logChannel]
  | .checkSchema => [.help, .logLevel, .logChannel]

/-- Names of the arguments of a command. -/
def arguments : Page → List Text
  | .main => []
  | .validate => ["schema", "instance"]
  | .checkSchema => ["schema"]

/-- The options of a page with each of their spellings. -/
def spelled (page : Page) : List (Text × CommandOption) :=
  page.options.flatMap fun option => option.spellings.map fun spelling => (spelling, option)

end Page

/-- What is wrong with a command line. -/
inductive UsageFault where
  | ambiguous (given : Text) (candidates : List Text)
  | noValue (option : CommandOption)
  | unwantedValue (option : CommandOption) (value : Text)
  | notChoice (label value : Text) (choices : List Text)
  | notInteger (option : CommandOption) (value : Text)
  | missing (arguments : List Text)
  | unrecognized (arguments : List Text)
deriving DecidableEq

/-- A fault with the page that finds it. -/
structure UsageError where
  page : Page
  fault : UsageFault
deriving DecidableEq

def UsageFault.message : UsageFault → Text
  | .ambiguous given candidates =>
    "ambiguous option: " ++ given ++ " could match " ++ Text.join ", " candidates
  | .noValue option => "argument " ++ option.label ++ ": expected one argument"
  | .unwantedValue option value =>
    "argument " ++ option.label ++ ": ignored explicit argument " ++ value.quoted
  | .notChoice label value choices =>
    "argument " ++ label ++ ": invalid choice: " ++ value.quoted ++ " (choose from "
      ++ Text.join ", " (choices.map Text.quoted) ++ ")"
  | .notInteger option value =>
    "argument " ++ option.label ++ ": invalid int value: " ++ value.quoted
  | .missing arguments =>
    "the following arguments are required: " ++ Text.join ", " arguments
  | .unrecognized arguments => "unrecognized arguments: " ++ Text.join " " arguments

def UsageError.message (e : UsageError) : Text :=
  e.page.program ++ ": error: " ++ e.fault.message

end Conformance.Command
