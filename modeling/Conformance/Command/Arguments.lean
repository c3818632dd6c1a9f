import Conformance.Command.Option
import Conformance.Number.Literal
import Conformance.Unicode.DecimalDigit

/-!
# Arguments of the command line

Every argument is first sorted: it is plain, or it is the separator after which all is plain, or it
looks like an option. An option may be shortened as long as it stays the only one with that
beginning, and may carry its value behind an equals sign. Then the arguments are taken from left to
right. What a page does not know is told at the very end; any other fault ends the reading at once,
and so does an option that asks for help or for the version.
-/
namespace Conformance.Command

/-- An option that was recognised, with the way it was written and a value that came with it. -/
structure Match where
  option : CommandOption
  spelling : Text
  value : Option Text
deriving DecidableEq

inductive Token where
  | plain
  | separator
  /-- Something that looks like an option, with what it means if it means anything. -/
  | dashed (meaning : Option Match)
deriving DecidableEq

/-- Whether an argument looks like a negative number: it is not an option then. -/
def isNegativeNumber (t : Text) : Bool :=
  let body := if t.getLast? = some ('\n' : CodePoint) then t.dropLast else t
  match body with
  | [] => false
  | c :: rest =>
    let whole := rest.takeWhile Unicode.isDecimalDigit
    match rest.drop whole.length with
    | [] => c = '-' && !whole.isEmpty
    | d :: fraction => c = '-' && d = '.' && !fraction.isEmpty && fraction.all Unicode.isDecimalDigit

/-- An argument cut at its first equals sign. -/
def splitValue (t : Text) : Text × Option Text :=
  match t.dropWhile (· ≠ ('=' : CodePoint)) with
  | [] => (t, none)
  | _ :: value => (t.takeWhile (· ≠ ('=' : CodePoint)), some value)

/-- Options that an argument may mean without naming one in full. A long option may be shortened; a
short one may have letters behind it. -/
def candidates (page : Page) (t : Text) : List Match :=
  if Text.isBeginning "--" t then
    let (beginning, value) := splitValue t
    (page.spelled.filter fun entry => Text.isBeginning beginning entry.1).map
      fun (spelling, option) => ⟨option, spelling, value⟩
  else
    page.spelled.filterMap fun (spelling, option) =>
      if spelling = t.take 2 then some ⟨option, spelling, some (t.drop 2)⟩
      else if Text.isBeginning t spelling then some ⟨option, spelling, none⟩
      else none

/-- The option that a text names in full. -/
def named? (page : Page) (t : Text) : Option CommandOption :=
  (page.spelled.find? fun entry => entry.1 = t).map Prod.snd

/-- Sorts one argument before the separator. -/
def sortArgument (page : Page) (t : Text) : Except UsageError Token :=
  if t.head? ≠ some ('-' : CodePoint) ∨ t.length = 1 then .ok .plain
  else
    match named? page t with
    | some option => .ok (.dashed (some ⟨option, t, none⟩))
    | none =>
      let (beginning, value) := splitValue t
      match value.isSome, named? page beginning with
      | true, some option => .ok (.dashed (some ⟨option, beginning, value⟩))
      | _, _ =>
        match candidates page t with
        | [] =>
          if isNegativeNumber t || t.contains ' ' then .ok .plain else .ok (.dashed none)
        | [single] => .ok (.dashed (some single))
        | several => .error ⟨page, .ambiguous t (several.map Match.spelling)⟩

/-- Sorts all arguments. -/
def sortArguments (page : Page) : List Text → Except UsageError (List (Text × Token))
  | [] => .ok []
  | t :: rest =>
    if t = "--" then .ok ((t, .separator) :: rest.map fun plain => (plain, .plain))
    else do
      let first ← sortArgument page t
      let others ← sortArguments page rest
      pure ((t, first) :: others)

/-- What the options of a command choose. -/
structure Choices where
  format : ReportFormat := .text
  failFast : Bool := false
  maxDepth : Option Int := none
  logLevel : Option Logging.Level := none
  logChannels : Option Text := none

/-- What a command line asks for. -/
inductive Request where
  | help (page : Page)
  | version
  | validate (schema inst : Text) (choices : Choices)
  | checkSchema (schema : Text) (choices : Choices)

/-- How reading ends early. -/
inductive Ending where
  | request (request : Request)
  | fault (error : UsageError)

/-- A reading under way. -/
structure Progress where
  choices : Choices := {}
  /-- Names of the arguments still to come. -/
  wanted : List Text
  /-- Arguments so far. -/
  taken : List Text := []
  /-- What the page does not know. -/
  unknown : List Text := []
  /-- Whether an argument was taken right before. -/
  justTook : Bool := false

def refuse {α : Type} (page : Page) (fault : UsageFault) : Except Ending α :=
  .error (.fault ⟨page, fault⟩)

/-- An option that takes no value. -/
def applySwitch (page : Page) (option : CommandOption) (choices : Choices) :
    Except Ending Choices :=
  match option with
  | .help => .error (.request (.help page))
  | .version => .error (.request .version)
  | _ => .ok { choices with failFast := true }

/-- An option that takes no value but came with one. Letters behind a short option are short options
themselves. -/
def applyCluster (page : Page) (option : CommandOption) (spelling value : Text)
    (choices : Choices) : Except Ending Choices :=
  if Text.isBeginning "--" spelling || value.isEmpty then
    refuse page (.unwantedValue option value)
  else
    match value.dropWhile fun c => spelling = [('-' : CodePoint), c] with
    | [] => applySwitch page option choices
    | rest => refuse page (.unwantedValue option rest)

/-- An option with its value. -/
def applyValue (page : Page) (option : CommandOption) (value : Text) (choices : Choices) :
    Except Ending Choices :=
  match option with
  | .format =>
    match ReportFormat.ofName? value with
    | some format => .ok { choices with format }
    | none => refuse page (.notChoice option.label value (ReportFormat.all.map ReportFormat.name))
  | .maxDepth =>
    match Numeral.parseInt value with
    | .ok depth => .ok { choices with maxDepth := some depth }
    | .error _ => refuse page (.notInteger option value)
  | .logLevel =>
    match Logging.Level.all.find? fun level => level.smallName = value with
    | some level => .ok { choices with logLevel := some level }
    | none =>
      refuse page (.notChoice option.label value (Logging.Level.all.map Logging.Level.smallName))
  | .logChannel => .ok { choices with logChannels := some value }
  | _ => .ok choices

/-- Takes the arguments of a command. The separator is part of an argument beside it, and unknown
where there is none. -/
def takeArguments (page : Page) : List (Text × Token) → Progress → Except Ending Progress
  | [], progress => .ok progress
  | (t, .plain) :: rest, progress =>
    match progress.wanted with
    | [] =>
      takeArguments page rest { progress with unknown := progress.unknown ++ [t], justTook := false }
    | _ :: wanted =>
      takeArguments page rest
        { progress with wanted, taken := progress.taken ++ [t], justTook := true }
  | (t, .separator) :: rest, progress =>
    if progress.justTook || (!progress.wanted.isEmpty && !rest.isEmpty) then
      takeArguments page rest { progress with justTook := false }
    else takeArguments page rest { progress with unknown := progress.unknown ++ [t] }
  | (t, .dashed none) :: rest, progress =>
    takeArguments page rest { progress with unknown := progress.unknown ++ [t], justTook := false }
  | (_, .dashed (some ⟨option, spelling, some value⟩)) :: rest, progress =>
    let applied :=
      if option.takesValue then applyValue page option value progress.choices
      else applyCluster page option spelling value progress.choices
    match applied with
    | .error ending => .error ending
    | .ok choices => takeArguments page rest { progress with choices, justTook := false }
  | (_, .dashed (some ⟨option, _, none⟩)) :: rest, progress =>
    if option.takesValue then
      match rest with
      | (value, .plain) :: rest =>
        match applyValue page option value progress.choices with
        | .error ending => .error ending
        | .ok choices => takeArguments page rest { progress with choices, justTook := false }
      | _ => refuse page (.noValue option)
    else
      match applySwitch page option progress.choices with
      | .error ending => .error ending
      | .ok choices => takeArguments page rest { progress with choices, justTook := false }

/-- The request of a command with its arguments. -/
def requestOf (page : Page) (taken : List Text) (choices : Choices) : Request :=
  match page, taken with
  | .validate, [schema, inst] => .validate schema inst choices
  | .checkSchema, [schema] => .checkSchema schema choices
  | page, _ => .help page

/-- Reads what follows the name of a command. The second part of the answer is unknown. -/
def readCommand (page : Page) (arguments : List Text) : Except Ending (Request × List Text) := do
  let tokens ← (sortArguments page arguments).mapError .fault
  let progress ← takeArguments page tokens { wanted := page.arguments }
  match progress.wanted with
  | [] => pure (requestOf page progress.taken progress.choices, progress.unknown)
  | missing => refuse page (.missing missing)

/-- The command of a name. -/
def findCommand (name : Text) : Except Ending Page :=
  match Page.ofCommand? name with
  | some page => .ok page
  | none => refuse .main (.notChoice "command" name (Page.commands.map Page.commandName))

/-- Reads the arguments up to the name of a command, and that command. -/
def readMain : List (Text × Token) → Except Ending (Request × List Text)
  | [] => .ok (.help .main, [])
  | (t, .plain) :: rest => do readCommand (← findCommand t) (rest.map Prod.fst)
  | (t, .separator) :: rest =>
    match rest with
    | [] => .ok (.help .main, [t])
    | _ :: _ => do readCommand (← findCommand t) (rest.map Prod.fst)
  | (t, .dashed none) :: rest => do
    let (request, unknown) ← readMain rest
    pure (request, t :: unknown)
  | (_, .dashed (some ⟨option, spelling, some value⟩)) :: rest => do
    let _ ← applyCluster .main option spelling value {}
    readMain rest
  | (_, .dashed (some ⟨option, _, none⟩)) :: rest => do
    let _ ← applySwitch .main option {}
    readMain rest

/-- The request of a command line. -/
def read (arguments : List Text) : Except UsageError Request :=
  let reading : Except Ending (Request × List Text) := do
    readMain (← (sortArguments .main arguments).mapError .fault)
  match reading with
  | .error (.fault error) => .error error
  | .error (.request request) => .ok request
  | .ok (request, []) => .ok request
  | .ok (_, unknown) => .error ⟨.main, .unrecognized unknown⟩

end Conformance.Command
