import OpcodeBinding.CommandLine.Options
import OpcodeBinding.Listing
import OpcodeBinding.Text.Terminal
import OpcodeBinding.World

/-! What the reference tool prints. -/
namespace OpcodeBinding.CommandLine

structure Report where
  exitCode : UInt8
  stdout : String
  stderr : String
  deriving DecidableEq, Repr

def help : String := "List the opcodes bound in the script modules

Usage: opcode-reference [OPTIONS]

Options:
  -m, --module <MODULE>  Only list the module with this name
  -l, --lookup <LOOKUP>  Resolve one opcode, written as hex (`0x0107`) or decimal
  -v, --verbose          Log every binding as the modules are built
  -h, --help             Print help
"

inductive RunFault where
  | table (fault : BindFault)
  | unknownOpcode (opcode : Opcode)
  | noModule (name : String)
  deriving DecidableEq, Repr

def RunFault.message : RunFault → String
  | .table fault => fault.message
  | .unknownOpcode opcode => s!"unknown opcode {opcode.display}"
  | .noModule name => s!"no module named `{name}`"

/-- The levels that a journal shows, by the name of the most talkative one. Only the names of levels are
read: numbers of levels, targets and lists of directives, which a filter may have as well, show nothing. -/
def shownLevel? (name : String) : Option Level :=
  match name.map Char.toLower with
  | "" | "error" => some .error
  | "warn" => some .warn
  | "info" => some .info
  | "debug" => some .debug
  | "trace" => some .trace
  | _ => none

def journal (shown? : Option Level) (events : List Event) : String :=
  let notes := (events.map Event.note).filter fun note =>
    shown?.any fun shown => note.level.rank ≤ shown.rank
  String.join (notes.map fun note => note.line ++ "\n")

/-- One line on an opcode and the module that provides it. An opcode without a mnemonic goes by the
name of its command. -/
def lookupLine (r : Registry World) (opcode : Opcode) : Except RunFault String :=
  match (r.moduleFor? opcode).bind fun m => (m.find? opcode).map fun binding => (m, binding) with
  | none => .error (.unknownOpcode opcode)
  | some (m, binding) =>
    let name := (binding.mnemonic <|> (Command.ofOpcode? opcode).map Command.mnemonic).getD "-"
    .ok (s!"{opcode.display} {name} in module {m.name}: " ++
      s!"{binding.argumentCount} argument(s), {binding.shape.name}\n")

def select (r : Registry World) : Option String → Except RunFault (List (Module World))
  | none => .ok r.modules.toList
  | some name =>
    match r.modules.toList.filter fun m => m.name == name with
    | [] => .error (.noModule name)
    | selected => .ok selected

def listing (modules : List (Module World)) : String :=
  String.join (modules.map fun m => m.display ++ "\n\n")

def answer (options : Options) (r : Registry World) : Except RunFault String :=
  match options.lookup with
  | some opcode => lookupLine r opcode
  | none => (select r options.moduleName).map listing

/-- The report on arguments at fault. The argument and the text behind it are freed of terminal
control one by one, because emphasis around the argument ends any sequence in it. -/
def complaint (text : FaultText) : Report :=
  let behind := text.behind ++ "\n\nFor more information, try '"
  ⟨2, "", s!"error: {text.ahead}{Text.plain text.argument}{Text.plain behind}--help'.\n"⟩

def run (arguments : List String) (logLevel? : Option String) : Report :=
  match Options.read arguments with
  | .error .help => ⟨0, help, ""⟩
  | .error (.fault fault) => complaint fault.text
  | .ok options =>
    let built := World.build.run
    let shown? :=
      match logLevel? with
      | some name => shownLevel? name
      | none => some (if options.verbose then .debug else .warn)
    let log := journal shown? built.events
    match built.value.mapError RunFault.table >>= answer options with
    | .ok output => ⟨0, output, log⟩
    | .error fault => ⟨1, "", s!"{log}Error: {fault.message}\n"⟩

end OpcodeBinding.CommandLine
