import OpcodeBinding.Opcode

/-! The options of the reference tool, and the ways in which arguments fail to be options. -/
namespace OpcodeBinding.CommandLine

inductive Flag where
  | moduleName
  | lookup
  | verbose
  | help
  deriving DecidableEq, Repr

namespace Flag

def all : List Flag := [.moduleName, .lookup, .verbose, .help]

def longName : Flag → String
  | .moduleName => "module"
  | .lookup => "lookup"
  | .verbose => "verbose"
  | .help => "help"

def shortName : Flag → Char
  | .moduleName => 'm'
  | .lookup => 'l'
  | .verbose => 'v'
  | .help => 'h'

def takesValue : Flag → Bool
  | .moduleName | .lookup => true
  | .verbose | .help => false

def usage (flag : Flag) : String :=
  if flag.takesValue then s!"--{flag.longName} <{flag.longName.map Char.toUpper}>"
  else s!"--{flag.longName}"

end Flag

inductive UsageFault where
  | invalidValue (value : String) (reason : SpellingFault)
  | missingValue (flag : Flag)
  | usedTwice (flag : Flag)
  /-- With a flag of nearly the same name, and the flags to show on the usage line. -/
  | unexpectedArgument (argument : String) (similar? : Option Flag) (used : List Flag)
  /-- With the flags that took effect before. -/
  | unexpectedValue (flag : Flag) (value : String) (used : List Flag)
  deriving DecidableEq, Repr

structure FaultText where
  ahead : String
  argument : String := ""
  behind : String := ""
  deriving DecidableEq, Repr

namespace UsageFault

def usageLine (arguments : List String) : String :=
  "\n\nUsage: opcode-reference " ++ " ".intercalate arguments

def shownFlags (used : List Flag) : List String :=
  if used.isEmpty then ["[OPTIONS]"] else used.map Flag.usage

def choice : String :=
  "<" ++ "|".intercalate ((Flag.all.filter (· != .help)).map Flag.usage) ++ ">"

/-- A flag that took no effect is shown alone. Beside flags that did, it is one of the choice. -/
def shownBeside (flag : Flag) (used : List Flag) : List String :=
  if used.isEmpty then [flag.usage]
  else if flag = .help then [flag.usage, choice]
  else [choice]

def text : UsageFault → FaultText
  | .invalidValue value reason =>
    ⟨"invalid value '", value, s!"' for '{Flag.lookup.usage}': {reason.message}"⟩
  | .missingValue flag =>
    { ahead := s!"a value is required for '{flag.usage}' but none was supplied" }
  | .usedTwice flag =>
    let usage := usageLine (shownFlags [])
    { ahead := s!"the argument '{flag.usage}' cannot be used multiple times{usage}" }
  | .unexpectedArgument argument similar? used =>
    let tip :=
      match similar? with
      | none => ""
      | some flag => s!"\n\n  tip: a similar argument exists: '--{flag.longName}'"
    ⟨"unexpected argument '", argument, s!"' found{tip}{usageLine (shownFlags used)}"⟩
  | .unexpectedValue flag value used =>
    let usage := usageLine (shownBeside flag used)
    ⟨"unexpected value '", value,
      s!"' for '{flag.usage}' found; no more were expected{usage}"⟩

end UsageFault

inductive Stop where
  | help
  | fault (fault : UsageFault)
  deriving DecidableEq, Repr

structure Options where
  moduleName : Option String := none
  lookup : Option Opcode := none
  verbose : Bool := false
  deriving DecidableEq, Repr

/-- Arguments are read from left to right. A flag whose value may stand in the next argument is
pending, and takes effect when the next flag or the end is reached. -/
structure Reading where
  options : Options := {}
  /-- Flags that took effect, in order. -/
  used : List Flag := []
  pending : Option (Flag × Option String) := none

namespace Reading

def use (r : Reading) (flag : Flag) : Reading :=
  if r.used.contains flag then r else { r with used := r.used ++ [flag] }

/-- Lets a flag take effect. A missing value is reported before a second use, and a second use before
an invalid value. -/
def apply (r : Reading) (flag : Flag) (value? : Option String) : Except Stop Reading :=
  if flag.takesValue && value?.isNone then .error (.fault (.missingValue flag))
  else if r.used.contains flag then .error (.fault (.usedTwice flag))
  else
    let r := r.use flag
    match flag, value?.getD "" with
    | .moduleName, name => .ok { r with options := { r.options with moduleName := some name } }
    | .lookup, value =>
      match Opcode.read value with
      | .ok opcode => .ok { r with options := { r.options with lookup := some opcode } }
      | .error reason => .error (.fault (.invalidValue value reason))
    | .verbose, _ => .ok { r with options := { r.options with verbose := true } }
    | .help, _ => .error .help

def settle (r : Reading) : Except Stop Reading :=
  match r.pending with
  | none => .ok r
  | some (flag, value?) => { r with pending := none }.apply flag value?

def unexpected (argument : String) : Except Stop Reading :=
  .error (.fault (.unexpectedArgument argument none []))

/-- A long flag of an unknown name. Beside it are shown the flags that took effect, the pending one
if it has a value, and one of nearly the same name. A flag that is pending for the second time is
not shown. -/
def unknownLong (r : Reading) (name : List Char) : Except Stop Reading :=
  let similar? := Text.likest? name (fun flag : Flag => flag.longName.toList) Flag.all
  let r :=
    match r.pending with
    | some (flag, some _) =>
      if r.used.contains flag then { r with used := r.used.erase flag } else r.use flag
    | _ => r
  let used := (similar?.elim r r.use).used
  .error (.fault (.unexpectedArgument (String.ofList ('-' :: '-' :: name)) similar? used))

def take (r : Reading) (flag : Flag) (value? : Option String) : Except Stop Reading := do
  let r ← r.settle
  if flag.takesValue && value?.isNone then pure { r with pending := some (flag, none) }
  else r.apply flag value?

def readLong (r : Reading) (body : List Char) : Except Stop Reading :=
  let name := body.takeWhile (· != '=')
  let value? :=
    match body.dropWhile (· != '=') with
    | [] => none
    | _ :: value => some (String.ofList value)
  match Flag.all.find? fun flag => flag.longName.toList == name with
  | none => r.unknownLong name
  | some flag =>
    match flag.takesValue, value? with
    | false, some value => .error (.fault (.unexpectedValue flag value r.used))
    | _, _ => r.take flag value?

/-- A cluster of short flags, without its dash. What follows a flag with a value is the value, with
or without an equals sign in front. -/
def readShort (r : Reading) : List Char → Except Stop Reading
  | [] => .ok r
  | c :: cs =>
    match Flag.all.find? fun flag => flag.shortName == c with
    | none => unexpected (String.ofList ['-', c])
    | some flag =>
      if flag.takesValue then
        match cs with
        | [] => r.take flag none
        | '=' :: value => r.take flag (some (String.ofList value))
        | value => r.take flag (some (String.ofList value))
      else do (← r.take flag none).readShort cs

/-- A single dash is a value, and nothing but values may follow two. -/
def readAll (r : Reading) : List String → Except Stop Reading
  | [] => r.settle
  | argument :: rest =>
    match argument.toList with
    | ['-', '-'] =>
      match rest with
      | [] => r.settle
      | extra :: _ => unexpected extra
    | '-' :: '-' :: body => do (← r.readLong body).readAll rest
    | '-' :: c :: cs => do (← r.readShort (c :: cs)).readAll rest
    | _ =>
      match r.pending with
      | some (flag, none) => { r with pending := some (flag, some argument) }.readAll rest
      | _ => unexpected argument

end Reading

def Options.read (arguments : List String) : Except Stop Options :=
  (Reading.readAll {} arguments).map Reading.options

end OpcodeBinding.CommandLine
