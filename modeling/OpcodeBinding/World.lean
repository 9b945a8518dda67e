import OpcodeBinding.Registry

/-! A small game world, the native functions that act on it, and the modules that give scripts access to
them. -/
namespace OpcodeBinding

/-- Objects are kept by their models, in order of creation. -/
structure World where
  hour : Int := 0
  minute : Int := 0
  weather : Int32 := 0
  objects : List Int32 := []
  deriving DecidableEq, Repr, Inhabited

namespace World

/-- The clock wraps around in either direction, and a missing or foreign operand counts as zero. -/
def setTime : Callback World := .change fun instruction world =>
  let operand position := ((instruction.integer? position).getD 0).toInt
  { world with hour := operand 0 % 24, minute := operand 1 % 60 }

def getTime : Callback World := .effect fun _ world =>
  let note : Note :=
    { level := .info
      source := "opcode_reference::demo"
      message := "time of day"
      fields := [("hour", toString world.hour), ("minute", toString world.minute)] }
  ⟨(), world, [note]⟩

def setWeather : Callback World := .change fun instruction world =>
  { world with weather := (instruction.integer? 0).getD 0 }

def createObject : Callback World := .change fun instruction world =>
  match instruction.integer? 0 with
  | some model => { world with objects := world.objects ++ [model] }
  | none => world

def destroyObject : Callback World := .change fun instruction world =>
  match instruction.integer? 0 with
  | some model => { world with objects := world.objects.filter (· != model) }
  | none => world

def objectExists : Callback World := .test fun instruction world =>
  (instruction.integer? 0).any world.objects.contains

def isRaining : Callback World := .test fun _ world => world.weather == 1 || world.weather == 2

end World

inductive Command where
  | setTime
  | getTime
  | setWeather
  | createObject
  | destroyObject
  | objectExists
  | isRaining
  deriving DecidableEq, Repr

namespace Command

def all : List Command :=
  [.setTime, .getTime, .setWeather, .createObject, .destroyObject, .objectExists, .isRaining]

def opcode : Command → Opcode
  | .setTime => ⟨0x0005⟩
  | .getTime => ⟨0x00BF⟩
  | .setWeather => ⟨0x01B5⟩
  | .createObject => ⟨0x0107⟩
  | .destroyObject => ⟨0x0108⟩
  | .objectExists => ⟨0x03CA⟩
  | .isRaining => ⟨0x0020⟩

def ofOpcode? (opcode : Opcode) : Option Command :=
  all.find? fun command => command.opcode == opcode

def mnemonic : Command → String
  | .setTime => "SetTime"
  | .getTime => "GetTime"
  | .setWeather => "SetWeather"
  | .createObject => "CreateObject"
  | .destroyObject => "DestroyObject"
  | .objectExists => "ObjectExists"
  | .isRaining => "IsRaining"

/-- An object is created with a model and three coordinates, which the world does not keep. -/
def argumentCount : Command → Nat
  | .setTime => 2
  | .getTime => 0
  | .setWeather => 1
  | .createObject => 4
  | .destroyObject => 1
  | .objectExists => 1
  | .isRaining => 0

def callback : Command → Callback World
  | .setTime => World.setTime
  | .getTime => World.getTime
  | .setWeather => World.setWeather
  | .createObject => World.createObject
  | .destroyObject => World.destroyObject
  | .objectExists => World.objectExists
  | .isRaining => World.isRaining

def binding (command : Command) : Opcode × Binding World :=
  (command.opcode, ⟨command.argumentCount, command.callback, some command.mnemonic⟩)

end Command

namespace World

def bindCommands (m : Module World) (commands : List Command) : Build (Module World) :=
  m.bindAll (commands.map Command.binding)

def environment : Build (Module World) :=
  bindCommands ((Module.empty "Environment").reserve 3) [.setTime, .getTime, .setWeather]

def objectModule : Build (Module World) :=
  bindCommands ((Module.empty "Objects").reserve 3) [.createObject, .destroyObject, .objectExists]

def weatherModule : Build (Module World) := bindCommands (Module.empty "Weather") [.isRaining]

def build : Build (Registry World) := do
  let r ← Registry.empty.install (← environment)
  let r ← r.install (← objectModule)
  r.install (← weatherModule)

def registry : Registry World := build.run.value.toOption.getD .empty

end World

end OpcodeBinding
