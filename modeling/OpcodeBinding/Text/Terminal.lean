/-! Texts without terminal control. A terminal takes control sequences for itself, and so does the
reader here; what an unfinished sequence swallows is lost. -/
namespace OpcodeBinding.Text

inductive Control where
  | outside
  | escaped
  /-- Behind an escape with a blank or punctuation. -/
  | escapedFurther
  /-- Behind an opening bracket and parameters. -/
  | bracketed
  /-- At the start of a device command. -/
  | command
  | commandParameters
  | commandFurther
  /-- In a command for the operating system, which a bell ends. -/
  | system
  /-- In a string, which a string terminator ends. -/
  | string
  deriving DecidableEq, Repr

def isLayout (c : Char) : Bool := c == '\t' || c == '\n' || c == '\x0c' || c == '\r'

def isShown (c : Char) : Bool := isLayout c || (0x20 ≤ c.toNat && c.toNat != 0x7F)

/-- The string terminator is one byte, found also in the encoding of other characters. -/
def holdsTerminator (c : Char) : Bool := (String.utf8EncodeChar c).contains 0x9C

namespace Control

def shows (c : Char) : Control → Bool
  | .outside => isShown c
  | .escaped | .escapedFurther | .bracketed => isLayout c
  | .command | .commandParameters | .commandFurther | .system | .string => false

/-- The place behind a character that is not shown. Cancel and substitute end any sequence, and an
escape starts a new one. -/
def next (place : Control) (c : Char) : Control :=
  let n := c.toNat
  let isAscii := 0x20 ≤ n && n < 0x7F
  if n = 0x18 ∨ n = 0x1A then .outside
  else if c = '\x1b' then .escaped
  else
    match place with
    | .outside => .outside
    | .escaped =>
      if !isAscii then .escaped
      else if n < 0x30 then .escapedFurther
      else if c = '[' then .bracketed
      else if c = ']' then .system
      else if c = 'P' then .command
      else if c = 'X' ∨ c = '^' ∨ c = '_' then .string
      else .outside
    | .escapedFurther => if isAscii && 0x30 ≤ n then .outside else .escapedFurther
    | .bracketed => if isAscii && 0x40 ≤ n then .outside else .bracketed
    | .command =>
      if !isAscii then .command
      else if n < 0x30 then .commandFurther
      else if n < 0x40 then .commandParameters
      else .string
    | .commandParameters =>
      if !isAscii then .commandParameters
      else if n < 0x30 then .commandFurther
      else if n < 0x3C then .commandParameters
      else .string
    | .commandFurther => if isAscii && 0x30 ≤ n then .string else .commandFurther
    | .system => if c = '\x07' then .outside else .system
    | .string => if holdsTerminator c then .outside else .string

/-- Drops control sequences and control characters, and keeps white space. While characters are
`showing`, none of them is taken for a part of a sequence. A sequence with white space in it is
resumed at the next control character, if nothing beyond ASCII was shown meanwhile. -/
def strip (place : Control) (showing : Bool) : List Char → List Char
  | [] => []
  | c :: cs =>
    if (showing && isShown c) || place.shows c then
      c :: strip (if c.toNat < 0x80 then place else .outside) true cs
    else strip (place.next c) false cs

end Control

def plain (text : String) : String :=
  String.ofList (Control.strip .outside false text.toList)

end OpcodeBinding.Text
