-- What arguments a command takes: options with a value, flags, and plain
-- arguments known by their place. Every specification ends with a help flag of
-- its own, and may have a version flag after it.

namespace ChatShell.Args

/-- What happens when an argument is given. -/
inductive Action where
  /-- It is noted that the flag was given. -/
  | flag
  /-- The value is kept; it may be given once. -/
  | value
  /-- Every value is kept, in order. -/
  | values
  /-- The help text is wanted. -/
  | help
  /-- The version is wanted. -/
  | version
  deriving DecidableEq

/-- Why a value does not suit its argument. -/
inductive ValueFault where
  /-- An empty value counts as none. -/
  | empty
  /-- The reason in words. -/
  | because (reason : String)
  deriving DecidableEq

/-- One argument. -/
structure Arg where
  /-- The name its value is asked for by. -/
  id : String
  short : Option Char := none
  long : Option String := none
  /-- What stands for the value in texts, if it is not the name. -/
  valueName : Option String := none
  help : String := ""
  required : Bool := false
  action : Action := .value
  /-- What is wrong with a value, if anything. -/
  check : String → Option ValueFault := fun _ => none

/-- The argument is known by its place. -/
def Arg.isPositional (a : Arg) : Bool := a.short.isNone && a.long.isNone

/-- The argument comes with a value. -/
def Arg.takesValue (a : Arg) : Bool := a.action == .value || a.action == .values

/-- What stands for the value in texts. -/
def Arg.placeholder (a : Arg) : String := a.valueName.getD a.id

/-- How an option or flag is given: by its long name if it has one. -/
def Arg.switch (a : Arg) : String :=
  match a.long, a.short with
  | some long, _ => "--" ++ long
  | none, some short => "-" ++ String.singleton short
  | none, none => ""

/-- What follows the switch: a blank and what stands for the value, if there is one. -/
def Arg.suffix (a : Arg) : String := if a.takesValue then " <" ++ a.placeholder ++ ">" else ""

/-- What arguments a command takes, and what it is about. -/
structure Spec where
  /-- The name of the command in usage lines. -/
  name : String := "command"
  about : String
  /-- The command's own arguments, in order. -/
  args : List Arg := []
  /-- The version, for a command that tells it. -/
  version : Option String := none
  /-- Pairs of arguments that exclude each other. -/
  conflicts : List (String × String) := []
  /-- The command's own arguments form a group, which can be named as a whole. -/
  grouped : Bool := false

/-- The help flag. -/
def helpFlag : Arg :=
  { id := "help", short := some 'h', long := some "help", help := "Print help", action := .help }

/-- The version flag. -/
def versionFlag : Arg :=
  { id := "version", short := some 'V', long := some "version", help := "Print version",
    action := .version }

namespace Spec

/-- The same specification under another name. -/
def named (s : Spec) (name : String) : Spec := { s with name }

/-- All arguments, the help and version flags last. -/
def all (s : Spec) : List Arg :=
  s.args ++ [helpFlag] ++ (if s.version.isSome then [versionFlag] else [])

/-- The arguments known by their place, in order. -/
def positionals (s : Spec) : List Arg := s.all.filter Arg.isPositional

/-- The options and flags. -/
def switches (s : Spec) : List Arg := s.all.filter fun a => !a.isPositional

/-- The argument with the given long name. -/
def long? (s : Spec) (name : String) : Option Arg := s.all.find? fun a => a.long == some name

/-- The argument with the given short name. -/
def short? (s : Spec) (c : Char) : Option Arg := s.all.find? fun a => a.short == some c

/-- The two arguments exclude each other. -/
def excludes (s : Spec) (a b : Arg) : Bool :=
  s.conflicts.any fun p => (p.1 == a.id && p.2 == b.id) || (p.1 == b.id && p.2 == a.id)

end Spec

end ChatShell.Args
