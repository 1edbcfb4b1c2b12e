-- What can be wrong with given arguments, and the message for each case.
import ChatShell.Args.Usage

namespace ChatShell.Args

open Text (Styled)

/-- A hint that goes with an unexpected argument. -/
inductive Tip where
  /-- This long name was perhaps meant. -/
  | similar (long : String)
  /-- The argument can be passed after `--`. -/
  | escape
  deriving DecidableEq

/-- What is wrong with the given arguments. -/
inductive Fault where
  /-- No argument fits the text. -/
  | unexpected (text : String) (tip : Option Tip) (used : InUse)
  /-- A flag came with a value. -/
  | unneeded (arg : Arg) (value : String) (used : InUse)
  /-- An option came without its value. -/
  | valueRequired (arg : Arg)
  /-- The value does not suit. -/
  | invalid (arg : Arg) (value reason : String)
  /-- The argument was given again. -/
  | repeated (arg : Arg)
  /-- Two arguments exclude each other. -/
  | excluded (first second : Arg) (used : InUse)
  /-- Required arguments are missing. -/
  | missing (args : List Arg) (used : InUse)

/-- The paragraph of a hint about the given text. -/
def Tip.paragraph (text : String) : Tip → Styled
  | .similar long =>
    [.plain "  ", .strong "tip:", .plain " a similar argument exists: '", .strong ("--" ++ long),
      .plain "'"]
  | .escape =>
    [.plain "  ", .strong "tip:", .plain " to pass '", .strong text, .plain "' as a value, use '",
      .strong ("-- " ++ text), .plain "'"]

/-- The paragraphs of the message, the closing one apart. -/
def Fault.paragraphs (s : Spec) : Fault → List Styled
  | .unexpected text tip used =>
    [[.plain "unexpected argument '", .strong text, .plain "' found"]] ++
      (tip.map (Tip.paragraph text)).toList ++ [s.usage used]
  | .unneeded arg value used =>
    [[.plain "unexpected value '", .strong value, .plain "' for '", .strong arg.display,
      .plain "' found; no more were expected"], s.usage used]
  | .valueRequired arg =>
    [[.plain "a value is required for '", .strong arg.display,
      .plain "' but none was supplied"]]
  | .invalid arg value reason =>
    [[.plain "invalid value '", .strong value, .plain "' for '", .strong arg.display,
      .plain ("': " ++ reason)]]
  | .repeated arg =>
    [[.plain "the argument '", .strong arg.display, .plain "' cannot be used multiple times"],
      s.usage {}]
  | .excluded first second used =>
    [[.plain "the argument '", .strong first.display, .plain "' cannot be used with '",
      .strong second.display, .plain "'"], s.usage used]
  | .missing args used =>
    [[.plain "the following required arguments were not provided:"] ++
      args.flatMap (fun a => [.plain "\n  ", .strong (Styled.shown (a.styled args))]),
      s.usage used]

/-- The paragraph that every message ends with. -/
def closing : Styled :=
  [.plain "For more information, try '", .strong "--help", .plain "'.\n"]

/-- The whole message. -/
def Fault.message (s : Spec) (f : Fault) : String :=
  Styled.shown ([.strong "error:", .plain " "] ++
    Styled.joined "\n\n" (f.paragraphs s ++ [closing]))

end ChatShell.Args
