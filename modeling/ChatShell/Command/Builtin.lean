-- The commands that are always there: `echo` prints its arguments or passes its
-- input on, `cb` puts text in a code block.
import ChatShell.Command.Basic

namespace ChatShell

/-- Writes the bytes of its input, or its arguments with a space between them, as one chunk. -/
def echo : Handler where
  name := "echo"
  description := some "Print arguments to standard output"
  run args input out :=
    match input with
    | some content => .done (out.write .out content.bytes, none)
    | none => .done (out.writeText .out (" ".intercalate args.raw), none)

/-- The line around a code block. -/
def fence : String := "```"

/-- The text of a code block. -/
def codeBlock (language text : String) : String := fence ++ language ++ "\n" ++ text ++ fence

/-- The arguments of `cb`. -/
def codeBlockSpec : Args.Spec where
  about := "puts text within a codeblock"
  args :=
    [{ id := "text", valueName := some "TEXT", help := "text" },
     { id := "language", short := some 'l', long := some "language", valueName := some "LANG",
       help := "highlight language" }]

/-- Writes its input as text, or its argument, in a code block. -/
def cb : Handler where
  name := "cb"
  run args input out :=
    let language := (args.text? "language").getD ""
    let text :=
      match input with
      | some content => content.text
      | none => (args.text? "text").getD ""
    .done (out.writeText .out (codeBlock language text), none)

end ChatShell
