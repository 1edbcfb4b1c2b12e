-- The commands a shell knows. A command is registered under a name of its own
-- choice or its handler's; a later one takes the place of an earlier one of the
-- same name, and a specification always goes by the name it is registered under.
import ChatShell.Command.Builtin
import ChatShell.NameMap

namespace ChatShell

/-- Commands under their names. -/
structure Registry where
  commands : NameMap Command := .empty

/-- A wish to register a handler. -/
structure Registration where
  /-- The name to register under, if it is not the handler's own. -/
  under : Option String := none
  spec : Option Args.Spec := none
  handler : Handler

/-- The name the handler is registered under. -/
def Registration.name (r : Registration) : String := r.under.getD r.handler.name

/-- The command that a registration makes. -/
def Registration.command (r : Registration) : Command where
  name := r.name
  spec := r.spec.map fun s => s.named r.name
  handler := r.handler

namespace Registry

/-- Registers a handler. -/
def register (g : Registry) (r : Registration) : Registry :=
  ⟨g.commands.insert r.name r.command⟩

/-- Registers handlers one after the other. -/
def registerAll (g : Registry) (rs : List Registration) : Registry := rs.foldl register g

/-- The registry with `echo` and `cb`. -/
def builtin : Registry :=
  registerAll {} [{ handler := echo }, { handler := cb, spec := some codeBlockSpec }]

/-- The command under a name. -/
def get? (g : Registry) (name : String) : Option Command := g.commands.get? name

/-- There is a command under the name. -/
def contains (g : Registry) (name : String) : Bool := g.commands.contains name

/-- The names, in byte order. -/
def names (g : Registry) : List String := g.commands.names

/-- The number of commands. -/
def size (g : Registry) : Nat := g.commands.size

/-- There is no command. -/
def isEmpty (g : Registry) : Bool := g.commands.isEmpty

/-! ## What is found -/

/-- What was registered is found, and all else is as before. -/
theorem get?_register (g : Registry) (r : Registration) (name : String) :
    (g.register r).get? name = if name = r.name then some r.command else g.get? name := by
  unfold register get?
  by_cases hn : name = r.name
  · rw [if_pos hn, hn, NameMap.get?_insert_self]
  · rw [if_neg hn, NameMap.get?_insert_of_ne _ hn]

/-- `echo` and `cb` are always there, and nothing else. -/
theorem get?_builtin (name : String) :
    builtin.get? name =
      if name = "cb" then some (Registration.command { handler := cb, spec := some codeBlockSpec })
      else if name = "echo" then some (Registration.command { handler := echo })
      else none := by
  unfold builtin registerAll
  rw [List.foldl_cons, List.foldl_cons, List.foldl_nil, get?_register, get?_register]
  rfl

/-- A registry on one line. -/
def render (g : Registry) : String :=
  "CommandRegistry \x7b commands: " ++ Text.quotedList g.names ++ " \x7d"

end Registry

end ChatShell
