-- What a pipeline of the commands that are always there replies with. Each stage is
-- a function from the bytes that it is given to bytes, and a pipeline is these
-- functions one after the other: neither the streams nor the exit codes in between
-- show. So `| echo` is no more than the bytes on one stream.
import ChatShell.Proofs.Replies
import ChatShell.Proofs.Running

namespace ChatShell

open Message (Instr Kind)
open Text (Bytes)

variable {σ : Type}

/-! ## What a stage gives -/

/-- The commands that are always there. -/
inductive Tool where
  | echo
  | cb

def Tool.name : Tool → String
  | .echo => "echo"
  | .cb => "cb"

/-- One of these commands and its arguments. -/
structure Pipeline.Stage where
  tool : Tool
  args : List String := []

/-- Stages with a `|` between each two. -/
structure Pipeline where
  first : Pipeline.Stage
  rest : List Pipeline.Stage := []

namespace Pipeline

def Stage.instr (s : Stage) (kind : Kind) : Instr := ⟨kind, s.tool.name :: s.args⟩

/-- What a stage gives for the bytes it is given, if it is given any. -/
def Stage.gives (s : Stage) (input : Option Bytes) : Bytes :=
  match s.tool with
  | .echo => input.getD (Text.encode (" ".intercalate s.args))
  | .cb =>
    match (codeBlockSpec.named "cb").parse s.args with
    | .failed message => Text.encode message
    | .help text | .version text => Text.encode text
    | .parsed m =>
      let language := (m.text? "language").getD ""
      let text :=
        match input with
        | some bytes => Text.decode bytes
        | none => (m.text? "text").getD ""
      Text.encode ("```" ++ language ++ "\n" ++ text ++ "```")

def instrs (p : Pipeline) : List Instr :=
  p.first.instr .eval :: p.rest.map fun s => s.instr .pipe

/-- What the stages give one after the other, from these bytes on. -/
def goesOn (stages : List Stage) (bytes : Bytes) : Bytes :=
  stages.foldl (fun given s => s.gives (some given)) bytes

/-- What the last stage gives. -/
def gives (p : Pipeline) : Bytes := goesOn p.rest (p.first.gives none)

end Pipeline

/-! ## One stage -/

/-- A stage writes what it gives, on one stream or the other. -/
theorem Pipeline.Stage.dialogue_eq (s : Pipeline.Stage) :
    ∃ command, Registry.builtin.get? s.tool.name = some command ∧
      ∀ input out, ∃ after, command.dialogue s.args input out = .done (after, none) ∧
        after.bytes = out.bytes ++ s.gives (input.map Output.bytes) := by
  obtain ⟨tool, args⟩ := s
  cases tool with
  | echo =>
    refine ⟨_, Registry.get?_builtin "echo", ?_⟩
    intro input out
    cases input with
    | none => exact ⟨_, rfl, Output.bytes_write _ _ _⟩
    | some content => exact ⟨_, rfl, Output.bytes_write _ _ _⟩
  | cb =>
    refine ⟨_, Registry.get?_builtin "cb", ?_⟩
    intro input out
    simp only [Command.dialogue, Registration.command, Registration.name, Option.map_some,
      Option.getD_none, cb, gives]
    cases (codeBlockSpec.named "cb").parse args with
    | failed message => exact ⟨_, rfl, Output.bytes_write _ _ _⟩
    | help text | version text => exact ⟨_, rfl, Output.bytes_write _ _ _⟩
    | parsed m =>
      cases input with
      | none => exact ⟨_, rfl, Output.bytes_write _ _ _⟩
      | some content => exact ⟨_, rfl, Output.bytes_write _ _ _⟩

/-- A stage is given the bytes of its input, and what it gives comes after what was left. -/
theorem Run.step_stage (c : Chat σ) (r : Run σ) (s : Pipeline.Stage) {kind : Kind}
    (hk : kind.isCommand) :
    ∃ out, r.step .builtin c (s.instr kind) = .ok { r with out, bound := none } ∧
      out.bytes = (r.out.left kind).bytes ++ s.gives ((r.input kind).map Output.bytes) := by
  obtain ⟨command, hget, hdialogue⟩ := s.dialogue_eq
  obtain ⟨out, hdone, hbytes⟩ := hdialogue (r.input kind) (r.out.left kind)
  have hcall := r.call?_of_contains hk (Registry.contains_of_get? hget) s.args
  refine ⟨out, ?_, hbytes⟩
  rw [Pipeline.Stage.instr, (step_of_call? hcall).2]
  unfold call
  dsimp only
  rw [hget]
  dsimp only
  rw [hdone]
  rfl

/-! ## A whole pipeline -/

/-- A stage that no attachment is left for is given what the stage before gave. -/
theorem Run.steps_piped (c : Chat σ) (stages : List Pipeline.Stage) {r : Run σ}
    (hbound : r.bound = none) :
    ∃ out, r.steps .builtin c (stages.map fun s => s.instr .pipe) = .ok { r with out } ∧
      out.bytes = Pipeline.goesOn stages r.out.bytes := by
  induction stages generalizing r with
  | nil => exact ⟨r.out, rfl, rfl⟩
  | cons s rest ih =>
    obtain ⟨out, hstep, hout⟩ := r.step_stage c s (rfl : Kind.pipe.isCommand)
    have hgiven : out.bytes = s.gives (some r.out.bytes) := by
      rw [hout, Output.left_pipe, input, if_pos rfl, hbound]
      rfl
    obtain ⟨last, hrest, hlast⟩ := ih (r := { r with out, bound := none }) rfl
    refine ⟨last, ?_, ?_⟩
    · unfold steps at hrest ⊢
      rw [List.map_cons, List.foldlM_cons, hstep]
      rw [← hbound] at hrest ⊢
      exact hrest
    · rw [hlast, hgiven]
      rfl

theorem Pipeline.steps_instrs (c : Chat σ) (chat : σ) (p : Pipeline) :
    ∃ out, Run.steps .builtin c { chat } p.instrs = .ok { chat, out } ∧ out.bytes = p.gives := by
  obtain ⟨out, hstep, hout⟩ := Run.step_stage c { chat } p.first (rfl : Kind.eval.isCommand)
  have hgiven : out.bytes = p.first.gives none := hout
  obtain ⟨last, hrest, hlast⟩ := Run.steps_piped c p.rest (r := { chat, out }) rfl
  refine ⟨last, ?_, ?_⟩
  · unfold Run.steps at hrest ⊢
    rw [instrs, List.foldlM_cons, hstep]
    exact hrest
  · rw [hlast, hgiven]
    rfl

theorem Pipeline.goesOn_append (before after : List Stage) (bytes : Bytes) :
    goesOn (before ++ after) bytes = goesOn after (goesOn before bytes) :=
  List.foldl_append

/-- A pipeline replies with what its last stage gives, each stage being given what the one before
gave and the first nothing. Which streams the stages write to and which exit codes they set does not
show, so where the arguments of `cb` do not fit, the pipeline goes on with the complaint in place of
what was piped. -/
theorem a_pipeline_replies_with_what_its_last_stage_gives (style : ReplyStyle) (c : Chat σ)
    (chat : σ) (p : Pipeline) :
    interpret .builtin style c chat p.instrs =
        c.replied ⟨some (style.render (c.limit chat) (.ofBytes p.gives)), []⟩ chat ∧
      ∀ before args after message, p.rest = before ++ ⟨.cb, args⟩ :: after →
        (codeBlockSpec.named "cb").parse args = .failed message →
        p.gives = Pipeline.goesOn after (Text.encode message) := by
  constructor
  · obtain ⟨out, hsteps, hout⟩ := p.steps_instrs c chat
    have hbytes : out.bytes = (Output.ofBytes p.gives).bytes := by
      rw [hout, Output.bytes_ofBytes]
    rw [interpret_of_steps hsteps, style.render_of_bytes hbytes]
  · intro before args after message hrest hfailed
    rw [Pipeline.gives, hrest, Pipeline.goesOn_append]
    have hgives : ∀ input, Pipeline.Stage.gives ⟨.cb, args⟩ input = Text.encode message := by
      intro input
      simp only [Pipeline.Stage.gives, hfailed]
    exact congrArg (Pipeline.goesOn after) (hgives _)

/-- In `echo a | cb x y | cb -l md` the second stage has an argument too many. -/
theorem a_complaint_goes_on_in_the_pipeline :
    let p : Pipeline := ⟨⟨.echo, ["a"]⟩, [⟨.cb, ["x", "y"]⟩, ⟨.cb, ["-l", "md"]⟩]⟩
    ∃ complaint, (codeBlockSpec.named "cb").parse ["x", "y"] = .failed complaint ∧
      (interpret .builtin {} Mailbox.chat {} p.instrs).1.sent =
        [⟨some (firstChars defaultLimit (codeBlock "md" complaint)), []⟩] := by
  intro p
  obtain ⟨complaint, hfailed⟩ :
      ∃ complaint, (codeBlockSpec.named "cb").parse ["x", "y"] = .failed complaint := ⟨_, rfl⟩
  obtain ⟨m, hparsed, hlanguage⟩ : ∃ m, (codeBlockSpec.named "cb").parse ["-l", "md"] = .parsed m ∧
      m.text? "language" = some "md" := ⟨_, rfl, rfl⟩
  obtain ⟨hreply, hgoesOn⟩ :=
    a_pipeline_replies_with_what_its_last_stage_gives {} Mailbox.chat {} p
  have hgives : p.gives = Text.encode (codeBlock "md" complaint) := by
    rw [hgoesOn [] _ [⟨.cb, ["-l", "md"]⟩] _ rfl hfailed]
    simp only [Pipeline.goesOn, List.foldl_cons, List.foldl_nil, Pipeline.Stage.gives, hparsed,
      hlanguage, Text.decode_encode]
    rfl
  rw [Text.encode_eq_toUTF8, ← Output.bytes_ofBytes p.gives] at hgives
  refine ⟨complaint, hfailed, ?_⟩
  rw [hreply, ReplyStyle.render_of_toUTF8 hgives (by simp [codeBlock])]
  rfl

/-! ## A pipe into `echo` -/

section Echo

variable {g : Registry} {c : Chat σ} {r : Run σ} {command : Command}

/-- A pipe into `echo` puts all bytes on standard output. -/
theorem Run.step_pipe_echo (hget : g.get? "echo" = some command) (hspec : command.spec = none)
    (hecho : command.handler = echo) (hbound : r.bound = none) (args : List String) :
    r.step g c ⟨.pipe, "echo" :: args⟩ = .ok { r with out := .ofBytes r.out.bytes } := by
  have hinput : r.input .pipe = some r.out := by
    rw [input, if_pos rfl, hbound]
    rfl
  have hdone : command.dialogue args (some r.out) {} = .done (.ofBytes r.out.bytes, none) := by
    rw [Command.dialogue, hspec, hecho]
    rfl
  unfold step
  dsimp only
  unfold call
  rw [hinput, hget]
  dsimp only
  rw [hdone, Dialogue.run_done, hbound]

theorem Output.bytesOf_ofBytes (bytes : Bytes) : (ofBytes bytes).bytesOf .out = bytes := by
  rw [ofBytes, bytesOf_write, if_pos rfl]
  rfl

theorem Output.drop_ofBytes (bytes : Bytes) : (ofBytes bytes).drop .out = {} := rfl

/-- A pipe into `echo` at the end of a run that has no attachment left changes nothing in the reply,
whatever the commands before have done, and the file that `1>` makes after it is the one that `>`
makes without it: both streams have become one. -/
theorem a_pipe_into_echo_joins_the_streams (style : ReplyStyle) {chat : σ} {is : List Instr}
    {last : Run σ} (hget : g.get? "echo" = some command) (hspec : command.spec = none)
    (hecho : command.handler = echo) (h : Run.steps g c { chat } is = .ok last)
    (hbound : last.bound = none) (args : List String) (name : String) :
    (∃ reply, interpret g style c chat is = c.replied reply last.chat ∧
      interpret g style c chat (is ++ [⟨.pipe, "echo" :: args⟩]) = c.replied reply last.chat) ∧
    ∃ reply, interpret g style c chat (is ++ [⟨.save, [name]⟩]) = c.replied reply last.chat ∧
      interpret g style c chat (is ++ [⟨.pipe, "echo" :: args⟩, ⟨.saveOut, [name]⟩]) =
        c.replied reply last.chat := by
  have hpiped := Run.steps_snoc_ok h (Run.step_pipe_echo hget hspec hecho hbound args)
  constructor
  · refine ⟨_, interpret_of_steps h style, ?_⟩
    rw [interpret_of_steps hpiped, style.render_of_bytes (Output.bytes_ofBytes _)]
  · have hsaved : Run.steps g c { chat } (is ++ [⟨.save, [name]⟩]) =
        .ok (last.save name last.out.takeAll) := Run.steps_snoc_ok h rfl
    have hpipedSaved : Run.steps g c { chat }
        (is ++ [⟨.pipe, "echo" :: args⟩, ⟨.saveOut, [name]⟩]) =
          .ok (last.save name ((Output.ofBytes last.out.bytes).take .out)) := by
      rw [← List.singleton_append, ← List.append_assoc]
      exact Run.steps_snoc_ok hpiped rfl
    have hfile : ((Output.ofBytes last.out.bytes).take .out).1 = last.out.takeAll.1 :=
      Output.bytesOf_ofBytes last.out.bytes
    have hleft : ((Output.ofBytes last.out.bytes).take .out).2.bytes = last.out.takeAll.2.bytes := by
      rw [Output.take, Output.drop_ofBytes]
      rfl
    refine ⟨_, interpret_of_steps hsaved style, ?_⟩
    rw [interpret_of_steps hpipedSaved]
    simp only [Run.save, hfile, style.render_of_bytes hleft]

/-- Writes one byte of `é` to each stream, and a byte that is no character after them. -/
def halves : Handler where
  name := "halves"
  run _ _ out := .done ((out.write .out [0x68, 0xC3]).write .err [0xA9, 0xFF], none)

theorem halves_of_a_character_meet_in_a_pipe :
    let sent := fun is =>
      (interpret (Registry.builtin.register { handler := halves }) {} Mailbox.chat {} is).1.sent
    sent [⟨.eval, ["halves"]⟩, ⟨.pipe, ["echo", "x"]⟩] = [⟨some "hé\uFFFD", []⟩] ∧
      sent [⟨.eval, ["halves"]⟩, ⟨.pipe, ["echo", "x"]⟩, ⟨.saveOut, ["f"]⟩] =
        [⟨some "** **", [⟨"f", [0x68, 0xC3, 0xA9, 0xFF]⟩]⟩] := by
  intro sent
  have hlast : Run.steps (Registry.builtin.register { handler := halves }) Mailbox.chat
      { chat := {} } [⟨.eval, ["halves"]⟩] = .ok _ := rfl
  obtain ⟨⟨reply, hplain, hpiped⟩, saved, hsaved, hpipedSaved⟩ :=
    a_pipe_into_echo_joins_the_streams {} (Registry.get?_register _ _ "echo") rfl rfl hlast rfl
      ["x"] "f"
  constructor
  · have hsent : sent [⟨.eval, ["halves"]⟩] = [⟨some "hé\uFFFD", []⟩] := by decide +kernel
    rw [← hsent]
    exact congrArg (·.1.sent) (hpiped.trans hplain.symm)
  · have hsent : sent [⟨.eval, ["halves"]⟩, ⟨.save, ["f"]⟩] =
        [⟨some "** **", [⟨"f", [0x68, 0xC3, 0xA9, 0xFF]⟩]⟩] := by decide +kernel
    rw [← hsent]
    exact congrArg (·.1.sent) (hpipedSaved.trans hsaved.symm)

end Echo

end ChatShell
