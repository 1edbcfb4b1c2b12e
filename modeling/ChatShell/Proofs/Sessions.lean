-- The lines of a session. A message leaves a session as it found it, so what a line
-- gives depends on the lines before only through the orders among them: whether
-- tokens are shown.
import ChatShell.Console.Session
import ChatShell.Proofs.Chats
import Mathlib.Algebra.Ring.Parity
import Mathlib.Data.List.DropRight

namespace ChatShell

/-! ## The first word of a line -/

namespace Text

theorem dropBlanks_trim (s : String) : dropBlanks (trim s).toList = (trim s).toList := by
  have hprefix : (trim s).toList <+: dropBlanks s.toList := by
    unfold trim
    rw [String.toList_ofList]
    exact List.rdropWhile_prefix isBlank _
  obtain ⟨rest, hrest⟩ := hprefix
  unfold dropBlanks at hrest ⊢
  have hfirst := List.head?_dropWhile_not isBlank s.toList
  rw [← hrest] at hfirst
  cases ht : (trim s).toList with
  | nil => rfl
  | cons c more =>
    rw [ht, List.cons_append, List.head?_cons] at hfirst
    have hc : ¬isBlank c = true := by simpa using hfirst
    rw [List.dropWhile_cons_of_neg hc]

/-- A trimmed text begins as its first word does. -/
theorem beginsWith_of_firstWord {s : String} {c : Char}
    (h : beginsWith (firstWord (trim s)) c = true) : beginsWith (trim s) c = true := by
  unfold beginsWith firstWord at *
  rw [dropBlanks_trim, String.toList_ofList] at h
  cases ht : (trim s).toList with
  | nil => simp [ht] at h
  | cons d more =>
    rw [ht, List.takeWhile_cons] at h
    split_ifs at h
    · simpa using h
    · simp at h

end Text

namespace Console

/-! ## A message at a terminal -/

variable {sh : Shell} {disk : Disk} {t : Terminal}

/-- Only a request to send changes a terminal. -/
theorem Terminal.answer_of_not_send {q : Request} (hq : ¬q.IsSend) (t : Terminal) :
    ((Terminal.chat disk).answer t q).2 = t := by
  cases q with
  | attachments | limit => rfl
  | fetch path =>
    simp only [Chat.answer, Terminal.chat]
    cases disk path <;> rfl
  | send reply => exact absurd trivial hq

/-- A message puts one reply in the outbox, or fails and leaves the terminal as it was. -/
theorem execute_terminal (hs : sh.registry.Avoids Request.IsSend) (disk : Disk) (t : Terminal)
    (text : String) :
    (∃ reply, sh.execute (Terminal.chat disk) t text =
        ({ t with outbox := t.outbox ++ [reply] }, .ok ())) ∨
      ∃ e, sh.execute (Terminal.chat disk) t text = (t, .error e) := by
  unfold Shell.execute
  cases sh.compile text with
  | error e => exact Or.inr ⟨_, rfl⟩
  | ok is =>
    have hkept : Run.chatOf (Run.steps sh.registry (Terminal.chat disk) { chat := t } is) = t :=
      Run.steps_keeps (P := fun k => k = t) hs
        (fun q k hq hk => (Terminal.answer_of_not_send hq k).trans hk) (fun _ => not_false) rfl is
    dsimp only
    unfold interpret
    cases hr : Run.steps sh.registry (Terminal.chat disk) { chat := t } is with
    | error a =>
      rw [hr] at hkept
      refine Or.inr ⟨a.error, ?_⟩
      rw [← hkept]
      rfl
    | ok r =>
      rw [hr] at hkept
      refine Or.inl ⟨t.render ⟨some (sh.config.render t.limit r.out), r.files⟩, ?_⟩
      rw [← hkept]
      rfl

theorem inspect_eq_error_iff {text : String} {e : Message.SourceError} :
    sh.inspect text = .error e ↔ sh.compile text = .error e := by
  unfold Shell.inspect Shell.compile Shell.tokenize Message.compile
  cases Message.tokenize text sh.config.lookup with
  | error d => simp
  | ok tokens =>
    cases hp : Message.parse tokens <;> simp [hp]

theorem execute_of_compile_error {text : String} {e : Message.SourceError}
    (h : sh.compile text = .error e) (c : Chat Terminal) (t : Terminal) :
    sh.execute c t text = (t, .error (.source e)) := by
  unfold Shell.execute
  rw [h]

/-! ## One line -/

/-- The line is an order to turn the display of tokens on or off. -/
def isToggle (line : String) : Bool := Text.firstWord (Text.trim line) = "/tokens"

/-- The line is an order to end the session. -/
def isQuit (line : String) : Bool :=
  ["/quit", "/q", "/exit"].contains (Text.firstWord (Text.trim line))

/-- Only a line that begins with `/` is an order. -/
theorem not_order {line : String} (h : Text.beginsWith (Text.trim line) '/' = false) :
    isToggle line = false ∧ isQuit line = false := by
  have hno : ∀ word, Text.beginsWith word '/' = true → Text.firstWord (Text.trim line) ≠ word := by
    rintro word hword rfl
    rw [Text.beginsWith_of_firstWord hword] at h
    cases h
  have htokens := hno "/tokens" rfl
  have hquit := hno "/quit" rfl
  have hq := hno "/q" rfl
  have hexit := hno "/exit" rfl
  simp [isToggle, isQuit, htokens, hquit, hq, hexit]

namespace Session

variable {s : Session}

/-- What a message gives at a terminal with nothing in its outbox: what it gives when it is run
once, with its tokens and instructions ahead of the reply if they are shown. -/
theorem message_eq (hs : s.shell.registry.Avoids Request.IsSend) (ht : s.terminal.outbox = [])
    (disk : Disk) (text : String) :
    (s.message disk text).1 = s ∧
      (∀ e, (runOnce s.shell disk s.terminal text).2 = .error e →
        (s.message disk text).2 = .error e) ∧
      ∀ reply, (runOnce s.shell disk s.terminal text).2 = .ok reply →
        (s.showTokens = false → (s.message disk text).2 = .ok reply) ∧
          (s.showTokens = true →
            ∃ shown, s.shell.inspect text = .ok shown ∧
              (s.message disk text).2 = .ok (shown ++ "\n" ++ reply)) := by
  obtain ⟨sh, t, displayed, quit⟩ := s
  replace hs : sh.registry.Avoids Request.IsSend := hs
  have houtbox : t = { t with outbox := [] } := by
    cases t
    cases ht
    rfl
  cases hc : sh.compile text with
  | error e =>
    have hex := execute_of_compile_error hc (Terminal.chat disk) t
    cases displayed with
    | false => simp [message, runOnce, hex]
    | true => simp [message, runOnce, hex, inspect_eq_error_iff.mpr hc, Except.map]
  | ok is =>
    obtain ⟨shown, hshown⟩ : ∃ shown, sh.inspect text = .ok shown := by
      cases hi : sh.inspect text with
      | ok shown => exact ⟨shown, rfl⟩
      | error e =>
        rw [inspect_eq_error_iff, hc] at hi
        cases hi
    rcases execute_terminal hs disk t text with ⟨reply, hex⟩ | ⟨e, hex⟩
    · rw [show t.outbox = [] from ht] at hex
      cases displayed with
      | false => simp [message, runOnce, hex, ← houtbox]
      | true => simp [message, runOnce, hex, hshown, Except.map, ← houtbox]
    · cases displayed with
      | false => simp [message, runOnce, hex]
      | true => simp [message, runOnce, hex, hshown, Except.map]

/-- An order changes nothing but what it is about. -/
theorem obey_fst (s : Session) (word : String) :
    (s.obey (Order.ofWord word)).1 =
      { s with
        showTokens := s.showTokens ^^ decide (word = "/tokens")
        quit := s.quit || ["/quit", "/q", "/exit"].contains word } := by
  unfold Order.ofWord
  split_ifs with hquit hhelp htokens hcommands
  · rcases hquit with rfl | rfl | rfl <;> simp [obey]
  · rcases hhelp with rfl | rfl | rfl <;> simp [obey]
  · subst htokens
    simp [obey]
  · subst hcommands
    simp [obey]
  · simp only [not_or] at hquit
    simp [obey, hquit, htokens]

/-- What a line leaves of a session whose outbox is empty. -/
theorem line_fst (hs : s.shell.registry.Avoids Request.IsSend) (ht : s.terminal.outbox = [])
    (disk : Disk) (line : String) :
    (s.line disk line).1 =
      { s with showTokens := s.showTokens ^^ isToggle line, quit := s.quit || isQuit line } := by
  by_cases hb : Text.beginsWith (Text.trim line) '/' = true
  · unfold Session.line isToggle isQuit
    simp only [hb, if_true]
    rw [obey_fst]
  · rw [Bool.not_eq_true] at hb
    obtain ⟨htoggle, hquit⟩ := not_order hb
    rw [htoggle, hquit, Bool.xor_false, Bool.or_false]
    unfold Session.line
    simp only [hb, Bool.false_eq_true, if_false]
    split_ifs
    · rfl
    · exact (message_eq hs ht disk _).1

/-- The session after lines. -/
def after (disk : Disk) (s : Session) (lines : List String) : Session :=
  lines.foldl (fun s line => (s.line disk line).1) s

/-- What lines leave of a session whose outbox is empty. -/
theorem after_eq (hs : s.shell.registry.Avoids Request.IsSend) (ht : s.terminal.outbox = [])
    (disk : Disk) (lines : List String) :
    s.after disk lines =
      { s with
        showTokens := s.showTokens ^^ decide (Odd (lines.countP isToggle))
        quit := s.quit || lines.any isQuit } := by
  induction lines using List.reverseRecOn with
  | nil => simp [after]
  | append_singleton lines line ih =>
    have hstep : s.after disk (lines ++ [line]) = ((s.after disk lines).line disk line).1 := by
      simp [after]
    have hodd : decide (Odd ((lines ++ [line]).countP isToggle)) =
        (decide (Odd (lines.countP isToggle)) ^^ isToggle line) := by
      cases hl : isToggle line <;>
        simp [hl, List.countP_append, Nat.odd_add_one, -Nat.not_odd_iff_even]
    rw [hstep, ih, line_fst (by exact hs) (by exact ht), hodd]
    simp [Bool.or_assoc]

/-- What a line gives that is a message, at a terminal with nothing in its outbox. -/
theorem line_message (hs : s.shell.registry.Avoids Request.IsSend) (ht : s.terminal.outbox = [])
    (disk : Disk) {line : String} (hblank : Text.trim line ≠ "")
    (hslash : Text.beginsWith (Text.trim line) '/' = false) :
    (∀ e, (runOnce s.shell disk s.terminal (Text.trim line)).2 = .error e →
      (s.line disk line).2 = .error e) ∧
    ∀ reply, (runOnce s.shell disk s.terminal (Text.trim line)).2 = .ok reply →
      (s.showTokens = false → (s.line disk line).2 = .ok (some reply)) ∧
        (s.showTokens = true →
          ∃ shown, s.shell.inspect (Text.trim line) = .ok shown ∧
            (s.line disk line).2 = .ok (some (shown ++ "\n" ++ reply))) := by
  have hline : (s.line disk line).2 = (s.message disk (Text.trim line)).2.map some := by
    have hempty : (Text.trim line).isEmpty = false := by simpa using hblank
    unfold Session.line
    simp only [hslash, hempty, Bool.false_eq_true, if_false]
  obtain ⟨-, herror, hok⟩ := message_eq hs ht disk (Text.trim line)
  rw [hline]
  refine ⟨fun e he => by rw [herror e he]; rfl, fun reply hreply => ?_⟩
  obtain ⟨hoff, hon⟩ := hok reply hreply
  refine ⟨fun h => by rw [hoff h]; rfl, fun h => ?_⟩
  obtain ⟨shown, hshown, hboth⟩ := hon h
  exact ⟨shown, hshown, by rw [hboth]; rfl⟩

end Session

/-! ## The law -/

/-- The lines of a session are messages of their own. Whatever the lines before, replied to or
failed, nothing of them is in the outbox, and of the orders nothing stays but whether tokens are
shown and whether the session is to end. So a message gives what it gives when it is run once; if
tokens are shown, they stand on lines ahead of the reply. -/
theorem lines_are_messages_of_their_own (sh : Shell) (hs : sh.registry.Avoids Request.IsSend)
    (disk : Disk) (attachments : NameMap String) (limit : Nat) (colour : Bool)
    (lines : List String) :
    let t : Terminal := { attachments, limit, colour }
    let s := Session.after disk { shell := sh, terminal := t } lines
    s.terminal.outbox = [] ∧
      (s.showTokens = true ↔
        Odd (lines.countP fun line => Text.firstWord (Text.trim line) = "/tokens")) ∧
      (s.quit = true ↔
        ∃ line ∈ lines, Text.firstWord (Text.trim line) ∈ ["/quit", "/q", "/exit"]) ∧
      ∀ line, Text.trim line ≠ "" → Text.beginsWith (Text.trim line) '/' = false →
        (∀ e, (runOnce sh disk t (Text.trim line)).2 = .error e →
          (s.line disk line).2 = .error e) ∧
        ∀ reply, (runOnce sh disk t (Text.trim line)).2 = .ok reply →
          (s.showTokens = false → (s.line disk line).2 = .ok (some reply)) ∧
            (s.showTokens = true →
              ∃ shown, sh.inspect (Text.trim line) = .ok shown ∧
                (s.line disk line).2 = .ok (some (shown ++ "\n" ++ reply))) := by
  intro t s
  have hafter : s =
      { shell := sh, terminal := t, showTokens := decide (Odd (lines.countP isToggle))
        quit := lines.any isQuit } := by
    simpa using Session.after_eq (s := { shell := sh, terminal := t }) hs rfl disk lines
  have hshell : s.shell = sh := by rw [hafter]
  have hterminal : s.terminal = t := by rw [hafter]
  refine ⟨by rw [hterminal], ?_, ?_, ?_⟩
  · rw [hafter]
    exact decide_eq_true_iff
  · rw [hafter]
    simp [isQuit]
  · intro line hblank hslash
    have hline := Session.line_message (s := s) (by rw [hshell]; exact hs) (by rw [hterminal]) disk
      hblank hslash
    rw [hshell, hterminal] at hline
    exact hline

/-- A message that fails between the orders leaves nothing to the next. -/
theorem tokens_are_shown_after_a_message_that_failed :
    let disk : Disk := fun _ => .error .missing
    let s := Session.after disk { shell := {} } ["/tokens on", "echo a", "nope", " /q", "echo <"]
    Registry.builtin.Avoids Request.IsSend ∧ s.terminal.outbox = [] ∧ s.showTokens = true ∧
      s.quit = true ∧ (s.line disk " nope ").2 = .error (.command (.notFound "nope")) ∧
      (s.line disk " echo b").2 = .ok (some ("tokens: STRING(\"echo\") STRING(\"b\") OP(;)\n" ++
        "instrs: EVAL[\"echo\", \"b\"]\n[send] b")) := by
  intro disk s
  have hs : Registry.builtin.Avoids Request.IsSend := Registry.builtin_avoids _
  obtain ⟨houtbox, htokens, hquit, hlines⟩ := lines_are_messages_of_their_own {} hs disk .empty
    defaultLimit false ["/tokens on", "echo a", "nope", " /q", "echo <"]
  have hshown : s.showTokens = true := htokens.mpr (by decide +kernel)
  obtain ⟨hfails, -⟩ := hlines " nope " (by decide +kernel) (by decide +kernel)
  obtain ⟨-, hreplies⟩ := hlines " echo b" (by decide +kernel) (by decide +kernel)
  obtain ⟨-, hon⟩ := hreplies "[send] b" (by decide +kernel)
  refine ⟨hs, houtbox, hshown, hquit.mpr (by decide +kernel), hfails _ (by decide +kernel), ?_⟩
  obtain ⟨shown, hinspect, hline⟩ := hon hshown
  have htext : Shell.inspect {} (Text.trim " echo b") = .ok ("tokens: STRING(\"echo\") " ++
      "STRING(\"b\") OP(;)\ninstrs: EVAL[\"echo\", \"b\"]") := by decide +kernel
  cases hinspect.symm.trans htext
  rw [hline]
  decide +kernel

end Console
end ChatShell
