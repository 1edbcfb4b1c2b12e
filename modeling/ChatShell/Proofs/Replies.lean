-- The text of a reply. It is the first characters of what was written, or of the
-- placeholder if nothing was, and as many as the limit allows. What was written is
-- read as one text, so a character may be spread over chunks and streams.
import ChatShell.Shell
import ChatShell.Proofs.Decoding

namespace ChatShell

variable {σ : Type}

/-- How a message ends that sends this reply. -/
def Chat.replied (c : Chat σ) (reply : Reply) (chat : σ) : Ended σ :=
  match c.send reply chat with
  | (.ok (), after) => (after, .ok ())
  | (.error f, after) => (after, .error (.transport f))

theorem Run.deliver_eq (style : ReplyStyle) (c : Chat σ) (r : Run σ) :
    r.deliver style c =
      c.replied ⟨some (style.render (c.limit r.chat) r.out), r.files⟩ r.chat := rfl

theorem interpret_of_steps {g : Registry} {c : Chat σ} {chat : σ} {is : List Message.Instr}
    {r : Run σ} (h : Run.steps g c { chat } is = .ok r) (style : ReplyStyle) :
    interpret g style c chat is =
      c.replied ⟨some (style.render (c.limit r.chat) r.out), r.files⟩ r.chat := by
  unfold interpret
  rw [h]
  exact r.deliver_eq style c

/-! ## The first characters -/

theorem toList_firstChars (limit : Nat) (s : String) :
    (firstChars limit s).toList = s.toList.take limit := by
  simp [firstChars]

theorem length_firstChars (limit : Nat) (s : String) :
    (firstChars limit s).length = min limit s.length := by
  rw [← String.length_toList, toList_firstChars, List.length_take, String.length_toList]

/-- A text is cut between two characters. -/
theorem firstChars_append (limit : Nat) (s : String) :
    firstChars limit s ++ String.ofList (s.toList.drop limit) = s := by
  rw [← String.toList_inj, String.toList_append, toList_firstChars, String.toList_ofList,
    List.take_append_drop]

theorem firstChars_eq_empty_iff (limit : Nat) (s : String) :
    firstChars limit s = "" ↔ limit = 0 ∨ s = "" := by
  rw [← String.toList_eq_nil_iff, toList_firstChars, List.take_eq_nil_iff,
    String.toList_eq_nil_iff]

/-! ## What was written -/

theorem Output.isEmpty_iff (o : Output) : o.isEmpty ↔ o.bytes = [] := by
  simp [isEmpty, bytes, joined]

theorem Output.text_isEmpty (o : Output) : o.text.isEmpty = o.isEmpty := by
  rw [Bool.eq_iff_iff, String.isEmpty_iff, o.isEmpty_iff]
  exact Text.decode_eq_empty_iff o.bytes

theorem ReplyStyle.render_eq (style : ReplyStyle) (limit : Nat) (o : Output) :
    style.render limit o =
      firstChars (style.limit.getD limit) (if o.isEmpty then style.placeholder else o.text) := by
  unfold render
  rw [o.text_isEmpty]

/-- Neither the streams nor the exit code show in a reply. -/
theorem ReplyStyle.render_of_bytes {o p : Output} (h : o.bytes = p.bytes) (style : ReplyStyle)
    (limit : Nat) : style.render limit o = style.render limit p := by
  unfold render Output.text
  rw [h]

/-- Bytes that are the UTF-8 of a text are read as it, however they lie in chunks. -/
theorem Output.text_of_toUTF8 {o : Output} {t : String} (h : o.bytes = t.toUTF8.data.toList) :
    o.text = t := by
  rw [text, h, ← Text.encode_eq_toUTF8, Text.decode_encode]

theorem Output.isEmpty_of_toUTF8 {o : Output} {t : String} (h : o.bytes = t.toUTF8.data.toList)
    (ht : t ≠ "") : o.isEmpty = false := by
  rw [← o.text_isEmpty, o.text_of_toUTF8 h]
  simpa using ht

/-- A text that was written is replied with, as far as the limit goes. -/
theorem ReplyStyle.render_of_toUTF8 {o : Output} {t : String} (h : o.bytes = t.toUTF8.data.toList)
    (ht : t ≠ "") (style : ReplyStyle) (limit : Nat) :
    style.render limit o = firstChars (style.limit.getD limit) t := by
  rw [style.render_eq, o.isEmpty_of_toUTF8 h ht, o.text_of_toUTF8 h]
  rfl

/-! ## The law -/

/-- The content of a reply is the beginning of what was written, or of the placeholder if no chunk
has a byte: as many characters as there are, up to the limit of the settings, or else of the chat.
It is empty only if the limit is 0 or there is neither output nor placeholder. Bytes that are no
character are read as U+FFFD, and the UTF-8 of a text is read as that text, whatever chunks it was
written in. -/
theorem a_reply_is_the_beginning_of_what_was_written (style : ReplyStyle) (c : Chat σ)
    (r : Run σ) :
    let most := style.limit.getD (c.limit r.chat)
    let bytes := r.out.chunks.flatMap Chunk.bytes
    ∃ text content rest : String,
      Text.ReadAs bytes text.toList ∧
      (if r.out.isEmpty then style.placeholder else text) = content ++ rest ∧
      content.length = min most (content ++ rest).length ∧
      r.deliver style c = c.replied ⟨some content, r.files⟩ r.chat ∧
      (content = "" ↔ most = 0 ∨ (r.out.isEmpty ∧ style.placeholder = "")) ∧
      ∀ t : String, t ≠ "" → bytes = t.toUTF8.data.toList →
        content.toList = t.toList.take most := by
  intro most bytes
  have hcontent := style.render_eq (c.limit r.chat) r.out
  have hcut := firstChars_append most (if r.out.isEmpty then style.placeholder else r.out.text)
  rw [← hcontent] at hcut
  refine ⟨r.out.text, _, _, (Text.readAs_iff _ _).mpr rfl, hcut.symm, ?_,
    r.deliver_eq style c, ?_, ?_⟩
  · rw [hcut, hcontent]
    exact length_firstChars _ _
  · rw [hcontent, firstChars_eq_empty_iff]
    cases he : r.out.isEmpty with
    | true => simp [most]
    | false =>
      have htext : r.out.text ≠ "" := by
        intro h
        rw [← r.out.text_isEmpty, h] at he
        cases he
      simp [most, htext]
  · intro t ht hbytes
    rw [style.render_of_toUTF8 hbytes ht, toList_firstChars]

/-- The two bytes of `é` are written to the two streams, and the limit lets two characters pass. -/
theorem a_character_may_lie_in_two_streams :
    let r : Run Mailbox :=
      { chat := { limit := 2 }, out := ⟨[⟨.out, [0x68, 0xC3]⟩, ⟨.err, [0xA9, 0x21]⟩], 0⟩ }
    r.out.chunks.flatMap Chunk.bytes = "hé!".toUTF8.data.toList ∧
      (r.deliver {} Mailbox.chat).1.sent = [⟨some "hé", []⟩] := by
  intro r
  have hbytes : r.out.chunks.flatMap Chunk.bytes = "hé!".toUTF8.data.toList := by decide +kernel
  obtain ⟨text, content, rest, _, _, _, hsent, _, hchars⟩ :=
    a_reply_is_the_beginning_of_what_was_written {} Mailbox.chat r
  have hcontent : content = "hé" := by
    rw [← String.toList_inj, hchars "hé!" (by decide) hbytes]
    decide +kernel
  refine ⟨hbytes, ?_⟩
  rw [hsent, hcontent]
  rfl

end ChatShell
