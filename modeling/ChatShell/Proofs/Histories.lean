-- What an output holds after any row of operations, told from the row alone. A write
-- is held until an operation removes its stream, a take gives back the bytes of what
-- it removes, and the exit code is the one set last since the output was cleared.
-- Bytes get lost by clearing and in no other way.
import ChatShell.Output.Scalar
import Mathlib.Data.List.Induction

namespace ChatShell

open Text (Bytes)

/-! ## Operations -/

/-- What can be done to an output. -/
inductive Operation where
  /-- Writes a value to one stream. -/
  | write (stream : Stream) (value : Scalar)
  | setCode (code : Int)
  /-- Drops everything, the exit code too. -/
  | clear
  /-- Drops one stream. -/
  | drop (stream : Stream)
  | takeAll
  /-- Takes out one stream. -/
  | take (stream : Stream)
  deriving DecidableEq

namespace Operation

/-- What the operation gives back, if it is a take, and what it leaves of the output. -/
def perform (o : Output) : Operation → Option Bytes × Output
  | .write s v => (none, o.writeScalar s v)
  | .setCode code => (none, o.setCode code)
  | .clear => (none, o.clear)
  | .drop s => (none, o.drop s)
  | .takeAll => (some o.takeAll.1, o.takeAll.2)
  | .take s => (some (o.take s).1, (o.take s).2)

def written? : Operation → Option Chunk
  | .write s v => some ⟨s, v.toBytes⟩
  | .setCode _ | .clear | .drop _ | .takeAll | .take _ => none

/-- The operation removes the chunks of the stream. -/
def removes (s : Stream) : Operation → Bool
  | .clear | .takeAll => true
  | .drop t | .take t => t = s
  | .write _ _ | .setCode _ => false

def isTake : Operation → Bool
  | .takeAll | .take _ => true
  | .write _ _ | .setCode _ | .clear | .drop _ => false

def isClear : Operation → Bool
  | .clear | .drop _ => true
  | .write _ _ | .setCode _ | .takeAll | .take _ => false

def code? : Operation → Option Int
  | .setCode code => some code
  | .write _ _ | .clear | .drop _ | .takeAll | .take _ => none

end Operation

/-- An output that operations were done on, and what each of them gave back. -/
structure Usage where
  output : Output := {}
  given : List (Option Bytes) := []

namespace Usage

def step (u : Usage) (op : Operation) : Usage :=
  ⟨(op.perform u.output).2, u.given ++ [(op.perform u.output).1]⟩

/-- All bytes given back. -/
def taken (u : Usage) : Bytes := u.given.flatMap (·.getD [])

end Usage

/-- An empty output after the operations. -/
def used (ops : List Operation) : Usage := ops.foldl Usage.step {}

theorem used_snoc (ops : List Operation) (op : Operation) :
    used (ops ++ [op]) = (used ops).step op := by
  simp [used, List.foldl_append]

/-! ## What the row of operations tells -/

/-- The writes that no later operation removes, in order. -/
def held : List Operation → List Chunk
  | [] => []
  | op :: later =>
    (op.written?.filter fun ch => !later.any (Operation.removes ch.stream)).toList ++ held later

/-- The exit code set last after the last `clear`. -/
def codeSet (ops : List Operation) : Int :=
  ((ops.reverse.takeWhile (· ≠ .clear)).findSome? Operation.code?).getD 0

/-- The chunks that the operation removes after the others. -/
def removed (before : List Operation) (op : Operation) : List Chunk :=
  (held before).filter fun ch => op.removes ch.stream

theorem held_snoc (ops : List Operation) (op : Operation) :
    held (ops ++ [op]) =
      ((held ops).filter fun ch => !op.removes ch.stream) ++ op.written?.toList := by
  induction ops with
  | nil => cases h : op.written? <;> simp [held, h]
  | cons first later ih =>
    rw [List.cons_append, held, ih, held, List.filter_append, ← List.append_assoc]
    congr 2
    cases first.written? with
    | none => rfl
    | some ch =>
      cases hl : later.any (Operation.removes ch.stream) <;>
        cases hr : op.removes ch.stream <;> simp [hl, hr, Option.filter]

theorem codeSet_snoc (ops : List Operation) (op : Operation) :
    codeSet (ops ++ [op]) = if op = .clear then 0 else op.code?.getD (codeSet ops) := by
  unfold codeSet
  rw [List.reverse_append, List.reverse_singleton, List.singleton_append, List.takeWhile_cons]
  by_cases hc : op = .clear
  · simp [hc]
  · simp only [hc, ne_eq, not_false_eq_true, decide_true, if_true, if_false, List.findSome?_cons]
    cases op.code? <;> rfl

/-! ## One operation -/

namespace Operation

variable (o : Output) (op : Operation)

/-- An operation first removes, then writes. -/
theorem perform_chunks :
    (op.perform o).2.chunks =
      (o.chunks.filter fun ch => !op.removes ch.stream) ++ op.written?.toList := by
  have hall : o.chunks.filter (fun _ => true) = o.chunks := by simp
  cases op with
  | write s v => simp [perform, Output.writeScalar, Output.write, removes, written?, hall]
  | setCode code => simp [perform, Output.setCode, removes, written?, hall]
  | clear => simp [perform, Output.clear, removes, written?]
  | takeAll => simp [perform, Output.takeAll, removes, written?]
  | drop s | take s =>
    simp [perform, Output.take, Output.drop, removes, written?, eq_comm]

theorem perform_code :
    (op.perform o).2.code = if op = .clear then 0 else op.code?.getD o.code := by
  cases op <;> rfl

/-- A take gives back what it removes, and nothing else gives something back. -/
theorem perform_given :
    (op.perform o).1 =
      if op.isTake then some (joined (o.chunks.filter fun ch => op.removes ch.stream))
      else none := by
  have hall : o.chunks.filter (fun _ => true) = o.chunks := by simp
  cases op with
  | write s v | setCode code | clear | drop s => rfl
  | takeAll => simp [perform, Output.takeAll, Output.bytes, removes, isTake, hall]
  | take s =>
    simp [perform, Output.take, Output.bytesOf, Output.chunksOf, removes, isTake, eq_comm]

end Operation

/-! ## Any row of operations -/

theorem used_output (ops : List Operation) : (used ops).output = ⟨held ops, codeSet ops⟩ := by
  induction ops using List.reverseRecOn with
  | nil => rfl
  | append_singleton ops op ih =>
    have hchunks := op.perform_chunks (used ops).output
    have hcode := op.perform_code (used ops).output
    rw [ih] at hchunks hcode
    rw [used_snoc, held_snoc, codeSet_snoc, ← hchunks, ← hcode, ← ih]
    rfl

theorem used_given_snoc (ops : List Operation) (op : Operation) :
    (used (ops ++ [op])).given =
      (used ops).given ++ [if op.isTake then some (joined (removed ops op)) else none] := by
  rw [used_snoc]
  unfold Usage.step
  rw [op.perform_given, used_output]
  rfl

theorem length_used_given (ops : List Operation) : (used ops).given.length = ops.length := by
  induction ops using List.reverseRecOn with
  | nil => rfl
  | append_singleton ops op ih => simp [used_given_snoc, ih]

/-- What was given back stays. -/
theorem used_given_prefix (before after : List Operation) :
    (used before).given <+: (used (before ++ after)).given := by
  induction after using List.reverseRecOn with
  | nil => simp
  | append_singleton after op ih =>
    rw [← List.append_assoc, used_given_snoc]
    exact ih.trans (List.prefix_append _ _)

theorem used_given_at (before after : List Operation) (op : Operation) :
    (used (before ++ op :: after)).given[before.length]? =
      some (if op.isTake then some (joined (removed before op)) else none) := by
  have hsplit : before ++ op :: after = (before ++ [op]) ++ after := by simp
  obtain ⟨more, hmore⟩ := used_given_prefix (before ++ [op]) after
  rw [hsplit, ← hmore, used_given_snoc, ← length_used_given before]
  simp

theorem taken_snoc (ops : List Operation) (op : Operation) :
    (used (ops ++ [op])).taken =
      (used ops).taken ++ if op.isTake then joined (removed ops op) else [] := by
  unfold Usage.taken
  rw [used_given_snoc, List.flatMap_append]
  cases op.isTake <;> simp

/-! ## Bytes -/

theorem count_joined_filter (chunks : List Chunk) (p : Chunk → Bool) (b : UInt8) :
    (joined (chunks.filter p)).count b + (joined (chunks.filter fun ch => !p ch)).count b =
      (joined chunks).count b := by
  induction chunks with
  | nil => rfl
  | cons ch rest ih =>
    unfold joined at ih ⊢
    cases hp : p ch <;> simp only [List.filter_cons, hp, Bool.not_true, Bool.not_false, if_true,
      Bool.false_eq_true, if_false, List.flatMap_cons, List.count_append] <;> omega

/-- What is not taken and not held was cleared. -/
theorem removed_of_not_isClear (before : List Operation) {op : Operation}
    (h : op.isClear = false) (ht : op.isTake = false) : removed before op = [] := by
  cases op with
  | write s v | setCode code => simp [removed, Operation.removes]
  | clear | drop s => cases h
  | takeAll | take s => cases ht

theorem count_taken_held (ops : List Operation) (h : ∀ op ∈ ops, op.isClear = false)
    (b : UInt8) :
    (used ops).taken.count b + (joined (held ops)).count b =
      (joined (ops.filterMap Operation.written?)).count b := by
  induction ops using List.reverseRecOn with
  | nil => rfl
  | append_singleton ops op ih =>
    have hops := ih fun o ho => h o (List.mem_append_left _ ho)
    have hclear := h op (by simp)
    have hparts := count_joined_filter (held ops) (fun ch => op.removes ch.stream) b
    have hgiven : (if op.isTake then joined (removed ops op) else []) = joined (removed ops op) := by
      cases ht : op.isTake with
      | true => rfl
      | false => simp [removed_of_not_isClear ops hclear ht]
    have hwritten : [op].filterMap Operation.written? = op.written?.toList := by
      cases hw : op.written? <;> simp [hw]
    rw [taken_snoc, hgiven, held_snoc, List.filterMap_append, hwritten, Output.joined_append,
      Output.joined_append, List.count_append, List.count_append, List.count_append]
    unfold removed
    omega

/-! ## The law -/

/-- After any row of operations on an empty output, the chunks are the writes that no later
operation removes, and the exit code is the one set last after the last `clear`. Each take gives
back the bytes of the chunks it removes and leaves the others. Without clearing, every byte that was
written is given back or still there, as often as it was written. -/
theorem an_output_is_what_its_operations_tell (ops : List Operation) :
    (used ops).output.chunks = held ops ∧ (used ops).output.code = codeSet ops ∧
    (used ops).given.length = ops.length ∧
    (∀ before op after, ops = before ++ op :: after →
      (used ops).given[before.length]? =
          some (if op.isTake then some (joined (removed before op)) else none) ∧
        (op.isTake →
          held (before ++ [op]) = (held before).filter fun ch => !op.removes ch.stream)) ∧
    (used ops).output.bytes = joined (held ops) ∧
    (∀ s, (used ops).output.bytesOf s = joined ((held ops).filter (·.stream = s))) ∧
    ((∀ op ∈ ops, op.isClear = false) → ∀ b : UInt8,
      (used ops).taken.count b + (used ops).output.bytes.count b =
        (joined (ops.filterMap Operation.written?)).count b) := by
  have hout := used_output ops
  refine ⟨by rw [hout], by rw [hout], length_used_given ops, ?_, ?_, ?_, ?_⟩
  · rintro before op after rfl
    refine ⟨used_given_at before after op, ?_⟩
    intro ht
    have hwritten : op.written? = none := by cases op <;> first | rfl | cases ht
    rw [held_snoc, hwritten, Option.toList_none, List.append_nil]
  · rw [hout]
    rfl
  · intro s
    rw [hout]
    rfl
  · intro h b
    rw [hout]
    exact count_taken_held ops h b

/-- The byte `0xC3` is written to both streams. One is taken with its stream and the other with
everything, and the exit code outlives both takes. -/
theorem a_byte_is_taken_as_often_as_it_was_written :
    let ops : List Operation :=
      [.write .out (.text "é"), .write .err (.bytes [0xC3]), .setCode 2, .take .out,
        .write .out (.char 'a'), .takeAll, .write .err (.truth true)]
    (∀ op ∈ ops, op.isClear = false) ∧
      (used ops).output.chunks = [⟨.err, Text.encode "true"⟩] ∧ (used ops).output.code = 2 ∧
      (used ops).given[3]? = some (some [0xC3, 0xA9]) ∧
      (used ops).given[5]? = some (some [0xC3, 0x61]) ∧
      (used ops).taken.count 0xC3 + (used ops).output.bytes.count 0xC3 = 2 := by
  intro ops
  have hclear : ∀ op ∈ ops, op.isClear = false := by decide
  obtain ⟨hchunks, hcode, _, hgiven, _, _, hcount⟩ := an_output_is_what_its_operations_tell ops
  refine ⟨hclear, ?_, ?_, ?_, ?_, ?_⟩
  · rw [hchunks]
    decide +kernel
  · rw [hcode]
    decide +kernel
  · exact (hgiven [_, _, _] (.take .out) [_, _, _] rfl).1
  · exact (hgiven [_, _, _, _, _] .takeAll [_] rfl).1
  · rw [hcount hclear]
    decide +kernel

end ChatShell
