-- What a command writes. An output is a row of chunks, each tagged with the
-- stream it went to, and an exit code. The order of the chunks is the order of
-- writing across both streams. Chunks of a stream can be dropped or taken out
-- together; taking gives their bytes in order of writing and keeps the code.
import ChatShell.Text.Quoted
import ChatShell.Text.Utf8

namespace ChatShell

open Text (Bytes)

/-- The two streams a command writes to. -/
inductive Stream where
  | out
  | err
  deriving DecidableEq

/-- The stream's tag. -/
def Stream.label : Stream → String
  | .out => "out"
  | .err => "err"

/-- One write. -/
structure Chunk where
  stream : Stream
  bytes : Bytes
  deriving DecidableEq

/-- Everything written and not yet taken, and the exit code. -/
structure Output where
  chunks : List Chunk := []
  code : Int := 0
  deriving DecidableEq

/-- The bytes of some chunks, one after the other. -/
def joined (chunks : List Chunk) : Bytes := chunks.flatMap (·.bytes)

namespace Output

/-! ## Writing -/

/-- Adds one chunk. -/
def write (o : Output) (s : Stream) (bytes : Bytes) : Output :=
  { o with chunks := o.chunks ++ [⟨s, bytes⟩] }

/-- Adds one chunk of text. -/
def writeText (o : Output) (s : Stream) (text : String) : Output := o.write s (Text.encode text)

/-- Sets the exit code. -/
def setCode (o : Output) (code : Int) : Output := { o with code }

/-- One chunk of standard output and nothing else. This is how content becomes input. -/
def ofBytes (bytes : Bytes) : Output := write {} .out bytes

/-! ## Reading -/

/-- The chunks of one stream. -/
def chunksOf (o : Output) (s : Stream) : List Chunk := o.chunks.filter (·.stream = s)

/-- All bytes, in order of writing. -/
def bytes (o : Output) : Bytes := joined o.chunks

/-- The bytes of one stream, in order of writing. -/
def bytesOf (o : Output) (s : Stream) : Bytes := joined (o.chunksOf s)

/-- All bytes as text. They are joined first, so a character may be spread over chunks. -/
def text (o : Output) : String := Text.decode o.bytes

/-- The exit code tells of success. -/
def ok (o : Output) : Bool := o.code = 0

/-- No chunk has a byte. -/
def isEmpty (o : Output) : Bool := o.chunks.all (·.bytes.isEmpty)

/-! ## Dropping and taking -/

/-- Drops everything and resets the exit code. -/
def clear (_ : Output) : Output := {}

/-- Drops the chunks of one stream. -/
def drop (o : Output) (s : Stream) : Output :=
  { o with chunks := o.chunks.filter (·.stream ≠ s) }

/-- Takes out all chunks. -/
def takeAll (o : Output) : Bytes × Output := (o.bytes, { o with chunks := [] })

/-- Takes out the chunks of one stream. -/
def take (o : Output) (s : Stream) : Bytes × Output := (o.bytesOf s, o.drop s)

/-! ## What the bytes are after each operation -/

@[simp]
theorem joined_nil : joined [] = [] := rfl

@[simp]
theorem joined_append (a b : List Chunk) : joined (a ++ b) = joined a ++ joined b := by
  simp [joined]

@[simp]
theorem bytes_write (o : Output) (s : Stream) (b : Bytes) : (o.write s b).bytes = o.bytes ++ b := by
  simp [write, bytes, joined]

/-- A write to one stream adds nothing to the other. -/
theorem bytesOf_write (o : Output) (s t : Stream) (b : Bytes) :
    (o.write s b).bytesOf t = o.bytesOf t ++ if s = t then b else [] := by
  by_cases h : s = t <;> simp [write, bytesOf, chunksOf, joined, List.filter_append, h]

@[simp]
theorem bytes_ofBytes (b : Bytes) : (ofBytes b).bytes = b := by
  simp [ofBytes, write, bytes, joined]

end Output

/-! ## Showing -/

/-- A chunk with its tag. It is read as text on its own. -/
def Chunk.render (c : Chunk) : String :=
  c.stream.label ++ "<" ++ Text.quoted (Text.decode c.bytes) ++ ">"

/-- An output on one line. -/
def Output.render (o : Output) : String :=
  "<stds=" ++ Text.bracketed (o.chunks.map Chunk.render) ++ " code=" ++ toString o.code ++ ">"

end ChatShell
