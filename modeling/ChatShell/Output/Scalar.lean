-- The plain values a command can write, and the bytes of each.
import ChatShell.Decimal.Binary64
import ChatShell.Output.Basic

namespace ChatShell

/-- A value that can be written as one chunk. -/
inductive Scalar where
  | text (s : String)
  | bytes (b : Text.Bytes)
  | truth (b : Bool)
  | char (c : Char)
  | integer (n : Int)
  | binary64 (x : Decimal.Binary64)
  deriving DecidableEq

/-- Bytes stand as they are; every other value is written as text. -/
def Scalar.toBytes : Scalar → Text.Bytes
  | .text s => Text.encode s
  | .bytes b => b
  | .truth b => Text.encode (if b then "true" else "false")
  | .char c => Text.encodeChar c
  | .integer n => Text.encode (toString n)
  | .binary64 x => Text.encode x.render

/-- Adds one value as a chunk. -/
def Output.writeScalar (o : Output) (s : Stream) (v : Scalar) : Output := o.write s v.toBytes

end ChatShell
