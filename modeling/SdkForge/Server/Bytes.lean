/-!
# Bytes

The values of blobs: one is sent as a stream, the other is held as a whole.
-/

namespace SdkForge.Server

/-- Bytes that are sent as a stream. -/
structure ByteStream where
  bytes : List UInt8
  deriving DecidableEq, Repr

namespace ByteStream

def ofText (text : String) : ByteStream := ⟨text.toUTF8.data.toList⟩

def size (s : ByteStream) : Nat := s.bytes.length

def isEmpty (s : ByteStream) : Bool := s.bytes.isEmpty

end ByteStream

/-- Bytes that are held as a whole. -/
structure Blob where
  bytes : List UInt8
  deriving DecidableEq, Repr

end SdkForge.Server
