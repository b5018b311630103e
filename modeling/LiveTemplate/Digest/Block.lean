import LiveTemplate.Text.Hex

/-! Messages as blocks of sixteen words. A message is closed by one bit, padded with zeros, and
ends with its length in bits, so that it fills whole blocks of 64 bytes. -/
namespace LiveTemplate.Digest

/-- In which order the bytes of a word, and of the length, stand. -/
inductive ByteOrder where
  | highFirst
  | lowFirst
  deriving DecidableEq, Repr

/-- The lowest `count` bytes of a number, lowest first. -/
def lowBytes : (count n : Nat) → List UInt8
  | 0, _ => []
  | count + 1, n => UInt8.ofNat n :: lowBytes count (n / 256)

def ByteOrder.bytes (order : ByteOrder) (count n : Nat) : List UInt8 :=
  match order with
  | .highFirst => (lowBytes count n).reverse
  | .lowFirst => lowBytes count n

def ByteOrder.word (order : ByteOrder) (bytes : List UInt8) : UInt32 :=
  let highFirst := match order with
    | .highFirst => bytes
    | .lowFirst => bytes.reverse
  highFirst.foldl (fun word byte => word <<< 8 ||| byte.toUInt32) 0

/-- How many zeros bring a message of this length, its closing bit and its length field to whole
blocks. -/
def zeroCount (length : Nat) : Nat := (119 - length % 64) % 64

def padded (order : ByteOrder) (message : List UInt8) : List UInt8 :=
  message ++ 0x80 :: List.replicate (zeroCount message.length) 0 ++
    order.bytes 8 (8 * message.length)

/-- Pieces of `size` elements each; at most `count` of them. -/
def pieces {α : Type} (size : Nat) : (count : Nat) → List α → List (List α)
  | 0, _ => []
  | count + 1, items => items.take size :: pieces size count (items.drop size)

def blocks (order : ByteOrder) (message : List UInt8) : List (Array UInt32) :=
  let bytes := padded order message
  (pieces 64 (bytes.length / 64) bytes).map fun block =>
    ((pieces 4 16 block).map order.word).toArray

def rotateLeft (x : UInt32) (n : UInt32) : UInt32 := x <<< n ||| x >>> (32 - n)

def rotateRight (x : UInt32) (n : UInt32) : UInt32 := x >>> n ||| x <<< (32 - n)

/-- The words of a digest as lower-case hexadecimal bytes. -/
def hexText (order : ByteOrder) (words : List UInt32) : String :=
  String.ofList (words.flatMap fun word =>
    (order.bytes 4 word.toNat).flatMap fun byte => Text.hexDigits 2 byte.toNat)

end LiveTemplate.Digest
