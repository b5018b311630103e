import LiveTemplate.Digest.Block

/-! The SHA-1 digest: five words, mixed by four times twenty rounds for each block. -/
namespace LiveTemplate.Digest.Sha1

structure State where
  a : UInt32
  b : UInt32
  c : UInt32
  d : UInt32
  e : UInt32
  deriving DecidableEq, Repr

def start : State := ⟨0x67452301, 0xEFCDAB89, 0x98BADCFE, 0x10325476, 0xC3D2E1F0⟩

def State.add (x y : State) : State := ⟨x.a + y.a, x.b + y.b, x.c + y.c, x.d + y.d, x.e + y.e⟩

def State.words (s : State) : List UInt32 := [s.a, s.b, s.c, s.d, s.e]

def extended : (count : Nat) → Array UInt32 → Array UInt32
  | 0, w => w
  | count + 1, w =>
    let back (k : Nat) := w.getD (w.size - k) 0
    extended count (w.push (rotateLeft (back 3 ^^^ back 8 ^^^ back 14 ^^^ back 16) 1))

/-- Each stage of twenty rounds combines three words in a way of its own. -/
def combine (stage : Nat) (b c d : UInt32) : UInt32 :=
  match stage with
  | 0 => (b &&& c) ||| (~~~b &&& d)
  | 2 => (b &&& c) ||| (b &&& d) ||| (c &&& d)
  | _ => b ^^^ c ^^^ d

def stageConstant : (stage : Nat) → UInt32
  | 0 => 0x5A827999
  | 1 => 0x6ED9EBA1
  | 2 => 0x8F1BBCDC
  | _ => 0xCA62C1D6

def mix (s : State) (round : Nat) (word : UInt32) : State :=
  let stage := round / 20
  let next := rotateLeft s.a 5 + combine stage s.b s.c s.d + s.e + stageConstant stage + word
  ⟨next, s.a, rotateLeft s.b 30, s.c, s.d⟩

def absorb (s : State) (block : Array UInt32) : State :=
  let rounds := (List.range 80).zip (extended 64 block).toList
  s.add (rounds.foldl (fun s (round, word) => mix s round word) s)

def hex (message : List UInt8) : String :=
  hexText .highFirst ((blocks .highFirst message).foldl absorb start).words

end LiveTemplate.Digest.Sha1
