import LiveTemplate.Config
import LiveTemplate.Digest.Md5
import LiveTemplate.Digest.Sha1
import LiveTemplate.Digest.Sha256

/-! Digests of texts, taken of their UTF-8 bytes and written in hexadecimal. -/
namespace LiveTemplate.Digest

inductive Algorithm where
  | sha256
  | sha1
  | md5
  deriving DecidableEq, Repr

namespace Algorithm

def all : List Algorithm := [sha256, sha1, md5]

/-- The names of an algorithm in lower case, with its object identifier last. -/
def names : Algorithm → List String
  | sha256 => ["sha256", "sha2-256", "sha-256", "2.16.840.1.101.3.4.2.1"]
  | sha1 => ["sha1", "sha-1", "ssl3-sha1", "1.3.14.3.2.26"]
  | md5 => ["md5", "ssl3-md5", "1.2.840.113549.2.5"]

/-- Names are told apart without regard to the case of letters, and hold no NUL. -/
def ofName (name : String) : Except Error Algorithm :=
  if name.toList.contains '\x00' then .error .unreadableDigestName
  else
    let lowered := String.ofList (name.toList.map Char.toLower)
    match all.find? fun algorithm => algorithm.names.contains lowered with
    | some algorithm => .ok algorithm
    | none => .error (.unknownDigest name)

def hex : Algorithm → List UInt8 → String
  | sha256 => Sha256.hex
  | sha1 => Sha1.hex
  | md5 => Md5.hex

end Algorithm

def standardAlgorithm : String := "sha256"

/-- The beginning of a text: at most `limit` characters, or all but the last `-limit`. -/
def beginning (limit : Int) (text : String) : String :=
  let cs := text.toList
  String.ofList (cs.take (if limit < 0 then cs.length - limit.natAbs else limit.toNat))

def ofText (algorithm : String) (limit : Option Int) (text : String) : Except Error String :=
  (Algorithm.ofName algorithm).map fun algorithm =>
    let hex := algorithm.hex text.toUTF8.toList
    match limit with
    | some limit => beginning limit hex
    | none => hex

/-- The digest of a whole text with the standard algorithm. -/
def standard (text : String) : String := Sha256.hex text.toUTF8.toList

/-- What tells markup apart in a cache. -/
def ofMarkup (markup : String) : String := standard markup

/-- What tells configurations apart in a cache. -/
def ofConfig (config : Config) : String := standard config.signature

end LiveTemplate.Digest
