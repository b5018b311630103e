import LiveTemplate.Digest.Text
import LiveTemplate.Template.Compile

/-! A cache keyed by the digests of markup and configuration, and compiling through it. Templates
are numbered in the order in which they are made, so that one can be told from an equal one. -/
namespace LiveTemplate

structure CacheKey where
  content : String
  config : String
  deriving DecidableEq, Repr

def CacheKey.of (config : Config) (markup : String) : CacheKey :=
  ⟨Digest.ofMarkup markup, Digest.ofConfig config⟩

abbrev Cache (α : Type) := Entries CacheKey α

/-- Every template made so far, and the numbers of those that are cached. -/
structure Workshop where
  templates : List Template
  cache : Cache Nat

namespace Workshop

def empty : Workshop := ⟨[], []⟩

/-- A template that was found or made: its number, and what happened. -/
structure Delivery where
  number : Nat
  events : List Event

/-- A template is made anew and, with `key`, cached. -/
def make (config : Config) (markup : String) (key : Option CacheKey) (w : Workshop) :
    Except Error (Delivery × Workshop) := do
  let made ← Template.compileMarkup config markup
  let number := w.templates.length
  return (⟨number, [made.event]⟩, {
    templates := w.templates ++ [made.template]
    cache := match key with
      | some key => w.cache.set key number
      | none => w.cache })

/-- A cached template is handed out again; a failure leaves the workshop as it was. -/
def compile (config : Config) (markup : String) (cached : Bool) (w : Workshop) :
    Except Error (Delivery × Workshop) :=
  if cached then
    let key := CacheKey.of config markup
    match w.cache.find? key with
    | some number => .ok (⟨number, []⟩, w)
    | none => w.make config markup (some key)
  else w.make config markup none

end Workshop
end LiveTemplate
