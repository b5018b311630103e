import LiveTemplate.Error
import LiveTemplate.Value.Basic

/-! What the host provides: the shared lists, and the functions that contexts name. A call sees the
host's state and leaves a new one, also when it fails. It changes no list, and it does not reach
the instance whose update makes it: functions that do are those of a host whose state has the
instance in it. -/
namespace LiveTemplate

structure Host (σ : Type) where
  shelf : Shelf
  call : (function : String) → (arguments : List Value) → σ → Except Error Value × σ

namespace Host

/-- Calls that neither read nor change the state. -/
structure Pure {σ : Type} (host : Host σ) : Prop where
  state : ∀ f vs s, (host.call f vs s).2 = s
  result : ∀ f vs s t, (host.call f vs s).1 = (host.call f vs t).1

end Host
end LiveTemplate
