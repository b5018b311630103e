import LiveTemplate.Cache
import LiveTemplate.Proofs.Config.Signature

/-! Cached compiling, by what is found under the key. Keys are as good as the signatures in them:
configurations whose fields hold equally many separators have keys of their own, others may share
one, and then each is served what was compiled for the other. -/
namespace LiveTemplate

namespace Workshop

variable {config : Config} {markup : String} {w made : Workshop} {delivery : Delivery}

/-- The workshop with one template more, found under `key` from now on. -/
def keep (key : CacheKey) (t : Template) (w : Workshop) : Workshop :=
  ⟨w.templates ++ [t], w.cache.set key w.templates.length⟩

theorem compile_uncached (config : Config) (markup : String) (w : Workshop) :
    w.compile config markup false = (Template.compileMarkup config markup).map fun compiled =>
      (⟨w.templates.length, [compiled.event]⟩, ⟨w.templates ++ [compiled.template], w.cache⟩) := by
  simp only [compile, make]
  cases Template.compileMarkup config markup <;> rfl

theorem compile_of_found {number : Nat}
    (found : w.cache.find? (.of config markup) = some number) :
    w.compile config markup true = .ok (⟨number, []⟩, w) := by
  simp [compile, found]

theorem compile_of_missing (missing : w.cache.find? (.of config markup) = none) :
    w.compile config markup true = (Template.compileMarkup config markup).map fun compiled =>
      (⟨w.templates.length, [compiled.event]⟩, w.keep (.of config markup) compiled.template) := by
  simp only [compile, missing, make]
  cases Template.compileMarkup config markup <;> rfl

/-- A cached compile that succeeds has found its key and changes nothing, or has made a template and
keeps it. -/
theorem compile_cases (done : w.compile config markup true = .ok (delivery, made)) :
    (w.cache.find? (.of config markup) = some delivery.number ∧ made = w) ∨
      (w.cache.find? (.of config markup) = none ∧ delivery.number = w.templates.length ∧
        ∃ compiled, Template.compileMarkup config markup = .ok compiled ∧
          made = w.keep (.of config markup) compiled.template) := by
  cases found : w.cache.find? (.of config markup) with
  | some number =>
    rw [compile_of_found found] at done
    cases done
    exact .inl ⟨rfl, rfl⟩
  | none =>
    rw [compile_of_missing found] at done
    cases outcome : Template.compileMarkup config markup with
    | error error => rw [outcome] at done; cases done
    | ok compiled =>
      rw [outcome] at done
      cases done
      exact .inr ⟨rfl, rfl, compiled, rfl, rfl⟩

/-- A cached compile leaves alone what is found under other keys. -/
theorem find?_compile_of_apart (done : w.compile config markup true = .ok (delivery, made))
    {key : CacheKey} (apart : CacheKey.of config markup ≠ key) :
    made.cache.find? key = w.cache.find? key := by
  rcases compile_cases done with ⟨-, rfl⟩ | ⟨-, -, compiled, -, rfl⟩
  · rfl
  · exact (Entries.find?_set _ _ _ _).trans (if_neg apart)

/-- What a cached compile returns is found from then on. -/
theorem find?_compile (done : w.compile config markup true = .ok (delivery, made)) :
    made.cache.find? (.of config markup) = some delivery.number := by
  rcases compile_cases done with ⟨found, rfl⟩ | ⟨-, number, compiled, -, rfl⟩
  · exact found
  · rw [number]
    exact (Entries.find?_set _ _ _ _).trans (if_pos rfl)

/-- What was found before is found after a cached compile. -/
theorem find?_compile_of_found (done : w.compile config markup true = .ok (delivery, made))
    {key : CacheKey} {number : Nat} (found : w.cache.find? key = some number) :
    made.cache.find? key = some number := by
  by_cases same : CacheKey.of config markup = key
  · subst same
    rcases compile_cases done with ⟨-, rfl⟩ | ⟨missing, -⟩
    · exact found
    · rw [found] at missing
      cases missing
  · rw [find?_compile_of_apart done same, found]

theorem templates_compile (done : w.compile config markup true = .ok (delivery, made)) :
    w.templates <+: made.templates := by
  rcases compile_cases done with ⟨-, rfl⟩ | ⟨-, -, compiled, -, rfl⟩
  · exact List.prefix_refl _
  · exact List.prefix_append _ _

/-- Configurations with one signature are served each what was compiled for the other. -/
theorem compile_of_same_signature {other : Config}
    (done : w.compile config markup true = .ok (delivery, made))
    (same : config.signature = other.signature) :
    made.compile other markup true = .ok (⟨delivery.number, []⟩, made) := by
  have key : CacheKey.of config markup = CacheKey.of other markup := by
    simp only [CacheKey.of, Digest.ofConfig, same]
  exact compile_of_found (key ▸ find?_compile done)

end Workshop

namespace Config

/-- Configurations with equally many separators in each field have signatures of their own. If the
digest keeps the two signatures apart, a cached compile for one leaves alone what is found for the
other. -/
theorem signatures_differ {c d : Config} (apart : c ≠ d) (level : c.separators = d.separators) :
    c.signature ≠ d.signature ∧
      ((Digest.standard c.signature = Digest.standard d.signature → c.signature = d.signature) →
        Digest.ofConfig c ≠ Digest.ofConfig d ∧
        ∀ (markup other : String) (w made : Workshop) (delivery : Workshop.Delivery),
          w.compile c markup true = .ok (delivery, made) →
            made.cache.find? (.of d other) = w.cache.find? (.of d other)) := by
  have signatures : c.signature ≠ d.signature := fun same => apart (eq_of_signature same level)
  refine ⟨signatures, fun collisionFree => ?_⟩
  have digests : Digest.ofConfig c ≠ Digest.ofConfig d :=
    fun same => signatures (collisionFree same)
  refine ⟨digests, fun markup other w made delivery done => ?_⟩
  exact Workshop.find?_compile_of_apart done fun same => digests (congrArg CacheKey.config same)

/-- Delimiters that read the same without the boundary between them. -/
def barBehind : Config :=
  { standard with
    opening := "a|", closing := "b", opening_ne := by decide, closing_ne := by decide }

def barAhead : Config :=
  { standard with
    opening := "a", closing := "|b", opening_ne := by decide, closing_ne := by decide }

theorem bars_differ : barBehind ≠ barAhead ∧ barBehind.separators = barAhead.separators ∧
    barBehind.signature ≠ barAhead.signature ∧
    Digest.ofConfig barBehind ≠ Digest.ofConfig barAhead ∧
    ∀ (markup other : String) (w made : Workshop) (delivery : Workshop.Delivery),
      w.compile barBehind markup true = .ok (delivery, made) →
        made.cache.find? (.of barAhead other) = w.cache.find? (.of barAhead other) := by
  have apart : barBehind ≠ barAhead := by decide
  have level : barBehind.separators = barAhead.separators := by decide
  have digests : Digest.standard barBehind.signature ≠ Digest.standard barAhead.signature := by
    decide +kernel
  obtain ⟨signatures, served⟩ := signatures_differ apart level
  exact ⟨apart, level, signatures, served fun same => absurd same digests⟩

/-- A separator ends the opening delimiter. -/
def longOpening : Config :=
  { standard with
    opening := "(\x1f", closing := ")", opening_ne := by decide, closing_ne := by decide }

/-- A separator begins the closing delimiter. -/
def longClosing : Config :=
  { standard with
    opening := "(", closing := "\x1f)", opening_ne := by decide, closing_ne := by decide }

/-- A placeholder with the long opening delimiter, plain text with the long closing one. -/
def separated : String := "<p>(\x1fx)</p>"

/-- Where a separator belongs to a delimiter, two configurations have one signature, and what was
compiled without a binding for the one is served to the other, which has a binding there. -/
theorem separators_confused : longOpening ≠ longClosing ∧
    longOpening.signature = longClosing.signature ∧
    (Template.compileMarkup longClosing separated).toOption.map (·.template.partCount) = some 0 ∧
    (Template.compileMarkup longOpening separated).toOption.map (·.template.partCount) = some 1 ∧
    ∃ delivery made, Workshop.empty.compile longClosing separated true = .ok (delivery, made) ∧
      made.compile longOpening separated true = .ok (⟨delivery.number, []⟩, made) := by
  have signatures : longOpening.signature = longClosing.signature := by decide
  have without : (Template.compileMarkup longClosing separated).toOption.map
      (·.template.partCount) = some 0 := by decide +kernel
  have bound : (Template.compileMarkup longOpening separated).toOption.map
      (·.template.partCount) = some 1 := by decide +kernel
  refine ⟨by decide, signatures, without, bound, ?_⟩
  cases compiled : Template.compileMarkup longClosing separated with
  | error error => rw [compiled] at without; cases without
  | ok compiled' =>
    have missing : Workshop.empty.cache.find? (.of longClosing separated) = none := rfl
    have made := Workshop.compile_of_missing missing
    rw [compiled] at made
    exact ⟨_, _, made, Workshop.compile_of_same_signature made signatures.symm⟩

end Config
end LiveTemplate
