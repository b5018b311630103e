import LiveTemplate.Error

/-! How placeholders and bindings are spelled, and how strict markup is read. A `Config` carries the
proof that it was accepted; `Settings` is the same record before the check. -/
namespace LiveTemplate

structure Settings where
  opening : String := "\x7b"
  closing : String := "\x7d"
  booleanMark : String := "?"
  propertyMark : String := "."
  strict : Bool := false
  deriving DecidableEq, Repr

structure Config where
  opening : String
  closing : String
  booleanMark : String
  propertyMark : String
  strict : Bool
  opening_ne : opening ≠ "" := by decide
  closing_ne : closing ≠ "" := by decide
  booleanMark_ne : booleanMark ≠ "" := by decide
  propertyMark_ne : propertyMark ≠ "" := by decide
  marks_differ : booleanMark ≠ propertyMark := by decide
  deriving DecidableEq

namespace Config

def standard : Config where
  opening := "\x7b"
  closing := "\x7d"
  booleanMark := "?"
  propertyMark := "."
  strict := false

/-- Delimiters are checked before the marks, and the marks for emptiness before they are
compared. -/
def ofSettings (s : Settings) : Except Error Config :=
  if h : s.opening = "" ∨ s.closing = "" then .error .emptyDelimiter
  else if g : s.booleanMark = "" ∨ s.propertyMark = "" then .error .emptyBindingMark
  else if k : s.booleanMark = s.propertyMark then .error .equalBindingMarks
  else .ok {
    opening := s.opening, closing := s.closing
    booleanMark := s.booleanMark, propertyMark := s.propertyMark, strict := s.strict
    opening_ne := fun e => h (.inl e), closing_ne := fun e => h (.inr e)
    booleanMark_ne := fun e => g (.inl e), propertyMark_ne := fun e => g (.inr e)
    marks_differ := k }

def settings (c : Config) : Settings :=
  ⟨c.opening, c.closing, c.booleanMark, c.propertyMark, c.strict⟩

/-- Every accepted configuration passes the check that made it. -/
theorem ofSettings_settings (c : Config) : ofSettings c.settings = .ok c := by
  obtain ⟨opening, closing, boolean, property, strict, ho, hc, hb, hp, hd⟩ := c
  simp [ofSettings, settings, ho, hc, hb, hp, hd]

/-- The text that stands for a configuration in cache keys: its five fields with a unit separator
between them. -/
def signature (c : Config) : String :=
  String.intercalate "\x1f" [c.opening, c.closing, c.booleanMark, c.propertyMark,
    if c.strict then "True" else "False"]

end Config
end LiveTemplate
