import LiveTemplate.Binding

/-! What happens to templates and parts, as events in order. Log records, mutations and profile
counts are all read off the same events. -/
namespace LiveTemplate

inductive Event where
  | compiled (nodes parts : Nat)
  | instantiated (parts : Nat)
  /-- A patch reached a part's expression. -/
  | evaluated
  | mutated (kind : BindingKind) (path : Path) (edit : Edit)
  /-- An edit was tried on a node that it does not fit. -/
  | refused (path : Path) (edit : Edit)

/-- An edit that was made or tried. -/
structure Mutation where
  path : Path
  edit : Edit

structure LogRecord where
  logger : String
  message : String
  deriving DecidableEq, Repr

def loggerRoot : String := "tessera"

/-- Names outside the root's are put below it. -/
def loggerName (name : String) : String :=
  if name = loggerRoot || (Text.stripHead? (loggerRoot ++ ".").toList name.toList).isSome then name
  else loggerRoot ++ "." ++ name

namespace Event

def mutation? : Event → Option Mutation
  | mutated _ path edit | refused path edit => some ⟨path, edit⟩
  | _ => none

def logRecord? : Event → Option LogRecord
  | compiled nodes parts => some ⟨loggerName "compiler",
      "Compiled template: " ++ toString nodes ++ " indexed nodes, " ++ toString parts ++ " parts"⟩
  | instantiated parts => some ⟨loggerName "template",
      "Created template instance with " ++ toString parts ++ " parts"⟩
  | _ => none

end Event

def mutations (events : List Event) : List Mutation := events.filterMap Event.mutation?

def logRecords (events : List Event) : List LogRecord := events.filterMap Event.logRecord?

end LiveTemplate
