import LiveTemplate.Text.CaseTable

/-! Lower case for whole texts. Every letter takes its own lower-case form; the dotted
capital I becomes two characters, and a capital sigma that ends a word becomes the final
sigma. -/
namespace LiveTemplate.Text

def isCased (c : Char) : Bool := inRanges casedRanges c

def isCaseIgnorable (c : Char) : Bool := inRanges caseIgnorableRanges c

def CaseRun.covers (run : CaseRun) (n : Nat) : Bool :=
  run.first ≤ n && n ≤ run.last && (n - run.first) % run.step == 0

/-- The lower-case form where it is one character. -/
def lowerChar (c : Char) : Char :=
  if c.toNat < 0x80 then c.toLower
  else match lowerRuns.find? (·.covers c.toNat) with
    | some run => Char.ofNat (c.toNat + run.shift).toNat
    | none => c

/-- The next character that is not looked past is cased. -/
def meetsCased (cs : List Char) : Bool :=
  match cs.dropWhile isCaseIgnorable with
  | [] => false
  | c :: _ => isCased c

/-- The lower case of a text that stands behind `before`, which is given nearest character first. -/
def lowerBehind (before : List Char) : List Char → List Char
  | [] => []
  | c :: rest =>
    let here :=
      if c = 'İ' then ['i', '\u0307']
      else if c = 'Σ' then
        if meetsCased before && !meetsCased rest then ['ς'] else ['σ']
      else [lowerChar c]
    here ++ lowerBehind (c :: before) rest

def lower (cs : List Char) : List Char := lowerBehind [] cs

end LiveTemplate.Text
