/-! Escaping for markup. Text loses its ampersands and angle brackets to references, attribute
values their quotes as well. -/
namespace LiveTemplate.Markup

def escapeTextChar (c : Char) : List Char :=
  match c with
  | '&' => ['&', 'a', 'm', 'p', ';']
  | '<' => ['&', 'l', 't', ';']
  | '>' => ['&', 'g', 't', ';']
  | c => [c]

def escapeAttributeChar (c : Char) : List Char :=
  match c with
  | '"' => ['&', 'q', 'u', 'o', 't', ';']
  | '\x27' => ['&', '#', 'x', '2', '7', ';']
  | c => escapeTextChar c

def escapeText (cs : List Char) : List Char := cs.flatMap escapeTextChar

def escapeAttribute (cs : List Char) : List Char := cs.flatMap escapeAttributeChar

end LiveTemplate.Markup
