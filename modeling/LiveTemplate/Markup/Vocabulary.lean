/-! The tags that markup treats by name. -/
namespace LiveTemplate.Markup

/-- Elements that never have content; they get no end tag. -/
def voidTags : List String := [
  "area", "base", "br", "col", "embed", "hr", "img", "input",
  "link", "meta", "param", "source", "track", "wbr"]

/-- Elements whose text is taken as it stands. -/
def rawTextTags : List String := ["script", "style"]

def isVoid (tag : String) : Bool := voidTags.contains tag

def isRawText (tag : String) : Bool := rawTextTags.contains tag

end LiveTemplate.Markup
