import LiveTemplate.Markup.Render

/-! What rendering writes is put together piece by piece: the markup of neighbours stands side by
side, and so does the markup of joined text. -/
namespace LiveTemplate.Markup

/-- Text as it is shown, raw or escaped. -/
def showText (raw : Bool) (data : List Char) : List Char :=
  if raw then data else escapeText data

theorem showText_append (raw : Bool) (data others : List Char) :
    showText raw (data ++ others) = showText raw data ++ showText raw others := by
  cases raw <;> simp [showText, escapeText]

theorem renderNode_eq_showText (raw : Bool) (data : String) :
    renderNode raw (.text data) = showText raw data.toList := by
  simp [renderNode, showText]

theorem renderNode_text (raw : Bool) (data : List Char) :
    renderNode raw (.text (String.ofList data)) = showText raw data := by
  rw [renderNode_eq_showText, String.toList_ofList]

theorem renderNodes_append (raw : Bool) (ms ns : List Node) :
    renderNodes raw (ms ++ ns) = renderNodes raw ms ++ renderNodes raw ns := by
  induction ms with
  | nil => rfl
  | cons m ms ih => rw [List.cons_append, renderNodes, ih, renderNodes, List.append_assoc]

end LiveTemplate.Markup
