import LiveTemplate.Error

/-! Checked cuts. An offset counts characters and may be any integer; only those from
zero to the length, both included, name a place between two characters. -/
namespace LiveTemplate.Text

/-- The text before and after `offset`. Only as many characters as it asks for are looked at. -/
def cut (text : List Char) (offset : Int) : Except Error (List Char × List Char) :=
  let head := text.take offset.toNat
  if (head.length : Int) = offset then .ok (head, text.drop offset.toNat)
  else .error (.cutOutOfRange offset text.length)

/-- Exactly the offsets from zero to the length cut a text. -/
theorem cut_eq_ok_iff {text head tail : List Char} {offset : Int} :
    cut text offset = .ok (head, tail) ↔ text = head ++ tail ∧ offset = head.length := by
  unfold cut
  constructor
  · intro done
    dsimp only at done
    split at done
    · rename_i whole
      cases done
      exact ⟨(List.take_append_drop _ _).symm, whole.symm⟩
    · cases done
  · rintro ⟨rfl, rfl⟩
    simp

end LiveTemplate.Text
