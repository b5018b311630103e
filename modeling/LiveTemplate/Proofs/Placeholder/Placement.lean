import LiveTemplate.Placeholder
import LiveTemplate.Text.Cut

/-! Where placeholders lie. The scan finds them one behind the other inside the text, so a text can
be cut at each of them in turn. -/
namespace LiveTemplate.Placeholder

/-- The placeholders follow one another in what a text of `size` characters has from `consumed`
on. -/
def Placed (size : Nat) : (consumed : Nat) → List Placeholder → Prop
  | consumed, [] => consumed ≤ size
  | consumed, p :: rest => consumed ≤ p.start ∧ p.start ≤ p.stop ∧ Placed size p.stop rest

theorem Placed.consumed_le {size consumed : Nat} {placeholders : List Placeholder}
    (placed : Placed size consumed placeholders) : consumed ≤ size := by
  induction placeholders generalizing consumed with
  | nil => exact placed
  | cons p rest ih =>
    obtain ⟨before, inside, others⟩ := placed
    have := ih others
    omega

theorem Placed.mono {size consumed earlier : Nat} {placeholders : List Placeholder}
    (placed : Placed size consumed placeholders) (le : earlier ≤ consumed) :
    Placed size earlier placeholders := by
  cases placeholders with
  | nil => exact Nat.le_trans le placed
  | cons p rest => exact ⟨Nat.le_trans le placed.1, placed.2⟩

theorem scan_placed (opening closing text : List Char) (offset : Nat) :
    Placed (offset + text.length) offset (scan opening closing offset text) := by
  fun_induction scan opening closing offset text with
  | case1 offset text inner rest found stop shorter ih =>
    have size : offset + text.length = stop + rest.length := by
      obtain ⟨-, whole⟩ := eq_append_of_atHead? found
      simp only [stop, whole, List.length_append]
      omega
    refine ⟨Nat.le_refl _, ?_, ?_⟩
    · show offset ≤ stop
      omega
    · rw [size]; exact ih
  | case2 offset found => simp [Placed]
  | case3 offset c text found ih =>
    rw [List.length_cons, Nat.add_comm text.length, ← Nat.add_assoc]
    exact ih.mono (Nat.le_succ offset)

theorem all_placed (config : Config) (text : String) :
    Placed text.toList.length 0 (all config text) := by
  simpa [all] using scan_placed config.opening.toList config.closing.toList text.toList 0

/-- The characters of a text from one offset to before another. -/
def slice (text : List Char) (start stop : Nat) : List Char := (text.drop start).take (stop - start)

theorem slice_append_drop {text : List Char} {start stop : Nat} (le : start ≤ stop) :
    slice text start stop ++ text.drop stop = text.drop start := by
  have behind : (text.drop start).drop (stop - start) = text.drop stop := by
    rw [List.drop_drop, Nat.add_sub_cancel' le]
  rw [← behind]
  exact List.take_append_drop _ _

/-- A text that has been cut at `consumed` is cut again before a placeholder. -/
theorem cut_before {text : List Char} {consumed start : Nat} (le : consumed ≤ start)
    (inside : start ≤ text.length) :
    Text.cut (text.drop consumed) ((start : Int) - consumed) =
      .ok (slice text consumed start, text.drop start) := by
  rw [Text.cut_eq_ok_iff]
  refine ⟨(slice_append_drop le).symm, ?_⟩
  simp [slice]
  omega

/-- It is then cut behind the placeholder. -/
theorem cut_behind {text : List Char} {p : Placeholder} (le : p.start ≤ p.stop)
    (inside : p.stop ≤ text.length) :
    Text.cut (text.drop p.start) p.length =
      .ok (slice text p.start p.stop, text.drop p.stop) := by
  have := cut_before le inside
  rwa [← Int.ofNat_sub le] at this

end LiveTemplate.Placeholder
