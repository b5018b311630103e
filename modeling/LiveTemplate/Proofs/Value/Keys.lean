import LiveTemplate.Proofs.Value.Built
import Mathlib.Data.List.Pairwise

/-! The keys of dictionaries. Among values that cannot change, equality inside containers is an
equivalence at every depth, so a key matches at most one key of a sound dictionary. -/
namespace LiveTemplate

theorem Quantity.equals_trans {a b c : Quantity} (first : a.equals b = true)
    (second : b.equals c = true) : a.equals c = true := by
  cases a <;> cases b <;> cases c <;> simp_all only [equals, beq_iff_eq, Bool.false_eq_true]
  rename_i n s m t k u
  -- Both sides are scaled to the denominator in the middle.
  have positive : ((Nat.pow 2 t : Nat) : Int) ≠ 0 :=
    Int.natCast_ne_zero.mpr (Nat.ne_of_gt (Nat.two_pow_pos t))
  refine Int.eq_of_mul_eq_mul_right positive ?_
  calc n * (Nat.pow 2 u : Nat) * (Nat.pow 2 t : Nat)
      = n * (Nat.pow 2 t : Nat) * (Nat.pow 2 u : Nat) := Int.mul_right_comm ..
    _ = m * (Nat.pow 2 u : Nat) * (Nat.pow 2 s : Nat) := by rw [first, Int.mul_right_comm]
    _ = k * (Nat.pow 2 s : Nat) * (Nat.pow 2 t : Nat) := by rw [second, Int.mul_right_comm]

namespace Value

variable {shelf : Shelf} {contents : Contents} {u v w : Value} {depth : Nat}

/-- The three ways in which values that hold no others are equal: as numbers, as strings, or because
they are the same object. -/
theorem equalPlain_iff : equalPlain v w = true ↔
    (∃ a b, v.quantity? = some a ∧ w.quantity? = some b ∧ a.equals b = true) ∨
    (∃ i j s, v = scalar i (.str s) ∧ w = scalar j (.str s)) ∨
    (v.quantity? = none ∧ w.quantity? = none ∧ v.same w = true) := by
  constructor
  · intro equal
    unfold equalPlain at equal
    split at equal
    case h_1 a b left right => exact .inl ⟨a, b, left, right, equal⟩
    case h_2 left right =>
      split at equal
      case h_1 =>
        rename_i i s j t
        exact .inr (.inl ⟨i, j, s, rfl, by rw [beq_iff_eq.mp equal]⟩)
      case h_2 => exact .inr (.inr ⟨left, right, equal⟩)
    case h_3 => cases equal
  · rintro (⟨a, b, left, right, equal⟩ | ⟨i, j, s, rfl, rfl⟩ | ⟨left, right, same⟩)
    · simpa only [equalPlain, left, right] using equal
    · simp [equalPlain, quantity?]
    · simp only [equalPlain, left, right]
      split
      · simp_all [Value.same]
      · exact same

theorem equalPlain_comm (v w : Value) : equalPlain v w = equalPlain w v := by
  have turned {v w : Value} (equal : equalPlain v w = true) : equalPlain w v = true := by
    rcases equalPlain_iff.mp equal with
      ⟨a, b, left, right, equal⟩ | ⟨i, j, s, rfl, rfl⟩ | ⟨left, right, same⟩
    · exact equalPlain_iff.mpr (.inl ⟨b, a, right, left, Quantity.equals_comm a b ▸ equal⟩)
    · exact equalPlain_iff.mpr (.inr (.inl ⟨j, i, s, rfl, rfl⟩))
    · exact equalPlain_iff.mpr (.inr (.inr ⟨right, left, same_comm v w ▸ same⟩))
  exact Bool.eq_iff_iff.mpr ⟨turned, turned⟩

theorem equalPlain_trans (first : equalPlain u v = true) (second : equalPlain v w = true) :
    equalPlain u w = true := by
  rcases equalPlain_iff.mp first with
    ⟨a, b, left, middle, equal⟩ | ⟨i, j, s, rfl, rfl⟩ | ⟨left, middle, same⟩
  · rcases equalPlain_iff.mp second with
      ⟨b', c, again, right, other⟩ | ⟨j, k, s, rfl, rfl⟩ | ⟨none, -, -⟩
    · cases middle.symm.trans again
      exact equalPlain_iff.mpr (.inl ⟨a, c, left, right, Quantity.equals_trans equal other⟩)
    · cases middle
    · cases middle.symm.trans none
  · rcases equalPlain_iff.mp second with
      ⟨b, c, number, -, -⟩ | ⟨_, k, _, same, rfl⟩ | ⟨-, -, same⟩
    · cases number
    · cases same
      exact equalPlain_iff.mpr (.inr (.inl ⟨i, k, s, rfl, rfl⟩))
    · obtain ⟨k, rfl⟩ : ∃ k, w = scalar k (.str s) := by
        cases w <;> simp_all [Value.same]
      exact equalPlain_iff.mpr (.inr (.inl ⟨i, k, s, rfl, rfl⟩))
  · rcases equalPlain_iff.mp second with
      ⟨b, c, number, -, -⟩ | ⟨j, k, s, rfl, rfl⟩ | ⟨-, right, other⟩
    · cases middle.symm.trans number
    · obtain ⟨i, rfl⟩ : ∃ i, u = scalar i (.str s) := by
        cases u <;> simp_all [Value.same]
      exact equalPlain_iff.mpr (.inr (.inl ⟨i, k, s, rfl, rfl⟩))
    · exact equalPlain_iff.mpr (.inr (.inr ⟨left, right, same_trans same other⟩))

theorem allPairs_iff {α : Type} {agree : α → α → Bool} {as bs : List α} :
    allPairs agree as bs = true ↔ List.Forall₂ (fun a b => agree a b = true) as bs := by
  fun_induction allPairs agree as bs with
  | case1 => simp
  | case2 a as b bs ih => simp [ih]
  | case3 as bs ends pair =>
    match as, bs with
    | [], [] => exact (ends rfl rfl).elim
    | a :: as, b :: bs => exact (pair a as b bs rfl rfl).elim
    | [], _ :: _ | _ :: _, [] => simp

/-- The ways in which values are found equal. -/
theorem equalWithin_cases (equal : equalWithin shelf (depth + 1) v w = true) :
    (∃ items others, v.listItems? shelf = some items ∧ w.listItems? shelf = some others ∧
      List.Forall₂ (fun a b => agree shelf depth a b = true) items others) ∨
    (∃ p items q others, v = tuple p items ∧ w = tuple q others ∧
      List.Forall₂ (fun a b => agree shelf depth a b = true) items others) ∨
    (∃ p entries q others, v = dictionary p entries ∧ w = dictionary q others ∧
      sameEntries (agree shelf depth) entries others = true) ∨
    equalPlain v w = true := by
  unfold equalWithin at equal
  dsimp only at equal
  split at equal
  · exact .inr (.inl ⟨_, _, _, _, rfl, rfl, allPairs_iff.mp equal⟩)
  · exact .inr (.inr (.inl ⟨_, _, _, _, rfl, rfl, equal⟩))
  · split at equal
    · exact .inl ⟨_, _, by assumption, by assumption, allPairs_iff.mp equal⟩
    · exact .inr (.inr (.inr equal))

theorem Fixed.member {id : Identity} {items : List Value} (fixed : Fixed (.tuple id items))
    (inside : v ∈ items) : Fixed v := by
  cases fixed with
  | tuple each => exact each v inside

theorem agree_zero : agree shelf 0 v w = v.same w := by
  simp [agree, equalWithin]

/-- A value that cannot change agrees with the same object, with an equal value, and as a tuple with
one whose items agree with its own. -/
theorem Fixed.agree_iff (fixed : Fixed v) : agree shelf (depth + 1) v w = true ↔
    v.same w = true ∨ equalPlain v w = true ∨
    ∃ p items q others, v = .tuple p items ∧ w = .tuple q others ∧
      List.Forall₂ (fun a b => agree shelf depth a b = true) items others := by
  constructor
  · intro agrees
    rcases Bool.or_eq_true_iff.mp agrees with same | equal
    · exact .inl same
    · rcases equalWithin_cases equal with
        ⟨items, others, held, -, -⟩ | tuples | ⟨p, entries, q, others, rfl, -⟩ | plain
      · cases fixed <;> cases held
      · exact .inr (.inr tuples)
      · cases fixed
      · exact .inr (.inl plain)
  · rintro (same | equal | ⟨p, items, q, others, rfl, rfl, pairs⟩)
    · exact Bool.or_eq_true_iff.mpr (.inl same)
    · cases fixed with
      | tuple each =>
        rcases equalPlain_iff.mp equal with ⟨a, b, number, -⟩ | ⟨i, j, s, string, -⟩ | ⟨-, -, same⟩
        · cases number
        · cases string
        · exact Bool.or_eq_true_iff.mpr (.inl same)
      | null | bool | scalar | function => exact Bool.or_eq_true_iff.mpr (.inr equal)
    · exact Bool.or_eq_true_iff.mpr (.inr (allPairs_iff.mpr pairs))

/-- Pairs that are related are related in another way if each of them is. -/
theorem forall₂_imp_of_mem {α β : Type} {R S : α → β → Prop} {as : List α} {bs : List β}
    (pairs : List.Forall₂ R as bs) (each : ∀ a ∈ as, ∀ b ∈ bs, R a b → S a b) :
    List.Forall₂ S as bs := by
  induction pairs with
  | nil => exact .nil
  | cons head _ ih =>
    refine .cons (each _ List.mem_cons_self _ List.mem_cons_self head) (ih ?_)
    exact fun a left b right =>
      each a (List.mem_cons_of_mem _ left) b (List.mem_cons_of_mem _ right)

theorem forall₂_trans_of_mem {α : Type} {R S T : α → α → Prop} {as bs cs : List α}
    (first : List.Forall₂ R as bs) (second : List.Forall₂ S bs cs)
    (each : ∀ a ∈ as, ∀ b ∈ bs, ∀ c ∈ cs, R a b → S b c → T a c) : List.Forall₂ T as cs := by
  induction first generalizing cs with
  | nil => cases second; exact .nil
  | cons head _ ih =>
    cases second with
    | cons next rest =>
      refine .cons (each _ List.mem_cons_self _ List.mem_cons_self _ List.mem_cons_self head next)
        (ih rest ?_)
      exact fun a left b middle c right => each a (List.mem_cons_of_mem _ left) b
        (List.mem_cons_of_mem _ middle) c (List.mem_cons_of_mem _ right)

theorem Fixed.agree_symm (left : Fixed v) (right : Fixed w)
    (agrees : agree shelf depth v w = true) : agree shelf depth w v = true := by
  induction depth generalizing v w with
  | zero =>
    rw [agree_zero] at agrees ⊢
    rwa [same_comm]
  | succ depth ih =>
    rcases left.agree_iff.mp agrees with same | equal | ⟨p, items, q, others, rfl, rfl, pairs⟩
    · exact right.agree_iff.mpr (.inl (same_comm v w ▸ same))
    · exact right.agree_iff.mpr (.inr (.inl (equalPlain_comm v w ▸ equal)))
    · refine right.agree_iff.mpr (.inr (.inr ⟨q, others, p, items, rfl, rfl, ?_⟩))
      exact List.Forall₂.flip (forall₂_imp_of_mem pairs fun _ inside _ inner =>
        ih (left.member inside) (right.member inner))

theorem Fixed.agree_succ (fixed : Fixed v) (agrees : agree shelf depth v w = true) :
    agree shelf (depth + 1) v w = true := by
  induction depth generalizing v w with
  | zero =>
    rw [agree_zero] at agrees
    exact fixed.agree_iff.mpr (.inl agrees)
  | succ depth ih =>
    rcases fixed.agree_iff.mp agrees with same | equal | ⟨p, items, q, others, rfl, rfl, pairs⟩
    · exact fixed.agree_iff.mpr (.inl same)
    · exact fixed.agree_iff.mpr (.inr (.inl equal))
    · refine fixed.agree_iff.mpr (.inr (.inr ⟨p, items, q, others, rfl, rfl, ?_⟩))
      exact forall₂_imp_of_mem pairs fun _ inside _ _ => ih (fixed.member inside)

theorem Fixed.agree_mono {more : Nat} (fixed : Fixed v) (agrees : agree shelf depth v w = true)
    (le : depth ≤ more) : agree shelf more v w = true := by
  induction le with
  | refl => exact agrees
  | step _ ih => exact fixed.agree_succ ih

/-- Values of which one agrees with the other and that with a third. An object in the middle that is
the same as one beside it is equal to it, since the values were built. -/
theorem Fixed.agree_trans (first : Fixed u) (second : Fixed v) (left : Built shelf contents u)
    (middle : Built shelf contents v) (right : Built shelf contents w)
    (agrees : agree shelf depth u v = true) (also : agree shelf depth v w = true) :
    agree shelf depth u w = true := by
  induction depth generalizing u v w with
  | zero =>
    rw [agree_zero] at agrees also ⊢
    exact same_trans agrees also
  | succ depth ih =>
    rcases first.agree_iff.mp agrees with same | equal | ⟨p, items, q, others, rfl, rfl, pairs⟩
    · rwa [eq_of_same left.sound middle.sound same]
    · rcases second.agree_iff.mp also with same | other | ⟨q, others, r, thirds, rfl, rfl, -⟩
      · rwa [← eq_of_same middle.sound right.sound same]
      · exact first.agree_iff.mpr (.inr (.inl (equalPlain_trans equal other)))
      · rcases equalPlain_iff.mp equal with ⟨a, b, -, number, -⟩ | ⟨i, j, s, -, string⟩ |
          ⟨-, -, same⟩
        · cases number
        · cases string
        · rwa [eq_of_same left.sound middle.sound same]
    · rcases second.agree_iff.mp also with same | other | ⟨_, _, r, thirds, tuple, rfl, further⟩
      · rwa [← eq_of_same middle.sound right.sound same]
      · rcases equalPlain_iff.mp other with ⟨a, b, number, -⟩ | ⟨i, j, s, string, -⟩ | ⟨-, -, same⟩
        · cases number
        · cases string
        · rwa [← eq_of_same middle.sound right.sound same]
      · cases tuple
        refine first.agree_iff.mpr (.inr (.inr ⟨p, items, r, thirds, rfl, rfl, ?_⟩))
        exact forall₂_trans_of_mem pairs further fun a here b between c there =>
          ih (first.member here) (second.member between) (left.member here) (middle.member between)
            (right.member there)

theorem Matches.refl (shelf : Shelf) (v : Value) : Matches shelf v v :=
  ⟨0, by rw [agree_zero, same_self]⟩

theorem Matches.symm (left : Fixed v) (right : Fixed w) (found : Matches shelf v w) :
    Matches shelf w v := by
  obtain ⟨depth, agrees⟩ := found
  exact ⟨depth, left.agree_symm right agrees⟩

theorem Matches.trans (first : Fixed u) (second : Fixed v) (left : Built shelf contents u)
    (middle : Built shelf contents v) (right : Built shelf contents w)
    (found : Matches shelf u v) (also : Matches shelf v w) : Matches shelf u w := by
  obtain ⟨depth, agrees⟩ := found
  obtain ⟨other, continues⟩ := also
  exact ⟨max depth other, first.agree_trans second left middle right
    (first.agree_mono agrees (Nat.le_max_left ..))
    (second.agree_mono continues (Nat.le_max_right ..))⟩

section Entries

variable {p q : Identity} {entries others : List (Value × Value)} {entry other : Value × Value}

theorem fixed_key (sound : Sound shelf contents (dictionary p entries))
    (standing : entry ∈ entries) : entry.1.Fixed :=
  sound.2.1 entry standing

/-- In a sound dictionary no key matches that of another entry. -/
theorem entry_eq_of_matches (sound : Sound shelf contents (dictionary p entries))
    (standing : entry ∈ entries) (facing : other ∈ entries)
    (found : Matches shelf entry.1 other.1) : entry = other := by
  have apart : entries.Pairwise fun e o =>
      ¬ Matches shelf e.1 o.1 ∧ ¬ Matches shelf o.1 e.1 :=
    sound.2.2.imp_of_mem fun here there none =>
      ⟨none, fun back => none (back.symm (fixed_key sound there) (fixed_key sound here))⟩
  have : Std.Symm fun e o : Value × Value =>
      ¬ Matches shelf e.1 o.1 ∧ ¬ Matches shelf o.1 e.1 := ⟨fun _ _ none => none.symm⟩
  by_contra distinct
  exact (apart.forall standing facing distinct).1 found

/-- Equal entries whose keys are in one order agree in pairs. -/
theorem forall₂_of_sameEntries (left : Built shelf contents (dictionary p entries))
    (right : Built shelf contents (dictionary q others))
    (keys : List.Forall₂ (Matches shelf) (entries.map (·.1)) (others.map (·.1)))
    (same : sameEntries (agree shelf depth) entries others = true) :
    List.Forall₂ (fun e o => Matches shelf e.1 o.1 ∧ agree shelf depth e.1 o.1 = true ∧
      agree shelf depth e.2 o.2 = true) entries others := by
  rw [List.forall₂_map_left_iff, List.forall₂_map_right_iff] at keys
  refine forall₂_imp_of_mem keys fun e standing o facing found => ?_
  have fixed := fixed_key left.sound standing
  have each := List.all_eq_true.mp (Bool.and_eq_true_iff.mp same).2 e standing
  dsimp only at each
  split at each
  case h_2 => cases each
  case h_1 b hit =>
    have back := List.find?_some hit
    have inside := List.mem_of_find?_eq_some hit
    have other := fixed_key right.sound inside
    -- What is found under the key is the entry that faces it.
    have one := entry_eq_of_matches right.sound inside facing (.trans other fixed
      (right.member (key_mem_members inside)) (left.member (key_mem_members standing))
      (right.member (key_mem_members facing)) ⟨depth, back⟩ found)
    subst one
    exact ⟨found, other.agree_symm fixed back, each⟩

end Entries
end Value
end LiveTemplate
