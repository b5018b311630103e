import LiveTemplate.Proofs.Value.Cast
import LiveTemplate.Proofs.Value.Form
import LiveTemplate.Proofs.Value.Keys

/-! What a suppressed change can hide. Equality of values is coarser than their text: inside
containers it sees neither the type of a number nor the sign of a zero, and nowhere the order of
keys. All else that a binding shows of two values is the same if one is no change from the
other. -/
namespace LiveTemplate

namespace Value

variable {shelf : Shelf} {contents : Contents} {v w a b : Value}

/-- `v` stands in `a` where `w` stands in `b`. -/
inductive Facing (shelf : Shelf) : Value → Value → Value → Value → Prop where
  | item {a b v w : Value} {items others : List Value} {i : Nat} :
      a.listItems? shelf = some items → b.listItems? shelf = some others →
      items[i]? = some v → others[i]? = some w → Facing shelf a b v w
  | component {p q : Identity} {v w : Value} {items others : List Value} {i : Nat} :
      items[i]? = some v → others[i]? = some w →
      Facing shelf (tuple p items) (tuple q others) v w
  | key {p q : Identity} {v w key other : Value} {entries others : List (Value × Value)} :
      (key, v) ∈ entries → (other, w) ∈ others → Matches shelf key other →
      Facing shelf (dictionary p entries) (dictionary q others) key other
  | entry {p q : Identity} {v w key other : Value} {entries others : List (Value × Value)} :
      (key, v) ∈ entries → (other, w) ∈ others → Matches shelf key other →
      Facing shelf (dictionary p entries) (dictionary q others) v w

theorem Facing.left_member (facing : Facing shelf a b v w) : v ∈ a.members shelf := by
  cases facing with
  | item held _ here _ => exact members_of_listItems held ▸ List.mem_of_getElem? here
  | component here _ => exact List.mem_of_getElem? here
  | key here _ _ => exact key_mem_members here
  | entry here _ _ => exact item_mem_members here

theorem Facing.right_member (facing : Facing shelf a b v w) : w ∈ b.members shelf := by
  cases facing with
  | item _ held _ there => exact members_of_listItems held ▸ List.mem_of_getElem? there
  | component _ there => exact List.mem_of_getElem? there
  | key _ there _ => exact key_mem_members there
  | entry _ there _ => exact item_mem_members there

theorem Facing.self (sound : Sound shelf contents a) (facing : Facing shelf a a v w) : v = w := by
  cases facing with
  | item held other here there =>
    obtain rfl := Option.some.inj (held.symm.trans other)
    exact Option.some.inj (here.symm.trans there)
  | component here there => exact Option.some.inj (here.symm.trans there)
  | key here there found => exact congrArg Prod.fst (entry_eq_of_matches sound here there found)
  | entry here there found => exact congrArg Prod.snd (entry_eq_of_matches sound here there found)

/-- The differences in text that equality does not see. -/
inductive Veiled (shelf : Shelf) : Value → Value → Prop where
  /-- Values of two types, which are numbers. -/
  | kind {a b v w : Value} : Facing shelf a b v w → v.typeName ≠ w.typeName → Veiled shelf a b
  /-- Zeros of two signs. -/
  | sign {a b : Value} {i j : Option Identity} {x y : Double} :
      Facing shelf a b (scalar i (.float x)) (scalar j (.float y)) →
      x.isZero = true → y.isZero = true → x ≠ y → Veiled shelf a b
  /-- Keys in two orders. -/
  | order {p q : Identity} {entries others : List (Value × Value)} :
      ¬ List.Forall₂ (Matches shelf) (entries.map (·.1)) (others.map (·.1)) →
      Veiled shelf (dictionary p entries) (dictionary q others)
  | deeper {a b v w : Value} : Facing shelf a b v w → Veiled shelf v w → Veiled shelf a b

/-- Values of one type that hide nothing from equality. -/
structure Plain (shelf : Shelf) (v w : Value) : Prop where
  kind : v.typeName = w.typeName
  sign {i j : Option Identity} {x y : Double} : v = scalar i (.float x) →
    w = scalar j (.float y) → x.isZero = true → y.isZero = true → x = y
  bare : ¬ Veiled shelf v w

theorem plain_of_facing (bare : ¬ Veiled shelf a b) (facing : Facing shelf a b v w) :
    Plain shelf v w where
  kind := Decidable.not_not.mp fun apart => bare (.kind facing apart)
  sign := by
    rintro i j x y rfl rfl left right
    exact Decidable.not_not.mp fun apart => bare (.sign facing left right apart)
  bare := fun veiled => bare (.deeper facing veiled)

/-- Nothing is veiled from a value that was built by itself. -/
theorem not_veiled_self (built : Built shelf contents a) : ¬ Veiled shelf a a := by
  induction built with
  | intro sound _ ih =>
    intro veiled
    cases veiled with
    | kind facing apart => exact apart (congrArg typeName (facing.self sound))
    | sign facing _ _ apart => exact apart (Scalar.float.inj (scalar.inj (facing.self sound)).2)
    | order apart => exact apart (List.forall₂_same.mpr fun key _ => .refl shelf key)
    | deeper facing veiled =>
      obtain rfl := facing.self sound
      exact ih _ facing.left_member veiled

/-- A copy of a list veils from it only what the list veils from itself. -/
theorem Veiled.of_copy {items : List Value} (held : a.listItems? shelf = some items)
    (copy : b.listItems? shelf = some items) (veiled : Veiled shelf a b) : Veiled shelf a a := by
  have facing {v w : Value} (facing : Facing shelf a b v w) : Facing shelf a a v w := by
    cases facing with
    | item _ other here there =>
      obtain rfl := Option.some.inj (copy.symm.trans other)
      exact .item held held (by simp_all) there
    | component _ _ | key _ _ _ | entry _ _ _ => cases held
  cases veiled with
  | kind here apart => exact .kind (facing here) apart
  | sign here zero other apart => exact .sign (facing here) zero other apart
  | order _ => cases held
  | deeper here veiled => exact .deeper (facing here) veiled

/-- Among sound values of one type that hold no others, equal ones have one form, the zeros
apart. -/
theorem form_eq_or_zeros (left : Sound shelf contents v) (right : Sound shelf contents w)
    (kind : v.typeName = w.typeName) (equal : equalPlain v w = true) :
    v.form = w.form ∨ ∃ i j x y, v = scalar i (.float x) ∧ w = scalar j (.float y) ∧
      x.isZero = true ∧ y.isZero = true := by
  rcases equalPlain_iff.mp equal with ⟨a, b, first, second, equals⟩ | ⟨i, j, s, rfl, rfl⟩ |
    ⟨-, -, same⟩
  · cases v with
    | bool b =>
      cases w with
      | bool c => cases b <;> cases c <;> first | exact .inl rfl | cases equal
      | scalar id s => exact absurd kind.symm (Scalar.typeName_ne (by simp [typeName]) s)
      | _ => cases second
    | scalar i s =>
      cases w with
      | scalar j t =>
        cases s <;> cases t <;> simp [typeName, Scalar.typeName] at kind
        · left
          simpa [equalPlain, quantity?, Quantity.ofInt, Quantity.equals, form] using equal
        · rename_i x y
          cases first
          cases second
          rcases Double.eq_or_zeros_of_equals left right equals with rfl | ⟨zero, other⟩
          · exact .inl rfl
          · exact .inr ⟨i, j, x, y, rfl, rfl, zero, other⟩
        · cases first
      | bool c => exact absurd kind (Scalar.typeName_ne (by simp [typeName]) s)
      | _ => cases second
    | _ => cases first
  · exact .inl rfl
  · exact .inl (congrArg form (eq_of_same left right same))

theorem written_eq_of_form {budget : Nat} (forms : v.form = w.form) :
    writtenWithin shelf budget [] v = writtenWithin shelf budget [] w := by
  have plain (v : Value) :
      writtenWithin shelf budget [] v.form = writtenWithin shelf budget [] v := by
    cases budget <;> cases v <;> rfl
  rw [← plain, forms, plain]

theorem forall₂_of_index {α β : Type} {R S : α → β → Prop} {as : List α} {bs : List β}
    (pairs : List.Forall₂ R as bs)
    (each : ∀ (i : Nat) (a : α) (b : β), as[i]? = some a → bs[i]? = some b → R a b → S a b) :
    List.Forall₂ S as bs := by
  induction pairs with
  | nil => exact .nil
  | cons head _ ih =>
    exact .cons (each 0 _ _ rfl rfl head) (ih fun i => each (i + 1))

/-- Agreeing values that hide nothing from equality have one text, or none for one reason. -/
theorem written_of_agree {depth budget : Nat} (left : Built shelf contents a)
    (right : Built shelf contents b) (plain : Plain shelf a b)
    (agrees : agree shelf depth a b = true) :
    writtenWithin shelf budget [] a = writtenWithin shelf budget [] b := by
  -- The induction is on how deep the values are compared; how deep they are written follows.
  induction depth generalizing a b budget with
  | zero =>
    obtain rfl := eq_of_same left.sound right.sound (by simpa [agree, equalWithin] using agrees)
    rfl
  | succ depth ih =>
    rcases Bool.or_eq_true_iff.mp agrees with same | equal
    · obtain rfl := eq_of_same left.sound right.sound same
      rfl
    cases budget with
    | zero => rfl
    | succ budget =>
      have each {v w : Value} (facing : Facing shelf a b v w)
          (agrees : agree shelf depth v w = true) :
          writtenWithin shelf budget [] v = writtenWithin shelf budget [] w :=
        ih (left.member facing.left_member) (right.member facing.right_member)
          (plain_of_facing plain.bare facing) agrees
      rcases equalWithin_cases equal with ⟨items, others, held, facing, pairs⟩ |
        ⟨p, items, q, others, rfl, rfl, pairs⟩ | ⟨p, entries, q, others, rfl, rfl, same⟩ | equal
      · rw [written_list left held, written_list right facing]
        exact congrArg (Except.map inBrackets) (mapM_eq_of_forall₂ (forall₂_of_index pairs
          fun _ _ _ here there => each (.item held facing here there)))
      · rw [written_tuple left, written_tuple right]
        exact congrArg (Except.map inParentheses) (mapM_eq_of_forall₂ (forall₂_of_index pairs
          fun _ _ _ here there => each (.component here there)))
      · have keys : List.Forall₂ (Matches shelf) (entries.map (·.1)) (others.map (·.1)) :=
          Classical.not_not.mp fun apart => plain.bare (.order apart)
        rw [written_dictionary left, written_dictionary right]
        refine congrArg (Except.map inBraces) (mapM_eq_of_forall₂
          (forall₂_imp_of_mem (forall₂_of_sameEntries left right keys same) ?_))
        rintro ⟨key, v⟩ here ⟨other, w⟩ there ⟨found, agreesKey, agrees⟩
        exact entryText_congr (each (.key here there found) agreesKey)
          (each (.entry here there found) agrees)
      · rcases form_eq_or_zeros left.sound right.sound plain.kind equal with
          forms | ⟨i, j, x, y, rfl, rfl, zero, other⟩
        · exact written_eq_of_form forms
        · rw [plain.sign rfl rfl zero other]
          exact written_eq_of_form rfl

theorem truth_of_listItems {items : List Value} (held : v.listItems? shelf = some items) :
    v.truth? shelf = some (!items.isEmpty) := by
  cases v <;> cases held <;> rfl

/-- Agreeing values of one type are both true or both false. -/
theorem truth_of_agree {depth : Nat} (left : Sound shelf contents a)
    (right : Sound shelf contents b) (kind : a.typeName = b.typeName)
    (agrees : agree shelf depth a b = true) : a.truth? shelf = b.truth? shelf := by
  rcases Bool.or_eq_true_iff.mp agrees with same | equal
  · rw [eq_of_same left right same]
  cases depth with
  | zero => cases equal
  | succ depth =>
    rcases equalWithin_cases equal with ⟨items, others, held, facing, pairs⟩ |
      ⟨p, items, q, others, rfl, rfl, pairs⟩ | ⟨p, entries, q, others, rfl, rfl, same⟩ | equal
    · rw [truth_of_listItems held, truth_of_listItems facing, isEmpty_of_length pairs.length_eq]
    · rw [truth?, truth?, isEmpty_of_length pairs.length_eq]
    · have sizes : entries.length = others.length :=
        beq_iff_eq.mp (Bool.and_eq_true_iff.mp same).1
      rw [truth?, truth?, isEmpty_of_length sizes]
    · rcases form_eq_or_zeros left right kind equal with
        forms | ⟨i, j, x, y, rfl, rfl, zero, other⟩
      · exact truth?_eq_of_form forms
      · rw [truth?, truth?, Scalar.truth, Scalar.truth, zero, other]

/-- A sound value that counts as no change agrees with the one before it and has its type. -/
theorem agree_of_unchanged (left : Sound shelf contents a) (unchanged : differs shelf a b = false) :
    agree shelf nestingLimit a b = true ∧ a.typeName = b.typeName := by
  unfold differs at unchanged
  split at unchanged
  · rename_i same
    exact ⟨Bool.or_eq_true_iff.mpr (.inl same), typeName_of_same same⟩
  · split at unchanged
    · cases unchanged
    · rename_i kind
      refine ⟨Bool.or_eq_true_iff.mpr (.inr ?_), Decidable.not_not.mp kind⟩
      cases a with
      | object _ _ => exact left.elim
      | _ =>
        simp only [unequal, Bool.not_eq_false'] at unchanged
        exact unchanged

/-- What agrees with a string is a string of the same characters. -/
theorem str_of_agree {depth : Nat} {i : Option Identity} {s : String}
    (agrees : agree shelf depth (scalar i (.str s)) b = true) : ∃ j, b = scalar j (.str s) := by
  have fixed : Fixed (scalar i (.str s)) := .scalar i (.str s)
  have own {b : Value} (same : (scalar i (.str s)).same b = true) : ∃ j, b = scalar j (.str s) := by
    cases b <;> simp_all [Value.same]
  rcases fixed.agree_iff.mp (fixed.agree_succ agrees) with same | equal | ⟨_, _, _, _, tuple, -⟩
  · exact own same
  · rcases equalPlain_iff.mp equal with ⟨_, _, number, -⟩ | ⟨_, j, _, same, rfl⟩ | ⟨-, -, same⟩
    · cases number
    · cases same
      exact ⟨j, rfl⟩
    · exact own same
  · cases tuple

theorem display_eq_written (sound : Sound shelf contents v) (other : ∀ i s, v ≠ scalar i (.str s)) :
    v.display shelf = v.written shelf := by
  cases v with
  | scalar i s =>
    cases s with
    | str s => exact (other i s rfl).elim
    | int _ | float _ => rfl
  | object _ _ => exact sound.elim
  | _ => rfl

/-- Of true values that are no change from one another and hide nothing, a reader sees the same. -/
theorem display_of_unchanged (left : Built shelf contents a) (right : Built shelf contents b)
    (unchanged : differs shelf a b = false) (bare : ¬ Veiled shelf a b)
    (holds : a.truth? shelf = some true) : a.display shelf = b.display shelf := by
  obtain ⟨agrees, kind⟩ := agree_of_unchanged left.sound unchanged
  have plain : Plain shelf a b := by
    refine ⟨kind, ?_, bare⟩
    -- A zero is false, so at the top its sign is never shown.
    rintro i j x y rfl rfl zero
    simp [truth?, Scalar.truth, zero] at holds
  by_cases string : ∃ i s, a = scalar i (.str s)
  · obtain ⟨i, s, rfl⟩ := string
    obtain ⟨j, rfl⟩ := str_of_agree agrees
    rfl
  · have other (i : Option Identity) (s : String) : a ≠ scalar i (.str s) :=
      fun here => string ⟨i, s, here⟩
    have facing (i : Option Identity) (s : String) : b ≠ scalar i (.str s) := by
      rintro rfl
      cases a with
      | scalar j t => cases t <;> simp_all [typeName, Scalar.typeName]
      | _ => simp [typeName, Scalar.typeName] at kind
    rw [display_eq_written left.sound other, display_eq_written right.sound facing]
    exact written_of_agree left right plain agrees

end Value

namespace Descriptor

open Value

variable {shelf : Shelf} {contents : Contents} {a b : Value}

theorem readable_of_unchanged (left : Built shelf contents a) (right : Built shelf contents b)
    (unchanged : differs shelf a b = false) (bare : ¬ Veiled shelf a b) :
    a.readable shelf = b.readable shelf := by
  obtain ⟨agrees, kind⟩ := agree_of_unchanged left.sound unchanged
  have truth := truth_of_agree left.sound right.sound kind agrees
  cases tested : a.truth? shelf with
  | none => rw [readable_of_refused tested, readable_of_refused (truth ▸ tested)]
  | some holds =>
    cases holds with
    | true =>
      rw [readable_of_true tested, readable_of_true (truth ▸ tested)]
      exact display_of_unchanged left right unchanged bare tested
    | false => rw [readable_of_false tested, readable_of_false (truth ▸ tested)]

/-- A value that is no change from another is as true as that, so a boolean attribute is the same
for both. Its text is the same too, and what a text or attribute binding keeps and applies,
unless the two values veil from equality what their text shows. -/
theorem unchanged_shows_alike (shelf : Shelf) (contents : Contents) (a b : Value)
    (left : Built shelf contents a) (right : Built shelf contents b)
    (unchanged : differs shelf a b = false) :
    a.truth? shelf = b.truth? shelf ∧
      (∀ d : Descriptor, d.kind = .booleanAttribute → d.cast shelf a = d.cast shelf b) ∧
      (Veiled shelf a b ∨ a.readable shelf = b.readable shelf ∧
        ∀ d : Descriptor, d.kind = .text ∨ d.kind = .attributeValue →
          d.cast shelf a = d.cast shelf b) := by
  obtain ⟨agrees, kind⟩ := agree_of_unchanged left.sound unchanged
  have truth := truth_of_agree left.sound right.sound kind agrees
  refine ⟨truth, fun d flag => ?_, ?_⟩
  · simp only [cast, flag, castFlag, truth]
  · by_cases veiled : Veiled shelf a b
    · exact .inl veiled
    · have text := readable_of_unchanged left right unchanged veiled
      refine .inr ⟨text, ?_⟩
      rintro d (written | written) <;> simp only [cast, written, castText_eq_readable, text]

/-- The double next to one tenth. -/
def tenth : Double := .finite false 7205759403792794 (-56)

theorem normal_tenth : tenth.Normal :=
  have read : Double.ofText? "0.1" = some tenth := by decide +kernel
  Double.normal_of_ofText read

/-- A tuple, and a dictionary with a number for a key. -/
def row : List Value :=
  [.tuple 3 [.float tenth, .bool true], .dictionary 4 [(.int 1, .str "x")]]

def rowContents : Contents where
  list _ := row
  tuple _ := [.float tenth, .bool true]
  dictionary _ := [(.int 1, .str "x")]

theorem built_row {shelf : Shelf} {v : Value} (inside : v ∈ row) :
    Built shelf rowContents v := by
  rcases List.mem_pair.mp inside with rfl | rfl
  · refine .intro rfl fun w held => ?_
    rcases List.mem_pair.mp held with rfl | rfl
    · exact .plain normal_tenth rfl
    · exact .plain trivial rfl
  · refine .intro ⟨rfl, by simp [Fixed.scalar], by simp⟩ fun w held => ?_
    rcases List.mem_pair.mp held with rfl | rfl <;> exact .plain trivial rfl

/-- A row in a list of its own, and a copy of that list on the shelf. -/
theorem copiedRow_shows_alike :
    let shelf : Shelf := #[row]
    differs shelf (.list 1 row) (.sharedList 0) = false ∧
      truth? shelf (.list 1 row) = truth? shelf (.sharedList 0) ∧
      readable shelf (.list 1 row) = readable shelf (.sharedList 0) := by
  intro shelf
  have unchanged : differs shelf (.list 1 row) (.sharedList 0) = false := rfl
  have built : Built shelf rowContents (.list 1 row) := .intro rfl fun _ => built_row
  have alike := unchanged_shows_alike shelf rowContents (.list 1 row) (.sharedList 0) built
    (.intro trivial fun _ => built_row) unchanged
  have bare : ¬ Veiled shelf (.list 1 row) (.sharedList 0) :=
    fun veiled => not_veiled_self built (veiled.of_copy rfl rfl)
  exact ⟨unchanged, alike.1, (alike.2.2.resolve_left bare).1⟩

/-- Values that count as no change from each other, with different texts. -/
def Hides (a b : Value) (before after : String) : Prop :=
  (∃ contents, Built #[] contents a ∧ Built #[] contents b) ∧ differs #[] b a = false ∧
    a.readable #[] = .ok before ∧ b.readable #[] = .ok after ∧ before ≠ after

theorem singletons_built {v w : Value} (left : ∀ contents, Built #[] contents v)
    (right : ∀ contents, Built #[] contents w) :
    ∃ contents, Built #[] contents (.list 1 [v]) ∧ Built #[] contents (.list 2 [w]) :=
  ⟨⟨fun id => if id = 1 then [v] else [w], fun _ => [], fun _ => []⟩,
    .intro rfl fun _ inside => (List.mem_singleton.mp inside).symm ▸ left _,
    .intro rfl fun _ inside => (List.mem_singleton.mp inside).symm ▸ right _⟩

/-- Keys that cannot change and are told apart make a sound dictionary of plain values. -/
theorem dictionaries_built {entries others : List (Value × Value)}
    (left : ∀ contents, ∀ v ∈ (dictionary 1 entries).members #[], Built #[] contents v)
    (right : ∀ contents, ∀ v ∈ (dictionary 2 others).members #[], Built #[] contents v)
    (fixed : (∀ entry ∈ entries, entry.1.Fixed) ∧ ∀ entry ∈ others, entry.1.Fixed)
    (apart : entries.Pairwise (fun entry other => ¬ Matches #[] entry.1 other.1) ∧
      others.Pairwise fun entry other => ¬ Matches #[] entry.1 other.1) :
    ∃ contents, Built #[] contents (.dictionary 1 entries) ∧
      Built #[] contents (.dictionary 2 others) :=
  ⟨⟨fun _ => [], fun _ => [], fun id => if id = 1 then entries else others⟩,
    .intro ⟨rfl, fixed.1, apart.1⟩ (left _), .intro ⟨rfl, fixed.2, apart.2⟩ (right _)⟩

theorem not_matches_of_apart {s t : String} (apart : s ≠ t) : ¬ Matches #[] (.str s) (.str t) := by
  rintro ⟨depth, agrees⟩
  obtain ⟨j, same⟩ := str_of_agree agrees
  cases same
  exact apart rfl

/-- One way for each kind of veil: the type of a number, also as a key, the sign of a zero, the
order of keys. -/
theorem hidden_changes :
    Hides (.list 1 [.int 1]) (.list 2 [.bool true]) "[1]" "[True]" ∧
    Hides (.dictionary 1 [(.int 1, .null)]) (.dictionary 2 [(.bool true, .null)])
      "\x7b1: None\x7d" "\x7bTrue: None\x7d" ∧
    Hides (.list 1 [.float (.zero false)]) (.list 2 [.float (.zero true)]) "[0.0]" "[-0.0]" ∧
    Hides (.dictionary 1 [(.str "v", .null), (.str "w", .null)])
      (.dictionary 2 [(.str "w", .null), (.str "v", .null)]) "\x7b'v': None, 'w': None\x7d"
      "\x7b'w': None, 'v': None\x7d" := by
  have null (contents : Contents) : Built #[] contents .null := .plain trivial rfl
  have str (s : String) (contents : Contents) : Built #[] contents (.str s) := .plain trivial rfl
  refine ⟨⟨?kinds, rfl, rfl, rfl, by decide⟩, ⟨?keys, rfl, rfl, rfl, by decide⟩,
    ⟨?signs, by decide +kernel, rfl, rfl, by decide⟩, ⟨?orders, rfl, rfl, rfl, by decide⟩⟩
  case kinds =>
    exact singletons_built (fun _ => .plain trivial rfl) (fun _ => .plain trivial rfl)
  case keys =>
    refine dictionaries_built (fun contents => ?_) (fun contents => ?_)
      ⟨by simp [Fixed.scalar], by simp [Fixed.bool]⟩ ⟨by simp, by simp⟩
    · have one : Built #[] contents (.int 1) := .plain trivial rfl
      simp [members, null, one]
    · have yes : Built #[] contents (.bool true) := .plain trivial rfl
      simp [members, null, yes]
  case signs =>
    exact singletons_built (fun _ => .plain (Double.normal_zero false) rfl)
      (fun _ => .plain (Double.normal_zero true) rfl)
  case orders =>
    refine dictionaries_built (fun contents => ?_) (fun contents => ?_)
      ⟨by simp [Fixed.scalar], by simp [Fixed.scalar]⟩
      ⟨by simp [not_matches_of_apart], by simp [not_matches_of_apart]⟩ <;>
    simp [members, null, str]

end Descriptor
end LiveTemplate
