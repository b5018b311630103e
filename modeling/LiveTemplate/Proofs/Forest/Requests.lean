import LiveTemplate.Proofs.Forest.Moves

/-! Requests to a forest, and what becomes of them. In a consistent forest a request is granted
exactly if it fits; what each kind leaves, granted or refused, is said once here. -/
namespace LiveTemplate

namespace Text

theorem cut_outside {text : List Char} {offset : Int}
    (outside : offset < 0 ∨ (text.length : Int) < offset) :
    cut text offset = .error (.cutOutOfRange offset text.length) := by
  refine if_neg fun whole => ?_
  rw [List.length_take] at whole
  omega

theorem cut_inside {text : List Char} {offset : Int}
    (inside : ¬ (offset < 0 ∨ (text.length : Int) < offset)) :
    ∃ head tail, cut text offset = .ok (head, tail) := by
  refine ⟨_, _, if_pos ?_⟩
  rw [List.length_take]
  omega

end Text

namespace Outcome

/-- The answer of an edit is left out. -/
def forget {α : Type} (o : Outcome α) : Outcome Unit := ⟨o.result.map fun _ => (), o.forest⟩

end Outcome

namespace Forest

/-- What a forest is asked to do. A request that is refused may have changed the forest too. -/
inductive Request where
  | construct (content : Content Value) (children : List NodeId)
  /-- The nodes are appended one by one. -/
  | append (parent : NodeId) (nodes : List NodeId)
  | insert (parent : NodeId) (position : Int) (n : NodeId)
  | insertAfter (parent reference n : NodeId)
  | remove (n : NodeId)
  | removeChild (parent n : NodeId)
  | index (parent n : NodeId)
  | split (n : NodeId) (offset : Int)

namespace Request

def apply : Request → Forest → Outcome Unit
  | construct content children, f => (f.construct content children).forget
  | append parent nodes, f => f.appendAll parent nodes
  | insert parent position n, f => f.insert parent position n
  | insertAfter parent reference n, f => f.insertAfter parent reference n
  | remove n, f => f.detach n
  | removeChild parent n, f => f.removeChild parent n
  | index parent n, f => ⟨(f.index parent n).map fun _ => (), f⟩
  | split n offset, f => (f.split n offset).forget

/-- All nodes exist; a new node lists no child twice, and only texts are split. -/
def Known (f : Forest) : Request → Prop
  | construct _ children => (∀ c ∈ children, c < f.size) ∧ children.Nodup
  | append parent nodes => parent < f.size ∧ ∀ n ∈ nodes, n < f.size
  | insert parent _ n => parent < f.size ∧ n < f.size
  | insertAfter parent reference n => parent < f.size ∧ reference < f.size ∧ n < f.size
  | remove n => n < f.size
  | removeChild parent n | index parent n => parent < f.size ∧ n < f.size
  | split n _ => (f.content n).type = .text

instance (f : Forest) : (r : Request) → Decidable (r.Known f)
  | construct .. | append .. | insert .. | insertAfter .. | removeChild .. | index .. =>
    inferInstanceAs (Decidable (_ ∧ _))
  | remove _ => inferInstanceAs (Decidable (_ < _))
  | split .. => inferInstanceAs (Decidable (_ = _))

/-- The request asks for something that the forest does not have. -/
def Misfits (f : Forest) : Request → Prop
  | construct .. | append .. | remove _ => False
  | insert _ position _ => ¬ IsPosition position
  | insertAfter parent reference n => reference ∉ f.children parent ∨ reference = n
  | removeChild parent n | index parent n => n ∉ f.children parent
  | split n offset => offset < 0 ∨ ((f.content n).data.toList.length : Int) < offset

end Request

/-- The nodes have come to the end of a list one after the other. -/
inductive Appended (p : NodeId) : Forest → List NodeId → Forest → Prop
  | nil {f : Forest} (consistent : f.Consistent) : Appended p f [] f
  | cons {f g h : Forest} {n : NodeId} {rest : List NodeId}
      (first : Moved f p n ((f.children p).filter (· ≠ n) ++ [n]) g)
      (others : Appended p g rest h) : Appended p f (n :: rest) h

/-- What a granted request leaves. -/
inductive Grants (f : Forest) : Request → Forest → Prop
  | construct {content : Content Value} {children : List NodeId} {g : Forest}
      (sound : g.Consistent) (adopting : Adopting f content children children g) :
      Grants f (.construct content children) g
  | append {p : NodeId} {nodes : List NodeId} {g : Forest} (appended : Appended p f nodes g) :
      Grants f (.append p nodes) g
  | insert {p n : NodeId} {position : Int} {g : Forest}
      (moved : Moved f p n (insertAt position n ((f.children p).filter (· ≠ n))) g) :
      Grants f (.insert p position n) g
  | insertAfter {p reference n : NodeId} {g : Forest}
      (moved : Moved f p n
        (inPlaceOf reference [reference, n] ((f.children p).filter (· ≠ n))) g) :
      Grants f (.insertAfter p reference n) g
  | remove {n : NodeId} {g : Forest} (removed : Removed f n g) : Grants f (.remove n) g
  | removeChild {p n : NodeId} {g : Forest} (removed : Removed f n g) :
      Grants f (.removeChild p n) g
  | index {p n : NodeId} : Grants f (.index p n) f
  | split {n : NodeId} {offset : Int} {head tail : String} {g : Forest} (here : n < f.size)
      (spread : Spread f n [head, tail] g) : Grants f (.split n offset) g

/-- What a refused request leaves. -/
inductive Leaves (f : Forest) : Request → Outcome Unit → Prop
  | index {p n : NodeId} : Leaves f (.index p n) ⟨.error .notAChild, f⟩
  | removeChild {p n : NodeId} : Leaves f (.removeChild p n) ⟨.error .notAChild, f⟩
  | split {n : NodeId} {offset : Int} : Leaves f (.split n offset)
      ⟨.error (.cutOutOfRange offset (f.content n).data.toList.length), f⟩
  /-- The node stands nowhere, and all else is as it was. -/
  | insertAfter {p reference n : NodeId} {g : Forest} (removed : Removed f n g) :
      Leaves f (.insertAfter p reference n) ⟨.error .notAChild, g⟩
  /-- Besides, it has a parent that does not list it. -/
  | insert {p n : NodeId} {position : Int} {g : Forest} (removed : Removed f n g) :
      Leaves f (.insert p position n) ⟨.error .positionTooLarge, g.setParent n (some p)⟩

section
variable {f : Forest} {r : Request}

theorem Consistent.appendAll {p : Nat} {nodes : List NodeId} (consistent : f.Consistent)
    (above : p < f.size) (here : ∀ n ∈ nodes, n < f.size) :
    ∃ g, f.appendAll p nodes = ⟨.ok (), g⟩ ∧ Appended p f nodes g := by
  induction nodes generalizing f with
  | nil => exact ⟨f, rfl, .nil consistent⟩
  | cons n rest ih =>
    obtain ⟨first, others⟩ := List.forall_mem_cons.mp here
    obtain ⟨g, done, moved⟩ := consistent.append first above
    rw [← moved.size] at above others
    obtain ⟨h, rest_done, appended⟩ := ih moved.consistent above others
    refine ⟨h, ?_, .cons moved appended⟩
    rw [Forest.appendAll, done]
    exact rest_done

theorem text_of_type {n : Nat} (kind : (f.content n).type = .text) :
    ∃ data, f.content n = .text data := by
  cases shown : f.content n with
  | text data => exact ⟨data, rfl⟩
  | _ => rw [shown] at kind; cases kind

namespace Request

/-- A request that fits is granted, and one that does not is refused. -/
theorem apply_cases (consistent : f.Consistent) (known : r.Known f) :
    (¬ r.Misfits f ∧ (r.apply f).result = .ok () ∧ Grants f r (r.apply f).forest) ∨
      r.Misfits f ∧ Leaves f r (r.apply f) := by
  cases r with
  | construct content children =>
    obtain ⟨g, done, sound, adopting⟩ :=
      consistent.construct_adopting content known.1 known.2
    rw [apply, done]
    exact .inl ⟨id, rfl, .construct sound adopting⟩
  | append p nodes =>
    obtain ⟨g, done, appended⟩ := consistent.appendAll known.1 known.2
    rw [apply, done]
    exact .inl ⟨id, rfl, .append appended⟩
  | insert p position n =>
    by_cases inRange : IsPosition position
    · obtain ⟨g, done, moved⟩ := consistent.insert known.2 known.1 inRange
      rw [apply, done]
      exact .inl ⟨not_not_intro inRange, rfl, .insert moved⟩
    · obtain ⟨g, done, removed⟩ := consistent.insert_outside (p := p) (n := n) inRange
      rw [apply, done]
      exact .inr ⟨inRange, .insert removed⟩
  | insertAfter p reference n =>
    by_cases missing : reference ∉ f.children p ∨ reference = n
    · obtain ⟨g, done, removed⟩ := consistent.insertAfter_missing missing
      rw [apply, done]
      exact .inr ⟨missing, .insertAfter removed⟩
    · obtain ⟨child, other⟩ := not_or.mp missing
      obtain ⟨g, done, moved⟩ := consistent.insertAfter known.2.2 (not_not.mp child) other
      rw [apply, done]
      exact .inl ⟨missing, rfl, .insertAfter moved⟩
  | remove n =>
    obtain ⟨g, done, removed⟩ := consistent.detach n
    rw [apply, done]
    exact .inl ⟨id, rfl, .remove removed⟩
  | removeChild p n =>
    by_cases child : n ∈ f.children p
    · obtain ⟨g, done, removed⟩ := consistent.removeChild child
      rw [apply, done]
      exact .inl ⟨not_not_intro child, rfl, .removeChild removed⟩
    · rw [apply, Forest.removeChild, index_missing child]
      exact .inr ⟨child, .removeChild⟩
  | index p n =>
    by_cases child : n ∈ f.children p
    · rw [apply, Consistent.index_eq child]
      exact .inl ⟨not_not_intro child, rfl, .index⟩
    · rw [apply, index_missing child]
      exact .inr ⟨child, .index⟩
  | split n offset =>
    obtain ⟨data, text⟩ := text_of_type known
    have held : (f.content n).data = data := by rw [text]; rfl
    by_cases outside : offset < 0 ∨ (data.toList.length : Int) < offset
    · rw [apply, Forest.split, held, Text.cut_outside outside, ← held]
      exact .inr ⟨by rw [Misfits, held]; exact outside, .split⟩
    · obtain ⟨head, tail, cut⟩ := Text.cut_inside outside
      obtain ⟨g, done, spread⟩ := consistent.split text cut
      rw [apply, done]
      refine .inl ⟨by rw [Misfits, held]; exact outside, rfl, ?_⟩
      exact .split (lt_size_of_content (by simp [text])) spread

end Request

end

end Forest
end LiveTemplate
