import LiveTemplate.Proofs.Value.Built
import Mathlib.Logic.Relator

/-! Values that are the same up to the identities of their objects. Nothing that is asked of a value
tells twins apart: neither a truth test nor its text does, and two values are the same object
exactly if their twins are. -/
namespace LiveTemplate

namespace Value

/-- The identity of an object that another one may equal. -/
def identity? : Value → Option Identity
  | scalar id _ => id
  | list id _ | tuple id _ | dictionary id _ | object id _ => some id
  | _ => none

/-- Both are built alike from objects whose identities are paired. -/
inductive Twin (pairs : Identity → Identity → Prop) : Value → Value → Prop where
  | plain {v : Value} (unnamed : v.identity? = none) : Twin pairs v v
  | scalar {i j : Identity} (paired : pairs i j) (s : Scalar) :
      Twin pairs (scalar (some i) s) (scalar (some j) s)
  | object {i j : Identity} (paired : pairs i j) (o : HostObject) :
      Twin pairs (object i o) (object j o)
  | list {i j : Identity} {items others : List Value} (paired : pairs i j)
      (length : items.length = others.length)
      (each : ∀ v w, (v, w) ∈ items.zip others → Twin pairs v w) :
      Twin pairs (list i items) (list j others)
  | tuple {i j : Identity} {items others : List Value} (paired : pairs i j)
      (length : items.length = others.length)
      (each : ∀ v w, (v, w) ∈ items.zip others → Twin pairs v w) :
      Twin pairs (tuple i items) (tuple j others)
  | dictionary {i j : Identity} {entries others : List (Value × Value)} (paired : pairs i j)
      (length : entries.length = others.length)
      (keys : ∀ a b, (a, b) ∈ entries.zip others → Twin pairs a.1 b.1)
      (each : ∀ a b, (a, b) ∈ entries.zip others → Twin pairs a.2 b.2) :
      Twin pairs (dictionary i entries) (dictionary j others)

/-- Every identity in the value is one of these. -/
def Within (known : Identity → Prop) (v : Value) : Prop := Twin (fun i j => i = j ∧ known i) v v

variable {pairs : Identity → Identity → Prop} {shelf : Shelf} {v w v' w' : Value}

theorem Twin.mono {others : Identity → Identity → Prop} (more : ∀ i j, pairs i j → others i j)
    (twin : Twin pairs v w) : Twin others v w := by
  induction twin with
  | plain unnamed => exact .plain unnamed
  | scalar paired s => exact .scalar (more _ _ paired) s
  | object paired o => exact .object (more _ _ paired) o
  | list paired length _ ih => exact .list (more _ _ paired) length ih
  | tuple paired length _ ih => exact .tuple (more _ _ paired) length ih
  | dictionary paired length _ _ keys ih => exact .dictionary (more _ _ paired) length keys ih

/-- A value is a twin of itself if its identities are paired with themselves. -/
theorem Within.twin {known : Identity → Prop} (within : v.Within known)
    (fixed : ∀ i, known i → pairs i i) : Twin pairs v v :=
  Twin.mono (fun i j => by rintro ⟨rfl, held⟩; exact fixed i held) within

theorem beq_of_paired (oneToOne : Relator.BiUnique pairs) {i j k l : Identity} (first : pairs i j)
    (second : pairs k l) : (i == k) = (j == l) := by
  rw [Bool.eq_iff_iff, beq_iff_eq, beq_iff_eq]
  exact Relator.rel_eq oneToOne first second

theorem Twin.same_eq (oneToOne : Relator.BiUnique pairs) (twin : Twin pairs v w)
    (other : Twin pairs v' w') : v.same v' = w.same w' := by
  cases twin with
  | plain unnamed =>
    cases other with
    | plain _ => rfl
    | _ => cases v <;> first | rfl | (cases unnamed; done) | (cases unnamed; rfl)
  | scalar paired s =>
    cases other with
    | plain unnamed => cases v' <;> first | rfl | (cases unnamed; done) | (cases unnamed; rfl)
    | scalar also t => exact congrArg (· && s == t) (beq_of_paired oneToOne paired also)
    | _ => rfl
  | _ =>
    cases other with
    | plain unnamed => cases v' <;> first | rfl | cases unnamed
    | _ => first | rfl | exact beq_of_paired oneToOne ‹_› ‹_›

theorem Twin.truth?_eq (twin : Twin pairs v w) : v.truth? shelf = w.truth? shelf := by
  cases twin with
  | plain | scalar | object => rfl
  | list _ length _ | tuple _ length _ | dictionary _ length _ _ =>
    simp only [truth?, isEmpty_of_length length]

/-- What an object stands in has met it exactly if its twin was met. -/
theorem Twin.met_eq (oneToOne : Relator.BiUnique pairs) (twin : Twin pairs v w)
    {around outer : List Value} (standing : List.Forall₂ (Twin pairs) around outer) :
    around.any v.same = outer.any w.same := by
  induction standing with
  | nil => rfl
  | cons first _ ih => rw [List.any_cons, List.any_cons, twin.same_eq oneToOne first, ih]

section Text

variable (oneToOne : Relator.BiUnique pairs)
  (lists : ∀ place, ∀ v ∈ shelf.items place, Twin pairs v v)
include oneToOne lists

theorem Twin.writtenWithin_eq {depth : Nat} {around outer : List Value} (twin : Twin pairs v w)
    (standing : List.Forall₂ (Twin pairs) around outer) :
    writtenWithin shelf depth around v = writtenWithin shelf depth outer w := by
  induction depth generalizing v w around outer with
  | zero => rfl
  | succ depth ih =>
    have met := twin.met_eq oneToOne standing
    have item {a b : Value} (inner : Twin pairs a b) :
        writtenWithin shelf depth (v :: around) a = writtenWithin shelf depth (w :: outer) b :=
      ih inner (.cons twin standing)
    have items {as bs : List Value} (length : as.length = bs.length)
        (each : ∀ a b, (a, b) ∈ as.zip bs → Twin pairs a b) :
        as.mapM (writtenWithin shelf depth (v :: around)) =
          bs.mapM (writtenWithin shelf depth (w :: outer)) :=
      mapM_eq_of_forall₂
        (List.forall₂_iff_zip.mpr ⟨length, fun member => item (each _ _ member)⟩)
    cases twin with
    | scalar | object => rfl
    | plain unnamed =>
      cases v with
      | sharedList place =>
        simp only [writtenWithin, met]
        rw [mapM_congr fun a inside => item (lists place a inside)]
      | _ => first | rfl | cases unnamed
    | list paired length each | tuple paired length each =>
      simp only [writtenWithin, met, items length each]
    | dictionary paired length keys each =>
      simp only [writtenWithin, met]
      congr 2
      refine mapM_eq_of_forall₂ (List.forall₂_iff_zip.mpr ⟨length, fun member => ?_⟩)
      exact entryText_congr (item (keys _ _ member)) (item (each _ _ member))

theorem Twin.display_eq (twin : Twin pairs v w) : v.display shelf = w.display shelf := by
  have texts : written shelf v = written shelf w := twin.writtenWithin_eq oneToOne lists .nil
  cases twin with
  | object | plain => rfl
  | scalar paired s =>
    cases s with
    | str s => rfl
    | int _ | float _ => exact texts
  | _ => exact texts

end Text

end Value
end LiveTemplate
