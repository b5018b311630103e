import LiveTemplate.Proofs.Forest.Copied
import LiveTemplate.Proofs.Placeholder.Leftmost
import LiveTemplate.Proofs.Template.Numbering

/-! Compiling by edits in place. The copy of a source is cut up where it stands: what is left of a
text is split before and behind each placeholder, and the texts that turn out empty are taken away
at the end. Every offset lies inside its text and nothing that is looked up is missed. -/
namespace LiveTemplate

namespace InPlace

open Compile (textDescriptor Piece)
open Placeholder (Placed slice)

/-- What is noted down on the way: the next free number, the bindings by number, and the texts that
are to be taken away. -/
structure Notes where
  next : Nat
  table : BindingTable
  emptied : List NodeId

namespace Notes

/-- A binding of the node that has the next number. -/
def bind (notes : Notes) (d : Descriptor) : Notes :=
  let before := (notes.table.find? (notes.next : Int)).getD []
  { notes with table := notes.table.set notes.next (before ++ [d]) }

def count (notes : Notes) : Notes := { notes with next := notes.next + 1 }

def discard (n : NodeId) (notes : Notes) : Notes := { notes with emptied := notes.emptied ++ [n] }

end Notes

/-- A text takes a number, unless it is empty. -/
def claim (n : NodeId) (notes : Notes) (f : Forest) : Notes :=
  if (f.content n).data.isEmpty then notes.discard n else notes.count

/-- The place in a text that is being cut: `current` holds what the text has from `consumed` on. -/
structure Cursor where
  current : NodeId
  consumed : Nat
  notes : Notes

/-- What is left of the text is cut before the placeholder and behind it, and the part between is
emptied. -/
def cutAt (p : Placeholder) (c : Cursor) (f : Forest) : Outcome Cursor :=
  (f.split c.current ((p.start : Int) - c.consumed)).andThen fun span f =>
    let notes := claim c.current c.notes f
    (f.split span p.length).andThen fun rest f =>
      ⟨.ok ⟨rest, p.stop, (notes.bind (textDescriptor p)).count⟩, f.mapContent span (·.setText "")⟩

def cutEach : List Placeholder → Cursor → Forest → Outcome Cursor
  | [], c, f => ⟨.ok c, f⟩
  | p :: rest, c, f => (cutAt p c f).andThen fun c f => cutEach rest c f

def compileText (config : Config) (n : NodeId) (data : String) (notes : Notes) (f : Forest) :
    Outcome Notes :=
  (cutEach (Placeholder.all config data) ⟨n, 0, notes⟩ f).andThen fun c f =>
    ⟨.ok (claim c.current c.notes f), f⟩

def compileElement (config : Config) (n : NodeId) (attributes : Attributes) (notes : Notes)
    (f : Forest) : Outcome Notes :=
  match Compile.attributeBindings config attributes with
  | .ok bindings => ⟨.ok (bindings.foldl Notes.bind notes).count,
      f.mapContent n (·.mapAttributes (Compile.staticAttributes config))⟩
  | .error e => ⟨.error e, f⟩

def compileNode (config : Config) (n : NodeId) (notes : Notes) (f : Forest) : Outcome Notes :=
  match f.content n with
  | .text data => compileText config n data notes f
  | .element _ attributes _ => compileElement config n attributes notes f
  | _ => ⟨.ok notes, f⟩

def compileEach (config : Config) : List NodeId → Notes → Forest → Outcome Notes
  | [], notes, f => ⟨.ok notes, f⟩
  | n :: rest, notes, f => (compileNode config n notes f).andThen (compileEach config rest)

def detachEach : List NodeId → Forest → Outcome Unit
  | [], f => ⟨.ok (), f⟩
  | n :: rest, f => (f.detach n).andThen fun _ f => detachEach rest f

/-- The nodes are listed before the first of them is changed. -/
def compileTree (config : Config) (root : NodeId) (f : Forest) : Outcome Notes :=
  (compileEach config (f.walkStack f.size [root]) ⟨0, [], []⟩ f).andThen fun notes f =>
    (detachEach notes.emptied f).andThen fun _ f => ⟨.ok notes, f⟩

/-- The tree that a node shows is copied and the copy compiled. -/
def compile (config : Config) (source : NodeId) (f : Forest) : Outcome (NodeId × Notes) :=
  match f.content source with
  | .fragment | .element .. =>
    (f.clone f.depthBound source).andThen fun root f =>
      (compileTree config root f).andThen fun notes f => ⟨.ok (root, notes), f⟩
  | other => ⟨.error (.notARoot other.type.name), f⟩

/-- The notes of a compiler that has given these binding lists their numbers. -/
def noted (labels : List (List Descriptor)) (emptied : List NodeId) : Notes :=
  ⟨labels.length, Compile.number 0 labels, emptied⟩

section
variable {labels : List (List Descriptor)} {emptied : List NodeId}

theorem next_missing (labels : List (List Descriptor)) :
    (Compile.number 0 labels).find? (labels.length : Int) = none := by
  have found := Compile.find?_number 0 labels.length labels
  rw [Nat.zero_add, List.getElem?_eq_none (Nat.le_refl _)] at found
  exact found

/-- Bindings of the node that has the next number are gathered in one entry. -/
theorem foldl_bind (first others : List Descriptor) :
    others.foldl Notes.bind
        ⟨labels.length, Compile.number 0 labels ++ Compile.entry labels.length first, emptied⟩ =
      ⟨labels.length, Compile.number 0 labels ++ Compile.entry labels.length (first ++ others),
        emptied⟩ := by
  induction others generalizing first with
  | nil => simp
  | cons d rest ih =>
    have before : ((Compile.number 0 labels ++ Compile.entry labels.length first).find?
        (labels.length : Int)).getD [] = first := by
      rw [Entries.find?_append, next_missing, Option.none_or]
      cases first <;> simp [Compile.entry, Entries.find?]
    have after : (Compile.entry labels.length first).set (labels.length : Int) (first ++ [d]) =
        Compile.entry labels.length (first ++ [d]) := by
      cases first <;> simp [Compile.entry, Entries.set]
    rw [List.foldl_cons, Notes.bind]
    simp only [before, Entries.set_append_of_missing (next_missing labels), after]
    rw [ih, List.append_assoc, List.singleton_append]

/-- A node with these bindings gets its number. -/
theorem noted_node (bindings : List Descriptor) :
    (bindings.foldl Notes.bind (noted labels emptied)).count =
      noted (labels ++ [bindings]) emptied := by
  have gathered := @foldl_bind labels emptied [] bindings
  rw [List.nil_append, Compile.entry, if_pos List.isEmpty_nil, List.append_nil] at gathered
  rw [noted, gathered, noted, Compile.number_append, List.length_append]
  simp [Notes.count, Compile.number]

theorem noted_hole (p : Placeholder) :
    ((noted labels emptied).bind (textDescriptor p)).count =
      noted (labels ++ [[textDescriptor p]]) emptied := noted_node [textDescriptor p]

theorem claim_noted {f : Forest} {n : NodeId} {data : List Char}
    (text : f.content n = .text (String.ofList data)) :
    claim n (noted labels emptied) f = noted
      (labels ++ (Compile.staticPiece data).map Piece.bindings)
      (emptied ++ if data.isEmpty then [n] else []) := by
  have size : (Content.text (String.ofList data) : Content Value).data = String.ofList data := rfl
  rw [claim, text, size]
  cases data with
  | nil => simp [Compile.staticPiece, Notes.discard, noted]
  | cons c rest =>
    have whole := @noted_node labels emptied []
    simpa [Compile.staticPiece, Piece.bindings] using whole

end

/-- The pieces up to behind the last of these placeholders, empty static text included. -/
def cuts (text : List Char) (consumed : Nat) : List Placeholder → List Piece
  | [] => []
  | p :: rest => .static (slice text consumed p.start) :: .hole p :: cuts text p.stop rest

/-- Where the last of these placeholders ends. -/
def reached (consumed : Nat) : List Placeholder → Nat
  | [] => consumed
  | p :: rest => reached p.stop rest

/-- All pieces of what a text has from `consumed` on, empty static text included. -/
def segments (text : List Char) (consumed : Nat) (placeholders : List Placeholder) : List Piece :=
  cuts text consumed placeholders ++ [.static (text.drop (reached consumed placeholders))]

/-- The characters that the node of a piece has. -/
def pieceText : Piece → String
  | .static data => String.ofList data
  | .hole _ => ""

/-- The characters that a piece stands for. -/
def pieceSource (config : Config) : Piece → List Char
  | .static data => data
  | .hole p => p.spelling config.opening.toList config.closing.toList

def isEmptyStatic : Piece → Bool
  | .static data => data.isEmpty
  | .hole _ => false

/-- The nodes whose pieces are empty static text. -/
def vacant (seats : List (NodeId × Piece)) : List NodeId :=
  (seats.filter fun seat => isEmptyStatic seat.2).map Prod.fst

def kept (pieces : List Piece) : List Piece := pieces.filter fun piece => !isEmptyStatic piece

theorem kept_static (data : List Char) : kept [.static data] = Compile.staticPiece data := by
  cases data <;> rfl

theorem vacant_static (n : NodeId) (data : List Char) :
    vacant [(n, .static data)] = if data.isEmpty then [n] else [] := by
  cases data <;> rfl

theorem vacant_append (first second : List (NodeId × Piece)) :
    vacant (first ++ second) = vacant first ++ vacant second := by
  rw [vacant, List.filter_append, List.map_append]
  rfl

theorem kept_append (first second : List Piece) :
    kept (first ++ second) = kept first ++ kept second := List.filter_append ..

theorem kept_pair (data : List Char) (p : Placeholder) :
    kept [.static data, .hole p] = Compile.staticPiece data ++ [.hole p] := by
  cases data <;> rfl

theorem kept_segments (text : List Char) (consumed : Nat) (placeholders : List Placeholder) :
    kept (segments text consumed placeholders) =
      Compile.piecesFrom text consumed placeholders := by
  unfold segments
  induction placeholders generalizing consumed with
  | nil => exact kept_static _
  | cons p rest ih =>
    have later := ih p.stop
    show kept ([.static (slice text consumed p.start), .hole p] ++
      (cuts text p.stop rest ++ [.static (text.drop (reached p.stop rest))])) = _
    rw [kept_append, kept_pair, later, Compile.piecesFrom, List.append_assoc]
    rfl

section
variable {whole : List Char} {f : Forest} {n consumed : Nat} {p : Placeholder}

/-- Both offsets lie inside what is left of the text, so both splits succeed. -/
theorem cutAt_eq (before : consumed ≤ p.start) (inside : p.start ≤ p.stop)
    (stop : p.stop ≤ whole.length) (consistent : f.Consistent)
    (text : f.content n = .text (String.ofList (whole.drop consumed)))
    (labels : List (List Descriptor)) (emptied : List NodeId) :
    ∃ g h,
      cutAt p ⟨n, consumed, noted labels emptied⟩ f = ⟨.ok ⟨g.size, p.stop,
        noted (labels ++ (kept [.static (slice whole consumed p.start), .hole p]).map
            Piece.bindings)
          (emptied ++ vacant [(n, .static (slice whole consumed p.start))])⟩, h⟩ ∧
      Forest.Spread f n [String.ofList (slice whole consumed p.start),
        String.ofList (whole.drop p.start)] g ∧
      Forest.Spread g f.size ["", String.ofList (whole.drop p.stop)] h := by
  have head : Text.cut (String.ofList (whole.drop consumed)).toList ((p.start : Int) - consumed) =
      .ok (slice whole consumed p.start, whole.drop p.start) := by
    rw [String.toList_ofList]
    exact Placeholder.cut_before before (Nat.le_trans inside stop)
  have tail : Text.cut (String.ofList (whole.drop p.start)).toList p.length =
      .ok (slice whole p.start p.stop, whole.drop p.stop) := by
    rw [String.toList_ofList]
    exact Placeholder.cut_behind inside stop
  obtain ⟨g, first, opened⟩ := consistent.split text head
  have size : g.size = f.size + 1 := by simpa using opened.size
  obtain ⟨h, second, closed⟩ := opened.consistent.split opened.second tail
  refine ⟨g, _, ?_, opened, closed.setText (by rw [size]; exact Nat.lt_succ_self _) ""⟩
  simp only [cutAt, first, Outcome.andThen, second, claim_noted opened.first, noted_hole,
    vacant_static, kept_pair, List.map_append, List.append_assoc]
  rfl

/-- Each placeholder is cut out where the scan found it, and the cursor moves behind it. -/
theorem cutEach_eq {placeholders : List Placeholder}
    (placed : Placed whole.length consumed placeholders) (consistent : f.Consistent)
    (text : f.content n = .text (String.ofList (whole.drop consumed)))
    (labels : List (List Descriptor)) (emptied : List NodeId) :
    ∃ current g,
      cutEach placeholders ⟨n, consumed, noted labels emptied⟩ f =
        ⟨.ok ⟨current, reached consumed placeholders,
          noted (labels ++ (kept (cuts whole consumed placeholders)).map Piece.bindings)
            (emptied ++ vacant (Forest.lay n f.size (cuts whole consumed placeholders)))⟩, g⟩ ∧
      Forest.lay n f.size (segments whole consumed placeholders) =
        Forest.lay n f.size (cuts whole consumed placeholders) ++
          [(current, .static (whole.drop (reached consumed placeholders)))] ∧
      Forest.Spread f n ((segments whole consumed placeholders).map pieceText) g := by
  induction placeholders generalizing f n consumed labels emptied with
  | nil =>
    refine ⟨n, f, ?_, rfl, .refl consistent text⟩
    simp [cutEach, reached, cuts, kept, vacant, Forest.lay]
  | cons p rest ih =>
    obtain ⟨before, inside, others⟩ := placed
    have here : n < f.size := Forest.lt_size_of_content (by simp [text])
    obtain ⟨g, h, step, opened, closed⟩ :=
      cutAt_eq before inside others.consumed_le consistent text labels emptied
    have size : g.size = f.size + 1 := by simpa using opened.size
    have size' : h.size = f.size + 1 + 1 := by simpa [size] using closed.size
    obtain ⟨current, k, later, seats, spread⟩ := ih others closed.consistent closed.second
      (labels ++ (kept [.static (slice whole consumed p.start), .hole p]).map Piece.bindings)
      (emptied ++ vacant [(n, .static (slice whole consumed p.start))])
    refine ⟨current, k, ?_, ?_, ?_⟩
    · rw [cutEach, step]
      have all : kept (cuts whole consumed (p :: rest)) =
          kept [.static (slice whole consumed p.start), .hole p] ++ kept (cuts whole p.stop rest) :=
        kept_append [_, .hole p] _
      have seat : vacant (Forest.lay n f.size (cuts whole consumed (p :: rest))) =
          vacant [(n, .static (slice whole consumed p.start))] ++
            vacant (Forest.lay g.size h.size (cuts whole p.stop rest)) := by
        rw [size, size']
        exact vacant_append [_, (f.size, .hole p)] _
      simp only [Outcome.andThen, later, all, seat, List.map_append, List.append_assoc, reached]
    · rw [size, size'] at seats
      exact congrArg (fun seats => (n, _) :: (f.size, Piece.hole p) :: seats) seats
    · exact opened.trans consistent here
        (closed.trans opened.consistent (by rw [size]; exact Nat.lt_succ_self _) spread)

theorem lay_map {α β : Type} (t : α → β) (n fresh : NodeId) (items : List α) :
    Forest.lay n fresh (items.map t) = (Forest.lay n fresh items).map (Prod.map id t) := by
  induction items generalizing n fresh with
  | nil => rfl
  | cons a rest ih => exact congrArg ((n, t a) :: ·) (ih fresh (fresh + 1))

theorem content_of_piece {g : Forest} {pieces : List Piece} {piece : Piece} {k : NodeId}
    (spread : Forest.Spread f n (pieces.map pieceText) g)
    (seat : (k, piece) ∈ Forest.lay n f.size pieces) : g.content k = .text (pieceText piece) := by
  refine spread.shown (k, pieceText piece) ?_
  rw [lay_map]
  exact List.mem_map.mpr ⟨_, seat, rfl⟩

/-- All pieces of a text, empty static text included. -/
def allPieces (config : Config) (data : String) : List Piece :=
  segments data.toList 0 (Placeholder.all config data)

theorem kept_allPieces (config : Config) (data : String) :
    kept (allPieces config data) = Compile.pieces config data := kept_segments _ _ _

theorem compileElement_eq (config : Config) {attributes : Attributes} (named : attributes.Named)
    (n : NodeId) (f : Forest) (labels : List (List Descriptor)) (emptied : List NodeId) :
    compileElement config n attributes (noted labels emptied) f =
      ⟨.ok (noted (labels ++ [Compile.boundAttributes config attributes]) emptied),
        f.mapContent n (·.mapAttributes (Compile.staticAttributes config))⟩ := by
  rw [compileElement, Compile.attributeBindings_eq named]
  simp only [noted_node]

theorem compileText_eq (config : Config) {data : String} (consistent : f.Consistent)
    (text : f.content n = .text data) (labels : List (List Descriptor)) (emptied : List NodeId) :
    ∃ g, compileText config n data (noted labels emptied) f =
        ⟨.ok (noted (labels ++ (Compile.pieces config data).map Piece.bindings)
          (emptied ++ vacant (Forest.lay n f.size (allPieces config data)))), g⟩ ∧
      Forest.Spread f n ((allPieces config data).map pieceText) g := by
  have begun : f.content n = .text (String.ofList (data.toList.drop 0)) := by simp [text]
  obtain ⟨current, g, done, seats, spread⟩ :=
    cutEach_eq (Placeholder.all_placed config data) consistent begun labels emptied
  refine ⟨g, ?_, spread⟩
  have last := content_of_piece spread (k := current)
    (by rw [seats]; exact List.mem_append_right _ (List.mem_singleton_self _))
  rw [compileText, done]
  simp only [Outcome.andThen, claim_noted last]
  rw [← kept_allPieces, allPieces, seats, segments, vacant_append, vacant_static, kept_append,
    kept_static, List.map_append, List.append_assoc, List.append_assoc]

end

end InPlace
end LiveTemplate
