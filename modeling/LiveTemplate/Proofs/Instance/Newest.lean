import LiveTemplate.Function.Stock
import LiveTemplate.Proofs.Instance.Edits
import LiveTemplate.Proofs.Instance.Live
import LiveTemplate.Proofs.Part.Newest
import LiveTemplate.Proofs.Template.Alignment
import LiveTemplate.Proofs.Template.Targets

/-! The newest objects at the end of a run. Each property part comes to hold the very object given
or returned last, and so does its element, unless another part sets the same property, or a function
updates the instance while it is called. -/
namespace LiveTemplate.Instance

section Run

variable {σ : Type} {host : Host σ} {patch : Patch} {patches : List Patch} {i : Instance} {s : σ}
  {place : Nat} {p : Part}

/-- What an update that nothing stops makes of a part in its turn, and the calls in it. -/
theorem newest_of_update {known : Knowledge} {calls : List Call} (definite : patch.Definite)
    (fine : (i.update host patch s).error = none) (part : i.parts[place]? = some p)
    (kind : p.descriptor.kind = .property) (newest : p.HoldsNewest known calls) :
    ∃ q made, (i.update host patch s).updated.parts[place]? = some q ∧
      (callsOf host patch i.parts s)[place]? = some made ∧ q.descriptor = p.descriptor ∧
      q.HoldsNewest (known.learn patch) (calls ++ made) := by
  rw [update_eq] at fine ⊢
  obtain ⟨t, turn, reaction, passed⟩ := turn_at host patch fine part
  refine ⟨_, p.calls host patch t, getElem?_partsAfter part reaction, ?_,
    Part.descriptor_after .., newest.react kind definite passed⟩
  rw [callsOf, List.getElem?_zipWith, part, turn]

theorem newest_of_updateAll {known : Knowledge} {calls : List Call}
    (definite : ∀ patch ∈ patches, patch.Definite)
    (fine : (updateAll host patches i s).error = none) (part : i.parts[place]? = some p)
    (kind : p.descriptor.kind = .property) (newest : p.HoldsNewest known calls) :
    ∃ q, (updateAll host patches i s).updated.parts[place]? = some q ∧
      q.HoldsNewest (patches.foldl Knowledge.learn known)
        (calls ++ callsAt place (callHistory host patches i s)) := by
  induction patches generalizing i s p known calls with
  | nil => exact ⟨p, part, by simpa [callHistory, callsAt] using newest⟩
  | cons patch rest ih =>
    obtain ⟨here, others⟩ := List.forall_mem_cons.mp definite
    obtain ⟨passed, fineLater⟩ := passed_of_updateAll host fine
    obtain ⟨q, made, found, calling, descriptor, later⟩ :=
      newest_of_update here passed part kind newest
    rw [← descriptor] at kind
    rw [updateAll_of_passed host passed, callHistory_of_passed host passed, callsAt_cons calling,
      ← List.append_assoc]
    exact ih others fineLater found kind later

/-- A part has its field for itself if there is no other part. -/
theorem undisputed_of_single (single : i.parts = [p]) (part : i.parts[place]? = some p) :
    i.Undisputed place := by
  intro other apart same
  rw [target_at part, targets, single] at same
  rw [single] at part
  cases place with
  | zero =>
    cases other with
    | zero => exact apart rfl
    | succ other => cases same
  | succ place => cases part

/-- If nothing else sets its property, a property part that has a value is shown by its element. -/
theorem property_shown {t : Template} (made : ofTemplate t = .ok i)
    (fine : (updateAll host patches i s).error = none) (part : i.parts[place]? = some p)
    (kind : p.descriptor.kind = .property) {q : Part}
    (final : (updateAll host patches i s).updated.parts[place]? = some q)
    (given : q.value ≠ .unset) (undisputed : i.Undisputed place) :
    (updateAll host patches i s).updated.content.heldAt p.path
      (.propertyNamed p.descriptor.name) = some (.propertyValue q.value) := by
  have member := List.mem_of_getElem? part
  obtain ⟨q', again, -, told⟩ := tells_of_updateAll fine part
  cases final.symm.trans again
  rcases told with ⟨kept, -⟩ | ⟨earlier, later, applied, edit⟩
  · rw [fresh_of_ofTemplate made member] at kept
    exact absurd kept given
  · obtain ⟨v, -, cast⟩ := edit.applies.1
    have shown := edit.heldAt part (stands_of_ofTemplate made member)
      (untouched_of_undisputed undisputed part edit.last)
    have whole : applied = ⟨v, .setProperty p.descriptor.name v⟩ := by
      rw [Descriptor.cast, kind] at cast
      exact (Except.ok.inj cast).symm
    rw [show p.descriptor.field = .propertyNamed p.descriptor.name by
      rw [Descriptor.field, kind]] at shown
    rw [shown, edit.value_eq, whole]
    rfl

/-- After a run of an instance of a template that nothing stops, of patches with values of any kind,
each property part holds the newest objects for all that was given, and if it has a value and no
other part sets the property, its element has that very object as the property. -/
theorem newest_of_ofTemplate {t : Template} (made : ofTemplate t = .ok i)
    (definite : ∀ patch ∈ patches, patch.Definite)
    (fine : (updateAll host patches i s).error = none) (part : i.parts[place]? = some p)
    (kind : p.descriptor.kind = .property) :
    ∃ q, (updateAll host patches i s).updated.parts[place]? = some q ∧
      q.descriptor = p.descriptor ∧
      q.HoldsNewest (Knowledge.ofPatches patches)
        (callsAt place (callHistory host patches i s)) ∧
      (q.value ≠ .unset → i.Undisputed place →
        (updateAll host patches i s).updated.content.heldAt p.path
          (.propertyNamed p.descriptor.name) = some (.propertyValue q.value)) := by
  have fresh := fresh_of_ofTemplate made (List.mem_of_getElem? part)
  obtain ⟨q, final, newest⟩ := newest_of_updateAll definite fine part kind (.of_fresh fresh)
  obtain ⟨q', again, descriptor, -⟩ := tells_of_updateAll fine part
  cases final.symm.trans again
  exact ⟨q, final, descriptor, newest, property_shown made fine part kind final⟩

/-- In an instance of a compiled template, no two parts set the same property. -/
theorem undisputed_of_compile {t : Template} (made : ofTemplate t = .ok i)
    (part : i.parts[place]? = some p) (kind : p.descriptor.kind = .property) {config : Config}
    {source : Node} {compiled : Template.Compiled} (fit : source.Compilable)
    (keyed : source.AllAttributes Attributes.Keyed)
    (done : Template.compile config source = .ok compiled) (same : compiled.template = t) :
    i.Undisputed place := by
  subst same
  intro other apart same
  obtain ⟨again, first, outcome⟩ := Template.compile_outcome config fit
  cases done.symm.trans first
  cases (ofTemplate_eq outcome).symm.trans made
  rw [target_at part] at same
  obtain ⟨q, foreign, target⟩ : ∃ q, (ofLabels compiled.template.content
      (Compile.labels config source)).parts[other]? = some q ∧ q.target = p.target := by
    rw [targets, List.getElem?_map, Option.map_eq_some_iff] at same
    exact same
  rcases collides_of_target_eq outcome keyed part foreign apart target.symm with
    ⟨flag, -⟩ | ⟨value, -⟩
  · rw [kind] at flag
    cases flag
  · rw [kind] at value
    cases value

end Run

/-- After a run of an instance of a template that nothing stops, of patches with values of any kind
and with functions that leave the instance as it is, each property part holds the newest objects
for all that was given, and if it has a value and no other part sets the property, its element has
that very object as the property. No other part does if there is none, nor in an instance of a
compiled template. -/
theorem properties_hold_newest {σ : Type} {host : Host (Live σ)} (quiet : host.Quiet)
    {now : Live σ} {t : Template} (made : ofTemplate t = .ok now.current) {patches : List Patch}
    (definite : ∀ patch ∈ patches, patch.Definite) (fine : (now.updateAll host patches).1 = none)
    {place : Nat} {p : Part} (part : now.current.parts[place]? = some p)
    (kind : p.descriptor.kind = .property) :
    (∃ q, (now.updateAll host patches).2.current.parts[place]? = some q ∧
      q.descriptor = p.descriptor ∧
      q.HoldsNewest (Knowledge.ofPatches patches)
        (callsAt place (now.callHistory host patches)) ∧
      (q.value ≠ .unset → now.current.Undisputed place →
        (now.updateAll host patches).2.current.content.heldAt p.path
          (.propertyNamed p.descriptor.name) = some (.propertyValue q.value))) ∧
    (now.current.parts = [p] → now.current.Undisputed place) ∧
    ∀ (config : Config) (source : Node) (compiled : Template.Compiled), source.Compilable →
      source.AllAttributes Attributes.Keyed → Template.compile config source = .ok compiled →
      compiled.template = t → now.current.Undisputed place := by
  refine ⟨?_, fun single => undisputed_of_single single part,
    fun _ _ _ fit keyed done => undisputed_of_compile made part kind fit keyed done⟩
  obtain ⟨script, ⟨stop, current⟩, calls⟩ := Live.exists_playback quiet patches now
  have newest := newest_of_ofTemplate made definite (stop.trans fine) part kind
  rw [calls] at newest
  rw [current]
  exact newest

/-- A property of a key, and one of a call that has the same key twice. -/
def pairedSource : Node :=
  .element "p" [(some ".row", some "[row]"), (some ".pair", some "[pair(row, row, late)]")] [] []

def pairedCompiled : Template.Compiled :=
  ⟨⟨.element "p" [] [] [], [(0, [⟨.property, "row", some "row"⟩,
    ⟨.property, "pair(row, row, late)", some "pair"⟩])]⟩, 1⟩

def paired : Live Supply :=
  ⟨⟨pairedCompiled.template.content, bind pairedCompiled.template.table 0
    pairedCompiled.template.content.spots⟩, [], .start⟩

/-- A string, another one that equals it, a list, and the first string again. -/
def pairedPatches : List Patch :=
  [[("row", .scalar (some 7) (.str "a"))],
    [("pair", .function "list"), ("row", .scalar (some 8) (.str "a"))], [("late", .null)],
    [("row", .list 9 [.int 1])], [("row", .scalar (some 7) (.str "a"))]]

theorem pairedPatches_definite : ∀ patch ∈ pairedPatches, patch.Definite := by
  have present : ∀ patch ∈ pairedPatches, ∀ entry ∈ patch, entry.2 ≠ .unset := by
    simp [pairedPatches, or_imp, forall_and]
  exact fun patch member => Patch.definite_of_entries (present patch member)

theorem pairedCall_holds_newest :
    (Stock.host #[]).apart.Quiet ∧ ofTemplate pairedCompiled.template = .ok paired.current ∧
    (∀ patch ∈ pairedPatches, patch.Definite) ∧
    (paired.updateAll (Stock.host #[]).apart pairedPatches).1 = none ∧
    ∃ p, paired.current.parts[1]? = some p ∧ p.descriptor.kind = .property ∧
      (∃ q, (paired.updateAll (Stock.host #[]).apart pairedPatches).2.current.parts[1]? = some q ∧
        q.descriptor = p.descriptor ∧
        q.HoldsNewest (Knowledge.ofPatches pairedPatches) (callsAt 1
          (paired.callHistory (Stock.host #[]).apart pairedPatches)) ∧
        (q.value ≠ .unset → paired.current.Undisputed 1 →
          (paired.updateAll (Stock.host #[]).apart pairedPatches).2.current.content.heldAt p.path
            (.propertyNamed p.descriptor.name) = some (.propertyValue q.value))) ∧
      pairedSource.Compilable ∧ pairedSource.AllAttributes Attributes.Keyed ∧
      Template.compile Template.squareBrackets pairedSource = .ok pairedCompiled ∧
      paired.current.Undisputed 1 := by
  have quiet := (Stock.host #[]).quiet_apart
  have made : ofTemplate pairedCompiled.template = .ok paired.current := rfl
  have fine : (paired.updateAll (Stock.host #[]).apart pairedPatches).1 = none := by decide
  have compilable : pairedSource.Compilable :=
    ⟨by decide, by decide, by unfold Node.AllAttributes; decide⟩
  have keyed : pairedSource.AllAttributes Attributes.Keyed := by
    unfold Node.AllAttributes
    decide
  have compiles : Template.compile Template.squareBrackets pairedSource = .ok pairedCompiled := by
    cbv
  obtain ⟨p, part, kind⟩ : ∃ p, paired.current.parts[1]? = some p ∧
      p.descriptor.kind = .property := ⟨_, rfl, rfl⟩
  obtain ⟨newest, -, undisputed⟩ :=
    properties_hold_newest quiet made pairedPatches_definite fine part kind
  exact ⟨quiet, made, pairedPatches_definite, fine, p, part, kind, newest, compilable, keyed,
    compiles, undisputed Template.squareBrackets pairedSource pairedCompiled compilable keyed
      compiles rfl⟩

/-- A property of a call, whose function gives the instance the argument anew. -/
def echoed : Option Error × Live Unit :=
  let content := Node.element "p" [] [] []
  (Live.mk ⟨content, bind [(0, [⟨.property, "echo(y)", some "row"⟩])] 0 content.spots⟩ [] ()).update
    (Host.nudging [("y", .int 2)] 2) [("y", .int 1), ("echo", .function "echo")]

/-- Two properties of one name, as no compiled template has them. -/
def disputedTemplate : Template :=
  ⟨.element "p" [] [] [], [(0, [⟨.property, "word", some "row"⟩,
    ⟨.property, "pick(y)", some "row"⟩])]⟩

def disputed : Instance :=
  ⟨disputedTemplate.content, bind disputedTemplate.table 0 disputedTemplate.content.spots⟩

/-- The second part writes over what the first one wrote, and then its function has no value. -/
def disputedPatches : List Patch :=
  [[("word", .str "A")], [("pick", .function "first"), ("y", .str "B")],
    [("pick", .function "unset")]]

/-- A part that stores an argument for which its function has not returned what the part holds. -/
def echoedPart : Part where
  descriptor := ⟨.property, "echo(y)", some "row"⟩
  path := []
  nodeType := .element
  evaluator := .call "echo(y)" "echo" [("y", .int 2)] (.function "echo")
  value := .int 1

/-- Whatever calls of a function that returns its argument were made, the part does not hold what
the last of them returned. -/
theorem echoedPart_holds_older {known : Knowledge} (given : known "echo" = some (.function "echo"))
    {calls : List Call} (echoes : ∀ c ∈ calls, c.answer = .ok (c.arguments.headD .null)) :
    ¬ echoedPart.HoldsNewest known calls := by
  have parsed : Expression.Source.parse echoedPart.descriptor.expression = .call "echo" ["y"] := by
    decide
  unfold Part.HoldsNewest
  rw [parsed]
  rintro ⟨stored, follows⟩
  obtain ⟨source, evaluator⟩ := follows.evaluator
  obtain ⟨name, answer, -, last, same⟩ := follows.called _ given
  have parameters : [("y", Value.int 2)] = stored := (Evaluator.call.inj evaluator).2.2.1
  subst parameters
  have answered : answer = .int 2 := Except.ok.inj (echoes _ (List.mem_of_getLast? last))
  subst answered
  cases same Value.noConfusion

/-- A function may return first what it was called for last, and then the part stores an argument
that is newer than what it holds; and what a part wrote last need not be what its element shows. -/
theorem echoed_and_disputed_hold_older :
    echoed.1 = none ∧ echoed.2.current.parts = [echoedPart] ∧
    (∀ calls : List Call, (∀ c ∈ calls, c.answer = .ok (c.arguments.headD .null)) →
      ¬ echoedPart.HoldsNewest
        (Knowledge.ofPatches [[("y", .int 1), ("echo", .function "echo")], [("y", .int 2)]])
        calls) ∧
    ofTemplate disputedTemplate = .ok disputed ∧
    (updateAll (Stock.host #[]) disputedPatches disputed .start).error = none ∧
    ((updateAll (Stock.host #[]) disputedPatches disputed .start).updated.parts.map
      fun p => p.value) = [.str "A", .str "B"] ∧
    (updateAll (Stock.host #[]) disputedPatches disputed .start).updated.content.heldAt []
      (.propertyNamed "row") = some (.propertyValue (.str "B")) :=
  ⟨rfl, rfl, fun _ => echoedPart_holds_older rfl, rfl, rfl, rfl, rfl⟩

end LiveTemplate.Instance
