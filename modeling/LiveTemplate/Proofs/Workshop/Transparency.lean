import LiveTemplate.Function.Stock
import LiveTemplate.Proofs.Workshop.Session

/-! Compiling through a cache is compiling. If the digests tell the requests of a session apart, the
cache holds exactly the requests of the ledger in their order, each with the number of the template
that it compiles to; so a cached call answers as one without a cache. -/
namespace LiveTemplate

namespace Entries

variable {κ α : Type} [DecidableEq κ] {entries : Entries κ α} {key : κ}

theorem mem_keys_of_find? {value : α} (found : entries.find? key = some value) :
    key ∈ entries.keys := List.mem_map_of_mem (f := Prod.fst) (mem_of_find? found)

/-- A new key comes last. -/
theorem set_of_missing (missing : entries.find? key = none) (value : α) :
    entries.set key value = entries ++ [(key, value)] := by
  have last := set_append_of_missing missing [] value
  rwa [List.append_nil] at last

end Entries

/-- The digests tell the markups and the configurations of these requests apart. -/
structure DigestsApart (requests : List Request) : Prop where
  markups : ∀ q ∈ requests, ∀ r ∈ requests,
    Digest.ofMarkup q.markup = Digest.ofMarkup r.markup → q.markup = r.markup
  configs : ∀ q ∈ requests, ∀ r ∈ requests,
    Digest.ofConfig q.config = Digest.ofConfig r.config → q.config = r.config

theorem DigestsApart.eq_of_key {requests : List Request} (apart : DigestsApart requests)
    {q r : Request} (hq : q ∈ requests) (hr : r ∈ requests) (same : q.key = r.key) : q = r := by
  have markup := apart.markups q hq r hr (congrArg CacheKey.content same)
  have config := apart.configs q hq r hr (congrArg CacheKey.config same)
  cases q
  cases r
  cases markup
  cases config
  rfl

namespace Workshop

/-- The template that a call returns. -/
def served (result : Delivery × Workshop) : Option Template :=
  result.2.templates[result.1.number]?

theorem served_uncached (r : Request) (w : Workshop) :
    (w.compile r.config r.markup false).map served =
      r.compiled.map fun compiled => some compiled.template := by
  rw [compile_uncached, Request.compiled]
  cases Template.compileMarkup r.config r.markup with
  | error error => rfl
  | ok compiled => simp [Except.map, served]

/-- The cache holds these requests in their order, and under the key of each the number of the
template that it compiles to. -/
structure Faithful (w : Workshop) (kept : List Request) : Prop where
  keys : w.cache.keys = kept.map Request.key
  held : ∀ r ∈ kept, ∃ number compiled, w.cache.find? r.key = some number ∧
    r.compiled = .ok compiled ∧ w.templates[number]? = some compiled.template

namespace Faithful

variable {w : Workshop} {used kept : List Request} {r : Request}

theorem empty : Faithful .empty [] := ⟨rfl, fun _ member => nomatch member⟩

theorem clear (w : Workshop) : Faithful ⟨w.templates, []⟩ [] :=
  ⟨rfl, fun _ member => nomatch member⟩

theorem length (faithful : w.Faithful kept) : w.cache.length = kept.length := by
  have lengths := congrArg List.length faithful.keys
  rwa [Entries.keys, List.length_map, List.length_map] at lengths

theorem keep (faithful : w.Faithful kept) (missing : w.cache.find? r.key = none)
    {compiled : Template.Compiled} (done : r.compiled = .ok compiled) :
    (w.keep r.key compiled.template).Faithful (kept ++ [r]) where
  keys := by
    rw [Workshop.keep, Entries.set_of_missing missing, Entries.keys, List.map_append,
      List.map_append, ← faithful.keys]
    rfl
  held q member := by
    rcases List.mem_append.mp member with before | here
    · obtain ⟨number, made, found, compiles, stored⟩ := faithful.held q before
      have apart : r.key ≠ q.key := by
        intro same
        rw [← same, missing] at found
        cases found
      have inside := (List.getElem?_eq_some_iff.mp stored).1
      refine ⟨number, made, ?_, compiles, ?_⟩
      · exact (Entries.find?_set _ _ _ _).trans ((if_neg apart).trans found)
      · exact (List.getElem?_append_left inside).trans stored
    · rw [List.mem_singleton] at here
      subst here
      exact ⟨_, compiled, (Entries.find?_set _ _ _ _).trans (if_pos rfl), done, by
        simp [Workshop.keep]⟩

section Compile

variable (faithful : w.Faithful kept) (apart : DigestsApart used) (inside : kept ⊆ used)
  (asked : r ∈ used)

include faithful apart inside asked

/-- What is not kept is not found, as no other request has its key. -/
theorem find?_of_not_mem (new : r ∉ kept) : w.cache.find? r.key = none := by
  cases found : w.cache.find? r.key with
  | none => rfl
  | some number =>
    have member := Entries.mem_keys_of_find? found
    rw [faithful.keys] at member
    obtain ⟨q, known, same⟩ := List.mem_map.mp member
    have eq : q = r := apart.eq_of_key (inside known) asked same
    exact absurd (eq ▸ known) new

theorem compile_of_error {error : Error} (failed : r.compiled = .error error) :
    w.compile r.config r.markup true = .error error := by
  have new : r ∉ kept := by
    intro known
    obtain ⟨number, compiled, -, done, -⟩ := faithful.held r known
    rw [failed] at done
    cases done
  rw [compile_of_missing (faithful.find?_of_not_mem apart inside asked new)]
  exact congrArg _ failed

theorem compile_of_ok {compiled : Template.Compiled} (done : r.compiled = .ok compiled) :
    ∃ delivery made, w.compile r.config r.markup true = .ok (delivery, made) ∧
      served (delivery, made) = some compiled.template ∧
      made.Faithful (Ledger.record r kept) := by
  by_cases known : r ∈ kept
  · obtain ⟨number, compiled', found, done', stored⟩ := faithful.held r known
    cases done.symm.trans done'
    rw [Ledger.record_of_mem known]
    exact ⟨_, _, compile_of_found found, stored, faithful⟩
  · have missing := faithful.find?_of_not_mem apart inside asked known
    have made := compile_of_missing missing
    rw [show Template.compileMarkup r.config r.markup = .ok compiled from done] at made
    rw [Ledger.record_of_new done known]
    exact ⟨_, _, made, by simp [served, Workshop.keep], faithful.keep missing done⟩

theorem served_cached : (w.compile r.config r.markup true).map served =
    r.compiled.map fun compiled => some compiled.template := by
  cases outcome : r.compiled with
  | error error =>
    rw [faithful.compile_of_error apart inside asked outcome]
    rfl
  | ok compiled =>
    obtain ⟨delivery, made, done, template, -⟩ := faithful.compile_of_ok apart inside asked outcome
    rw [done]
    exact congrArg Except.ok template

end Compile
end Faithful
end Workshop

namespace Session

variable {σ : Type} {host : Host σ}

/-- A session and its ledger. -/
structure Agrees (used : List Request) (st : Session σ) (l : Ledger) : Prop where
  active : st.active = l.active
  inside : l.kept ⊆ used
  faithful : st.workshop.Faithful l.kept

namespace Agrees

variable {used : List Request} {st : Session σ} {l : Ledger}

theorem start (active : Config) (s : σ) : Agrees used (Session.start active s) (.start active) :=
  ⟨rfl, List.nil_subset _, .empty⟩

theorem step_compile (agrees : Agrees used st l) (apart : DigestsApart used) {markup : String}
    (asked : ⟨l.active, markup⟩ ∈ used) :
    Agrees used (st.step host (.compile markup)) (l.step (.compile markup)) := by
  have call : st.compile true markup = st.workshop.compile l.active markup true := by
    rw [Session.compile, agrees.active]
  cases outcome : Request.compiled ⟨l.active, markup⟩ with
  | error error =>
    have failed := agrees.faithful.compile_of_error apart agrees.inside asked outcome
    rw [Session.step, call, failed, Ledger.step, Ledger.record_of_error outcome]
    exact agrees
  | ok compiled =>
    obtain ⟨delivery, made, done, -, later⟩ :=
      agrees.faithful.compile_of_ok apart agrees.inside asked outcome
    rw [Session.step, call, done]
    refine ⟨agrees.active, fun q member => ?_, later⟩
    rcases Ledger.mem_record member with rfl | known
    · exact asked
    · exact agrees.inside known

theorem step (agrees : Agrees used st l) (apart : DigestsApart used) {a : Action}
    (asked : ∀ r ∈ l.request? a, r ∈ used) : Agrees used (st.step host a) (l.step a) := by
  have active := active_step host agrees.active a
  cases a with
  | activate config => exact ⟨active, agrees.inside, agrees.faithful⟩
  | compile markup => exact agrees.step_compile apart (asked _ rfl)
  | create number context =>
    refine ⟨active, agrees.inside, ?_⟩
    rw [(step_create number context).1]
    exact agrees.faithful
  | update place patch =>
    refine ⟨active, agrees.inside, ?_⟩
    rw [(step_update place patch).1]
    exact agrees.faithful
  | clear => exact ⟨active, List.nil_subset _, .clear _⟩

theorem run (agrees : Agrees used st l) (apart : DigestsApart used) {actions : List Action}
    (asked : Ledger.requests actions l ⊆ used) :
    Agrees used (st.run host actions) (l.run actions) := by
  induction actions generalizing st l with
  | nil => exact agrees
  | cons a rest ih =>
    rw [Ledger.requests, List.append_subset] at asked
    exact ih (agrees.step apart fun r here => asked.1 (Option.mem_toList.mpr here)) asked.2

end Agrees

/-- Where a session is after some actions. -/
def reached (host : Host σ) (active : Config) (s : σ) (actions : List Action) : Session σ :=
  (start active s).run host actions

/-- What can be said of the calls of a session and of the cache they share. -/
structure Transparent (host : Host σ) (active : Config) (s : σ) (actions : List Action) :
    Prop where
  /-- A call through the cache fails, or returns a template, exactly as one without a cache. -/
  served : ∀ before markup after, actions = before ++ .compile markup :: after →
    ((reached host active s before).compile true markup).map Workshop.served =
        ((reached host active s before).compile false markup).map Workshop.served ∧
      ((reached host active s before).compile false markup).map Workshop.served =
        (Template.compileMarkup (reached host active s before).active markup).map
          fun compiled => some compiled.template
  /-- A call that fails changes nothing. -/
  unmoved : ∀ before markup after error, actions = before ++ .compile markup :: after →
    (reached host active s before).compile true markup = .error error →
      reached host active s (before ++ [.compile markup]) = reached host active s before
  /-- Until the cache is cleared, a request that succeeded is not compiled again. -/
  repeated : ∀ before markup between after,
    actions = before ++ .compile markup :: (between ++ .compile markup :: after) →
    .clear ∉ between → ∀ first second delivery made, first = reached host active s before →
      second = reached host active s (before ++ .compile markup :: between) →
      second.active = first.active → first.compile true markup = .ok (delivery, made) →
        second.compile true markup = .ok (⟨delivery.number, []⟩, second.workshop)
  /-- The template of a number stays the same, whatever is done with its instances. -/
  lasting : ∀ before markup after delivery made, actions = before ++ .compile markup :: after →
    (reached host active s before).compile true markup = .ok (delivery, made) →
      ∀ t, Workshop.served (delivery, made) = some t →
        (reached host active s actions).workshop.templates[delivery.number]? = some t
  /-- The cache counts the distinct requests that succeeded since the last clearing. -/
  size : (Ledger.run actions (.start active)).kept.Nodup ∧
    (reached host active s actions).workshop.cache.length =
      (Ledger.run actions (.start active)).kept.length

theorem agrees_reached (host : Host σ) {active : Config} (s : σ) {used : List Request}
    {actions : List Action} (apart : DigestsApart used)
    (asked : Ledger.requests actions (.start active) ⊆ used) :
    Agrees used (reached host active s actions) (Ledger.run actions (.start active)) :=
  (Agrees.start active s).run apart asked

theorem reached_cons (host : Host σ) (active : Config) (s : σ) (before : List Action) (a : Action)
    (after : List Action) : reached host active s (before ++ a :: after) =
      ((reached host active s before).step host a).run host after := run_append _ _ _

/-- Where a call succeeded, the session goes on with the workshop that came of it. -/
theorem reached_of_ok {active : Config} {s : σ} {before : List Action} {markup : String}
    {delivery : Workshop.Delivery} {made : Workshop}
    (done : (reached host active s before).compile true markup = .ok (delivery, made))
    (after : List Action) : reached host active s (before ++ .compile markup :: after) =
      Session.run host after { reached host active s before with workshop := made } := by
  rw [reached_cons]
  exact congrArg (Session.run host after) (by simp only [step, done])

/-- If the digests tell apart what is compiled, a cache is not to be told from none, but for what
it saves. -/
theorem caching_transparent (host : Host σ) (active : Config) (s : σ) (actions : List Action)
    (apart : DigestsApart (Ledger.requests actions (.start active))) :
    Transparent host active s actions where
  served before markup after split := by
    rw [split, Ledger.requests_append] at apart
    have agrees := agrees_reached host s apart (List.subset_append_left _ _)
    have asked : (⟨(reached host active s before).active, markup⟩ : Request) ∈
        Ledger.requests before (.start active) ++
          Ledger.requests (.compile markup :: after) (Ledger.run before (.start active)) := by
      rw [agrees.active]
      exact List.mem_append_right _ List.mem_cons_self
    have uncached := Workshop.served_uncached ⟨(reached host active s before).active, markup⟩
      (reached host active s before).workshop
    exact ⟨(agrees.faithful.served_cached apart agrees.inside asked).trans uncached.symm, uncached⟩
  unmoved before markup after error _ failed := by
    rw [reached_cons]
    simp only [step, failed]
    rfl
  repeated before markup between after _ keeps first second delivery made here there same done := by
    subst here
    rw [reached_of_ok done between] at there
    have found : second.workshop.cache.find? (.of second.active markup) = some delivery.number := by
      rw [same, there]
      exact find?_run (Workshop.find?_compile done) keeps
    exact Workshop.compile_of_found found
  lasting before markup after delivery made split done t template := by
    subst split
    rw [reached_of_ok done after]
    obtain ⟨more, grown⟩ := templates_run host after
      { reached host active s before with workshop := made }
    rw [← grown]
    exact (List.getElem?_append_left (List.getElem?_eq_some_iff.mp template).1).trans template
  size := by
    have agrees := agrees_reached host s apart (List.Subset.refl _)
    exact ⟨Ledger.nodup_run (l := .start active) .nil actions, agrees.faithful.length⟩

def strict : Config := { Config.standard with strict := true }

/-- Passed over or an error, as the configuration has it. -/
def stray : String := "</p>"

def page : String := "<p>\x7bx\x7d</p>"

/-- The configuration changes under the cache and back, a call fails, and after clearing a template
is made anew. -/
def strayActions : List Action := [
  .compile stray, .activate strict, .compile stray, .create 0 (some []), .update 0 [],
  .activate .standard, .compile stray, .clear, .compile stray, .compile page,
  .compile stray]

theorem strayActions_requests : Ledger.requests strayActions (.start .standard) = [
    ⟨.standard, stray⟩, ⟨strict, stray⟩, ⟨.standard, stray⟩, ⟨.standard, stray⟩,
    ⟨.standard, page⟩, ⟨.standard, stray⟩] := rfl

theorem strayActions_apart : DigestsApart (Ledger.requests strayActions (.start .standard)) := by
  have markups : Digest.ofMarkup stray ≠ Digest.ofMarkup page := by decide +kernel
  have configs : Digest.ofConfig .standard ≠ Digest.ofConfig strict := by decide +kernel
  rw [strayActions_requests]
  constructor
  · simp [markups, markups.symm]
  · simp [configs, configs.symm]

theorem strayActions_kept : (Ledger.run strayActions (.start .standard)).kept =
    [⟨.standard, stray⟩, ⟨.standard, page⟩] := by decide +kernel

theorem strayActions_transparent :
    DigestsApart (Ledger.requests strayActions (.start .standard)) ∧
      Transparent (Stock.host #[]) .standard Supply.start strayActions ∧
      (reached (Stock.host #[]) .standard Supply.start strayActions).workshop.cache.length = 2 := by
  have transparent := caching_transparent (Stock.host #[]) .standard Supply.start strayActions
    strayActions_apart
  refine ⟨strayActions_apart, transparent, ?_⟩
  rw [transparent.size.2, strayActions_kept]
  rfl

end Session
end LiveTemplate
