import Kindred.Phrase.Compile
import Kindred.Proofs.IdSource
import Kindred.Proofs.Pedigree.Sound

/-! The people of a compiled sentence have the identifiers that were drawn, and its links are sound. -/

namespace Kindred

/-- What a table finds stands in it. -/
theorem SymbolTable.mem_of_get? {table : SymbolTable} {label : String} {id : PersonId}
    (found : table.get? label = some id) : (label, id) ∈ table.entries := by
  -- The search passes over the entries in front.
  obtain ⟨before, rest, split, _⟩ := List.lookup_eq_some_iff.mp found
  simp [split]

/-- A table into which something was written holds that and what it held. -/
theorem SymbolTable.mem_insert {table : SymbolTable} {label : String} {id : PersonId}
    {entry : String × PersonId} (member : entry ∈ (table.insert label id).entries) :
    entry = (label, id) ∨ entry ∈ table.entries := by
  -- The entries behind the new one are some of the old ones.
  rcases List.mem_cons.mp member with new | old
  · exact Or.inl new
  · exact Or.inr (List.mem_filter.mp old).1

/-- Changing one member of a list leaves what the change does not touch. -/
theorem map_changeFirst {α β : Type} (isWanted : α → Bool) (change : α → α) (view : α → β)
    (untouched : ∀ member, view (change member) = view member) (members : List α) :
    (changeFirst isWanted change members).map view = members.map view := by
  -- The first wanted member is changed, the others are not.
  induction members with
  | nil => rfl
  | cons head rest ih =>
    rw [changeFirst]
    split
    · simp [untouched]
    · simp [ih]

namespace Draft

/-- The identifiers of the people entered so far. -/
def known (draft : Draft) : List PersonId :=
  draft.persons.map Person.id

/-- The people have been given the identifiers of as many draws from a source, everybody under a label is
one of them, and the links are sound. -/
structure Sound (source : IdSource) (draft : Draft) : Prop where
  drawn : draft.known = source.upcoming draft.persons.length
  ids : draft.ids = source.after draft.persons.length
  labelled : ∀ entry ∈ draft.symbols.entries, entry.2 ∈ draft.known
  links : SoundLinks draft.persons draft.edges

/-- A sound draft comes of another one, without losing anybody. -/
structure Follows (source : IdSource) (before after : Draft) : Prop where
  sound : after.Sound source
  stay : ∀ id, id ∈ before.known → id ∈ after.known

variable {source : IdSource} {draft : Draft}

/-- A draft follows itself. -/
theorem Sound.follows (sound : draft.Sound source) : Follows source draft draft :=
  ⟨sound, fun _ member => member⟩

/-- What follows a draft that follows another one follows that one. -/
theorem Follows.trans {first second third : Draft} (one : Follows source first second)
    (other : Follows source second third) : Follows source first third :=
  ⟨other.sound, fun id member => other.stay id (one.stay id member)⟩

/-- A draft without anybody is sound. -/
theorem sound_empty (source : IdSource) : Sound source { ids := source } :=
  ⟨rfl, rfl, by simp, SoundLinks.nil []⟩

/-- A new person gets the next identifier. -/
theorem Sound.fresh (sound : draft.Sound source) (label : String) (sex : Sex) :
    Follows source draft (draft.fresh label sex).2 ∧
      (draft.fresh label sex).1 ∈ (draft.fresh label sex).2.known := by
  -- The draw is the one after those of the people before, and everybody else stays.
  have grows : (draft.fresh label sex).2.known = draft.known ++ [draft.ids.peek] := by
    simp [known, Draft.fresh, IdSource.draw]
  have stay : ∀ id, id ∈ draft.known → id ∈ (draft.fresh label sex).2.known := by
    intro id member
    rw [grows]
    exact List.mem_append_left _ member
  have count : (draft.fresh label sex).2.persons.length = draft.persons.length + 1 := by
    simp [Draft.fresh]
  refine ⟨⟨⟨?_, ?_, fun entry member => stay _ (sound.labelled entry member), ?_⟩, stay⟩, ?_⟩
  · rw [grows, count, IdSource.upcoming_succ, sound.drawn, sound.ids]
  · rw [count, IdSource.after, ← sound.ids]
    rfl
  · exact sound.links.among fun id member _ => stay id member
  · rw [grows]
    exact List.mem_append_right _ (List.mem_singleton.mpr rfl)

/-- The person under a label is known. -/
theorem Sound.node (sound : draft.Sound source) (label : String) (sex : Sex) :
    Follows source draft (draft.node label sex).2 ∧
      (draft.node label sex).1 ∈ (draft.node label sex).2.known := by
  rw [Draft.node]
  split
  · -- The label is in use, so nobody is entered.
    rename_i id found
    exact ⟨sound.follows, sound.labelled _ (SymbolTable.mem_of_get? found)⟩
  · -- A new person is entered, and the label goes with that person.
    obtain ⟨⟨entered, stay⟩, member⟩ := sound.fresh label sex
    refine ⟨⟨⟨entered.drawn, entered.ids, fun entry inside => ?_, entered.links⟩, stay⟩, member⟩
    rcases SymbolTable.mem_insert inside with new | old
    · exact new ▸ member
    · exact entered.labelled entry old

/-- A link between two known people leaves a draft sound. -/
theorem Sound.link (sound : draft.Sound source) {parent child : PersonId}
    (parentKnown : parent ∈ draft.known) (childKnown : child ∈ draft.known) :
    Follows source draft (draft.link parent child) := by
  rw [Draft.link]
  split
  · exact sound.follows
  · -- The link is new and joins two different people.
    rename_i accepted
    simp only [ParentEdge.isSelfLoop, Bool.or_eq_true, beq_iff_eq, List.contains_iff_mem,
      not_or] at accepted
    obtain ⟨differ, new⟩ := accepted
    exact ⟨⟨sound.drawn, sound.ids, sound.labelled,
      sound.links.snoc differ parentKnown childKnown new⟩, fun _ member => member⟩

/-- The way up to a relative leaves a draft sound, and the relative is known. -/
theorem Sound.climb (sound : draft.Sound source) (pronoun : Pronoun) (gone : List Step)
    {current : PersonId} (here : current ∈ draft.known) (steps : List Step) :
    Follows source draft (Draft.climb pronoun gone current draft steps).2 ∧
      (Draft.climb pronoun gone current draft steps).1 ∈
        (Draft.climb pronoun gone current draft steps).2.known := by
  -- Each step enters one person, links that person to the one below, and goes on from there.
  induction steps generalizing draft gone current with
  | nil => exact ⟨sound.follows, here⟩
  | cons step rest ih =>
    obtain ⟨entered, member⟩ := sound.node (ancestorLabel pronoun (gone ++ [step])).1
      (ancestorLabel pronoun (gone ++ [step])).2
    have linked := entered.sound.link member (entered.stay current here)
    obtain ⟨rest, reached⟩ := ih linked.sound (gone ++ [step]) (linked.stay _ member)
    exact ⟨(entered.trans linked).trans rest, reached⟩

/-- A relative is entered soundly, and is known. -/
theorem Sound.chain (sound : draft.Sound source) (spec : RelativeSpec) :
    Follows source draft (draft.chain spec).2 ∧ (draft.chain spec).1 ∈ (draft.chain spec).2.known := by
  -- The way up starts from the root.
  obtain ⟨entered, member⟩ := sound.node spec.pronoun.root.1 spec.pronoun.root.2
  obtain ⟨climbed, reached⟩ := entered.sound.climb spec.pronoun [] member spec.steps
  exact ⟨entered.trans climbed, reached⟩

/-- A shared parent of two known people is entered soundly. -/
theorem Sound.shareParent (sound : draft.Sound source) {left right : PersonId}
    (leftKnown : left ∈ draft.known) (rightKnown : right ∈ draft.known) (parent : String × Sex) :
    Follows source draft (draft.shareParent left right parent) := by
  -- The parent is entered and linked to both.
  obtain ⟨entered, member⟩ := sound.fresh parent.1 parent.2
  have first := entered.sound.link member (entered.stay left leftKnown)
  have second := first.sound.link (first.stay _ member) (first.stay right (entered.stay right rightKnown))
  exact (entered.trans first).trans second

/-- Any number of shared parents are entered soundly. -/
theorem Sound.foldl_shareParent (sound : draft.Sound source) {left right : PersonId}
    (leftKnown : left ∈ draft.known) (rightKnown : right ∈ draft.known)
    (parents : List (String × Sex)) :
    Follows source draft (parents.foldl (Draft.shareParent left right) draft) := by
  -- The two people stay known while the parents are entered one by one.
  induction parents generalizing draft with
  | nil => exact sound.follows
  | cons parent rest ih =>
    have entered := sound.shareParent leftKnown rightKnown parent
    exact entered.trans (ih entered.sound (entered.stay left leftKnown) (entered.stay right rightKnown))

end Draft

/-- The people have the identifiers of as many draws from a source, in their order, the source is left
after these, and the links are sound. -/
structure CompiledGraph.DrawnFrom (graph : CompiledGraph) (source rest : IdSource) : Prop where
  drawn : graph.persons.map Person.id = source.upcoming graph.persons.length
  rest : rest = source.after graph.persons.length
  links : SoundLinks graph.persons graph.edges

/-- The people of a sound draft may be described in another way, as long as nobody's identifier changes. -/
theorem Draft.Sound.drawnFrom {source : IdSource} {draft : Draft} (sound : draft.Sound source)
    {graph : CompiledGraph} (same : graph.persons.map Person.id = draft.known)
    (edges : graph.edges = draft.edges) : graph.DrawnFrom source draft.ids := by
  -- There are as many people in the graph as in the draft.
  have count : graph.persons.length = draft.persons.length := by
    simpa [known] using congrArg List.length same
  refine ⟨by rw [same, count, sound.drawn], by rw [count, sound.ids], ?_⟩
  rw [edges]
  exact sound.links.among fun id member _ => by rwa [same]

/-- What is made of a sentence is drawn from its source, and sound, with room for the draws or without. -/
theorem CompiledGraph.drawnFrom_ofSentence (sentence : Sentence) (source : IdSource) :
    (ofSentence sentence source).1.DrawnFrom source (ofSentence sentence source).2 := by
  -- The draft is sound after each stage, and a note changes nobody's identifier.
  obtain ⟨one, left⟩ := (Draft.sound_empty source).chain sentence.left
  obtain ⟨two, right⟩ := one.sound.chain sentence.right
  have three := two.sound.foldl_shareParent (two.stay _ left) right sharedParents
  refine three.sound.drawnFrom ?_ rfl
  simp only [ofSentence]
  split
  · refine map_changeFirst _ _ Person.id ?_ _
    exact fun person => rfl
  · rfl

/-- A phrase that compiles is a sentence, and its graph is made of that. -/
theorem CompiledGraph.ofPhrase_eq_ok {text : String} {source rest : IdSource} {graph : CompiledGraph}
    (compiled : ofPhrase text source = .ok (graph, rest)) :
    Sentence.ofTokens (Token.ofPhrase text) = .ok graph.sentence ∧
      ofSentence graph.sentence source = (graph, rest) := by
  rw [ofPhrase] at compiled
  cases parsed : Sentence.ofTokens (Token.ofPhrase text) with
  | error error =>
    -- Nothing is made where no sentence is read.
    rw [parsed] at compiled
    cases compiled
  | ok sentence =>
    rw [parsed] at compiled
    have made : ofSentence sentence source = (graph, rest) := Except.ok.inj compiled
    have same : sentence = graph.sentence := congrArg (fun pair => pair.1.sentence) made
    exact ⟨congrArg Except.ok same, same ▸ made⟩

/-- What is made of a phrase is drawn from its source, and sound. -/
theorem CompiledGraph.drawnFrom_ofPhrase {text : String} {source rest : IdSource}
    {graph : CompiledGraph} (compiled : ofPhrase text source = .ok (graph, rest)) :
    graph.DrawnFrom source rest := by
  obtain ⟨_, made⟩ := ofPhrase_eq_ok compiled
  have drawn := drawnFrom_ofSentence graph.sentence source
  rwa [made] at drawn

end Kindred
