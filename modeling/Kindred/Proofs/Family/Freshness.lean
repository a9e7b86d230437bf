import Kindred.Proofs.Family.Operation

/-! Along a run of edits the identifiers that a tree draws are new, as long as its counter has room. -/

namespace Kindred

namespace FamilyTree

/-- What a source has passed stays passed when a list of people is shown to it. -/
theorem passed_observeAll {ids : IdSource} {id : PersonId} (passed : ids.Passed id)
    (people : List Person) : (observeAll ids people).Passed id := by
  -- The people are shown one by one.
  rw [observeAll]
  induction people generalizing ids with
  | nil => exact passed
  | cons person rest ih => exact ih (passed.observe person.id)

/-- People who are shown to a source are passed. -/
theorem passed_of_mem_observeAll (ids : IdSource) {people : List Person} {id : PersonId}
    (shown : id ∈ people.map Person.id) : (observeAll ids people).Passed id := by
  -- The person is passed when his or her turn comes, and stays so.
  induction people generalizing ids with
  | nil => simp at shown
  | cons person rest ih =>
    rcases List.mem_cons.mp shown with same | later
    · rw [same]
      exact passed_observeAll (IdSource.passed_observe ids person.id) rest
    · exact ih (ids.observe person.id) later

/-- All people have different identifiers, and the source makes none of them again. -/
structure Settled (tree : FamilyTree) : Prop where
  nodup : tree.known.Nodup
  passed : ∀ id, id ∈ tree.known → tree.ids.Passed id

variable {tree : FamilyTree}

/-- With the same source, some of the people are settled as all of them were. -/
theorem Settled.sublist (settled : tree.Settled) {after : FamilyTree}
    (fewer : after.known.Sublist tree.known) (ids : after.ids = tree.ids) : after.Settled := by
  -- Nobody is new.
  refine ⟨settled.nodup.sublist fewer, fun id member => ?_⟩
  rw [ids]
  exact settled.passed id (fewer.subset member)

/-- The people of a phrase that was compiled with room are settled in any tree they are put into. -/
theorem settled_replaceWith (tree : FamilyTree) {graph : CompiledGraph} {source rest : IdSource}
    (drawn : graph.DrawnFrom source rest) (room : source.HasRoom graph.persons.length) :
    (tree.replaceWith graph).Settled := by
  -- They were drawn one after the other, and all of them are shown to the source of the tree.
  refine ⟨?_, fun id member => passed_of_mem_observeAll tree.ids member⟩
  rw [known, replaceWith, drawn.drawn]
  exact room.nodup_upcoming

/-- A document whose people have different identifiers becomes a settled tree. -/
theorem settled_ofDocument {document : FamilyDocument}
    (distinct : (document.people.map Person.id).Nodup) (source : IdSource) :
    (ofDocument document source).Settled := by
  -- Its people are shown to the source, and its links change neither of them.
  obtain ⟨people, ids⟩ := foldl_addEdgeIfValid_frame
    { persons := document.people, ids := observeAll source document.people } document.relations
  rw [← ofDocument] at people ids
  constructor
  · rw [known, people]
    exact distinct
  · intro id member
    rw [known, people] at member
    rw [ids]
    exact passed_of_mem_observeAll source member

end FamilyTree

/-- The identifiers that an edit draws from the source of a tree. -/
def Edit.drawn (tree : FamilyTree) : Edit → List PersonId
  | .addPerson name sex note => [(tree.addPerson name sex note).1]
  | .parse text =>
    match CompiledGraph.ofPhrase text tree.ids with
    | .ok (graph, _) => graph.persons.map Person.id
    | .error _ => []
  | _ => []

/-- No identifier is drawn in an edit from a counter that stands at its largest value. -/
def Edit.HasRoom (tree : FamilyTree) : Edit → Prop
  | .addPerson _ _ _ => tree.ids.HasRoom 1
  | .parse text => ∀ graph rest, CompiledGraph.ofPhrase text tree.ids = .ok (graph, rest) →
    tree.ids.HasRoom graph.persons.length
  | .adopt text source => ∀ graph rest, CompiledGraph.ofPhrase text source = .ok (graph, rest) →
    source.HasRoom graph.persons.length
  | _ => True

namespace FamilyTree

/-- The tree after some edits, one after the other. -/
def edits (tree : FamilyTree) (edits : List Edit) : FamilyTree :=
  edits.foldl edit tree

/-- In no edit of a run is an identifier drawn from a counter that stands at its largest value. -/
def HasRoomFor (tree : FamilyTree) : List Edit → Prop
  | [] => True
  | edit :: rest => edit.HasRoom tree ∧ (tree.edit edit).HasRoomFor rest

variable {tree : FamilyTree}

/-- What an edit does to the people and to the source of identifiers. -/
inductive Effect (tree : FamilyTree) : Edit → FamilyTree → Prop
  /-- Nobody comes in, and the source is left alone. -/
  | quiet {edit : Edit} {after : FamilyTree} (fewer : after.known.Sublist tree.known)
    (ids : after.ids = tree.ids) : Effect tree edit after
  | observe (id : PersonId) : Effect tree (.observe id) (tree.observe id)
  | addPerson (name : String) (sex : Sex) (note : Option String) :
    Effect tree (.addPerson name sex note) (tree.addPerson name sex note).2
  | parse {text : String} {graph : CompiledGraph} {rest : IdSource}
    (compiled : CompiledGraph.ofPhrase text tree.ids = .ok (graph, rest)) :
    Effect tree (.parse text) ({ tree with ids := rest }.replaceWith graph)
  | adopt {text : String} {source : IdSource} {graph : CompiledGraph} {rest : IdSource}
    (compiled : CompiledGraph.ofPhrase text source = .ok (graph, rest)) :
    Effect tree (.adopt text source) (tree.replaceWith graph)

/-- An edit that leaves a tree as it was is a quiet one. -/
theorem Effect.same (edit : Edit) : Effect tree edit tree :=
  .quiet (List.Sublist.refl _) rfl

/-- Changing a person, but not the identifier, is quiet. -/
theorem Effect.changed {edit : Edit} {id : PersonId} {change : Person → Person} {after : FamilyTree}
    (same : ∀ person, (change person).id = person.id)
    (done : tree.changePerson id change = .ok after) : Effect tree edit after := by
  -- Everybody is known as before.
  obtain ⟨people, _, ids⟩ := known_changePerson same done
  exact .quiet (people ▸ List.Sublist.refl _) ids

/-- The identifiers that are left when a person is removed stand as they stood. -/
theorem known_removePerson_sublist (tree : FamilyTree) (id : PersonId) :
    (tree.removePerson id).2.known.Sublist tree.known ∧ (tree.removePerson id).2.ids = tree.ids := by
  -- At most one person goes.
  rw [removePerson]
  split
  · exact ⟨List.Sublist.refl _, rfl⟩
  · exact ⟨List.Sublist.map _ List.eraseP_sublist, rfl⟩

/-- Each edit has one of the effects. -/
theorem effect_edit (tree : FamilyTree) (edit : Edit) : Effect tree edit (tree.edit edit) := by
  -- Only four kinds of edits, when they succeed, bring people in or touch the source.
  have outcome := outcome_edit tree edit
  generalize tree.edit edit = after at outcome ⊢
  cases outcome with
  | same => exact .same edit
  | addPerson name sex note => exact .addPerson name sex note
  | addEdge parent child =>
    obtain ⟨people, ids⟩ := addEdgeIfValid_frame tree ⟨parent, child⟩
    refine .quiet ?_ ids
    rw [known, people]
    exact List.Sublist.refl _
  | removeEdge parent child => exact .quiet (List.Sublist.refl _) rfl
  | removePerson id =>
    obtain ⟨fewer, ids⟩ := known_removePerson_sublist tree id
    exact .quiet fewer ids
  | changePerson same done => exact .changed same done
  | observe id => exact .observe id
  | parse done =>
    obtain ⟨rest, compiled, rfl⟩ := parsePhrase_eq_ok done
    exact .parse compiled
  | adopt compiled => exact .adopt compiled

/-- What the source of a tree has passed stays passed in an edit. -/
theorem passed_edit {id : PersonId} (passed : tree.ids.Passed id) (edit : Edit) :
    (tree.edit edit).ids.Passed id := by
  -- Draws and identifiers that are shown only move the counter on.
  have effect := effect_edit tree edit
  generalize tree.edit edit = after at effect ⊢
  cases effect with
  | quiet _ ids => rwa [ids]
  | observe other => exact passed.observe other
  | addPerson name sex note => exact passed.draw
  | parse compiled =>
    have drawn := CompiledGraph.drawnFrom_ofPhrase compiled
    refine passed_observeAll ?_ _
    rw [drawn.rest]
    exact passed.after _
  | adopt compiled => exact passed_observeAll passed _

/-- With room, what an edit draws has not been passed. -/
theorem not_passed_of_mem_drawn {edit : Edit} (room : edit.HasRoom tree) {id : PersonId}
    (drawn : id ∈ edit.drawn tree) : ¬tree.ids.Passed id := by
  -- What has been passed is not among the next draws.
  intro passed
  cases edit with
  | addPerson name sex note =>
    exact passed.ne_peek (room 0 Nat.zero_lt_one) (List.mem_singleton.mp drawn)
  | parse text =>
    rw [Edit.drawn] at drawn
    split at drawn
    · rename_i graph rest compiled
      rw [(CompiledGraph.drawnFrom_ofPhrase compiled).drawn] at drawn
      exact passed.not_mem_upcoming (room graph rest compiled) drawn
    · simp at drawn
  | _ => simp [Edit.drawn] at drawn

/-- With room, an edit leaves the people settled. -/
theorem Settled.edit (settled : tree.Settled) {edit : Edit} (room : edit.HasRoom tree) :
    (tree.edit edit).Settled := by
  -- People stay settled, are shown to the source, or are drawn from it.
  have effect := effect_edit tree edit
  generalize tree.edit edit = after at effect ⊢
  cases effect with
  | quiet fewer ids => exact settled.sublist fewer ids
  | observe other => exact ⟨settled.nodup, fun id member => (settled.passed id member).observe other⟩
  | addPerson name sex note =>
    -- The counter is not at its largest value, so the draw is fresh and is passed.
    have free : tree.ids.next.toNat < maxCount := room 0 Nat.zero_lt_one
    have grows : (tree.addPerson name sex note).2.known = tree.known ++ [tree.ids.peek] := by
      simp [known, addPerson, IdSource.draw]
    constructor
    · rw [grows, List.nodup_append]
      refine ⟨settled.nodup, by simp, fun id member other last => ?_⟩
      rw [List.mem_singleton.mp last]
      exact (settled.passed id member).ne_peek free
    · intro id member
      rw [grows, List.mem_append, List.mem_singleton] at member
      rcases member with before | new
      · exact (settled.passed id before).draw
      · exact new ▸ IdSource.passed_peek tree.ids
  | parse compiled =>
    exact settled_replaceWith _ (CompiledGraph.drawnFrom_ofPhrase compiled) (room _ _ compiled)
  | adopt compiled =>
    exact settled_replaceWith _ (CompiledGraph.drawnFrom_ofPhrase compiled) (room _ _ compiled)

/-- What has been passed stays passed along a run. -/
theorem passed_edits {id : PersonId} (passed : tree.ids.Passed id) (more : List Edit) :
    (tree.edits more).ids.Passed id := by
  -- It is passed before each edit, hence after it.
  induction more generalizing tree with
  | nil => exact passed
  | cons edit rest ih => exact ih (passed_edit passed edit)

/-- With room for each of them, any number of edits leaves the people settled. -/
theorem Settled.edits (settled : tree.Settled) {more : List Edit} (room : tree.HasRoomFor more) :
    (tree.edits more).Settled := by
  -- The people are settled before each edit, hence after it.
  induction more generalizing tree with
  | nil => exact settled
  | cons edit rest ih => exact ih (settled.edit room.1) room.2

/-- A run goes on from where its first part ends. -/
theorem edits_append (tree : FamilyTree) (first second : List Edit) :
    tree.edits (first ++ second) = (tree.edits first).edits second :=
  List.foldl_append

/-- There is room for a run when there is room for its two parts. -/
theorem hasRoomFor_append {first second : List Edit} :
    tree.HasRoomFor (first ++ second) ↔
      tree.HasRoomFor first ∧ (tree.edits first).HasRoomFor second := by
  -- The edits of the first part are gone through one by one.
  induction first generalizing tree with
  | nil => simp [HasRoomFor, FamilyTree.edits]
  | cons edit rest ih =>
    rw [List.cons_append, HasRoomFor, HasRoomFor, ih, and_assoc]
    rfl

/-- An identifier that was shown in a run is passed after it. -/
theorem passed_edits_of_observe (tree : FamilyTree) {more : List Edit} {id : PersonId}
    (shown : .observe id ∈ more) : (tree.edits more).ids.Passed id := by
  -- It is passed when it is shown, and stays so.
  obtain ⟨first, second, rfl⟩ := List.append_of_mem shown
  rw [edits_append]
  exact passed_edits (IdSource.passed_observe _ id) second

/-- Along a run the people have different identifiers at every point, and every identifier that the tree
draws is new: nobody has had it, and it has not been shown. -/
structure FreshThroughout (tree : FamilyTree) (run : List Edit) : Prop where
  distinct : ∀ before after, run = before ++ after → (tree.edits before).known.Nodup
  neverHeld : ∀ before edit after, run = before ++ edit :: after →
    ∀ id ∈ edit.drawn (tree.edits before),
      ∀ earlier later, before = earlier ++ later → id ∉ (tree.edits earlier).known
  neverShown : ∀ before edit after, run = before ++ edit :: after →
    ∀ id ∈ edit.drawn (tree.edits before), .observe id ∉ before

/-- A tree to begin with: an empty one with any source of identifiers, or that of a document whose people
have different identifiers. -/
inductive Beginning : FamilyTree → Prop
  | empty (source : IdSource) : Beginning { ids := source }
  | document {document : FamilyDocument} (distinct : (document.people.map Person.id).Nodup)
    (source : IdSource) : Beginning (ofDocument document source)

/-- The people of a tree to begin with are settled. -/
theorem Beginning.settled (begins : Beginning tree) : tree.Settled := by
  cases begins with
  | empty source => exact ⟨List.nodup_nil, by simp [known]⟩
  | document distinct source => exact settled_ofDocument distinct source

/-- From a tree to begin with, every run of edits that has room draws only new identifiers. -/
theorem freshThroughout_of_hasRoomFor (begins : Beginning tree) {run : List Edit}
    (room : tree.HasRoomFor run) : tree.FreshThroughout run := by
  constructor
  · -- The people are settled at every point.
    rintro before after rfl
    exact (begins.settled.edits (hasRoomFor_append.mp room).1).nodup
  · -- Whoever was there was passed then, and is passed ever after.
    rintro _ edit after rfl id drawn earlier later rfl held
    obtain ⟨roomBefore, roomHere, _⟩ := hasRoomFor_append.mp room
    have settled := begins.settled.edits (hasRoomFor_append.mp roomBefore).1
    refine not_passed_of_mem_drawn roomHere drawn ?_
    rw [edits_append]
    exact passed_edits (settled.passed id held) later
  · -- What was shown is passed ever after.
    rintro before edit after rfl id drawn shown
    obtain ⟨_, roomHere, _⟩ := hasRoomFor_append.mp room
    exact not_passed_of_mem_drawn roomHere drawn (passed_edits_of_observe tree shown)

/-- A person is entered and removed, an identifier is shown, and six people of a phrase and another person
come in with new ones. -/
theorem freshThroughout_after_phrase :
    FreshThroughout {} [.addPerson "Анна" .female none, .removePerson ⟨"p1"⟩, .observe ⟨"p5"⟩,
      .parse "Его мать сестра её матери", .addPerson "Иван" .male none] := by
  refine freshThroughout_of_hasRoomFor (.empty {}) ⟨?_, trivial, trivial, ?_, ?_, trivial⟩
  · unfold Edit.HasRoom IdSource.HasRoom
    decide
  · -- The phrase makes six people, so the counter has to have room for six draws.
    intro graph rest compiled
    have made := congrArg (fun result => result.toOption.map fun pair => pair.1.persons.length) compiled
    have size : 6 = graph.persons.length := Option.some.inj (Eq.trans (by decide) made)
    rw [← size]
    unfold IdSource.HasRoom
    decide
  · unfold Edit.HasRoom IdSource.HasRoom
    decide

end FamilyTree

end Kindred
