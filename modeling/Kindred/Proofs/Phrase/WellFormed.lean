import Kindred.Proofs.Pedigree.Cycles
import Kindred.Proofs.Phrase.Drawing

/-! What is made of a sentence is well formed: its links lead from people drawn later to people drawn earlier,
and as long as the counter has values for the draws, everybody has an identifier and a name of their own. -/

namespace Kindred

namespace CompiledGraph

/-- The person stands on the way to a relative, after that many of its steps. -/
def StandsAt (graph : CompiledGraph) (spec : RelativeSpec) (height : Nat) (person : Person) : Prop :=
  -- People are known by their names.
  person ∈ graph.persons ∧
    person.name = (ancestorLabel spec.pronoun (spec.steps.take height)).1

/-- The root that a pronoun stands for. -/
def root? (graph : CompiledGraph) : Pronoun → Option PersonId
  | .his => graph.rootHe
  | .her => graph.rootShe

/-- The people of a graph come in the order in which they were drawn, and its links join two different people
of it, each pair once, and lead from somebody drawn later to somebody drawn earlier. -/
structure InOrder (graph : CompiledGraph) (source rest : IdSource) : Prop where
  drawn : graph.persons.map Person.id = source.upcoming graph.persons.length
  rest : rest = source.after graph.persons.length
  nodup : graph.edges.Nodup
  differ : ∀ edge ∈ graph.edges, edge.parent ≠ edge.child
  known : ∀ edge ∈ graph.edges,
    edge.parent ∈ graph.persons.map Person.id ∧ edge.child ∈ graph.persons.map Person.id
  downwards : ∀ edge ∈ graph.edges, ∀ early late : Nat,
    (graph.persons.map Person.id)[early]? = some edge.child →
      (graph.persons.map Person.id)[late]? = some edge.parent → early < late
  acyclic : (Pedigree.ofRecords graph.persons graph.edges).isAcyclic

/-- The way up to a relative: the root and one person for each step, with the sex of the step, each linked to
the one below. -/
structure HasWay (graph : CompiledGraph) (spec : RelativeSpec) : Prop where
  stands : ∀ height, height ≤ spec.steps.length → ∃ person, graph.StandsAt spec height person
  root : ∀ person, graph.StandsAt spec 0 person →
    person.sex = spec.pronoun.root.2 ∧ graph.root? spec.pronoun = some person.id
  sexes : ∀ (height : Nat) (step : Step) (person : Person), spec.steps[height]? = some step →
    graph.StandsAt spec (height + 1) person → person.sex = step.sex
  linked : ∀ (height : Nat) (lower upper : Person), height < spec.steps.length →
    graph.StandsAt spec height lower → graph.StandsAt spec (height + 1) upper →
    ⟨upper.id, lower.id⟩ ∈ graph.edges

/-- Everybody of a graph has an identifier and a name of their own, the ways to both relatives are there, and
the relatives share two parents. -/
structure Individual (graph : CompiledGraph) (source rest : IdSource) (sentence : Sentence) : Prop where
  ids : graph.persons.map Person.id = (List.range graph.persons.length).map fun place =>
    source.numbered (source.next.toNat + place)
  distinct : (graph.persons.map Person.id).Nodup
  counter : rest.next.toNat = min (source.next.toNat + graph.persons.length) maxCount
  names : (graph.persons.map Person.name).Nodup
  ways : ∀ spec, sentence.Names spec → graph.HasWay spec
  meets : ∀ height height', height ≤ sentence.left.steps.length →
    height' ≤ sentence.right.steps.length →
    ((∃ person, graph.StandsAt sentence.left height person ∧
        graph.StandsAt sentence.right height' person) ↔
      sentence.left.pronoun = sentence.right.pronoun ∧
        sentence.left.steps.take height = sentence.right.steps.take height')
  shared : ∀ parent ∈ sharedParents, ∃ person ∈ graph.persons, (person.name, person.sex) = parent ∧
    ∀ spec, sentence.Names spec → ∀ relative, graph.StandsAt spec spec.steps.length relative →
      ⟨person.id, relative.id⟩ ∈ graph.edges
  roots : ∀ pronoun, (graph.root? pronoun).isSome ↔
    ∃ spec, sentence.Names spec ∧ spec.pronoun = pronoun

end CompiledGraph

/-- As long as the counter has values for the draws, a figure of the cast is known by its identifier. -/
theorem IdSource.idIn_inj {source : IdSource} {cast : List Figure}
    (counters : source.HasCounters cast.length) {first second : Figure} (one : first ∈ cast)
    (other : second ∈ cast) (same : source.idIn cast first = source.idIn cast second) :
    first = second := by
  -- Different draws make different identifiers, and different figures have different places.
  have firstPlace := List.idxOf_lt_length_of_mem one
  have secondPlace := List.idxOf_lt_length_of_mem other
  have places := counters.peek_after_inj firstPlace secondPlace same
  rw [← List.getElem_idxOf firstPlace, ← List.getElem_idxOf secondPlace]
  simp only [places]

/-- The sex of the person at the end of some steps is that of the last step. -/
theorem ancestorLabel_snd (pronoun : Pronoun) (gone : List Step) (step : Step) :
    (ancestorLabel pronoun (gone ++ [step])).2 = step.sex := by
  -- One step and several steps are named in different ways.
  rcases gone with _ | ⟨first, _ | ⟨second, rest⟩⟩
  · rfl
  · rfl
  · have last : (second :: (rest ++ [step])).getLast (by simp) = step := by
      simp only [← List.cons_append, List.getLast_concat]
    exact congrArg Step.sex last

/-- What tells the figures of a cast apart gives each of them something of their own. -/
theorem Sentence.nodup_map_cast {α : Type} (sentence : Sentence) {view : Figure → α}
    (apart : ∀ first ∈ sentence.cast, ∀ second ∈ sentence.cast, view first = view second →
      first = second) : (sentence.cast.map view).Nodup := by
  rw [List.Nodup, List.pairwise_map]
  exact sentence.nodup_cast.imp_of_mem fun one other differ same =>
    differ (apart _ one _ other same)

namespace CompiledGraph.Shows

variable {graph : CompiledGraph} {source rest : IdSource} {sentence : Sentence}

/-- There are as many people as figures. -/
theorem length_persons (shows : graph.Shows source rest sentence) :
    graph.persons.length = sentence.cast.length := by
  simpa using congrArg List.length shows.persons

/-- Everybody is a figure of the cast. -/
theorem exists_figure (shows : graph.Shows source rest sentence) {person : Person}
    (member : person ∈ graph.persons) : ∃ figure ∈ sentence.cast,
      person.id = source.idIn sentence.cast figure ∧ (person.name, person.sex) = figure.label := by
  have listed : person.identity ∈ graph.persons.map Person.identity := List.mem_map_of_mem member
  rw [shows.persons] at listed
  obtain ⟨figure, inside, same⟩ := List.mem_map.mp listed
  obtain ⟨id, label⟩ := Prod.mk.inj same
  exact ⟨figure, inside, id.symm, label.symm⟩

/-- Every figure of the cast is a person. -/
theorem exists_person (shows : graph.Shows source rest sentence) {figure : Figure}
    (member : figure ∈ sentence.cast) : ∃ person ∈ graph.persons,
      person.id = source.idIn sentence.cast figure ∧ (person.name, person.sex) = figure.label := by
  have listed := List.mem_map_of_mem (f := fun figure =>
    (source.idIn sentence.cast figure, figure.label)) member
  rw [← shows.persons] at listed
  obtain ⟨person, inside, same⟩ := List.mem_map.mp listed
  obtain ⟨id, label⟩ := Prod.mk.inj same
  exact ⟨person, inside, id, label⟩

/-- The identifiers are those of the figures. -/
theorem map_id_persons (shows : graph.Shows source rest sentence) :
    graph.persons.map Person.id = sentence.cast.map (source.idIn sentence.cast) := by
  simpa [Function.comp_def, Person.identity] using congrArg (List.map Prod.fst) shows.persons

/-- The names are those of the figures. -/
theorem map_name_persons (shows : graph.Shows source rest sentence) :
    graph.persons.map Person.name = sentence.cast.map fun figure => figure.label.1 := by
  simpa [Function.comp_def, Person.identity] using
    congrArg (List.map fun identity => identity.2.1) shows.persons

/-- The root of a pronoun is the person without a step. -/
theorem root?_eq (shows : graph.Shows source rest sentence) (pronoun : Pronoun) :
    graph.root? pronoun = if .onWay pronoun [] ∈ sentence.cast then
      some (source.idIn sentence.cast (.onWay pronoun [])) else none := by
  cases pronoun with
  | his => exact shows.rootHe
  | her => exact shows.rootShe

/-- Whoever has the name of a figure is that figure. -/
theorem of_name_eq (shows : graph.Shows source rest sentence) {figure : Figure}
    (occurs : figure.Occurs) {person : Person} (member : person ∈ graph.persons)
    (named : person.name = figure.label.1) :
    figure ∈ sentence.cast ∧ person.id = source.idIn sentence.cast figure ∧
      person.sex = figure.label.2 := by
  -- No two figures that occur have the same name.
  obtain ⟨other, inside, id, label⟩ := shows.exists_figure member
  obtain ⟨name, sex⟩ := Prod.mk.inj label
  have same := (Sentence.occurs_of_mem_cast inside).eq_of_name_eq occurs (name.symm.trans named)
  subst same
  exact ⟨inside, id, sex⟩

/-- Whoever stands on a way is the figure there. -/
theorem of_standsAt (shows : graph.Shows source rest sentence) {spec : RelativeSpec} {height : Nat}
    {person : Person} (stands : graph.StandsAt spec height person) :
    .onWay spec.pronoun (spec.steps.take height) ∈ sentence.cast ∧
      person.id = source.idIn sentence.cast (.onWay spec.pronoun (spec.steps.take height)) ∧
        person.sex = (ancestorLabel spec.pronoun (spec.steps.take height)).2 := by
  have occurs : (Figure.onWay spec.pronoun (spec.steps.take height)).Occurs :=
    Nat.le_trans (List.length_take_le' ..) spec.length_steps.2
  exact shows.of_name_eq occurs stands.1 stands.2

/-- Somebody stands at each place of the ways to the relatives. -/
theorem exists_standsAt (shows : graph.Shows source rest sentence) {spec : RelativeSpec}
    (named : sentence.Names spec) (height : Nat) : ∃ person, graph.StandsAt spec height person := by
  have member : .onWay spec.pronoun (spec.steps.take height) ∈ sentence.cast :=
    Sentence.onWay_mem_cast_iff.mpr ⟨spec, named, rfl, List.take_prefix ..⟩
  obtain ⟨person, inside, _, label⟩ := shows.exists_person member
  exact ⟨person, inside, congrArg Prod.fst label⟩

/-- As long as there are counters, the links are what the sentence tells. -/
theorem mem_edges_of_tells (shows : graph.Shows source rest sentence)
    (counters : source.HasCounters graph.persons.length) {parent child : Figure}
    (tells : sentence.Tells parent child) :
    ⟨source.idIn sentence.cast parent, source.idIn sentence.cast child⟩ ∈ graph.edges := by
  -- The two ends have different places in the cast, and therefore different identifiers.
  rw [shows.length_persons] at counters
  refine (shows.edges _ _).mpr ⟨fun same => ?_, parent, child, tells, rfl, rfl⟩
  have figures := IdSource.idIn_inj counters tells.mem_cast.1 tells.mem_cast.2 same
  exact Nat.lt_irrefl _ (figures ▸ tells.idxOf_lt)

/-- The ways to the relatives are there. -/
theorem hasWay (shows : graph.Shows source rest sentence)
    (counters : source.HasCounters graph.persons.length) {spec : RelativeSpec}
    (named : sentence.Names spec) : graph.HasWay spec where
  stands height _ := shows.exists_standsAt named height
  root person stands := by
    obtain ⟨member, id, sex⟩ := shows.of_standsAt stands
    refine ⟨sex, ?_⟩
    rw [shows.root?_eq, id]
    exact if_pos member
  sexes height step person there stands := by
    obtain ⟨inside, rfl⟩ := List.getElem?_eq_some_iff.mp there
    rw [(shows.of_standsAt stands).2.2, ← List.take_append_getElem inside]
    exact ancestorLabel_snd spec.pronoun _ _
  linked height lower upper inside below above := by
    have steps := List.take_append_getElem inside
    have tells : sentence.Tells (.onWay spec.pronoun (spec.steps.take (height + 1)))
        (.onWay spec.pronoun (spec.steps.take height)) := by
      rw [← steps]
      exact .step named (steps ▸ List.take_prefix ..)
    rw [(shows.of_standsAt below).2.1, (shows.of_standsAt above).2.1]
    exact shows.mem_edges_of_tells counters tells

/-- The two ways share somebody where both lead from the same root by the same steps. -/
theorem exists_standsAt_both_iff (shows : graph.Shows source rest sentence) (height height' : Nat) :
    (∃ person, graph.StandsAt sentence.left height person ∧
        graph.StandsAt sentence.right height' person) ↔
      sentence.left.pronoun = sentence.right.pronoun ∧
        sentence.left.steps.take height = sentence.right.steps.take height' := by
  -- A person has one name, and a figure is known by it.
  constructor
  · rintro ⟨person, one, other⟩
    have first := Sentence.occurs_of_mem_cast (shows.of_standsAt one).1
    have second := Sentence.occurs_of_mem_cast (shows.of_standsAt other).1
    exact Figure.onWay.inj (first.eq_of_name_eq second (one.2.symm.trans other.2))
  · rintro ⟨pronouns, steps⟩
    obtain ⟨person, stands⟩ := shows.exists_standsAt (Or.inl rfl) height
    exact ⟨person, stands, stands.1, by rw [stands.2, pronouns, steps]⟩

/-- A shared parent is linked to both relatives. -/
theorem exists_shared (shows : graph.Shows source rest sentence)
    (counters : source.HasCounters graph.persons.length) {parent : String × Sex}
    (shares : parent ∈ sharedParents) :
    ∃ person ∈ graph.persons, (person.name, person.sex) = parent ∧
      ∀ spec, sentence.Names spec → ∀ relative, graph.StandsAt spec spec.steps.length relative →
        ⟨person.id, relative.id⟩ ∈ graph.edges := by
  -- The sentence tells the links to both relatives.
  obtain ⟨person, inside, id, label⟩ :=
    shows.exists_person (Sentence.shared_mem_cast_iff.mpr shares)
  refine ⟨person, inside, label, fun spec named relative stands => ?_⟩
  have below := (shows.of_standsAt stands).2.1
  rw [List.take_length] at below
  rw [id, below]
  exact shows.mem_edges_of_tells counters (.shared named shares)

/-- A pronoun has a root exactly when one of the relatives has the pronoun. -/
theorem isSome_root?_iff (shows : graph.Shows source rest sentence) (pronoun : Pronoun) :
    (graph.root? pronoun).isSome ↔ ∃ spec, sentence.Names spec ∧ spec.pronoun = pronoun := by
  rw [shows.root?_eq, Option.isSome_ite, Sentence.onWay_mem_cast_iff]
  simp

end CompiledGraph.Shows

/-- Links of which the one end is always drawn after the other one have no cycle. -/
theorem Pedigree.isAcyclic_of_downwards {people : List Person} {edges : List ParentEdge}
    (downwards : ∀ edge ∈ edges, ∀ early late : Nat,
      (people.map Person.id)[early]? = some edge.child →
        (people.map Person.id)[late]? = some edge.parent → early < late) :
    (ofRecords people edges).isAcyclic := by
  -- Everybody ranks by the first place among the people.
  have placed : ∀ id ∈ people.map Person.id,
      (people.map Person.id)[(people.map Person.id).idxOf id]? = some id := by
    intro id member
    have inside := List.idxOf_lt_length_of_mem member
    rw [List.getElem?_eq_getElem inside, List.getElem_idxOf inside]
  refine isAcyclic_of_rank (fun id => (people.map Person.id).idxOf id) fun parent child kept => ?_
  exact downwards _ kept.recorded _ _ (placed child kept.childKnown) (placed parent kept.parentKnown)

namespace CompiledGraph

variable (sentence : Sentence) (source : IdSource)

/-- What is made of a sentence is in order, with counters for the draws or without. -/
theorem inOrder_ofSentence :
    (ofSentence sentence source).1.InOrder source (ofSentence sentence source).2 := by
  -- Children come before their parents in the cast, and the draws follow the cast.
  have shows := shows_ofSentence sentence source
  have drawn := drawnFrom_ofSentence sentence source
  generalize ofSentence sentence source = made at shows drawn
  obtain ⟨graph, rest⟩ := made
  have downwards : ∀ edge ∈ graph.edges, ∀ early late : Nat,
      (graph.persons.map Person.id)[early]? = some edge.child →
        (graph.persons.map Person.id)[late]? = some edge.parent → early < late := by
    rintro ⟨parent, child⟩ recorded early late childThere parentThere
    -- The sentence tells the link of two figures, of whom the child comes first in the cast.
    obtain ⟨differ, upper, lower, tells, rfl, rfl⟩ := (shows.edges parent child).mp recorded
    rw [drawn.drawn] at childThere parentThere
    obtain ⟨_, one⟩ := List.getElem?_eq_some_iff.mp childThere
    obtain ⟨_, other⟩ := List.getElem?_eq_some_iff.mp parentThere
    simp only [IdSource.upcoming, List.getElem_map, List.getElem_range] at one other
    exact source.lt_of_peek_after_eq tells.idxOf_lt differ one other
  refine ⟨drawn.drawn, drawn.rest, drawn.links.nodup,
    fun edge recorded => (drawn.links.kept _ _ recorded).differ, fun edge recorded => ?_, downwards,
    Pedigree.isAcyclic_of_downwards downwards⟩
  have kept := drawn.links.kept edge.parent edge.child recorded
  exact ⟨kept.parentKnown, kept.childKnown⟩

/-- With counters for the draws, everybody in what is made of a sentence is somebody of their own. -/
theorem individual_ofSentence
    (counters : source.HasCounters (ofSentence sentence source).1.persons.length) :
    (ofSentence sentence source).1.Individual source (ofSentence sentence source).2 sentence := by
  -- The draws count upwards, so everything that holds of the figures holds of the people.
  have shows := shows_ofSentence sentence source
  have drawn := drawnFrom_ofSentence sentence source
  generalize ofSentence sentence source = made at shows drawn counters
  obtain ⟨graph, rest⟩ := made
  refine ⟨?_, ?_, ?_, ?_, fun spec named => shows.hasWay counters named,
    fun height height' _ _ => shows.exists_standsAt_both_iff height height',
    fun parent shares => shows.exists_shared counters shares, shows.isSome_root?_iff⟩
  · rw [drawn.drawn]
    exact List.map_congr_left fun place inside => counters.peek_after (List.mem_range.mp inside)
  · rw [shows.map_id_persons]
    rw [shows.length_persons] at counters
    exact sentence.nodup_map_cast fun first one second other => IdSource.idIn_inj counters one other
  · rw [drawn.rest, IdSource.toNat_next_after]
  · rw [shows.map_name_persons]
    refine sentence.nodup_map_cast fun first one second other => ?_
    exact (Sentence.occurs_of_mem_cast one).eq_of_name_eq (Sentence.occurs_of_mem_cast other)

/-- Whatever sentence a graph is made of, it is in order, and with counters for the draws everybody in it is
somebody of their own. -/
theorem wellFormed_ofSentence :
    (ofSentence sentence source).1.InOrder source (ofSentence sentence source).2 ∧
      (source.HasCounters (ofSentence sentence source).1.persons.length →
        (ofSentence sentence source).1.Individual source (ofSentence sentence source).2 sentence) :=
  ⟨inOrder_ofSentence sentence source, individual_ofSentence sentence source⟩

/-- The last of six draws may be made with the largest counter. -/
theorem wellFormed_ofSentence_up_to_largest :
    let source : IdSource := { start := 18446744073709551610 }
    let sentence : Sentence := ⟨⟨.his, .mother, none⟩, ⟨none, "сестра", .sister⟩, ⟨.her, .mother, none⟩⟩
    source.HasCounters (ofSentence sentence source).1.persons.length ∧
      (ofSentence sentence source).1.Individual source (ofSentence sentence source).2 sentence :=
  have counters : IdSource.HasCounters { start := 18446744073709551610 } 6 :=
    show 18446744073709551610 + 6 - 1 ≤ maxCount by decide
  ⟨counters, (wellFormed_ofSentence _ _).2 counters⟩

/-- Behind a draw with the largest counter the counter has not advanced by the number of people. -/
theorem next_ofSentence_ne_at_largest :
    let source : IdSource := { start := 18446744073709551610 }
    let sentence : Sentence := ⟨⟨.his, .mother, none⟩, ⟨none, "сестра", .sister⟩, ⟨.her, .mother, none⟩⟩
    source.HasCounters (ofSentence sentence source).1.persons.length ∧
      (ofSentence sentence source).2.next.toNat ≠
        source.next.toNat + (ofSentence sentence source).1.persons.length := by
  refine ⟨?_, ?_⟩
  · exact show 18446744073709551610 + 6 - 1 ≤ maxCount by decide
  · decide

end CompiledGraph

end Kindred
