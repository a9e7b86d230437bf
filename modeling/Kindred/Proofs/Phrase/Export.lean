import Kindred.Proofs.Family.RoundTrip
import Kindred.Proofs.Phrase.Kinship

/-! The family of a phrase that is exported and read again has the same two roots, which are found by their
names, and they are to each other what they are in the phrase. -/

namespace Kindred

/-- Among members that all show something different, what one of them shows finds that one. -/
theorem find?_of_nodup_map {α β : Type} [DecidableEq β] {view : α → β} {members : List α}
    (distinct : (members.map view).Nodup) {member : α} (inside : member ∈ members) :
    members.find? (fun other => view other = view member) = some member := by
  -- The search passes every head but the member itself.
  induction members with
  | nil => cases inside
  | cons head rest ih =>
    obtain ⟨absent, distinct⟩ := List.nodup_cons.mp distinct
    rcases List.mem_cons.mp inside with rfl | inRest
    · exact List.find?_cons_of_pos (by simp)
    · -- The head shows something else.
      have differ : view head ≠ view member := by
        intro same
        exact absent (same ▸ List.mem_map_of_mem inRest)
      rw [List.find?_cons_of_neg (by simpa using differ), ih distinct inRest]

/-- An identifier that a source makes ends in a digit, so it is no word that ends in another character. -/
theorem IdSource.numbered_ne (source : IdSource) (count : Nat) {word : String}
    (noDigit : word.toList.getLast?.any Char.isDigit = false) : source.numbered count ≠ ⟨word⟩ := by
  intro same
  have text : source.label ++ toString count = word := congrArg PersonId.text same
  have written : (toString count).toList = Nat.toDigits 10 count := by simp
  have some : Nat.toDigits 10 count ≠ [] := Nat.toDigits_ne_nil
  -- The last character is the last digit of the counter.
  have last : word.toList.getLast? = (Nat.toDigits 10 count).getLast? := by
    rw [← text, String.toList_append, written, List.getLast?_append_of_ne_nil _ some]
  rw [last, List.getLast?_eq_some_getLast some, Option.any_some] at noDigit
  have digit : ((Nat.toDigits 10 count).getLast some).isDigit = true :=
    Json.Number.isDigit_of_mem (List.getLast_mem some)
  exact absurd digit (Bool.eq_false_iff.mp noDigit)

/-- A tree finds a person by a root of a graph, and another tree finds the same one by a key, with the same
name, sex and note. -/
structure FoundOnBoth (parsed loaded : FamilyTree) (root : Option PersonId) (key : String)
    (person : Person) : Prop where
  root : root = some person.id
  parsed : parsed.person? person.id = some person
  key : loaded.resolve? key = some person.id
  loaded : loaded.person? person.id = some person

namespace CompiledGraph

variable {graph : CompiledGraph} {source rest : IdSource}

/-- The document that the family of a graph is exported as. -/
def toDocument (graph : CompiledGraph) : FamilyDocument :=
  ⟨graph.persons, graph.edges⟩

/-- The root of a pronoun is somebody of that name. -/
theorem Shows.exists_root {sentence : Sentence} (shows : graph.Shows source rest sentence)
    {pronoun : Pronoun} (there : (graph.root? pronoun).isSome) :
    ∃ person ∈ graph.persons, person.name = pronoun.root.1 ∧ graph.root? pronoun = some person.id := by
  rw [shows.root?_eq, Option.isSome_ite] at there
  obtain ⟨person, member, id, label⟩ := shows.exists_person there
  refine ⟨person, member, congrArg Prod.fst label, ?_⟩
  rw [shows.root?_eq, if_pos there, id]

/-- Two trees with the people of a graph both find its root of a pronoun, the one by the identifier and the
other by the name, which is no identifier. -/
theorem Individual.exists_foundOnBoth {sentence : Sentence}
    (individual : graph.Individual source rest sentence) (shows : graph.Shows source rest sentence)
    {parsed loaded : FamilyTree} (parsedPersons : parsed.persons = graph.persons)
    (loadedPersons : loaded.persons = graph.persons) (pronoun : Pronoun)
    (there : (graph.root? pronoun).isSome) :
    ∃ person, FoundOnBoth parsed loaded (graph.root? pronoun) pronoun.root.1 person := by
  obtain ⟨person, member, name, root⟩ := shows.exists_root there
  have byId := find?_of_nodup_map individual.distinct member
  have byName := find?_of_nodup_map individual.names member
  -- No identifier is the name, so the key is looked up among the names.
  have noId : loaded.person? ⟨pronoun.root.1⟩ = none := by
    refine List.find?_eq_none.mpr fun other inside => ?_
    rw [loadedPersons] at inside
    have listed : other.id ∈ graph.persons.map Person.id := List.mem_map_of_mem inside
    rw [individual.ids] at listed
    obtain ⟨place, _, same⟩ := List.mem_map.mp listed
    rw [← same, decide_eq_true_iff]
    refine source.numbered_ne _ ?_
    cases pronoun <;> rfl
  refine ⟨person, root, by rwa [FamilyTree.person?, parsedPersons], ?_,
    by rwa [FamilyTree.person?, loadedPersons]⟩
  rw [FamilyTree.resolve?, noId, Option.none_or, FamilyTree.personNamed?, loadedPersons, ← name, byName,
    Option.map_some]

/-- The phrase and its export tell the same: the text of the export is accepted, and whatever sources of new
identifiers the trees have, the two roots of the phrase are the people whom their names mean in the export, and
they are classified alike, the evidence included. -/
theorem export_classifiesAlike {text : String} (compiled : ofPhrase text source = .ok (graph, rest))
    (counters : source.HasCounters graph.persons.length) (hasHe : graph.rootHe.isSome)
    (hasShe : graph.rootShe.isSome) (tree : FamilyTree) :
    ∃ document, FamilyDocument.ofText graph.toDocument.pretty = .ok document ∧
      ∀ ids, ∃ he she,
        FoundOnBoth (tree.replaceWith graph) (.ofDocument document ids) graph.rootHe "Он" he ∧
        FoundOnBoth (tree.replaceWith graph) (.ofDocument document ids) graph.rootShe "Она" she ∧
        ∀ options, (tree.replaceWith graph).classify options he.id she.id =
          (FamilyTree.ofDocument document ids).classify options he.id she.id := by
  -- A phrase that compiles is a sentence, so everybody in the graph is somebody of their own.
  obtain ⟨_, made⟩ := ofPhrase_eq_ok compiled
  have individual := individual_ofSentence graph.sentence source (by rwa [made])
  have shows := shows_ofSentence graph.sentence source
  have drawn := drawnFrom_ofSentence graph.sentence source
  rw [made] at individual shows drawn
  -- What takes the place of the contents comes back, so both trees have the same people and links.
  have replaced : (tree.replaceWith graph).persons = graph.persons := rfl
  obtain ⟨document, accepted, same⟩ :=
    (FamilyTree.sound_replaceWith tree drawn).comesBack individual.distinct
  refine ⟨document, accepted, fun ids => ?_⟩
  obtain ⟨persons, edges⟩ := same ids
  obtain ⟨he, foundHe⟩ := individual.exists_foundOnBoth shows replaced persons .his hasHe
  obtain ⟨she, foundShe⟩ := individual.exists_foundOnBoth shows replaced persons .her hasShe
  refine ⟨he, she, foundHe, foundShe, fun options => ?_⟩
  rw [FamilyTree.classify, FamilyTree.classify, persons, edges]

/-- A phrase with a rank, whose wording becomes a note, is exported and read with identifiers that begin like
the name of a root. -/
theorem export_classifiesAlike_with_rank :
    ∃ graph rest, ofPhrase "Его мать младшая сестра её матери" { label := "Он", start := 5 } =
        .ok (graph, rest) ∧
      IdSource.HasCounters { label := "Он", start := 5 } graph.persons.length ∧
      ∃ document, FamilyDocument.ofText graph.toDocument.pretty = .ok document ∧
        ∃ he she,
          FoundOnBoth (FamilyTree.replaceWith {} graph) (.ofDocument document {}) graph.rootHe "Он" he ∧
          FoundOnBoth (FamilyTree.replaceWith {} graph) (.ofDocument document {}) graph.rootShe "Она"
            she ∧
          ∀ options, (FamilyTree.replaceWith {} graph).classify options he.id she.id =
            (FamilyTree.ofDocument document {}).classify options he.id she.id := by
  -- The phrase makes six people, two of them roots.
  have read : (ofPhrase "Его мать младшая сестра её матери" { label := "Он", start := 5 }).toOption.map
      (fun made => (made.1.persons.length, made.1.rootHe.isSome, made.1.rootShe.isSome)) =
      some (6, true, true) := by decide +kernel
  cases compiled : ofPhrase "Его мать младшая сестра её матери" { label := "Он", start := 5 } with
  | error => cases compiled ▸ read
  | ok made =>
    obtain ⟨graph, rest⟩ := made
    simp only [compiled, Except.toOption, Option.map_some, Option.some.injEq, Prod.mk.injEq] at read
    obtain ⟨size, hasHe, hasShe⟩ := read
    have counters : IdSource.HasCounters { label := "Он", start := 5 } graph.persons.length :=
      size ▸ show 5 + 6 - 1 ≤ maxCount by decide
    obtain ⟨document, accepted, alike⟩ := export_classifiesAlike compiled counters hasHe hasShe {}
    exact ⟨graph, rest, rfl, counters, document, accepted, alike {}⟩

end CompiledGraph

end Kindred
