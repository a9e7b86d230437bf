import Kindred.Family.Editing
import Kindred.Proofs.Family.Tree

/-! Work on a family that fails leaves no trace, and work that succeeds changes only what it is about. -/

namespace Kindred

/-- A person is the first one with an identifier among people, and these stand before and after. -/
structure StandsFirst (persons : List Person) (id : PersonId) (before : List Person) (person : Person)
    (after : List Person) : Prop where
  split : persons = before ++ person :: after
  has : person.id = id
  first : id ∉ before.map Person.id

namespace StandsFirst

variable {persons before after : List Person} {person : Person} {id : PersonId}

/-- Nobody before has the identifier. -/
theorem refused (stands : StandsFirst persons id before person after) :
    ∀ other ∈ before, ¬decide (other.id = id) = true := by
  intro other earlier
  have differ : other.id ≠ id := fun same => stands.first (same ▸ List.mem_map_of_mem earlier)
  simpa using differ

/-- The search stops at the first one. -/
theorem find?_eq (stands : StandsFirst persons id before person after) :
    (persons.find? fun other => other.id = id) = some person := by
  rw [List.find?_eq_some_iff_append]
  exact ⟨by simpa using stands.has, before, after, stands.split, by simpa using stands.refused⟩

/-- The place of the first one is behind those before. -/
theorem findIdx?_eq (stands : StandsFirst persons id before person after) :
    (persons.findIdx? fun other => other.id = id) = some before.length := by
  have none : (before.findIdx? fun other => other.id = id) = none :=
    List.findIdx?_eq_none_iff.mpr (by simpa using stands.refused)
  rw [stands.split, List.findIdx?_append, none, List.findIdx?_cons, if_pos (by simpa using stands.has)]
  simp

/-- To change the first one is to change the one at that place. -/
theorem changeFirst_eq (stands : StandsFirst persons id before person after) (change : Person → Person) :
    changeFirst (fun other => other.id = id) change persons = before ++ change person :: after := by
  -- Those before are passed over one after the other.
  obtain ⟨rfl, has, first⟩ := stands
  induction before with
  | nil => rw [List.nil_append, changeFirst, if_pos (by simpa using has), List.nil_append]
  | cons head rest ih =>
    rw [List.map_cons, List.mem_cons, not_or] at first
    obtain ⟨differ, later⟩ := first
    rw [List.cons_append, changeFirst, if_neg (by simpa using Ne.symm differ), ih later, List.cons_append]

/-- The first one stands at that place. -/
theorem getElem?_eq (stands : StandsFirst persons id before person after) :
    persons[before.length]? = some person := by
  rw [stands.split, List.getElem?_append_right (Nat.le_refl _), Nat.sub_self]
  rfl

/-- To change whoever stands at that place is to change the first one. -/
theorem modify_eq (stands : StandsFirst persons id before person after) (change : Person → Person) :
    persons.modify before.length change = before ++ change person :: after := by
  rw [List.modify_eq_take_drop, stands.split, List.take_left, List.drop_left]
  rfl

/-- To erase whoever stands at that place is to erase the first one. -/
theorem eraseIdx_eq (stands : StandsFirst persons id before person after) :
    persons.eraseIdx before.length = persons.eraseP fun other => other.id = id := by
  rw [List.eraseP_eq_eraseIdx, stands.findIdx?_eq]

/-- Without the first one the others are left. -/
theorem eraseP_eq (stands : StandsFirst persons id before person after) :
    (persons.eraseP fun other => other.id = id) = before ++ after := by
  rw [stands.split, List.eraseP_append_right _ stands.refused,
    List.eraseP_cons_of_pos (by simpa using stands.has)]

/-- Of the people with an identifier one is the first. -/
theorem of_mem (known : id ∈ persons.map Person.id) :
    ∃ before person after, StandsFirst persons id before person after := by
  -- It is the one at whom the search stops.
  obtain ⟨found, isFound⟩ := Option.isSome_iff_exists.mp
    (List.find?_isSome.mpr (by simpa using known) :
      (persons.find? fun other => other.id = id).isSome)
  obtain ⟨has, before, after, split, refused⟩ := List.find?_eq_some_iff_append.mp isFound
  exact ⟨before, found, after, split, by simpa using has, by simpa using refused⟩

/-- Without the identifier there is neither a first one nor a place. -/
theorem of_not_mem (unknown : id ∉ persons.map Person.id) :
    (persons.findIdx? fun other => other.id = id) = none ∧
      (persons.find? fun other => other.id = id) = none := by
  rw [List.findIdx?_eq_none_iff, List.find?_eq_none]
  exact ⟨by simpa using unknown, by simpa using unknown⟩

end StandsFirst

namespace Editing

variable {ε α : Type}

/-- A change that is told as a whole, as work in place: it writes a new tree, or fails and writes nothing. -/
def ofChange (change : FamilyTree → Except ε (α × FamilyTree)) : EStateM ε FamilyTree α := fun tree =>
  match change tree with
  | .ok (value, after) => .ok value after
  | .error error => .error error tree

variable {change : FamilyTree → Except ε (α × FamilyTree)} {tree after : FamilyTree}

/-- A change fails when it is refused, and the tree is the same. -/
theorem run_ofChange_eq_error_iff {error : ε} :
    (ofChange change).run tree = .error error after ↔ change tree = .error error ∧ after = tree := by
  rw [EStateM.run, ofChange]
  cases change tree <;> simp [eq_comm]

/-- A change succeeds when it is made. -/
theorem run_ofChange_eq_ok_iff {value : α} :
    (ofChange change).run tree = .ok value after ↔ change tree = .ok (value, after) := by
  rw [EStateM.run, ofChange]
  cases change tree <;> simp [Prod.ext_iff]

/-- Work that requires somebody goes on when that one is there. -/
theorem run_require_bind (id : PersonId) (next : Unit → EStateM TreeError FamilyTree α) (tree : FamilyTree) :
    (require id >>= next).run tree =
      if tree.contains id then (next ()).run tree else .error (.unknownPerson id) tree := by
  have required : (require id).run tree =
      if tree.contains id then .ok () tree else .error (.unknownPerson id) tree := by
    simp only [require, EStateM.run_bind, EStateM.run_get]
    cases tree.contains id <;> rfl
  rw [EStateM.run_bind, required]
  cases tree.contains id <;> rfl

/-- Links are added as a whole. -/
theorem addEdge_eq (parent child : PersonId) :
    addEdge parent child = ofChange fun tree => tree.addEdge parent child := by
  -- Nothing is written before the last check, so wherever the work fails the tree is the one it began with.
  funext tree
  show (addEdge parent child).run tree = _
  simp only [addEdge, ofChange, FamilyTree.addEdge]
  by_cases loop : ParentEdge.isSelfLoop ⟨parent, child⟩
  · rw [if_pos loop, if_pos loop]
    rfl
  · rw [if_neg loop, if_neg loop, run_require_bind, run_require_bind]
    by_cases parentKnown : tree.contains parent
    · by_cases childKnown : tree.contains child
      · simp only [parentKnown, childKnown, if_pos, EStateM.run_bind, EStateM.run_get]
        by_cases there : tree.edges.contains ⟨parent, child⟩
        · simp only [there, if_pos, EStateM.run_pure]
          rfl
        · rw [if_neg there, if_neg there]
          rfl
      · simp [parentKnown, childKnown]
    · simp [parentKnown]

/-- There are fewer links without one of them when it is there. -/
theorem length_filter_bne (edge : ParentEdge) (edges : List ParentEdge) :
    ((edges.filter (· != edge)).length != edges.length) = edges.contains edge := by
  -- All links stay exactly when each of them is another one.
  rw [Bool.eq_iff_iff, bne_iff_ne, Ne, List.length_filter_eq_length_iff, List.contains_iff_mem]
  constructor
  · intro fewer
    refine Decidable.byContradiction fun missing => fewer fun other member => ?_
    rw [bne_iff_ne]
    rintro rfl
    exact missing member
  · intro member all
    simpa using all edge member

/-- Links are removed as a whole. -/
theorem removeEdge_eq (parent child : PersonId) :
    removeEdge parent child = ofChange fun tree => .ok (tree.removeEdge parent child) := by
  funext tree
  show (removeEdge parent child).run tree = _
  simp only [removeEdge, EStateM.run_bind, EStateM.run_get, EStateM.run_modify, EStateM.run_pure,
    length_filter_bne]
  rfl

/-- People are removed as a whole. -/
theorem removePerson_eq (id : PersonId) :
    removePerson id = ofChange fun tree => .ok (tree.removePerson id) := by
  -- The place is looked for before anything is written, and the one who stands there is the first one.
  funext tree
  show (removePerson id).run tree = _
  simp only [removePerson, place?, ofChange, FamilyTree.removePerson, FamilyTree.person?, EStateM.run_bind,
    EStateM.run_get, EStateM.run_pure]
  by_cases known : id ∈ tree.known
  · obtain ⟨before, person, after, stands⟩ := StandsFirst.of_mem known
    simp only [stands.find?_eq, stands.findIdx?_eq, EStateM.run_bind, EStateM.run_get, EStateM.run_modify,
      EStateM.run_pure, stands.eraseIdx_eq, stands.getElem?_eq]
  · obtain ⟨noPlace, nobody⟩ := StandsFirst.of_not_mem known
    simp only [noPlace, nobody, EStateM.run_pure]

/-- People are changed as a whole. -/
theorem changePerson_eq (id : PersonId) (change : Person → Person) :
    changePerson id change = ofChange fun tree => (tree.changePerson id change).map ((), ·) := by
  -- Whoever stands at the place that is found is the first one with the identifier.
  funext tree
  show (changePerson id change).run tree = _
  simp only [changePerson, place?, ofChange, FamilyTree.changePerson, EStateM.run_bind,
    EStateM.run_get, EStateM.run_pure]
  by_cases known : id ∈ tree.known
  · obtain ⟨before, person, after, stands⟩ := StandsFirst.of_mem known
    rw [if_pos ((FamilyTree.contains_iff tree id).mpr known)]
    simp only [stands.findIdx?_eq, stands.changeFirst_eq, stands.modify_eq, EStateM.run_modify, Except.map]
  · rw [if_neg (known ∘ (FamilyTree.contains_iff tree id).mp)]
    simp only [(StandsFirst.of_not_mem known).1, Except.map]
    rfl

/-- Texts are loaded as a whole. -/
theorem load_eq (text : String) (source : IdSource) :
    load text source = ofChange fun _ => (FamilyDocument.ofText text).map fun document =>
      ((), FamilyTree.ofDocument document source) := by
  funext tree
  show (load text source).run tree = _
  cases read : FamilyDocument.ofText text <;> rw [load, ofChange, read] <;> rfl

/-- Phrases are compiled as a whole. -/
theorem compile_eq (text : String) :
    compile text = ofChange fun tree => (CompiledGraph.ofPhrase text tree.ids).map fun (graph, ids) =>
      (graph, { tree with ids := ids }) := by
  -- The phrase is a sentence before the first identifier is drawn.
  funext tree
  show (compile text).run tree = _
  cases parsed : Sentence.ofTokens (Token.ofPhrase text) <;>
    rw [compile, ofChange, CompiledGraph.ofPhrase, parsed] <;> rfl

/-- Phrases are parsed as a whole. -/
theorem parse_eq (text : String) : parse text = ofChange fun tree => tree.parsePhrase text := by
  funext tree
  show (parse text).run tree = _
  -- Compiling fails and nothing follows it, or the contents are replaced.
  rw [parse, compile_eq, EStateM.run_bind, EStateM.run, ofChange, ofChange, FamilyTree.parsePhrase]
  cases CompiledGraph.ofPhrase text tree.ids <;> rfl

end Editing

namespace FamilyTree

variable {tree : FamilyTree}

/-- Why a link is refused. That nobody is a parent of himself is looked at first, and the parent before the
child. -/
def RefusesEdge (tree : FamilyTree) (parent child : PersonId) (error : TreeError) : Prop :=
  parent = child ∧ error = .selfLoop parent ∨
    parent ≠ child ∧ (parent ∉ tree.known ∧ error = .unknownPerson parent ∨
      parent ∈ tree.known ∧ child ∉ tree.known ∧ error = .unknownPerson child)

/-- Adding a link fails when the link is refused. -/
theorem addEdge_eq_error_iff {parent child : PersonId} {error : TreeError} :
    tree.addEdge parent child = .error error ↔ tree.RefusesEdge parent child error := by
  -- Once nothing is wrong with the people the link is added, or it is there already.
  simp only [addEdge, RefusesEdge, ParentEdge.isSelfLoop, beq_iff_eq, Bool.not_eq_true', ← contains_iff]
  by_cases same : parent = child
  · simpa [same] using eq_comm
  · cases parentKnown : tree.contains parent
    · simpa [same] using eq_comm
    · cases childKnown : tree.contains child
      · simpa [same] using eq_comm
      · by_cases there : (⟨parent, child⟩ : ParentEdge) ∈ tree.edges <;> simp [same, there]

/-- The first person with an identifier has been changed, and nothing else. -/
def ChangesFirst (tree after : FamilyTree) (id : PersonId) (change : Person → Person) : Prop :=
  ∃ before person rest, StandsFirst tree.persons id before person rest ∧
    after = { tree with persons := before ++ change person :: rest }

/-- Changing somebody changes the first one. -/
theorem changesFirst_of_changePerson {after : FamilyTree} {id : PersonId} {change : Person → Person}
    (done : tree.changePerson id change = .ok after) : tree.ChangesFirst after id change := by
  rw [changePerson] at done
  split at done
  · rename_i known
    obtain ⟨before, person, rest, stands⟩ := StandsFirst.of_mem ((contains_iff tree id).mp known)
    cases done
    rw [stands.changeFirst_eq]
    exact ⟨before, person, rest, stands, rfl⟩
  · cases done

/-- Changing somebody fails when nobody has the identifier. -/
theorem changePerson_eq_error_iff {id : PersonId} {change : Person → Person} {error : TreeError} :
    tree.changePerson id change = .error error ↔ id ∉ tree.known ∧ error = .unknownPerson id := by
  rw [changePerson, ← contains_iff]
  cases tree.contains id <;> simp [eq_comm]

/-- Removing somebody takes the first one out, and all links of the identifier. -/
theorem removePerson_eq_some {after : FamilyTree} {id : PersonId} {person : Person}
    (done : tree.removePerson id = (some person, after)) :
    ∃ before rest, StandsFirst tree.persons id before person rest ∧ after =
      { tree with persons := before ++ rest, edges := tree.edges.filter fun edge => !edge.touches id } := by
  -- The one who is found stands first, so the others are those before and those after.
  rw [removePerson] at done
  split at done
  · cases done
  · rename_i found
    have known : id ∈ tree.known := (contains_iff tree id).mp (Option.isSome_of_eq_some found)
    obtain ⟨before, first, rest, stands⟩ := StandsFirst.of_mem known
    obtain rfl : first = person := by
      cases done
      exact Option.some.inj (stands.find?_eq.symm.trans found)
    cases done
    rw [stands.eraseP_eq]
    exact ⟨before, rest, stands, rfl⟩

/-- Removing nobody changes nothing. -/
theorem removePerson_eq_none {after : FamilyTree} {id : PersonId}
    (done : tree.removePerson id = (none, after)) : after = tree := by
  rw [removePerson] at done
  split at done <;> cases done
  rfl

/-- Removing a link that is not there changes nothing. -/
theorem removeEdge_eq_false {after : FamilyTree} {parent child : PersonId}
    (done : tree.removeEdge parent child = (false, after)) : after = tree := by
  -- No link is struck out, because each one is another.
  obtain ⟨missing, rfl⟩ := Prod.mk.inj done
  have allStay : tree.edges.filter (· != ⟨parent, child⟩) = tree.edges := by
    rw [List.filter_eq_self]
    intro edge recorded
    rw [bne_iff_ne]
    rintro rfl
    simp [recorded] at missing
  rw [allStay]

end FamilyTree

namespace Editing

variable {tree : FamilyTree}

/-- Changing somebody in place fails when nobody has the identifier, and leaves the tree as it was. -/
theorem run_changePerson_eq_error_iff {after : FamilyTree} {id : PersonId} {change : Person → Person}
    {error : TreeError} : (changePerson id change).run tree = .error error after ↔
      (id ∉ tree.known ∧ error = .unknownPerson id) ∧ after = tree := by
  rw [changePerson_eq, run_ofChange_eq_error_iff, ← FamilyTree.changePerson_eq_error_iff]
  cases tree.changePerson id change <;> simp [Except.map]

/-- Changing somebody in place changes the first one. -/
theorem changesFirst_of_run_changePerson {after : FamilyTree} {id : PersonId} {change : Person → Person}
    (done : (changePerson id change).run tree = .ok () after) : tree.ChangesFirst after id change := by
  rw [changePerson_eq, run_ofChange_eq_ok_iff] at done
  cases changed : tree.changePerson id change with
  | error error => simp [changed, Except.map] at done
  | ok other =>
    obtain rfl : other = after := by simpa [changed, Except.map] using done
    exact FamilyTree.changesFirst_of_changePerson changed

/-- Work in place does what is told as a whole: it writes the tree that is told, or fails and has written
nothing. -/
structure DoneAsTold : Prop where
  addEdge : ∀ parent child, addEdge parent child = ofChange fun tree => tree.addEdge parent child
  removeEdge : ∀ parent child,
    removeEdge parent child = ofChange fun tree => .ok (tree.removeEdge parent child)
  removePerson : ∀ id, removePerson id = ofChange fun tree => .ok (tree.removePerson id)
  rename : ∀ id name, rename id name = ofChange fun tree => (tree.rename id name).map ((), ·)
  setNote : ∀ id note, setNote id note = ofChange fun tree => (tree.setNote id note).map ((), ·)
  load : ∀ text source, load text source = ofChange fun _ =>
    (FamilyDocument.ofText text).map fun document => ((), FamilyTree.ofDocument document source)
  compile : ∀ text, compile text = ofChange fun tree =>
    (CompiledGraph.ofPhrase text tree.ids).map fun (graph, ids) => (graph, { tree with ids := ids })
  parse : ∀ text, parse text = ofChange fun tree => tree.parsePhrase text

/-- Work on a tree that fails, or does not find what it is about, leaves the tree as it was. Work that succeeds
changes what it is about and nothing else. -/
structure EditsCleanly (tree : FamilyTree) : Prop where
  edgeRefused : ∀ parent child error after, (addEdge parent child).run tree = .error error after ↔
    tree.RefusesEdge parent child error ∧ after = tree
  edgeKnown : ∀ parent child after, (addEdge parent child).run tree = .ok false after → after = tree
  edgeAdded : ∀ parent child after, (addEdge parent child).run tree = .ok true after →
    after = { tree with edges := tree.edges ++ [⟨parent, child⟩] }
  edgeMissing : ∀ parent child after, (removeEdge parent child).run tree = .ok false after → after = tree
  edgeRemoved : ∀ parent child after, (removeEdge parent child).run tree = .ok true after →
    after = { tree with edges := tree.edges.filter (· != ⟨parent, child⟩) }
  personMissing : ∀ id after, (removePerson id).run tree = .ok none after → after = tree
  personRemoved : ∀ id person after, (removePerson id).run tree = .ok (some person) after →
    ∃ before rest, StandsFirst tree.persons id before person rest ∧
      after = { tree with persons := before ++ rest, edges := tree.edges.filter fun edge => !edge.touches id }
  nameRefused : ∀ id name error after, (rename id name).run tree = .error error after ↔
    (id ∉ tree.known ∧ error = .unknownPerson id) ∧ after = tree
  nameWritten : ∀ id name after, (rename id name).run tree = .ok () after →
    tree.ChangesFirst after id fun person => { person with name := name }
  noteRefused : ∀ id note error after, (setNote id note).run tree = .error error after ↔
    (id ∉ tree.known ∧ error = .unknownPerson id) ∧ after = tree
  noteWritten : ∀ id note after, (setNote id note).run tree = .ok () after →
    tree.ChangesFirst after id fun person => { person with note := note }
  textRefused : ∀ text source error after, (load text source).run tree = .error error after → after = tree
  phraseRefused : ∀ text error after, (compile text).run tree = .error error after → after = tree
  phraseCompiled : ∀ text graph after, (compile text).run tree = .ok graph after →
    after = { tree with ids := after.ids }
  sentenceRefused : ∀ text error after, (parse text).run tree = .error error after → after = tree

/-- All work is done as it is told. -/
theorem doneAsTold : DoneAsTold where
  addEdge := addEdge_eq
  removeEdge := removeEdge_eq
  removePerson := removePerson_eq
  rename id name := changePerson_eq id fun person => { person with name := name }
  setNote id note := changePerson_eq id fun person => { person with note := note }
  load := load_eq
  compile := compile_eq
  parse := parse_eq

/-- Every tree is edited cleanly, also one in which identifiers repeat. -/
theorem editsCleanly (tree : FamilyTree) : EditsCleanly tree where
  edgeRefused parent child error after := by
    rw [addEdge_eq, run_ofChange_eq_error_iff, FamilyTree.addEdge_eq_error_iff]
  edgeKnown parent child after done := by
    rw [addEdge_eq, run_ofChange_eq_ok_iff] at done
    obtain ⟨_, _, _, ⟨_, _, same⟩ | ⟨_, added, _⟩⟩ := FamilyTree.addEdge_eq_ok done
    · exact same
    · cases added
  edgeAdded parent child after done := by
    rw [addEdge_eq, run_ofChange_eq_ok_iff] at done
    obtain ⟨_, _, _, ⟨_, added, _⟩ | ⟨_, _, written⟩⟩ := FamilyTree.addEdge_eq_ok done
    · cases added
    · exact written
  edgeMissing parent child after done := by
    rw [removeEdge_eq, run_ofChange_eq_ok_iff] at done
    exact FamilyTree.removeEdge_eq_false (Except.ok.inj done)
  edgeRemoved parent child after done := by
    rw [removeEdge_eq, run_ofChange_eq_ok_iff] at done
    exact (Prod.mk.inj (Except.ok.inj done)).2.symm
  personMissing id after done := by
    rw [removePerson_eq, run_ofChange_eq_ok_iff] at done
    exact FamilyTree.removePerson_eq_none (Except.ok.inj done)
  personRemoved id person after done := by
    rw [removePerson_eq, run_ofChange_eq_ok_iff] at done
    exact FamilyTree.removePerson_eq_some (Except.ok.inj done)
  nameRefused id name error after := run_changePerson_eq_error_iff
  nameWritten id name after done := changesFirst_of_run_changePerson done
  noteRefused id note error after := run_changePerson_eq_error_iff
  noteWritten id note after done := changesFirst_of_run_changePerson done
  textRefused text source error after failed := by
    rw [load_eq, run_ofChange_eq_error_iff] at failed
    exact failed.2
  phraseRefused text error after failed := by
    rw [compile_eq, run_ofChange_eq_error_iff] at failed
    exact failed.2
  phraseCompiled text graph after done := by
    rw [compile_eq, run_ofChange_eq_ok_iff] at done
    cases compiled : CompiledGraph.ofPhrase text tree.ids with
    | error error => simp [compiled, Except.map] at done
    | ok drawn =>
      simp only [compiled, Except.map, Except.ok.injEq, Prod.mk.injEq] at done
      rw [← done.2]
  sentenceRefused text error after failed := by
    rw [parse_eq, run_ofChange_eq_error_iff] at failed
    exact failed.2

/-- Nothing that fails leaves a trace in a tree, and nothing that succeeds does more than it is about. -/
theorem leavesNoTrace : DoneAsTold ∧ ∀ tree, EditsCleanly tree :=
  ⟨doneAsTold, editsCleanly⟩

/-- Two people with one identifier. -/
def namesakes : FamilyTree :=
  { persons := [⟨⟨"p1"⟩, "Анна", .female, none⟩, ⟨⟨"p1"⟩, "Иван", .male, none⟩] }

/-- Where an identifier repeats, a link from it to itself is refused as such, a parent who is not there is named
before a child who is not, and only the first one with the identifier is renamed. -/
theorem leavesNoTrace_among_namesakes :
    (addEdge ⟨"p1"⟩ ⟨"p1"⟩).run namesakes = .error (.selfLoop ⟨"p1"⟩) namesakes ∧
    (addEdge ⟨"p2"⟩ ⟨"p3"⟩).run namesakes = .error (.unknownPerson ⟨"p2"⟩) namesakes ∧
    namesakes.ChangesFirst
      { persons := [⟨⟨"p1"⟩, "Мария", .female, none⟩, ⟨⟨"p1"⟩, "Иван", .male, none⟩] } ⟨"p1"⟩
      (fun person => { person with name := "Мария" }) := by
  have cleanly := leavesNoTrace.2 namesakes
  refine ⟨(cleanly.edgeRefused _ _ _ _).mpr ⟨Or.inl ⟨rfl, rfl⟩, rfl⟩,
    (cleanly.edgeRefused _ _ _ _).mpr ⟨Or.inr ⟨by decide, Or.inl ⟨by decide, rfl⟩⟩, rfl⟩,
    cleanly.nameWritten _ _ _ rfl⟩

end Editing

end Kindred
