import Kindred.Proofs.Family.Document
import Kindred.Proofs.Family.Freshness
import Kindred.Proofs.Family.Reading
import Kindred.Proofs.Record.People

/-! A family that is written to a file and read again is the same family. -/

namespace Kindred

open Json

namespace FamilyDocument

/-- A document is an object of lists of objects of texts. -/
theorem fits_encode (room : Nat) (document : FamilyDocument) :
    Value.Fits (room + 3) document.encode := by
  have people := Value.fits_map (Person.fits_encode room) document.people
  have relations := Value.fits_map (ParentEdge.fits_encode room) document.relations
  refine .object fun member inside => ?_
  rcases inside with _ | ⟨_, _ | ⟨_, ⟨⟩⟩⟩
  · exact people
  · exact relations

/-- The members that a document is written as. -/
def members (document : FamilyDocument) : List (String × Value) :=
  [("people", .array (document.people.map Person.encode)),
    ("relations", .array (document.relations.map ParentEdge.encode))]

/-- A document whose people have different identifiers is read from what it is written as. -/
theorem ofValue_encode {document : FamilyDocument}
    (distinct : (document.people.map Person.id).Nodup) :
    ofValue document.encode.asRead = .ok document := by
  -- The two lists are found by their keys, and every record of them is read.
  have once : (document.members.map Prod.fst).Nodup := (by decide : ["people", "relations"].Nodup)
  have people : ListsPeople (Value.membersAsRead [] document.members)
      (Value.itemsAsRead (document.people.map Person.encode)) := by
    rw [ListsPeople, Value.member?_membersAsRead once]
    rfl
  have relations : ListsRelations (Value.membersAsRead [] document.members)
      (Value.itemsAsRead (document.relations.map ParentEdge.encode)) := by
    rw [ListsRelations, Value.member?_membersAsRead once]
    exact Or.inl rfl
  have holds : Holds (Value.membersAsRead [] document.members) document :=
    ⟨_, _, people, relations, Record.readAs_map Person.decode_encode _,
      Record.readAs_map ParentEdge.decode_encode _⟩
  exact ofValue_eq_ok_iff.mpr ⟨holds, distinct⟩

/-- A document whose people have different identifiers is read from its text, whatever characters stand in
its names, notes and identifiers and whatever its relations are. -/
theorem ofText_pretty {document : FamilyDocument} (distinct : (document.people.map Person.id).Nodup) :
    ofText document.pretty = .ok document := by
  -- Of the containers that may stand around a value a document needs three.
  rw [ofText, pretty, Value.ofText_pretty (fits_encode 124 document)]
  exact ofValue_encode distinct

end FamilyDocument

/-- An operation that leaves no two people with one identifier: the source does not begin again, whatever
comes into the tree is drawn from a counter below its largest value, and a document has been accepted. -/
def Operation.IsCareful (tree : FamilyTree) : Operation → Prop
  | .edit change => change.HasRoom tree
  | .compile _ | .clear => True
  | .replace sentence source =>
    source.HasRoom (CompiledGraph.ofSentence sentence source).1.persons.length
  | .resetIds => False
  | .load document _ => (document.people.map Person.id).Nodup

namespace FamilyTree

/-- Every operation of a run is careful where its turn comes. -/
def Careful (tree : FamilyTree) : List Operation → Prop
  | [] => True
  | operation :: rest => operation.IsCareful tree ∧ (tree.apply operation).Careful rest

variable {tree : FamilyTree}

/-- A careful operation leaves the people settled. -/
theorem Settled.apply (settled : tree.Settled) {operation : Operation}
    (careful : operation.IsCareful tree) : (tree.apply operation).Settled := by
  cases operation with
  | edit edit => exact settled.edit careful
  | compile text =>
    -- What is drawn is not put into the tree, and only moves the counter on.
    rw [FamilyTree.apply]
    split
    · rename_i graph ids compiled
      refine ⟨settled.nodup, fun id member => ?_⟩
      rw [(CompiledGraph.drawnFrom_ofPhrase compiled).rest]
      exact (settled.passed id member).after _
    · exact settled
  | replace sentence source =>
    exact settled_replaceWith tree (CompiledGraph.drawnFrom_ofSentence sentence source) careful
  | resetIds => exact careful.elim
  | load document source => exact settled_ofDocument careful source
  | clear => exact (Beginning.empty {}).settled

/-- A careful run leaves the people settled. -/
theorem Settled.run (settled : tree.Settled) {operations : List Operation}
    (careful : tree.Careful operations) : (tree.run operations).Settled := by
  induction operations generalizing tree with
  | nil => exact settled
  | cons operation rest ih => exact ih (settled.apply careful.1) careful.2

/-- The text that a tree is written as is accepted, and makes a tree with the same people and the same links in
the same order, whatever the source of its new identifiers is. -/
def ComesBack (tree : FamilyTree) : Prop :=
  ∃ document, FamilyDocument.ofText tree.toDocument.pretty = .ok document ∧
    ∀ ids, (ofDocument document ids).persons = tree.persons ∧
      (ofDocument document ids).edges = tree.edges

/-- A tree with sound links and different identifiers comes back. -/
theorem Sound.comesBack (sound : tree.Sound) (distinct : tree.known.Nodup) : tree.ComesBack := by
  refine ⟨tree.toDocument, FamilyDocument.ofText_pretty distinct, fun ids => ⟨?_, ?_⟩⟩
  · exact (foldl_addEdgeIfValid_frame _ tree.edges).1
  · -- The graph leaves none of the links out.
    rw [edges_ofDocument]
    exact sound.links_graph

/-- Links between different people of a tree that stand there once are sound. -/
theorem sound_of_edges (once : tree.edges.Nodup)
    (present : ∀ edge ∈ tree.edges,
      edge.parent ≠ edge.child ∧ edge.parent ∈ tree.known ∧ edge.child ∈ tree.known) : tree.Sound := by
  refine ⟨once, fun parent child recorded => ?_⟩
  obtain ⟨differ, parentKnown, childKnown⟩ := present ⟨parent, child⟩ recorded
  exact ⟨differ, parentKnown, childKnown, recorded⟩

/-- The links of a tree to begin with are sound. -/
theorem Beginning.sound (begins : Beginning tree) : tree.Sound := by
  cases begins with
  | empty source => exact SoundLinks.nil []
  | document distinct source => exact sound_ofDocument _ source

/-- What is written is read again: every document whose people have different identifiers, with any relations;
every tree whose people have different identifiers and whose links stand once and join different people of it;
and so the tree after every careful run. -/
theorem export_comesBack :
    (∀ document : FamilyDocument, (document.people.map Person.id).Nodup →
      FamilyDocument.ofText document.pretty = .ok document) ∧
    (∀ tree : FamilyTree, tree.known.Nodup → tree.edges.Nodup →
      (∀ edge ∈ tree.edges,
        edge.parent ≠ edge.child ∧ edge.parent ∈ tree.known ∧ edge.child ∈ tree.known) →
      tree.ComesBack) ∧
    ∀ start : FamilyTree, Beginning start → ∀ operations, start.Careful operations →
      (start.run operations).ComesBack := by
  -- A careful run keeps the links sound and the identifiers different.
  refine ⟨fun document => FamilyDocument.ofText_pretty, fun tree distinct once present => ?_,
    fun start begins operations careful => ?_⟩
  · exact (sound_of_edges once present).comesBack distinct
  · exact (begins.sound.run operations).comesBack (begins.settled.run careful).nodup

/-- Marks, control characters and letters of any script come back, an empty note stays one, and so does a
relation with nobody. A tree with one link comes back, and one that people have been entered into and removed
from. -/
theorem export_comesBack_with_marks :
    FamilyDocument.ofText (FamilyDocument.pretty
      ⟨[⟨⟨"\"p\\1"⟩, "Ёлка\n\x01\t/", .female, some ""⟩, ⟨⟨"李\x7f"⟩, "", .unknown, none⟩],
        [⟨⟨"李\x7f"⟩, ⟨"\"p\\1"⟩⟩, ⟨⟨""⟩, ⟨""⟩⟩]⟩) =
      .ok ⟨[⟨⟨"\"p\\1"⟩, "Ёлка\n\x01\t/", .female, some ""⟩, ⟨⟨"李\x7f"⟩, "", .unknown, none⟩],
        [⟨⟨"李\x7f"⟩, ⟨"\"p\\1"⟩⟩, ⟨⟨""⟩, ⟨""⟩⟩]⟩ ∧
    ComesBack ⟨[⟨⟨"a"⟩, "А", .male, none⟩, ⟨⟨"b"⟩, "Б", .female, some "\x08"⟩], [⟨⟨"b"⟩, ⟨"a"⟩⟩], {}⟩ ∧
    (run {} [.edit (.addPerson "Анна" .female none), .edit (.addPerson "Иван" .male (some "")),
      .edit (.addEdge ⟨"p1"⟩ ⟨"p2"⟩), .edit (.removePerson ⟨"p1"⟩),
      .edit (.addPerson "Лев" .male none)]).ComesBack := by
  refine ⟨export_comesBack.1 _ (by decide), export_comesBack.2.1 _ (by decide) (by decide) (by decide),
    export_comesBack.2.2 {} (.empty {}) _ ⟨?_, ?_, trivial, trivial, ?_, trivial⟩⟩
  all_goals
    unfold Operation.IsCareful Edit.HasRoom IdSource.HasRoom
    decide

end FamilyTree

end Kindred
