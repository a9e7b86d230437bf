import Kindred.Proofs.Classify.Exhibit

/-! The options of a classification hide chains and nothing else, and each side of the family that is named is the one
that the chain beside it shows. -/

namespace Kindred

/-- In the records the line towards an ancestor follows the chain up to the ancestor, however many steps of it are
shown. -/
structure LineFollowsPath (people : List Person) (edges : List ParentEdge) : Prop where
  /-- The line goes through the second person of the chain that the other search finds. -/
  agrees : ∀ low top distance, 1 ≤ distance → IsDistance (KeptLink people edges) low top distance →
    ∃ path next person, path[1]? = some next ∧ LastRecord people next person ∧
      (Snapshot.ofRecords people edges).lineTowards low top distance = Line.throughParent person.sex ∧
      ∀ depth, distance ≤ depth →
        (KinTable.ofRecords people edges).ancestryPath low top depth = some path
  /-- So does the line of a relation. -/
  relation : ∀ options a b generations aIsAncestor line top low,
    (classify options people edges a b).relation = .directLine generations aIsAncestor line →
    (top, low) = Snapshot.swapUnless aIsAncestor (a, b) →
    ∃ path, Snapshot.sideOf people path = line ∧ ∀ depth, generations ≤ depth →
      (KinTable.ofRecords people edges).ancestryPath low top depth = some path
  /-- And so does every line that the evidence names. -/
  evidence : ∀ a b, ∃ exhibits,
    (∀ options, Exhibits people edges a b (classify options people edges a b).relation exhibits ∧
      (classify options people edges a b).evidence =
        Exhibit.texts options (Snapshot.ofRecords people edges) exhibits) ∧
    ∀ id side, .line id side ∈ exhibits →
      ∃ top path, .path path ∈ exhibits ∧ Snapshot.sideOf people path = some side ∧
        ∀ depth, path.length ≤ depth + 1 →
          (KinTable.ofRecords people edges).ancestryPath id top depth = some path

/-- For all records, cyclic ones and repeated identifiers included, the line follows the chain. -/
theorem line_follows_path (people : List Person) (edges : List ParentEdge) : LineFollowsPath people edges := by
  have found : ∀ {low top path depth}, IsLeastPath (KeptLink people edges) low top path →
      path.length ≤ depth + 1 → (KinTable.ofRecords people edges).ancestryPath low top depth = some path :=
    fun shown short => (KinTable.ancestryPath_ofRecords_iff people edges _ _ _ _).mpr ⟨shown, short⟩
  refine ⟨?_, ?_, ?_⟩
  · -- The chain that is found is the least of the shortest ones, and so is its second person among the parents.
    intro low top distance positive far
    have above := far.isAncestorAt positive
    obtain ⟨path, shown⟩ := above.exists_isLeastPath
    obtain ⟨next, person, second, record, line⟩ := shown.lineTowards_eq above
    refine ⟨path, next, person, second, record, line, fun depth enough => found shown ?_⟩
    have size := shown.length_eq far
    omega
  · -- The relation and the entry for the chain tell the same line.
    intro options a b generations aIsAncestor line top low told ends
    obtain ⟨exhibits, tells⟩ := exists_exhibits people edges a b
    obtain ⟨path, _, way, side, _⟩ := (told ▸ (tells options).1).of_directLine ends
    refine ⟨path, side.symm, fun depth enough => found way.least ?_⟩
    have size := way.size
    omega
  · intro a b
    obtain ⟨exhibits, tells⟩ := exists_exhibits people edges a b
    refine ⟨exhibits, tells, ?_⟩
    -- The entries are the same under all options, so those of the standard ones tell.
    intro id side member
    obtain ⟨top, path, listed, shown, sideOf⟩ := (tells {}).1.exists_path_of_line_mem member
    exact ⟨top, path, listed, sideOf, fun depth enough => found shown enough⟩

/-- A circle leads from a child up to a grandparent by the father and by the mother, and the mother's identifier comes
first, so the line and the chain go through the mother. -/
theorem line_follows_path_around_circle :
    let people : List Person := [⟨⟨"a"⟩, "А", .male, none⟩, ⟨⟨"p"⟩, "П", .male, none⟩,
      ⟨⟨"m"⟩, "М", .female, none⟩, ⟨⟨"t"⟩, "Т", .female, none⟩]
    let edges : List ParentEdge := [⟨⟨"p"⟩, ⟨"a"⟩⟩, ⟨⟨"t"⟩, ⟨"p"⟩⟩, ⟨⟨"m"⟩, ⟨"a"⟩⟩, ⟨⟨"t"⟩, ⟨"m"⟩⟩, ⟨⟨"a"⟩, ⟨"t"⟩⟩]
    IsDistance (KeptLink people edges) ⟨"a"⟩ ⟨"t"⟩ 2 ∧
      (Snapshot.ofRecords people edges).lineTowards ⟨"a"⟩ ⟨"t"⟩ 2 = some .maternal ∧
      ∃ path next person, path[1]? = some next ∧ LastRecord people next person ∧
        (Snapshot.ofRecords people edges).lineTowards ⟨"a"⟩ ⟨"t"⟩ 2 = Line.throughParent person.sex ∧
        ∀ depth, 2 ≤ depth → (KinTable.ofRecords people edges).ancestryPath ⟨"a"⟩ ⟨"t"⟩ depth = some path := by
  intro people edges
  have measured : ((KinTable.ofRecords people edges).ancestorDistances ⟨"a"⟩).get? ⟨"t"⟩ = some 2 := by decide
  have above := (get?_ancestorDistances_ofRecords _ _ _).mp measured
  exact ⟨above.2, by decide, (line_follows_path people edges).agrees _ _ 2 (by decide) above.2⟩

/-- Nobody stands more steps up than there are people. -/
theorem IsDistance.le_people {low top : PersonId} {distance : Nat}
    (far : IsDistance (KeptLink people edges) low top distance) : distance ≤ people.length := by
  have named : ∀ id child, KeptLink people edges id child → id ∈ people.map Person.id :=
    fun _ _ link => link.parentKnown
  simpa using far.le_length named

/-- The entries of two people, of which the options hide chains and nothing else. -/
structure HidesOnlyPaths (people : List Person) (edges : List ParentEdge) (a b : PersonId)
    (exhibits : List Exhibit) : Prop where
  /-- They are all that there are for the relation. -/
  entries : ∀ options, Exhibits people edges a b (classify options people edges a b).relation exhibits
  /-- The evidence is made of the entries that are shown. -/
  shown : ∀ options, (classify options people edges a b).evidence =
    Exhibit.texts options (Snapshot.ofRecords people edges) exhibits
  /-- Nothing is hidden where chains of any length are allowed. -/
  unbounded : ∀ depth, people.length ≤ depth → (classify ⟨depth, true⟩ people edges a b).evidence =
    exhibits.map (Exhibit.text (Snapshot.ofRecords people edges))
  directLine : ∀ options generations aIsAncestor line top low,
    (classify options people edges a b).relation = .directLine generations aIsAncestor line →
    (top, low) = Snapshot.swapUnless aIsAncestor (a, b) →
    (∃ path, exhibits.filterMap Exhibit.path? = [path] ∧
      ShowsWay people edges low top generations path) ∧
    (Exhibit.ancestor top generations).text (Snapshot.ofRecords people edges) ∈
      (classify options people edges a b).evidence
  collateral : ∀ options common,
    (classify options people edges a b).relation.commonAncestor? = some common →
    (∃ pathA pathB k l, exhibits.filterMap Exhibit.path? = [pathA, pathB] ∧
      ShowsWay people edges a common k pathA ∧ ShowsWay people edges b common l pathB) ∧
    (Exhibit.commonAncestor common).text (Snapshot.ofRecords people edges) ∈
      (classify options people edges a b).evidence

/-- One step is enough for the chain of the uncle and not for that of the nephew, of whom the line remains. -/
example :
    let people : List Person := [⟨⟨"a"⟩, "А", .male, none⟩, ⟨⟨"p"⟩, "П", .male, none⟩,
      ⟨⟨"b"⟩, "Б", .male, none⟩, ⟨⟨"t"⟩, "Т", .female, none⟩]
    let edges : List ParentEdge := [⟨⟨"p"⟩, ⟨"a"⟩⟩, ⟨⟨"t"⟩, ⟨"p"⟩⟩, ⟨⟨"t"⟩, ⟨"b"⟩⟩]
    (classify ⟨1, true⟩ people edges ⟨"a"⟩ ⟨"b"⟩).evidence =
      ["Общий предок: Т", "А: по отцовской линии", "Путь: Б → Т", "Б: по материнской линии"] := by
  decide

end Kindred
