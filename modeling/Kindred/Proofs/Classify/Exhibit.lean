import Kindred.Proofs.Classify.Line

/-! The evidence of a classification, as a list of entries that the records alone determine and of which the options
show some. -/

namespace Kindred

/-- An entry of the evidence, before it is put into words. -/
inductive Exhibit where
  /-- The people of a chain, from the lower end on. -/
  | path (ids : List PersonId)
  | ancestor (id : PersonId) (generations : Nat)
  | commonAncestor (id : PersonId)
  | line (id : PersonId) (side : Line)
  | degrees (degree removal : Nat)
deriving DecidableEq, Repr

namespace Exhibit

/-- The words of an entry. -/
def text (snapshot : Snapshot) : Exhibit → String
  | .path ids => snapshot.pathNote ids
  | .ancestor id generations => s!"Предок: {snapshot.nameOf id}, поколений: {generations}"
  | .commonAncestor id => "Общий предок: " ++ snapshot.nameOf id
  | .line id side => snapshot.nameOf id ++ ": " ++ Lexicon.lineNote side
  | .degrees degree removal => s!"Степень: {degree}, удалённость: {removal}"

/-- Options show a chain when they show chains and it has no more steps than they allow. -/
def isShown (options : ClassifyOptions) : Exhibit → Bool
  | .path ids => options.includePaths && decide (ids.length ≤ options.maxPathDepth + 1)
  -- Whatever is no chain is shown under all options.
  | .ancestor .. | .commonAncestor _ | .line .. | .degrees .. => true

/-- The chain of an entry, if it is one. -/
def path? : Exhibit → Option (List PersonId)
  | .path ids => some ids
  | .ancestor .. | .commonAncestor _ | .line .. | .degrees .. => none

/-- The words of those entries that the options show. -/
def texts (options : ClassifyOptions) (snapshot : Snapshot) (exhibits : List Exhibit) : List String :=
  (exhibits.filter (isShown options)).map (text snapshot)

/-- The side of the family that a chain shows, as an entry for the person at its lower end. -/
def ofSide (people : List Person) (id : PersonId) (path : List PersonId) : List Exhibit :=
  ((Snapshot.sideOf people path).map (Exhibit.line id)).toList

/-- The chain of one of two collateral relatives, and its side. -/
def ofBranch (people : List Person) (id : PersonId) (path : List PersonId) : List Exhibit :=
  [.path path] ++ ofSide people id path

/-- The numbers of two cousins. -/
def ofDegrees : Relation → List Exhibit
  | .cousins degree removal _ => [.degrees degree removal]
  | _ => []

/-- The entries for a descendant and an ancestor. -/
def ofDirectLine (people : List Person) (low top : PersonId) (generations : Nat) (path : List PersonId) :
    List Exhibit :=
  [.path path] ++ [.ancestor top generations] ++ ofSide people low path

/-- The entries for two collateral relatives. -/
def ofCollateral (people : List Person) (a b common : PersonId) (pathA pathB : List PersonId)
    (relation : Relation) : List Exhibit :=
  [.commonAncestor common] ++ ofBranch people a pathA ++ ofBranch people b pathB ++ ofDegrees relation

end Exhibit

/-- The entries that there are for two people of some relation, before any is hidden. The chains are the least of the
shortest ones. -/
inductive Exhibits (people : List Person) (edges : List ParentEdge) (a b : PersonId) :
    Relation → List Exhibit → Prop
  | notFound : Exhibits people edges a b .notFound []
  | samePerson : Exhibits people edges a b .samePerson []
  | directLine {top low : PersonId} {path : List PersonId} {aIsAncestor : Bool} {generations : Nat}
    (ends : (top, low) = Snapshot.swapUnless aIsAncestor (a, b))
    (shown : IsLeastPath (KeptLink people edges) low top path)
    (far : IsDistance (KeptLink people edges) low top generations) :
    Exhibits people edges a b (.directLine generations aIsAncestor (Snapshot.sideOf people path))
      (Exhibit.ofDirectLine people low top generations path)
  | collateral {common : PersonId} {pathA pathB : List PersonId} {k l : Nat}
    (shownA : IsLeastPath (KeptLink people edges) a common pathA)
    (shownB : IsLeastPath (KeptLink people edges) b common pathB)
    (farA : IsDistance (KeptLink people edges) a common k)
    (farB : IsDistance (KeptLink people edges) b common l) :
    Exhibits people edges a b (collateralRelation k l common)
      (Exhibit.ofCollateral people a b common pathA pathB (collateralRelation k l common))

variable {people : List Person} {edges : List ParentEdge} {options : ClassifyOptions}

/-- A recorded person is called by the name recorded last. -/
theorem LastRecord.nameOf {id : PersonId} {person : Person} (record : LastRecord people id person) :
    (Snapshot.ofRecords people edges).nameOf id = person.name := by
  have found := (Snapshot.person?_eq_some_iff people id person).mpr record
  rw [Snapshot.nameOf, Snapshot.ofRecords, found, Option.map_some, Option.getD_some]

namespace Exhibit

@[simp] theorem text_path (snapshot : Snapshot) (ids : List PersonId) :
    (path ids).text snapshot = snapshot.pathNote ids :=
  rfl

@[simp] theorem text_ancestor (snapshot : Snapshot) (id : PersonId) (generations : Nat) :
    (ancestor id generations).text snapshot = s!"Предок: {snapshot.nameOf id}, поколений: {generations}" :=
  rfl

@[simp] theorem text_commonAncestor (snapshot : Snapshot) (id : PersonId) :
    (commonAncestor id).text snapshot = "Общий предок: " ++ snapshot.nameOf id :=
  rfl

@[simp] theorem text_line (snapshot : Snapshot) (id : PersonId) (side : Line) :
    (line id side).text snapshot = snapshot.nameOf id ++ ": " ++ Lexicon.lineNote side :=
  rfl

variable {snapshot : Snapshot}

/-- The words of two lists of entries are those of the two lists. -/
theorem texts_append (first second : List Exhibit) :
    texts options snapshot (first ++ second) = texts options snapshot first ++ texts options snapshot second := by
  simp only [texts, List.filter_append, List.map_append]

/-- Entries that are no chains are all shown. -/
theorem texts_of_noPath {exhibits : List Exhibit} (noPath : exhibits.filterMap path? = []) :
    texts options snapshot exhibits = exhibits.map (text snapshot) := by
  -- The options decide on chains alone.
  have kept : exhibits.filter (isShown options) = exhibits := by
    rw [List.filter_eq_self]
    intro exhibit member
    have isOther := List.filterMap_eq_nil_iff.mp noPath exhibit member
    cases exhibit with
    | path ids => simp [path?] at isOther
    | ancestor | commonAncestor | line | degrees => rfl
  rw [texts, kept]

/-- The words of an entry are among the evidence if it is shown. -/
theorem text_mem_texts {exhibits : List Exhibit} {exhibit : Exhibit} (member : exhibit ∈ exhibits)
    (shown : exhibit.isShown options) : exhibit.text snapshot ∈ texts options snapshot exhibits :=
  List.mem_map_of_mem (List.mem_filter.mpr ⟨member, shown⟩)

/-- The entry for a side is no chain. -/
theorem filterMap_path?_ofSide (people : List Person) (id : PersonId) (path : List PersonId) :
    (ofSide people id path).filterMap path? = [] := by
  rw [ofSide]
  cases Snapshot.sideOf people path <;> rfl

/-- The entry for the numbers of cousins is no chain. -/
theorem filterMap_path?_ofDegrees (relation : Relation) : (ofDegrees relation).filterMap path? = [] := by
  cases relation <;> rfl

/-- The entries for a direct line show one chain. -/
theorem filterMap_path?_ofDirectLine (people : List Person) (low top : PersonId) (generations : Nat)
    (path : List PersonId) : (ofDirectLine people low top generations path).filterMap path? = [path] := by
  rw [ofDirectLine, List.filterMap_append, filterMap_path?_ofSide]
  rfl

/-- The entries for collateral relatives show a chain of the first and one of the second. -/
theorem filterMap_path?_ofCollateral (people : List Person) (a b common : PersonId)
    (pathA pathB : List PersonId) (relation : Relation) :
    (ofCollateral people a b common pathA pathB relation).filterMap path? = [pathA, pathB] := by
  simp only [ofCollateral, ofBranch, List.filterMap_append, filterMap_path?_ofSide,
    filterMap_path?_ofDegrees]
  rfl

/-- A chain is among the entries exactly if it is one of the chains that they show. -/
theorem mem_filterMap_path? {exhibits : List Exhibit} {path : List PersonId} :
    path ∈ exhibits.filterMap path? ↔ .path path ∈ exhibits := by
  rw [List.mem_filterMap]
  constructor
  · -- Of all entries only the chain itself shows the chain.
    intro shown
    obtain ⟨exhibit, member, same⟩ := shown
    cases exhibit with
    | path ids =>
      have same : ids = path := by simpa [path?] using same
      exact same ▸ member
    | ancestor | commonAncestor | line | degrees => simp [path?] at same
  · intro member
    exact ⟨.path path, member, rfl⟩

/-- The entry for a side names the person at the lower end of the chain, and the side that the chain shows. -/
theorem line_mem_ofSide {low id : PersonId} {path : List PersonId} {side : Line} :
    .line id side ∈ ofSide people low path ↔ id = low ∧ Snapshot.sideOf people path = some side := by
  simp only [ofSide, Option.mem_toList, Option.map_eq_some_iff, line.injEq]
  constructor
  · intro found
    obtain ⟨shown, sideOf, same, sameSide⟩ := found
    exact ⟨same.symm, sameSide ▸ sideOf⟩
  · intro found
    obtain ⟨same, sideOf⟩ := found
    exact ⟨side, sideOf, same.symm, rfl⟩

/-- The numbers of cousins name no side. -/
theorem line_not_mem_ofDegrees (id : PersonId) (side : Line) (relation : Relation) :
    .line id side ∉ ofDegrees relation := by
  cases relation <;> simp [ofDegrees]

/-- The evidence of a chain is its entry, if that is shown. -/
theorem pathEvidence_eq {low top : PersonId} {path : List PersonId}
    (shown : IsLeastPath (KeptLink people edges) low top path) :
    (Snapshot.ofRecords people edges).pathEvidence options low top =
      texts options (Snapshot.ofRecords people edges) [.path path] := by
  have told := KinTable.ancestryPath_ofRecords_iff people edges low top options.maxPathDepth
  have onTable : (Snapshot.ofRecords people edges).table = KinTable.ofRecords people edges := rfl
  rw [Snapshot.pathEvidence, onTable, texts]
  by_cases short : path.length ≤ options.maxPathDepth + 1
  · rw [(told path).mpr ⟨shown, short⟩]
    by_cases included : options.includePaths
    · simp [included, short, isShown]
    · simp [included, isShown]
  · -- The search could only find this chain, and it has too many steps.
    have nothing : (KinTable.ofRecords people edges).ancestryPath low top options.maxPathDepth = none := by
      rw [Option.eq_none_iff_forall_ne_some]
      intro other found
      obtain ⟨least, otherShort⟩ := (told other).mp found
      exact short (shown.unique least ▸ otherShort)
    simp [nothing, short, isShown]

/-- The evidence of a side is its entry. -/
theorem lineEvidence_eq (edges : List ParentEdge) {id : PersonId} {person : Person}
    (record : LastRecord people id person) (path : List PersonId) :
    Snapshot.lineEvidence person.name (Snapshot.sideOf people path) =
      texts options (Snapshot.ofRecords people edges) (ofSide people id path) := by
  rw [texts_of_noPath (filterMap_path?_ofSide people id path), Snapshot.lineEvidence, ofSide]
  cases Snapshot.sideOf people path with
  | none => rfl
  | some side => simp [record.nameOf]

/-- The evidence of the numbers of cousins is their entry. -/
theorem degreeEvidence_eq (relation : Relation) :
    Snapshot.degreeEvidence relation = texts options snapshot (ofDegrees relation) := by
  rw [texts_of_noPath (filterMap_path?_ofDegrees relation)]
  cases relation <;> rfl

/-- The evidence of the branch up to a common ancestor is that of its entries. -/
theorem branchEvidence_eq {id common : PersonId} {person : Person} {path : List PersonId} {distance : Nat}
    (record : LastRecord people id person) (shown : IsLeastPath (KeptLink people edges) id common path)
    (above : IsAncestorAt (KeptLink people edges) id common distance) :
    (Snapshot.ofRecords people edges).branchEvidence options person common distance =
      texts options (Snapshot.ofRecords people edges) (ofBranch people id path) := by
  have named : person.id = id := record.1
  rw [Snapshot.branchEvidence, named, shown.lineTowards_eq_sideOf above, pathEvidence_eq shown,
    lineEvidence_eq edges record, ofBranch, texts_append]

/-- What is told of an ancestor and a descendant: the side that the chain shows, and the entries for it. -/
theorem directLine_tells {low top : PersonId} {ancestor descendant : Person} {path : List PersonId}
    {distance : Nat} (recordTop : LastRecord people top ancestor) (recordLow : LastRecord people low descendant)
    (shown : IsLeastPath (KeptLink people edges) low top path)
    (above : IsAncestorAt (KeptLink people edges) low top distance) (aIsAncestor : Bool) :
    let told := (Snapshot.ofRecords people edges).directLine options ancestor descendant distance aIsAncestor
    told.relation = .directLine distance aIsAncestor (Snapshot.sideOf people path) ∧
      told.evidence = texts options (Snapshot.ofRecords people edges)
        (ofDirectLine people low top distance path) := by
  intro told
  -- The chain and the side are entries of their own, so only the words for the ancestor are left.
  have namedTop : ancestor.id = top := recordTop.1
  have namedLow : descendant.id = low := recordLow.1
  have line := shown.lineTowards_eq_sideOf above
  have middle : texts options (Snapshot.ofRecords people edges) [.ancestor top distance] =
      [s!"Предок: {ancestor.name}, поколений: {distance}"] := by
    rw [texts_of_noPath rfl, List.map_singleton, text_ancestor, recordTop.nameOf]
  constructor
  · simp only [told, Snapshot.directLine, namedTop, namedLow, line]
  · simp only [told, Snapshot.directLine, namedTop, namedLow, line]
    rw [ofDirectLine, texts_append, texts_append, middle, pathEvidence_eq shown, lineEvidence_eq edges recordLow]

/-- What is told of collateral relatives: the relation of their distances, and the entries for both branches. -/
theorem collateral_tells {a b common : PersonId} {personA personB : Person} {pathA pathB : List PersonId}
    {k l : Nat} (recordA : LastRecord people a personA) (recordB : LastRecord people b personB)
    (shownA : IsLeastPath (KeptLink people edges) a common pathA)
    (shownB : IsLeastPath (KeptLink people edges) b common pathB)
    (aboveA : IsAncestorAt (KeptLink people edges) a common k)
    (aboveB : IsAncestorAt (KeptLink people edges) b common l) :
    let told := (Snapshot.ofRecords people edges).collateral options personA personB ⟨common, k, l⟩
    told.relation = collateralRelation k l common ∧
      told.evidence = texts options (Snapshot.ofRecords people edges)
        (ofCollateral people a b common pathA pathB (collateralRelation k l common)) := by
  intro told
  -- Both stand at least one step below the common ancestor.
  obtain ⟨m, rfl, _⟩ := aboveA.exists_succ
  obtain ⟨n, rfl, _⟩ := aboveB.exists_succ
  have terms := collateralTerms_eq personA.sex personB.sex common (Nat.le_add_left 1 m) (Nat.le_add_left 1 n)
  have first : texts options (Snapshot.ofRecords people edges) [.commonAncestor common] =
      ["Общий предок: " ++ (Snapshot.ofRecords people edges).nameOf common] := by
    rw [texts_of_noPath rfl, List.map_singleton, text_commonAncestor]
  constructor
  · simp only [told, Snapshot.collateral, terms]
  · simp only [told, Snapshot.collateral, terms]
    rw [ofCollateral, texts_append, texts_append, texts_append, first, branchEvidence_eq recordA shownA aboveA,
      branchEvidence_eq recordB shownB aboveB, ← degreeEvidence_eq]

end Exhibit

/-- Up to an ancestor there is a least one of the shortest chains. -/
theorem IsAncestorAt.exists_isLeastPath {low top : PersonId} {distance : Nat}
    (above : IsAncestorAt (KeptLink people edges) low top distance) :
    ∃ path, IsLeastPath (KeptLink people edges) low top path := by
  obtain ⟨path, shown, _⟩ := KinTable.exists_isLeastPath_ofRecords above.2
  exact ⟨path, shown⟩

/-- Any two people have a list of entries, and under all options the evidence consists of those that are shown. -/
theorem exists_exhibits (people : List Person) (edges : List ParentEdge) (a b : PersonId) :
    ∃ exhibits, ∀ options, Exhibits people edges a b (classify options people edges a b).relation exhibits ∧
      (classify options people edges a b).evidence =
        Exhibit.texts options (Snapshot.ofRecords people edges) exhibits := by
  -- Ancestors have one chain, collateral relatives two, and all others none.
  cases standing people edges a b with
  | stranger unknown =>
    refine ⟨[], fun options => ?_⟩
    rw [classify_of_unknown unknown]
    exact ⟨.notFound, rfl⟩
  | same known equal =>
    refine ⟨[], fun options => ?_⟩
    rw [← equal, classify_self known]
    exact ⟨.samePerson, rfl⟩
  | @above personA personB distance recordA recordB differ above =>
    obtain ⟨path, shown⟩ := above.exists_isLeastPath
    refine ⟨Exhibit.ofDirectLine people b a distance path, fun options => ?_⟩
    rw [classify_of_ancestor recordA recordB above]
    obtain ⟨relation, evidence⟩ := Exhibit.directLine_tells recordA recordB shown above true
    exact ⟨relation ▸ .directLine rfl shown above.2, evidence⟩
  | @below personA personB distance recordA recordB differ notAbove below =>
    obtain ⟨path, shown⟩ := below.exists_isLeastPath
    refine ⟨Exhibit.ofDirectLine people a b distance path, fun options => ?_⟩
    rw [classify_of_descendant recordA recordB notAbove below]
    obtain ⟨relation, evidence⟩ := Exhibit.directLine_tells recordB recordA shown below false
    exact ⟨relation ▸ .directLine rfl shown below.2, evidence⟩
  | @beside personA personB common k l recordA recordB differ notAbove notBelow nearest =>
    obtain ⟨pathA, shownA⟩ := nearest.aboveA.exists_isLeastPath
    obtain ⟨pathB, shownB⟩ := nearest.aboveB.exists_isLeastPath
    refine ⟨Exhibit.ofCollateral people a b common pathA pathB (collateralRelation k l common),
      fun options => ?_⟩
    rw [classify_of_common recordA recordB differ notAbove notBelow nearest]
    obtain ⟨relation, evidence⟩ :=
      Exhibit.collateral_tells recordA recordB shownA shownB nearest.aboveA nearest.aboveB
    exact ⟨relation ▸ .collateral shownA shownB nearest.aboveA.2 nearest.aboveB.2, evidence⟩
  | apart knownA knownB differ notAbove notBelow nobody =>
    refine ⟨[], fun options => ?_⟩
    rw [classify_of_unrelated knownA knownB differ notAbove notBelow nobody]
    exact ⟨.notFound, rfl⟩

/-- A chain of the evidence leads from one person up to another by a shortest way, the least one, and is shown when
chains are shown and so many steps are allowed. -/
structure ShowsWay (people : List Person) (edges : List ParentEdge) (low top : PersonId) (distance : Nat)
    (path : List PersonId) : Prop where
  least : IsLeastPath (KeptLink people edges) low top path
  far : IsDistance (KeptLink people edges) low top distance
  size : path.length = distance + 1
  isShown_iff : ∀ options : ClassifyOptions, (Exhibit.path path).isShown options ↔
    options.includePaths ∧ distance ≤ options.maxPathDepth

/-- The least of the shortest chains shows a way. -/
theorem IsLeastPath.showsWay {low top : PersonId} {distance : Nat} {path : List PersonId}
    (shown : IsLeastPath (KeptLink people edges) low top path)
    (far : IsDistance (KeptLink people edges) low top distance) :
    ShowsWay people edges low top distance path := by
  have size := shown.length_eq far
  refine ⟨shown, far, size, fun options => ?_⟩
  rw [Exhibit.isShown, size]
  simp

namespace Exhibits

variable {a b : PersonId} {relation : Relation} {exhibits : List Exhibit}

/-- Every chain among the entries shows a way. -/
theorem showsWay_of_mem (entries : Exhibits people edges a b relation exhibits) {path : List PersonId}
    (member : .path path ∈ exhibits) : ∃ low top distance, ShowsWay people edges low top distance path := by
  -- A direct line has one chain, and collateral relatives have two.
  rw [← Exhibit.mem_filterMap_path?] at member
  cases entries with
  | notFound | samePerson => simp at member
  | @directLine top low shownPath aIsAncestor generations ends shown far =>
    have same : path = shownPath := by
      simpa only [Exhibit.filterMap_path?_ofDirectLine, List.mem_singleton] using member
    exact ⟨low, top, generations, same ▸ shown.showsWay far⟩
  | @collateral common pathA pathB k l shownA shownB farA farB =>
    have either : path = pathA ∨ path = pathB := by
      simpa only [Exhibit.filterMap_path?_ofCollateral, List.mem_cons, List.not_mem_nil, or_false] using member
    cases either with
    | inl first => exact ⟨a, common, k, first ▸ shownA.showsWay farA⟩
    | inr second => exact ⟨b, common, l, second ▸ shownB.showsWay farB⟩

/-- Every side that the entries name is the one that the chain beside it shows. -/
theorem exists_path_of_line_mem (entries : Exhibits people edges a b relation exhibits) {id : PersonId}
    {side : Line} (member : .line id side ∈ exhibits) :
    ∃ top path, .path path ∈ exhibits ∧ IsLeastPath (KeptLink people edges) id top path ∧
      Snapshot.sideOf people path = some side := by
  -- Only the entries for a side name one, and each stands beside the chain of the same person.
  cases entries with
  | notFound | samePerson => simp at member
  | @directLine top low path aIsAncestor generations ends shown far =>
    have named : id = low ∧ Snapshot.sideOf people path = some side := by
      simpa [Exhibit.ofDirectLine, Exhibit.line_mem_ofSide] using member
    obtain ⟨rfl, sideOf⟩ := named
    exact ⟨top, path, by simp [Exhibit.ofDirectLine], shown, sideOf⟩
  | @collateral common pathA pathB k l shownA shownB farA farB =>
    have named : (id = a ∧ Snapshot.sideOf people pathA = some side) ∨
        (id = b ∧ Snapshot.sideOf people pathB = some side) := by
      simpa [Exhibit.ofCollateral, Exhibit.ofBranch, Exhibit.line_mem_ofSide,
        Exhibit.line_not_mem_ofDegrees] using member
    cases named with
    | inl first =>
      obtain ⟨rfl, sideOf⟩ := first
      exact ⟨common, pathA, by simp [Exhibit.ofCollateral, Exhibit.ofBranch], shownA, sideOf⟩
    | inr second =>
      obtain ⟨rfl, sideOf⟩ := second
      exact ⟨common, pathB, by simp [Exhibit.ofCollateral, Exhibit.ofBranch], shownB, sideOf⟩

/-- Between an ancestor and a descendant the entries show one chain, and name the ancestor. -/
theorem of_directLine {generations : Nat} {aIsAncestor : Bool} {line : Option Line} {top low : PersonId}
    (entries : Exhibits people edges a b (.directLine generations aIsAncestor line) exhibits)
    (ends : (top, low) = Snapshot.swapUnless aIsAncestor (a, b)) :
    ∃ path, exhibits.filterMap Exhibit.path? = [path] ∧ ShowsWay people edges low top generations path ∧
      line = Snapshot.sideOf people path ∧ .ancestor top generations ∈ exhibits := by
  -- The entries determine the relation, and the two ends determine who descends from whom.
  generalize told : Relation.directLine generations aIsAncestor line = relation at entries
  cases entries with
  | notFound | samePerson => cases told
  | @directLine upper lower path aIsAncestor generations upperEnds shown far =>
    cases told
    obtain ⟨rfl, rfl⟩ := Prod.mk.inj (ends.trans upperEnds.symm)
    exact ⟨path, Exhibit.filterMap_path?_ofDirectLine _ _ _ _ _, shown.showsWay far, rfl,
      by simp [Exhibit.ofDirectLine]⟩
  | @collateral common pathA pathB k l shownA shownB farA farB =>
    -- A relation with a common ancestor is no direct line.
    have named := commonAncestor?_collateralRelation k l common
    simp [← told, Relation.commonAncestor?] at named

/-- Between collateral relatives the entries show one chain for each of the two, and name the common ancestor. -/
theorem of_commonAncestor {common : PersonId} (entries : Exhibits people edges a b relation exhibits)
    (named : relation.commonAncestor? = some common) :
    ∃ pathA pathB k l, exhibits.filterMap Exhibit.path? = [pathA, pathB] ∧
      ShowsWay people edges a common k pathA ∧ ShowsWay people edges b common l pathB ∧
      .commonAncestor common ∈ exhibits := by
  cases entries with
  | notFound | samePerson | directLine => simp [Relation.commonAncestor?] at named
  | @collateral nearest pathA pathB k l shownA shownB farA farB =>
    rw [commonAncestor?_collateralRelation] at named
    obtain rfl := Option.some.inj named
    exact ⟨pathA, pathB, k, l, Exhibit.filterMap_path?_ofCollateral _ _ _ _ _ _ _, shownA.showsWay farA,
      shownB.showsWay farB, by simp [Exhibit.ofCollateral]⟩

end Exhibits

end Kindred
