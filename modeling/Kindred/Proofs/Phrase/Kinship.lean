import Kindred.Proofs.Classify.Kinship
import Kindred.Proofs.Phrase.WellFormed

/-! What a compiled phrase says of two people is what a classification tells of them: its two relatives are
siblings, and the roots below them are cousins. -/

namespace Kindred

/-- The one of two identifiers that comes first. -/
def PersonId.lesser (first second : PersonId) : PersonId :=
  if first < second then first else second

namespace CompiledGraph

/-- The graph classifies as its sentence says, with one of the shared parents as the nearest common ancestor.
The two roots are cousins of a degree and a removal that the numbers of steps give, and the two relatives
are siblings unless one of them is an ancestor of the other. -/
structure ClassifiesAsTold (graph : CompiledGraph) (common : PersonId) : Prop where
  roots : graph.sentence.left.pronoun ≠ graph.sentence.right.pronoun →
    ∀ his her, graph.sentence.Names his → graph.sentence.Names her → his.pronoun = .his →
      her.pronoun = .her → ∃ he she, graph.rootHe = some he ∧ graph.rootShe = some she ∧
        ∀ options,
          let near := min his.steps.length her.steps.length
          let removal := max his.steps.length her.steps.length - near
          let told := classify options graph.persons graph.edges he she
          told.relation = .cousins near removal common ∧
            (told.roleOfA, told.roleOfB) =
              if his.steps.length ≤ her.steps.length then Lexicon.cousinTerms near removal .male .female
              else (Lexicon.cousinTerms near removal .female .male).swap
  relatives : ∃ left right,
    graph.StandsAt graph.sentence.left graph.sentence.left.steps.length left ∧
      graph.StandsAt graph.sentence.right graph.sentence.right.steps.length right ∧
      (left.id ≠ right.id →
        (∀ steps, ¬IsAncestorAt (KeptLink graph.persons graph.edges) left.id right.id steps) →
        (∀ steps, ¬IsAncestorAt (KeptLink graph.persons graph.edges) right.id left.id steps) →
        ∀ options, (classify options graph.persons graph.edges left.id right.id).relation =
          .siblings common)

end CompiledGraph

namespace Sentence

variable {sentence : Sentence}

/-- Nobody is a parent of a shared parent. -/
theorem not_tells_shared (parent : String × Sex) (upper : Figure) :
    ¬sentence.Tells upper (.shared parent) := by
  -- The child of every link is on a way.
  intro tells
  cases tells

/-- Where the two relatives have different roots, one of them is meant by each pronoun. -/
theorem Names.eq_of_pronoun_eq (differ : sentence.left.pronoun ≠ sentence.right.pronoun)
    {first second : RelativeSpec} (one : sentence.Names first) (other : sentence.Names second)
    (same : first.pronoun = second.pronoun) : first = second := by
  -- The two relatives of the sentence have one of the pronouns each.
  rcases one with rfl | rfl <;> rcases other with rfl | rfl
  · rfl
  · exact absurd same differ
  · exact absurd same.symm differ
  · rfl

/-- Both relatives are part of the cast. -/
theorem figure_mem_cast {spec : RelativeSpec} (named : sentence.Names spec) :
    spec.figure ∈ sentence.cast :=
  onWay_mem_cast_iff.mpr ⟨spec, named, rfl, List.prefix_refl _⟩

/-- On a way everybody is the parent of the person one step before. -/
theorem Tells.child_eq {pronoun : Pronoun} {steps : List Step} {child : Figure}
    (tells : sentence.Tells (.onWay pronoun steps) child) :
    child = .onWay pronoun steps.dropLast := by
  -- The last step to the parent is the step up from the child.
  generalize parent : Figure.onWay pronoun steps = figure at tells
  cases tells with
  | step named begins =>
    obtain ⟨rfl, rfl⟩ := Figure.onWay.inj parent
    rw [List.dropLast_concat]
  | shared => cases parent

/-- Above a place of a way comes the next place, and above the relative come the shared parents. -/
theorem Tells.above_onWay (differ : sentence.left.pronoun ≠ sentence.right.pronoun)
    {spec : RelativeSpec} (named : sentence.Names spec) {height : Nat}
    (inside : height ≤ spec.steps.length) {upper : Figure}
    (tells : sentence.Tells upper (.onWay spec.pronoun (spec.steps.take height))) :
    (height < spec.steps.length ∧ upper = .onWay spec.pronoun (spec.steps.take (height + 1))) ∨
      (height = spec.steps.length ∧ ∃ parent ∈ sharedParents, upper = .shared parent) := by
  have taken : (spec.steps.take height).length = height := List.length_take_of_le inside
  generalize lower : Figure.onWay spec.pronoun (spec.steps.take height) = figure at tells
  -- No other relative has the pronoun, so the way is the one that the sentence tells of.
  cases tells with
  | @step other namedOther gone step begins =>
    obtain ⟨pronouns, rfl⟩ := Figure.onWay.inj lower
    cases named.eq_of_pronoun_eq differ namedOther pronouns
    -- The steps that lead to the parent are the first ones, one more than to the child.
    have longer := begins.length_le
    simp only [List.length_append, taken, List.length_singleton] at longer
    refine Or.inl ⟨longer, ?_⟩
    rw [List.prefix_iff_eq_take.mp begins]
    simp [taken]
  | @shared other namedOther parent shares =>
    obtain ⟨pronouns, whole⟩ := Figure.onWay.inj lower
    cases named.eq_of_pronoun_eq differ namedOther pronouns
    rw [whole] at taken
    exact Or.inr ⟨taken.symm, parent, shares, rfl⟩

end Sentence

namespace PersonId

/-- The lesser of two identifiers is one of them. -/
theorem lesser_eq_or (first second : PersonId) :
    lesser first second = first ∨ lesser first second = second := by
  rw [lesser]
  split <;> simp

/-- The first of two identifiers is the lesser one, or comes after it. -/
theorem lesser_least_left (first second : PersonId) :
    first = lesser first second ∨ lesser first second < first := by
  rw [lesser]
  split
  · exact Or.inl rfl
  · -- Of two different identifiers one precedes the other.
    rename_i notBefore
    by_cases same : first = second
    · exact Or.inl same
    · exact Or.inr (lt_of_not_lt same notBefore)

/-- The second of two identifiers is the lesser one, or comes after it. -/
theorem lesser_least_right (first second : PersonId) :
    second = lesser first second ∨ lesser first second < second := by
  rw [lesser]
  split
  · rename_i before
    exact Or.inr before
  · exact Or.inl rfl

end PersonId

/-- The shared parent whose identifier comes first. -/
def IdSource.firstShared (source : IdSource) (sentence : Sentence) : PersonId :=
  .lesser (source.idIn sentence.cast (.shared ("Общий отец", .male)))
    (source.idIn sentence.cast (.shared ("Общая мать", .female)))

/-- It is the identifier of a shared parent. -/
theorem IdSource.exists_firstShared_eq (source : IdSource) (sentence : Sentence) :
    ∃ parent ∈ sharedParents, source.firstShared sentence = source.idIn sentence.cast (.shared parent) := by
  rw [firstShared]
  rcases PersonId.lesser_eq_or (source.idIn sentence.cast (.shared ("Общий отец", .male)))
    (source.idIn sentence.cast (.shared ("Общая мать", .female))) with same | same
  · exact ⟨_, by simp [sharedParents], same⟩
  · exact ⟨_, by simp [sharedParents], same⟩

/-- No shared parent comes before it. -/
theorem IdSource.firstShared_least (source : IdSource) (sentence : Sentence) {parent : String × Sex}
    (shares : parent ∈ sharedParents) :
    source.idIn sentence.cast (.shared parent) = source.firstShared sentence ∨
      source.firstShared sentence < source.idIn sentence.cast (.shared parent) := by
  rw [firstShared]
  -- There are only the father and the mother.
  simp only [sharedParents, List.mem_cons, List.not_mem_nil, or_false] at shares
  rcases shares with rfl | rfl
  · exact PersonId.lesser_least_left _ _
  · exact PersonId.lesser_least_right _ _

/-- Where both shared parents stand equally far above two people, and everybody else farther, the first of
them is the nearest common ancestor. -/
theorem IdSource.isNearestCommon_firstShared {source : IdSource} {sentence : Sentence}
    {parent : PersonId → PersonId → Prop} {a b : PersonId} {k l : Nat}
    (aboveA : ∀ shared ∈ sharedParents,
      IsAncestorAt parent a (source.idIn sentence.cast (.shared shared)) k)
    (aboveB : ∀ shared ∈ sharedParents,
      IsAncestorAt parent b (source.idIn sentence.cast (.shared shared)) l)
    (others : ∀ other k' l', IsAncestorAt parent a other k' → IsAncestorAt parent b other l' →
      (∃ shared ∈ sharedParents, other = source.idIn sentence.cast (.shared shared)) ∨
        k + l < k' + l') :
    IsNearestCommon parent a b (source.firstShared sentence) k l := by
  -- It stands above both like the other one, and nobody else is as near.
  obtain ⟨first, shares, same⟩ := source.exists_firstShared_eq sentence
  refine ⟨same ▸ aboveA first shares, same ▸ aboveB first shares, fun other k' l' one two => ?_⟩
  rcases others other k' l' one two with ⟨shared, shares, rfl⟩ | farther
  · -- A shared parent stands at equal distances, so the identifiers decide.
    cases one.2.unique (aboveA shared shares).2
    cases two.2.unique (aboveB shared shares).2
    rcases source.firstShared_least sentence shares with equal | after
    · exact Or.inl equal
    · exact Or.inr (Or.inr ⟨rfl, Or.inr ⟨rfl, after⟩⟩)
  · exact Or.inr (Or.inl farther)

/-- A graph shows its sentence, its links are sound, and everybody has an identifier of their own. -/
structure CompiledGraph.Faithful (graph : CompiledGraph) (source rest : IdSource) (sentence : Sentence) :
    Prop where
  shows : graph.Shows source rest sentence
  counters : source.HasCounters graph.persons.length
  sound : SoundLinks graph.persons graph.edges

namespace CompiledGraph.Faithful

variable {graph : CompiledGraph} {source rest : IdSource} {sentence : Sentence}

/-- A figure is known by its identifier. -/
theorem idIn_inj (faithful : graph.Faithful source rest sentence) {first second : Figure}
    (one : first ∈ sentence.cast) (other : second ∈ sentence.cast)
    (same : source.idIn sentence.cast first = source.idIn sentence.cast second) : first = second :=
  IdSource.idIn_inj (faithful.shows.length_persons ▸ faithful.counters) one other same

/-- The parents of a figure are those whom the sentence tells. -/
theorem keptLink_iff (faithful : graph.Faithful source rest sentence) {figure : Figure}
    (member : figure ∈ sentence.cast) (top : PersonId) :
    KeptLink graph.persons graph.edges top (source.idIn sentence.cast figure) ↔
      ∃ upper, sentence.Tells upper figure ∧ top = source.idIn sentence.cast upper := by
  -- All links are kept, and the identifier of the child tells which figure the link belongs to.
  rw [faithful.sound.keptLink_iff]
  constructor
  · intro recorded
    obtain ⟨_, upper, lower, told, rfl, same⟩ := (faithful.shows.edges _ _).mp recorded
    exact ⟨upper, faithful.idIn_inj member told.mem_cast.2 same ▸ told, rfl⟩
  · rintro ⟨upper, told, rfl⟩
    exact faithful.shows.mem_edges_of_tells faithful.counters told

/-- A figure is recorded with its sex. -/
theorem exists_record (faithful : graph.Faithful source rest sentence) {figure : Figure}
    (member : figure ∈ sentence.cast) : ∃ person,
      LastRecord graph.persons (source.idIn sentence.cast figure) person ∧
        person.sex = figure.label.2 := by
  obtain ⟨known, inside, id, _⟩ := faithful.shows.exists_person member
  obtain ⟨person, record⟩ := exists_lastRecord (id ▸ List.mem_map_of_mem (f := Person.id) inside)
  -- Whoever has the identifier is the figure.
  have listed : person ∈ graph.persons := by
    obtain ⟨_, before, after, split, _⟩ := record
    simp [split]
  obtain ⟨other, played, otherId, label⟩ := faithful.shows.exists_figure listed
  have same := faithful.idIn_inj member played (record.1.symm.trans otherId)
  exact ⟨person, record, same ▸ congrArg Prod.snd label⟩

section Roots

variable (faithful : graph.Faithful source rest sentence)
  (differ : sentence.left.pronoun ≠ sentence.right.pronoun) {spec : RelativeSpec}
  (named : sentence.Names spec)

include named in
/-- The places of a way are part of the cast. -/
theorem way_mem_cast (height : Nat) : .onWay spec.pronoun (spec.steps.take height) ∈ sentence.cast :=
  Sentence.onWay_mem_cast_iff.mpr ⟨spec, named, rfl, List.take_prefix ..⟩

include faithful named in
/-- A way is a chain of parents. -/
theorem ascends_way {height : Nat} (inside : height ≤ spec.steps.length) :
    Ascends (KeptLink graph.persons graph.edges) height
      (source.idIn sentence.cast (.onWay spec.pronoun []))
      (source.idIn sentence.cast (.onWay spec.pronoun (spec.steps.take height))) := by
  -- The next step is the one that the sentence tells of the place below.
  induction height with
  | zero => exact .refl _
  | succ height ih =>
    have steps := List.take_append_getElem (l := spec.steps) (i := height) (by omega)
    refine (ih (by omega)).step ((faithful.keptLink_iff (way_mem_cast named height) _).mpr ?_)
    refine ⟨_, ?_, rfl⟩
    rw [← steps]
    exact .step named (steps ▸ List.take_prefix ..)

include faithful differ named in
/-- A chain from a root leads up the way, and from the relative to the shared parents. -/
theorem of_ascends {height : Nat} {top : PersonId}
    (chain : Ascends (KeptLink graph.persons graph.edges) height
      (source.idIn sentence.cast (.onWay spec.pronoun [])) top) :
    (height ≤ spec.steps.length ∧
        top = source.idIn sentence.cast (.onWay spec.pronoun (spec.steps.take height))) ∨
      (height = spec.steps.length + 1 ∧
        ∃ parent ∈ sharedParents, top = source.idIn sentence.cast (.shared parent)) := by
  -- From each place of a chain there is only one way on.
  induction height generalizing top with
  | zero => exact Or.inl ⟨Nat.zero_le _, chain.eq_of_zero.symm⟩
  | succ height ih =>
    cases chain with
    | step below up =>
      rcases ih below with ⟨inside, rfl⟩ | ⟨_, parent, shares, rfl⟩
      · obtain ⟨upper, told, rfl⟩ := (faithful.keptLink_iff (way_mem_cast named height) _).mp up
        rcases told.above_onWay differ named inside with
          ⟨less, rfl⟩ | ⟨same, parent, shares, rfl⟩
        · exact Or.inl ⟨less, rfl⟩
        · exact Or.inr ⟨by rw [same], parent, shares, rfl⟩
      · -- Nobody stands above a shared parent.
        have member : .shared parent ∈ sentence.cast := Sentence.shared_mem_cast_iff.mpr shares
        obtain ⟨upper, told, _⟩ := (faithful.keptLink_iff member _).mp up
        exact absurd told (Sentence.not_tells_shared parent upper)

include faithful named in
/-- No place of a way is a shared parent. -/
theorem way_ne_shared {parent : String × Sex} (shares : parent ∈ sharedParents) (height : Nat) :
    source.idIn sentence.cast (.onWay spec.pronoun (spec.steps.take height)) ≠
      source.idIn sentence.cast (.shared parent) := by
  intro same
  cases faithful.idIn_inj (way_mem_cast named height) (Sentence.shared_mem_cast_iff.mpr shares) same

include faithful differ named in
/-- The shared parents stand one step above the relative. -/
theorem isAncestorAt_shared {parent : String × Sex} (shares : parent ∈ sharedParents) :
    IsAncestorAt (KeptLink graph.persons graph.edges)
      (source.idIn sentence.cast (.onWay spec.pronoun []))
      (source.idIn sentence.cast (.shared parent)) (spec.steps.length + 1) := by
  -- Every chain to a shared parent goes up the whole way.
  have apart := way_ne_shared faithful named shares
  refine ⟨(apart 0).symm, (ascends_way faithful named (Nat.le_refl _)).step ?_, fun steps chain => ?_⟩
  · refine (faithful.keptLink_iff (way_mem_cast named _) _).mpr ⟨_, ?_, rfl⟩
    rw [List.take_length]
    exact .shared named shares
  · rcases of_ascends faithful differ named chain with ⟨_, same⟩ | ⟨same, _⟩
    · exact absurd same.symm (apart steps)
    · exact Nat.le_of_eq same.symm

variable {other : RelativeSpec} (namedOther : sentence.Names other)
  (apart : spec.pronoun ≠ other.pronoun)

include faithful named namedOther apart in
/-- The ways from different roots have nobody in common. -/
theorem way_ne_way (height height' : Nat) :
    source.idIn sentence.cast (.onWay spec.pronoun (spec.steps.take height)) ≠
      source.idIn sentence.cast (.onWay other.pronoun (other.steps.take height')) := by
  intro same
  have figures := faithful.idIn_inj (way_mem_cast named height) (way_mem_cast namedOther height') same
  exact apart (Figure.onWay.inj figures).1

include faithful differ named namedOther apart in
/-- One root is no ancestor of another one. -/
theorem not_isAncestorAt_root (steps : Nat) :
    ¬IsAncestorAt (KeptLink graph.persons graph.edges)
      (source.idIn sentence.cast (.onWay other.pronoun []))
      (source.idIn sentence.cast (.onWay spec.pronoun [])) steps := by
  -- From the other root only the other way and the shared parents are reached.
  intro above
  rcases of_ascends faithful differ namedOther above.2.ascends with ⟨_, same⟩ | ⟨_, parent, shares, same⟩
  · exact way_ne_way faithful named namedOther apart 0 steps same
  · exact way_ne_shared faithful named shares 0 same

include faithful differ named namedOther apart in
/-- Whoever stands above both roots is a shared parent. -/
theorem shared_of_isAncestorAt_roots {top : PersonId} {k l : Nat}
    (one : IsAncestorAt (KeptLink graph.persons graph.edges)
      (source.idIn sentence.cast (.onWay spec.pronoun [])) top k)
    (two : IsAncestorAt (KeptLink graph.persons graph.edges)
      (source.idIn sentence.cast (.onWay other.pronoun [])) top l) :
    ∃ parent ∈ sharedParents, top = source.idIn sentence.cast (.shared parent) := by
  -- The two ways meet nowhere.
  rcases of_ascends faithful differ named one.2.ascends with ⟨_, rfl⟩ | ⟨_, shared⟩
  · rcases of_ascends faithful differ namedOther two.2.ascends with ⟨_, same⟩ | ⟨_, _, shares, same⟩
    · exact absurd same (way_ne_way faithful named namedOther apart k l)
    · exact absurd same (way_ne_shared faithful named shares k)
  · exact shared

include faithful differ named namedOther apart in
/-- The two roots stand beside each other, as far below the shared parents as their ways are long. -/
theorem kinship_roots :
    Kinship graph.persons graph.edges (source.idIn sentence.cast (.onWay spec.pronoun []))
      (source.idIn sentence.cast (.onWay other.pronoun []))
      (collateralRelation (spec.steps.length + 1) (other.steps.length + 1)
        (source.firstShared sentence))
      (collateralWords (spec.steps.length + 1) (other.steps.length + 1) spec.pronoun.root.2
        other.pronoun.root.2) := by
  -- Neither root is above the other one, so the shared parents decide.
  obtain ⟨_, recordA, sexA⟩ := faithful.exists_record (way_mem_cast named 0)
  obtain ⟨_, recordB, sexB⟩ := faithful.exists_record (way_mem_cast namedOther 0)
  have notAbove := not_isAncestorAt_root faithful differ named namedOther apart
  have notBelow := not_isAncestorAt_root faithful differ namedOther named apart.symm
  have nearest := IdSource.isNearestCommon_firstShared
    (fun parent shares => isAncestorAt_shared faithful differ named shares)
    (fun parent shares => isAncestorAt_shared faithful differ namedOther shares)
    fun top k l one two =>
      Or.inl (shared_of_isAncestorAt_roots faithful differ named namedOther apart one two)
  have kinship := Kinship.collateral recordA recordB
    (way_ne_way faithful named namedOther apart 0 0) notAbove notBelow nearest
  rwa [sexA, sexB] at kinship

end Roots

/-- The shared parents are parents of both relatives. -/
theorem isAncestorAt_one (faithful : graph.Faithful source rest sentence) {spec : RelativeSpec}
    (named : sentence.Names spec) {parent : String × Sex} (shares : parent ∈ sharedParents) :
    IsAncestorAt (KeptLink graph.persons graph.edges) (source.idIn sentence.cast spec.figure)
      (source.idIn sentence.cast (.shared parent)) 1 := by
  -- The sentence tells one link between them, and no shorter chain joins two different people.
  have told : sentence.Tells (.shared parent) spec.figure := .shared named shares
  have apart : source.idIn sentence.cast (.shared parent) ≠ source.idIn sentence.cast spec.figure := by
    intro same
    cases faithful.idIn_inj told.mem_cast.1 told.mem_cast.2 same
  refine ⟨apart, (Ascends.refl _).step ((faithful.keptLink_iff told.mem_cast.2 _).mpr ⟨_, told, rfl⟩), ?_⟩
  intro steps chain
  cases steps with
  | zero => exact absurd chain.eq_of_zero.symm apart
  | succ steps => exact Nat.le_add_left ..

/-- Whoever is a parent of two different relatives is a shared parent. -/
theorem shared_of_isParent (faithful : graph.Faithful source rest sentence)
    (differ : sentence.left.figure ≠ sentence.right.figure) {top : PersonId}
    (one : KeptLink graph.persons graph.edges top (source.idIn sentence.cast sentence.left.figure))
    (two : KeptLink graph.persons graph.edges top (source.idIn sentence.cast sentence.right.figure)) :
    ∃ parent ∈ sharedParents, top = source.idIn sentence.cast (.shared parent) := by
  -- A parent on a way would have both relatives as the same child.
  obtain ⟨upper, told, rfl⟩ :=
    (faithful.keptLink_iff (Sentence.figure_mem_cast (Or.inl rfl)) _).mp one
  obtain ⟨upper', told', same⟩ :=
    (faithful.keptLink_iff (Sentence.figure_mem_cast (Or.inr rfl)) _).mp two
  have figures := faithful.idIn_inj told.mem_cast.1 told'.mem_cast.1 same
  subst figures
  cases upper with
  | onWay pronoun steps => exact absurd (told.child_eq.trans told'.child_eq.symm) differ
  | shared parent => exact ⟨parent, Sentence.shared_mem_cast_iff.mp told.mem_cast.1, rfl⟩

/-- Two different relatives of whom neither is an ancestor of the other are siblings. -/
theorem kinship_relatives (faithful : graph.Faithful source rest sentence)
    (differ : sentence.left.figure ≠ sentence.right.figure)
    (notAbove : ∀ steps, ¬IsAncestorAt (KeptLink graph.persons graph.edges)
      (source.idIn sentence.cast sentence.right.figure)
      (source.idIn sentence.cast sentence.left.figure) steps)
    (notBelow : ∀ steps, ¬IsAncestorAt (KeptLink graph.persons graph.edges)
      (source.idIn sentence.cast sentence.left.figure)
      (source.idIn sentence.cast sentence.right.figure) steps) :
    ∃ words, Kinship graph.persons graph.edges (source.idIn sentence.cast sentence.left.figure)
      (source.idIn sentence.cast sentence.right.figure) (.siblings (source.firstShared sentence))
      words := by
  have left : sentence.left.figure ∈ sentence.cast := Sentence.figure_mem_cast (Or.inl rfl)
  have right : sentence.right.figure ∈ sentence.cast := Sentence.figure_mem_cast (Or.inr rfl)
  obtain ⟨_, recordA, _⟩ := faithful.exists_record left
  obtain ⟨_, recordB, _⟩ := faithful.exists_record right
  have nearest := IdSource.isNearestCommon_firstShared
    (fun parent shares => faithful.isAncestorAt_one (Or.inl rfl) shares)
    (fun parent shares => faithful.isAncestorAt_one (Or.inr rfl) shares)
    fun top k l one two => by
      -- Nobody stands nearer than a parent, and the parents of both are the shared ones.
      obtain ⟨k, rfl, far⟩ := one.exists_succ
      obtain ⟨l, rfl, far'⟩ := two.exists_succ
      by_cases parents : k = 0 ∧ l = 0
      · obtain ⟨rfl, rfl⟩ := parents
        exact Or.inl (faithful.shared_of_isParent differ far.isParent far'.isParent)
      · exact Or.inr (by omega)
  exact ⟨_, .collateral recordA recordB (fun same => differ (faithful.idIn_inj left right same))
    notAbove notBelow nearest⟩

end CompiledGraph.Faithful

/-- The relation of two people who stand at least two steps below their nearest common ancestor. -/
theorem collateralRelation_succ {k l : Nat} (first : 1 ≤ k) (second : 1 ≤ l) (common : PersonId) :
    collateralRelation (k + 1) (l + 1) common = .cousins (min k l) (max k l - min k l) common := by
  -- Neither of them is a child of the ancestor.
  rw [collateralRelation, if_neg (by omega), if_neg (by omega)]
  congr 1 <;> omega

/-- The words for them. -/
theorem collateralWords_succ {k l : Nat} (first : 1 ≤ k) (second : 1 ≤ l) (a b : Sex) :
    collateralWords (k + 1) (l + 1) a b =
      if k ≤ l then Lexicon.cousinTerms (min k l) (max k l - min k l) a b
      else (Lexicon.cousinTerms (min k l) (max k l - min k l) b a).swap := by
  have degree : min (k + 1) (l + 1) - 1 = min k l := by omega
  have removal : max (k + 1) (l + 1) - min (k + 1) (l + 1) = max k l - min k l := by omega
  rw [collateralWords, if_neg (by omega), if_neg (by omega), if_neg (by omega), degree, removal]
  simp only [Nat.add_le_add_iff_right]

namespace CompiledGraph

/-- A figure of the cast is found by its name. -/
theorem Shows.exists_personNamed?_eq {graph : CompiledGraph} {source rest : IdSource}
    {sentence : Sentence} (shows : graph.Shows source rest sentence) {figure : Figure}
    (member : figure ∈ sentence.cast) : ∃ person, graph.personNamed? figure.label.1 = some person ∧
      person.id = source.idIn sentence.cast figure := by
  -- Somebody has that name, and whoever is found is that figure.
  obtain ⟨known, inside, _, label⟩ := shows.exists_person member
  have there : (graph.personNamed? figure.label.1).isSome :=
    List.find?_isSome.mpr ⟨known, inside, decide_eq_true (congrArg Prod.fst label)⟩
  obtain ⟨person, found⟩ := Option.isSome_iff_exists.mp there
  have named : person.name = figure.label.1 := by simpa using List.find?_some found
  have occurs := Sentence.occurs_of_mem_cast member
  exact ⟨person, found, (shows.of_name_eq occurs (List.mem_of_find?_eq_some found) named).2.1⟩

/-- With counters for the draws, what is made of a sentence is faithful to it. -/
theorem faithful_ofSentence (sentence : Sentence) (source : IdSource)
    (counters : source.HasCounters (ofSentence sentence source).1.persons.length) :
    (ofSentence sentence source).1.Faithful source (ofSentence sentence source).2 sentence :=
  ⟨shows_ofSentence sentence source, counters, (drawnFrom_ofSentence sentence source).links⟩

/-- A faithful graph classifies as its sentence says. -/
theorem Faithful.classifiesAsTold {graph : CompiledGraph} {source rest : IdSource}
    (faithful : graph.Faithful source rest graph.sentence) :
    graph.ClassifiesAsTold (source.firstShared graph.sentence) := by
  constructor
  · -- The roots are as far below the shared parents as their ways are long.
    intro differ his her namedHis namedHer isHis isHer
    have apart : his.pronoun ≠ her.pronoun := by
      rw [isHis, isHer]
      decide
    have kinship := faithful.kinship_roots differ namedHis namedHer apart
    rw [isHis, isHer, collateralRelation_succ his.length_steps.1 her.length_steps.1,
      collateralWords_succ his.length_steps.1 her.length_steps.1] at kinship
    refine ⟨_, _, ?_, ?_, fun options => kinship.classify_eq options⟩
    · rw [faithful.shows.rootHe]
      exact if_pos (isHis ▸ Faithful.way_mem_cast namedHis 0)
    · rw [faithful.shows.rootShe]
      exact if_pos (isHer ▸ Faithful.way_mem_cast namedHer 0)
  · -- The relatives stand at the ends of the ways.
    obtain ⟨left, standsLeft⟩ := faithful.shows.exists_standsAt (Or.inl rfl) graph.sentence.left.steps.length
    obtain ⟨right, standsRight⟩ :=
      faithful.shows.exists_standsAt (Or.inr rfl) graph.sentence.right.steps.length
    refine ⟨left, right, standsLeft, standsRight, fun differ notBelow notAbove options => ?_⟩
    have leftId := (faithful.shows.of_standsAt standsLeft).2.1
    have rightId := (faithful.shows.of_standsAt standsRight).2.1
    rw [List.take_length] at leftId rightId
    rw [leftId, rightId] at differ notBelow notAbove ⊢
    obtain ⟨words, kinship⟩ :=
      faithful.kinship_relatives (fun same => differ (congrArg _ same)) notAbove notBelow
    exact (kinship.classify_eq options).1

/-- A phrase that compiles with counters for the draws classifies as it says: the shared parent whose
identifier comes first is the nearest common ancestor of the two roots and of the two relatives. -/
theorem classifiesAsTold_ofPhrase {text : String} {source rest : IdSource} {graph : CompiledGraph}
    (compiled : ofPhrase text source = .ok (graph, rest))
    (counters : source.HasCounters graph.persons.length) :
    Sentence.ofTokens (Token.ofPhrase text) = .ok graph.sentence ∧
      ∃ father mother, graph.personNamed? "Общий отец" = some father ∧
        graph.personNamed? "Общая мать" = some mother ∧
        graph.ClassifiesAsTold (.lesser father.id mother.id) := by
  -- The names of the shared parents are found, so the lesser of their identifiers is the first one.
  obtain ⟨parsed, made⟩ := ofPhrase_eq_ok compiled
  have faithful := faithful_ofSentence graph.sentence source (by rwa [made])
  rw [made] at faithful
  refine ⟨parsed, ?_⟩
  have fatherHere : .shared ("Общий отец", .male) ∈ graph.sentence.cast :=
    Sentence.shared_mem_cast_iff.mpr (by simp [sharedParents])
  have motherHere : .shared ("Общая мать", .female) ∈ graph.sentence.cast :=
    Sentence.shared_mem_cast_iff.mpr (by simp [sharedParents])
  obtain ⟨father, foundFather, fatherId⟩ := faithful.shows.exists_personNamed?_eq fatherHere
  obtain ⟨mother, foundMother, motherId⟩ := faithful.shows.exists_personNamed?_eq motherHere
  refine ⟨father, mother, foundFather, foundMother, ?_⟩
  rw [fatherId, motherId]
  exact faithful.classifiesAsTold

/-- From the fifth identifier on the shared parents are the ninth and the tenth, and the tenth comes first. -/
theorem classifiesAsTold_ofPhrase_across_ten :
    ∃ graph rest, ofPhrase "Его мать сестра её матери" { start := 5 } = .ok (graph, rest) ∧
      IdSource.HasCounters { start := 5 } graph.persons.length ∧
      graph.ClassifiesAsTold ⟨"p10"⟩ := by
  -- The phrase makes six people, whose last two identifiers are looked at.
  have read : (ofPhrase "Его мать сестра её матери" { start := 5 }).toOption.map (fun made =>
      (made.1.persons.length, (made.1.personNamed? "Общий отец").map Person.id,
        (made.1.personNamed? "Общая мать").map Person.id)) =
      some (6, some ⟨"p9"⟩, some ⟨"p10"⟩) := by decide +kernel
  cases compiled : ofPhrase "Его мать сестра её матери" { start := 5 } with
  | error => cases compiled ▸ read
  | ok made =>
    obtain ⟨graph, rest⟩ := made
    simp only [compiled, Except.toOption, Option.map_some, Option.some.injEq, Prod.mk.injEq] at read
    obtain ⟨size, fatherId, motherId⟩ := read
    have counters : IdSource.HasCounters { start := 5 } graph.persons.length :=
      size ▸ show 5 + 6 - 1 ≤ maxCount by decide
    obtain ⟨_, father, mother, foundFather, foundMother, told⟩ :=
      classifiesAsTold_ofPhrase compiled counters
    simp only [foundFather, foundMother, Option.map_some, Option.some.injEq] at fatherId motherId
    have first : PersonId.lesser ⟨"p9"⟩ ⟨"p10"⟩ = ⟨"p10"⟩ := by decide +kernel
    rw [fatherId, motherId, first] at told
    exact ⟨graph, rest, rfl, counters, told⟩

end CompiledGraph

end Kindred
