import Kindred.Proofs.Phrase.Cast
import Kindred.Proofs.Phrase.Draft

/-! What is made of a sentence shows its cast: each figure is the person of one draw, and the links join those
whom the sentence tells to be parent and child. -/

namespace Kindred

/-- A label that was written finds its identifier, and the others find what they did. -/
theorem SymbolTable.get?_insert (table : SymbolTable) (label other : String) (id : PersonId) :
    (table.insert label id).get? other = if other = label then some id else table.get? other := by
  -- The new entry stands in front of the others.
  rw [insert, get?, List.lookup_cons, get?]
  by_cases same : other = label
  · simp [same]
  · have passed : (other == label) = false := by simpa using same
    simp [same, passed, lookup_filter_ne same]

/-- The identifier of a figure is drawn at the figure's place in the cast. -/
def IdSource.idIn (source : IdSource) (cast : List Figure) (figure : Figure) : PersonId :=
  (source.after (cast.idxOf figure)).peek

/-- In a longer cast everybody has the identifier of before. -/
theorem IdSource.idIn_of_begins (source : IdSource) {cast longer : List Figure}
    (begins : cast <+: longer) {figure : Figure} (member : figure ∈ cast) :
    source.idIn longer figure = source.idIn cast figure := by
  rw [idIn, idxOf_of_begins begins member, idIn]

/-- The person of a figure, without a note. -/
def Figure.person (source : IdSource) (cast : List Figure) (figure : Figure) : Person :=
  ⟨source.idIn cast figure, figure.label.1, figure.label.2, none⟩

namespace Draft

/-- The people of a draft are those of a cast, drawn one after the other, and some pairs of the cast are
linked. -/
structure Lists (source : IdSource) (cast : List Figure) (links : List (Figure × Figure))
    (draft : Draft) : Prop where
  persons : draft.persons = cast.map (Figure.person source cast)
  ids : draft.ids = source.after cast.length
  edges : ∀ parent child, ⟨parent, child⟩ ∈ draft.edges ↔ parent ≠ child ∧
    ∃ link ∈ links, parent = source.idIn cast link.1 ∧ child = source.idIn cast link.2
  within : ∀ link ∈ links, link.1 ∈ cast ∧ link.2 ∈ cast

/-- A table finds the figures of a cast that are on a way. -/
def Finds (source : IdSource) (cast : List Figure) (table : SymbolTable) : Prop :=
  -- The others have no entry, so they are entered when they come up.
  ∀ pronoun steps, steps.length ≤ 2 → table.get? (ancestorLabel pronoun steps).1 =
    if .onWay pronoun steps ∈ cast then some (source.idIn cast (.onWay pronoun steps)) else none

/-- A draft shows a cast and some links in it. -/
structure Shows (source : IdSource) (cast : List Figure) (links : List (Figure × Figure))
    (draft : Draft) : Prop where
  lists : draft.Lists source cast links
  finds : Finds source cast draft.symbols

variable {source : IdSource} {cast : List Figure} {links : List (Figure × Figure)} {draft : Draft}

/-- A new figure is the person of the next draw. -/
theorem Lists.fresh (lists : draft.Lists source cast links) {figure : Figure} (new : figure ∉ cast) :
    (draft.fresh figure.label.1 figure.label.2).1 = source.idIn (cast ++ [figure]) figure ∧
      (draft.fresh figure.label.1 figure.label.2).2.Lists source (cast ++ [figure]) links := by
  -- The place of the figure is behind all others, and so is the draw.
  have begins : cast <+: cast ++ [figure] := List.prefix_append cast [figure]
  have stays := fun {other : Figure} (member : other ∈ cast) =>
    source.idIn_of_begins begins member
  have drawn : source.idIn (cast ++ [figure]) figure = draft.ids.peek := by
    simp [IdSource.idIn, List.idxOf_append, new, lists.ids]
  refine ⟨drawn.symm, ⟨?_, ?_, fun parent child => ?_, fun link member => ?_⟩⟩
  · -- Everybody before keeps the identifier.
    have others : cast.map (Figure.person source (cast ++ [figure])) =
        cast.map (Figure.person source cast) :=
      List.map_congr_left fun other member => by simp [Figure.person, stays member]
    rw [List.map_append, others, ← lists.persons]
    simp [Draft.fresh, IdSource.draw, Figure.person, drawn]
  · rw [List.length_append, List.length_singleton, IdSource.after, ← lists.ids]
    rfl
  · refine (lists.edges parent child).trans (and_congr_right fun _ => ?_)
    refine exists_congr fun link => and_congr_right fun member => ?_
    rw [stays (lists.within link member).1, stays (lists.within link member).2]
  · obtain ⟨upper, lower⟩ := lists.within link member
    exact ⟨begins.subset upper, begins.subset lower⟩

/-- A shared parent is a new figure, and has no entry in the table. -/
theorem Shows.fresh_shared (shows : draft.Shows source cast links) {parent : String × Sex}
    (new : .shared parent ∉ cast) :
    (draft.fresh parent.1 parent.2).1 = source.idIn (cast ++ [.shared parent]) (.shared parent) ∧
      (draft.fresh parent.1 parent.2).2.Shows source (cast ++ [.shared parent]) links := by
  obtain ⟨drawn, lists⟩ := shows.lists.fresh new
  refine ⟨drawn, lists, fun pronoun steps short => (shows.finds pronoun steps short).trans ?_⟩
  by_cases known : .onWay pronoun steps ∈ cast
  · simp [known, source.idIn_of_begins (List.prefix_append cast _) known]
  · simp [known]

/-- A figure on a way is found, or entered as a new one. -/
theorem Shows.node (shows : draft.Shows source cast links) (pronoun : Pronoun) (steps : List Step)
    (short : steps.length ≤ 2) :
    let label := ancestorLabel pronoun steps
    (draft.node label.1 label.2).1 = source.idIn (enter cast (.onWay pronoun steps)) (.onWay pronoun steps) ∧
      (draft.node label.1 label.2).2.Shows source (enter cast (.onWay pronoun steps)) links := by
  -- The table tells whether the figure is part of the cast.
  intro label
  have found := shows.finds pronoun steps short
  by_cases known : .onWay pronoun steps ∈ cast
  · rw [if_pos known] at found
    simp only [label, Draft.node, found, enter, if_pos known]
    exact ⟨trivial, shows⟩
  · rw [if_neg known] at found
    obtain ⟨drawn, lists⟩ := shows.lists.fresh known
    simp only [label, Draft.node, found, enter, if_neg known]
    refine ⟨drawn, ⟨lists.persons, lists.ids, lists.edges, lists.within⟩, ?_⟩
    -- The label that is written belongs to no other figure.
    intro other more shortOther
    rw [SymbolTable.get?_insert]
    by_cases same : (ancestorLabel other more).1 = (ancestorLabel pronoun steps).1
    · have figures : Figure.onWay other more = .onWay pronoun steps :=
        Figure.Occurs.eq_of_name_eq shortOther short same
      rw [if_pos same, figures, if_pos (by simp)]
      exact congrArg some drawn
    · have differ : Figure.onWay other more ≠ .onWay pronoun steps := by
        intro figures
        obtain ⟨rfl, rfl⟩ := Figure.onWay.inj figures
        exact same rfl
      rw [if_neg same]
      refine (shows.finds other more shortOther).trans ?_
      by_cases member : .onWay other more ∈ cast
      · simp [member, source.idIn_of_begins (List.prefix_append cast _) member]
      · simp [member, differ]

/-- A link is added once, unless it joins a person to the same person. -/
theorem mem_edges_link (draft : Draft) (upper lower parent child : PersonId) :
    ⟨parent, child⟩ ∈ (draft.link upper lower).edges ↔
      ⟨parent, child⟩ ∈ draft.edges ∨ (parent ≠ child ∧ parent = upper ∧ child = lower) := by
  rw [Draft.link]
  split
  · -- The link is refused, or it stands there.
    rename_i refused
    refine ⟨Or.inl, fun either => either.elim id ?_⟩
    rintro ⟨differ, rfl, rfl⟩
    simpa [ParentEdge.isSelfLoop, differ] using refused
  · rename_i accepted
    simp only [ParentEdge.isSelfLoop, Bool.or_eq_true, beq_iff_eq, not_or] at accepted
    simp only [List.mem_append, List.mem_singleton, ParentEdge.mk.injEq]
    refine or_congr_right ⟨?_, And.right⟩
    rintro ⟨rfl, rfl⟩
    exact ⟨accepted.1, rfl, rfl⟩

/-- A link changes nothing but the links. -/
theorem link_eq (draft : Draft) (parent child : PersonId) :
    draft.link parent child = { draft with edges := (draft.link parent child).edges } := by
  rw [Draft.link]
  split <;> rfl

/-- Linking two figures of the cast adds the link between them. -/
theorem Shows.link (shows : draft.Shows source cast links) {parent child : Figure}
    (upper : parent ∈ cast) (lower : child ∈ cast) :
    (draft.link (source.idIn cast parent) (source.idIn cast child)).Shows source cast
      (links ++ [(parent, child)]) := by
  -- The link that is added is the one between the two figures.
  obtain ⟨⟨persons, ids, edges, within⟩, finds⟩ := shows
  rw [link_eq]
  refine ⟨⟨persons, ids, fun top low => ?_, ?_⟩, finds⟩
  · rw [mem_edges_link, edges, ← and_or_left]
    refine and_congr_right fun _ => ?_
    constructor
    · rintro (⟨link, member, ends⟩ | ends)
      · exact ⟨link, List.mem_append_left _ member, ends⟩
      · exact ⟨(parent, child), by simp, ends⟩
    · rintro ⟨link, member, ends⟩
      rcases List.mem_append.mp member with before | last
      · exact Or.inl ⟨link, before, ends⟩
      · cases List.mem_singleton.mp last
        exact Or.inr ends
  · intro link member
    rcases List.mem_append.mp member with before | last
    · exact within link before
    · cases List.mem_singleton.mp last
      exact ⟨upper, lower⟩

/-- The way up from somebody of the cast enters those above, and links each to the one below. -/
theorem Shows.climb (shows : draft.Shows source cast links) {pronoun : Pronoun} {gone : List Step}
    (here : .onWay pronoun gone ∈ cast) (steps : List Step) (short : (gone ++ steps).length ≤ 2) :
    let entered := (Figure.above pronoun gone steps).foldl enter cast
    let made := Draft.climb pronoun gone (source.idIn cast (.onWay pronoun gone)) draft steps
    made.1 = source.idIn entered (.onWay pronoun (gone ++ steps)) ∧
      made.2.Shows source entered (links ++ Figure.linksAbove pronoun gone steps) := by
  -- Each step enters one figure, links it to the one below, and goes on from there.
  induction steps generalizing draft cast links gone with
  | nil => simpa [Draft.climb, Figure.above, Figure.linksAbove] using shows
  | cons step rest ih =>
    have shortStep : (gone ++ [step]).length ≤ 2 := by
      simp only [List.length_append, List.length_cons, List.length_nil] at short ⊢
      omega
    obtain ⟨drawn, noded⟩ := shows.node pronoun (gone ++ [step]) shortStep
    -- The person below keeps the identifier when the next one is entered.
    have begins := prefix_enter cast (.onWay pronoun (gone ++ [step]))
    have entered : .onWay pronoun (gone ++ [step]) ∈ enter cast (.onWay pronoun (gone ++ [step])) :=
      mem_enter_iff.mpr (Or.inr rfl)
    have linked := noded.link entered (begins.subset here)
    have climbed := ih linked entered (by simpa using short)
    simp only [Draft.climb]
    rw [drawn, ← source.idIn_of_begins begins here]
    simpa [Figure.above, Figure.linksAbove] using climbed

/-- The way up to a relative enters everybody on it. -/
theorem Shows.chain (shows : draft.Shows source cast links) (spec : RelativeSpec) :
    let entered := spec.way.foldl enter cast
    (draft.chain spec).1 = source.idIn entered spec.figure ∧
      (draft.chain spec).2.Shows source entered
        (links ++ Figure.linksAbove spec.pronoun [] spec.steps) := by
  -- The way starts from the root.
  obtain ⟨drawn, rooted⟩ := shows.node spec.pronoun [] (by simp)
  have climbed := rooted.climb (mem_enter_iff.mpr (Or.inr rfl)) spec.steps
    (by simpa using spec.length_steps.2)
  simp only [Draft.chain]
  rw [show spec.pronoun.root = ancestorLabel spec.pronoun [] from rfl, drawn]
  exact climbed

/-- A parent whom two figures of the cast share is entered, and linked to both. -/
theorem Shows.shareParent (shows : draft.Shows source cast links) {left right : Figure}
    (first : left ∈ cast) (second : right ∈ cast) {parent : String × Sex}
    (new : .shared parent ∉ cast) :
    (draft.shareParent (source.idIn cast left) (source.idIn cast right) parent).Shows source
      (cast ++ [.shared parent]) (links ++ [(.shared parent, left), (.shared parent, right)]) := by
  -- The parent is entered and linked to both, who keep their identifiers.
  obtain ⟨drawn, entered⟩ := shows.fresh_shared new
  have begins : cast <+: cast ++ [.shared parent] := List.prefix_append ..
  have here : Figure.shared parent ∈ cast ++ [.shared parent] := by simp
  have linked := (entered.link here (begins.subset first)).link here (begins.subset second)
  simp only [Draft.shareParent]
  rw [drawn, ← source.idIn_of_begins begins first, ← source.idIn_of_begins begins second]
  simpa using linked

/-- Any number of parents are shared one after the other. -/
theorem Shows.foldl_shareParent (shows : draft.Shows source cast links) {left right : Figure}
    (first : left ∈ cast) (second : right ∈ cast) (parents : List (String × Sex))
    (nodup : parents.Nodup) (new : ∀ parent ∈ parents, .shared parent ∉ cast) :
    (parents.foldl (Draft.shareParent (source.idIn cast left) (source.idIn cast right)) draft).Shows
      source (cast ++ parents.map .shared)
      (links ++ parents.flatMap fun parent => [(.shared parent, left), (.shared parent, right)]) := by
  -- The parents that are left are new still, as they differ from the one just entered.
  induction parents generalizing draft cast links with
  | nil => simpa using shows
  | cons parent rest ih =>
    obtain ⟨others, nodup⟩ := List.nodup_cons.mp nodup
    have shared := shows.shareParent first second (new parent (by simp))
    have begins : cast <+: cast ++ [.shared parent] := List.prefix_append ..
    have stillNew : ∀ other ∈ rest, .shared other ∉ cast ++ [.shared parent] := by
      intro other member
      have differ : other ≠ parent := fun same => others (same ▸ member)
      simpa [differ] using new other (by simp [member])
    have whole := ih shared (begins.subset first) (begins.subset second) nodup stillNew
    rw [source.idIn_of_begins begins first, source.idIn_of_begins begins second] at whole
    simpa using whole

/-- Before anybody is entered, the empty cast is shown. -/
theorem shows_empty (source : IdSource) : Shows source [] [] { ids := source } :=
  ⟨⟨rfl, rfl, by simp, by simp⟩, fun _ _ _ => by simp [SymbolTable.get?]⟩

/-- The draft of a sentence: both ways, and the shared parents. -/
def ofSentence (sentence : Sentence) (source : IdSource) : Draft :=
  let left := ({ ids := source } : Draft).chain sentence.left
  let right := left.2.chain sentence.right
  sharedParents.foldl (shareParent left.1 right.1) right.2

/-- The draft of a sentence shows its cast and its links. -/
theorem shows_ofSentence (sentence : Sentence) (source : IdSource) :
    (ofSentence sentence source).Shows source sentence.cast sentence.links := by
  -- The two ways are entered one after the other, and then the shared parents.
  obtain ⟨leftDrawn, one⟩ := (shows_empty source).chain sentence.left
  obtain ⟨rightDrawn, two⟩ := one.chain sentence.right
  have onWays : sentence.right.way.foldl enter (sentence.left.way.foldl enter []) = sentence.wayCast :=
    List.foldl_append.symm
  have stays := prefix_foldl_enter (sentence.left.way.foldl enter []) sentence.right.way
  have leftHere : sentence.left.figure ∈ sentence.left.way.foldl enter [] :=
    mem_foldl_enter_iff.mpr (Or.inr (RelativeSpec.mem_way_iff.mpr ⟨_, List.prefix_refl _, rfl⟩))
  rw [← source.idIn_of_begins stays leftHere] at leftDrawn
  rw [onWays] at leftDrawn rightDrawn two
  have rightHere : sentence.right.figure ∈ sentence.wayCast :=
    Sentence.mem_wayCast_iff.mpr ⟨_, _, Or.inr rfl, List.prefix_refl _, rfl⟩
  have three := two.foldl_shareParent (onWays ▸ stays.subset leftHere) rightHere
    sharedParents (by decide) fun parent _ => Sentence.shared_notMem_wayCast parent
  rwa [← leftDrawn, ← rightDrawn] at three

end Draft

/-- The identifier, the name and the sex of a person, without the note. -/
def Person.identity (person : Person) : PersonId × String × Sex :=
  (person.id, person.name, person.sex)

/-- A graph has the people of a sentence's cast, and the links that the sentence tells. -/
structure CompiledGraph.Shows (graph : CompiledGraph) (source rest : IdSource) (sentence : Sentence) :
    Prop where
  persons : graph.persons.map Person.identity =
    sentence.cast.map fun figure => (source.idIn sentence.cast figure, figure.label)
  rest : rest = source.after sentence.cast.length
  edges : ∀ parent child, ⟨parent, child⟩ ∈ graph.edges ↔ parent ≠ child ∧
    ∃ upper lower, sentence.Tells upper lower ∧ parent = source.idIn sentence.cast upper ∧
      child = source.idIn sentence.cast lower
  rootHe : graph.rootHe = if .onWay .his [] ∈ sentence.cast then
    some (source.idIn sentence.cast (.onWay .his [])) else none
  rootShe : graph.rootShe = if .onWay .her [] ∈ sentence.cast then
    some (source.idIn sentence.cast (.onWay .her [])) else none

/-- What is made of a sentence is its draft. A note changes nobody's identity. -/
theorem CompiledGraph.ofSentence_eq (sentence : Sentence) (source : IdSource) :
    ∃ persons, persons.map Person.identity =
        (Draft.ofSentence sentence source).persons.map Person.identity ∧
      ofSentence sentence source =
        (⟨persons, (Draft.ofSentence sentence source).edges,
          (Draft.ofSentence sentence source).symbols.get? heLabel,
          (Draft.ofSentence sentence source).symbols.get? sheLabel, sentence⟩,
          (Draft.ofSentence sentence source).ids) := by
  refine ⟨_, ?_, rfl⟩
  split
  · refine map_changeFirst _ _ Person.identity ?_ _
    exact fun person => rfl
  · rfl

/-- What is made of a sentence shows what the sentence tells. -/
theorem CompiledGraph.shows_ofSentence (sentence : Sentence) (source : IdSource) :
    (ofSentence sentence source).1.Shows source (ofSentence sentence source).2 sentence := by
  obtain ⟨⟨drawn, ids, edges, _⟩, finds⟩ := Draft.shows_ofSentence sentence source
  obtain ⟨persons, same, made⟩ := ofSentence_eq sentence source
  rw [made]
  generalize Draft.ofSentence sentence source = draft at drawn ids edges finds same
  refine ⟨?_, ids, fun parent child => ?_, finds .his [] (by simp), finds .her [] (by simp)⟩
  · rw [same, drawn, List.map_map]
    rfl
  · refine (edges parent child).trans (and_congr_right fun _ => ?_)
    simp only [Prod.exists, Sentence.mem_links_iff]

end Kindred
