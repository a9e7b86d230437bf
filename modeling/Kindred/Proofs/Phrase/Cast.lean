import Kindred.Phrase.Compile

/-! The figures of a sentence: those on the ways up to its two relatives, and the parents whom the relatives
share. -/

namespace Kindred

/-- Somebody a sentence tells of: a person on a way up from one of the two roots, or a shared parent. -/
inductive Figure where
  | onWay (pronoun : Pronoun) (steps : List Step)
  | shared (parent : String × Sex)
deriving DecidableEq

namespace Figure

/-- The name and the sex of a figure. -/
def label : Figure → String × Sex
  | .onWay pronoun steps => ancestorLabel pronoun steps
  | .shared parent => parent

/-- Such figures occur in sentences: no way is longer than two steps. -/
def Occurs : Figure → Prop
  | .onWay _ steps => steps.length ≤ 2
  | .shared parent => parent ∈ sharedParents

/-- The ways of at most two steps. -/
def shortWays : List (List Step) :=
  [[], [.mother], [.father], [.mother, .mother], [.mother, .father], [.father, .mother],
    [.father, .father]]

/-- No short way is missing. -/
theorem mem_shortWays {steps : List Step} (short : steps.length ≤ 2) : steps ∈ shortWays := by
  -- Each of at most two steps is one of two.
  rcases steps with _ | ⟨first, _ | ⟨second, _ | ⟨third, rest⟩⟩⟩
  · decide
  · cases first <;> decide
  · cases first <;> cases second <;> decide
  · simp at short

/-- The figures that occur. -/
def all : List Figure :=
  shortWays.map (onWay .his) ++ shortWays.map (onWay .her) ++ sharedParents.map shared

/-- No figure that occurs is missing. -/
theorem Occurs.mem_all {figure : Figure} (occurs : figure.Occurs) : figure ∈ all := by
  cases figure with
  | onWay pronoun steps =>
    have member : steps ∈ shortWays := mem_shortWays occurs
    cases pronoun <;> simp [all, member]
  | shared parent =>
    have member : parent ∈ sharedParents := occurs
    simp [all, member]

/-- The names of all figures are different. -/
theorem eq_of_label_eq : ∀ first ∈ all, ∀ second ∈ all, first.label.1 = second.label.1 →
    first = second := by
  decide +kernel

/-- A figure that occurs is known by its name. -/
theorem Occurs.eq_of_name_eq {first second : Figure} (one : first.Occurs) (other : second.Occurs)
    (same : first.label.1 = second.label.1) : first = second :=
  eq_of_label_eq first one.mem_all second other.mem_all same

/-- The figures above a place on a way, along the steps that are left. -/
def above (pronoun : Pronoun) (gone : List Step) : List Step → List Figure
  | [] => []
  | step :: rest => onWay pronoun (gone ++ [step]) :: above pronoun (gone ++ [step]) rest

/-- The links above a place on a way, each from a parent to a child. -/
def linksAbove (pronoun : Pronoun) (gone : List Step) : List Step → List (Figure × Figure)
  | [] => []
  | step :: rest =>
    (onWay pronoun (gone ++ [step]), onWay pronoun gone) :: linksAbove pronoun (gone ++ [step]) rest

/-- Above a place on a way stand those to whom some of the steps lead. -/
theorem mem_above_iff {pronoun : Pronoun} {gone steps : List Step} {figure : Figure} :
    figure ∈ above pronoun gone steps ↔
      ∃ more, more ≠ [] ∧ more <+: steps ∧ figure = onWay pronoun (gone ++ more) := by
  -- The first of the steps is taken off, and the others lead on from there.
  induction steps generalizing gone with
  | nil =>
    refine iff_of_false (by simp [above]) ?_
    rintro ⟨more, some, begins, _⟩
    exact some (List.prefix_nil.mp begins)
  | cons step rest ih =>
    rw [above, List.mem_cons, ih]
    constructor
    · rintro (rfl | ⟨more, _, begins, rfl⟩)
      · exact ⟨[step], by simp, by simp, rfl⟩
      · exact ⟨step :: more, by simp, by simpa using begins, by simp⟩
    · rintro ⟨_ | ⟨first, more⟩, some, begins, rfl⟩
      · exact absurd rfl some
      · obtain ⟨rfl, following⟩ := List.cons_prefix_cons.mp begins
        cases more with
        | nil => exact Or.inl rfl
        | cons second more => exact Or.inr ⟨second :: more, by simp, following, by simp⟩

/-- Each step of a way leads from a child to a parent. -/
theorem mem_linksAbove_iff {pronoun : Pronoun} {gone steps : List Step} {parent child : Figure} :
    (parent, child) ∈ linksAbove pronoun gone steps ↔
      ∃ more step, more ++ [step] <+: steps ∧ parent = onWay pronoun (gone ++ more ++ [step]) ∧
        child = onWay pronoun (gone ++ more) := by
  -- The first link is that of the first step, and the others stand further up.
  induction steps generalizing gone with
  | nil => simp [linksAbove]
  | cons first rest ih =>
    rw [linksAbove, List.mem_cons, ih, Prod.mk.injEq]
    constructor
    · rintro (⟨rfl, rfl⟩ | ⟨more, step, begins, rfl, rfl⟩)
      · exact ⟨[], first, by simp, by simp, by simp⟩
      · exact ⟨first :: more, step, by simpa using begins, by simp, by simp⟩
    · rintro ⟨_ | ⟨head, more⟩, step, begins, rfl, rfl⟩
      · obtain ⟨rfl, _⟩ := List.cons_prefix_cons.mp begins
        simp
      · obtain ⟨rfl, following⟩ := List.cons_prefix_cons.mp begins
        exact Or.inr ⟨more, step, following, by simp, by simp⟩

end Figure

namespace RelativeSpec

/-- There are one or two steps up to a relative. -/
theorem length_steps (spec : RelativeSpec) : 1 ≤ spec.steps.length ∧ spec.steps.length ≤ 2 := by
  cases spec with
  | mk pronoun term line => cases term <;> simp [steps]

/-- The relative. -/
def figure (spec : RelativeSpec) : Figure :=
  .onWay spec.pronoun spec.steps

/-- The root and everybody on the way up to the relative. -/
def way (spec : RelativeSpec) : List Figure :=
  .onWay spec.pronoun [] :: Figure.above spec.pronoun [] spec.steps

/-- On the way stand those to whom the first steps lead. -/
theorem mem_way_iff {spec : RelativeSpec} {figure : Figure} :
    figure ∈ spec.way ↔ ∃ steps, steps <+: spec.steps ∧ figure = .onWay spec.pronoun steps := by
  rw [way, List.mem_cons, Figure.mem_above_iff]
  constructor
  · rintro (rfl | ⟨steps, _, begins, rfl⟩)
    · exact ⟨[], by simp, rfl⟩
    · exact ⟨steps, begins, rfl⟩
  · rintro ⟨steps, begins, rfl⟩
    cases steps with
    | nil => exact Or.inl rfl
    | cons step steps => exact Or.inr ⟨_, by simp, begins, rfl⟩

end RelativeSpec

/-- A cast with one figure more, unless the figure is part of it. -/
def enter (cast : List Figure) (figure : Figure) : List Figure :=
  if figure ∈ cast then cast else cast ++ [figure]

/-- Those who were there stay, in front. -/
theorem prefix_enter (cast : List Figure) (figure : Figure) : cast <+: enter cast figure := by
  unfold enter
  split
  · exact List.prefix_refl cast
  · exact List.prefix_append cast [figure]

/-- A cast that is entered into holds the figure and those who were there. -/
theorem mem_enter_iff {cast : List Figure} {figure other : Figure} :
    other ∈ enter cast figure ↔ other ∈ cast ∨ other = figure := by
  unfold enter
  split
  · rename_i member
    exact ⟨Or.inl, fun either => either.elim id fun same => same ▸ member⟩
  · simp

/-- Nobody is entered twice. -/
theorem nodup_enter {cast : List Figure} (nodup : cast.Nodup) (figure : Figure) :
    (enter cast figure).Nodup := by
  unfold enter
  split
  · exact nodup
  · rename_i new
    -- The figure that comes last was not there before.
    rw [List.nodup_append]
    refine ⟨nodup, by simp, fun other member last => ?_⟩
    rw [List.mem_singleton]
    rintro rfl rfl
    exact new member

/-- In a longer cast everybody has the place of before. -/
theorem idxOf_of_begins {cast longer : List Figure} (begins : cast <+: longer) {figure : Figure}
    (member : figure ∈ cast) : longer.idxOf figure = cast.idxOf figure := by
  obtain ⟨more, rfl⟩ := begins
  rw [List.idxOf_append, if_pos member]

/-- Entering several figures one after the other keeps those who were there in front. -/
theorem prefix_foldl_enter (cast figures : List Figure) : cast <+: figures.foldl enter cast := by
  induction figures generalizing cast with
  | nil => exact List.prefix_refl cast
  | cons figure rest ih => exact (prefix_enter cast figure).trans (ih _)

/-- Entering several figures adds them to those who were there. -/
theorem mem_foldl_enter_iff {cast figures : List Figure} {other : Figure} :
    other ∈ figures.foldl enter cast ↔ other ∈ cast ∨ other ∈ figures := by
  induction figures generalizing cast with
  | nil => simp
  | cons figure rest ih => rw [List.foldl_cons, ih, mem_enter_iff, List.mem_cons, or_assoc]

/-- Of several figures nobody is entered twice. -/
theorem nodup_foldl_enter {cast : List Figure} (nodup : cast.Nodup) (figures : List Figure) :
    (figures.foldl enter cast).Nodup := by
  induction figures generalizing cast with
  | nil => exact nodup
  | cons figure rest ih => exact ih (nodup_enter nodup figure)

/-- On every way of the cast a child comes before the parent. -/
def Layered (cast : List Figure) : Prop :=
  -- The step up from the child ends at somebody entered later.
  ∀ pronoun gone step, Figure.onWay pronoun (gone ++ [step]) ∈ cast →
    cast.idxOf (.onWay pronoun gone) < cast.idxOf (.onWay pronoun (gone ++ [step]))

/-- A parent may be entered once the child is there. -/
theorem Layered.enter {cast : List Figure} (layered : Layered cast) {figure : Figure}
    (below : ∀ pronoun gone step, figure = .onWay pronoun (gone ++ [step]) →
      .onWay pronoun gone ∈ cast) : Layered (enter cast figure) := by
  intro pronoun gone step member
  by_cases known : .onWay pronoun (gone ++ [step]) ∈ cast
  · -- Both have been there before.
    have less := layered pronoun gone step known
    have child : Figure.onWay pronoun gone ∈ cast :=
      List.idxOf_lt_length_iff.mp (Nat.lt_of_lt_of_le less (List.idxOf_le_length ..))
    rwa [idxOf_of_begins (prefix_enter cast figure) child,
      idxOf_of_begins (prefix_enter cast figure) known]
  · -- The parent is the new one, and comes last.
    have same := ((mem_enter_iff.mp member).resolve_left known).symm
    have child := below pronoun gone step same
    subst same
    rw [idxOf_of_begins (prefix_enter cast _) child, Kindred.enter, if_neg known, List.idxOf_append,
      if_neg known]
    exact Nat.lt_of_lt_of_le (List.idxOf_lt_length_iff.mpr child) (Nat.le_add_left ..)

/-- Entering those above somebody of the cast, each after the one below, leaves it layered. -/
theorem Layered.foldl_above {cast : List Figure} (layered : Layered cast) {pronoun : Pronoun}
    {gone : List Step} (here : .onWay pronoun gone ∈ cast) (steps : List Step) :
    Layered ((Figure.above pronoun gone steps).foldl Kindred.enter cast) := by
  -- The one who has just been entered is there when the next one comes.
  induction steps generalizing cast gone with
  | nil => exact layered
  | cons step rest ih =>
    refine ih (layered.enter ?_) (mem_enter_iff.mpr (Or.inr rfl))
    rintro other before last same
    obtain ⟨rfl, steps⟩ := Figure.onWay.inj same
    obtain ⟨rfl, _⟩ := List.append_inj' steps rfl
    exact here

/-- Entering a way from its root leaves a cast layered. -/
theorem Layered.foldl_way {cast : List Figure} (layered : Layered cast) (spec : RelativeSpec) :
    Layered (spec.way.foldl Kindred.enter cast) := by
  -- No step leads to a root.
  have rooted : Layered (Kindred.enter cast (.onWay spec.pronoun [])) :=
    layered.enter fun _ _ _ same => by simp at same
  exact rooted.foldl_above (mem_enter_iff.mpr (Or.inr rfl)) spec.steps

namespace Sentence

/-- The relative is one of the two of the sentence. -/
def Names (sentence : Sentence) (spec : RelativeSpec) : Prop :=
  spec = sentence.left ∨ spec = sentence.right

/-- The figures on the ways to the two relatives, in the order in which they come up. -/
def wayCast (sentence : Sentence) : List Figure :=
  (sentence.left.way ++ sentence.right.way).foldl enter []

/-- All figures of a sentence. The shared parents come last. -/
def cast (sentence : Sentence) : List Figure :=
  sentence.wayCast ++ sharedParents.map .shared

/-- What a sentence tells of a parent and a child: a step on a way, or a parent whom both relatives share. -/
inductive Tells (sentence : Sentence) : Figure → Figure → Prop
  | step {spec : RelativeSpec} (named : sentence.Names spec) {gone : List Step} {step : Step}
    (begins : gone ++ [step] <+: spec.steps) :
    Tells sentence (.onWay spec.pronoun (gone ++ [step])) (.onWay spec.pronoun gone)
  | shared {spec : RelativeSpec} (named : sentence.Names spec) {parent : String × Sex}
    (shares : parent ∈ sharedParents) : Tells sentence (.shared parent) spec.figure

/-- The links of a sentence, in the order in which they come up. -/
def links (sentence : Sentence) : List (Figure × Figure) :=
  Figure.linksAbove sentence.left.pronoun [] sentence.left.steps ++
    Figure.linksAbove sentence.right.pronoun [] sentence.right.steps ++
    sharedParents.flatMap fun parent =>
      [(.shared parent, sentence.left.figure), (.shared parent, sentence.right.figure)]

variable {sentence : Sentence} {figure : Figure}

/-- The links are what the sentence tells. -/
theorem mem_links_iff {parent child : Figure} :
    (parent, child) ∈ sentence.links ↔ sentence.Tells parent child := by
  -- The links are those of the left way, of the right way and of the shared parents.
  rw [links, List.mem_append, List.mem_append, Figure.mem_linksAbove_iff,
    Figure.mem_linksAbove_iff, List.mem_flatMap]
  constructor
  · rintro ((⟨gone, step, begins, rfl, rfl⟩ | ⟨gone, step, begins, rfl, rfl⟩) |
      ⟨other, shares, member⟩)
    · exact .step (Or.inl rfl) begins
    · exact .step (Or.inr rfl) begins
    · simp only [List.mem_cons, List.not_mem_nil, or_false, Prod.mk.injEq] at member
      rcases member with ⟨rfl, rfl⟩ | ⟨rfl, rfl⟩
      · exact .shared (Or.inl rfl) shares
      · exact .shared (Or.inr rfl) shares
  · rintro (⟨rfl | rfl, begins⟩ | ⟨rfl | rfl, shares⟩)
    · exact Or.inl (Or.inl ⟨_, _, begins, rfl, rfl⟩)
    · exact Or.inl (Or.inr ⟨_, _, begins, rfl, rfl⟩)
    · exact Or.inr ⟨_, shares, by simp⟩
    · exact Or.inr ⟨_, shares, by simp⟩

/-- On the ways stand those to whom the first steps to a relative lead. -/
theorem mem_wayCast_iff :
    figure ∈ sentence.wayCast ↔
      ∃ spec steps, sentence.Names spec ∧ steps <+: spec.steps ∧
        figure = .onWay spec.pronoun steps := by
  -- Nobody is there before the ways are entered.
  rw [wayCast, mem_foldl_enter_iff, List.mem_append, RelativeSpec.mem_way_iff,
    RelativeSpec.mem_way_iff]
  constructor
  · rintro (none | ⟨steps, begins, rfl⟩ | ⟨steps, begins, rfl⟩)
    · cases none
    · exact ⟨_, steps, Or.inl rfl, begins, rfl⟩
    · exact ⟨_, steps, Or.inr rfl, begins, rfl⟩
  · rintro ⟨spec, steps, rfl | rfl, begins, rfl⟩
    · exact Or.inr (Or.inl ⟨steps, begins, rfl⟩)
    · exact Or.inr (Or.inr ⟨steps, begins, rfl⟩)

/-- A figure on a way is no shared parent. -/
theorem shared_notMem_wayCast (parent : String × Sex) : .shared parent ∉ sentence.wayCast := by
  rw [mem_wayCast_iff]
  rintro ⟨_, _, _, _, same⟩
  cases same

/-- A place on a way is part of the cast exactly when the first steps to a relative lead there. -/
theorem onWay_mem_cast_iff {pronoun : Pronoun} {steps : List Step} :
    .onWay pronoun steps ∈ sentence.cast ↔
      ∃ spec, sentence.Names spec ∧ spec.pronoun = pronoun ∧ steps <+: spec.steps := by
  rw [cast, List.mem_append, mem_wayCast_iff]
  constructor
  · rintro (⟨spec, _, named, begins, same⟩ | shared)
    · obtain ⟨rfl, rfl⟩ := Figure.onWay.inj same
      exact ⟨spec, named, rfl, begins⟩
    · simp at shared
  · rintro ⟨spec, named, rfl, begins⟩
    exact Or.inl ⟨spec, steps, named, begins, rfl⟩

/-- The shared parents are part of every cast. -/
theorem shared_mem_cast_iff {parent : String × Sex} :
    .shared parent ∈ sentence.cast ↔ parent ∈ sharedParents := by
  simp [cast, shared_notMem_wayCast]

/-- The cast has figures that occur in sentences. -/
theorem occurs_of_mem_cast (member : figure ∈ sentence.cast) : figure.Occurs := by
  cases figure with
  | onWay pronoun steps =>
    obtain ⟨spec, _, _, begins⟩ := onWay_mem_cast_iff.mp member
    exact Nat.le_trans begins.length_le spec.length_steps.2
  | shared parent => exact shared_mem_cast_iff.mp member

/-- Nobody plays in a cast twice. -/
theorem nodup_cast (sentence : Sentence) : sentence.cast.Nodup := by
  -- The ways are entered without repetition, and no shared parent is on a way.
  rw [cast, List.nodup_append]
  refine ⟨nodup_foldl_enter List.nodup_nil _, by decide, fun figure onWay other last => ?_⟩
  rintro rfl
  obtain ⟨parent, _, rfl⟩ := List.mem_map.mp last
  exact shared_notMem_wayCast parent onWay

/-- Parents come after their children. -/
theorem Tells.idxOf_lt {parent child : Figure} (tells : sentence.Tells parent child) :
    sentence.cast.idxOf child < sentence.cast.idxOf parent := by
  have onWays : sentence.wayCast <+: sentence.cast := List.prefix_append ..
  cases tells with
  | @step spec named gone step begins =>
    -- The steps are entered from below.
    have layered : Layered sentence.wayCast := by
      have nobody : Layered [] := fun _ _ _ member => by cases member
      rw [wayCast, List.foldl_append]
      exact (nobody.foldl_way sentence.left).foldl_way sentence.right
    have upper : Figure.onWay spec.pronoun (gone ++ [step]) ∈ sentence.wayCast :=
      mem_wayCast_iff.mpr ⟨spec, _, named, begins, rfl⟩
    have lower : Figure.onWay spec.pronoun gone ∈ sentence.wayCast :=
      mem_wayCast_iff.mpr ⟨spec, _, named, (List.prefix_append ..).trans begins, rfl⟩
    rw [idxOf_of_begins onWays lower, idxOf_of_begins onWays upper]
    exact layered _ _ _ upper
  | @shared spec named parent shares =>
    -- The relatives are on the ways, and the shared parents stand behind these.
    have lower : spec.figure ∈ sentence.wayCast :=
      mem_wayCast_iff.mpr ⟨spec, _, named, List.prefix_refl _, rfl⟩
    rw [idxOf_of_begins onWays lower, cast, List.idxOf_append,
      if_neg (shared_notMem_wayCast parent)]
    exact Nat.lt_of_lt_of_le (List.idxOf_lt_length_iff.mpr lower) (Nat.le_add_left ..)

/-- Parents and children are part of the cast. -/
theorem Tells.mem_cast {parent child : Figure} (tells : sentence.Tells parent child) :
    parent ∈ sentence.cast ∧ child ∈ sentence.cast := by
  cases tells with
  | @step spec named gone step begins =>
    exact ⟨onWay_mem_cast_iff.mpr ⟨spec, named, rfl, begins⟩,
      onWay_mem_cast_iff.mpr ⟨spec, named, rfl, (List.prefix_append ..).trans begins⟩⟩
  | @shared spec named parent shares =>
    exact ⟨shared_mem_cast_iff.mpr shares,
      onWay_mem_cast_iff.mpr ⟨spec, named, rfl, List.prefix_refl _⟩⟩

end Sentence

end Kindred
