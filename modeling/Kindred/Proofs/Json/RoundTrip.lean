import Kindred.Proofs.Json.Token

/-! A value that is written and read again is the same one, with the members of its objects in order. -/

namespace Kindred.Json

mutual

/-- A value as it is kept after reading: the members of an object stand in the order of their keys, and of
those with one key the last one is left. -/
def Value.asRead : Value → Value
  | .scalar value => .scalar value
  | .array items => .array (Value.itemsAsRead items)
  | .object members => .object (Value.membersAsRead [] members)

/-- The items of an array as they are kept. -/
def Value.itemsAsRead : List Value → List Value
  | [] => []
  | item :: rest => item.asRead :: Value.itemsAsRead rest

/-- The members of an object as they are kept, with those before them. -/
def Value.membersAsRead (before : List (String × Value)) :
    List (String × Value) → List (String × Value)
  | [] => before
  | (key, value) :: rest => Value.membersAsRead (Value.putMember key value.asRead before) rest

end

namespace Reading

/-- A value is read from its tokens inside any containers that leave room for its own. -/
def Reads (room : Nat) (value : Value) : Prop :=
  ∀ (around : List Frame) (rest : List Token), around.length + room ≤ maxDepth →
    run (.wantValue around) (value.tokens ++ rest) = run (.whole value.asRead around) rest

/-- One token is read at a time. -/
theorem run_cons {reading after : Reading} {token : Token} {rest : List Token}
    (known : next reading token = .ok after) : run reading (token :: rest) = run after rest := by
  simp only [run, known]

/-- The first item of an array is read as any value, as it does not begin with the end of the array. -/
theorem run_wantItem (value : Value) (around : List Frame) (rest : List Token) :
    run (.wantItem around) (value.tokens ++ rest) =
      run (.wantValue (.array [] :: around)) (value.tokens ++ rest) := by
  -- Both read the first token in the same way.
  have same : ∀ token, token ≠ .closeArray →
      next (.wantItem around) token = next (.wantValue (.array [] :: around)) token := by
    intro token notClosed
    cases token
    all_goals first | rfl | exact absurd rfl notClosed
  obtain ⟨first, others, tokens, notClosed⟩ :
      ∃ first others, value.tokens = first :: others ∧ first ≠ .closeArray := by
    rcases value with _ | (_ | _) | (_ | _) <;> simp [Value.tokens]
  rw [tokens, List.cons_append, run, run, same first notClosed]

/-- The items after one of an array are read, and the array is whole. -/
theorem run_items {room : Nat} {items : List Value} (inside : ∀ item ∈ items, Reads room item)
    (held : Value) (before : List Value) {around : List Frame} (rest : List Token)
    (fits : around.length + (room + 1) ≤ maxDepth) :
    run (.whole held (.array before :: around)) (Value.itemTokens items ++ .closeArray :: rest) =
      run (.whole (.array (before.reverse ++ held :: Value.itemsAsRead items)) around) rest := by
  -- Every item joins those before it, newest first.
  induction items generalizing held before with
  | nil =>
    rw [Value.itemTokens, List.nil_append, run_cons rfl, List.reverse_cons, Value.itemsAsRead]
  | cons item items ih =>
    have read := inside item (by simp) (.array (held :: before) :: around)
      (Value.itemTokens items ++ .closeArray :: rest) (by simp only [List.length_cons]; omega)
    rw [Value.itemTokens, List.cons_append, List.cons_append, run_cons rfl, List.append_assoc, read,
      ih (fun other member => inside other (by simp [member])), List.reverse_cons,
      List.append_assoc, List.singleton_append, Value.itemsAsRead]

/-- The members after one of an object are read, and the object is whole. -/
theorem run_members {room : Nat} {members : List (String × Value)}
    (inside : ∀ member ∈ members, Reads room member.2) (key : String) (held : Value)
    (before : List (String × Value)) {around : List Frame} (rest : List Token)
    (fits : around.length + (room + 1) ≤ maxDepth) :
    run (.whole held (.object before key :: around))
        (Value.memberTokens members ++ .closeObject :: rest) =
      run (.whole (.object (Value.membersAsRead (Value.putMember key held before) members)) around)
        rest := by
  -- Every member is put among those before it.
  induction members generalizing key held before with
  | nil => rw [Value.memberTokens, List.nil_append, run_cons rfl, Value.membersAsRead]
  | cons member members ih =>
    obtain ⟨other, value⟩ := member
    have read := inside (other, value) (by simp)
      (.object (Value.putMember key held before) other :: around)
      (Value.memberTokens members ++ .closeObject :: rest) (by simp only [List.length_cons]; omega)
    rw [Value.memberTokens]
    simp only [List.cons_append, List.append_assoc]
    rw [run_cons rfl, run_cons rfl, run_cons rfl, read,
      ih (fun other member => inside other (by simp [member])), Value.membersAsRead]

/-- A value whose containers have room is read from its tokens. -/
theorem reads_of_fits {room : Nat} {value : Value} (fits : Value.Fits room value) :
    Reads room value := by
  -- A container takes one of the places that are left, and its parts have the others.
  induction fits with
  | scalar readable =>
    intro around rest deep
    rw [Value.tokens, List.singleton_append, run_cons rfl, Value.asRead]
  | @array room items inside ih =>
    intro around rest deep
    have opened : next (.wantValue around) .openArray = .ok (.wantItem around) := if_pos (by omega)
    cases items with
    | nil =>
      rw [Value.tokens, List.cons_append, run_cons opened, List.singleton_append, run_cons rfl]
      rfl
    | cons item items =>
      simp only [Value.tokens, List.cons_append, List.append_assoc, List.nil_append]
      rw [run_cons opened, run_wantItem, ih item (by simp) _ _ (by simp only [List.length_cons]; omega),
        run_items (fun other member => ih other (by simp [member])) _ _ _ deep]
      rfl
  | @object room members inside ih =>
    intro around rest deep
    have opened : next (.wantValue around) .openObject = .ok (.wantKey true [] around) :=
      if_pos (by omega)
    cases members with
    | nil =>
      rw [Value.tokens, List.cons_append, run_cons opened, List.singleton_append, run_cons rfl]
      rfl
    | cons member members =>
      simp only [Value.tokens, List.cons_append, List.append_assoc, List.nil_append]
      rw [run_cons opened, run_cons rfl, run_cons rfl,
        ih member (by simp) _ _ (by simp only [List.length_cons]; omega),
        run_members (fun other inRest => ih other (by simp [inRest])) _ _ _ _ deep]
      rfl

end Reading

namespace Value

/-- What is written as a text is read from it. -/
theorem ofText_pretty {value : Value} (fits : Value.Fits Reading.maxDepth value) :
    ofText value.pretty = .ok value.asRead := by
  -- The text has the tokens of the value, and these are read outside all containers.
  have read := Reading.reads_of_fits fits [] [] (by simp)
  rw [List.append_nil] at read
  rw [ofText, Token.ofText_pretty fits]
  simp only [bind, Except.bind, read]
  rfl

/-- The first member of a key is the one found. -/
theorem member?_cons (written : String) (value : Value) (rest : List (String × Value)) (key : String) :
    member? ((written, value) :: rest) key = if key = written then some value else member? rest key := by
  rw [member?, List.lookup_cons, ← member?]
  by_cases same : key = written
  · simp [same]
  · simp [beq_eq_false_iff_ne.mpr same, same]

/-- A member that is put into an object is found there, and the others are found as before. -/
theorem member?_putMember (key other : String) (value : Value) (members : List (String × Value)) :
    member? (putMember key value members) other =
      if other = key then some value else member? members other := by
  induction members with
  | nil => rw [putMember, member?_cons]
  | cons member rest ih =>
    obtain ⟨held, old⟩ := member
    rw [putMember]
    -- It comes in front of the member, in its place or behind it.
    split
    · rw [member?_cons]
    · split
      · rename_i same
        rw [member?_cons, member?_cons, same]
        split <;> rfl
      · rename_i different
        rw [member?_cons, member?_cons, ih]
        by_cases here : other = held
        · rw [if_pos here, if_neg (here ▸ Ne.symm different), if_pos here]
        · rw [if_neg here, if_neg here]

/-- Under every key of an object is found what is written there, if no key is written twice. -/
theorem member?_membersAsRead {before members : List (String × Value)}
    (once : (members.map Prod.fst).Nodup) (key : String) :
    member? (membersAsRead before members) key =
      ((member? members key).map asRead).or (member? before key) := by
  -- What is put later hides what stood there, so the members are gone through from the first one.
  induction members generalizing before with
  | nil => rfl
  | cons member rest ih =>
    obtain ⟨written, value⟩ := member
    obtain ⟨absent, once⟩ := List.nodup_cons.mp once
    rw [membersAsRead, ih once, member?_putMember, member?_cons]
    by_cases here : key = written
    · -- The key does not come again, so the value just put stays.
      have gone : member? rest key = none := by
        refine List.lookup_eq_none_iff.mpr fun member inRest => bne_iff_ne.mpr ?_
        intro same
        have again : written ∈ rest.map Prod.fst :=
          List.mem_map.mpr ⟨member, inRest, by rw [← same, here]⟩
        exact absent again
      rw [gone, if_pos here, if_pos here]
      rfl
    · rw [if_neg here, if_neg here]

end Value

end Kindred.Json
