import Kindred.Proofs.IdSource

/-! However a source is used, short of going back to its first counter, it repeats no identifier but the one with the
largest counter. -/

namespace Kindred

namespace IdSource

/-- What can be asked of a source that does not go back to its first counter. -/
inductive Call where
  | draw
  | observe (id : PersonId)

/-- The identifier that a call brings up: the one that is drawn, or the one that is shown. -/
def broughtUp (source : IdSource) : Call → PersonId
  | .draw => source.draw.1
  | .observe id => id

/-- The source after a call. -/
def afterCall (source : IdSource) : Call → IdSource
  | .draw => source.draw.2
  | .observe id => source.observe id

/-- The source after some calls, one behind the other. -/
def afterCalls (source : IdSource) (calls : List Call) : IdSource :=
  calls.foldl afterCall source

/-- The identifiers that some calls bring up, in their order. -/
def seen (source : IdSource) : List Call → List PersonId
  | [] => []
  -- What a draw makes depends on the calls before it.
  | call :: rest => source.broughtUp call :: (source.afterCall call).seen rest

/-- What a call brings up is passed after it. -/
theorem passed_broughtUp (source : IdSource) (call : Call) :
    (source.afterCall call).Passed (source.broughtUp call) := by
  cases call with
  | draw => exact passed_peek source
  | observe id => exact passed_observe source id

/-- What has been passed stays passed in a call. -/
theorem Passed.afterCall {source : IdSource} {id : PersonId} (passed : source.Passed id) (call : Call) :
    (source.afterCall call).Passed id := by
  cases call with
  | draw => exact passed.draw
  | observe other => exact passed.observe other

/-- What has been passed stays passed along any calls. -/
theorem Passed.afterCalls {source : IdSource} {id : PersonId} (passed : source.Passed id) (calls : List Call) :
    (source.afterCalls calls).Passed id := by
  -- It is passed before each call, hence after it.
  induction calls generalizing source with
  | nil => exact passed
  | cons call rest ih => exact ih (passed.afterCall call)

/-- Whatever came up in some calls is passed after them. -/
theorem passed_of_mem_seen (source : IdSource) {calls : List Call} {id : PersonId} (came : id ∈ source.seen calls) :
    (source.afterCalls calls).Passed id := by
  -- It is passed after the call that brings it up, and stays so.
  induction calls generalizing source with
  | nil => simp [seen] at came
  | cons call rest ih =>
    rcases List.mem_cons.mp came with first | later
    · rw [first]
      exact (passed_broughtUp source call).afterCalls rest
    · exact ih (source.afterCall call) later

/-- Calls leave the label. -/
theorem label_afterCalls (source : IdSource) (calls : List Call) : (source.afterCalls calls).label = source.label := by
  induction calls generalizing source with
  | nil => rfl
  | cons call rest ih =>
    have one : (source.afterCall call).label = source.label := by
      cases call with
      | draw => exact label_draw source
      | observe id => exact label_observe source id
    exact (ih (source.afterCall call)).trans one

/-- With the counter at its largest value a draw makes the identifier that shows this value. -/
theorem draw_afterCalls_of_eq {source : IdSource} {calls : List Call}
    (last : (source.afterCalls calls).next.toNat = maxCount) :
    (source.afterCalls calls).draw.1 = source.numbered maxCount := by
  rw [draw, peek, label_afterCalls, last, numbered]

/-- After any draws and any identifiers that were shown, a draw makes an identifier that came up before exactly if the
counter stands at its largest value and the identifier that shows this value came up. -/
theorem draw_mem_seen_iff (source : IdSource) (calls : List Call) :
    (source.afterCalls calls).draw.1 ∈ source.seen calls ↔
      (source.afterCalls calls).next.toNat = maxCount ∧ source.numbered maxCount ∈ source.seen calls := by
  constructor
  · intro came
    -- Everything that came up has been passed, and below the largest counter a draw makes nothing of that kind.
    have passed := passed_of_mem_seen source came
    have last : (source.afterCalls calls).next.toNat = maxCount := by
      refine Nat.le_antisymm (toNat_le_maxCount _) (Nat.le_of_not_lt fun room => ?_)
      exact passed.ne_peek room rfl
    rw [draw_afterCalls_of_eq last] at came
    exact ⟨last, came⟩
  · intro ⟨last, came⟩
    rw [draw_afterCalls_of_eq last]
    exact came

/-- At the largest counter the identifier that has just been drawn is drawn again, and so is one that has just been
shown. -/
theorem draw_mem_seen_at_largest :
    let source : IdSource := { start := 18446744073709551615 }
    (source.afterCalls [.draw]).draw.1 ∈ source.seen [.draw] ∧
      (source.afterCalls [.observe ⟨"p18446744073709551615"⟩]).draw.1 ∈
        source.seen [.observe ⟨"p18446744073709551615"⟩] := by
  decide

end IdSource

end Kindred
