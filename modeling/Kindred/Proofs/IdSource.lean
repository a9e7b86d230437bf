import Kindred.IdSource

/-! A source of identifiers never makes one again that it has made or been shown. -/

namespace Kindred

/-- The digits of a number have its value. -/
theorem decimalValue_toDigits (n : Nat) : decimalValue (Nat.toDigits 10 n) = n :=
  -- The value is read from the left, as the digits are written.
  Nat.ofDigitChars_ten_toDigits

/-- In front of the digits of a number there is no sign. -/
theorem unsignedDigits_toDigits (n : Nat) :
    unsignedDigits (Nat.toDigits 10 n) = Nat.toDigits 10 n := by
  -- A plus sign is no digit.
  unfold unsignedDigits
  split
  · rename_i sign digits written
    have digit : '+'.isDigit := Nat.isDigit_of_mem_toDigits (b := 10) (n := n) (by decide)
      (by decide) (by simp [written])
    exact absurd digit (by decide)
  · rfl

/-- A counter is read from the way it is written. -/
theorem readCount?_toString {n : Nat} (fits : n ≤ maxCount) :
    readCount? (toString n).toList = some (UInt64.ofNat n) := by
  -- The text is the digits of the number, and these have its value.
  have written : (toString n).toList = Nat.toDigits 10 n := by simp
  have digits : (Nat.toDigits 10 n).all Char.isDigit :=
    List.all_eq_true.mpr fun _ member => Nat.isDigit_of_mem_toDigits (by decide) (by decide) member
  rw [written, readCount?, unsignedDigits_toDigits, decimalValue_toDigits]
  exact if_pos ⟨Nat.toDigits_ne_nil, digits, fits⟩

/-- What stands after a leading part is the rest. -/
theorem Text.afterPart?_append {α : Type} [DecidableEq α] (part rest : List α) :
    Text.afterPart? part (part ++ rest) = some rest := by
  -- Every member of the part meets itself.
  induction part with
  | nil => cases rest <;> rfl
  | cons head part ih => simpa [Text.afterPart?] using ih

namespace IdSource

/-- The identifier of this label with a counter. -/
def numbered (source : IdSource) (count : Nat) : PersonId :=
  ⟨source.label ++ toString count⟩

/-- An identifier shows its counter. -/
theorem countIn?_numbered (source : IdSource) {count : Nat} (fits : count ≤ maxCount) :
    source.countIn? (source.numbered count) = some (UInt64.ofNat count) := by
  -- The label is cut off, and the counter is read from what is left.
  rw [countIn?, numbered, String.toList_append, Text.afterPart?_append, Option.bind_some]
  exact readCount?_toString fits

/-- Identifiers with different counters differ. -/
theorem numbered_inj (source : IdSource) {first second : Nat} (firstFits : first ≤ maxCount)
    (secondFits : second ≤ maxCount) (same : source.numbered first = source.numbered second) :
    first = second := by
  -- The two counters are read from the same text.
  have read := countIn?_numbered source firstFits
  rw [same, countIn?_numbered source secondFits, Option.some.injEq] at read
  have values := congrArg UInt64.toNat read
  simp only [UInt64.toNat_ofNat', maxCount] at values firstFits secondFits
  omega

/-- No counter is larger than the largest one. -/
theorem toNat_le_maxCount (count : UInt64) : count.toNat ≤ maxCount :=
  Nat.le_of_lt_succ (UInt64.toNat_lt count)

/-- A counter that is not at its largest value grows by one. -/
theorem toNat_successor {count : UInt64} (room : count.toNat < maxCount) :
    (successor count).toNat = count.toNat + 1 := by
  -- The sum does not wrap around.
  rw [successor, if_pos room, UInt64.toNat_add]
  simp only [maxCount] at room
  exact Nat.mod_eq_of_lt (by simpa using by omega)

/-- A counter never falls. -/
theorem le_successor (count : UInt64) : count.toNat ≤ (successor count).toNat := by
  by_cases room : count.toNat < maxCount
  · rw [toNat_successor room]
    exact Nat.le_succ _
  · exact Nat.le_of_eq (by rw [successor, if_neg room])

/-- The source makes an identifier no more: a counter that it shows is behind. The largest counter does
not count, as no draw from it is fresh. -/
def Passed (source : IdSource) (id : PersonId) : Prop :=
  ∀ count, count < maxCount → id = source.numbered count → count < source.next.toNat

/-- What a source has passed, every source of its label that stands no lower has passed. -/
theorem Passed.mono {source later : IdSource} {id : PersonId} (passed : source.Passed id)
    (label : later.label = source.label) (further : source.next.toNat ≤ later.next.toNat) :
    later.Passed id := by
  -- The identifiers of both are the same.
  intro count fits same
  have here : id = source.numbered count := by rw [same, numbered, numbered, label]
  exact Nat.lt_of_lt_of_le (passed count fits here) further

/-- A draw leaves the label. -/
theorem label_draw (source : IdSource) : source.draw.2.label = source.label :=
  rfl

/-- What has been passed stays passed in a draw. -/
theorem Passed.draw {source : IdSource} {id : PersonId} (passed : source.Passed id) :
    source.draw.2.Passed id :=
  passed.mono (label_draw source) (le_successor source.next)

/-- Drawing an identifier passes it. -/
theorem passed_peek (source : IdSource) : source.draw.2.Passed source.peek := by
  -- Its counter is the one before the draw, and if that is not the largest, the draw moves it on.
  intro count fits same
  have here := numbered_inj source (toNat_le_maxCount source.next) (Nat.le_of_lt fits) same
  have room : source.next.toNat < maxCount := here ▸ fits
  rw [draw, toNat_successor room]
  omega

/-- What has been passed is not drawn. -/
theorem Passed.ne_peek {source : IdSource} {id : PersonId} (passed : source.Passed id)
    (room : source.next.toNat < maxCount) : id ≠ source.peek := by
  -- The counter would be below itself.
  intro same
  exact Nat.lt_irrefl _ (passed _ room same)

/-- Being shown an identifier leaves the label. -/
theorem label_observe (source : IdSource) (id : PersonId) :
    (source.observe id).label = source.label := by
  unfold observe
  split
  · split <;> rfl
  · rfl

/-- The value of the larger of two counters. -/
theorem toNat_max (first second : UInt64) :
    (max first second).toNat = max first.toNat second.toNat := by
  -- Counters are compared by value.
  by_cases ordered : first ≤ second
  · rw [show max first second = second from if_pos ordered,
      Nat.max_eq_right (UInt64.le_iff_toNat_le.mp ordered)]
  · have reverse : second.toNat ≤ first.toNat :=
      Nat.le_of_not_le fun less => ordered (UInt64.le_iff_toNat_le.mpr less)
    rw [show max first second = first from if_neg ordered, Nat.max_eq_left reverse]

/-- Being shown an identifier never lets the counter fall. -/
theorem le_observe (source : IdSource) (id : PersonId) :
    source.next.toNat ≤ (source.observe id).next.toNat := by
  -- The counter becomes the larger of two.
  unfold observe
  split
  · split
    · rw [toNat_max]
      exact Nat.le_max_left _ _
    · exact Nat.le_refl _
  · exact Nat.le_refl _

/-- What has been passed stays passed when an identifier is shown. -/
theorem Passed.observe {source : IdSource} {id : PersonId} (passed : source.Passed id)
    (other : PersonId) : (source.observe other).Passed id :=
  passed.mono (label_observe source other) (le_observe source other)

/-- An identifier that is shown is passed. -/
theorem passed_observe (source : IdSource) (id : PersonId) : (source.observe id).Passed id := by
  -- The counter is moved to the one after the counter that is read, unless no draw is left there.
  intro count fits same
  have shown : id = source.numbered count := by rw [same, numbered, numbered, label_observe]
  subst shown
  have value : (UInt64.ofNat count).toNat = count := by
    simp only [UInt64.toNat_ofNat', maxCount] at fits ⊢
    omega
  rw [IdSource.observe, countIn?_numbered source (Nat.le_of_lt fits)]
  have following : (UInt64.ofNat count + 1).toNat = count + 1 := by
    rw [UInt64.toNat_add, value]
    simp only [maxCount] at fits
    exact Nat.mod_eq_of_lt (by simpa using by omega)
  simp only [value, if_pos fits, toNat_max, following]
  omega

/-- The source after so many draws. -/
def after (source : IdSource) : Nat → IdSource
  | 0 => source
  | count + 1 => (source.after count).draw.2

/-- The identifiers that the next draws make, in their order. -/
def upcoming (source : IdSource) (count : Nat) : List PersonId :=
  (List.range count).map fun place => (source.after place).peek

/-- None of the next draws is made with the counter at its largest value. -/
def HasRoom (source : IdSource) (count : Nat) : Prop :=
  -- The draws are looked at one by one, each from the source that the ones before it leave.
  ∀ place, place < count → (source.after place).next.toNat < maxCount

/-- One draw more makes one identifier more, the last. -/
theorem upcoming_succ (source : IdSource) (count : Nat) :
    source.upcoming (count + 1) = source.upcoming count ++ [(source.after count).peek] := by
  simp [upcoming, List.range_succ]

/-- Where there is room for a draw more, there is room for the draws before it. -/
theorem HasRoom.before {source : IdSource} {count : Nat} (room : source.HasRoom (count + 1)) :
    source.HasRoom count :=
  fun place less => room place (Nat.lt_succ_of_lt less)

/-- What has been passed stays passed in any number of draws. -/
theorem Passed.after {source : IdSource} {id : PersonId} (passed : source.Passed id)
    (count : Nat) : (source.after count).Passed id := by
  induction count with
  | zero => exact passed
  | succ count ih => exact ih.draw

/-- What has been passed is not among the next draws. -/
theorem Passed.not_mem_upcoming {source : IdSource} {id : PersonId} {count : Nat}
    (passed : source.Passed id) (room : source.HasRoom count) : id ∉ source.upcoming count := by
  -- It is passed before each of the draws.
  intro member
  obtain ⟨place, drawn, same⟩ := List.mem_map.mp member
  exact (passed.after place).ne_peek (room place (List.mem_range.mp drawn)) same.symm

/-- What is drawn is passed after the draws. -/
theorem passed_after {source : IdSource} {id : PersonId} {count : Nat} (drawn : id ∈ source.upcoming count) :
    (source.after count).Passed id := by
  -- The last draw passes its identifier, and leaves the others passed.
  induction count with
  | zero => simp [upcoming] at drawn
  | succ count ih =>
    rw [upcoming_succ, List.mem_append, List.mem_singleton] at drawn
    rcases drawn with earlier | last
    · exact (ih earlier).draw
    · exact last ▸ passed_peek (source.after count)

/-- The identifiers of several draws are different. -/
theorem HasRoom.nodup_upcoming {source : IdSource} {count : Nat} (room : source.HasRoom count) :
    (source.upcoming count).Nodup := by
  -- The draws before the last one have been passed when it is made.
  induction count with
  | zero => simp [upcoming]
  | succ count ih =>
    rw [upcoming_succ, List.nodup_append]
    refine ⟨ih room.before, by simp, fun id drawn last member => ?_⟩
    rw [List.mem_singleton.mp member]
    exact (passed_after drawn).ne_peek (room count (Nat.lt_succ_self count))

/-- The counter after a draw is larger by one, or stays at its largest value. -/
theorem toNat_successor_eq (count : UInt64) :
    (successor count).toNat = min (count.toNat + 1) maxCount := by
  by_cases room : count.toNat < maxCount
  · rw [toNat_successor room, Nat.min_eq_left room]
  · rw [successor, if_neg room]
    have most := toNat_le_maxCount count
    omega

/-- Draws leave the label. -/
theorem label_after (source : IdSource) (count : Nat) : (source.after count).label = source.label := by
  induction count with
  | zero => rfl
  | succ count ih => rw [after, label_draw, ih]

/-- The counter after some draws is larger by their number, or stays at its largest value. -/
theorem toNat_next_after (source : IdSource) (count : Nat) :
    (source.after count).next.toNat = min (source.next.toNat + count) maxCount := by
  induction count with
  | zero => exact (Nat.min_eq_left (toNat_le_maxCount source.next)).symm
  | succ count ih =>
    have last : (source.after (count + 1)).next = successor (source.after count).next := rfl
    rw [last, toNat_successor_eq, ih]
    omega

/-- The draws count upwards, and repeat the largest counter. -/
theorem peek_after (source : IdSource) (count : Nat) :
    (source.after count).peek = source.numbered (min (source.next.toNat + count) maxCount) := by
  rw [peek, label_after, toNat_next_after, numbered]

/-- Of two different identifiers the one that is drawn first is drawn before the other one, whichever draws
make them. -/
theorem lt_of_peek_after_eq (source : IdSource) {first second one other : Nat} (less : first < second)
    (differ : (source.after second).peek ≠ (source.after first).peek)
    (sameOne : (source.after one).peek = (source.after first).peek)
    (sameOther : (source.after other).peek = (source.after second).peek) : one < other := by
  -- Only draws with the largest counter repeat an identifier, and they come last.
  simp only [peek_after] at differ sameOne sameOther
  have counts := numbered_inj source (Nat.min_le_right ..) (Nat.min_le_right ..) sameOne
  have counts' := numbered_inj source (Nat.min_le_right ..) (Nat.min_le_right ..) sameOther
  refine Nat.lt_of_not_le fun late => differ (congrArg source.numbered ?_)
  omega

/-- The counter has a different value in each of the next draws: only the last one may be made with the
largest. -/
def HasCounters (source : IdSource) (count : Nat) : Prop :=
  source.next.toNat + count - 1 ≤ maxCount

/-- Such draws count upwards. -/
theorem HasCounters.peek_after {source : IdSource} {count place : Nat}
    (counters : source.HasCounters count) (inside : place < count) :
    (source.after place).peek = source.numbered (source.next.toNat + place) := by
  have fits : source.next.toNat + place ≤ maxCount := by
    unfold HasCounters at counters
    omega
  rw [IdSource.peek_after, Nat.min_eq_left fits]

/-- Such draws make different identifiers. -/
theorem HasCounters.peek_after_inj {source : IdSource} {count first second : Nat}
    (counters : source.HasCounters count) (one : first < count) (other : second < count)
    (same : (source.after first).peek = (source.after second).peek) : first = second := by
  rw [counters.peek_after one, counters.peek_after other] at same
  unfold HasCounters at counters
  have counts := numbered_inj source (by omega) (by omega) same
  omega

end IdSource

end Kindred
