/-
# Values that are nested too deep

A value is written out only if not too many collections stand inside each other at it.
The writer has a budget, which it spends on its way down, and it takes the same way as
`Nests`: a value that is refused for its depth has at least so many values in each
other (`exists_nests_of_text`).  What is shown of a set is in it, whatever its order,
and a collection that is met again inside itself costs nothing.
-/

import Chip8.Value.Text

namespace Chip8

/-! ### Steps that fail -/

/-- Two steps fail if the first one does, or the second one with what the first one gives. -/
theorem of_bind_eq_error {ε α β : Type} {x : Except ε α} {f : α → Except ε β} {e : ε}
    (h : (x >>= f) = .error e) : x = .error e ∨ ∃ a, x = .ok a ∧ f a = .error e := by
  cases x with
  | error e' => exact .inl (congrArg Except.error (Except.error.inj h))
  | ok a => exact .inr ⟨a, rfl, h⟩

/-- What is made of a result does not refuse it. -/
theorem of_map_eq_error {ε α β : Type} {x : Except ε α} {f : α → β} {e : ε}
    (h : x.map f = .error e) : x = .error e := by
  cases x with
  | error e' => exact congrArg Except.error (Except.error.inj h)
  | ok a => cases h

/-- A refusal that was put in other words was a refusal before. -/
theorem exists_of_mapError_eq_error {ε ε' α : Type} {x : Except ε α} {f : ε → ε'} {e : ε'}
    (h : x.mapError f = .error e) : ∃ e', x = .error e' ∧ f e' = e := by
  cases x with
  | error e' => exact ⟨e', rfl, Except.error.inj h⟩
  | ok a => cases h

/-- What is done for each member of a list fails if it fails for one of them. -/
theorem exists_of_mapM_eq_error {ε α β : Type} {f : α → Except ε β} {l : List α} {e : ε}
    (h : l.mapM f = .error e) : ∃ a ∈ l, f a = .error e := by
  induction l with
  | nil => cases h
  | cons a l ih =>
    rw [List.mapM_cons] at h
    rcases of_bind_eq_error h with ha | ⟨b, -, h⟩
    · exact ⟨a, List.mem_cons_self .., ha⟩
    · rcases of_bind_eq_error h with hl | ⟨bs, -, h⟩
      · obtain ⟨a', ha', hf⟩ := ih hl
        exact ⟨a', List.mem_cons_of_mem _ ha', hf⟩
      · cases h

/-! ### What stands in a collection -/

/-- The values that stand in a collection, its keys among them. -/
def Collection.values : Collection → List Value
  | .list items | .set items => items
  | .pairs entries | .map entries => entries.flatMap fun e => [e.1, e.2]

/-- By how much a collection is deeper than what stands in it.  A pair in a list counts as one, and
so does the row of what is in a set. -/
def Collection.levels : Collection → Nat
  | .list _ | .map _ => 1
  | .pairs _ | .set _ => 2

/-- A collection takes up one level at least. -/
theorem Collection.levels_pos (c : Collection) : 0 < c.levels := by
  cases c <;> simp [levels]

/-- At a value so many values stand inside each other. -/
inductive Document.Nests (d : Document) : Nat → Value → Prop
  | here (v : Value) : d.Nests 0 v
  | inside {k n : Nat} {v : Value} (hv : v ∈ (d.collection k).values) (h : d.Nests n v) :
    d.Nests (n + (d.collection k).levels) (.collection k)

/-- What is shown of a set is in it. -/
theorem Value.mem_of_mem_ordered {items : List Value} {v : Value} (h : v ∈ ordered items) :
    v ∈ items := by
  unfold ordered at h
  split at h
  · exact h
  · obtain ⟨⟨slot, v⟩, hmem, rfl⟩ := List.mem_map.1 h
    rw [List.mem_mergeSort] at hmem
    exact (List.of_mem_zip hmem).2

/-- The keys and the values of a mapping are among what it holds. -/
theorem Collection.mem_values_of_mem {entries : List (Value × Value)} {entry : Value × Value}
    {v : Value} (hentry : entry ∈ entries) (hv : v = entry.1 ∨ v = entry.2) :
    v ∈ entries.flatMap fun e => [e.1, e.2] := by
  refine List.mem_flatMap.2 ⟨entry, hentry, ?_⟩
  rcases hv with rfl | rfl <;> simp

/-! ### What is not written out -/

/-- A collection is not written out only if a value in it is not. -/
theorem Collection.exists_of_form_eq_error {inner : Value → Except WritingError String}
    {c : Collection} {e : WritingError} (h : c.form inner = .error e) :
    ∃ v ∈ c.values, inner v = .error e := by
  cases c with
  | list items =>
    rcases of_bind_eq_error h with h | ⟨_, -, h⟩
    · exact exists_of_mapM_eq_error h
    · cases h
  | pairs entries | map entries =>
    rcases of_bind_eq_error h with h | ⟨_, -, h⟩
    · obtain ⟨entry, hentry, h⟩ := exists_of_mapM_eq_error h
      rcases of_bind_eq_error h with hkey | ⟨_, -, h⟩
      · exact ⟨entry.1, mem_values_of_mem hentry (.inl rfl), hkey⟩
      · rcases of_bind_eq_error h with hvalue | ⟨_, -, h⟩
        · exact ⟨entry.2, mem_values_of_mem hentry (.inr rfl), hvalue⟩
        · cases h
    · cases h
  | set items =>
    rw [form] at h
    split at h
    · cases h
    · rcases of_bind_eq_error h with h | ⟨_, -, h⟩
      · obtain ⟨v, hv, h⟩ := exists_of_mapM_eq_error h
        exact ⟨v, Value.mem_of_mem_ordered hv, h⟩
      · cases h

/-- An integer is not written out for its length, never for its depth. -/
theorem Value.digits_ne_tooDeep (n : Int) : digits n ≠ .error .tooDeep := by
  unfold digits
  by_cases h : Nat.pow 10 writtenDigits ≤ n.natAbs
  · simp only [if_pos h]
    exact fun h => nomatch h
  · simp only [if_neg h]
    exact fun h => nomatch h

namespace Document

variable {d : Document} {v w : Value} {n : Nat}

/-- What stands in a collection has so much less of the depth left. -/
theorem innerIn_collection (d : Document) (depth : Nat) (around : List Nat) (k : Nat) :
    d.innerIn (depth + 1) around (.collection k) =
      if around.contains k then .ok (d.collection k).dots
      else (d.collection k).form
        fun v => d.innerIn (depth + 1 - (d.collection k).levels) (k :: around) v := by
  rw [innerIn.eq_def]
  by_cases h : around.contains k
  · simp only [if_pos h]
  · simp only [if_neg h]
    cases d.collection k with
    | list items | map entries => simp only [Collection.levels, Nat.add_sub_cancel]
    | pairs entries | set items =>
      cases depth with
      | zero => simp only [Collection.levels, Nat.zero_add, Nat.reduceSub]
      | succ depth =>
        simp only [Collection.levels, Nat.add_sub_cancel, Nat.add_assoc, Nat.reduceAdd]

/-- **What is not written out for its depth is as deep as that.** -/
theorem exists_nests_of_innerIn {depth : Nat} {around : List Nat} {v : Value}
    (h : d.innerIn depth around v = .error .tooDeep) : ∃ n, depth ≤ n ∧ d.Nests n v := by
  induction depth using Nat.strongRecOn generalizing around v with
  | ind depth ih =>
    cases depth with
    | zero => exact ⟨0, Nat.le_refl 0, .here v⟩
    | succ depth =>
      cases v with
      | collection k =>
        rw [innerIn_collection] at h
        split at h
        · exact nomatch h
        · obtain ⟨v, hv, h⟩ := Collection.exists_of_form_eq_error h
          have hlevels := (d.collection k).levels_pos
          obtain ⟨n, hn, hnests⟩ := ih _ (by omega) h
          exact ⟨n + (d.collection k).levels, by omega, .inside hv hnests⟩
      | int n =>
        rw [innerIn.eq_def] at h
        exact absurd h (Value.digits_ne_tooDeep n)
      | null | bool | float | str | date | moment | bytes =>
        rw [innerIn.eq_def] at h
        cases h

/-- **A value that is not written out for its depth** has at least so many values in each other. -/
theorem exists_nests_of_text (h : d.text v = .error .tooDeep) :
    ∃ n, writtenDepth ≤ n ∧ d.Nests n v := by
  unfold text at h
  split at h
  · cases h
  · cases h
  · cases h
  · exact exists_nests_of_innerIn (of_map_eq_error h)

/-- Nothing stands inside an integer. -/
theorem text_int_ne_tooDeep (d : Document) (n : Int) : d.text (.int n) ≠ .error .tooDeep := by
  intro h
  obtain ⟨depth, hdepth, hnests⟩ := exists_nests_of_text h
  cases hnests
  exact absurd hdepth (by decide)

end Document

end Chip8
