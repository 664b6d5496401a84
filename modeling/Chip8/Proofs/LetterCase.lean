/-
# Upper case is final

A letter in upper case, or the letters that a letter becomes there, are in upper case
already, in all scripts.  So a text that has been put in upper case once stays as it is
(`upper_upper`), although it may have become longer and two texts may have become one.

The tables are looked at run by run.  What a run is mapped to is a run again, with the
same steps, and it is apart from all runs and all single letters that are mapped
further, in most cases because it lies elsewhere, else because it takes the other one
of every two code points (`settled_upperRuns`).
-/

import Chip8.Text.Case

namespace Chip8
namespace Text

/-- Whether a run maps none of the code points from `low` to `high` in steps of `step`. -/
def CaseRun.misses (r : CaseRun) (low high step : Nat) : Bool :=
  high.blt r.first || r.last.blt low ||
    r.step == 2 && (step == 2 || low == high) && (low + r.first) % 2 == 1

/-- A run that misses a range maps none of its code points. -/
theorem CaseRun.image?_eq_none {r : CaseRun} {low high step code : Nat}
    (h : r.misses low high step = true) (hlow : low ≤ code) (hhigh : code ≤ high)
    (hstep : (code - low) % step = 0) : r.image? code = none := by
  simp only [misses, Bool.or_eq_true, Bool.and_eq_true, beq_iff_eq, Nat.blt_eq] at h
  rw [image?, if_neg]
  rintro ⟨hfirst, hlast, hmod⟩
  rcases h with (h | h) | ⟨⟨hr, hs | hs⟩, hparity⟩
  · omega
  · omega
  · rw [hs] at hstep
    rw [hr] at hmod
    omega
  · rw [hr] at hmod
    omega

/-- Whether the code points from `low` to `high` in steps of `step` are characters that stay as
they are in upper case. -/
def settled (low high step : Nat) : Bool :=
  (decide (high < 0xD800) || decide (0xDFFF < low) && decide (high < 0x110000)) &&
    upperExpansions.all (fun e => high.blt e.1 || e.1.blt low) &&
    upperRuns.all (·.misses low high step)

/-- Runs are mapped to runs that stay as they are. -/
theorem settled_upperRuns : ∀ r ∈ upperRuns, 0 ≤ r.first + r.shift ∧
    settled (r.first + r.shift).toNat (r.last + r.shift).toNat r.step = true := by
  decide +kernel

/-- What a single letter becomes stays as it is. -/
theorem settled_upperExpansions : ∀ e ∈ upperExpansions, ∀ code ∈ e.2,
    settled code code 1 = true := by
  decide +kernel

/-- A code point of a settled range is one of a character and its own upper case. -/
theorem mapCode_of_settled {low high step code : Nat} (h : settled low high step = true)
    (hlow : low ≤ code) (hhigh : code ≤ high) (hstep : (code - low) % step = 0) :
    code.isValidChar ∧ mapCode upperRuns upperExpansions code = [code] := by
  simp only [settled, Bool.and_eq_true, Bool.or_eq_true, decide_eq_true_eq, List.all_eq_true,
    Nat.blt_eq] at h
  obtain ⟨⟨hchar, hexpansions⟩, hruns⟩ := h
  have hfind : upperExpansions.find? (·.1 = code) = none := by
    simp only [List.find?_eq_none, decide_eq_true_eq]
    intro e he
    have := hexpansions e he
    omega
  have himage : upperRuns.findSome? (·.image? code) = none := by
    simp only [List.findSome?_eq_none_iff]
    exact fun r hr => CaseRun.image?_eq_none (hruns r hr) hlow hhigh hstep
  refine ⟨?_, by simp [mapCode, hfind, himage]⟩
  unfold Nat.isValidChar
  omega

/-- What a code point is mapped to is itself, or stays as it is. -/
theorem mapCode_of_mem {code code' : Nat} (h : code' ∈ mapCode upperRuns upperExpansions code) :
    code' = code ∧ mapCode upperRuns upperExpansions code = [code] ∨
      code'.isValidChar ∧ mapCode upperRuns upperExpansions code' = [code'] := by
  cases hfind : upperExpansions.find? (·.1 = code) with
  | some e =>
    have hcode : code' ∈ e.2 := by simpa [mapCode, hfind] using h
    have hsettled := settled_upperExpansions e (List.mem_of_find?_eq_some hfind) code' hcode
    exact .inr (mapCode_of_settled hsettled (Nat.le_refl _) (Nat.le_refl _) (by omega))
  | none =>
    cases himage : upperRuns.findSome? (·.image? code) with
    | none =>
      have hmap : mapCode upperRuns upperExpansions code = [code] := by
        simp [mapCode, hfind, himage]
      rw [hmap, List.mem_singleton] at h
      exact .inl ⟨h, hmap⟩
    | some image =>
      obtain rfl : code' = image := by simpa [mapCode, hfind, himage] using h
      obtain ⟨r, hr, hrun⟩ := List.exists_of_findSome?_eq_some himage
      obtain ⟨hnonneg, hsettled⟩ := settled_upperRuns r hr
      rw [CaseRun.image?] at hrun
      split at hrun
      · rename_i hcode
        obtain rfl := Option.some.inj hrun
        have hstep : (code + r.shift).toNat - (r.first + r.shift).toNat = code - r.first := by omega
        refine .inr (mapCode_of_settled hsettled (by omega) (by omega) ?_)
        rw [hstep]
        exact hcode.2.2
      · cases hrun

/-- A character of an upper case stays as it is. -/
theorem upperChar_of_mem {c d : Char} (h : d ∈ upperChar c) : upperChar d = [d] := by
  obtain ⟨code, hcode, rfl⟩ := List.mem_map.1 h
  rcases mapCode_of_mem hcode with ⟨rfl, hmap⟩ | ⟨hvalid, hmap⟩
  · rw [Char.ofNat_toNat, upperChar, hmap, List.map_singleton, Char.ofNat_toNat]
  · have htoNat : (Char.ofNat code).toNat = code := by
      rw [Char.ofNat, dif_pos hvalid]
      rfl
    rw [upperChar, htoNat, hmap, List.map_singleton]

/-- **A text in upper case is its own upper case.** -/
@[simp] theorem upper_upper (t : Text) : t.upper.upper = t.upper := by
  have hchars (cs : List Char) (hcs : ∀ d ∈ cs, upperChar d = [d]) :
      (cs.map Glyph.char).flatMap (Glyph.mapChar upperChar) = cs.map Glyph.char := by
    induction cs with
    | nil => rfl
    | cons d cs ih =>
      obtain ⟨hd, hrest⟩ := List.forall_mem_cons.1 hcs
      rw [List.map_cons, List.flatMap_cons, ih hrest, Glyph.mapChar, hd]
      rfl
  have hglyph (g : Glyph) : (g.mapChar upperChar).flatMap (Glyph.mapChar upperChar) =
      g.mapChar upperChar := by
    cases g with
    | half k => rfl
    | char c => exact hchars (upperChar c) fun d hd => upperChar_of_mem hd
  simp only [upper, List.flatMap_assoc, hglyph]

end Text
end Chip8
