/-
# Sections of the wrong shape

A section that is there should be a mapping, or null where nothing is chosen.  The
section `keymap` is held to that.  The other two are asked first whether they count as
something, so it depends on the value: one that is the zero or the empty value of its
type (`Document.Hollow`) is taken for a section that is missing, and any other one that
is no mapping is refused (`parse_misshapen`).

What is refused is refused before anything in any section is read.  What is taken for
missing leaves no trace: the rest of the document is read as it is without it.
-/

import Chip8.Proofs.ConfigErrors

namespace Chip8

namespace Document

/-- A section that is there, and neither null nor a mapping. -/
structure Misshapen (d : Document) (heading : String) (v : Value) : Prop where
  isThere : d.section? heading = some v
  ne_null : v ≠ .null
  noMapping : d.entries? v = none

/-- The zero or the empty value of a type. -/
inductive Hollow (d : Document) : Value → Prop
  | no : Hollow d (.bool false)
  | zero : Hollow d (.int 0)
  | float {x : Float} (h : (x == 0) = true) : Hollow d (.float x)
  | str : Hollow d (.str ⟨[]⟩)
  | bytes : Hollow d (.bytes [])
  | collection {k : Nat} (h : (d.collection k).isEmpty = true) : Hollow d (.collection k)

variable {d : Document} {v : Value} {heading : String} {entries : List (Value × Value)}

/-- A value counts as nothing just if it is null or hollow. -/
theorem isTruthy_eq_false_iff : d.isTruthy v = false ↔ v = .null ∨ d.Hollow v := by
  constructor
  · intro h
    cases v with
    | null => exact .inl rfl
    | bool b =>
      obtain rfl : b = false := h
      exact .inr .no
    | int n =>
      obtain rfl : n = 0 := by simpa [isTruthy] using h
      exact .inr .zero
    | float x => exact .inr (.float (by simpa [isTruthy, bne] using h))
    | str s =>
      obtain ⟨glyphs⟩ := s
      obtain rfl : glyphs = [] := by simpa [isTruthy, Text.isEmpty] using h
      exact .inr .str
    | bytes bs =>
      obtain rfl : bs = [] := by simpa [isTruthy] using h
      exact .inr .bytes
    | collection k => exact .inr (.collection (by simpa [isTruthy] using h))
    | date | moment => cases h
  · rintro (rfl | h)
    · rfl
    · cases h with
      | no | zero | str | bytes => rfl
      | float h => simp [isTruthy, bne, h]
      | collection h => simp [isTruthy, h]

/-- A section of the wrong shape counts as true unless it is hollow. -/
theorem Misshapen.isTruthy_iff (h : d.Misshapen heading v) : d.isTruthy v = true ↔ ¬d.Hollow v := by
  have hempty : d.isTruthy v = false ↔ d.Hollow v := by
    rw [isTruthy_eq_false_iff, or_iff_right h.ne_null]
  rw [← hempty, Bool.not_eq_false]

/-- A section is looked up among the entries of the root. -/
theorem lookup?_of_entries (hroot : d.entries? d.root = some entries) (name : String) :
    lookup? entries name = d.section? name := by
  rw [section?, hroot]
  rfl

end Document

namespace Config

variable {d : Document} {v : Value} {heading : String} {entries : List (Value × Value)}

/-- A document that is a mapping is read section by section. -/
theorem parse_of_entries (hroot : d.entries? d.root = some entries) :
    parse d = do
      let machineEntries ← sectionEntries d entries "machine"
      let displayEntries ← sectionEntries d entries "display"
      let machine ← machine d machineEntries
      let display ← display d displayEntries
      let keymap ← keymap d ((lookup? entries "keymap").getD .null)
      return { machine, display, keymap } := by
  unfold parse
  extract_lets go
  split
  · rename_i hnull
    rw [hnull] at hroot
    cases hroot
  · rw [hroot]
    rfl

/-- What is accepted consists of what its three sections give. -/
theorem exists_of_parse_eq_ok {c : SystemConfig} (h : parse d = .ok c) :
    ∃ machineEntries displayEntries, machine d machineEntries = .ok c.machine ∧
      display d displayEntries = .ok c.display ∧
      keymap d ((d.section? "keymap").getD .null) = .ok c.keymap := by
  rcases parse_cases d with ⟨-, hparse⟩ | ⟨entries, hsections, hparse⟩
  · rw [h] at hparse
    cases hparse
  · rw [hparse] at h
    obtain ⟨machineEntries, -, h⟩ := exists_of_bind_eq_ok h
    obtain ⟨displayEntries, -, h⟩ := exists_of_bind_eq_ok h
    obtain ⟨machine, hmachine, h⟩ := exists_of_bind_eq_ok h
    obtain ⟨display, hdisplay, h⟩ := exists_of_bind_eq_ok h
    obtain ⟨keymap, hkeymap, h⟩ := exists_of_bind_eq_ok h
    obtain rfl := Except.ok.inj h
    exact ⟨machineEntries, displayEntries, hmachine, hdisplay, hsections "keymap" ▸ hkeymap⟩

/-- A section that is misshapen is read as one without entries if it is hollow, and refused if it is
not. -/
theorem sectionEntries_of_misshapen (hroot : d.entries? d.root = some entries)
    (h : d.Misshapen heading v) :
    (d.Hollow v → sectionEntries d entries heading = .ok []) ∧
      (¬d.Hollow v → sectionEntries d entries heading = .error (.sectionShape heading)) := by
  rw [sectionEntries, Document.lookup?_of_entries hroot, h.isThere]
  constructor
  · intro hv
    have htruthy : d.isTruthy v = false := Document.isTruthy_eq_false_iff.2 (.inr hv)
    simp [htruthy]
  · intro hv
    simp [h.isTruthy_iff.2 hv, h.noMapping]

/-- A section is refused for its shape and for nothing else. -/
theorem eq_of_sectionEntries_eq_error {e : ConfigError}
    (h : sectionEntries d entries heading = .error e) : e = .sectionShape heading := by
  unfold sectionEntries at h
  split at h
  · cases h
  · split at h
    · split at h
      · cases h
      · exact (Except.error.inj h).symm
    · cases h

/-- **Sections of the wrong shape.**  Of a section that is neither null nor a mapping it depends on
the value.  If that is not the zero or the empty value of its type, the document is refused for a
shape, whatever else it contains; if it is, the section counts for nothing, and the rest of the
document is read without it. -/
theorem parse_misshapen {d : Document} {entries : List (Value × Value)}
    (hroot : d.entries? d.root = some entries) :
    (∀ heading ∈ ["machine", "display"], ∀ v, d.Misshapen heading v → ¬d.Hollow v →
      ∃ e, parse d = .error e ∧ e.kind = .badValue ∧
        (e = .sectionShape "machine" ∨ e = .sectionShape "display")) ∧
    (∀ v, d.Misshapen "machine" v → d.Hollow v → parse d = do
      let display ← display d (← sectionEntries d entries "display")
      let keymap ← keymap d ((lookup? entries "keymap").getD .null)
      return { machine := {}, display, keymap }) ∧
    ∀ v, d.Misshapen "display" v → d.Hollow v → parse d = do
      let machine ← machine d (← sectionEntries d entries "machine")
      let keymap ← keymap d ((lookup? entries "keymap").getD .null)
      return { machine, display := {}, keymap } := by
  have hparse := parse_of_entries hroot
  refine ⟨fun heading hheading v hv hfull => ?_, fun v hv hhollow => ?_, fun v hv hhollow => ?_⟩
  · have hrefused := (sectionEntries_of_misshapen hroot hv).2 hfull
    cases hmachine : sectionEntries d entries "machine" with
    | error e =>
      obtain rfl := eq_of_sectionEntries_eq_error hmachine
      exact ⟨_, by rw [hparse, hmachine]; rfl, rfl, .inl rfl⟩
    | ok inside =>
      -- The first section is looked at first; it is one, so the bad one is the second.
      have hdisplay : heading = "display" := by
        rcases List.mem_cons.1 hheading with rfl | hheading
        · rw [hmachine] at hrefused
          cases hrefused
        · exact List.mem_singleton.1 hheading
      subst hdisplay
      exact ⟨_, by rw [hparse, hmachine, hrefused]; rfl, rfl, .inr rfl⟩
  · rw [hparse, (sectionEntries_of_misshapen hroot hv).1 hhollow]
    rfl
  · rw [hparse, (sectionEntries_of_misshapen hroot hv).1 hhollow]
    rfl

/-- A document with an empty list for its first section and a date for its second one. -/
def listAndDate : Document where
  collections := #[.map [(.str "machine", .collection 1), (.str "display", .date ⟨2024, 2, 29⟩)],
    .list []]
  root := .collection 0

/-- The list is taken for a section and the date is refused. -/
theorem parse_misshapen_list_date :
    listAndDate.entries? listAndDate.root =
      some [(.str "machine", .collection 1), (.str "display", .date ⟨2024, 2, 29⟩)] ∧
    (listAndDate.Misshapen "display" (.date ⟨2024, 2, 29⟩) ∧
      ¬listAndDate.Hollow (.date ⟨2024, 2, 29⟩) ∧
      ∃ e, parse listAndDate = .error e ∧ e.kind = .badValue ∧
        (e = .sectionShape "machine" ∨ e = .sectionShape "display")) ∧
    listAndDate.Misshapen "machine" (.collection 1) ∧ listAndDate.Hollow (.collection 1) ∧
      parse listAndDate = do
        let display ← display listAndDate (← sectionEntries listAndDate
          [(.str "machine", .collection 1), (.str "display", .date ⟨2024, 2, 29⟩)] "display")
        let keymap ← keymap listAndDate .null
        return { machine := {}, display, keymap } := by
  have hdate : listAndDate.Misshapen "display" (.date ⟨2024, 2, 29⟩) := ⟨rfl, by simp, rfl⟩
  have hfull : ¬listAndDate.Hollow (.date ⟨2024, 2, 29⟩) := fun h => by cases h
  have hlist : listAndDate.Misshapen "machine" (.collection 1) := ⟨rfl, by simp, rfl⟩
  have hhollow : listAndDate.Hollow (.collection 1) := .collection rfl
  obtain ⟨hrefused, hmissing, -⟩ := parse_misshapen (d := listAndDate) rfl
  exact ⟨rfl, ⟨hdate, hfull, hrefused "display" (by simp) _ hdate hfull⟩, hlist, hhollow,
    hmissing _ hlist hhollow⟩

/-- **An empty list is taken for a section.**  It is there and no mapping, and the document is
accepted with every default. -/
theorem parse_empty_list :
    let d : Document := {
      collections := #[.map [(.str "machine", .collection 1)], .list []], root := .collection 0 }
    d.Misshapen "machine" (.collection 1) ∧ parse d = .ok {} :=
  ⟨⟨rfl, by simp, rfl⟩, rfl⟩

end Config
end Chip8
