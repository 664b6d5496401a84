/-
# Loading programs

A program is a row of bytes that is copied to `0x200`, after a reset.  Bytes and
length are checked before anything is touched, so a load that is refused leaves
the machine as it was.

A program file is read only as far as is needed to see that it does not fit: one
byte more than the capacity.  What is reported then is its full size.
-/

import Chip8.Machine

namespace Chip8

/-- Why a program is not loaded. -/
inductive LoadError where
  /-- A number that is no byte is among the data. -/
  | notBytes
  /-- The program does not fit. -/
  | fault (f : Fault)
  deriving DecidableEq, Repr

/-- The wording of a refusal. -/
def LoadError.message : LoadError → String
  | .notBytes => "bytes must be in range(0, 256)"
  | .fault f => f.message

namespace Machine

/-- Loads a program into a machine that is reset for it. -/
def load (m : Machine) (program : List Int) : Except LoadError Machine :=
  if program.any (fun b => b < 0 || 255 < b) then .error .notBytes
  else if capacity < program.length then
    .error (.fault (.programTooLarge program.length capacity))
  else
    let m := m.reset
    let (memory, _) := m.memory.load programStart program
    .ok { m with memory, programSize := program.length }

/-- The machine that a load of bytes that fit leads to: one that is reset, with the program over
the font's memory. -/
def loaded (m : Machine) (program : List Int) : Machine :=
  { m.reset with
    memory := (Font.memory.load programStart program).1, programSize := program.length }

/-- A load that succeeds was one of bytes that fit. -/
theorem load_eq_ok {m next : Machine} {program : List Int} (h : m.load program = .ok next) :
    (∀ b ∈ program, 0 ≤ b ∧ b ≤ 255) ∧ program.length ≤ capacity ∧ next = m.loaded program := by
  unfold load at h
  split at h
  · cases h
  · rename_i hbytes
    split at h
    · cases h
    · rename_i hlength
      cases h
      refine ⟨fun b hb => ?_, by omega, rfl⟩
      simp only [List.any_eq_true, not_exists, not_and] at hbytes
      have hb := hbytes b hb
      simp only [Bool.or_eq_true, decide_eq_true_eq] at hb
      omega

/-- Bytes that fit are loaded. -/
theorem load_of_fits (m : Machine) {program : List Int} (hbytes : ∀ b ∈ program, 0 ≤ b ∧ b ≤ 255)
    (hlength : program.length ≤ capacity) : m.load program = .ok (m.loaded program) := by
  have hany : (program.any fun b => b < 0 || 255 < b) = false := by
    rw [List.any_eq_false]
    intro b hb
    have := hbytes b hb
    simp only [Bool.or_eq_true, decide_eq_true_eq]
    omega
  rw [load, hany, if_neg Bool.false_ne_true, if_neg (Nat.not_lt.2 hlength)]
  rfl

/-- Whether a program is refused, and why, is up to the program alone. -/
theorem load_eq_or (program : List Int) :
    (∃ e, ∀ m : Machine, m.load program = .error e) ∨
      ∀ m : Machine, m.load program = .ok (m.loaded program) := by
  unfold load
  split
  · exact .inl ⟨_, fun _ => rfl⟩
  · split
    · exact .inl ⟨_, fun _ => rfl⟩
    · exact .inr fun _ => rfl

/-- How much of a program file is read. -/
def fileWindow : Nat := capacity + 1

/-- Loads the contents of a program file. -/
def loadFile (m : Machine) (contents : List UInt8) : Except LoadError Machine :=
  let read := contents.take fileWindow
  if capacity < read.length then .error (.fault (.programTooLarge contents.length capacity))
  else m.load (read.map fun b => (b.toNat : Int))

end Machine
end Chip8
