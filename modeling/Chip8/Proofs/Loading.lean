/-
# Loading erases history

`Machine.atStart` is a machine at the start of a program, written out part by
part.  Of what the machine has been through, three things enter it: how it scans
for keys, which keys are down, and where the random generator stands.

`load_eq_atStart` says that a load leads there from anywhere.  The fields follow
one by one from the reset; what needs an argument is the memory.  A block load
replaces the bytes from its start on and no others (`Memory.exists_load_eq`), and
font and program, which lie apart, are two block loads over an empty memory
(`Memory.load_font_program`).  Two machines that agree on the three things are
therefore one and the same after a load (`load_erases_history`).
-/

import Mathlib.Data.List.GetD
import Chip8.Proofs.Faults

namespace Chip8

/-- The memory at the start of a program: the font at its place, the program from `0x200` on, and
zero elsewhere. -/
def Memory.image (program : List UInt8) : Memory 4096 :=
  ⟨Vector.ofFn fun a : Address =>
    if 0x050 ≤ a.val ∧ a.val < 0x0A0 then Font.bytes.getD (a.val - 0x050) 0
    else if 0x200 ≤ a.val then program.getD (a.val - 0x200) 0
    else 0⟩

/-- A machine at the start of a program. -/
def Machine.atStart (keyScan : KeyScan) (keypad : Keypad) (random : Twister)
    (program : List UInt8) : Machine where
  regs := {
    v := Vector.replicate 16 0
    i := 0
    pc := 0x200
    sp := 0
    stack := Vector.replicate 16 0
    keyWait := none }
  memory := Memory.image program
  screen := { rows := Vector.replicate 32 (Vector.replicate 64 false), dirty := true }
  keypad := keypad
  timers := { delay := 0, sound := 0 }
  random := random
  keyScan := keyScan
  halted := false
  fault := none
  faultText := none
  cycles := 0
  programSize := program.length

/-! ### Memory -/

namespace Memory

variable {size : Nat}

/-- A memory after a load holds the font, the program and zeros, each in its place. -/
theorem get_image (program : List UInt8) (a : Address) :
    (image program).get a =
      if 0x050 ≤ a.val ∧ a.val < 0x0A0 then Font.bytes.getD (a.val - 0x050) 0
      else if 0x200 ≤ a.val then program.getD (a.val - 0x200) 0
      else 0 := by
  rw [get, Cells.get, Fin.getElem_fin]
  exact Vector.getElem_ofFn _

/-- A byte inside the memory is never refused. -/
theorem write_toNat (m : Memory size) (a : Fin size) (b : UInt8) :
    m.write (a.val : Nat) b.toNat = .ok (m.set a b) := by
  rw [write, index?_eq_some.2 rfl, byte?_toNat]

/-- **A block load replaces the bytes from its start on and no others.** -/
theorem exists_load_eq (m : Memory size) (start : Nat) (bytes : List UInt8)
    (h : start + bytes.length ≤ size) :
    ∃ k : Memory size, m.load start (bytes.map fun b => (b.toNat : Int)) = (k, none) ∧
      ∀ a : Fin size, k.get a =
        if start ≤ a.val then bytes.getD (a.val - start) (m.get a) else m.get a := by
  induction bytes generalizing m start with
  | nil => exact ⟨m, rfl, fun a => by rw [List.getD_nil, ite_self]⟩
  | cons b bytes ih =>
    rw [List.length_cons] at h
    have hwrite := m.write_toNat ⟨start, by omega⟩ b
    obtain ⟨k, hload, hget⟩ := ih (m.set ⟨start, by omega⟩ b) (start + 1) (by omega)
    refine ⟨k, ?_, fun a => ?_⟩
    · rw [List.map_cons, load, hwrite, ← hload]
      rfl
    · rw [hget, get_set]
      rcases Nat.lt_trichotomy a.val start with hlt | heq | hgt
      · -- Before the block nothing is stored.
        rw [if_neg (by omega), if_neg (Fin.ne_of_val_ne (show start ≠ a.val by omega)),
          if_neg (by omega)]
      · -- The first byte is stored now and stays.
        rw [if_neg (by omega), if_pos (Fin.ext heq.symm), if_pos (by omega), heq, Nat.sub_self,
          List.getD_cons_zero]
      · rw [if_pos (by omega), if_neg (Fin.ne_of_val_ne (show start ≠ a.val by omega)),
          if_pos (by omega), show a.val - start = a.val - (start + 1) + 1 by omega,
          List.getD_cons_succ]

/-- The font and a program over an empty memory. -/
theorem load_font_program {program : List UInt8} (h : program.length ≤ Machine.capacity) :
    (Font.memory.load Machine.programStart (program.map fun b => (b.toNat : Int))).1 =
      image program := by
  obtain ⟨font, hfont, hfontGet⟩ :=
    (zero 4096).exists_load_eq 0x050 Font.bytes (by decide)
  obtain ⟨loaded, hloaded, hget⟩ := font.exists_load_eq 0x200 program
    (by rw [Machine.capacity, Machine.programStart] at h; omega)
  have hfontLength : Font.bytes.length = 80 := Font.length_bytes
  rw [Font.memory, show Font.start = 0x050 from rfl, hfont,
    show Machine.programStart = 0x200 from rfl, hloaded]
  refine ext_get fun a => ?_
  rw [hget, hfontGet, get_image, get_zero]
  by_cases hprogram : 0x200 ≤ a.val
  · -- A program starts after the font, and what it does not fill is zero.
    rw [if_pos hprogram, if_pos (show 0x050 ≤ a.val by omega),
      List.getD_eq_default Font.bytes _ (by omega),
      if_neg (show ¬(0x050 ≤ a.val ∧ a.val < 0x0A0) by omega), if_pos hprogram]
  · rw [if_neg hprogram]
    by_cases hstart : 0x050 ≤ a.val
    · rw [if_pos hstart]
      by_cases hend : a.val < 0x0A0
      · rw [if_pos ⟨hstart, hend⟩]
      · rw [if_neg (mt And.right hend), if_neg hprogram,
          List.getD_eq_default Font.bytes _ (by omega)]
    · rw [if_neg hstart, if_neg (mt And.left hstart), if_neg hprogram]

end Memory

/-! ### The machine -/

namespace Machine

/-- **A load leads to the start of its program,** wherever the machine has been. -/
theorem load_eq_atStart (m : Machine) (program : List UInt8) (h : program.length ≤ capacity) :
    m.load (program.map fun b => (b.toNat : Int)) =
      .ok (atStart m.keyScan m.keypad m.random program) := by
  have hbytes : ∀ b ∈ program.map fun b => (b.toNat : Int), 0 ≤ b ∧ b ≤ 255 := by
    intro b hb
    obtain ⟨byte, -, rfl⟩ := List.mem_map.1 hb
    exact byte_bounds byte
  rw [m.load_of_fits hbytes (by rwa [List.length_map]), loaded, Memory.load_font_program h,
    List.length_map]
  rfl

/-- The first two bytes of a program are its first word. -/
theorem wordAt_atStart (keyScan : KeyScan) (keypad : Keypad) (random : Twister)
    (program : List UInt8) :
    (atStart keyScan keypad random program).memory.wordAt 0x200 =
      (program.getD 0 0).toNat * 256 + (program.getD 1 0).toNat := by
  have hfirst : (Memory.image program).get (Address.wrap 0x200) = program.getD 0 0 :=
    Memory.get_image program _
  have hsecond : (Memory.image program).get (Address.wrap (0x200 + 1)) = program.getD 1 0 :=
    Memory.get_image program _
  rw [Memory.wordAt]
  simp only [atStart, hfirst, hsecond]

/-- The first two bytes of a program are its first instruction. -/
theorem nextInstruction_atStart (keyScan : KeyScan) (keypad : Keypad) (random : Twister)
    (program : List UInt8) :
    (atStart keyScan keypad random program).nextInstruction =
      .decode ((program.getD 0 0).toNat * 256 + (program.getD 1 0).toNat : Nat) :=
  congrArg (fun word : Nat => Instruction.decode word)
    (wordAt_atStart keyScan keypad random program)

/-- A program whose first instruction faults. -/
theorem run_load_cycle {m n : Machine} {f : Fault} {program : List Int}
    (hload : m.load program = .ok n) (hf : n.RunsInto f) :
    m.run [.load program, .cycle] = n.stoppedBy f := by
  rw [run_cons, run_cons, run_nil, serve, hload]
  exact congrArg Prod.fst hf.cycle_eq

/-- A program that begins with a return faults at once. -/
theorem run_lone_return (m : Machine) :
    m.run [.load [0x00, 0xEE], .cycle] =
      (atStart m.keyScan m.keypad m.random [0x00, 0xEE]).stoppedBy (.stackUnderflow 0x202) := by
  have hkind : (atStart m.keyScan m.keypad m.random [0x00, 0xEE]).nextInstruction.kind =
      .returnFromCall := by
    rw [nextInstruction_atStart]
    decide
  exact run_load_cycle (m.load_eq_atStart [0x00, 0xEE] (by decide))
    ⟨rfl, rfl, .inr ⟨hkind, rfl, rfl⟩⟩

/-- **Loading erases history.**  Two machines that scan for keys in the same way, have the same
keys down and are at the same point of the random bytes are the same machine after a load of a
program that fits, whatever else they have been through: the machine at the start of the program.
So they answer every session that begins with the load alike, and end it alike. -/
theorem load_erases_history {m k : Machine} (hscan : m.keyScan = k.keyScan)
    (hkeypad : m.keypad = k.keypad) (hrandom : m.random = k.random) {program : List UInt8}
    (hlength : program.length ≤ 3584) :
    let bytes := program.map fun b => (b.toNat : Int)
    m.load bytes = .ok (atStart m.keyScan m.keypad m.random program) ∧
      k.load bytes = .ok (atStart m.keyScan m.keypad m.random program) ∧
      ∀ calls, m.run (.load bytes :: calls) = k.run (.load bytes :: calls) ∧
        m.replies (.load bytes :: calls) = k.replies (.load bytes :: calls) := by
  intro bytes
  have hm : m.load bytes = _ := m.load_eq_atStart program hlength
  have hk : k.load bytes = _ := k.load_eq_atStart program hlength
  rw [← hscan, ← hkeypad, ← hrandom] at hk
  have hserve : m.serve (.load bytes) = k.serve (.load bytes) := by
    rw [serve, serve, hm, hk]
    rfl
  refine ⟨hm, hk, fun calls => ⟨?_, ?_⟩⟩
  · rw [run_cons, run_cons, hserve]
  · rw [replies, replies, hserve]

/-- A machine that a fault has stopped and a new one are the same after a load. -/
theorem load_erases_history_of_halted :
    let m := (new .full (some 7)).run [.load [0x00, 0xEE], .cycle]
    let k := new .full (some 7)
    let program : List UInt8 := [0x12, 0x00]
    let bytes := program.map fun b => (b.toNat : Int)
    m.halted = true ∧ m.keyScan = k.keyScan ∧ m.keypad = k.keypad ∧ m.random = k.random ∧
      program.length ≤ 3584 ∧
      m.load bytes = .ok (atStart m.keyScan m.keypad m.random program) ∧
      k.load bytes = .ok (atStart m.keyScan m.keypad m.random program) ∧
      ∀ calls, m.run (.load bytes :: calls) = k.run (.load bytes :: calls) ∧
        m.replies (.load bytes :: calls) = k.replies (.load bytes :: calls) := by
  intro m k program bytes
  have hm : m = _ := run_lone_return k
  have hscan : m.keyScan = k.keyScan := by rw [hm]; rfl
  have hkeypad : m.keypad = k.keypad := by rw [hm]; rfl
  have hrandom : m.random = k.random := by rw [hm]; rfl
  have hlength : program.length ≤ 3584 := by decide
  exact ⟨by rw [hm]; rfl, hscan, hkeypad, hrandom, hlength,
    load_erases_history hscan hkeypad hrandom hlength⟩

end Machine
end Chip8
