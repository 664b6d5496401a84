/-
# Every number of a machine stays in its range

Registers, timers and the program's size are plain integers, so nothing but the
way they are computed keeps them within the bits that the hardware has.
`Machine.Bounded` says how far each of them may go.  Bytes, stack entries,
pixels and keys are in range by their types, which also fix how many there are;
their bounds are part of `Bounded` all the same, and hold by default.

`Bounded.execute` is the step: an instruction of any kind, with any operands,
keeps the bounds, also when it breaks off.  A cycle and the host's other calls
follow, and `Bounded.run` is the run.  Since the register map holds nothing but
these numbers, each of them then fits the width that the layout declares for it.
-/

import Mathlib.Algebra.Ring.Int.Defs
import Chip8.Machine.Session

namespace Chip8

/-- The ranges of what a program can see of the processor. -/
structure Registers.Bounded (r : Registers) : Prop where
  v : r.v.toList.length = 16 ∧ ∀ b ∈ r.v.toList, b.toNat ≤ 0xFF :=
    ⟨Vector.length_toList, fun b _ => Nat.le_of_lt_succ b.toNat_lt⟩
  i : 0 ≤ r.i ∧ r.i ≤ 0xFFFF
  pc : 0 ≤ r.pc ∧ r.pc ≤ 0xFFFF
  sp : 0 ≤ r.sp ∧ r.sp ≤ 16
  stack : r.stack.toList.length = 16 ∧ ∀ a ∈ r.stack.toList, a.toNat ≤ 0xFFFF :=
    ⟨Vector.length_toList, fun a _ => Nat.le_of_lt_succ a.toNat_lt⟩
  keyWait : ∀ register, r.keyWait = some register → 0 ≤ register ∧ register ≤ 15

/-- The ranges of the timers. -/
structure Timers.Bounded (t : Timers) : Prop where
  delay : 0 ≤ t.delay ∧ t.delay ≤ 0xFF
  sound : 0 ≤ t.sound ∧ t.sound ≤ 0xFF

/-- A delay timer in its range goes into a register as it is. -/
theorem Timers.Bounded.toNat_delay {t : Timers} (h : t.Bounded) :
    ((UInt8.ofInt t.delay).toNat : Int) = t.delay := by
  obtain ⟨h₀, h₁⟩ := h.delay
  rw [UInt8.ofInt, UInt8.toNat_ofNat']
  omega

/-- The range of everything that a machine holds. -/
structure Machine.Bounded (m : Machine) : Prop where
  regs : m.regs.Bounded
  memory : m.memory.cells.toList.length = 4096 ∧ ∀ b ∈ m.memory.cells.toList, b.toNat ≤ 0xFF :=
    ⟨Vector.length_toList, fun b _ => Nat.le_of_lt_succ b.toNat_lt⟩
  pixels : m.screen.rows.toList.length = 32 ∧ ∀ row ∈ m.screen.rows.toList,
      row.toList.length = 64 ∧ ∀ p ∈ row.toList, p.toNat ≤ 1 :=
    ⟨Vector.length_toList, fun _ _ => ⟨Vector.length_toList, fun p _ => p.toNat_le⟩⟩
  keys : m.keypad.bytes.length = 16 ∧ ∀ b ∈ m.keypad.bytes, b = 0x00 ∨ b = 0xFF :=
    ⟨m.keypad.length_bytes, m.keypad.mem_bytes⟩
  timers : m.timers.Bounded
  programSize : m.programSize ≤ 3584

namespace Registers

variable {r : Registers}

/-- The registers of a machine that is switched on are in their ranges. -/
theorem bounded_start : ({} : Registers).Bounded :=
  { i := by decide, pc := by decide, sp := by decide, keyWait := fun _ h => by cases h }

/-- The byte registers may be replaced by any bytes. -/
theorem Bounded.withV (h : r.Bounded) (v : Vector UInt8 16) :
    ({ r with v } : Registers).Bounded :=
  { i := h.i, pc := h.pc, sp := h.sp, keyWait := h.keyWait }

/-- The program counter may be set to any 16 bits. -/
theorem Bounded.withPc (h : r.Bounded) {pc : Int} (hpc : 0 ≤ pc ∧ pc ≤ 0xFFFF) :
    ({ r with pc } : Registers).Bounded :=
  { i := h.i, pc := hpc, sp := h.sp, keyWait := h.keyWait }

/-- The index register may be set to any 16 bits. -/
theorem Bounded.withI (h : r.Bounded) {i : Int} (hi : 0 ≤ i ∧ i ≤ 0xFFFF) :
    ({ r with i } : Registers).Bounded :=
  { i := hi, pc := h.pc, sp := h.sp, keyWait := h.keyWait }

/-- A push keeps the ranges: the pointer grows only while it is below sixteen. -/
theorem Bounded.push (h : r.Bounded) (address : Int) : (r.push address).1.Bounded := by
  obtain ⟨h₀, h₁⟩ := h.sp
  rcases Int.lt_or_le r.sp 16 with hsp | hsp
  · rw [push_of_room h₀ hsp]
    exact { i := h.i, pc := h.pc, sp := by simp only; omega, keyWait := h.keyWait }
  · rw [push_full hsp]
    exact h

/-- A pop keeps the ranges: the pointer shrinks only while it is above zero. -/
theorem Bounded.pop (h : r.Bounded) : r.pop.1.Bounded := by
  obtain ⟨h₀, h₁⟩ := h.sp
  rcases Int.lt_or_eq_of_le h₀ with hsp | hsp
  · rw [pop_of_pos hsp h₁]
    exact { i := h.i, pc := h.pc, sp := by simp only; omega, keyWait := h.keyWait }
  · rw [pop_empty hsp.symm]
    exact h

end Registers

/-- The timers of a machine that is switched on are in their ranges. -/
theorem Timers.bounded_start : ({} : Timers).Bounded :=
  { delay := by decide, sound := by decide }

/-- Counters that go down to zero stay in their range. -/
theorem Timers.Bounded.tick {t : Timers} (h : t.Bounded) : t.tick.Bounded := by
  obtain ⟨⟨hd₀, hd⟩, hs₀, hs⟩ := h
  simp only [Timers.tick]
  rw [Timers.countDown_of_nonneg hd₀, Timers.countDown_of_nonneg hs₀]
  exact { delay := by simp only; omega, sound := by simp only; omega }

/-- What is reduced to 16 bits fits into them. -/
theorem word_bounds (n : Int) : 0 ≤ n % 65536 ∧ n % 65536 ≤ 0xFFFF := by omega

/-- A byte fits into eight bits. -/
theorem byte_bounds (b : UInt8) : 0 ≤ (b.toNat : Int) ∧ (b.toNat : Int) ≤ 0xFF := by
  have := b.toNat_lt
  omega

/-- An address fits into sixteen bits. -/
theorem Address.bounds (a : Address) : 0 ≤ ((a : Nat) : Int) ∧ ((a : Nat) : Int) ≤ 0xFFFF := by
  omega

/-- The address of a glyph fits into sixteen bits, whatever the digit. -/
theorem Font.address_bounds (digit : Int) :
    0 ≤ Font.address digit ∧ Font.address digit ≤ 0xFFFF := by
  simp only [Font.address, Font.start, Font.glyphSize]
  omega

namespace Machine

variable {m : Machine}

/-- A machine with the timers and the program of a bounded one is bounded if its registers
are. -/
theorem Bounded.ofRegs (h : m.Bounded) {n : Machine} (hr : n.regs.Bounded)
    (ht : n.timers = m.timers) (hp : n.programSize = m.programSize) : n.Bounded :=
  { regs := hr, timers := ht ▸ h.timers, programSize := hp ▸ h.programSize }

/-- A byte register may be set to any byte. -/
theorem Bounded.setV (h : m.Bounded) (x : Register) (b : UInt8) : (m.setV x b).Bounded :=
  h.ofRegs (h.regs.withV _) rfl rfl

/-- A machine may go on at any 16-bit address. -/
theorem Bounded.setPc (h : m.Bounded) {pc : Int} (hpc : 0 ≤ pc ∧ pc ≤ 0xFFFF) :
    (m.setPc pc).Bounded :=
  h.ofRegs (h.regs.withPc hpc) rfl rfl

/-- A skip keeps the ranges, since the counter goes round at 16 bits. -/
theorem Bounded.skipIf (h : m.Bounded) (condition : Bool) : (m.skipIf condition).Bounded := by
  unfold Machine.skipIf
  split
  · exact h.setPc (word_bounds _)
  · exact h

/-- A result and its flag are bytes. -/
theorem Bounded.setWithFlag (h : m.Bounded) (x : Register) (result : UInt8 × UInt8) :
    (m.setWithFlag x result).Bounded :=
  (h.setV _ _).setV _ _

/-- A call keeps the ranges, be there room on the stack or not. -/
theorem Bounded.call (h : m.Bounded) (address : Address) : (m.call address).1.Bounded := by
  have hr := h.regs.push m.regs.pc
  unfold Machine.call
  rcases hp : m.regs.push m.regs.pc with ⟨regs, _ | stop⟩ <;> rw [hp] at hr
  · exact h.ofRegs (hr.withPc address.bounds) rfl rfl
  · exact h.ofRegs hr rfl rfl

/-- A return keeps the ranges, be there something on the stack or not. -/
theorem Bounded.comeBack (h : m.Bounded) : m.comeBack.1.Bounded := by
  have hr := h.regs.pop
  unfold Machine.comeBack
  rcases hp : m.regs.pop with ⟨regs, stop | address⟩ <;> rw [hp] at hr
  · exact h.ofRegs hr rfl rfl
  · have := address.toNat_lt
    exact h.ofRegs (hr.withPc (by omega)) rfl rfl

/-- A key that is awaited keeps the ranges, whether one is down or not. -/
theorem Bounded.takeKey (h : m.Bounded) (x : Register) (key? : Option Nibble) :
    (m.takeKey x key?).Bounded := by
  cases key? with
  | some key => exact h.setV _ _
  | none =>
    refine h.ofRegs { i := h.regs.i, pc := word_bounds _, sp := h.regs.sp, keyWait := ?_ } rfl rfl
    rintro register ⟨rfl⟩
    omega

/-- **An instruction keeps the bounds,** whatever it is and also when it breaks off. -/
theorem Bounded.execute (h : m.Bounded) (ins : Instruction) : (m.execute ins).1.Bounded := by
  cases hk : ins.kind <;> simp only [Machine.execute, hk]
  case call => exact h.call _
  case returnFromCall => exact h.comeBack
  case awaitKey => exact h.takeKey _ _
  case skipEqByte | skipNeByte | skipEqReg | skipNeReg | skipKeyDown | skipKeyUp =>
    exact h.skipIf _
  case setByte | addByte | copy | or | and | xor | readDelay => exact h.setV _ _
  case add | subtract | shiftRight | subtractFrom | shiftLeft => exact h.setWithFlag _ _
  case clearScreen | storeDigits | storeRegisters => exact h.ofRegs h.regs rfl rfl
  case random | draw | loadRegisters => exact h.ofRegs (h.regs.withV _) rfl rfl
  case jump => exact h.setPc ins.nnn.bounds
  case jumpOffset => exact h.setPc (word_bounds _)
  case setIndex => exact h.ofRegs (h.regs.withI ins.nnn.bounds) rfl rfl
  case addIndex => exact h.ofRegs (h.regs.withI (word_bounds _)) rfl rfl
  case fontIndex => exact h.ofRegs (h.regs.withI (Font.address_bounds _)) rfl rfl
  case setDelay =>
    exact { regs := h.regs, timers := { delay := byte_bounds _, sound := h.timers.sound },
            programSize := h.programSize }
  case setSound =>
    exact { regs := h.regs, timers := { delay := h.timers.delay, sound := byte_bounds _ },
            programSize := h.programSize }
  case nop => exact h

/-- To count a cycle and to answer it touches nothing that has a range. -/
theorem Bounded.answer (h : m.Bounded) (activity : Activity) (fault : Option Fault) :
    (m.answer activity fault).1.Bounded :=
  h.ofRegs h.regs rfl rfl

/-- A cycle in which a machine waits keeps the ranges. -/
theorem Bounded.awaitCycle (h : m.Bounded) (register : Int) (key? : Option Nibble) :
    (m.awaitCycle register key?).1.Bounded := by
  cases key? with
  | none => exact h.answer _ _
  | some key =>
    simp only [Machine.awaitCycle]
    cases Registers.slot? register with
    | none => exact h
    | some x =>
      refine Bounded.answer (h.ofRegs ?_ ?_ ?_) _ _
      · exact { i := h.regs.i, pc := word_bounds _, sp := h.regs.sp,
                keyWait := fun _ h => by cases h }
      · rfl
      · rfl

/-- A machine is halted with its registers as they are, and so keeps the ranges. -/
theorem Bounded.conclude {result : Machine × Option Stop} (h : result.1.Bounded) (pc : Int)
    (ins : Instruction) : (conclude pc ins result).1.Bounded := by
  rcases result with ⟨n, _ | f | e⟩
  · exact Bounded.answer h _ _
  · exact Bounded.ofRegs h h.regs rfl rfl
  · exact h

/-- The counter that has gone past an instruction is in its range. -/
theorem Bounded.past (h : m.Bounded) (ins : Instruction) : (m.past ins).Bounded :=
  h.setPc (word_bounds _)

/-- A cycle that carries out an instruction keeps the ranges. -/
theorem Bounded.executeCycle (h : m.Bounded) : m.executeCycle.1.Bounded :=
  Bounded.conclude ((h.past _).execute _) _ _

/-- **A cycle keeps the bounds,** whichever of the four things it does. -/
theorem Bounded.cycle (h : m.Bounded) : m.cycle.1.Bounded := by
  cases hhalt : m.halted with
  | true =>
    rw [cycle_of_halted hhalt]
    exact h.answer _ _
  | false =>
    cases hwait : m.regs.keyWait with
    | some register =>
      rw [cycle_of_waiting hhalt hwait]
      exact h.awaitCycle register _
    | none =>
      rw [cycle_of_running hhalt hwait]
      exact h.executeCycle

/-- A machine with registers and timers as they are at the start is bounded. -/
theorem bounded_of_start (hr : m.regs = {}) (ht : m.timers = {}) (hp : m.programSize ≤ 3584) :
    m.Bounded :=
  { regs := hr ▸ Registers.bounded_start, timers := ht ▸ Timers.bounded_start, programSize := hp }

/-- A machine that is switched on is in its ranges, whatever its mode and its seed. -/
theorem bounded_new (keyScan : KeyScan) (seed : Option Int) : (new keyScan seed).Bounded :=
  bounded_of_start rfl rfl (Nat.zero_le _)

/-- A reset brings any machine into its ranges. -/
theorem bounded_reset (m : Machine) : m.reset.Bounded :=
  bounded_of_start rfl rfl (Nat.zero_le _)

/-- A program that fits brings any machine into its ranges. -/
theorem bounded_loaded (m : Machine) {program : List Int} (h : program.length ≤ capacity) :
    (m.loaded program).Bounded :=
  bounded_of_start rfl rfl h

/-- **No call of a host leads out of the ranges**, refused or not. -/
theorem Bounded.serve (h : m.Bounded) (c : HostCall) : (m.serve c).1.Bounded := by
  refine serve_preserves h (fun _ => bounded_loaded m) (bounded_reset m) h.cycle ?_
    (fun _ => h.ofRegs h.regs rfl rfl) (fun _ => h.ofRegs h.regs rfl rfl) c
  exact { regs := h.regs, timers := h.timers.tick, programSize := h.programSize }

/-- A session keeps the bounds. -/
theorem Bounded.run (h : m.Bounded) (calls : List HostCall) : (m.run calls).Bounded :=
  run_preserves (P := Bounded) (fun _ c h => h.serve c) m calls h

/-! ### The register map -/

/-- A table made of names that differ answers each name with its own entry. -/
theorem lookup_map_of_injective {α β : Type} {name : α → String}
    (hname : ∀ a b, name a = name b → a = b) (value : α → β) {keys : List α} {a : α}
    (ha : a ∈ keys) : (keys.map fun k => (name k, value k)).lookup (name a) = some (value a) := by
  induction keys with
  | nil => cases ha
  | cons k keys ih =>
    rw [List.map_cons, List.lookup_cons]
    by_cases hk : name a = name k
    · rw [hname a k hk, beq_self_eq_true]
    · rw [beq_eq_false_iff_ne.2 hk]
      rcases List.mem_cons.1 ha with rfl | ha
      · exact absurd rfl hk
      · exact ih ha

/-- Each byte register has a name of its own. -/
theorem registerText_injective :
    ∀ x y : Register, Instruction.registerText x = Instruction.registerText y → x = y := by
  decide +kernel

/-- No byte register is named like one of the others. -/
theorem registerText_ne :
    ∀ x : Register, Instruction.registerText x ∉ ["I", "PC", "SP", "DT", "ST"] := by
  decide +kernel

/-- The map shows a byte register under its name. -/
theorem lookup_registerText (m : Machine) (x : Register) :
    m.registerMap.lookup (Instruction.registerText x) = some ((m.regs.get x).toNat : Int) := by
  rw [registerMap, List.lookup_append, lookup_map_of_injective registerText_injective _
    (List.mem_finRange x), Option.some_or]

/-- The map shows the other registers behind the byte registers. -/
theorem lookup_of_not_registerText (m : Machine) {name : String}
    (h : name ∈ ["I", "PC", "SP", "DT", "ST"]) :
    m.registerMap.lookup name =
      [("I", m.regs.i), ("PC", m.regs.pc), ("SP", m.regs.sp), ("DT", m.timers.delay),
        ("ST", m.timers.sound)].lookup name := by
  rw [registerMap, List.lookup_append, List.lookup_eq_none_iff.2, Option.none_or]
  intro entry hentry
  obtain ⟨x, -, rfl⟩ := List.mem_map.1 hentry
  exact bne_iff_ne.2 fun (he : name = Instruction.registerText x) => registerText_ne x (he ▸ h)

/-- **The layout fits a bounded machine.**  Every register that the layout names has an entry
in the register map, and its value fits the width that the layout gives. -/
theorem Bounded.fits_layout (h : m.Bounded) {group : String × List (String × Nat)}
    (hg : group ∈ registerLayout) {field : String × Nat} (hf : field ∈ group.2) :
    ∃ value, m.registerMap.lookup field.1 = some value ∧ 0 ≤ value ∧ value < 2 ^ field.2 := by
  obtain ⟨⟨hd₀, hd⟩, hs₀, hs⟩ := h.timers
  have hi := h.regs.i
  have hpc := h.regs.pc
  have hsp := h.regs.sp
  simp only [registerLayout, List.mem_cons, List.not_mem_nil, or_false] at hg
  rcases hg with rfl | rfl | rfl
  · obtain ⟨x, -, rfl⟩ := List.mem_map.1 hf
    have hx := byte_bounds (m.regs.get x)
    exact ⟨_, lookup_registerText m x, hx.1, by simp only; omega⟩
  · simp only [List.mem_cons, List.not_mem_nil, or_false] at hf
    rcases hf with rfl | rfl | rfl
    · exact ⟨_, lookup_of_not_registerText m (by simp), by simp only; omega⟩
    · exact ⟨_, lookup_of_not_registerText m (by simp), by simp only; omega⟩
    · exact ⟨_, lookup_of_not_registerText m (by simp), by simp only; omega⟩
  · simp only [List.mem_cons, List.not_mem_nil, or_false] at hf
    rcases hf with rfl | rfl
    · exact ⟨_, lookup_of_not_registerText m (by simp), by simp only; omega⟩
    · exact ⟨_, lookup_of_not_registerText m (by simp), by simp only; omega⟩

/-- **Every reachable machine is in range.**  However a host drives a new machine, refused calls
included, every number of it stays within its bounds, and each register of the layout can be read
from the register map and fits its width. -/
theorem run_new_bounded (keyScan : KeyScan) (seed : Option Int) (calls : List HostCall) :
    ((new keyScan seed).run calls).Bounded ∧
      ∀ group ∈ registerLayout, ∀ field ∈ group.2, ∃ value,
        ((new keyScan seed).run calls).registerMap.lookup field.1 = some value ∧
          0 ≤ value ∧ value < 2 ^ field.2 :=
  have h := (bounded_new keyScan seed).run calls
  ⟨h, fun _ hg _ hf => h.fits_layout hg hf⟩

end Machine
end Chip8
