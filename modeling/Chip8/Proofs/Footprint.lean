/-
# What an instruction leaves alone

`Instruction.Footprint` tells, part by part, which kinds of instruction may
change a machine: two kinds write memory, two draw, one draws a random byte, and
so on; the host's keypad and the machine's own records are out of reach of all
of them.  Of the byte registers an instruction may change those that it lists
(`Instruction.written`), which for most kinds are none.

`execute_footprint` says that every instruction keeps to its footprint, in every
state, also when it breaks off and however its operands coincide.  The proof goes
through the kinds, and each case names just the parts that its kind may change.
A run of a machine needs to know no more of the instructions it is not about, nor
of a cycle than what it adds to its instruction.
-/

import Chip8.Machine.Cycle

namespace Chip8

/-- The byte registers that an instruction may change. -/
def Instruction.written (ins : Instruction) : List Register :=
  match ins.kind with
  | .setByte | .addByte | .copy | .or | .and | .xor | .random | .readDelay | .awaitKey => [ins.x]
  | .add | .subtract | .shiftRight | .subtractFrom | .shiftLeft => [ins.x, Registers.flag]
  | .draw => [Registers.flag]
  | .loadRegisters => Register.upTo ins.x
  | _ => []

/-- What a machine may have become after an instruction: each part is as it was, unless the
instruction is of a kind that may change it. -/
structure Instruction.Footprint (ins : Instruction) (m n : Machine) : Prop where
  memory : ins.kind ∉ [.storeDigits, .storeRegisters] → n.memory = m.memory := by exact fun _ => rfl
  /-- The pixels, and whether there is something to draw. -/
  screen : ins.kind ∉ [.clearScreen, .draw] → n.screen = m.screen := by exact fun _ => rfl
  delay : ins.kind ∉ [.setDelay] → n.timers.delay = m.timers.delay := by exact fun _ => rfl
  sound : ins.kind ∉ [.setSound] → n.timers.sound = m.timers.sound := by exact fun _ => rfl
  random : ins.kind ∉ [.random] → n.random = m.random := by exact fun _ => rfl
  stack : ins.kind ∉ [.call, .returnFromCall] →
    n.regs.sp = m.regs.sp ∧ n.regs.stack = m.regs.stack := by exact fun _ => ⟨rfl, rfl⟩
  i : ins.kind ∉ [.setIndex, .addIndex, .fontIndex] → n.regs.i = m.regs.i := by exact fun _ => rfl
  keyWait : ins.kind ∉ [.awaitKey] → n.regs.keyWait = m.regs.keyWait := by exact fun _ => rfl
  pc : ins.kind ∉ [.jump, .call, .returnFromCall, .jumpOffset, .skipEqByte, .skipNeByte, .skipEqReg,
    .skipNeReg, .skipKeyDown, .skipKeyUp, .awaitKey] → n.regs.pc = m.regs.pc := by exact fun _ => rfl
  keypad : n.keypad = m.keypad := by rfl
  keyScan : n.keyScan = m.keyScan := by rfl
  halted : n.halted = m.halted := by rfl
  fault : n.fault = m.fault := by rfl
  faultText : n.faultText = m.faultText := by rfl
  cycles : n.cycles = m.cycles := by rfl
  programSize : n.programSize = m.programSize := by rfl

namespace Registers

/-- A push changes the stack and its pointer only. -/
theorem exists_push_eq (r : Registers) (address : Int) :
    ∃ stack sp, (r.push address).1 = { r with stack, sp } := by
  unfold push
  split
  · exact ⟨_, _, rfl⟩
  · cases slot? r.sp <;> exact ⟨_, _, rfl⟩

/-- A pop changes the stack pointer only. -/
theorem exists_pop_eq (r : Registers) : ∃ sp, r.pop.1 = { r with sp } := by
  unfold pop
  split
  · exact ⟨_, rfl⟩
  · simp only
    cases slot? (r.sp - 1) <;> exact ⟨_, rfl⟩

end Registers

namespace Machine

variable {m : Machine} {ins : Instruction}

/-- A skip is a move of the program counter. -/
theorem skipIf_eq_setPc (m : Machine) (condition : Bool) :
    m.skipIf condition =
      m.setPc (if condition then (m.regs.pc + 2) % 65536 else m.regs.pc) := by
  unfold skipIf
  split <;> rfl

/-- A call changes the stack, its pointer and the program counter only. -/
theorem exists_call_eq (m : Machine) (address : Address) :
    ∃ stack sp pc, (m.call address).1 = { m with regs := { m.regs with stack, sp, pc } } := by
  obtain ⟨stack, sp, hpush⟩ := m.regs.exists_push_eq m.regs.pc
  unfold call
  rcases hp : m.regs.push m.regs.pc with ⟨regs, stop⟩
  simp only [hp] at hpush
  subst hpush
  cases stop with
  | none => exact ⟨stack, sp, _, rfl⟩
  | some stop => exact ⟨stack, sp, m.regs.pc, rfl⟩

/-- A return changes the stack pointer and the program counter only. -/
theorem exists_comeBack_eq (m : Machine) :
    ∃ sp pc, m.comeBack.1 = { m with regs := { m.regs with sp, pc } } := by
  obtain ⟨sp, hpop⟩ := m.regs.exists_pop_eq
  unfold comeBack
  rcases hp : m.regs.pop with ⟨regs, result⟩
  simp only [hp] at hpop
  subst hpop
  cases result with
  | ok address => exact ⟨sp, _, rfl⟩
  | error stop => exact ⟨sp, m.regs.pc, rfl⟩

/-- To set a register leaves the others. -/
theorem get_setV_of_ne {x z : Register} (h : z ≠ x) (b : UInt8) :
    (m.setV x b).regs.get z = m.regs.get z := by
  rw [setV, Registers.get_set, if_neg (Ne.symm h)]

/-- An instruction changes none of the byte registers but those that it lists. -/
theorem get_execute (m : Machine) {z : Register} (hz : z ∉ ins.written) :
    (m.execute ins).1.regs.get z = m.regs.get z := by
  cases hk : ins.kind <;>
    simp only [Instruction.written, hk, List.mem_cons, List.not_mem_nil, or_false, not_or,
      Register.mem_upTo] at hz <;>
    simp only [execute, hk, skipIf_eq_setPc]
  case setByte | addByte | copy | or | and | xor | readDelay => exact get_setV_of_ne hz _
  case random => exact get_setV_of_ne hz _
  case add | subtract | shiftRight | subtractFrom | shiftLeft =>
    rw [setWithFlag, get_setV_of_ne hz.2, get_setV_of_ne hz.1]
  case draw => rw [drawSprite, Registers.get_set, if_neg (Ne.symm hz)]
  case awaitKey =>
    cases m.pressedKey with
    | some key => exact get_setV_of_ne hz _
    | none => rfl
  case loadRegisters =>
    rw [Registers.get, Cells.get, Fin.getElem_fin, Vector.getElem_ofFn, if_neg hz]
  case call =>
    obtain ⟨stack, sp, pc, hcall⟩ := m.exists_call_eq ins.nnn
    rw [hcall]
    rfl
  case returnFromCall =>
    obtain ⟨sp, pc, hback⟩ := m.exists_comeBack_eq
    rw [hback]
    rfl
  all_goals rfl

/-- **An instruction keeps to the footprint of its kind.** -/
theorem execute_footprint (m : Machine) (ins : Instruction) :
    ins.Footprint m (m.execute ins).1 := by
  -- A part that a kind may change is exempted by the list of the part.
  have hexempt : ∀ {kind : Kind} {kinds : List Kind} {p : Prop},
      ins.kind = kind → kind ∈ kinds → ins.kind ∉ kinds → p :=
    fun hk hmem hnot => absurd (hk ▸ hmem) hnot
  cases hk : ins.kind <;> simp only [execute, hk, skipIf_eq_setPc]
  case storeDigits | storeRegisters => exact { memory := hexempt hk (by decide) }
  case clearScreen | draw => exact { screen := hexempt hk (by decide) }
  case setDelay => exact { delay := hexempt hk (by decide) }
  case setSound => exact { sound := hexempt hk (by decide) }
  case random => exact { random := hexempt hk (by decide) }
  case setIndex | addIndex | fontIndex => exact { i := hexempt hk (by decide) }
  case jump | jumpOffset | skipEqByte | skipNeByte | skipEqReg | skipNeReg | skipKeyDown
      | skipKeyUp => exact { pc := hexempt hk (by decide) }
  case call =>
    obtain ⟨stack, sp, pc, hcall⟩ := m.exists_call_eq ins.nnn
    rw [hcall]
    exact { stack := hexempt hk (by decide), pc := hexempt hk (by decide) }
  case returnFromCall =>
    obtain ⟨sp, pc, hback⟩ := m.exists_comeBack_eq
    rw [hback]
    exact { stack := hexempt hk (by decide), pc := hexempt hk (by decide) }
  case awaitKey =>
    cases m.pressedKey with
    | some key => exact {}
    | none => exact { keyWait := hexempt hk (by decide), pc := hexempt hk (by decide) }
  all_goals exact {}

/-- Whether a machine is halted is not up to its instructions but to the cycle around them. -/
@[simp] theorem halted_execute : (m.execute ins).1.halted = m.halted :=
  (m.execute_footprint ins).halted

/-- Nor is the fault on record. -/
@[simp] theorem fault_execute : (m.execute ins).1.fault = m.fault :=
  (m.execute_footprint ins).fault

/-- Only one kind makes the machine wait for a key. -/
theorem keyWait_execute (ha : ins.kind ≠ .awaitKey) :
    (m.execute ins).1.regs.keyWait = m.regs.keyWait :=
  (m.execute_footprint ins).keyWait (mt List.mem_singleton.1 ha)

/-- **What a decoded opcode leaves alone.**  Whatever the opcode and the state, each part that is
out of reach of the decoded kind stays as it is, and so does each byte register that the
instruction does not list.  An unknown opcode is carried out by leaving the machine as it is. -/
theorem execute_decode_footprint (m : Machine) (opcode : Int) :
    let ins := Instruction.decode opcode
    ins.Footprint m (m.execute ins).1 ∧
      (∀ z ∉ ins.written, (m.execute ins).1.regs.get z = m.regs.get z) ∧
      (ins.kind = .nop → m.execute ins = (m, none)) := by
  refine ⟨m.execute_footprint _, fun _ hz => m.get_execute hz, fun hk => ?_⟩
  simp only [execute, hk]

/-! ### What a cycle adds to its instruction -/

/-- The end of a cycle changes the machine's records only. -/
theorem conclude_footprint (pc : Int) (ins : Instruction) (n : Machine) (stop : Option Stop) :
    ∃ halted fault faultText cycles,
      (conclude pc ins (n, stop)).1 = { n with halted, fault, faultText, cycles } := by
  rcases stop with _ | ⟨f⟩ | ⟨e⟩
  · exact ⟨_, _, _, _, rfl⟩
  · exact ⟨_, _, _, _, rfl⟩
  · exact ⟨_, _, _, _, rfl⟩

/-- The cycle of a machine that waits changes the registers and the count only. -/
theorem awaitCycle_footprint (m : Machine) (register : Int) (key : Option Nibble) :
    ∃ regs cycles, (m.awaitCycle register key).1 = { m with regs, cycles } := by
  unfold awaitCycle
  cases key with
  | none => exact ⟨_, _, rfl⟩
  | some key => cases Registers.slot? register <;> exact ⟨_, _, rfl⟩

end Machine
end Chip8
