/-
# Where a program goes on

`Machine.successor` is the program counter after a cycle, told from the four digits of
the opcode and the state before the cycle: jumps and calls go to their address, a
return to the last address on the stack, a skip whose condition holds passes over one
instruction, a request for a key that is not down stays where it is, and everything
else goes on with the next instruction.

In the machine several hands move the counter: the cycle puts it past the instruction
beforehand, skips move it once more, a request for a key moves it back, and when a
wait ends it is moved without any instruction.  `Bounded.pc_cycle` says what they come
to together, family by family.
-/

import Chip8.Proofs.Opcodes
import Chip8.Proofs.Polling
import Chip8.Proofs.Stores
import Chip8.Proofs.Subroutines

namespace Chip8
namespace Machine

/-- No key that the machine looks at is down. -/
def KeysUp (m : Machine) : Prop :=
  ∀ key : Nibble, key.val < m.keyScan.limit → m.keypad.isDown key = false

instance (m : Machine) : Decidable m.KeysUp :=
  inferInstanceAs (Decidable (∀ key : Nibble, key.val < m.keyScan.limit →
    m.keypad.isDown key = false))

/-- Where a program goes on after the opcode with these digits. -/
def successor (m : Machine) (f x y n : Nibble) : Int :=
  let next := (m.regs.pc + 2) % 65536
  let skip (condition : Bool) := if condition then (m.regs.pc + 4) % 65536 else next
  let vx := (m.regs.get x).toNat
  let vy := (m.regs.get y).toNat
  let key := m.keypad.isDown (Nibble.low vx)
  let kk := 0x10 * y.val + n.val
  let nnn := 0x100 * x.val + kk
  match f.val with
  | 0x0 => if n.val = 0xE then (Cells.get m.regs.stack (Nibble.low (m.regs.sp - 1))).toNat else next
  | 0x1 | 0x2 => nnn
  | 0x3 => skip (vx = kk)
  | 0x4 => skip (vx ≠ kk)
  | 0x5 => skip (vx = vy)
  | 0x9 => skip (vx ≠ vy)
  | 0xB => ((m.regs.get Registers.base).toNat + nnn) % 65536
  | 0xE => if kk = 0x9E then skip key else if kk = 0xA1 then skip !key else next
  | 0xF => if kk = 0x0A ∧ m.KeysUp then m.regs.pc else next
  | _ => next

/-- The kinds of instruction that move the program counter themselves. -/
def leaps : List Kind :=
  [.jump, .call, .returnFromCall, .jumpOffset, .skipEqByte, .skipNeByte, .skipEqReg, .skipNeReg,
    .skipKeyDown, .skipKeyUp, .awaitKey]

variable {m : Machine} {ins : Instruction}

/-- No key is found just if all that the machine looks at are up. -/
theorem pressedKey_eq_none_iff (m : Machine) : m.pressedKey = none ↔ m.KeysUp :=
  m.keypad.firstDown_eq_none_iff _

/-! ### Kind by kind

The program counter after an instruction that was put past it before. -/

/-- An instruction that does not leap leaves the counter right behind itself. -/
theorem pc_execute_past (hk : ins.kind ∉ leaps) :
    ((m.past ins).execute ins).1.regs.pc = (m.regs.pc + 2) % 65536 :=
  ((m.past ins).execute_footprint ins).pc hk

/-- A skip goes past the next instruction if its condition holds, and on to it if not. -/
theorem pc_skipIf_past (m : Machine) (ins : Instruction) (condition : Bool) :
    ((m.past ins).skipIf condition).regs.pc =
      if condition then (m.regs.pc + 4) % 65536 else (m.regs.pc + 2) % 65536 := by
  have htwice : ((m.regs.pc + 2) % 65536 + 2) % 65536 = (m.regs.pc + 4) % 65536 := by omega
  cases condition with
  | false => rfl
  | true => exact htwice

/-- A call that is not refused goes to its address. -/
theorem Bounded.pc_call (h : m.Bounded) (hk : ins.kind = .call)
    (hn : ((m.past ins).execute ins).2 = none) :
    ((m.past ins).execute ins).1.regs.pc = ins.nnn.val := by
  have hroom := (h.past ins).room_of_call hk hn
  simp only [Machine.execute, hk, call_of_room (h.past ins).regs.sp.1 hroom]

/-- A return that is not refused goes to the address in the slot below the pointer. -/
theorem Bounded.pc_return (h : m.Bounded) (hk : ins.kind = .returnFromCall)
    (hn : ((m.past ins).execute ins).2 = none) :
    ((m.past ins).execute ins).1.regs.pc =
      (Cells.get m.regs.stack (Nibble.low (m.regs.sp - 1))).toNat := by
  have hpos := (h.past ins).pos_of_return hk hn
  simp only [Machine.execute, hk, comeBack_of_pos hpos (h.past ins).regs.sp.2]
  rfl

/-- A request for a key that is not down goes back to where it came from. -/
theorem Bounded.pc_awaitKey (h : m.Bounded) (hk : ins.kind = .awaitKey) :
    ((m.past ins).execute ins).1.regs.pc =
      if m.KeysUp then m.regs.pc else (m.regs.pc + 2) % 65536 := by
  have hback : ((m.regs.pc + 2) % 65536 - 2) % 65536 = m.regs.pc := by
    have := h.regs.pc
    omega
  have hkey : (m.past ins).pressedKey = m.pressedKey := rfl
  simp only [Machine.execute, hk, hkey, ← pressedKey_eq_none_iff]
  cases m.pressedKey with
  | none => exact hback
  | some key => rfl

/-! ### Family by family -/

/-- Bytes are compared as numbers. -/
theorem beq_eq_decide_toNat (a b : UInt8) : (a == b) = decide (a.toNat = b.toNat) := by
  rw [Bool.eq_iff_iff, beq_iff_eq, decide_eq_true_iff, UInt8.toNat_inj]

/-- Bytes are told apart as numbers. -/
theorem bne_eq_decide_toNat (a b : UInt8) : (a != b) = decide (a.toNat ≠ b.toNat) := by
  rw [bne, beq_eq_decide_toNat, decide_not]

/-- The program counter after an opcode that it was put past before. -/
def pcAfter (m : Machine) (f x y n : Nibble) : Int :=
  ((m.past (.ofDigits f x y n)).execute (.ofDigits f x y n)).1.regs.pc

section Families

variable (m : Machine) (x y n : Nibble)

/-- The four skips that compare are told by their first digit alone. -/
theorem kind_ofDigits_compare :
    (Instruction.ofDigits 0x3 x y n).kind = .skipEqByte ∧
      (Instruction.ofDigits 0x4 x y n).kind = .skipNeByte ∧
      (Instruction.ofDigits 0x5 x y n).kind = .skipEqReg ∧
      (Instruction.ofDigits 0x9 x y n).kind = .skipNeReg := by
  refine ⟨?_, ?_, ?_, ?_⟩ <;>
    exact Instruction.kind_ofDigits_of_forall x y n (by decide) (by decide) (by decide)

/-- The four families of skips that compare. -/
theorem pcAfter_compare :
    m.pcAfter 0x3 x y n = m.successor 0x3 x y n ∧ m.pcAfter 0x4 x y n = m.successor 0x4 x y n ∧
      m.pcAfter 0x5 x y n = m.successor 0x5 x y n ∧
      m.pcAfter 0x9 x y n = m.successor 0x9 x y n := by
  obtain ⟨h3, h4, h5, h9⟩ := kind_ofDigits_compare x y n
  refine ⟨?_, ?_, ?_, ?_⟩
  · simp only [pcAfter, execute, h3, pc_skipIf_past, beq_eq_decide_toNat, Instruction.x_ofDigits,
      Instruction.toNat_kk_ofDigits]
    rfl
  · simp only [pcAfter, execute, h4, pc_skipIf_past, bne_eq_decide_toNat, Instruction.x_ofDigits,
      Instruction.toNat_kk_ofDigits]
    rfl
  · simp only [pcAfter, execute, h5, pc_skipIf_past, beq_eq_decide_toNat, Instruction.x_ofDigits,
      Instruction.y_ofDigits]
    rfl
  · simp only [pcAfter, execute, h9, pc_skipIf_past, bne_eq_decide_toNat, Instruction.x_ofDigits,
      Instruction.y_ofDigits]
    rfl

/-- Of the opcodes `Exkk` two are skips and the others do nothing. -/
theorem kind_ofDigits_keys : (Instruction.ofDigits 0xE x y n).kind =
    if 0x10 * y.val + n.val = 0x9E then .skipKeyDown
    else if 0x10 * y.val + n.val = 0xA1 then .skipKeyUp else .nop := by
  have hfamily : (0x1000 * (0xE : Nibble).val + 0x10 * y.val + n.val) / 4096 = 0xE := by omega
  have hbyte : (0x1000 * (0xE : Nibble).val + 0x10 * y.val + n.val) % 256 =
      0x10 * y.val + n.val := by omega
  simp only [Instruction.kind_ofDigits, Kind.ofOpcode, hfamily, hbyte]
  split
  · rw [if_pos ‹_›]
  · rw [if_neg (by omega), if_pos ‹_›]
  · rw [if_neg ‹_›, if_neg ‹_›]

/-- The family of skips that ask for a key. -/
theorem pcAfter_keys : m.pcAfter 0xE x y n = m.successor 0xE x y n := by
  have hsuccessor : m.successor 0xE x y n =
      if 0x10 * y.val + n.val = 0x9E then
        if m.keypad.isDown (keyOf (m.regs.get x)) then (m.regs.pc + 4) % 65536
        else (m.regs.pc + 2) % 65536
      else if 0x10 * y.val + n.val = 0xA1 then
        if !m.keypad.isDown (keyOf (m.regs.get x)) then (m.regs.pc + 4) % 65536
        else (m.regs.pc + 2) % 65536
      else (m.regs.pc + 2) % 65536 := rfl
  have hkind := kind_ofDigits_keys x y n
  rw [hsuccessor]
  split at hkind
  case isTrue hdown =>
    rw [if_pos hdown]
    simp only [pcAfter, execute, hkind, pc_skipIf_past, Instruction.x_ofDigits]
    rfl
  case isFalse hdown =>
    rw [if_neg hdown]
    split at hkind
    case isTrue hup =>
      rw [if_pos hup]
      simp only [pcAfter, execute, hkind, pc_skipIf_past, Instruction.x_ofDigits]
      rfl
    case isFalse hup =>
      rw [if_neg hup]
      exact pc_execute_past (by rw [hkind]; decide)

variable {m}

/-- The family of returns. -/
theorem Bounded.pcAfter_return (h : m.Bounded)
    (hn : ((m.past (.ofDigits 0x0 x y n)).execute (.ofDigits 0x0 x y n)).2 = none) :
    m.pcAfter 0x0 x y n = m.successor 0x0 x y n := by
  have hkind := Instruction.kind_ofDigits_of_ne 0x0 x y n (by decide) (by decide)
  by_cases hlast : n = 0xE
  · subst hlast
    exact h.pc_return hkind hn
  · have hstraight : ∀ last : Nibble, last ≠ 0xE →
      Kind.ofOpcode (0x1000 * (0x0 : Nibble).val + last.val) ∉ leaps := by decide
    have hval : n.val ≠ 0xE := fun h => hlast (Fin.ext h)
    exact (pc_execute_past (hkind ▸ hstraight n hlast)).trans (if_neg hval).symm

/-- Of the opcodes `Fxkk` one may stay where it is, and the others do not leap. -/
theorem kind_ofDigits_misc : (Instruction.ofDigits 0xF x y n).kind = .awaitKey ∧
      0x10 * y.val + n.val = 0x0A ∨
    (Instruction.ofDigits 0xF x y n).kind ∉ leaps ∧ 0x10 * y.val + n.val ≠ 0x0A := by
  have hfamily : (0x1000 * (0xF : Nibble).val + 0x10 * y.val + n.val) / 4096 = 0xF := by omega
  have hbyte : (0x1000 * (0xF : Nibble).val + 0x10 * y.val + n.val) % 256 =
      0x10 * y.val + n.val := by omega
  simp only [Instruction.kind_ofDigits, Kind.ofOpcode, hfamily, hbyte]
  split
  case h_2 hbyte => exact .inl ⟨rfl, hbyte⟩
  all_goals exact .inr ⟨by decide, by omega⟩

/-- The family of requests for a key. -/
theorem Bounded.pcAfter_await (h : m.Bounded) : m.pcAfter 0xF x y n = m.successor 0xF x y n := by
  have hsuccessor : m.successor 0xF x y n =
      if 0x10 * y.val + n.val = 0x0A ∧ m.KeysUp then m.regs.pc
      else (m.regs.pc + 2) % 65536 := rfl
  rw [hsuccessor, pcAfter]
  rcases kind_ofDigits_misc x y n with ⟨hk, hbyte⟩ | ⟨hstraight, hbyte⟩
  · rw [h.pc_awaitKey hk]
    simp only [hbyte, true_and]
  · rw [pc_execute_past hstraight, if_neg fun hkey => hbyte hkey.1]

/-- A family none of whose kinds moves the program counter itself. -/
theorem pcAfter_straight (f : Nibble) (hE : f ≠ 0xE) (hF : f ≠ 0xF)
    (h : ∀ n : Nibble, Kind.ofOpcode (0x1000 * f.val + n.val) ∉ leaps) :
    m.pcAfter f x y n = (m.regs.pc + 2) % 65536 :=
  pc_execute_past (Instruction.kind_ofDigits_of_ne f x y n hE hF ▸ h n)

end Families

/-- **An instruction leads to the successor,** given that it is carried out. -/
theorem Bounded.pcAfter_eq_successor (h : m.Bounded) (f x y n : Nibble)
    (hn : ((m.past (.ofDigits f x y n)).execute (.ofDigits f x y n)).2 = none) :
    m.pcAfter f x y n = m.successor f x y n := by
  obtain ⟨h3, h4, h5, h9⟩ := m.pcAfter_compare x y n
  match f with
  | 0x0 => exact h.pcAfter_return x y n hn
  | 0x1 =>
    have hk : (Instruction.ofDigits 0x1 x y n).kind = .jump :=
      Instruction.kind_ofDigits_of_forall x y n (by decide) (by decide) (by decide)
    simp only [pcAfter, Machine.execute, hk, Instruction.val_nnn_ofDigits]
    rfl
  | 0x2 =>
    have hk : (Instruction.ofDigits 0x2 x y n).kind = .call :=
      Instruction.kind_ofDigits_of_forall x y n (by decide) (by decide) (by decide)
    rw [pcAfter, h.pc_call hk hn, Instruction.val_nnn_ofDigits]
    rfl
  | 0x3 => exact h3
  | 0x4 => exact h4
  | 0x5 => exact h5
  | 0x9 => exact h9
  | 0xB =>
    have hk : (Instruction.ofDigits 0xB x y n).kind = .jumpOffset :=
      Instruction.kind_ofDigits_of_forall x y n (by decide) (by decide) (by decide)
    simp only [pcAfter, Machine.execute, hk, Instruction.val_nnn_ofDigits]
    rfl
  | 0xE => exact m.pcAfter_keys x y n
  | 0xF => exact h.pcAfter_await x y n
  | 0x6 | 0x7 | 0x8 | 0xA | 0xC | 0xD =>
    exact pcAfter_straight x y n _ (by decide) (by decide) (by decide)
  | ⟨k + 16, hk⟩ => exact absurd hk (by omega)

/-! ### The cycle -/

/-- The next instruction is the one whose digits stand at the counter. -/
theorem nextInstruction_eq_ofDigits {f x y n : Nibble}
    (h : m.memory.wordAt m.regs.pc = 0x1000 * f.val + 0x100 * x.val + 0x10 * y.val + n.val) :
    m.nextInstruction = .ofDigits f x y n := by
  rw [nextInstruction, h, Instruction.ofDigits]
  norm_cast

/-- **A cycle goes on with the successor,** unless it faults. -/
theorem Bounded.pc_cycle (h : m.Bounded) (hh : m.halted = false) (hw : m.regs.keyWait = none)
    (hf : ∀ fault, ¬ m.RunsInto fault) {f x y n : Nibble}
    (hword : m.memory.wordAt m.regs.pc =
      0x1000 * f.val + 0x100 * x.val + 0x10 * y.val + n.val) :
    m.cycle.1.regs.pc = m.successor f x y n := by
  have hins := nextInstruction_eq_ofDigits hword
  have hn : ((m.past m.nextInstruction).execute m.nextInstruction).2 = none :=
    ((h.past m.nextInstruction).execute_cases m.nextInstruction).resolve_right
      fun ⟨fault, hfault⟩ => hf fault (runsInto_iff.2 ⟨hh, hw, hfault⟩)
  rw [cycle_of_carriedOut hh hw hn]
  rw [hins] at hn ⊢
  exact h.pcAfter_eq_successor f x y n hn

/-- A machine that waits stays where it is until a key is down. -/
theorem Bounded.pc_cycle_of_waiting (h : m.Bounded) (hh : m.halted = false) {register : Int}
    (hw : m.regs.keyWait = some register) :
    m.cycle.1.regs.pc = if m.KeysUp then m.regs.pc else (m.regs.pc + 2) % 65536 := by
  obtain ⟨h₀, h₁⟩ := h.regs.keyWait register hw
  have hslot := Registers.slot?_of_lt h₀ (show register < 16 by omega)
  rw [cycle_of_waiting hh hw]
  simp only [← pressedKey_eq_none_iff]
  cases m.pressedKey with
  | none => rfl
  | some key =>
    simp only [Machine.awaitCycle, hslot]
    rfl

/-! ### One skip or the other -/

/-- The machine with an opcode put where its program counter points. -/
def facing (m : Machine) (f x y n : Nibble) : Machine :=
  { m with
    memory := (m.memory.set (Address.wrap m.regs.pc) (.ofNat (0x10 * f.val + x.val))).set
      (Address.wrap (m.regs.pc + 1)) (.ofNat (0x10 * y.val + n.val)) }

/-- At the counter of a machine that faces an opcode stand its four digits. -/
theorem wordAt_facing (m : Machine) (f x y n : Nibble) :
    (m.facing f x y n).memory.wordAt m.regs.pc =
      0x1000 * f.val + 0x100 * x.val + 0x10 * y.val + n.val := by
  have hne : Address.wrap (m.regs.pc + 1) ≠ Address.wrap m.regs.pc := by
    rw [Ne, Address.wrap_eq_iff]
    omega
  rw [Memory.wordAt, facing, Memory.get_set_self, Memory.get_set_of_ne _ _ hne,
    Memory.get_set_self, UInt8.toNat_ofNat', UInt8.toNat_ofNat']
  omega

/-- Whether a machine passes over an instruction when it faces an opcode. -/
def Skips (m : Machine) (f x y n : Nibble) : Prop :=
  (m.facing f x y n).cycle.1.regs.pc = (m.regs.pc + 4) % 65536

/-- Only calls and returns can break off. -/
theorem execute_snd_eq_none (m : Machine) (hk : ins.kind ∉ [Kind.call, .returnFromCall]) :
    (m.execute ins).2 = none := by
  cases hkind : ins.kind
  case call => exact absurd (hkind ▸ List.mem_cons_self) hk
  case returnFromCall => exact absurd (hkind ▸ List.mem_cons_of_mem _ List.mem_cons_self) hk
  all_goals simp only [execute, hkind]

/-- An opcode skips if its condition holds. -/
theorem skips_iff (hh : m.halted = false) (hw : m.regs.keyWait = none) {f x y n : Nibble}
    (hk : (Instruction.ofDigits f x y n).kind ∉ [Kind.call, .returnFromCall]) (condition : Bool)
    (h : (m.facing f x y n).pcAfter f x y n =
      if condition then (m.regs.pc + 4) % 65536 else (m.regs.pc + 2) % 65536) :
    m.Skips f x y n ↔ condition = true := by
  have hins := nextInstruction_eq_ofDigits (m.wordAt_facing f x y n)
  have hn : (((m.facing f x y n).past (m.facing f x y n).nextInstruction).execute
      (m.facing f x y n).nextInstruction).2 = none := by
    rw [hins]
    exact execute_snd_eq_none _ hk
  have hcycle : (m.facing f x y n).cycle.1.regs.pc = (m.facing f x y n).pcAfter f x y n := by
    rw [cycle_of_carriedOut (m := m.facing f x y n) hh hw hn, hins]
    rfl
  rw [Skips, hcycle, h]
  cases condition with
  | true =>
    rw [if_pos rfl]
    exact iff_of_true rfl rfl
  | false =>
    rw [if_neg Bool.false_ne_true]
    exact iff_of_false (by omega) Bool.false_ne_true

/-- **Of each pair of opposite skips with the same operands exactly one skips.** -/
theorem skips_iff_not_skips (hh : m.halted = false) (hw : m.regs.keyWait = none)
    (x y n : Nibble) :
    (m.Skips 0x3 x y n ↔ ¬ m.Skips 0x4 x y n) ∧ (m.Skips 0x5 x y n ↔ ¬ m.Skips 0x9 x y n) ∧
      (m.Skips 0xE x 0x9 0xE ↔ ¬ m.Skips 0xE x 0xA 0x1) := by
  let vx := (m.regs.get x).toNat
  let vy := (m.regs.get y).toNat
  let kk := 0x10 * y.val + n.val
  let key := m.keypad.isDown (Nibble.low vx)
  obtain ⟨h3, h4, h5, h9⟩ := kind_ofDigits_compare x y n
  have hdown : (Instruction.ofDigits 0xE x 0x9 0xE).kind = .skipKeyDown := kind_ofDigits_keys x _ _
  have hup : (Instruction.ofDigits 0xE x 0xA 0x1).kind = .skipKeyUp := kind_ofDigits_keys x _ _
  refine ⟨?_, ?_, ?_⟩
  · rw [skips_iff hh hw (by simp [h3]) (vx = kk) ((m.facing 0x3 x y n).pcAfter_compare x y n).1,
      skips_iff hh hw (by simp [h4]) (vx ≠ kk) ((m.facing 0x4 x y n).pcAfter_compare x y n).2.1]
    simp
  · rw [skips_iff hh hw (by simp [h5]) (vx = vy) ((m.facing 0x5 x y n).pcAfter_compare x y n).2.2.1,
      skips_iff hh hw (by simp [h9]) (vx ≠ vy) ((m.facing 0x9 x y n).pcAfter_compare x y n).2.2.2]
    simp
  · rw [skips_iff hh hw (by simp [hdown]) key ((m.facing 0xE x 0x9 0xE).pcAfter_keys x 0x9 0xE),
      skips_iff hh hw (by simp [hup]) (!key) ((m.facing 0xE x 0xA 0x1).pcAfter_keys x 0xA 0x1)]
    simp

/-! ### Every reachable state -/

/-- **Where a program goes on.**  Whatever a host has done with a new machine: if it neither waits
nor is halted and its next instruction does not fault, the cycle leads to the successor of the
opcode at the program counter.  If it waits for a key, the cycle leads past the instruction exactly
if a key is down.  And of two opposite skips that it may face, exactly one skips. -/
theorem run_new_pc (keyScan : KeyScan) (seed : Option Int) (calls : List HostCall) :
    let m := (new keyScan seed).run calls
    (m.halted = false → m.regs.keyWait = none →
      ((∀ fault, ¬ m.RunsInto fault) → ∀ f x y n : Nibble,
        m.memory.wordAt m.regs.pc = 0x1000 * f.val + 0x100 * x.val + 0x10 * y.val + n.val →
          m.cycle.1.regs.pc = m.successor f x y n) ∧
      ∀ x y n, (m.Skips 0x3 x y n ↔ ¬ m.Skips 0x4 x y n) ∧
        (m.Skips 0x5 x y n ↔ ¬ m.Skips 0x9 x y n) ∧
        (m.Skips 0xE x 0x9 0xE ↔ ¬ m.Skips 0xE x 0xA 0x1)) ∧
    ∀ register, m.regs.keyWait = some register →
      m.cycle.1.regs.pc = if m.KeysUp then m.regs.pc else (m.regs.pc + 2) % 65536 := by
  intro m
  have hb : m.Bounded := (bounded_new keyScan seed).run calls
  have hwaits : m.WaitsAtInstruction :=
    run_preserves (P := WaitsAtInstruction) (fun _ c h => h.serve c) _ calls
      (waitsAtInstruction_of_running rfl)
  refine ⟨fun hh hw => ⟨fun hf f x y n hword => ?_, m.skips_iff_not_skips hh hw⟩,
    fun register hw => ?_⟩
  · exact hb.pc_cycle hh hw hf hword
  · exact hb.pc_cycle_of_waiting (hwaits register hw).1 hw

/-- A program that begins with a skip whose condition holds. -/
theorem atStart_skip (random : Twister) :
    let m := atStart .reference .released random [0x34, 0x00]
    (∀ fault, ¬ m.RunsInto fault) ∧ m.memory.wordAt m.regs.pc = 0x3400 ∧
      m.successor 0x3 0x4 0x0 0x0 = 0x204 := by
  intro m
  have hnext : m.nextInstruction = .decode 0x3400 := by
    rw [nextInstruction_atStart]
    decide
  refine ⟨?_, ?_, ?_⟩
  · rintro fault ⟨-, -, ⟨hkind, -⟩ | ⟨hkind, -⟩⟩ <;> exact absurd (hnext ▸ hkind) (by decide)
  · rw [show m.regs.pc = 0x200 from rfl, wordAt_atStart]
    decide
  · rfl

/-- A program that begins by asking for a key waits for it after one cycle. -/
theorem atStart_await (random : Twister) :
    let m := ((atStart .reference .released random [0xF3, 0x0A]).serve .cycle).1
    m.regs.keyWait = some 3 ∧ m.KeysUp ∧ m.regs.pc = 0x200 := by
  intro m
  have hnext : (atStart .reference .released random [0xF3, 0x0A]).nextInstruction =
      .decode 0xF30A := by
    rw [nextInstruction_atStart]
    decide
  have hm : m = { atStart .reference .released random [0xF3, 0x0A] with
      regs := { (atStart .reference .released random [0xF3, 0x0A]).regs with keyWait := some 3 }
      cycles := 1 } := by
    rw [show m = (serve _ .cycle).1 from rfl, serve, cycle_of_running rfl rfl, executeCycle, hnext]
    rfl
  rw [hm]
  exact ⟨rfl, fun key _ => Keypad.isDown_released key, rfl⟩

/-- A skip that is taken, and a wait that goes on. -/
theorem run_new_pc_skip_and_wait :
    let m := (new .reference (some 7)).run [.load [0x34, 0x00]]
    let k := (new .reference (some 7)).run [.load [0xF3, 0x0A], .cycle]
    (m.halted = false ∧ m.regs.keyWait = none ∧ (∀ fault, ¬ m.RunsInto fault) ∧
      m.memory.wordAt m.regs.pc = 0x3400 ∧ m.cycle.1.regs.pc = 0x204) ∧
    k.regs.keyWait = some 3 ∧ k.cycle.1.regs.pc = 0x200 := by
  obtain ⟨hgoes, -⟩ := run_new_pc .reference (some 7) [.load [0x34, 0x00]]
  obtain ⟨-, hstays⟩ := run_new_pc .reference (some 7) [.load [0xF3, 0x0A], .cycle]
  have hm : (new .reference (some 7)).run [.load [0x34, 0x00]] = atStart .reference .released _ _ :=
    @serve_load_eq_atStart _ [0x34, 0x00] (by decide)
  have hk : (new .reference (some 7)).run [.load [0xF3, 0x0A], .cycle] =
      ((atStart .reference .released _ _).serve .cycle).1 :=
    congrArg (fun n => (n.serve .cycle).1) (@serve_load_eq_atStart _ [0xF3, 0x0A] (by decide))
  simp only [hm, hk] at hgoes hstays ⊢
  obtain ⟨hfault, hword, hsuccessor⟩ := atStart_skip (new .reference (some 7)).random
  obtain ⟨hwait, hup, hpc⟩ := atStart_await (new .reference (some 7)).random
  refine ⟨⟨rfl, rfl, hfault, hword, ?_⟩, hwait, ?_⟩
  · have hcycle := (hgoes rfl rfl).1 hfault 0x3 0x4 0x0 0x0 (hword.trans (by decide))
    exact hcycle.trans hsuccessor
  · rw [hstays 3 hwait, if_pos hup, hpc]

end Machine
end Chip8
