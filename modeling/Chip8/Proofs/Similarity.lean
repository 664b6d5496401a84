/-
# What a program cannot see

The program counter, the index register and the stack entries have sixteen bits,
but memory is addressed by twelve, and a program has no way to look at the other
four.  Nor can it see the stack entries that are not in use, the sound timer, or
what the machine keeps for its host: the dirty flag, the count of cycles, the
size of the program and the numbers in a fault.

`Machine.Similar` is agreement on all the rest.  It is a bisimulation: similar
machines stay similar under everything a host may do (`Similar.serve`), and
their cycles carry out the same instruction, or none, and fault together.  The
case to look at is `Similar.execute`.  High bits travel, from the counter to the
stack with a call and back with a return, and through the index register; what
keeps them out of sight is that 65536 is a multiple of 4096, so that sums and
skips modulo 65536 respect the low twelve bits, and that each access reduces its
address to these.
-/

import Chip8.Proofs.Faults

namespace Chip8

/-- Registers that a program cannot tell apart. -/
structure Registers.Similar (r s : Registers) : Prop where
  v : r.v = s.v
  i : r.i % 4096 = s.i % 4096
  pc : r.pc % 4096 = s.pc % 4096
  sp : r.sp = s.sp
  /-- Only the entries in use count. -/
  stack : ∀ k : Nibble, (k.val : Int) < r.sp →
    ((Cells.get r.stack k).toNat : Int) % 4096 = ((Cells.get s.stack k).toNat : Int) % 4096
  keyWait : r.keyWait = s.keyWait

/-- Machines that a program cannot tell apart. -/
structure Machine.Similar (m k : Machine) : Prop where
  regs : m.regs.Similar k.regs
  memory : m.memory = k.memory
  pixels : m.screen.rows = k.screen.rows
  keypad : m.keypad = k.keypad
  delay : m.timers.delay = k.timers.delay
  random : m.random = k.random
  keyScan : m.keyScan = k.keyScan
  halted : m.halted = k.halted
  fault : m.fault.map Fault.kind = k.fault.map Fault.kind

/-- Answers to a cycle that tell of the same instruction, or none, and of faults of one kind, or
none. -/
structure Snapshot.Similar (s t : Snapshot) : Prop where
  instruction : s.activity.instruction? = t.activity.instruction?
  fault : s.fault.map Fault.kind = t.fault.map Fault.kind

/-! ### Registers -/

namespace Registers

variable {r s : Registers}

/-- Similar registers hold the same bytes. -/
theorem Similar.get (h : r.Similar s) (x : Register) : r.get x = s.get x := by
  rw [Registers.get, Registers.get, h.v]

/-- Registers stay similar if both get the same bytes. -/
theorem Similar.withV (h : r.Similar s) (v : Vector UInt8 16) :
    ({ r with v } : Registers).Similar { s with v } :=
  { h with v := rfl }

/-- Registers stay similar if the same one is set to the same byte in both. -/
theorem Similar.set (h : r.Similar s) (x : Register) (b : UInt8) :
    (r.set x b).Similar (s.set x b) :=
  { h with v := by simp only [Registers.set, h.v] }

/-- The program counters need to agree in their low twelve bits only. -/
theorem Similar.withPc (h : r.Similar s) {a b : Int} (hab : a % 4096 = b % 4096) :
    ({ r with pc := a } : Registers).Similar { s with pc := b } :=
  { h with pc := hab }

/-- So do the index registers. -/
theorem Similar.withI (h : r.Similar s) {a b : Int} (hab : a % 4096 = b % 4096) :
    ({ r with i := a } : Registers).Similar { s with i := b } :=
  { h with i := hab }

/-- The index register is looked at through its low twelve bits. -/
theorem Similar.indexed (h : r.Similar s) (offset : Nat) : r.indexed offset = s.indexed offset := by
  rw [Registers.indexed, Registers.indexed, Address.wrap_eq_iff]
  have := h.i
  omega

/-- A call keeps addresses that agree in their low twelve bits. -/
theorem Similar.push (h : r.Similar s) (h₀ : 0 ≤ r.sp) (h₁ : r.sp < 16) {a b : Int}
    (hab : a % 4096 = b % 4096) : (r.push a).1.Similar (s.push b).1 := by
  rw [push_of_room h₀ h₁, push_of_room (h.sp ▸ h₀) (h.sp ▸ h₁), ← h.sp]
  refine { h with sp := rfl, stack := fun k hk => ?_ }
  simp only [Cells.get_set]
  by_cases hlow : Nibble.low r.sp = k
  · rw [if_pos hlow, if_pos hlow, toNat_kept, toNat_kept]
    omega
  · -- Any other entry below the new pointer is below the old one.
    rw [if_neg hlow, if_neg hlow]
    refine h.stack k ?_
    have hne : (k.val : Int) ≠ r.sp := fun he => hlow (by
      rw [Fin.ext_iff]
      have := Nibble.val_low r.sp
      omega)
    simp only at hk
    omega

/-- A return finds addresses that agree in their low twelve bits. -/
theorem Similar.pop (h : r.Similar s) :
    ({ r with sp := r.sp - 1 } : Registers).Similar { s with sp := s.sp - 1 } := by
  refine { h with sp := by rw [h.sp], stack := fun k hk => h.stack k ?_ }
  simp only at hk
  omega

end Registers

/-! ### Memory and screen -/

/-- Similar registers store a block at the same addresses, since these are reduced to twelve bits.
-/
theorem Memory.storeAt_congr {r s : Registers} (h : r.Similar s) (m : Memory 4096)
    (bytes : List UInt8) : m.storeAt r bytes = m.storeAt s bytes := by
  simp only [storeAt, h.indexed]

section Screen

variable {width height : Nat} {s t : Screen width height}

/-- A pixel depends on the rows of its screen, and not on whether there is something to draw. -/
theorem Screen.get_congr (h : s.rows = t.rows) (x : Fin width) (y : Fin height) :
    s.get x y = t.get x y := by
  rw [get, get, h]

/-- So does a flip. -/
theorem Screen.rows_flip_congr (h : s.rows = t.rows) (x : Fin width) (y : Fin height) :
    (s.flip x y).rows = (t.flip x y).rows := by
  rw [flip, flip, h, get_congr h]

/-- Flipping pixels does not depend on the dirty flag. -/
theorem Screen.flipAll_congr (h : s.rows = t.rows) (points : List (Fin width × Fin height)) :
    (s.flipAll points).1.rows = (t.flipAll points).1.rows ∧
      (s.flipAll points).2 = (t.flipAll points).2 := by
  unfold flipAll
  generalize false = hit
  induction points generalizing s t hit with
  | nil => exact ⟨h, rfl⟩
  | cons p points ih =>
    simp only [List.foldl_cons, get_congr h]
    exact ih (rows_flip_congr h p.1 p.2) _

/-- Similar registers draw the same sprite: it comes from the same addresses and goes to the same
place. -/
theorem drawSprite_congr {r q : Registers} (hr : r.Similar q) (ins : Instruction)
    (memory : Memory 4096) (h : s.rows = t.rows) :
    (drawSprite ins r memory s).1.Similar (drawSprite ins q memory t).1 ∧
      (drawSprite ins r memory s).2.rows = (drawSprite ins q memory t).2.rows := by
  simp only [drawSprite, hr.get, hr.indexed]
  obtain ⟨hrows, hhit⟩ := Screen.flipAll_congr h _
  rw [hhit]
  exact ⟨hr.set _ _, hrows⟩

end Screen

/-! ### Instructions -/

namespace Machine

variable {m k : Machine}

/-- Machines stay similar if they get similar registers. -/
theorem Similar.withRegs (h : m.Similar k) {r s : Registers} (hr : r.Similar s) :
    ({ m with regs := r } : Machine).Similar { k with regs := s } :=
  { h with regs := hr }

/-- Machines stay similar if the same register is set to the same byte in both. -/
theorem Similar.setV (h : m.Similar k) (x : Register) (b : UInt8) :
    (m.setV x b).Similar (k.setV x b) :=
  h.withRegs (h.regs.set x b)

/-- Machines stay similar if they go on at places that agree in their low twelve bits. -/
theorem Similar.setPc (h : m.Similar k) {a b : Int} (hab : a % 4096 = b % 4096) :
    (m.setPc a).Similar (k.setPc b) :=
  h.withRegs (h.regs.withPc hab)

/-- Machines stay similar if they get the same result and the same flag. -/
theorem Similar.setWithFlag (h : m.Similar k) (x : Register) (result : UInt8 × UInt8) :
    (m.setWithFlag x result).Similar (k.setWithFlag x result) :=
  (h.setV _ _).setV _ _

/-- A step modulo 65536 is a step modulo 4096. -/
theorem Similar.movePc (h : m.Similar k) (distance : Int) :
    (m.setPc ((m.regs.pc + distance) % 65536)).Similar
      (k.setPc ((k.regs.pc + distance) % 65536)) := by
  have hpc := h.regs.pc
  exact h.setPc (by omega)

/-- Machines stay similar if both skip, or neither does. -/
theorem Similar.skipIf (h : m.Similar k) (condition : Bool) :
    (m.skipIf condition).Similar (k.skipIf condition) := by
  cases condition with
  | true => exact h.movePc 2
  | false => exact h

/-- Similar machines find the same key. -/
theorem Similar.pressedKey (h : m.Similar k) : m.pressedKey = k.pressedKey := by
  rw [Machine.pressedKey, Machine.pressedKey, h.keypad, h.keyScan]

/-- Machines stay similar if they take the same key, or both wait for one. -/
theorem Similar.takeKey (h : m.Similar k) (x : Register) (key? : Option Nibble) :
    (m.takeKey x key?).Similar (k.takeKey x key?) := by
  cases key? with
  | some key => exact h.setV _ _
  | none =>
    have hpc := h.regs.pc
    refine h.withRegs { h.regs with pc := ?_, keyWait := rfl }
    simp only
    omega

/-- A call keeps machines similar: they keep counters that agree in their low twelve bits, and run
out of room together. -/
theorem Similar.call (h : m.Similar k) (hm : m.Bounded) (address : Address) :
    (m.call address).1.Similar (k.call address).1 := by
  obtain ⟨h₀, h₁⟩ := hm.regs.sp
  have hsp := h.regs.sp
  rcases Int.lt_or_eq_of_le h₁ with hlt | heq
  · have hpush := h.regs.push h₀ hlt h.regs.pc
    simp only [Machine.call, Registers.push_of_room h₀ hlt,
      Registers.push_of_room (hsp ▸ h₀) (hsp ▸ hlt)] at hpush ⊢
    exact h.withRegs (hpush.withPc rfl)
  · simp only [Machine.call, Registers.push_full (show 16 ≤ m.regs.sp by omega),
      Registers.push_full (show 16 ≤ k.regs.sp by omega)]
    exact h

/-- A return keeps machines similar: the slots below their pointers agree in twelve bits, and what
is above is not looked at. -/
theorem Similar.comeBack (h : m.Similar k) (hm : m.Bounded) :
    m.comeBack.1.Similar k.comeBack.1 := by
  obtain ⟨h₀, h₁⟩ := hm.regs.sp
  have hsp := h.regs.sp
  rcases Int.lt_or_eq_of_le h₀ with hlt | heq
  · simp only [Machine.comeBack, Registers.pop_of_pos hlt h₁,
      Registers.pop_of_pos (hsp ▸ hlt) (hsp ▸ h₁)]
    refine h.withRegs (h.regs.pop.withPc ?_)
    -- The entry that is taken off was in use.
    rw [← hsp]
    refine h.regs.stack _ ?_
    rw [Nibble.val_low]
    omega
  · simp only [Machine.comeBack, Registers.pop_empty heq.symm, Registers.pop_empty (hsp ▸ heq.symm)]
    exact h

/-- **An instruction does the same to similar machines.** -/
theorem Similar.execute (h : m.Similar k) (hm : m.Bounded) (ins : Instruction) :
    (m.execute ins).1.Similar (k.execute ins).1 := by
  have hx := h.regs.get ins.x
  have hy := h.regs.get ins.y
  have hi := h.regs.i
  cases hkind : ins.kind <;> simp only [Machine.execute, hkind, hx, hy]
  case call => exact h.call hm _
  case returnFromCall => exact h.comeBack hm
  case awaitKey =>
    rw [h.pressedKey]
    exact h.takeKey _ _
  case skipEqByte | skipNeByte | skipEqReg | skipNeReg => exact h.skipIf _
  case skipKeyDown | skipKeyUp =>
    rw [h.keypad]
    exact h.skipIf _
  case setByte | addByte | copy | or | and | xor => exact h.setV _ _
  case readDelay =>
    rw [h.delay]
    exact h.setV _ _
  case add | subtract | shiftRight | subtractFrom | shiftLeft => exact h.setWithFlag _ _
  case jump => exact h.setPc rfl
  case jumpOffset =>
    rw [h.regs.get]
    exact h.setPc rfl
  case setIndex | fontIndex => exact h.withRegs (h.regs.withI rfl)
  case addIndex => exact h.withRegs (h.regs.withI (by omega))
  case clearScreen => exact { h with pixels := rfl }
  case draw =>
    obtain ⟨hregs, hrows⟩ := drawSprite_congr h.regs ins m.memory h.pixels
    rw [h.memory] at hregs hrows ⊢
    exact { h with regs := hregs, memory := rfl, pixels := hrows }
  case random =>
    rw [h.random]
    have hrandom : ({ m with random := k.random.nextByte.1 } : Machine).Similar
        { k with random := k.random.nextByte.1 } := { h with random := rfl }
    exact hrandom.setV _ _
  case setDelay => exact { h with delay := rfl }
  case setSound => exact { h with }
  case storeDigits =>
    rw [h.memory, Memory.storeAt_congr h.regs]
    exact { h with memory := rfl }
  case storeRegisters =>
    have hget : m.regs.get = k.regs.get := funext h.regs.get
    rw [h.memory, Memory.storeAt_congr h.regs, hget]
    exact { h with memory := rfl }
  case loadRegisters =>
    simp only [h.memory, h.regs.indexed, h.regs.get]
    exact { h with regs := h.regs.withV _, memory := rfl }
  case nop => exact h

/-! ### Cycles and sessions -/

/-- If one machine is similar to another, then so is the other to it. -/
theorem Similar.symm (h : m.Similar k) : k.Similar m where
  regs := {
    v := h.regs.v.symm
    i := h.regs.i.symm
    pc := h.regs.pc.symm
    sp := h.regs.sp.symm
    stack := fun x hx => (h.regs.stack x (h.regs.sp ▸ hx)).symm
    keyWait := h.regs.keyWait.symm }
  memory := h.memory.symm
  pixels := h.pixels.symm
  keypad := h.keypad.symm
  delay := h.delay.symm
  random := h.random.symm
  keyScan := h.keyScan.symm
  halted := h.halted.symm
  fault := h.fault.symm

/-- Similar machines come to the same instruction, since a word is fetched by the low twelve bits of
the counter. -/
theorem Similar.nextInstruction (h : m.Similar k) : m.nextInstruction = k.nextInstruction :=
  nextInstruction_congr h.memory h.regs.pc

/-- Machines stay similar as they go past an instruction. -/
theorem Similar.past (h : m.Similar k) (ins : Instruction) : (m.past ins).Similar (k.past ins) :=
  h.movePc ins.length

/-- Similar machines fault at the same instructions. -/
theorem Similar.faults (h : m.Similar k) {ins : Instruction} {f : Fault} (hf : m.Faults ins f) :
    ∃ g, k.Faults ins g ∧ f.kind = g.kind := by
  cases hf with
  | overflow hk hsp => exact ⟨_, .overflow hk (h.regs.sp ▸ hsp), rfl⟩
  | underflow hk hsp => exact ⟨_, .underflow hk (h.regs.sp ▸ hsp), rfl⟩

/-- An instruction that a machine carries out is carried out by a similar one as well. -/
theorem Similar.stop_eq_none (h : m.Similar k) (hk : k.Bounded) {ins : Instruction}
    (hn : (m.execute ins).2 = none) : (k.execute ins).2 = none := by
  rcases hk.execute_cases ins with hn' | ⟨g, hg⟩
  · exact hn'
  · obtain ⟨f, hf, -⟩ := h.symm.faults hg
    rw [hf.execute_eq] at hn
    cases hn

/-- Two cycles that leave similar machines behind and answer alike. -/
def SimilarCycles (m k : Machine) : Prop :=
  m.cycle.1.Similar k.cycle.1 ∧
    ∃ s t, m.cycle.2 = .ok s ∧ k.cycle.2 = .ok t ∧ s.Similar t

/-- Cycles are similar if they end in similar machines, with the same instruction and the same kind
of fault. -/
theorem similarCycles_of_answer {m' k' : Machine} {activity other : Activity}
    {fault fault' : Option Fault} (hm : m.cycle = m'.answer activity fault)
    (hk : k.cycle = k'.answer other fault') (h : m'.Similar k')
    (hi : activity.instruction? = other.instruction?)
    (hf : fault.map Fault.kind = fault'.map Fault.kind) : m.SimilarCycles k := by
  rw [SimilarCycles, hm, hk]
  exact ⟨{ h with }, _, _, rfl, rfl, ⟨hi, hf⟩⟩

/-- Similar machines that wait go on to wait, or take the same key. -/
theorem Similar.cycle_waiting (h : m.Similar k) (hm : m.Bounded) (hh : m.halted = false)
    {register : Int} (hw : m.regs.keyWait = some register) : m.SimilarCycles k := by
  have hcycle := cycle_of_waiting hh hw
  have hcycle' := cycle_of_waiting (h.halted ▸ hh) (h.regs.keyWait ▸ hw)
  rw [← h.pressedKey] at hcycle'
  obtain ⟨h₀, h₁⟩ := hm.regs.keyWait register hw
  cases hkey : m.pressedKey with
  | none =>
    rw [hkey] at hcycle hcycle'
    exact similarCycles_of_answer hcycle hcycle' h rfl rfl
  | some key =>
    have hslot := Registers.slot?_of_lt h₀ (show register < 16 by omega)
    simp only [hkey, awaitCycle, hslot] at hcycle hcycle'
    have hpc := h.regs.pc
    refine similarCycles_of_answer hcycle hcycle' (Similar.withRegs (h.setV _ _) ?_) rfl rfl
    exact { h.regs.set _ _ with pc := by simp only; omega, keyWait := rfl }

/-- Similar machines carry out the same instruction, and fault together or not at all. -/
theorem Similar.cycle_running (h : m.Similar k) (hm : m.Bounded) (hk : k.Bounded)
    (hh : m.halted = false) (hw : m.regs.keyWait = none) : m.SimilarCycles k := by
  have hh' : k.halted = false := h.halted ▸ hh
  have hw' : k.regs.keyWait = none := h.regs.keyWait ▸ hw
  have hpast := h.past m.nextInstruction
  rcases (hm.past _).execute_cases m.nextInstruction with hn | ⟨f, hf⟩
  · have hn' := hpast.stop_eq_none (hk.past _) hn
    have hexecute := hpast.execute (hm.past _) m.nextInstruction
    have hcycle' := cycle_of_carriedOut hh' hw' (h.nextInstruction ▸ hn')
    rw [← h.nextInstruction] at hcycle'
    exact similarCycles_of_answer (cycle_of_carriedOut hh hw hn) hcycle' hexecute rfl rfl
  · obtain ⟨g, hg, hkind⟩ := hpast.faults hf
    have hcycle := RunsInto.cycle_eq (runsInto_iff.2 ⟨hh, hw, hf⟩)
    have hcycle' := RunsInto.cycle_eq (runsInto_iff.2 ⟨hh', hw', h.nextInstruction ▸ hg⟩)
    have hfault : (some f).map Fault.kind = (some g).map Fault.kind := congrArg some hkind
    rw [SimilarCycles, hcycle, hcycle', ← h.nextInstruction]
    exact ⟨{ h with regs := hpast.regs, halted := rfl, fault := hfault }, _, _, rfl, rfl,
      ⟨rfl, hfault⟩⟩

/-- **The cycles of similar machines are similar.** -/
theorem Similar.cycle (h : m.Similar k) (hm : m.Bounded) (hk : k.Bounded) : m.SimilarCycles k := by
  cases hh : m.halted with
  | true =>
    have hcycle := cycle_of_halted hh
    have hcycle' := cycle_of_halted (h.halted ▸ hh)
    exact similarCycles_of_answer hcycle hcycle' h rfl h.fault
  | false =>
    cases hw : m.regs.keyWait with
    | some register => exact h.cycle_waiting hm hh hw
    | none => exact h.cycle_running hm hk hh hw

/-- A reset keeps machines similar. -/
theorem Similar.reset (h : m.Similar k) : m.reset.Similar k.reset :=
  { regs := ⟨rfl, rfl, rfl, rfl, fun _ _ => rfl, rfl⟩, memory := rfl, pixels := rfl,
    keypad := h.keypad, delay := rfl, random := h.random, keyScan := h.keyScan, halted := rfl,
    fault := rfl }

/-- A tick keeps machines similar. -/
theorem Similar.tick (h : m.Similar k) : m.tick.Similar k.tick :=
  { h with delay := congrArg Timers.countDown h.delay }

/-- Machines stay similar if their keys move alike. -/
theorem Similar.withKeypad (h : m.Similar k) (keypad : Keypad) :
    ({ m with keypad } : Machine).Similar { k with keypad } :=
  { h with keypad := rfl }

/-- Machines stay similar if their screens look alike, whether they are to be drawn or not. -/
theorem Similar.withScreen (h : m.Similar k) {s t : Screen 64 32} (hst : s.rows = t.rows) :
    ({ m with screen := s } : Machine).Similar { k with screen := t } :=
  { h with pixels := hst }

/-- Machines stay similar if they get the same memory and the same program. -/
theorem Similar.withProgram (h : m.Similar k) (memory : Memory 4096) (programSize : Nat) :
    ({ m with memory, programSize } : Machine).Similar { k with memory, programSize } :=
  { h with memory := rfl }

/-- A program that is loaded keeps machines similar. -/
theorem Similar.loaded (h : m.Similar k) (program : List Int) :
    (m.loaded program).Similar (k.loaded program) :=
  h.reset.withProgram _ _

/-- **A call of the host keeps machines similar.** -/
theorem Similar.serve (h : m.Similar k) (hm : m.Bounded) (hk : k.Bounded) (c : HostCall) :
    (m.serve c).1.Similar (k.serve c).1 := by
  cases c with
  | load program =>
    rcases serve_load program with ⟨e, he⟩ | hok
    · rw [he, he]
      exact h
    · rw [hok, hok]
      exact h.loaded program
  | reset => exact h.reset
  | cycle => exact (h.cycle hm hk).1
  | tick => exact h.tick
  | keyDown code =>
    rcases serve_keyDown code with ⟨e, he⟩ | ⟨key, hkey⟩
    · rw [he, he]
      exact h
    · rw [hkey, hkey, h.keypad]
      exact h.withKeypad _
  | keyUp code =>
    rcases serve_keyUp code with ⟨e, he⟩ | ⟨key, hkey⟩
    · rw [he, he]
      exact h
    · rw [hkey, hkey, h.keypad]
      exact h.withKeypad _
  | releaseKeys => exact h.withKeypad _
  | takeDirty => exact h.withScreen h.pixels
  | frame => exact h
  | clearScreen => exact h.withScreen rfl
  | togglePixel x y =>
    rcases serve_togglePixel x y with ⟨e, he⟩ | ⟨p, hp⟩
    · rw [he, he]
      exact h
    · rw [hp, hp]
      exact h.withScreen (Screen.rows_flip_congr h.pixels p.1 p.2)

/-- A session on similar machines keeps them similar, and within their bounds. -/
theorem Similar.run (h : m.Similar k) (hm : m.Bounded) (hk : k.Bounded) (calls : List HostCall) :
    (m.run calls).Similar (k.run calls) :=
  (run_related (R := fun m k => m.Similar k ∧ m.Bounded ∧ k.Bounded)
    (fun _ _ c h => ⟨h.1.serve h.2.1 h.2.2 c, h.2.1.serve c, h.2.2.serve c⟩) m k calls
    ⟨h, hm, hk⟩).1

/-- The machine with other high bits of addresses, other dead stack entries and another record. -/
def shifted (m : Machine) : Machine :=
  { m with
    regs := { m.regs with
      pc := (m.regs.pc + 4096) % 65536
      i := (m.regs.i + 4096) % 65536
      stack := Vector.ofFn fun k : Nibble =>
        if (k.val : Int) < m.regs.sp then Cells.get m.regs.stack k else 0xABC }
    timers := { m.timers with sound := 255 - m.timers.sound }
    screen := { m.screen with dirty := !m.screen.dirty }
    cycles := m.cycles + 1 }

/-- A machine is similar to its shifted twin. -/
theorem similar_shifted (m : Machine) : m.Similar m.shifted := by
  refine ⟨⟨rfl, ?_, ?_, rfl, fun k hk => ?_, rfl⟩, rfl, rfl, rfl, rfl, rfl, rfl, rfl, rfl⟩
  · simp only [shifted]
    omega
  · simp only [shifted]
    omega
  · simp only [shifted, Cells.get, Fin.getElem_fin, Vector.getElem_ofFn, if_pos hk]

/-- The shifted twin of a bounded machine is bounded. -/
theorem Bounded.shifted (h : m.Bounded) : m.shifted.Bounded := by
  obtain ⟨hd, hs₀, hs₁⟩ := h.timers
  refine { regs := ?_, timers := ?_, programSize := h.programSize }
  · exact { i := word_bounds _, pc := word_bounds _, sp := h.regs.sp, keyWait := h.regs.keyWait }
  · exact { delay := hd, sound := by simp only [Machine.shifted]; omega }

/-- **High bits, dead stack entries and the host's records are out of a program's sight.**  Two
similar machines within their bounds stay similar after each of the calls that a host makes on
both; and at any point the next cycle is answered by both, with the same instruction carried out,
or none in both, and with a fault of the same kind, or none in both. -/
theorem run_similar (h : m.Similar k) (hm : m.Bounded) (hk : k.Bounded) (calls : List HostCall) :
    (m.run calls).Similar (k.run calls) ∧
      ∃ s t, (m.run calls).cycle.2 = .ok s ∧ (k.run calls).cycle.2 = .ok t ∧
        s.activity.instruction? = t.activity.instruction? ∧
        s.fault.map Fault.kind = t.fault.map Fault.kind := by
  have hrun := h.run hm hk calls
  obtain ⟨s, t, hs, ht, hst⟩ := (hrun.cycle (hm.run calls) (hk.run calls)).2
  exact ⟨hrun, s, t, hs, ht, hst.instruction, hst.fault⟩

/-- A session on a new machine and on its shifted twin, whose counters, dead slots, sound timer and
dirty flag differ: the two stay similar. -/
theorem run_similar_shifted :
    let m := new .full (some 7)
    let calls : List HostCall := [.cycle, .keyDown 3, .tick, .cycle, .keyUp 99]
    m.Similar m.shifted ∧ m.Bounded ∧ m.shifted.Bounded ∧
      (m.run calls).Similar (m.shifted.run calls) ∧
      ∃ s t, (m.run calls).cycle.2 = .ok s ∧ (m.shifted.run calls).cycle.2 = .ok t ∧
        s.activity.instruction? = t.activity.instruction? ∧
        s.fault.map Fault.kind = t.fault.map Fault.kind := by
  intro m calls
  have hm : m.Bounded := bounded_new .full (some 7)
  exact ⟨m.similar_shifted, hm, hm.shifted, run_similar m.similar_shifted hm hm.shifted calls⟩

end Machine
end Chip8
