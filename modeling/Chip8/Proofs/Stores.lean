/-
# The last store wins

Two kinds of instruction store bytes, and `Instruction.stores` says which and
where: `Fx33` the three decimal digits of a register, `Fx55` the registers up to
`Vx`, both from the index register on and round the end of the memory.  A
session's `history` is the row of all stores of its cycles, read off the
instructions that the cycles tell of.

The memory at the end of a session is the memory at its start with the history
stored over it (`memory_run`): one instruction stores what it lists, a cycle what
its instruction stores, and no other call stores anything, short of starting over.
So a byte is what was last stored there, and otherwise what the load has put there
(`memory_get_run_load`).  Nothing in this asks whether a program stores over its
own code.
-/

import Chip8.Proofs.Records

namespace Chip8

/-- What an instruction stores, in the order in which it stores it. -/
def Instruction.stores (ins : Instruction) (r : Registers) : List (Address × UInt8) :=
  let vx := r.get ins.x
  match ins.kind with
  | .storeDigits =>
    [(Address.wrap (r.i + 0), vx / 100), (Address.wrap (r.i + 1), vx / 10 % 10),
      (Address.wrap (r.i + 2), vx % 10)]
  | .storeRegisters => (Register.upTo ins.x).map fun k => (Address.wrap (r.i + k.val), r.get k)
  | _ => []

/-- The memory after a row of stores. -/
def Memory.storeAll {size : Nat} (m : Memory size) (stores : List (Fin size × UInt8)) :
    Memory size :=
  stores.foldl (fun m (a, b) => m.set a b) m

namespace Machine

/-- What the next cycle does. -/
def nextActivity (m : Machine) : Activity :=
  match m.cycle.2 with
  | .ok s => s.activity
  | .error e => e.activity

/-- What a call of the host makes the machine store: what the instruction of a cycle stores. -/
def stores (m : Machine) : HostCall → List (Address × UInt8)
  | .cycle =>
    match m.nextActivity.instruction? with
    | some ins => ins.stores m.regs
    | none => []
  | _ => []

/-- The stores of a session, from the first to the last. -/
def history (m : Machine) : List HostCall → List (Address × UInt8)
  | [] => []
  | c :: calls => m.stores c ++ (m.serve c).1.history calls

end Machine

/-! ### Rows of stores -/

namespace Memory

variable {size : Nat}

/-- The stores of two rows are made one row after the other. -/
theorem storeAll_append (m : Memory size) (stores more : List (Fin size × UInt8)) :
    m.storeAll (stores ++ more) = (m.storeAll stores).storeAll more := List.foldl_append

/-- After a row of stores a byte is the last one that was stored there. -/
theorem get_storeAll (m : Memory size) (stores : List (Fin size × UInt8)) (a : Fin size) :
    (m.storeAll stores).get a = (stores.reverse.lookup a).getD (m.get a) := by
  -- The last store is the one that counts, so the induction adds stores at the end.
  induction stores using List.reverseRecOn with
  | nil => rfl
  | append_singleton stores s ih =>
    obtain ⟨c, b⟩ := s
    have hlast : m.storeAll (stores ++ [(c, b)]) = (m.storeAll stores).set c b :=
      m.storeAll_append stores [(c, b)]
    rw [hlast, get_set, List.reverse_concat, List.lookup_cons]
    by_cases hca : c = a
    · rw [if_pos hca, beq_iff_eq.2 hca.symm]
      rfl
    · rw [if_neg hca, beq_eq_false_iff_ne.2 (Ne.symm hca), ih]

/-- A block of bytes from the index register on is a row of stores. -/
theorem storeAt_eq_storeAll (m : Memory 4096) (r : Registers) (bytes : List UInt8) :
    m.storeAt r bytes = m.storeAll (bytes.zipIdx.map fun (b, k) => (r.indexed k, b)) := by
  rw [storeAt, storeAll, List.foldl_map]

end Memory

/-- The registers up to a last one are numbered from the first on. -/
theorem Register.zipIdx_upTo (last : Register) :
    (upTo last).zipIdx = (upTo last).map fun k => (k, k.val) := by
  revert last
  decide

namespace Machine

/-- **An instruction stores what it lists,** and nothing else. -/
theorem memory_execute (m : Machine) (ins : Instruction) :
    (m.execute ins).1.memory = m.memory.storeAll (ins.stores m.regs) := by
  by_cases hk : ins.kind ∈ [.storeDigits, .storeRegisters]
  · simp only [List.mem_cons, List.not_mem_nil, or_false] at hk
    rcases hk with hk | hk
    · simp only [execute, Instruction.stores, hk]
      exact m.memory.storeAt_eq_storeAll m.regs _
    · simp only [execute, Instruction.stores, hk]
      rw [Memory.storeAt_eq_storeAll, List.zipIdx_map, List.map_map, Register.zipIdx_upTo,
        List.map_map]
      rfl
  · have hnone : ins.stores m.regs = [] := by
      simp only [List.mem_cons, List.not_mem_nil, or_false, not_or] at hk
      unfold Instruction.stores
      split
      · exact absurd ‹_› hk.1
      · exact absurd ‹_› hk.2
      · rfl
    rw [hnone, (m.execute_footprint ins).memory hk]
    rfl

/-- A cycle tells of the instruction that is due, also if the instruction breaks off. -/
theorem instruction?_nextActivity (m : Machine) : m.nextActivity.instruction? = m.due? := by
  unfold nextActivity
  by_cases hh : m.halted = true
  · rw [due?_of_halted hh, cycle_of_halted hh]
    rfl
  · rw [Bool.not_eq_true] at hh
    rcases hw : m.regs.keyWait with _ | register
    · rw [due?_of_running hh hw, cycle_of_running hh hw, executeCycle]
      rcases (m.past m.nextInstruction).execute m.nextInstruction with ⟨n, _ | ⟨f⟩ | ⟨e⟩⟩ <;> rfl
    · rw [due?_of_waiting hw, cycle_of_waiting hh hw]
      unfold awaitCycle
      cases m.pressedKey with
      | none => rfl
      | some key => cases Registers.slot? register <;> rfl

/-- A cycle stores what its instruction stores. -/
theorem stores_cycle {m : Machine} {ins : Instruction} (hdue : m.due? = some ins) :
    m.stores .cycle = ins.stores m.regs := by
  rw [stores, instruction?_nextActivity, hdue]

/-- A cycle stores what its instruction stores. -/
theorem memory_cycle (m : Machine) : m.cycle.1.memory = m.memory.storeAll (m.stores .cycle) := by
  rcases m.cycle_footprint with ⟨hidle, regs, cycles, hcycle⟩ |
    ⟨hdue, halted, fault, faultText, cycles, hcycle⟩
  · have hnone : m.stores .cycle = [] := by
      rw [stores, instruction?_nextActivity, hidle]
    rw [hcycle, hnone]
    rfl
  · rw [hcycle, stores_cycle hdue]
    exact (m.past m.nextInstruction).memory_execute m.nextInstruction

/-- A call that does not make the machine start over stores what it lists. -/
theorem memory_serve (m : Machine) {c : HostCall} (hc : c.startsOver = false) :
    (m.serve c).1.memory = m.memory.storeAll (m.stores c) := by
  rcases m.serve_cases c with ⟨hover, -⟩ | rfl | ⟨-, hcycle, keypad, timers, screen, hserve⟩
  · rw [hc] at hover
    exact absurd hover Bool.false_ne_true
  · exact m.memory_cycle
  · have hnone : m.stores c = [] := by
      cases c with
      | cycle => exact absurd rfl hcycle
      | load | reset | tick | keyDown | keyUp | releaseKeys | takeDirty | frame | clearScreen
      | togglePixel => rfl
    rw [hserve, hnone]
    rfl

/-- **The memory is its history.**  After a session in which the machine does not start over, the
memory is that of the beginning with all that was stored since stored over it. -/
theorem memory_run (m : Machine) {calls : List HostCall}
    (hcalls : ∀ c ∈ calls, c.startsOver = false) :
    (m.run calls).memory = m.memory.storeAll (m.history calls) := by
  induction calls generalizing m with
  | nil => rfl
  | cons c calls ih =>
    obtain ⟨hc, hcalls⟩ := List.forall_mem_cons.1 hcalls
    rw [run_cons, ih (m.serve c).1 hcalls, m.memory_serve hc, history, Memory.storeAll_append]

/-- A program that fits starts from a state that is up to the program, the mode, the keys and the
generator alone. -/
theorem serve_load_eq_atStart (k : Machine) {program : List UInt8}
    (hlength : program.length ≤ capacity) :
    (k.serve (.load (program.map fun b => (b.toNat : Int)))).1 =
      atStart k.keyScan k.keypad k.random program := by
  simp only [serve, k.load_eq_atStart program hlength, settle]

/-- **The last store wins.**  After the load of a program that fits, and whatever a host does then
short of another load or a reset, each byte of the memory is the one that an instruction has last
stored there; and if none has stored anything there, it is what the load has put there. -/
theorem memory_get_run_load (k : Machine) {program : List UInt8} (hlength : program.length ≤ 3584)
    {calls : List HostCall} (hcalls : ∀ c ∈ calls, c.startsOver = false) (a : Address) :
    let m := (k.serve (.load (program.map fun b => (b.toNat : Int)))).1
    (m.run calls).memory.get a =
        ((m.history calls).reverse.lookup a).getD ((Memory.image program).get a) ∧
      ((∀ s ∈ m.history calls, s.1 ≠ a) →
        (m.run calls).memory.get a = (Memory.image program).get a) := by
  intro m
  have hstart : m.memory = Memory.image program := by
    rw [show m = _ from k.serve_load_eq_atStart hlength]
    rfl
  have hlast : (m.run calls).memory.get a =
      ((m.history calls).reverse.lookup a).getD ((Memory.image program).get a) := by
    rw [m.memory_run hcalls, Memory.get_storeAll, hstart]
  refine ⟨hlast, fun hnever => ?_⟩
  have hnone : (m.history calls).reverse.lookup a = none := by
    rw [List.lookup_eq_none_iff]
    intro s hs
    exact bne_iff_ne.2 (Ne.symm (hnever s (List.mem_reverse.1 hs)))
  rw [hlast, hnone, Option.getD_none]

/-- A program that stores a register over its own first byte. -/
theorem memory_get_run_load_over_code :
    let k := new .full (some 7)
    let program : List UInt8 := [0xA2, 0x00, 0xF0, 0x55]
    let calls : List HostCall := [.cycle, .cycle]
    let a := Address.wrap 0x200
    let m := (k.serve (.load (program.map fun b => (b.toNat : Int)))).1
    program.length ≤ 3584 ∧ (∀ c ∈ calls, c.startsOver = false) ∧
      m.history calls = [(a, 0x00)] ∧
      (Memory.image program).get a = 0xA2 ∧ (m.run calls).memory.get a = 0x00 := by
  intro k program calls a m
  have hlength : program.length ≤ 3584 := by decide
  have hcalls : ∀ c ∈ calls, c.startsOver = false := by decide
  -- The first cycle puts the address of the program in the index register.
  let start := atStart k.keyScan k.keypad k.random program
  have hfirst : start.nextInstruction = .decode 0xA200 := by
    rw [nextInstruction_atStart]
    decide
  let next : Machine :=
    { start with regs := { start.regs with i := 0x200, pc := 0x202 }, cycles := 1 }
  have hnext : start.cycle.1 = next := by
    rw [cycle_of_running rfl rfl, executeCycle, hfirst]
    rfl
  have hnone : start.stores .cycle = [] := by
    rw [stores_cycle (due?_of_running rfl rfl), hfirst]
    decide
  -- The second one stores the first register there.
  have hsecond : next.nextInstruction = .decode 0xF055 := by
    have hhigh : (Memory.image program).get (Address.wrap 0x202) = program.getD 2 0 :=
      Memory.get_image program _
    have hlow : (Memory.image program).get (Address.wrap (0x202 + 1)) = program.getD 3 0 :=
      Memory.get_image program _
    rw [nextInstruction, Memory.wordAt]
    simp only [next, start, atStart, hhigh, hlow]
    decide
  have hstored : next.stores .cycle = [(a, 0x00)] := by
    rw [stores_cycle (due?_of_running rfl rfl), hsecond]
    decide
  have hhistory : m.history calls = [(a, 0x00)] := by
    have hcycles : ∀ n : Machine, n.history calls = n.stores .cycle ++ n.cycle.1.stores .cycle :=
      fun n => by simp only [calls, history, serve, List.append_nil]
    have hm : m = start := k.serve_load_eq_atStart hlength
    rw [hm, hcycles, hnone, hnext, hstored, List.nil_append]
  have hcode : (Memory.image program).get (Address.wrap 0x200) = program.getD 0 0 :=
    Memory.get_image program _
  obtain ⟨hget, -⟩ := memory_get_run_load k hlength hcalls a
  refine ⟨hlength, hcalls, hhistory, hcode.trans (by decide), ?_⟩
  rw [hget, hhistory]
  rfl

end Machine
end Chip8
