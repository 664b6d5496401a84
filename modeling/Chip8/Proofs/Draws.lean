/-
# One random byte for each draw

A machine has a random generator from the beginning, and everything else about it
can be cleared: a reset and a load put registers, memory and screen back, but leave
the generator where it is.  `Machine.draws` is the row of all random instructions
that a session carries out, each with what it puts in its register.

The generator moves on by one byte for each of them and for nothing else, so the
state of a session's generator is the length of the row (`random_run`), and the
`k`-th instruction in the row has got the `k`-th byte, masked (`get_draws`).  What
a machine draws from some point on depends therefore on its seed and on how many it
has drawn, and on nothing else that it has been through (`run_new_draws`).
-/

import Chip8.Proofs.Stores

namespace Chip8

/-! ### A generator further on -/

namespace Twister

/-- To skip bytes in two goes is to skip all of them. -/
theorem skip_add (g : Twister) (n k : Nat) : g.skip (n + k) = (g.skip n).skip k := by
  induction k with
  | zero => rfl
  | succ k ih => rw [← Nat.add_assoc, skip, ih, skip]

/-- Behind some bytes the stream goes on with the next. -/
theorem bytes_skip (g : Twister) (n k : Nat) : (g.skip n).bytes k = g.bytes (n + k) := by
  rw [bytes, bytes, skip_add]

end Twister

namespace Machine

variable {m : Machine} {ins : Instruction}

/-- The draw of a call, read off the instruction that a cycle tells of: a random instruction, and
what it has put in its register. -/
def draw? (m : Machine) : HostCall → Option (Instruction × UInt8)
  | .cycle =>
    match m.nextActivity.instruction? with
    | some ins => if ins.kind = .random then some (ins, m.cycle.1.regs.get ins.x) else none
    | none => none
  | _ => none

/-- The draws of a session, from the first to the last. -/
def draws (m : Machine) : List HostCall → List (Instruction × UInt8)
  | [] => []
  | c :: calls => (m.draw? c).toList ++ (m.serve c).1.draws calls

/-! ### One call -/

/-- A random instruction takes one byte and puts its masked bits in a register. -/
theorem execute_of_random (hk : ins.kind = .random) :
    (m.execute ins).1 =
      { m with random := m.random.skip 1 }.setV ins.x (m.random.bytes 0 &&& ins.kk) := by
  simp only [execute, hk]
  rfl

/-- **A cycle and the generator.**  Either the cycle draws, and takes one byte for it, or it leaves
the generator alone. -/
theorem draw?_cycle (m : Machine) :
    (m.draw? .cycle = none ∧ m.cycle.1.random = m.random) ∨
      ∃ ins, m.draw? .cycle = some (ins, m.random.bytes 0 &&& ins.kk) ∧
        m.cycle.1.random = m.random.skip 1 := by
  rw [draw?, instruction?_nextActivity]
  rcases m.cycle_footprint with ⟨hidle, regs, cycles, hcycle⟩ |
    ⟨hdue, halted, fault, faultText, cycles, hcycle⟩
  · refine .inl ⟨by rw [hidle], ?_⟩
    rw [hcycle]
  · rw [hdue]
    by_cases hk : m.nextInstruction.kind = .random
    · right
      have hexecute := execute_of_random (m := m.past m.nextInstruction) hk
      refine ⟨m.nextInstruction, ?_, ?_⟩
      · simp only [if_pos hk]
        rw [hcycle, hexecute]
        exact congrArg (fun b => some (m.nextInstruction, b)) (Registers.get_set_self _ _ _)
      · rw [hcycle, hexecute]
        rfl
    · left
      have hfoot := (m.past m.nextInstruction).execute_footprint m.nextInstruction
      refine ⟨?_, ?_⟩
      · simp only [if_neg hk]
      · rw [hcycle]
        exact hfoot.random (mt List.mem_singleton.1 hk)

/-- No other call draws, and none reaches the generator, also if it makes the machine start over. -/
theorem draw?_of_ne_cycle (m : Machine) {c : HostCall} (hc : c ≠ .cycle) :
    m.draw? c = none ∧ (m.serve c).1.random = m.random := by
  constructor
  · cases c with
    | cycle => exact absurd rfl hc
    | load | reset | tick | keyDown | keyUp | releaseKeys | takeDirty | frame | clearScreen
    | togglePixel => rfl
  · rcases m.serve_cases c with ⟨-, memory, programSize, -, hserve⟩ | hcycle |
      ⟨-, -, keypad, timers, screen, hserve⟩
    · rw [hserve]
      rfl
    · exact absurd hcycle hc
    · rw [hserve]

/-- **A call and the generator.**  The only calls that reach it are the cycles that draw. -/
theorem draw?_serve (m : Machine) (c : HostCall) :
    (m.draw? c = none ∧ (m.serve c).1.random = m.random) ∨
      ∃ ins, m.draw? c = some (ins, m.random.bytes 0 &&& ins.kk) ∧
        (m.serve c).1.random = m.random.skip 1 := by
  by_cases hc : c = .cycle
  · subst hc
    exact m.draw?_cycle
  · exact .inl (m.draw?_of_ne_cycle hc)

/-! ### Sessions -/

/-- **The state of the generator counts the draws.** -/
theorem random_run (m : Machine) (calls : List HostCall) :
    (m.run calls).random = m.random.skip (m.draws calls).length := by
  induction calls generalizing m with
  | nil => rfl
  | cons c calls ih =>
    rw [run_cons, ih, draws, List.length_append, Twister.skip_add]
    rcases m.draw?_serve c with ⟨hnone, hrandom⟩ | ⟨ins, hdraw, hrandom⟩
    · rw [hnone, hrandom]
      rfl
    · rw [hdraw, hrandom]
      rfl

/-- **The `k`-th draw has got the `k`-th byte.** -/
theorem get_draws {calls : List HostCall} {k : Nat} {b : UInt8}
    (h : (m.draws calls)[k]? = some (ins, b)) : b = m.random.bytes k &&& ins.kk := by
  induction calls generalizing m k with
  | nil => cases h
  | cons c calls ih =>
    rw [draws] at h
    rcases m.draw?_serve c with ⟨hnone, hrandom⟩ | ⟨first, hdraw, hrandom⟩
    · rw [hnone, Option.toList_none, List.nil_append] at h
      rw [← hrandom]
      exact ih h
    · rw [hdraw, Option.toList_some, List.singleton_append] at h
      cases k with
      | zero =>
        rw [List.getElem?_cons_zero] at h
        cases h
        rfl
      | succ k =>
        rw [List.getElem?_cons_succ] at h
        have hbyte := ih h
        rw [hrandom, Twister.bytes_skip, Nat.add_comm] at hbyte
        exact hbyte

/-- **Random bytes are used up by random instructions, one by each, and by nothing else.**  Let `d`
be the stream of bytes of a seed, and `n` the number of random instructions that a session with a
new machine has carried out.  The `k`-th of them has put `d k`, masked, in its register; the
generator has moved on by `n` bytes; and a call that is not a cycle with such an instruction leaves
it alone.  Another machine with this seed that has carried out as many of them, in whatever session,
has its generator in the same state, and from there on the `k`-th draw of either machine is
`d (n + k)`, masked. -/
theorem run_new_draws (keyScan : KeyScan) (seed : Int) (calls : List HostCall) :
    let start := new keyScan (some seed)
    let m := start.run calls
    let d := (Twister.seeded seed).bytes
    let n := (start.draws calls).length
    (∀ k ins b, (start.draws calls)[k]? = some (ins, b) → b = d k &&& ins.kk) ∧
      m.random = (Twister.seeded seed).skip n ∧
      (∀ c, m.draw? c = none → (m.serve c).1.random = m.random) ∧
      ∀ (keyScan' : KeyScan) (calls' : List HostCall),
        let start' := new keyScan' (some seed)
        let m' := start'.run calls'
        (start'.draws calls').length = n →
          m'.random = m.random ∧
            ∀ (more more' : List HostCall) (k : Nat) (ins : Instruction) (b : UInt8),
              (m.draws more)[k]? = some (ins, b) ∨ (m'.draws more')[k]? = some (ins, b) →
                b = d (n + k) &&& ins.kk := by
  intro start m d n
  have hseeded : start.random = Twister.seeded seed := rfl
  have hrandom : m.random = (Twister.seeded seed).skip n := random_run start calls
  refine ⟨fun k ins b h => ?_, hrandom, fun c hc => ?_, ?_⟩
  · rw [get_draws h, hseeded]
  · rcases m.draw?_serve c with ⟨-, hsame⟩ | ⟨ins, hdraw, -⟩
    · exact hsame
    · rw [hc] at hdraw
      cases hdraw
  · intro keyScan' calls' start' m' hn
    have hrandom' : m'.random = (Twister.seeded seed).skip n := by
      rw [← hn]
      exact random_run start' calls'
    refine ⟨hrandom'.trans hrandom.symm, ?_⟩
    rintro more more' k ins b (h | h)
    · rw [get_draws h, hrandom, Twister.bytes_skip]
    · rw [get_draws h, hrandom', Twister.bytes_skip]

end Machine
end Chip8
