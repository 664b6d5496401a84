/-
# Registers to memory and back

`Fx55` stores the registers `V0 … Vx` from the index register on, `Fx65` loads them
from there, and `Fx33` stores the three decimal digits of `Vx`.  All addresses are
taken modulo 4096, so a block may go round the end of the memory.

At most sixteen addresses in a row are all different, whatever the index register
holds (`indexed_inj`).  So no byte of a block is stored over, and each of the three
instructions can be said cell by cell.  What happens when one follows the other is
then read off these statements, and nothing more is asked of the instructions.
-/

import Mathlib.Data.List.Nodup
import Chip8.Proofs.Opcodes
import Chip8.Proofs.Stores

namespace Chip8

/-- Addresses at different distances from the index register are different, as long as the distances
are below the size of the memory. -/
theorem Registers.indexed_inj {r : Registers} {j k : Nat} (hj : j < 4096) (hk : k < 4096) :
    r.indexed j = r.indexed k ↔ j = k := by
  rw [indexed, indexed, Address.wrap_eq_iff]
  omega

namespace Memory

variable {size : Nat} {stores : List (Fin size × UInt8)}

/-- A row of stores does not reach the other addresses. -/
theorem get_storeAll_of_forall_ne (m : Memory size) {a : Fin size} (h : ∀ s ∈ stores, s.1 ≠ a) :
    (m.storeAll stores).get a = m.get a := by
  have hnone : stores.reverse.lookup a = none := by
    rw [List.lookup_eq_none_iff]
    intro s hs
    exact bne_iff_ne.2 (Ne.symm (h s (List.mem_reverse.1 hs)))
  rw [get_storeAll, hnone, Option.getD_none]

/-- In a row of stores to different addresses each of them lasts. -/
theorem get_storeAll_of_mem (m : Memory size) (hstores : (stores.map Prod.fst).Nodup)
    {a : Fin size} {b : UInt8} (h : (a, b) ∈ stores) : (m.storeAll stores).get a = b := by
  induction stores generalizing m with
  | nil => exact absurd h List.not_mem_nil
  | cons s stores ih =>
    obtain ⟨hs, hrest⟩ := List.nodup_cons.1 hstores
    rcases List.mem_cons.1 h with rfl | h
    · have hlater : ∀ t ∈ stores, t.1 ≠ a := fun t ht hta => hs (List.mem_map.2 ⟨t, ht, hta⟩)
      exact (get_storeAll_of_forall_ne _ hlater).trans (m.get_set_self a b)
    · exact ih (m.set s.1 s.2) hrest h

/-- A block that is stored from the index register on, one byte for each register up to a last one,
stands there whole, and nowhere else has anything changed. -/
theorem get_storeAll_block (m : Memory 4096) (r : Registers) (last : Register)
    (content : Register → UInt8) :
    let after := m.storeAll ((Register.upTo last).map fun k => (r.indexed k.val, content k))
    (∀ k ≤ last, after.get (r.indexed k.val) = content k) ∧
      ∀ a, (∀ k ≤ last, r.indexed k.val ≠ a) → after.get a = m.get a := by
  intro after
  have hnodup : (((Register.upTo last).map fun k => (r.indexed k.val, content k)).map
      Prod.fst).Nodup := by
    rw [List.map_map]
    refine ((List.nodup_finRange 16).filter _).map fun j k hjk => ?_
    exact Fin.ext ((Registers.indexed_inj (by omega) (by omega)).1 hjk)
  constructor
  · intro k hk
    exact get_storeAll_of_mem m hnodup
      (List.mem_map.2 ⟨k, Register.mem_upTo.2 hk, rfl⟩)
  · intro a ha
    refine get_storeAll_of_forall_ne m fun s hs => ?_
    obtain ⟨k, hk, rfl⟩ := List.mem_map.1 hs
    exact ha k (Register.mem_upTo.1 hk)

end Memory

namespace Machine

/-- The machine with all byte registers replaced. -/
def withV (m : Machine) (v : Vector UInt8 16) : Machine := { m with regs := { m.regs with v } }

variable (m : Machine) (x : Register)

/-! ### The three instructions, one by one -/

/-- A block of registers is stored cell by cell, and no other cell changes. -/
theorem execute_storeRegisters :
    ∃ memory, m.execute (.ofDigits 0xF x 5 5) = ({ m with memory }, none) ∧
      (∀ k ≤ x, memory.get (m.regs.indexed k.val) = m.regs.get k) ∧
      ∀ a, (∀ k ≤ x, m.regs.indexed k.val ≠ a) → memory.get a = m.memory.get a := by
  have hk : (Instruction.ofDigits 0xF x 5 5).kind = .storeRegisters := Instruction.kind_ofDigits ..
  have hmemory := m.memory_execute (.ofDigits 0xF x 5 5)
  simp only [execute, Instruction.stores, hk, Instruction.x_ofDigits] at hmemory ⊢
  rw [hmemory]
  exact ⟨_, rfl, m.memory.get_storeAll_block m.regs x m.regs.get⟩

/-- A block of registers is loaded cell by cell, and no other register changes. -/
theorem execute_loadRegisters :
    ∃ v, m.execute (.ofDigits 0xF x 6 5) = (m.withV v, none) ∧
      (∀ k ≤ x, Cells.get v k = m.memory.get (m.regs.indexed k.val)) ∧
      ∀ k, x < k → Cells.get v k = m.regs.get k := by
  have hk : (Instruction.ofDigits 0xF x 6 5).kind = .loadRegisters := Instruction.kind_ofDigits ..
  simp only [execute, hk, Instruction.x_ofDigits]
  refine ⟨_, rfl, fun k hkx => ?_, fun k hkx => ?_⟩
  · rw [Cells.get, Fin.getElem_fin, Vector.getElem_ofFn, if_pos hkx]
  · rw [Cells.get, Fin.getElem_fin, Vector.getElem_ofFn, if_neg (Fin.not_le.2 hkx)]

/-- The digits are stored as a block for the registers up to `V2` is. -/
theorem execute_storeDigits :
    ∃ memory, m.execute (.ofDigits 0xF x 3 3) = ({ m with memory }, none) ∧
      (∀ k ≤ (2 : Register), memory.get (m.regs.indexed k.val) =
        (decimalDigits (m.regs.get x)).getD k.val 0) ∧
      ∀ a, (∀ k ≤ (2 : Register), m.regs.indexed k.val ≠ a) → memory.get a = m.memory.get a := by
  have hk : (Instruction.ofDigits 0xF x 3 3).kind = .storeDigits := Instruction.kind_ofDigits ..
  have hmemory := m.memory_execute (.ofDigits 0xF x 3 3)
  simp only [execute, Instruction.stores, hk, Instruction.x_ofDigits] at hmemory ⊢
  rw [hmemory]
  have hblock := m.memory.get_storeAll_block m.regs 2 fun k =>
    (decimalDigits (m.regs.get x)).getD k.val 0
  rw [show Register.upTo 2 = [0, 1, 2] by decide] at hblock
  exact ⟨_, rfl, hblock⟩

/-- A byte is made up of its decimal digits. -/
theorem decimalDigits_sum (b : UInt8) :
    ((b / 100).toNat ≤ 9 ∧ (b / 10 % 10).toNat ≤ 9 ∧ (b % 10).toNat ≤ 9) ∧
      100 * (b / 100).toNat + 10 * (b / 10 % 10).toNat + (b % 10).toNat = b.toNat := by
  have := b.toNat_lt
  simp only [UInt8.toNat_div, UInt8.toNat_mod, UInt8.reduceToNat]
  omega

/-! ### One after the other -/

/-- Registers that were stored come back, whatever has been put in the registers since. -/
theorem get_load_after_store (v : Vector UInt8 16) {k : Register} (hk : k ≤ x) :
    ((((m.execute (.ofDigits 0xF x 5 5)).1.withV v).execute (.ofDigits 0xF x 6 5)).1.regs).get k =
      m.regs.get k := by
  obtain ⟨memory, hstore, hblock, -⟩ := m.execute_storeRegisters x
  obtain ⟨v', hload, hloaded, -⟩ := (withV { m with memory } v).execute_loadRegisters x
  rw [hstore, hload]
  exact (hloaded k hk).trans (hblock k hk)

/-- Storing what was just loaded changes nothing. -/
theorem memory_store_after_load :
    ((m.execute (.ofDigits 0xF x 6 5)).1.execute (.ofDigits 0xF x 5 5)).1.memory = m.memory := by
  obtain ⟨v, hload, hloaded, -⟩ := m.execute_loadRegisters x
  obtain ⟨memory, hstore, hblock, hothers⟩ := (m.withV v).execute_storeRegisters x
  rw [hload, hstore]
  refine Memory.ext_get fun a => ?_
  by_cases ha : ∃ k ≤ x, m.regs.indexed k.val = a
  · obtain ⟨k, hk, rfl⟩ := ha
    exact (hblock k hk).trans (hloaded k hk)
  · simp only [not_exists, not_and] at ha
    exact hothers a ha

/-- **Transfers are exact,** wherever the index register points.  `Fx55` stores `V0 … Vx` and
changes no other byte, `Fx65` loads them and changes no other register, and neither changes anything
else.  So registers that were stored come back, whatever has been put in the registers since, and
storing what was just loaded changes nothing.  `Fx33` stores three decimal digits that make up `Vx`,
and `F265` finds them. -/
theorem execute_transfers (m : Machine) (x : Register) :
    let cell (k : Register) := Address.wrap (m.regs.i + k.val)
    let store := Instruction.ofDigits 0xF x 5 5
    let load := Instruction.ofDigits 0xF x 6 5
    (∃ memory, m.execute store = ({ m with memory }, none) ∧
        (∀ k ≤ x, memory.get (cell k) = m.regs.get k) ∧
        ∀ a, (∀ k ≤ x, cell k ≠ a) → memory.get a = m.memory.get a) ∧
      (∃ v, m.execute load = (m.withV v, none) ∧
        (∀ k ≤ x, Cells.get v k = m.memory.get (cell k)) ∧
        ∀ k, x < k → Cells.get v k = m.regs.get k) ∧
      (∀ v, ∀ k ≤ x,
        (((m.execute store).1.withV v).execute load).1.regs.get k = m.regs.get k) ∧
      ((m.execute load).1.execute store).1.memory = m.memory ∧
      ∃ a b c : UInt8, (a.toNat ≤ 9 ∧ b.toNat ≤ 9 ∧ c.toNat ≤ 9) ∧
        100 * a.toNat + 10 * b.toNat + c.toNat = (m.regs.get x).toNat ∧
        ∃ memory, m.execute (.ofDigits 0xF x 3 3) = ({ m with memory }, none) ∧
          (memory.get (cell 0) = a ∧ memory.get (cell 1) = b ∧ memory.get (cell 2) = c) ∧
          (∀ other, (∀ k ≤ (2 : Register), cell k ≠ other) →
            memory.get other = m.memory.get other) ∧
          let read := (Machine.execute { m with memory } (.ofDigits 0xF 2 6 5)).1.regs
          read.get 0 = a ∧ read.get 1 = b ∧ read.get 2 = c := by
  intro cell store load
  refine ⟨m.execute_storeRegisters x, m.execute_loadRegisters x,
    fun v k hk => m.get_load_after_store x v hk, m.memory_store_after_load x, ?_⟩
  obtain ⟨hdigits, hsum⟩ := decimalDigits_sum (m.regs.get x)
  obtain ⟨memory, hstore, hblock, hothers⟩ := m.execute_storeDigits x
  obtain ⟨v, hload, hloaded, -⟩ := Machine.execute_loadRegisters { m with memory } 2
  have h0 := hblock 0 (by decide)
  have h1 := hblock 1 (by decide)
  have h2 := hblock 2 (by decide)
  refine ⟨_, _, _, hdigits, hsum, memory, hstore, ⟨h0, h1, h2⟩, hothers, ?_⟩
  rw [hload]
  exact ⟨(hloaded 0 (by decide)).trans h0, (hloaded 1 (by decide)).trans h1,
    (hloaded 2 (by decide)).trans h2⟩

end Machine
end Chip8
