/-
# A memory keeps what was stored last

A host may read, write, load and clear a memory of any size with any integers.  Whether
a store is refused is up to the address and the value alone, the address first
(`Memory.refusal?`).  So what a call stores can be read off the call: of the stores
that it asks for, those before the first that is refused (`MemoryCall.stores`).

A load asks for a store at each address from its start on.  The bytes before the first
one that is refused stay, no other cell changes, and the refusal is that of this byte
(`exists_load_block`).  Each call then leaves in every cell what it has stored there last
(`get_serve`), and by induction over the calls a cell holds the last that was stored
there since the memory was cleared, or zero (`get_run_zero`).
-/

import Mathlib.Data.List.DropRight
import Chip8.Memory

namespace Chip8

/-- Something that a host asks of a memory. -/
inductive MemoryCall where
  | read (address : Int)
  | write (address value : Int)
  | clear
  /-- To store values one after the other from a start on. -/
  | load (start : Int) (values : List Int)
  deriving DecidableEq, Repr

/-- What the host gets back. -/
inductive MemoryReply where
  | done
  | byte (b : UInt8)
  /-- So many values were stored. -/
  | loaded (count : Nat)
  | refused (e : MemoryError)
  deriving DecidableEq, Repr

namespace Memory

variable {size : Nat}

/-- Stores values one after the other, up to the first that is refused, and counts them: the next
one goes as far behind the start as have been counted. -/
def loadCounting (m : Memory size) (start : Int) (count : Nat) :
    List Int → Memory size × Except MemoryError Nat
  | [] => (m, .ok count)
  | value :: rest =>
    match m.write (start + count) value with
    | .error e => (m, .error e)
    | .ok next => next.loadCounting start (count + 1) rest

/-- Answers a call. -/
def serve (m : Memory size) : MemoryCall → Memory size × MemoryReply
  | .read address =>
    match m.read address with
    | .ok b => (m, .byte b)
    | .error e => (m, .refused e)
  | .write address value =>
    match m.write address value with
    | .ok next => (next, .done)
    | .error e => (m, .refused e)
  | .clear => (m.clear, .done)
  | .load start values =>
    match m.loadCounting start 0 values with
    | (next, .ok count) => (next, .loaded count)
    | (next, .error e) => (next, .refused e)

/-- The memory at the end of a session. -/
def run (m : Memory size) (calls : List MemoryCall) : Memory size :=
  calls.foldl (fun m c => (m.serve c).1) m

/-- Why a memory of a size refuses to store a value at an address, if it does. -/
def refusal? (size : Nat) (address value : Int) : Option MemoryError :=
  if ¬(0 ≤ address ∧ address < size) then some (.outOfBounds address)
  else if ¬(0 ≤ value ∧ value ≤ 255) then some (.notAByte value)
  else none

/-- The addresses and values of a block of stores. -/
def block (start : Int) : List Int → List (Int × Int)
  | [] => []
  | value :: rest => (start, value) :: block (start + 1) rest

/-- What a row of stores leaves at an address where there was something else before. -/
def lastOf (stores : List (Int × Int)) (address before : Int) : Int :=
  (stores.reverse.lookup address).getD before

end Memory

namespace MemoryCall

/-- The stores that a call asks for. -/
def asked : MemoryCall → List (Int × Int)
  | .write address value => [(address, value)]
  | .load start values => Memory.block start values
  | .read _ | .clear => []

/-- The stores that a call brings about: those it asks for, up to the first that is refused. -/
def stores (size : Nat) (c : MemoryCall) : List (Int × Int) :=
  c.asked.takeWhile fun s => (Memory.refusal? size s.1 s.2).isNone

/-- The number that a session has stored last at an address since the memory was cleared, or since
its beginning, and zero if it has stored none. -/
def lastStored (size : Nat) (calls : List MemoryCall) (address : Int) : Int :=
  Memory.lastOf ((calls.rtakeWhile (· ≠ .clear)).flatMap (stores size)) address 0

end MemoryCall

namespace Memory

variable {size : Nat} {address value start : Int} {values : List Int}

/-! ### Rows of stores -/

/-- Of two rows of stores the second one has the last word. -/
theorem lastOf_append (stores more : List (Int × Int)) (address before : Int) :
    lastOf (stores ++ more) address before = lastOf more address (lastOf stores address before) := by
  rw [lastOf, List.reverse_append, List.lookup_append, Option.getD_or]
  rfl

/-- The first store of a row is what the others find. -/
theorem lastOf_cons (s : Int × Int) (stores : List (Int × Int)) (address before : Int) :
    lastOf (s :: stores) address before =
      lastOf stores address (if address = s.1 then s.2 else before) := by
  have hfirst : lastOf [s] address before = if address = s.1 then s.2 else before := by
    obtain ⟨c, value⟩ := s
    rw [lastOf, List.reverse_singleton, List.lookup_cons]
    by_cases h : address = c
    · rw [beq_iff_eq.2 h, if_pos h]
      rfl
    · rw [beq_eq_false_iff_ne.2 h, if_neg h]
      rfl
  rw [← List.singleton_append, lastOf_append, hfirst]

/-- A block leaves its values in a row from its start on, and elsewhere what was there. -/
theorem lastOf_block (start : Int) (values : List Int) (address before : Int) :
    lastOf (block start values) address before =
      if start ≤ address ∧ address < start + values.length then
        values.getD (address - start).toNat 0
      else before := by
  induction values generalizing start before with
  | nil =>
    rw [if_neg (by simp)]
    rfl
  | cons value rest ih =>
    rw [block, lastOf_cons, ih, List.length_cons]
    rcases Int.lt_trichotomy address start with hlt | rfl | hgt
    · rw [if_neg (by omega), if_neg (by omega), if_neg (by omega)]
    · rw [if_neg (by omega), if_pos rfl, if_pos (by omega), Int.sub_self]
      rfl
    · have hindex : (address - start).toNat = (address - (start + 1)).toNat + 1 := by omega
      rw [hindex, List.getD_cons_succ]
      by_cases hend : address < start + 1 + rest.length
      · rw [if_pos (by omega), if_pos (by omega)]
      · rw [if_neg (by omega), if_neg (by omega), if_neg (by omega)]

/-! ### One store -/

/-- An address names no byte just if it is outside the memory. -/
theorem index?_eq_none : index? size address = none ↔ ¬(0 ≤ address ∧ address < size) := by
  rw [index?]
  split <;> simp_all

/-- Outside the memory a store is refused for its address, whatever the value. -/
theorem refusal?_of_outside (h : ¬(0 ≤ address ∧ address < size)) :
    refusal? size address value = some (.outOfBounds address) := if_pos h

/-- Inside the memory a store of what is no byte is refused for its value. -/
theorem refusal?_of_not_byte (h : 0 ≤ address ∧ address < size) (hv : ¬(0 ≤ value ∧ value ≤ 255)) :
    refusal? size address value = some (.notAByte value) := by
  rw [refusal?, if_neg (not_not.2 h), if_pos hv]

/-- A store of a byte inside the memory is not refused. -/
theorem refusal?_of_byte (h : 0 ≤ address ∧ address < size) (hv : 0 ≤ value ∧ value ≤ 255) :
    refusal? size address value = none := by
  rw [refusal?, if_neg (not_not.2 h), if_neg (not_not.2 hv)]

/-- A store that is refused is refused for its address first, and then for its value. -/
theorem write_of_refusal (m : Memory size) {e : MemoryError}
    (h : refusal? size address value = some e) : m.write address value = .error e := by
  unfold refusal? at h
  split at h
  · rename_i hout
    obtain rfl := Option.some.inj h
    rw [write, index?_eq_none.2 hout]
  · rename_i hin
    split at h
    · rename_i hbyte
      obtain rfl := Option.some.inj h
      obtain ⟨a, ha⟩ := Option.ne_none_iff_exists'.1 (mt index?_eq_none.1 hin)
      rw [write, ha, byte?, if_neg hbyte]
    · cases h

/-- A store that is not refused replaces the byte at its address and no other. -/
theorem exists_write_eq (m : Memory size) (h : refusal? size address value = none) :
    ∃ next, m.write address value = .ok next ∧ ∀ a : Fin size,
      ((next.get a).toNat : Int) = if (a.val : Int) = address then value else (m.get a).toNat := by
  unfold refusal? at h
  split at h
  · cases h
  · rename_i hin
    split at h
    · cases h
    · rename_i hbyte
      obtain ⟨c, hc⟩ := Option.ne_none_iff_exists'.1 (mt index?_eq_none.1 hin)
      obtain rfl := index?_eq_some.1 hc
      refine ⟨m.set c (UInt8.ofNat value.toNat), ?_, fun a => ?_⟩
      · rw [write, hc, byte?, if_pos (not_not.1 hbyte)]
      · rw [get_set]
        by_cases hca : c = a
        · subst hca
          rw [if_pos rfl, if_pos rfl, UInt8.toNat_ofNat']
          omega
        · have hne : (a.val : Int) ≠ c.val := fun h => hca (Fin.ext (Int.ofNat_inj.1 h.symm))
          rw [if_neg hca, if_neg hne]

/-! ### Blocks -/

/-- To count the stores does not change them: a load that is not cut short has counted all its
values. -/
theorem loadCounting_eq (m : Memory size) (start : Int) (count : Nat) (values : List Int) :
    m.loadCounting start count values =
      ((m.load (start + count) values).1, match (m.load (start + count) values).2 with
        | some e => .error e
        | none => .ok (count + values.length)) := by
  induction values generalizing m count with
  | nil => rfl
  | cons value rest ih =>
    rw [loadCounting, load]
    cases m.write (start + count) value with
    | error e => rfl
    | ok next =>
      have hnext : start + ((count + 1 : Nat) : Int) = start + count + 1 := by omega
      have hlength : count + 1 + rest.length = count + (value :: rest).length := by
        rw [List.length_cons]
        omega
      simp only [ih, hnext, hlength]

/-- A load that is not cut short answers with the number of its values, and else with the refusal.
-/
theorem serve_load (m : Memory size) (start : Int) (values : List Int) :
    m.serve (.load start values) =
      ((m.load start values).1, match (m.load start values).2 with
        | some e => .refused e
        | none => .loaded values.length) := by
  rw [serve, m.loadCounting_eq, Int.natCast_zero, Int.add_zero, Nat.zero_add]
  cases (m.load start values).2 <;> rfl

/-- A load stores what it asks for, up to the first store that is refused. -/
theorem get_load (m : Memory size) (start : Int) (values : List Int) (a : Fin size) :
    (((m.load start values).1.get a).toNat : Int) =
      lastOf ((MemoryCall.load start values).stores size) a.val (m.get a).toNat := by
  induction values generalizing m start with
  | nil => rfl
  | cons value rest ih =>
    rw [MemoryCall.stores, MemoryCall.asked, block, load]
    cases h : refusal? size start value with
    | some e =>
      rw [m.write_of_refusal h, List.takeWhile_cons_of_neg (by simp [h])]
      rfl
    | none =>
      obtain ⟨next, hwrite, hget⟩ := m.exists_write_eq h
      rw [hwrite, List.takeWhile_cons_of_pos (by simp [h]), lastOf_cons, ← hget]
      exact ih next (start + 1)

/-- **How far a load comes.**  There is a number of values whose stores are not refused, and the
next one, if there is a next one, is refused and ends the load. -/
theorem exists_load_block (m : Memory size) (start : Int) (values : List Int) :
    ∃ n ≤ values.length,
      (∀ k v, k < n → values[k]? = some v → refusal? size (start + k) v = none) ∧
      (∀ v, values[n]? = some v → ∃ e, refusal? size (start + n) v = some e ∧
        (m.load start values).2 = some e) ∧
      (n = values.length → (m.load start values).2 = none) ∧
      (MemoryCall.load start values).stores size = block start (values.take n) := by
  induction values generalizing m start with
  | nil => exact ⟨0, Nat.le_refl 0, nofun, nofun, fun _ => rfl, rfl⟩
  | cons value rest ih =>
    rw [MemoryCall.stores, MemoryCall.asked, block, load]
    cases h : refusal? size start value with
    | some e =>
      refine ⟨0, Nat.zero_le _, nofun, fun v hv => ?_, nofun, ?_⟩
      · obtain rfl := Option.some.inj hv
        exact ⟨e, by rwa [Int.natCast_zero, Int.add_zero], by rw [m.write_of_refusal h]⟩
      · rw [List.takeWhile_cons_of_neg (by simp [h])]
        rfl
    | none =>
      obtain ⟨next, hwrite, -⟩ := m.exists_write_eq h
      obtain ⟨n, hn, htaken, hrefused, hwhole, hstores⟩ := ih next (start + 1)
      have hshift : ∀ k : Nat, start + ((k + 1 : Nat) : Int) = start + 1 + k := by
        intro k
        omega
      refine ⟨n + 1, Nat.succ_le_succ hn, fun k v hk hv => ?_, fun v hv => ?_, fun hend => ?_, ?_⟩
      · cases k with
        | zero =>
          obtain rfl := Option.some.inj hv
          rwa [Int.natCast_zero, Int.add_zero]
        | succ k =>
          rw [hshift]
          exact htaken k v (Nat.lt_of_succ_lt_succ hk) hv
      · rw [hshift, hwrite]
        exact hrefused v hv
      · rw [hwrite]
        exact hwhole (Nat.succ.inj hend)
      · rw [List.takeWhile_cons_of_pos (by simp [h]), List.take_succ_cons, block, ← hstores]
        rfl

/-- At the end of a memory a load is refused for the address, even if the value is no byte either. -/
example : ((zero 4).serve (.load 2 [7, 300, 5])).2 = .refused (.notAByte 300) ∧
    ((zero 4).serve (.load 2 [7, 8, 300])).2 = .refused (.outOfBounds 4) := by decide

/-- Of a block that ends after `n` values only these are stored. -/
theorem get_load_of_stores (m : Memory size) {n : Nat} (hn : n ≤ values.length)
    (h : (MemoryCall.load start values).stores size = block start (values.take n))
    (a : Fin size) :
    (((m.load start values).1.get a).toNat : Int) =
      if start ≤ a.val ∧ a.val < start + n then values.getD (a.val - start).toNat 0
      else (m.get a).toNat := by
  rw [get_load, h, lastOf_block, List.length_take_of_le hn]
  by_cases hinside : start ≤ a.val ∧ a.val < start + n
  · have hindex : (a.val - start).toNat < n := by omega
    rw [if_pos hinside, if_pos hinside, List.getD_eq_getElem?_getD, List.getD_eq_getElem?_getD,
      List.getElem?_take_of_lt hindex]
  · rw [if_neg hinside, if_neg hinside]

/-! ### Sessions -/

/-- The last call of a session is served by what the others have left. -/
theorem run_concat (m : Memory size) (calls : List MemoryCall) (c : MemoryCall) :
    m.run (calls ++ [c]) = ((m.run calls).serve c).1 := List.foldl_concat ..

/-- **What a call leaves in a cell** is the last that it has stored there, and if it has stored
nothing there, what it found. -/
theorem get_serve (m : Memory size) {c : MemoryCall} (hc : c ≠ .clear) (a : Fin size) :
    (((m.serve c).1.get a).toNat : Int) = lastOf (c.stores size) a.val (m.get a).toNat := by
  cases c with
  | read address =>
    rw [serve]
    cases m.read address <;> rfl
  | write address value =>
    rw [serve, MemoryCall.stores, MemoryCall.asked]
    cases h : refusal? size address value with
    | some e =>
      rw [m.write_of_refusal h, List.takeWhile_cons_of_neg (by simp [h])]
      rfl
    | none =>
      obtain ⟨next, hwrite, hget⟩ := m.exists_write_eq h
      rw [hwrite, List.takeWhile_cons_of_pos (by simp [h]), lastOf_cons, ← hget]
      rfl
  | clear => exact absurd rfl hc
  | load start values =>
    rw [serve_load]
    exact m.get_load start values a

/-- **The last store since the last clearing counts.** -/
theorem get_run_zero (calls : List MemoryCall) (a : Fin size) :
    ((((zero size).run calls).get a).toNat : Int) = MemoryCall.lastStored size calls a.val := by
  -- What counts is the last clearing, so the induction adds calls at the end.
  induction calls using List.reverseRecOn with
  | nil =>
    rw [run, List.foldl_nil, get_zero]
    rfl
  | append_singleton calls c ih =>
    rw [run_concat, MemoryCall.lastStored]
    by_cases hc : c = .clear
    · subst hc
      rw [List.rtakeWhile_concat_neg _ _ _ (by simp), serve, clear, get_zero]
      rfl
    · rw [get_serve _ hc, ih, List.rtakeWhile_concat_pos _ _ _ (by simpa using hc),
        List.flatMap_append, List.flatMap_singleton, lastOf_append]
      rfl

/-- **A memory is a bounded store in which the last write wins.**  Let a host make any calls on a
new memory of any size.  A read or a write outside the memory is refused, and so is the write of
what is no byte, the address coming first; what is refused changes nothing.  Any other write is
done, and any other read gives what was stored last at its address since the memory was cleared, or
zero.

A load stores the longest row of its values of which each could be written alone, and in no other
cell anything changes.  If these are all of them, it gives their number, and only then; else the
refusal of the first that could not be written. -/
theorem run_bounded_store (size : Nat) (calls : List MemoryCall) :
    let m := (zero size).run calls
    (∀ a : Int,
      (¬(0 ≤ a ∧ a < size) → m.serve (.read a) = (m, .refused (.outOfBounds a))) ∧
      (0 ≤ a ∧ a < size → ∃ b, m.serve (.read a) = (m, .byte b) ∧
        (b.toNat : Int) = MemoryCall.lastStored size calls a)) ∧
    (∀ a v : Int,
      (¬(0 ≤ a ∧ a < size) → m.serve (.write a v) = (m, .refused (.outOfBounds a))) ∧
      (0 ≤ a ∧ a < size → ¬(0 ≤ v ∧ v ≤ 255) →
        m.serve (.write a v) = (m, .refused (.notAByte v))) ∧
      (0 ≤ a ∧ a < size → 0 ≤ v ∧ v ≤ 255 → ∃ next, m.serve (.write a v) = (next, .done))) ∧
    ∀ (start : Int) (values : List Int), ∃ n ≤ values.length, ∃ reply,
      m.serve (.load start values) = ((m.load start values).1, reply) ∧
      (∀ k v, k < n → values[k]? = some v → ∃ next, m.write (start + k) v = .ok next) ∧
      (∀ a : Fin size, (((m.load start values).1.get a).toNat : Int) =
        if start ≤ a.val ∧ a.val < start + n then values.getD (a.val - start).toNat 0
        else (m.get a).toNat) ∧
      (reply = .loaded values.length ↔ n = values.length) ∧
      ∀ v, values[n]? = some v → ∃ e, m.write (start + n) v = .error e ∧ reply = .refused e := by
  intro m
  refine ⟨fun a => ⟨fun hout => ?_, fun hin => ?_⟩, fun a v => ⟨fun hout => ?_, fun hin hv => ?_,
    fun hin hv => ?_⟩, fun start values => ?_⟩
  · rw [serve, read, index?_eq_none.2 hout]
  · obtain ⟨c, hc⟩ := Option.ne_none_iff_exists'.1 (mt index?_eq_none.1 (not_not.2 hin))
    obtain rfl := index?_eq_some.1 hc
    refine ⟨m.get c, ?_, get_run_zero calls c⟩
    rw [serve, read, hc]
  · rw [serve, m.write_of_refusal (refusal?_of_outside hout)]
  · rw [serve, m.write_of_refusal (refusal?_of_not_byte hin hv)]
  · obtain ⟨next, hwrite, -⟩ := m.exists_write_eq (refusal?_of_byte hin hv)
    exact ⟨next, by rw [serve, hwrite]⟩
  · obtain ⟨n, hn, htaken, hrefused, hwhole, hstores⟩ := m.exists_load_block start values
    refine ⟨n, hn, _, m.serve_load start values, fun k v hk hv => ?_,
      m.get_load_of_stores hn hstores, ⟨fun hreply => ?_, fun hend => ?_⟩, fun v hv => ?_⟩
    · obtain ⟨next, hwrite, -⟩ := m.exists_write_eq (htaken k v hk hv)
      exact ⟨next, hwrite⟩
    · -- If a value were left, it would have been refused.
      by_contra hne
      have hlt : n < values.length := Nat.lt_of_le_of_ne hn hne
      obtain ⟨e, -, hload⟩ := hrefused values[n] (List.getElem?_eq_getElem hlt)
      rw [hload] at hreply
      cases hreply
    · rw [hwhole hend]
    · obtain ⟨e, he, hload⟩ := hrefused v hv
      exact ⟨e, m.write_of_refusal he, by rw [hload]⟩

end Memory
end Chip8
