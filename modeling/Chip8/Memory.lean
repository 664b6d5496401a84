/-
# Byte memory

A memory is a row of bytes with addresses `0, 1, …, size - 1`.  The interpreter
has 4096 of them; any other positive size works the same way.

There are two ways in.  Addresses that are known to be in range (`Fin size`)
are read and written by total functions, `get` and `set`.  The host's checked
access (`read`, `write`, `word`, `load`) takes any integers: an address outside
the memory is refused first, then a value that is no byte, and a refused access
changes nothing.  A block load stops at the first refused byte and keeps the
bytes before it.
-/

import Chip8.Cells

namespace Chip8

/-- `size` bytes. -/
structure Memory (size : Nat) where
  cells : Vector UInt8 size
  deriving DecidableEq, Repr

/-- Why a checked access is refused. -/
inductive MemoryError where
  /-- The address is negative or not below the size. -/
  | outOfBounds (address : Int)
  /-- The value is not in `0 … 255`. -/
  | notAByte (value : Int)
  deriving DecidableEq, Repr

/-- The wording of a refusal; `size` is how the memory's size is written. -/
def MemoryError.message (size : String) : MemoryError → String
  | .outOfBounds address => s!"Address {address} out of bounds for RAM of size {size}."
  | .notAByte value => s!"Data {value} is not an 8-bit value."

/-- The size that a host asks for. -/
inductive MemorySize where
  /-- A number of bytes. -/
  | count (n : Int)
  /-- A truth value, which counts as 0 or 1 but keeps its name in messages. -/
  | flag (b : Bool)
  /-- Anything that is no number. -/
  | other
  deriving DecidableEq, Repr

namespace MemorySize

/-- The number of bytes asked for, if it is a positive integer. -/
def bytes? : MemorySize → Option { n : Nat // 0 < n }
  | .count n => if h : 0 < n then some ⟨n.toNat, by omega⟩ else none
  | .flag b => if b then some ⟨1, by decide⟩ else none
  | .other => none

/-- The number of bytes of the memory that is made. -/
def bytes (s : MemorySize) : Except SizeError { n : Nat // 0 < n } :=
  match s.bytes? with
  | none => .error .notPositive
  | some n => do
    Cells.checkSize n
    return n

/-- How the size is written in a message. -/
def text : MemorySize → String
  | .count n => toString n
  | .flag b => if b then "True" else "False"
  | .other => ""

/-- What is said of a size that is no positive integer. -/
def refusal : String := "RAM size must be a positive integer."

end MemorySize

namespace Memory

variable {size : Nat}

/-- All bytes zero. -/
def zero (size : Nat) : Memory size := ⟨Vector.replicate size 0⟩

/-- The byte at an address in range. -/
def get (m : Memory size) (a : Fin size) : UInt8 := Cells.get m.cells a

/-- The memory with the byte at `a` replaced. -/
def set (m : Memory size) (a : Fin size) (b : UInt8) : Memory size := ⟨Cells.set m.cells a b⟩

/-- An empty memory holds zeros. -/
@[simp] theorem get_zero (a : Fin size) : (zero size).get a = 0 := by simp [get, zero]

/-- A byte that is stored is found where it was stored. -/
@[simp] theorem get_set_self (m : Memory size) (a : Fin size) (b : UInt8) :
    (m.set a b).get a = b := by simp [get, set]

/-- A store changes one byte and no other. -/
theorem get_set (m : Memory size) (a c : Fin size) (b : UInt8) :
    (m.set a b).get c = if a = c then b else m.get c :=
  Cells.get_set m.cells a c b

/-- A store is not seen at any other address. -/
theorem get_set_of_ne (m : Memory size) {a c : Fin size} (b : UInt8) (h : a ≠ c) :
    (m.set a b).get c = m.get c := by
  rw [get_set, if_neg h]

/-- Two memories with the same byte at every address are equal. -/
theorem ext_get {m k : Memory size} (h : ∀ a, m.get a = k.get a) : m = k := by
  cases m; cases k
  congr 1
  exact Cells.ext_get h

/-- The address as an index, if it lies in the memory. -/
def index? (size : Nat) (address : Int) : Option (Fin size) :=
  if h : 0 ≤ address ∧ address < size then some ⟨address.toNat, by omega⟩ else none

/-- The integers that name a byte are the addresses of the memory. -/
theorem index?_eq_some {address : Int} {a : Fin size} :
    index? size address = some a ↔ address = (a : Nat) := by
  unfold index?
  split
  · simp [Fin.ext_iff]; omega
  · simp; omega

/-- The byte at any integer address, or the refusal. -/
def read (m : Memory size) (address : Int) : Except MemoryError UInt8 :=
  match index? size address with
  | some a => .ok (m.get a)
  | none => .error (.outOfBounds address)

/-- The value as a byte, if it is one. -/
def byte? (value : Int) : Option UInt8 :=
  if 0 ≤ value ∧ value ≤ 255 then some (UInt8.ofNat value.toNat) else none

/-- Stores a value at any integer address, or says which of the two is refused. -/
def write (m : Memory size) (address value : Int) : Except MemoryError (Memory size) :=
  match index? size address, byte? value with
  | none, _ => .error (.outOfBounds address)
  | some _, none => .error (.notAByte value)
  | some a, some b => .ok (m.set a b)

/-- All bytes back to zero. -/
def clear (_ : Memory size) : Memory size := zero size

/-- Two bytes as a number, the first one the high byte.  Both addresses are reduced to
12 bits, so the word at `0xFFF` goes on at `0x000`. -/
def word (m : Memory size) (address : Int) : Except MemoryError Nat := do
  let high ← m.read (address % 4096)
  let low ← m.read ((address + 1) % 4096)
  return high.toNat * 256 + low.toNat

/-- Stores values one after the other from `start` on, up to the first that is refused.
The bytes before it stay stored. -/
def load (m : Memory size) (start : Int) : List Int → Memory size × Option MemoryError
  | [] => (m, none)
  | value :: rest =>
    match m.write start value with
    | .error e => (m, some e)
    | .ok m => m.load (start + 1) rest

end Memory

/-- A 12-bit address. -/
abbrev Address := Fin 4096

/-- Any integer reduced to 12 bits. -/
def Address.wrap (n : Int) : Address := ⟨(n % 4096).toNat, by omega⟩

/-- An address is the low twelve bits of what it is made of. -/
@[simp] theorem Address.val_wrap (n : Int) : ((Address.wrap n : Nat) : Int) = n % 4096 := by
  simp [Address.wrap]; omega

/-- Numbers name the same address if their low twelve bits agree. -/
theorem Address.wrap_eq_iff {n k : Int} :
    Address.wrap n = Address.wrap k ↔ n % 4096 = k % 4096 := by
  simp [Address.wrap, Fin.ext_iff]; omega

namespace Memory

/-- The word at an address of the interpreter's memory, where no access is refused. -/
def wordAt (m : Memory 4096) (address : Int) : Nat :=
  (m.get (Address.wrap address)).toNat * 256 + (m.get (Address.wrap (address + 1))).toNat

/-- The word at an address depends on its low twelve bits. -/
theorem wordAt_congr (m : Memory 4096) {a b : Int} (h : a % 4096 = b % 4096) :
    m.wordAt a = m.wordAt b := by
  have hnext : Address.wrap (a + 1) = Address.wrap (b + 1) := by
    rw [Address.wrap_eq_iff]
    omega
  rw [wordAt, wordAt, Address.wrap_eq_iff.2 h, hnext]

/-- The low twelve bits of a number name a byte of a memory of 4096. -/
theorem index?_wrap (n : Int) : index? 4096 (n % 4096) = some (Address.wrap n) := by
  rw [index?_eq_some]; simp

/-- In a memory of 4096 bytes every word can be read. -/
theorem word_eq_wordAt (m : Memory 4096) (address : Int) :
    m.word address = .ok (m.wordAt address) := by
  simp [word, read, index?_wrap, wordAt, bind, Except.bind, pure, Except.pure]

end Memory
end Chip8
