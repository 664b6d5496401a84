/-
# A load is done whole or not at all

A load first checks the program, then resets the machine, and then copies the
program byte after byte.  `Machine.loadChecked` is the load with each of these steps
on record: what has been done before it breaks off stays done.  Once the checks are
passed nothing breaks off any more, since the block that is copied ends with the
memory at the latest (`loadChecked_eq`).  So a program that is refused is refused
before the reset and leaves the machine as it was, and any other is there to its last
byte (`serve_load_whole`).

A program file is not read as a whole.  One byte more than fits is enough to see that
a program does not fit, and the size that is reported then is not counted but taken
from the file system.  None of this can be observed (`loadFrom_eq_loadChecked`): the
outcome is that of a load of the whole contents, however long they are.
-/

import Chip8.CommandLine.Launch
import Chip8.Proofs.Loading

namespace Chip8

/-- Why a load ends before the program is in memory. -/
inductive LoadStop where
  | refused (e : LoadError)
  /-- The memory takes a byte no more.  By then the machine has been reset. -/
  | memory (e : MemoryError)
  deriving DecidableEq, Repr

/-- Why the program of a file is not loaded. -/
inductive FileStop where
  | file (e : FileError)
  | load (e : LoadStop)
  deriving DecidableEq, Repr

/-- A program file that is open: its first bytes, as many as are asked for or as there are, and the
size that the file system has on record. -/
structure ProgramFile where
  first : Nat → List UInt8
  size : Nat

namespace ProgramFile

/-- What is relied on of the file system: a file gives its contents, as far as at most 3585 bytes
are asked for, and its true size. -/
structure Holds (file : ProgramFile) (contents : List UInt8) : Prop where
  first : ∀ count ≤ 3585, file.first count = contents.take count
  size : file.size = contents.length

/-- A file that has its contents in memory. -/
def ofBytes (contents : List UInt8) : ProgramFile where
  first count := contents.take count
  size := contents.length

/-- A file of bytes holds these bytes. -/
theorem holds_ofBytes (contents : List UInt8) : (ofBytes contents).Holds contents where
  first _ _ := rfl
  size := rfl

end ProgramFile

namespace Machine

/-- Loads a program step by step and gives its length.  What has been done before the load breaks
off stays done. -/
def loadChecked (m : Machine) (program : List Int) : Machine × Except LoadStop Nat :=
  if program.any (fun b => b < 0 || 255 < b) then (m, .error (.refused .notBytes))
  else if capacity < program.length then
    (m, .error (.refused (.fault (.programTooLarge program.length capacity))))
  else
    match m.reset.memory.load programStart program with
    | (memory, some e) => ({ m.reset with memory }, .error (.memory e))
    | (memory, none) =>
      ({ m.reset with memory, programSize := program.length }, .ok program.length)

/-- Loads the program of the file at a path, of which no more is read than is needed. -/
def loadFrom (m : Machine) (fileAt : Text → Except FileError ProgramFile) (path : Text) :
    Machine × Except FileStop Nat :=
  match fileAt path with
  | .error e => (m, .error (.file e))
  | .ok file =>
    let read := file.first fileWindow
    if capacity < read.length then
      (m, .error (.load (.refused (.fault (.programTooLarge file.size capacity)))))
    else
      let loaded := m.loadChecked (read.map fun b => (b.toNat : Int))
      (loaded.1, loaded.2.mapError .load)

section Load

variable {program : List Int}

/-- Integers from 0 to 255 are those of bytes. -/
theorem exists_map_toNat_eq (h : ∀ b ∈ program, 0 ≤ b ∧ b ≤ 255) :
    ∃ bytes : List UInt8, program = bytes.map fun b => (b.toNat : Int) := by
  induction program with
  | nil => exact ⟨[], rfl⟩
  | cons b program ih =>
    obtain ⟨hb, hrest⟩ := List.forall_mem_cons.1 h
    obtain ⟨bytes, rfl⟩ := ih hrest
    refine ⟨UInt8.ofNat b.toNat :: bytes, ?_⟩
    have hbyte : ((UInt8.ofNat b.toNat).toNat : Int) = b := by
      rw [UInt8.toNat_ofNat']
      omega
    rw [List.map_cons, hbyte]

/-- A program without a number that is no byte is one of bytes. -/
theorem not_any_iff : ¬program.any (fun b => b < 0 || 255 < b) = true ↔
    ∀ b ∈ program, 0 ≤ b ∧ b ≤ 255 := by
  rw [Bool.not_eq_true, List.any_eq_false]
  refine forall₂_congr fun b _ => ?_
  rw [Bool.or_eq_true, decide_eq_true_eq, decide_eq_true_eq]
  omega

/-- A program with what is no byte is refused for it, however long it is. -/
theorem load_of_not_byte (m : Machine) (h : ∃ b ∈ program, b < 0 ∨ 255 < b) :
    m.load program = .error .notBytes := by
  have hany : program.any (fun b => b < 0 || 255 < b) = true := by simpa using h
  rw [load, if_pos hany]

/-- A program of bytes that is too long is refused for its length. -/
theorem load_of_lt_length (m : Machine) (hbytes : ∀ b ∈ program, 0 ≤ b ∧ b ≤ 255)
    (hlength : capacity < program.length) :
    m.load program = .error (.fault (.programTooLarge program.length capacity)) := by
  rw [load, if_neg (not_any_iff.2 hbytes), if_pos hlength]

/-- A program that fits is copied to its end, and then it is there. -/
theorem exists_load_memory_eq (memory : Memory 4096) (hbytes : ∀ b ∈ program, 0 ≤ b ∧ b ≤ 255)
    (hlength : program.length ≤ capacity) :
    ∃ next : Memory 4096, memory.load programStart program = (next, none) ∧
      ∀ k (hk : k < program.length), ∃ a : Address, a.val = programStart + k ∧
        ((next.get a).toNat : Int) = program[k] := by
  obtain ⟨bytes, rfl⟩ := exists_map_toNat_eq hbytes
  rw [List.length_map, capacity] at hlength
  have hend : programStart ≤ 4096 := by decide
  obtain ⟨next, hnext, hget⟩ := memory.exists_load_eq programStart bytes (by omega)
  refine ⟨next, hnext, fun k hk => ?_⟩
  rw [List.length_map] at hk
  refine ⟨⟨programStart + k, by omega⟩, rfl, ?_⟩
  rw [hget, if_pos (Nat.le_add_right ..), Nat.add_sub_cancel_left, List.getElem_map,
    List.getD_eq_getElem _ _ hk]

/-- **After the checks nothing breaks off.**  A load that is carried out step by step comes to what
the load comes to, and if it is refused, it has changed nothing. -/
theorem loadChecked_eq (m : Machine) (program : List Int) :
    m.loadChecked program =
      match m.load program with
      | .ok next => (next, .ok next.programSize)
      | .error e => (m, .error (.refused e)) := by
  unfold loadChecked load
  split
  · rfl
  · rename_i hbytes
    split
    · rfl
    · rename_i hlength
      obtain ⟨memory, hmemory, -⟩ := exists_load_memory_eq m.reset.memory
        (not_any_iff.1 hbytes) (Nat.not_lt.1 hlength)
      simp only [hmemory]

/-- **All or nothing.**  A load in which each step is on record comes to the same as the load that
a host asks for.  A number that is no byte makes the load refused, and otherwise a program that is
too long does, with its length and the room there is; the machine is as it was then.  Any other
program is loaded, its length is the size on record, and it is there to its last byte. -/
theorem serve_load_whole (m : Machine) (program : List Int) :
    (m.loadChecked program =
        match m.load program with
        | .ok next => (next, .ok next.programSize)
        | .error e => (m, .error (.refused e))) ∧
      ((∃ b ∈ program, b < 0 ∨ 255 < b) → m.serve (.load program) = (m, .notLoaded .notBytes)) ∧
      ((∀ b ∈ program, 0 ≤ b ∧ b ≤ 255) → 3584 < program.length →
        m.serve (.load program) =
          (m, .notLoaded (.fault (.programTooLarge program.length 3584)))) ∧
      ((∀ b ∈ program, 0 ≤ b ∧ b ≤ 255) → program.length ≤ 3584 →
        ∃ next : Machine, m.serve (.load program) = (next, .loaded program.length) ∧
          next.programSize = program.length ∧
          ∀ k (hk : k < program.length), ∃ a : Address, a.val = 0x200 + k ∧
            ((next.memory.get a).toNat : Int) = program[k]) := by
  refine ⟨m.loadChecked_eq program, fun hout => ?_, fun hbytes hlong => ?_, fun hbytes hfits => ?_⟩
  · rw [serve, m.load_of_not_byte hout]
    rfl
  · rw [serve, m.load_of_lt_length hbytes hlong]
    rfl
  · obtain ⟨memory, hmemory, hget⟩ := exists_load_memory_eq Font.memory hbytes hfits
    refine ⟨m.loaded program, ?_, rfl, ?_⟩
    · rw [serve, m.load_of_fits hbytes hfits]
      rfl
    · rw [loaded, hmemory]
      exact hget

/-- A halted machine refuses a number that is no byte and a program that is a byte too long, and
takes one that reaches to the end of the memory. -/
theorem serve_load_whole_to_the_end :
    let m := (new .full (some 7)).run [.load [0x00, 0xEE], .cycle]
    m.halted = true ∧ m.serve (.load [0x12, 0x100]) = (m, .notLoaded .notBytes) ∧
      m.serve (.load (List.replicate 3585 0x55)) =
        (m, .notLoaded (.fault (.programTooLarge 3585 3584))) ∧
      ∃ next : Machine, m.serve (.load (List.replicate 3584 0x55)) = (next, .loaded 3584) ∧
        (next.memory.get (Address.wrap 0xFFF)).toNat = 0x55 := by
  intro m
  have hhalted : m.halted = true := by
    rw [show m = _ from run_lone_return (new .full (some 7))]
    rfl
  have hbytes : ∀ count, ∀ b ∈ List.replicate count (0x55 : Int), 0 ≤ b ∧ b ≤ 255 := by
    intro count b hb
    rw [List.eq_of_mem_replicate hb]
    decide
  obtain ⟨-, hout, -, -⟩ := m.serve_load_whole [0x12, 0x100]
  obtain ⟨-, -, hlong, -⟩ := m.serve_load_whole (List.replicate 3585 0x55)
  obtain ⟨-, -, -, hfits⟩ := m.serve_load_whole (List.replicate 3584 0x55)
  rw [List.length_replicate] at hlong
  simp only [List.length_replicate] at hfits
  obtain ⟨next, hnext, -, hget⟩ := hfits (hbytes 3584) le_rfl
  obtain ⟨a, ha, hlast⟩ := hget 3583 (by decide)
  obtain rfl : a = Address.wrap 0xFFF := Fin.ext ha
  rw [List.getElem_replicate] at hlast
  exact ⟨hhalted, hout ⟨0x100, by decide, by decide⟩, hlong (hbytes 3585) (by decide), next, hnext,
    Int.ofNat_inj.1 hlast⟩

end Load

/-! ### Program files -/

section Files

variable {fileAt : Text → Except FileError ProgramFile} {path : Text} {file : ProgramFile}
  {contents : List UInt8}

/-- The contents of a file are bytes. -/
theorem bytes_of_mem_map {b : Int} (hb : b ∈ contents.map fun b => (b.toNat : Int)) :
    0 ≤ b ∧ b ≤ 255 := by
  obtain ⟨byte, -, rfl⟩ := List.mem_map.1 hb
  exact byte_bounds byte

/-- A file that fits is read as a whole. -/
theorem loadFrom_of_fits (hfile : fileAt path = .ok file) (h : file.Holds contents)
    (hfits : contents.length ≤ capacity) (m : Machine) :
    m.loadFrom fileAt path =
      ((m.loadChecked (contents.map fun b => (b.toNat : Int))).1,
        (m.loadChecked (contents.map fun b => (b.toNat : Int))).2.mapError .load) := by
  have hwhole : file.first fileWindow = contents := by
    rw [h.first fileWindow le_rfl, List.take_of_length_le (by rw [fileWindow]; omega)]
  simp only [loadFrom, hfile, hwhole, if_neg (Nat.not_lt.2 hfits)]

/-- A file that does not fit is read far enough to see that. -/
theorem loadFrom_of_lt_length (hfile : fileAt path = .ok file) (h : file.Holds contents)
    (hlong : capacity < contents.length) (m : Machine) :
    m.loadFrom fileAt path =
      (m, .error (.load (.refused (.fault (.programTooLarge contents.length capacity))))) := by
  have hread : capacity < (file.first fileWindow).length := by
    rw [h.first fileWindow le_rfl, List.length_take, fileWindow]
    omega
  simp only [loadFrom, hfile, if_pos hread, h.size]

/-- The same for contents that are at hand. -/
theorem loadFile_eq_load (m : Machine) (contents : List UInt8) :
    m.loadFile contents = m.load (contents.map fun b => (b.toNat : Int)) := by
  rw [loadFile, List.length_take, fileWindow]
  by_cases hlong : capacity < contents.length
  · rw [if_pos (by omega), m.load_of_lt_length (fun b => bytes_of_mem_map)
      (by rwa [List.length_map]), List.length_map]
  · rw [if_neg (by omega), List.take_of_length_le (by omega)]

/-- **A file is loaded like its contents.**  Let the file system give a file's contents and its
true size.  To load the file, of which at most 3585 bytes are read, comes to the same as to load
the whole contents: to the same machine and the same size if they fit, and else to the same refusal
with the machine as it was.  If a path does not lead to a file, the machine is as it was. -/
theorem loadFrom_eq_loadChecked (hfile : fileAt path = .ok file) (h : file.Holds contents)
    (m : Machine) :
    let bytes := contents.map fun b => (b.toNat : Int)
    m.loadFrom fileAt path =
        ((m.loadChecked bytes).1, (m.loadChecked bytes).2.mapError .load) ∧
      m.loadFile contents = m.load bytes ∧
      (contents.length ≤ 3584 → ∃ next, m.load bytes = .ok next ∧
        m.loadFrom fileAt path = (next, .ok contents.length)) ∧
      (3584 < contents.length →
        m.load bytes = .error (.fault (.programTooLarge contents.length 3584)) ∧
        m.loadFrom fileAt path =
          (m, .error (.load (.refused (.fault (.programTooLarge contents.length 3584)))))) ∧
      ∀ other e, fileAt other = .error e → m.loadFrom fileAt other = (m, .error (.file e)) := by
  intro bytes
  have hbytes : ∀ b ∈ bytes, 0 ≤ b ∧ b ≤ 255 := fun b => bytes_of_mem_map
  have hlength : bytes.length = contents.length := List.length_map _
  have htooLong : capacity < contents.length →
      m.load bytes = .error (.fault (.programTooLarge contents.length capacity)) := by
    intro hlong
    rw [m.load_of_lt_length hbytes (by rwa [hlength]), hlength]
  refine ⟨?_, m.loadFile_eq_load contents, fun hfits => ?_,
    fun hlong => ⟨htooLong hlong, loadFrom_of_lt_length hfile h hlong m⟩, fun other e hother => ?_⟩
  · rcases Nat.lt_or_ge capacity contents.length with hlong | hfits
    · rw [loadFrom_of_lt_length hfile h hlong, loadChecked_eq, htooLong hlong]
      rfl
    · exact loadFrom_of_fits hfile h hfits m
  · have hload : m.load bytes = .ok (m.loaded bytes) :=
      m.load_of_fits hbytes (Nat.le_trans (Nat.le_of_eq hlength) hfits)
    refine ⟨m.loaded bytes, hload, ?_⟩
    rw [loadFrom_of_fits hfile h hfits, loadChecked_eq, hload, ← hlength]
    rfl
  · rw [loadFrom, hother]

/-- A file that is longer than what is read of it, and a path that leads to no file. -/
theorem loadFrom_eq_loadChecked_too_long :
    let contents : List UInt8 := List.replicate 4000 0xFF
    let fileAt : Text → Except FileError ProgramFile := fun path =>
      if path = "game.ch8" then .ok (.ofBytes contents) else .error .missing
    let m := new .full (some 7)
    fileAt "game.ch8" = .ok (.ofBytes contents) ∧ (ProgramFile.ofBytes contents).Holds contents ∧
      m.loadFrom fileAt "game.ch8" =
        (m, .error (.load (.refused (.fault (.programTooLarge 4000 3584))))) ∧
      m.loadFrom fileAt "none.ch8" = (m, .error (.file .missing)) := by
  intro contents fileAt m
  have hfile : fileAt "game.ch8" = .ok (.ofBytes contents) := if_pos rfl
  have h := ProgramFile.holds_ofBytes contents
  have hlength : contents.length = 4000 := List.length_replicate
  obtain ⟨-, -, -, hlong, hother⟩ := loadFrom_eq_loadChecked hfile h m
  refine ⟨hfile, h, ?_, ?_⟩
  · rw [(hlong (by omega)).2, hlength]
    rfl
  · exact hother "none.ch8" .missing (if_neg (by decide))

end Files

end Machine
end Chip8
