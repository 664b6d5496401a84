/-
# What the text of an instruction says

An instruction is shown as a mnemonic and operands, and not by its kind: eleven kinds
share the mnemonic `LD`.  What is shown is enough all the same.  What the operands
are tells kinds of one mnemonic apart (`kind_eq_of_parts`), every operand can be read
back (`Operand.ofText_text`), and an instruction does nothing with its opcode but
read the operands that are shown (`sameEffect_of_parts`).

So instructions with the same mnemonic and operands do the same to every machine, and
bits of the opcode that are not shown do not matter.  The line that a host shows for a
cycle says no less, since neither mnemonics nor operands hold the blanks and commas
that stand between them (`mnemonic_and_operands_eq_of_text_eq`).
-/

import Mathlib.Data.List.Basic
import Chip8.Number.Numeral
import Chip8.Proofs.Loading
import Chip8.Proofs.Opcodes

namespace Chip8

/-! ### Numbers in base 16 read back -/

namespace Text

/-- A digit of a number in base 16. -/
theorem exists_of_mem_upperHexDigits {n : Nat} {c : Char} (h : c ∈ upperHexDigits n) :
    ∃ d < 16, c = d.digitChar.toUpper := by
  induction n using Nat.strongRecOn with
  | ind n ih =>
    rw [upperHexDigits, hexDigits, Nat.toDigits_eq_if (by omega)] at h
    split at h
    · rename_i hn
      exact ⟨n, hn, by simpa using h⟩
    · rw [List.map_append, List.mem_append] at h
      rcases h with h | h
      · exact ih (n / 16) (by omega) h
      · exact ⟨n % 16, by omega, by simpa using h⟩

/-- A hexadecimal digit is read back from its character in upper case. -/
theorem digitOf?_digitChar_toUpper :
    ∀ d < 16, Numeral.digitOf? 16 d.digitChar.toUpper = some d := by decide

/-- A digit at the end counts once, and all before it sixteen times. -/
theorem ofDigits_append_digit (cs : List Char) {d : Nat} (hd : d < 16) :
    Numeral.ofDigits 16 (cs ++ [d.digitChar.toUpper]) = Numeral.ofDigits 16 cs * 16 + d := by
  simp [Numeral.ofDigits, digitOf?_digitChar_toUpper d hd]

/-- A number is read back from its hexadecimal digits. -/
theorem ofDigits_upperHexDigits (n : Nat) : Numeral.ofDigits 16 (upperHexDigits n) = n := by
  induction n using Nat.strongRecOn with
  | ind n ih =>
    rw [upperHexDigits, hexDigits, Nat.toDigits_eq_if (by omega)]
    split
    · rename_i hn
      exact (ofDigits_append_digit [] hn).trans (Nat.zero_add n)
    · have hrest := ih (n / 16) (by omega)
      rw [List.map_append, List.map_singleton, ofDigits_append_digit _ (by omega)]
      rw [upperHexDigits, hexDigits] at hrest
      omega

/-- Zeros in front do not count. -/
theorem ofDigits_zeroFill (width : Nat) (cs : List Char) :
    Numeral.ofDigits 16 (zeroFill width cs) = Numeral.ofDigits 16 cs := by
  have hzeros : ∀ k : Nat, (List.replicate k 0).foldl (fun n d => n * 16 + d) 0 = 0 := by
    intro k
    induction k with
    | zero => rfl
    | succ k ih => simpa [List.replicate_succ] using ih
  have hzero : Numeral.digitOf? 16 '0' = some 0 := by decide
  simp [Numeral.ofDigits, zeroFill, List.filterMap_replicate_of_some hzero, hzeros]

/-- What is not negative is written with zeros in front and no sign. -/
theorem toList_upperHex (width n : Nat) :
    (upperHex width n).toList = zeroFill width (upperHexDigits n) := by
  have hsign : ¬(n : Int) < 0 := by omega
  simp [upperHex, signedHex, hsign]

/-- **What is written in base 16 reads back.** -/
theorem ofDigits_upperHex (width n : Nat) :
    Numeral.ofDigits 16 (upperHex width n).toList = n := by
  rw [toList_upperHex, ofDigits_zeroFill, ofDigits_upperHexDigits]

/-- There is no comma in a hexadecimal number. -/
theorem comma_not_mem_upperHex (width : Nat) (n : Int) : ',' ∉ (upperHex width n).toList := by
  have hdigits : ',' ∉ upperHexDigits n.natAbs := by
    intro h
    obtain ⟨d, hd, hc⟩ := exists_of_mem_upperHexDigits h
    exact absurd hc (by revert d; decide)
  by_cases hn : n < 0 <;> simp [upperHex, signedHex, zeroFill, hn, hdigits]

end Text

/-! ### Operands -/

/-- What the text of an instruction names: a register, a number, or something that there is only
one of. -/
inductive Operand where
  | register (r : Register)
  | byte (b : UInt8)
  | address (a : Address)
  | count (n : Nibble)
  | index | delay | sound
  /-- The picture of a digit. -/
  | glyph
  /-- The decimal digits of a byte. -/
  | decimal
  | key
  /-- The memory from the index register on. -/
  | block
  deriving DecidableEq, Repr

namespace Operand

/-- How an operand is shown. -/
def text : Operand → String
  | register r => Instruction.registerText r
  | byte b => Instruction.byteText b
  | address a => Instruction.addressText a
  | count n => toString n.val
  | index => "I"
  | delay => "DT"
  | sound => "ST"
  | glyph => "F"
  | decimal => "B"
  | key => "K"
  | block => "[I]"

/-- The operand that a text shows; a text that is nothing else is taken for a count. -/
def ofText (s : String) : Operand :=
  match s.toList with
  | 'V' :: ds => register (Nibble.low (Numeral.ofDigits 16 ds))
  | '#' :: ds => byte (UInt8.ofNat (Numeral.ofDigits 16 ds))
  | '$' :: ds => address (Address.wrap (Numeral.ofDigits 16 ds))
  | ['I'] => index
  | ['D', 'T'] => delay
  | ['S', 'T'] => sound
  | ['F'] => glyph
  | ['B'] => decimal
  | ['K'] => key
  | ['[', 'I', ']'] => block
  | ds => count (Nibble.low (Numeral.ofDigits 10 ds))

/-- **An operand reads back from its text.** -/
theorem ofText_text (a : Operand) : ofText a.text = a := by
  cases a with
  | register r =>
    have hr : Nibble.low (r.val : Int) = r := by
      simp only [Nibble.low, Fin.ext_iff]
      omega
    simp [text, ofText, Instruction.registerText, Text.ofDigits_upperHex, hr]
  | byte b => simp [text, ofText, Instruction.byteText, Text.ofDigits_upperHex]
  | address a =>
    have ha : Address.wrap (a.val : Int) = a := by
      simp only [Address.wrap, Fin.ext_iff]
      omega
    simp [text, ofText, Instruction.addressText, Text.ofDigits_upperHex, ha]
  | count n => revert n; decide +kernel
  | index | delay | sound | glyph | decimal | key | block => decide +kernel

/-- An operand is read back from its text. -/
theorem text_injective : Function.Injective text := fun a b h => by
  rw [← ofText_text a, ← ofText_text b, h]

/-- There is no comma in the text of an operand. -/
theorem comma_not_mem_text (a : Operand) : ',' ∉ a.text.toList := by
  cases a with
  | register r => simp [text, Instruction.registerText, Text.comma_not_mem_upperHex]
  | byte b => simp [text, Instruction.byteText, Text.comma_not_mem_upperHex]
  | address a => simp [text, Instruction.addressText, Text.comma_not_mem_upperHex]
  | count n => revert n; decide +kernel
  | index | delay | sound | glyph | decimal | key | block => decide +kernel

end Operand

/-! ### What an instruction does with its opcode -/

namespace Instruction

/-- The operands of an instruction.  Of an instruction that does nothing the opcode is shown, which
it does not use. -/
def parts (ins : Instruction) : List Operand :=
  let x := .register ins.x
  let y := .register ins.y
  match ins.kind with
  | .clearScreen | .returnFromCall | .nop => []
  | .jump | .call => [.address ins.nnn]
  | .skipEqByte | .skipNeByte | .setByte | .addByte | .random => [x, .byte ins.kk]
  | .skipEqReg | .skipNeReg | .copy | .or | .and | .xor | .add | .subtract | .subtractFrom => [x, y]
  | .shiftRight | .shiftLeft | .skipKeyDown | .skipKeyUp => [x]
  | .setIndex => [.index, .address ins.nnn]
  | .jumpOffset => [.register Registers.base, .address ins.nnn]
  | .draw => [x, y, .count ins.n]
  | .readDelay => [x, .delay]
  | .awaitKey => [x, .key]
  | .setDelay => [.delay, x]
  | .setSound => [.sound, x]
  | .addIndex => [.index, x]
  | .fontIndex => [.glyph, x]
  | .storeDigits => [.decimal, x]
  | .storeRegisters => [.block, x]
  | .loadRegisters => [x, .block]

/-- What is shown of the operands is the texts of what the instruction works on. -/
theorem operands_eq_map_text {ins : Instruction} (h : ins.kind ≠ .nop) :
    ins.operands = ins.parts.map Operand.text := by
  have hbase : "V0" = registerText Registers.base := by decide +kernel
  obtain ⟨kind, opcode⟩ := ins
  cases kind with
  | nop => exact absurd rfl h
  | _ => simp [operands, parts, Operand.text, hbase]

/-- What the operands are, apart from their numbers, is a matter of the kind. -/
theorem map_ctorIdx_parts (ins : Instruction) :
    ins.parts.map Operand.ctorIdx = (Instruction.mk ins.kind 0).parts.map Operand.ctorIdx := by
  obtain ⟨kind, opcode⟩ := ins
  cases kind <;> rfl

/-- **What the operands are tells kinds of one mnemonic apart.** -/
theorem kind_eq_of_parts : ∀ k ∈ Kind.all, ∀ k' ∈ Kind.all, k.mnemonic = k'.mnemonic →
    (Instruction.mk k 0).parts.map Operand.ctorIdx =
      (Instruction.mk k' 0).parts.map Operand.ctorIdx → k = k' := by
  decide +kernel

/-- Whether two instructions do the same to every machine, and break off alike. -/
def SameEffect (a b : Instruction) : Prop := ∀ m : Machine, m.execute a = m.execute b

/-- **An instruction does nothing with its opcode** but read its operands. -/
theorem sameEffect_of_parts {a b : Instruction} (hkind : a.kind = b.kind)
    (hparts : a.parts = b.parts) : a.SameEffect b := by
  intro m
  obtain ⟨kind, o⟩ := a
  obtain ⟨kind', o'⟩ := b
  obtain rfl : kind = kind' := hkind
  cases kind <;> simp_all [parts, Machine.execute, drawSprite]

/-- **Instructions with the same mnemonic and operands do the same.** -/
theorem sameEffect_of_operands {a b : Instruction} (hmnemonic : a.mnemonic = b.mnemonic)
    (hoperands : a.operands = b.operands) : a.SameEffect b := by
  intro m
  -- What shows an opcode does nothing, and nothing else has its mnemonic.
  have hnop : ∀ k ∈ Kind.all, k.mnemonic = Kind.nop.mnemonic → k = .nop := by decide +kernel
  by_cases ha : a.kind = .nop
  · have hb : b.kind = .nop := by
      refine hnop _ b.kind.mem_all ?_
      rw [← ha]
      exact hmnemonic.symm
    simp only [Machine.execute, ha, hb]
  · have hb : b.kind ≠ .nop := by
      intro hb
      refine ha (hnop _ a.kind.mem_all ?_)
      rw [← hb]
      exact hmnemonic
    rw [operands_eq_map_text ha, operands_eq_map_text hb] at hoperands
    have hparts : a.parts = b.parts := List.map_injective_iff.2 Operand.text_injective hoperands
    have hindices := congrArg (List.map Operand.ctorIdx) hparts
    rw [map_ctorIdx_parts, map_ctorIdx_parts b] at hindices
    have hkind := kind_eq_of_parts _ a.kind.mem_all _ b.kind.mem_all hmnemonic hindices
    exact sameEffect_of_parts hkind hparts m

/-! ### Digits that are not shown -/

section Digits

variable (x y n x' y' n' : Nibble)

/-- The last digit of a comparison of registers does not matter. -/
theorem sameEffect_compare :
    SameEffect (.ofDigits 5 x y n) (.ofDigits 5 x y n') ∧
      SameEffect (.ofDigits 9 x y n) (.ofDigits 9 x y n') := by
  have heq (n : Nibble) : (ofDigits 5 x y n).kind = .skipEqReg :=
    kind_ofDigits_of_forall x y n (by decide) (by decide) (by decide)
  have hne (n : Nibble) : (ofDigits 9 x y n).kind = .skipNeReg :=
    kind_ofDigits_of_forall x y n (by decide) (by decide) (by decide)
  constructor
  · refine sameEffect_of_parts ((heq n).trans (heq n').symm) ?_
    simp only [parts, heq, x_ofDigits, y_ofDigits]
  · refine sameEffect_of_parts ((hne n).trans (hne n').symm) ?_
    simp only [parts, hne, x_ofDigits, y_ofDigits]

/-- The second operand of a shift does not matter. -/
theorem sameEffect_shift :
    SameEffect (.ofDigits 8 x y 6) (.ofDigits 8 x y' 6) ∧
      SameEffect (.ofDigits 8 x y 0xE) (.ofDigits 8 x y' 0xE) := by
  have hright (y : Nibble) : (ofDigits 8 x y 6).kind = .shiftRight :=
    kind_ofDigits_of_ne 8 x y 6 (by decide) (by decide)
  have hleft (y : Nibble) : (ofDigits 8 x y 0xE).kind = .shiftLeft :=
    kind_ofDigits_of_ne 8 x y 0xE (by decide) (by decide)
  constructor
  · refine sameEffect_of_parts ((hright y).trans (hright y').symm) ?_
    simp only [parts, hright, x_ofDigits]
  · refine sameEffect_of_parts ((hleft y).trans (hleft y').symm) ?_
    simp only [parts, hleft, x_ofDigits]

/-- The two middle digits of a wipe and of a return do not matter. -/
theorem sameEffect_system :
    SameEffect (.ofDigits 0 x y 0) (.ofDigits 0 x' y' 0) ∧
      SameEffect (.ofDigits 0 x y 0xE) (.ofDigits 0 x' y' 0xE) := by
  have hclear (x y : Nibble) : (ofDigits 0 x y 0).kind = .clearScreen :=
    kind_ofDigits_of_ne 0 x y 0 (by decide) (by decide)
  have hreturn (x y : Nibble) : (ofDigits 0 x y 0xE).kind = .returnFromCall :=
    kind_ofDigits_of_ne 0 x y 0xE (by decide) (by decide)
  constructor
  · refine sameEffect_of_parts ((hclear x y).trans (hclear x' y').symm) ?_
    simp only [parts, hclear]
  · refine sameEffect_of_parts ((hreturn x y).trans (hreturn x' y').symm) ?_
    simp only [parts, hreturn]

end Digits

/-! ### The line of an instruction -/

/-- There is no comma in what is shown of an operand. -/
theorem comma_not_mem_operands (ins : Instruction) :
    ∀ operand ∈ ins.operands, ',' ∉ operand.toList := by
  by_cases h : ins.kind = .nop
  · simp [operands, h, Text.comma_not_mem_upperHex]
  · rw [operands_eq_map_text h]
    intro operand hoperand
    obtain ⟨a, -, rfl⟩ := List.mem_map.1 hoperand
    exact a.comma_not_mem_text

/-- Mnemonic and operands on one line: each operand has a blank in front, and commas stand between
them. -/
theorem toList_text (ins : Instruction) :
    ins.text.toList =
      ins.mnemonic.toList ++ [','].intercalate (ins.operands.map fun o => ' ' :: o.toList) := by
  have hblanks (o : String) (rest : List String) :
      ' ' :: (", ".intercalate (o :: rest)).toList =
        [','].intercalate ((o :: rest).map fun o => ' ' :: o.toList) := by
    induction rest generalizing o with
    | nil => simp
    | cons o' rest ih =>
      have hrest := ih o'
      rw [List.map_cons] at hrest
      rw [List.map_cons, List.map_cons, List.intercalate_cons_cons, ← hrest]
      simp
  rw [text]
  cases ins.operands with
  | nil => simp
  | cons o rest =>
    rw [← hblanks o rest]
    simp

/-- Rows of texts with a blank in front and no comma in them can be told apart when commas are put
between them. -/
theorem eq_of_intercalate_eq {l l' : List String} (hl : ∀ o ∈ l, ',' ∉ o.toList)
    (hl' : ∀ o ∈ l', ',' ∉ o.toList)
    (h : [','].intercalate (l.map fun o => ' ' :: o.toList) =
      [','].intercalate (l'.map fun o => ' ' :: o.toList)) : l = l' := by
  have hsplit {l : List String} (hl : ∀ o ∈ l, ',' ∉ o.toList) (hne : l ≠ []) :
      ([','].intercalate (l.map fun o => ' ' :: o.toList)).splitOn ',' =
        l.map fun o => ' ' :: o.toList := by
    refine List.splitOn_intercalate ',' ?_ (by simpa using hne)
    simpa using hl
  have hne {o : String} {rest : List String} :
      [','].intercalate ((o :: rest).map fun o => ' ' :: o.toList) ≠ [] := by
    cases rest <;> simp [List.intercalate_cons_cons]
  cases l with
  | nil =>
    cases l' with
    | nil => rfl
    | cons o' rest' => exact absurd h.symm hne
  | cons o rest =>
    cases l' with
    | nil => exact absurd h hne
    | cons o' rest' =>
      have hparts := congrArg (List.splitOn ',') h
      rw [hsplit hl (by simp), hsplit hl' (by simp)] at hparts
      have hinjective : Function.Injective fun o : String => ' ' :: o.toList :=
        fun s t hst => String.toList_inj.1 (List.cons.inj hst).2
      exact List.map_injective_iff.2 hinjective hparts

/-- **The line of an instruction says what its mnemonic and its operands are.** -/
theorem mnemonic_and_operands_eq_of_text_eq {a b : Instruction} (h : a.text = b.text) :
    a.mnemonic = b.mnemonic ∧ a.operands = b.operands := by
  have hblank (k : Kind) : ∀ c ∈ k.mnemonic.toList, (c != ' ') = true := by
    rw [← List.all_eq_true]
    cases k <;> rfl
  have hlist := congrArg String.toList h
  rw [toList_text, toList_text] at hlist
  have hword (ins : Instruction) : (ins.mnemonic.toList ++
      [','].intercalate (ins.operands.map fun o => ' ' :: o.toList)).takeWhile (· != ' ') =
        ins.mnemonic.toList := by
    rw [mnemonic, List.takeWhile_append_of_pos (hblank ins.kind)]
    rcases ins.operands with _ | ⟨o, _ | ⟨o', rest⟩⟩ <;> simp [List.intercalate_cons_cons]
  have hmnemonic : a.mnemonic.toList = b.mnemonic.toList := by
    rw [← hword a, hlist, hword b]
  rw [hmnemonic] at hlist
  exact ⟨String.toList_inj.1 hmnemonic,
    eq_of_intercalate_eq a.comma_not_mem_operands b.comma_not_mem_operands
      (List.append_cancel_left hlist)⟩

end Instruction

/-! ### Cycles that are shown alike -/

namespace Machine

/-- A cycle that carries an instruction out shows it at the program counter. -/
theorem activity_eq_executed {m : Machine} {s : Snapshot} {ins : Instruction}
    (h : m.cycle.2 = .ok s) (hins : s.activity.instruction? = some ins) :
    s.activity = .executed m.regs.pc ins := by
  cases hhalted : m.halted with
  | true =>
    rw [cycle_of_halted hhalted] at h
    obtain rfl := Except.ok.inj h
    cases hins
  | false =>
    cases hwait : m.regs.keyWait with
    | some register =>
      rw [cycle_of_waiting hhalted hwait, awaitCycle.eq_def] at h
      split at h
      · obtain rfl := Except.ok.inj h
        cases hins
      · split at h
        · cases h
        · obtain rfl := Except.ok.inj h
          cases hins
    | none =>
      rw [cycle_of_running hhalted hwait, executeCycle, conclude.eq_def] at h
      split at h
      · obtain rfl := Except.ok.inj h
        cases hins
        rfl
      · obtain rfl := Except.ok.inj h
        cases hins
        rfl
      · cases h

/-- **What is shown of an instruction determines what it does.**  Instructions of the same mnemonic
and operands do the same to every machine, whatever their kinds and opcodes.  So do the instructions
of two cycles at one address that are described in the same words.  And the digits of an opcode that
are not shown do not matter. -/
theorem sameEffect_of_shown_alike :
    (∀ a b : Instruction, a.mnemonic = b.mnemonic → a.operands = b.operands → a.SameEffect b) ∧
      (∀ (m n : Machine) (s t : Snapshot) (a b : Instruction),
        m.cycle.2 = .ok s → s.activity.instruction? = some a →
        n.cycle.2 = .ok t → t.activity.instruction? = some b →
        m.regs.pc = n.regs.pc → s.activity.description = t.activity.description →
        a.SameEffect b) ∧
      ∀ x y n x' y' n' : Nibble,
        (Instruction.ofDigits 5 x y n).SameEffect (.ofDigits 5 x y n') ∧
        (Instruction.ofDigits 9 x y n).SameEffect (.ofDigits 9 x y n') ∧
        (Instruction.ofDigits 8 x y 6).SameEffect (.ofDigits 8 x y' 6) ∧
        (Instruction.ofDigits 8 x y 0xE).SameEffect (.ofDigits 8 x y' 0xE) ∧
        (Instruction.ofDigits 0 x y 0).SameEffect (.ofDigits 0 x' y' 0) ∧
        (Instruction.ofDigits 0 x y 0xE).SameEffect (.ofDigits 0 x' y' 0xE) := by
  refine ⟨fun a b => Instruction.sameEffect_of_operands, ?_, fun x y n x' y' n' => ?_⟩
  · intro m n s t a b hm ha hn hb hpc hdescription
    rw [activity_eq_executed hm ha, activity_eq_executed hn hb, ← hpc] at hdescription
    have htext : toString a.text = toString b.text := by
      simpa [Activity.description] using hdescription
    obtain ⟨hmnemonic, hoperands⟩ := Instruction.mnemonic_and_operands_eq_of_text_eq htext
    exact Instruction.sameEffect_of_operands hmnemonic hoperands
  · obtain ⟨heq, hne⟩ := Instruction.sameEffect_compare x y n n'
    obtain ⟨hright, hleft⟩ := Instruction.sameEffect_shift x y y'
    obtain ⟨hclear, hreturn⟩ := Instruction.sameEffect_system x y x' y'
    exact ⟨heq, hne, hright, hleft, hclear, hreturn⟩

/-- A shift is carried out and shown as it is. -/
theorem cycle_of_shiftRight {m : Machine} (hhalted : m.halted = false)
    (hwait : m.regs.keyWait = none) (hkind : m.nextInstruction.kind = .shiftRight) :
    m.cycle.2 = .ok ⟨.executed m.regs.pc m.nextInstruction, m.cycles + 1, none⟩ := by
  have hdone : ((m.past m.nextInstruction).execute m.nextInstruction).2 = none := by
    simp only [execute, hkind]
  rw [cycle_of_running hhalted hwait, executeCycle_of_carriedOut hdone, answer]
  simp [execute, hkind, past, setPc, setWithFlag, setV]

/-- Two shifts of `V0`, one of them with a negative opcode, and two programs that begin with such
shifts. -/
theorem sameEffect_of_shown_alike_shifts :
    let a : Instruction := ⟨.shiftRight, 0x8016⟩
    let b : Instruction := ⟨.shiftRight, -0x7F1A⟩
    let m := atStart .reference .released (Twister.seeded 0) [0x80, 0x16]
    let n := atStart .full .released (Twister.seeded 1) [0x80, 0xE6]
    (a.mnemonic = b.mnemonic ∧ a.operands = b.operands ∧ a.SameEffect b) ∧
      ∃ s t, m.cycle.2 = .ok s ∧ s.activity.instruction? = some (.decode 0x8016) ∧
        n.cycle.2 = .ok t ∧ t.activity.instruction? = some (.decode 0x80E6) ∧
        m.regs.pc = n.regs.pc ∧ s.activity.description = t.activity.description ∧
        (Instruction.decode 0x8016).SameEffect (.decode 0x80E6) := by
  intro a b m n
  obtain ⟨hinstructions, hcycles, -⟩ := sameEffect_of_shown_alike
  have hoperands : a.operands = b.operands := by decide +kernel
  have hm : m.nextInstruction = .decode 0x8016 := by
    rw [nextInstruction_atStart]
    decide
  have hn : n.nextInstruction = .decode 0x80E6 := by
    rw [nextInstruction_atStart]
    decide
  have hs := cycle_of_shiftRight (m := m) rfl rfl (by rw [hm]; decide)
  have ht := cycle_of_shiftRight (m := n) rfl rfl (by rw [hn]; decide)
  rw [hm] at hs
  rw [hn] at ht
  have hdescription : (Activity.executed 0x200 (.decode 0x8016)).description =
      (Activity.executed 0x200 (.decode 0x80E6)).description := by decide +kernel
  exact ⟨⟨rfl, hoperands, hinstructions a b rfl hoperands⟩, _, _, hs, rfl, ht, rfl, rfl,
    hdescription, hcycles m n _ _ _ _ hs rfl ht rfl rfl hdescription⟩

end Machine

end Chip8
