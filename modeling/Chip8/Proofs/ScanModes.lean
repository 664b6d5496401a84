/-
# Two ways to search the keypad

A machine searches the keys `0` to `E` or all sixteen (`KeyScan`).  The mode has a
say in one question only, which key a search finds, and there it matters in one case
only: if key `F` is down and no other key is (`Keypad.OnlyLast`), the one search finds
it and the other finds nothing.  The instructions that ask for one key by its number
see key `F` in both modes.

So a machine can be put into another mode before a call or after it (`serve_scanning`),
unless the call is a cycle that searches a keypad in that case.  As long as a session
has no such cycle (`NeverFindsLast`), two new machines of different modes go through
the same states with the same answers.  The first such cycle then parts them: both
stand at the instruction that asks for a key, and the one takes key `F` and goes on,
while the other waits (`run_new_full`).
-/

import Chip8.Proofs.Commuting
import Chip8.Proofs.Polling
import Chip8.Proofs.Stores

namespace Chip8

/-- Key `F` is down and no other key is. -/
def Keypad.OnlyLast (k : Keypad) : Prop := ∀ key, k.isDown key = true ↔ key.val = 15

namespace Machine

/-- The machine with another way to search the keypad. -/
def scanning (m : Machine) (keyScan : KeyScan) : Machine := { m with keyScan }

/-- Whether the next cycle searches the keypad while key `F` is the only one down. -/
def FindsLast (m : Machine) : Prop := m.Scans ∧ m.keypad.OnlyLast

/-- Whether no cycle of a session searches the keypad while key `F` is the only one down. -/
def NeverFindsLast (m : Machine) (calls : List HostCall) : Prop :=
  ∀ done, done ++ [.cycle] <+: calls → ¬ (m.run done).FindsLast

end Machine

/-! ### What a search finds -/

namespace Keypad

variable {k : Keypad}

/-- A search of all keys looks at the last one in the end. -/
theorem firstDown_full (k : Keypad) :
    k.firstDown 16 = (k.firstDown 15).or (if k.isDown 15 then some 15 else none) := by
  have hkeys : keysBelow 16 = keysBelow 15 ++ [15] := by decide
  rw [firstDown, hkeys, List.find?_append, List.find?_singleton]
  rfl

/-- **The modes differ through key `F` alone.**  Unless it is the only one that is down, both
searches find the same. -/
theorem firstDown_limit (h : ¬ k.OnlyLast) (s t : KeyScan) :
    k.firstDown s.limit = k.firstDown t.limit := by
  have hfull : k.firstDown 16 = k.firstDown 15 := by
    rw [firstDown_full]
    cases hfirst : k.firstDown 15 with
    | some key => rfl
    | none =>
      rw [firstDown_eq_none_iff] at hfirst
      have hlast : ¬ k.isDown 15 = true := by
        intro hlast
        refine h fun key => ⟨fun hkey => ?_, ?_⟩
        · by_contra hne
          have hlt : key.val < 15 := by omega
          rw [hfirst key hlt] at hkey
          cases hkey
        · intro hval
          obtain rfl : key = 15 := Fin.ext hval
          exact hlast
      rw [if_neg hlast]
      rfl
  cases s <;> cases t
  · rfl
  · exact hfull.symm
  · exact hfull
  · rfl

/-- If it is, the one search finds nothing and the other finds it. -/
theorem OnlyLast.firstDown (h : k.OnlyLast) :
    k.firstDown KeyScan.reference.limit = none ∧ k.firstDown KeyScan.full.limit = some 15 := by
  have hnone : k.firstDown 15 = none := by
    rw [firstDown_eq_none_iff]
    intro key hlt
    rw [← Bool.not_eq_true, h key]
    omega
  refine ⟨hnone, ?_⟩
  rw [KeyScan.limit, firstDown_full, hnone, if_pos ((h 15).2 rfl)]
  rfl

end Keypad

namespace Machine

variable {m : Machine} {s : KeyScan}

/-! ### One call in two modes -/

/-- A call does not ask how keys are looked for. -/
theorem call_scanning (m : Machine) (s : KeyScan) (address : Address) :
    (m.scanning s).call address = ((m.call address).1.scanning s, (m.call address).2) := by
  have hregs : (m.scanning s).regs = m.regs := rfl
  unfold call
  rw [hregs]
  rcases m.regs.push m.regs.pc with ⟨regs, _ | stop⟩ <;> rfl

/-- Nor does a return. -/
theorem comeBack_scanning (m : Machine) (s : KeyScan) :
    (m.scanning s).comeBack = (m.comeBack.1.scanning s, m.comeBack.2) := by
  have hregs : (m.scanning s).regs = m.regs := rfl
  unfold comeBack
  rw [hregs]
  rcases m.regs.pop with ⟨regs, stop | address⟩ <;> rfl

/-- **An instruction in two modes.**  Only the one that searches the keypad asks for the mode. -/
theorem execute_scanning {ins : Instruction}
    (h : ins.kind = .awaitKey → (m.scanning s).pressedKey = m.pressedKey) :
    (m.scanning s).execute ins = ((m.execute ins).1.scanning s, (m.execute ins).2) := by
  cases hk : ins.kind <;> simp only [execute, hk, skipIf_eq_setPc]
  case call => exact m.call_scanning s ins.nnn
  case returnFromCall => exact m.comeBack_scanning s
  case awaitKey =>
    rw [h hk]
    cases m.pressedKey <;> rfl
  all_goals rfl

/-- How a cycle is concluded does not depend on how keys are looked for. -/
theorem conclude_scanning (s : KeyScan) (pc : Int) (ins : Instruction) (n : Machine)
    (stop : Option Stop) :
    conclude pc ins (n.scanning s, stop) =
      ((conclude pc ins (n, stop)).1.scanning s, (conclude pc ins (n, stop)).2) := by
  rcases stop with _ | ⟨f⟩ | ⟨e⟩ <;> rfl

/-- A wait that has been told its key does not ask how it was found. -/
theorem awaitCycle_scanning (m : Machine) (s : KeyScan) (register : Int) (key? : Option Nibble) :
    (m.scanning s).awaitCycle register key? =
      ((m.awaitCycle register key?).1.scanning s, (m.awaitCycle register key?).2) := by
  unfold awaitCycle
  cases key? with
  | none => rfl
  | some key => cases Registers.slot? register <;> rfl

/-- **A cycle in two modes.**  It is the same unless it searches the keypad and finds another
key. -/
theorem cycle_scanning (h : m.Scans → (m.scanning s).pressedKey = m.pressedKey) :
    (m.scanning s).cycle = (m.cycle.1.scanning s, m.cycle.2) := by
  cases hh : m.halted with
  | true =>
    rw [m.cycle_of_halted hh, (m.scanning s).cycle_of_halted hh]
    rfl
  | false =>
    cases hw : m.regs.keyWait with
    | some register =>
      have hfound := h (.inl ⟨hh, by rw [Registers.waiting, hw]; rfl⟩)
      rw [m.cycle_of_waiting hh hw, (m.scanning s).cycle_of_waiting hh hw, hfound]
      exact m.awaitCycle_scanning s register m.pressedKey
    | none =>
      have hexecute : ((m.past m.nextInstruction).scanning s).execute m.nextInstruction = _ :=
        execute_scanning fun hk => h (.inr ⟨_, due?_of_running hh hw, hk⟩)
      rw [m.cycle_of_running hh hw, (m.scanning s).cycle_of_running hh hw]
      calc (m.scanning s).executeCycle
          = conclude m.regs.pc m.nextInstruction
              (((m.past m.nextInstruction).scanning s).execute m.nextInstruction) := rfl
        _ = (m.executeCycle.1.scanning s, m.executeCycle.2) := by
          rw [hexecute]
          exact conclude_scanning _ _ _ _ _

/-- **A call in two modes.** -/
theorem serve_scanning {c : HostCall} (h : c = .cycle → ¬ m.FindsLast) (s : KeyScan) :
    (m.scanning s).serve c = ((m.serve c).1.scanning s, (m.serve c).2) := by
  cases c with
  | cycle =>
    have hcycle : (m.scanning s).cycle = (m.cycle.1.scanning s, m.cycle.2) :=
      cycle_scanning fun hscans =>
        Keypad.firstDown_limit (fun honly => h rfl ⟨hscans, honly⟩) s m.keyScan
    simp only [serve, hcycle]
  | load program =>
    rcases serve_load program with ⟨e, he⟩ | hok
    · rw [he, he]
    · rw [hok, hok]
      rfl
  | keyDown code =>
    rcases serve_keyDown code with ⟨e, he⟩ | ⟨key, hkey⟩
    · rw [he, he]
    · rw [hkey, hkey]
      rfl
  | keyUp code =>
    rcases serve_keyUp code with ⟨e, he⟩ | ⟨key, hkey⟩
    · rw [he, he]
    · rw [hkey, hkey]
      rfl
  | togglePixel x y =>
    rcases serve_togglePixel x y with ⟨e, he⟩ | ⟨p, hp⟩
    · rw [he, he]
    · rw [hp, hp]
      rfl
  | reset | tick | releaseKeys | takeDirty | frame | clearScreen => rfl

/-! ### Sessions -/

/-- In an empty session no key is found. -/
theorem neverFindsLast_nil (m : Machine) : m.NeverFindsLast [] := by
  intro done hdone
  have hnil := List.prefix_nil.1 hdone
  rw [List.append_eq_nil_iff] at hnil
  cases hnil.2

/-- A session is free of such cycles if its first call is none and the rest of it has none. -/
theorem neverFindsLast_cons {c : HostCall} {calls : List HostCall} :
    m.NeverFindsLast (c :: calls) ↔
      (c = .cycle → ¬ m.FindsLast) ∧ (m.serve c).1.NeverFindsLast calls := by
  constructor
  · intro h
    refine ⟨?_, fun done hdone => h (c :: done) ?_⟩
    · rintro rfl
      exact h [] ⟨calls, rfl⟩
    · exact List.cons_prefix_cons.2 ⟨rfl, hdone⟩
  · rintro ⟨hfirst, hrest⟩ done hdone
    cases done with
    | nil =>
      obtain ⟨hc, -⟩ := List.cons_prefix_cons.1 hdone
      exact hfirst hc.symm
    | cons d done =>
      obtain ⟨rfl, hdone'⟩ := List.cons_prefix_cons.1 hdone
      exact hrest done hdone'

/-- **A session in two modes.**  Without a cycle that searches the keypad while key `F` is the only
one down, the mode is all that differs in the end, and every call is answered alike. -/
theorem run_scanning {calls : List HostCall} (h : m.NeverFindsLast calls) (s : KeyScan) :
    (m.scanning s).run calls = (m.run calls).scanning s ∧
      (m.scanning s).replies calls = m.replies calls := by
  induction calls generalizing m with
  | nil => exact ⟨rfl, rfl⟩
  | cons c calls ih =>
    obtain ⟨hfirst, hrest⟩ := neverFindsLast_cons.1 h
    obtain ⟨hrun, hreplies⟩ := ih hrest
    have hserve := serve_scanning hfirst s
    constructor
    · rw [run_cons, run_cons, hserve, hrun]
    · rw [replies, replies, hserve, hreplies]

/-! ### The cycle that parts the modes -/

/-- A machine that is about to search the keypad stands at the instruction that asks for a key, and
if it waits already, then for the register of this instruction. -/
theorem WaitsAtInstruction.of_scans (h : m.WaitsAtInstruction) (hscans : m.Scans) :
    m.halted = false ∧ m.nextInstruction.kind = .awaitKey ∧
      (m.regs.keyWait = none ∨ m.regs.keyWait = some (m.nextInstruction.x.val : Int)) := by
  rcases hw : m.regs.keyWait with _ | register
  · rcases hscans with ⟨-, hwaiting⟩ | ⟨ins, hdue, hk⟩
    · rw [Registers.waiting, hw] at hwaiting
      cases hwaiting
    · cases hh : m.halted with
      | true =>
        rw [due?_of_halted hh] at hdue
        cases hdue
      | false =>
        rw [due?_of_running hh hw] at hdue
        obtain rfl := Option.some.inj hdue
        exact ⟨rfl, hk, .inl rfl⟩
  · obtain ⟨hh, hk, hx⟩ := h register hw
    exact ⟨hh, hk, .inr (congrArg some hx.symm)⟩

/-- A search that finds a key: it goes into the register, and the program goes on. -/
theorem WaitsAtInstruction.cycle_of_found (h : m.WaitsAtInstruction) (hscans : m.Scans)
    {key : Nibble} (hkey : m.pressedKey = some key) :
    m.cycle.1 =
      { m with
        regs := { m.regs.set m.nextInstruction.x (UInt8.ofNat key.val) with
          pc := (m.regs.pc + 2) % 65536, keyWait := none }
        cycles := m.cycles + 1 } := by
  obtain ⟨hh, hk, hw | hw⟩ := h.of_scans hscans
  · rw [cycle_of_running hh hw, executeCycle_of_awaitKey hk, hkey]
    simp only [takeKey, past, setPc, setV, answer, Registers.set, Instruction.length, hw]
    rfl
  · have hslot : Registers.slot? (m.nextInstruction.x.val : Int) = some m.nextInstruction.x := by
      rw [Registers.slot?_of_nonneg (Int.natCast_nonneg _), Nibble.ofInt?_eq_some]
    rw [cycle_of_waiting hh hw, hkey]
    simp only [awaitCycle, hslot]
    rfl

/-- A search that finds none: the machine waits at the instruction. -/
theorem WaitsAtInstruction.cycle_of_not_found (h : m.WaitsAtInstruction) (hb : m.Bounded)
    (hscans : m.Scans) (hkey : m.pressedKey = none) :
    m.cycle.1 =
      { m with
        regs := { m.regs with keyWait := some (m.nextInstruction.x.val : Int) }
        cycles := m.cycles + 1 } := by
  obtain ⟨hh, hk, hw | hw⟩ := h.of_scans hscans
  · obtain ⟨hpc₀, hpc₁⟩ := hb.regs.pc
    have hback : ((m.regs.pc + m.nextInstruction.length) % 65536 - 2) % 65536 = m.regs.pc := by
      rw [Instruction.length]
      omega
    rw [cycle_of_running hh hw, executeCycle_of_awaitKey hk, hkey]
    simp only [takeKey, past, setPc, answer, hback]
  · rw [cycle_of_waiting hh hw, hkey, ← hw]
    rfl

/-- **The two modes of a machine differ only through key `F`.**  Two new machines with the same
seed, one of each mode, are driven by the same calls.  As long as no cycle searches the keypad while
key `F` is the only one down, they are in equal states but for the mode, and every call is answered
alike.  The first such cycle finds both at an instruction that asks for a key for some register.
The full machine stores key `F` there and goes on after the instruction; the reference machine is
left waiting at the instruction, for that register.  Nothing else changes but the count of
cycles. -/
theorem run_new_full (seed : Option Int) {calls : List HostCall}
    (h : (new .reference seed).NeverFindsLast calls) :
    let m := (new .reference seed).run calls
    let k := (new .full seed).run calls
    k = { m with keyScan := .full } ∧
      (new .full seed).replies calls = (new .reference seed).replies calls ∧
      (m.Scans → m.keypad.OnlyLast →
        let x := m.nextInstruction.x
        m.nextInstruction.kind = .awaitKey ∧
          k.cycle.1 =
            { k with
              regs := { k.regs.set x 0x0F with pc := (k.regs.pc + 2) % 65536, keyWait := none }
              cycles := k.cycles + 1 } ∧
          m.cycle.1 =
            { m with
              regs := { m.regs with keyWait := some (x.val : Int) }
              cycles := m.cycles + 1 }) := by
  intro m k
  obtain ⟨hrun, hreplies⟩ := run_scanning h .full
  have hk : k = m.scanning .full := hrun
  refine ⟨hk, hreplies, fun hscans honly => ?_⟩
  have hwaits : m.WaitsAtInstruction :=
    run_preserves (P := WaitsAtInstruction) (fun _ c h => h.serve c) _ calls
      (waitsAtInstruction_of_running rfl)
  have hbounded : m.Bounded := (bounded_new .reference seed).run calls
  -- The mode of a machine never changes: running in the mode it has is running in that mode.
  have hmode : m.keyScan = .reference := congrArg keyScan (run_scanning h .reference).1
  obtain ⟨hnone, hlast⟩ := honly.firstDown
  refine ⟨(hwaits.of_scans hscans).2.1, ?_, ?_⟩
  · have hwaits' : k.WaitsAtInstruction := by rw [hk]; exact hwaits
    have hscans' : k.Scans := by rw [hk]; exact hscans
    have hfound : k.pressedKey = some 15 := by rw [hk]; exact hlast
    have hnext : k.nextInstruction = m.nextInstruction := by rw [hk]; rfl
    rw [hwaits'.cycle_of_found hscans' hfound, hnext]
    rfl
  · have hfound : m.pressedKey = none := by rw [pressedKey, hmode, hnone]
    exact hwaits.cycle_of_not_found hbounded hscans hfound

/-- A program that asks for a key at once, and key `F` that goes down while it waits. -/
theorem run_await_last {m : Machine} (hscan : m.keyScan = .reference)
    (hkeypad : m.keypad = .released) :
    let calls : List HostCall := [.load [0xF3, 0x0A], .cycle, .keyDown 15]
    let start := atStart .reference .released m.random [0xF3, 0x0A]
    let waiting : Machine :=
      { start with
        regs := { start.regs with keyWait := some 3 }, keypad := start.keypad.put 15 true,
        cycles := 1 }
    m.NeverFindsLast calls ∧ m.run calls = waiting ∧ waiting.nextInstruction.x = 3 := by
  intro calls start waiting
  have hload : (m.serve (.load [0xF3, 0x0A])).1 = start := by
    rw [show start = atStart m.keyScan m.keypad m.random [0xF3, 0x0A] by rw [hscan, hkeypad]]
    exact @serve_load_eq_atStart m [0xF3, 0x0A] (by decide)
  have hfirst : start.nextInstruction = .decode 0xF30A := by
    rw [nextInstruction_atStart]
    decide
  have hcycle : (start.serve .cycle).1 =
      { start with regs := { start.regs with keyWait := some 3 }, cycles := 1 } := by
    rw [serve, cycle_of_running rfl rfl, executeCycle, hfirst]
    rfl
  refine ⟨?_, ?_, ?_⟩
  · refine neverFindsLast_cons.2 ⟨by rintro ⟨⟩, neverFindsLast_cons.2 ⟨fun _ hlast => ?_, ?_⟩⟩
    · rw [hload] at hlast
      have hup : start.keypad.isDown 15 = false := Keypad.isDown_released 15
      rw [(hlast.2 15).2 rfl] at hup
      cases hup
    · exact neverFindsLast_cons.2 ⟨by rintro ⟨⟩, neverFindsLast_nil _⟩
  · rw [run_cons, hload, run_cons, hcycle]
    rfl
  · have hsame : waiting.nextInstruction = start.nextInstruction := rfl
    rw [hsame, hfirst]
    decide

/-- Both modes wait while no key is down, and key `F` then parts them. -/
theorem run_new_full_while_waiting :
    let calls : List HostCall := [.load [0xF3, 0x0A], .cycle, .keyDown 15]
    let m := (new .reference (some 7)).run calls
    let k := (new .full (some 7)).run calls
    (new .reference (some 7)).NeverFindsLast calls ∧ m.Scans ∧ m.keypad.OnlyLast ∧
      k.cycle.1.regs.get 3 = 0x0F ∧ k.cycle.1.regs.pc = 0x202 ∧ k.cycle.1.regs.keyWait = none ∧
      m.cycle.1.regs.pc = 0x200 ∧ m.cycle.1.regs.keyWait = some 3 := by
  obtain ⟨hnever, hm, hx⟩ := run_await_last (m := new .reference (some 7)) rfl rfl
  obtain ⟨hk, -, hparts⟩ := run_new_full (some 7) hnever
  dsimp only at *
  refine ⟨hnever, ?_⟩
  -- From here on the two machines are known by what they are after the calls.
  generalize (new .reference (some 7)).run _ = m at *
  generalize (new .full (some 7)).run _ = k at *
  have hscans : m.Scans := by
    rw [hm]
    exact .inl ⟨rfl, rfl⟩
  have honly : m.keypad.OnlyLast := by
    rw [hm]
    unfold Keypad.OnlyLast
    decide
  have hpc : m.regs.pc = 0x200 := by
    rw [hm]
    rfl
  rw [← hm] at hx
  obtain ⟨-, hfull, hreference⟩ := hparts hscans honly
  refine ⟨hscans, honly, ?_, ?_, ?_, ?_, ?_⟩
  · rw [hfull, hx]
    exact Registers.get_set_self _ _ _
  · rw [hfull, hk, hpc]
    rfl
  · rw [hfull]
  · rw [hreference, hpc]
  · rw [hreference, hx]
    rfl

end Machine
end Chip8
