/-
# Configurations spelled out

A configuration can be written down in full: a document with every field of every
section, the names of modes and levels as texts, and the bindings one by one.  Read
again, such a document gives the configuration that it was written for, if that is
one that can be read at all (`parse_spelledOut_of_readable`).

Which ones can be is said by `Readable`: frequencies that are not known to be zero or
less, a scale of one at least, names of keys in upper case and none twice, and codes
of keys of the keypad.  What is read of any document is of this kind, so reading has a
fixed point in everything that it gives.
-/

import Chip8.Proofs.KeyBindings

namespace Chip8

/-! ### Documents of configurations -/

/-- The section `machine` with every field. -/
def MachineConfig.entries (c : MachineConfig) : List (Value × Value) :=
  [(.str "cpu_hz", .float c.cpuHz), (.str "timer_hz", .float c.timerHz),
    (.str "key_scan", .str c.keyScan.name), (.str "rng_seed", (c.seed.map .int).getD .null),
    (.str "log_level", .str c.logLevel.name)]

/-- The section `display` with every field. -/
def DisplayConfig.entries (c : DisplayConfig) : List (Value × Value) :=
  [(.str "scale", .int c.scale), (.str "foreground", .str c.foreground),
    (.str "background", .str c.background), (.str "refresh_hz", .float c.refreshHz)]

/-- The section `keymap` with every binding. -/
def KeyMap.entries (m : KeyMap) : List (Value × Value) :=
  m.bindings.map fun b => (.str b.1, .int b.2)

namespace SystemConfig

/-- The document that chooses everything as a configuration has it. -/
def spelledOut (c : SystemConfig) : Document where
  collections := #[
    .map [(.str "machine", .collection 1), (.str "display", .collection 2),
      (.str "keymap", .collection 3)],
    .map c.machine.entries, .map c.display.entries, .map c.keymap.entries]
  root := .collection 0

/-- What a configuration has to be if it is read from a document. -/
structure Readable (c : SystemConfig) : Prop where
  cpuHz : ¬c.machine.cpuHz ≤ 0
  timerHz : ¬c.machine.timerHz ≤ 0
  refreshHz : ¬c.display.refreshHz ≤ 0
  scale : 1 ≤ c.display.scale
  normal : c.keymap.Normal
  inRange : c.keymap.InRange

end SystemConfig

namespace Config

variable {d : Document} {entries : List (Value × Value)} {name : String}

/-! ### What is read can be read -/

/-- A scale that is accepted is at least one. -/
theorem le_of_scale {v : Value} {n : Int} (h : scale d v = .ok n) : 1 ≤ n := by
  obtain ⟨k, -, h⟩ := exists_of_bind_eq_ok h
  split at h
  · exact absurd h (refuse_ne_ok _ _)
  · obtain rfl := Except.ok.inj h
    omega

/-- A display's section that is accepted has a scale of at least one and no rate that is at most
zero. -/
theorem bounds_of_display {c : DisplayConfig} (h : display d entries = .ok c) :
    1 ≤ c.scale ∧ ¬c.refreshHz ≤ 0 := by
  obtain ⟨n, hscale, h⟩ := exists_of_bind_eq_ok h
  obtain ⟨foreground, -, h⟩ := exists_of_bind_eq_ok h
  obtain ⟨background, -, h⟩ := exists_of_bind_eq_ok h
  obtain ⟨hz, hrefresh, h⟩ := exists_of_bind_eq_ok h
  obtain rfl := Except.ok.inj h
  refine ⟨?_, not_le_of_field (of_decide_eq_false rfl) hrefresh⟩
  rw [field] at hscale
  split at hscale
  · obtain rfl : 10 = n := Except.ok.inj hscale
    dsimp only
    decide
  · exact le_of_scale hscale

/-- What is accepted can be spelled out and read again. -/
theorem readable_of_parse {c : SystemConfig} (h : parse d = .ok c) : c.Readable := by
  obtain ⟨machineEntries, displayEntries, hmachine, hdisplay, hkeymap⟩ := exists_of_parse_eq_ok h
  obtain ⟨hcpu, htimer⟩ := not_le_of_machine hmachine
  obtain ⟨hscale, hrefresh⟩ := bounds_of_display hdisplay
  obtain ⟨hnormal, hrange⟩ := normal_of_keymap hkeymap
  exact ⟨hcpu, htimer, hrefresh, hscale, hnormal, hrange⟩

/-! ### What can be read is read back -/

/-- A frequency that is not at most zero is read as it is. -/
theorem frequency_float {hz : Float} (h : ¬hz ≤ 0) : frequency d name (.float hz) = .ok hz :=
  if_neg h

/-- A mode is read from its name. -/
theorem keyScan_name (mode : KeyScan) : keyScan d (.str mode.name) = .ok mode := by
  have hlower : (Text.ofString mode.name).lower = Text.ofString mode.name := by
    cases mode <;> decide +kernel
  have hdescribe : describe d (.str mode.name) = .ok (Text.ofString mode.name) := rfl
  rw [keyScan, hdescribe, ok_bind]
  simp only [hlower, Text.string?_ofString, Option.bind_some, KeyScan.ofName?_name]
  rfl

/-- A level is read from its name. -/
theorem logLevel_name (level : LogLevel) : logLevel d (.str level.name) = .ok level := by
  have hupper : (Text.ofString level.name).upper = Text.ofString level.name := by
    cases level <;> decide +kernel
  have hdescribe : describe d (.str level.name) = .ok (Text.ofString level.name) := rfl
  rw [logLevel, hdescribe, ok_bind]
  simp only [hupper, Text.string?_ofString, Option.bind_some, LogLevel.ofName?_name]
  rfl

/-- A seed is read as it is, and none from null. -/
theorem seed_getD (s : Option Int) : seed d ((s.map .int).getD .null) = .ok s := by
  cases s <;> rfl

/-- A machine's section is read from what spells it out. -/
theorem machine_entries {c : MachineConfig} (hcpu : ¬c.cpuHz ≤ 0) (htimer : ¬c.timerHz ≤ 0) :
    machine d c.entries = .ok c := by
  have hcpuField : field c.entries "cpu_hz" defaultCpuHz (frequency d "cpu_hz") = .ok c.cpuHz :=
    frequency_float hcpu
  have htimerField : field c.entries "timer_hz" defaultTimerHz (frequency d "timer_hz") =
      .ok c.timerHz := frequency_float htimer
  have hkeyScan : field c.entries "key_scan" .reference (keyScan d) = .ok c.keyScan :=
    keyScan_name c.keyScan
  have hseed : field c.entries "rng_seed" none (seed d) = .ok c.seed := seed_getD c.seed
  have hlogLevel : field c.entries "log_level" .warning (logLevel d) = .ok c.logLevel :=
    logLevel_name c.logLevel
  rw [machine, hcpuField, htimerField, hkeyScan, hseed, hlogLevel]
  rfl

/-- A display's section is read from what spells it out. -/
theorem display_entries {c : DisplayConfig} (hscale : 1 ≤ c.scale) (hrefresh : ¬c.refreshHz ≤ 0) :
    display d c.entries = .ok c := by
  have hscaleField : field c.entries "scale" 10 (scale d) = .ok c.scale :=
    if_neg (Int.not_lt.2 hscale)
  have hforeground : field c.entries "foreground" (Text.ofString "#FFFFFF") (describe d) =
      .ok c.foreground := rfl
  have hbackground : field c.entries "background" (Text.ofString "#000000") (describe d) =
      .ok c.background := rfl
  have hrefreshField : field c.entries "refresh_hz" 60 (frequency d "refresh_hz") =
      .ok c.refreshHz := frequency_float hrefresh
  rw [display, hscaleField, hforeground, hbackground, hrefreshField]
  rfl

/-- Items that are read back one by one are read back as a list. -/
theorem mapM_map_of_read_back {α β : Type} {f : β → Except ConfigError α} {g : α → β} {l : List α}
    (h : ∀ a ∈ l, f (g a) = .ok a) : (l.map g).mapM f = .ok l := by
  induction l with
  | nil => rfl
  | cons a l ih =>
    obtain ⟨ha, hl⟩ := List.forall_mem_cons.1 h
    simp only [List.map_cons, List.mapM_cons, ha, ih hl]
    rfl

/-- Bindings in normal form are read from what spells them out. -/
theorem keymap_entries {m : KeyMap} {v : Value} (hv : d.entries? v = some m.entries)
    (hnormal : m.Normal) (hrange : m.InRange) : keymap d v = .ok m := by
  have hbound : (m.entries.mapM fun entry => binding d entry.1 entry.2) = .ok m.bindings :=
    mapM_map_of_read_back fun b hb => binding_eq_ok_iff.2 ⟨rfl, hrange b hb, rfl⟩
  unfold keymap
  split
  · cases hv
  · rw [hv]
    change (m.entries.mapM (fun entry => binding d entry.1 entry.2) >>= fun bindings =>
      Except.ok (KeyMap.ofBindings bindings)) = .ok m
    rw [hbound, ok_bind, KeyMap.ofBindings_of_normal hnormal]

/-- A configuration that can be read at all is read from the document that spells it out. -/
theorem parse_spelledOut_of_readable {c : SystemConfig} (h : c.Readable) :
    parse c.spelledOut = .ok c := by
  have hroot : c.spelledOut.entries? c.spelledOut.root = some [(.str "machine", .collection 1),
      (.str "display", .collection 2), (.str "keymap", .collection 3)] := rfl
  have hkeymap : keymap c.spelledOut (.collection 3) = .ok c.keymap :=
    keymap_entries rfl h.normal h.inRange
  have hsections : sectionEntries c.spelledOut
        [(.str "machine", .collection 1), (.str "display", .collection 2),
          (.str "keymap", .collection 3)] "machine" = .ok c.machine.entries ∧
      sectionEntries c.spelledOut
        [(.str "machine", .collection 1), (.str "display", .collection 2),
          (.str "keymap", .collection 3)] "display" = .ok c.display.entries := ⟨rfl, rfl⟩
  have hlookup : lookup? [(.str "machine", .collection 1), (.str "display", .collection 2),
      (.str "keymap", .collection 3)] "keymap" = some (.collection 3) := rfl
  rw [parse_of_entries hroot, hsections.1, hsections.2, ok_bind, ok_bind,
    machine_entries h.cpuHz h.timerHz, ok_bind, display_entries h.scale h.refreshHz, ok_bind,
    hlookup, Option.getD_some, hkeymap]
  rfl

/-- The configurations that documents give are the ones that can be read. -/
theorem exists_parse_iff {c : SystemConfig} : (∃ d, parse d = .ok c) ↔ c.Readable :=
  ⟨fun ⟨_, h⟩ => readable_of_parse h, fun h => ⟨c.spelledOut, parse_spelledOut_of_readable h⟩⟩

/-- **What is read of a document is read again** from the document that spells it out.  So every
configuration that can be read is a fixed point, and no other one is read of any document. -/
theorem parse_spelledOut :
    (∀ (d : Document) (c : SystemConfig), parse d = .ok c → parse c.spelledOut = .ok c) ∧
      ∀ c : SystemConfig, (∃ d, parse d = .ok c) ↔ c.Readable := by
  refine ⟨fun d c h => ?_, fun c => exists_parse_iff⟩
  exact parse_spelledOut_of_readable (readable_of_parse h)

/-- A document in which the numbers are texts, the mode is in capitals, and two keys have one
name. -/
def loosely : Document where
  collections := #[
    .map [(.str "machine", .collection 1), (.str "display", .collection 2),
      (.str "keymap", .collection 3)],
    .map [(.str "rng_seed", .str "0x2A"), (.str "key_scan", .str "FULL")],
    .map [(.str "scale", .str "12"), (.str "foreground", .bool true)],
    .map [(.str "s", .int 1), (.str "ſ", .int 2)]]
  root := .collection 0

/-- It is read as a seed, a mode, a scale and one binding, and so is what spells them out. -/
theorem parse_spelledOut_loosely : ∃ c : SystemConfig, parse loosely = .ok c ∧
    c.machine.seed = some 42 ∧ c.machine.keyScan = .full ∧ c.display.scale = 12 ∧
    c.display.foreground = "True" ∧ c.keymap.bindings = [(Text.ofString "S", 2)] ∧
    parse c.spelledOut = .ok c ∧ c.Readable := by
  have hparse : parse loosely = .ok {
      machine := { seed := some 42, keyScan := .full }
      display := { scale := 12, foreground := "True" }
      keymap := KeyMap.ofBindings [("s", 1), ("ſ", 2)] } := rfl
  obtain ⟨hagain, hreadable⟩ := parse_spelledOut
  exact ⟨_, hparse, rfl, rfl, rfl, rfl, by decide +kernel, hagain _ _ hparse,
    (hreadable _).1 ⟨_, hparse⟩⟩

end Config
end Chip8
