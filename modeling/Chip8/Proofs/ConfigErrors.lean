/-
# How a bad configuration is reported

A document that is no configuration is refused because one of its values is not what
the field asks for.  Two refusals are of another kind: an integer can be too large for
floating point (`nearest?_eq_none_iff`), and a value that is to be shown can be nested
too deep to be written out.

Which of them it is depends on the value alone, at every reader of a field
(`Field.kind_of_refusal?`), and a document is refused for the first of its readings
that is refused (`refusal?_parse`).  So the documents that end in another kind of
refusal can be told exactly (`parse_bad_value_iff`).  There are some at every
frequency, for every integer that is too large (`parse_huge`), and at every field, for
all lists in each other that are too many (`parse_nestedLists`).
-/

import Chip8.Proofs.Frequencies
import Chip8.Proofs.Nesting

namespace Chip8

/-! ### Integers beyond floating point -/

namespace Binary64

open Float.Model (UnpackedFloat)

/-- A number and its negative are finite or not alike. -/
theorem isFinite_neg (x : Float) : (-x).isFinite = x.isFinite := by
  have hneg : (-x).isFinite = (UnpackedFloat.unpack .binary64
      (UnpackedFloat.pack .binary64 x.toModel.unpack.neg)).isFinite := rfl
  have hx : x.isFinite = x.toModel.unpack.isFinite := rfl
  rw [hneg, hx]
  cases hu : x.toModel.unpack with
  | notANumber => rfl
  | infinity sign => cases sign <;> rfl
  | zero sign => cases sign <;> rfl
  | finite sign m e hm =>
    obtain ⟨hc, hmax⟩ := canonical_of_unpack hu
    rw [UnpackedFloat.neg, hc.unpack_pack hm hmax]
    rfl

/-- The ceiling is a natural number. -/
theorem ceiling_eq : ceiling = ((2 ^ 1024 - 2 ^ 970 : Nat) : ℚ) := by
  have hnat : 2 ^ 1024 - 2 ^ 970 = (2 ^ 54 - 1) * 2 ^ 970 := by
    rw [Nat.sub_mul, Nat.one_mul, ← Nat.pow_add]
  rw [hnat, Nat.cast_mul, Nat.cast_pow]
  rfl

end Binary64

namespace Number

open Binary64 (ceiling ceiling_eq isFinite_neg rounds_ofNat)

/-- **Which integers are too large.**  An integer has no nearest floating-point number just if it is
at least halfway from the largest such number to the next power of two. -/
theorem nearest?_eq_none_iff (n : Int) :
    nearest? n = none ↔ 2 ^ 1024 - 2 ^ 970 ≤ n.natAbs := by
  have hmagnitude : (Float.ofInt n).isFinite = (Float.ofNat n.natAbs).isFinite := by
    cases n with
    | ofNat k => rfl
    | negSucc k => exact isFinite_neg (Float.ofNat (k + 1))
  have hrounds := rounds_ofNat n.natAbs
  rw [← Nat.cast_le (α := ℚ), ← ceiling_eq, nearest?, hmagnitude]
  constructor
  · intro h
    by_contra hlt
    obtain ⟨v, hv, -⟩ := hrounds.exists_value (not_le.1 hlt)
    simp only [if_pos hv.isFinite] at h
    cases h
  · intro hge
    simp only [hrounds.overflow hge]
    rfl

end Number

/-! ### The kinds of refusals -/

/-- What a refusal is, apart from its wording. -/
inductive ConfigErrorKind where
  /-- A value is not what is asked for. -/
  | badValue
  /-- A number does not fit. -/
  | overflow
  /-- Something is nested too deep. -/
  | recursion
  deriving DecidableEq, Repr

/-- The kind of a refusal. -/
def ConfigError.kind : ConfigError → ConfigErrorKind
  | .tooLarge => .overflow
  | .unwritten .tooDeep => .recursion
  | _ => .badValue

namespace Config

/-- The fields of the two sections that have fields. -/
inductive Field where
  | cpuHz | timerHz | keyScan | rngSeed | logLevel
  | scale | foreground | background | refreshHz
  deriving DecidableEq, Repr

namespace Field

/-- The fields of the section `machine`, in the order in which they are read. -/
def ofMachine : List Field := [.cpuHz, .timerHz, .keyScan, .rngSeed, .logLevel]

/-- The fields of the section `display`, in the order in which they are read. -/
def ofDisplay : List Field := [.scale, .foreground, .background, .refreshHz]

/-- The section of a field. -/
def heading : Field → String
  | .cpuHz | .timerHz | .keyScan | .rngSeed | .logLevel => "machine"
  | .scale | .foreground | .background | .refreshHz => "display"

/-- The name of a field. -/
def name : Field → String
  | .cpuHz => "cpu_hz"
  | .timerHz => "timer_hz"
  | .keyScan => "key_scan"
  | .rngSeed => "rng_seed"
  | .logLevel => "log_level"
  | .scale => "scale"
  | .foreground => "foreground"
  | .background => "background"
  | .refreshHz => "refresh_hz"

/-- Whether a field is a frequency. -/
def isFrequency : Field → Bool
  | .cpuHz | .timerHz | .refreshHz => true
  | _ => false

end Field

variable {d : Document} {v : Value} {e : ConfigError} {entries : List (Value × Value)}
  {name : String}

/-- An integer that no floating-point number is near to. -/
def Huge (v : Value) : Prop := ∃ n : Int, v = .int n ∧ 2 ^ 1024 - 2 ^ 970 ≤ n.natAbs

/-- A value that cannot be shown for its digits is refused as a bad value, one that is nested too
deep is not. -/
theorem kind_of_describe (h : describe d v = .error e) :
    e.kind = .badValue ↔ d.text v ≠ .error .tooDeep := by
  obtain ⟨reason, htext, rfl⟩ := exists_of_mapError_eq_error h
  rw [htext]
  cases reason <;> simp [ConfigError.kind]

/-- A value that was shown is not nested too deep. -/
theorem text_ne_of_describe {t : Text} (h : describe d v = .ok t) :
    d.text v ≠ .error .tooDeep := by
  intro htext
  rw [describe, htext] at h
  cases h

/-- A refusal is the one that is meant, or that of showing its values. -/
theorem of_refuse_eq_error {α : Type} {error : Except ConfigError ConfigError}
    (h : refuse (α := α) error = .error e) : error = .ok e ∨ error = .error e := by
  cases error with
  | ok e' => exact .inl (congrArg Except.ok (Except.error.inj h))
  | error e' => exact .inr (congrArg Except.error (Except.error.inj h))

/-- A value that is refused as a bad one is shown. -/
theorem kind_of_refuse {α : Type} {bad : Text → ConfigError}
    (hbad : ∀ t, (bad t).kind = .badValue)
    (h : refuse (α := α) (do return bad (← describe d v)) = .error e) :
    e.kind = .badValue ↔ d.text v ≠ .error .tooDeep := by
  rcases of_refuse_eq_error h with h | h
  · obtain ⟨text, htext, h⟩ := exists_of_bind_eq_ok h
    obtain rfl := Except.ok.inj h
    exact iff_of_true (hbad text) (text_ne_of_describe htext)
  · rcases of_bind_eq_error h with h | ⟨_, -, h⟩
    · exact kind_of_describe h
    · cases h

/-! ### What each reader refuses -/

/-- A value that is read as an integer is refused as a bad value, unless it is nested too deep to be
shown. -/
theorem kind_of_integer (h : integer d v = .error e) :
    e.kind = .badValue ↔ d.text v ≠ .error .tooDeep := by
  unfold integer at h
  split at h
  · cases h
  · obtain ⟨reason, -, rfl⟩ := exists_of_mapError_eq_error h
    exact iff_of_true rfl (fun h => nomatch h)
  · exact kind_of_refuse (fun _ => rfl) h

/-- A value that is an integer, as such or as a text, can be shown. -/
theorem text_ne_of_integer {n : Int} (h : integer d v = .ok n) : d.text v ≠ .error .tooDeep := by
  unfold integer at h
  split at h
  · exact Document.text_int_ne_tooDeep d _
  · exact fun h => nomatch h
  · exact absurd h (refuse_ne_ok _ _)

/-- A reading in two steps, of which the second refuses nothing but bad values. -/
theorem kind_of_bind {α β : Type} {x : Except ConfigError α} {f : α → Except ConfigError β}
    {P : Prop} (herror : ∀ e, x = .error e → (e.kind = .badValue ↔ P)) (hok : ∀ a, x = .ok a → P)
    (hf : ∀ a e, f a = .error e → e.kind = .badValue) (h : (x >>= f) = .error e) :
    e.kind = .badValue ↔ P := by
  rcases of_bind_eq_error h with h | ⟨a, ha, h⟩
  · exact herror e h
  · exact iff_of_true (hf a e h) (hok a ha)

/-- So is a value that is read as a seed. -/
theorem kind_of_seed (h : seed d v = .error e) :
    e.kind = .badValue ↔ d.text v ≠ .error .tooDeep := by
  unfold seed at h
  split at h
  · cases h
  · refine kind_of_bind (fun _ => kind_of_integer) (fun _ => text_ne_of_integer) ?_ h
    intro n e h
    cases h

/-- So is a value that is read as the name of a mode. -/
theorem kind_of_keyScan (h : keyScan d v = .error e) :
    e.kind = .badValue ↔ d.text v ≠ .error .tooDeep := by
  refine kind_of_bind (fun _ => kind_of_describe) (fun _ => text_ne_of_describe) ?_ h
  intro text e h
  dsimp only at h
  split at h
  · cases h
  · obtain rfl := Except.error.inj h
    rfl

/-- So is a value that is read as the name of a level. -/
theorem kind_of_logLevel (h : logLevel d v = .error e) :
    e.kind = .badValue ↔ d.text v ≠ .error .tooDeep := by
  refine kind_of_bind (fun _ => kind_of_describe) (fun _ => text_ne_of_describe) ?_ h
  intro text e h
  dsimp only at h
  split at h
  · cases h
  · obtain rfl := Except.error.inj h
    rfl

/-- So is a value that is read as a scale, also one that is too small. -/
theorem kind_of_scale (h : scale d v = .error e) :
    e.kind = .badValue ↔ d.text v ≠ .error .tooDeep := by
  refine kind_of_bind (fun _ => kind_of_integer) (fun _ => text_ne_of_integer) ?_ h
  intro n e h
  split at h
  · rcases of_refuse_eq_error h with h | h
    · obtain ⟨text, -, h⟩ := exists_of_bind_eq_ok h
      obtain rfl := Except.ok.inj h
      rfl
    · rcases of_bind_eq_error h with h | ⟨text, -, h⟩
      · exact (kind_of_describe h).2 (Document.text_int_ne_tooDeep d n)
      · cases h
  · cases h

/-- A number is too large for floating point only if it is such an integer. -/
theorem huge_of_number {n : Number} (hn : v.number? = some n) (hnone : n.toFloat? = none) :
    Huge v := by
  cases v with
  | int n =>
    obtain rfl := Option.some.inj hn
    exact ⟨n, rfl, (Number.nearest?_eq_none_iff n).1 hnone⟩
  | bool b =>
    obtain rfl := Option.some.inj hn
    cases b <;> cases hnone
  | float x =>
    obtain rfl := Option.some.inj hn
    cases hnone
  | null | str | date | moment | bytes | collection => cases hn

/-- An integer that is too large for floating point is refused for its size, and not as a bad value.
-/
theorem floatOf_of_huge {n : Int} (hn : 2 ^ 1024 - 2 ^ 970 ≤ n.natAbs) :
    floatOf d name (.int n) = .error .tooLarge := by
  have hnone : (Number.int n).toFloat? = none := (Number.nearest?_eq_none_iff n).2 hn
  simp only [floatOf, Value.number?, hnone]

/-- A value that is read as a floating-point number is refused as a bad value, unless it is nested
too deep to be shown or too large to be converted. -/
theorem kind_of_floatOf (h : floatOf d name v = .error e) :
    e.kind = .badValue ↔ d.text v ≠ .error .tooDeep ∧ ¬Huge v := by
  unfold floatOf at h
  extract_lets read at h
  have hread : ∀ text?, read text? = .error e →
      (e.kind = .badValue ↔ d.text v ≠ .error .tooDeep) := by
    intro text? h
    dsimp only [read] at h
    split at h
    · cases h
    · exact kind_of_refuse (fun _ => rfl) h
  split at h
  · rw [hread _ h, and_iff_left]
    rintro ⟨n, hn, -⟩
    cases hn
  · rw [hread _ h, and_iff_left]
    rintro ⟨n, hn, -⟩
    cases hn
  · split at h
    · rename_i hnumber
      rw [hread none h, and_iff_left]
      rintro ⟨n, rfl, -⟩
      cases hnumber
    · rename_i n hn
      split at h
      · cases h
      · rename_i hnone
        obtain rfl := Except.error.inj h
        refine iff_of_false (fun hkind => nomatch hkind) ?_
        exact fun hnot => hnot.2 (huge_of_number hn hnone)

/-- So is a value that is read as a frequency, also one that is not positive. -/
theorem kind_of_frequency (h : frequency d name v = .error e) :
    e.kind = .badValue ↔ d.text v ≠ .error .tooDeep ∧ ¬Huge v := by
  rcases of_bind_eq_error h with h | ⟨x, hx, h⟩
  · exact kind_of_floatOf h
  · have hhuge : ¬Huge v := by
      rintro ⟨n, rfl, hn⟩
      rw [floatOf_of_huge hn] at hx
      cases hx
    rw [and_iff_left hhuge]
    split at h
    · exact kind_of_refuse (fun _ => rfl) h
    · cases h

/-- The name of a binding's key is shown only if its code is an integer. -/
theorem kind_of_binding {hostKey code : Value} (h : binding d hostKey code = .error e) :
    e.kind = .badValue ↔ d.text code ≠ .error .tooDeep ∧
      ∀ n, integer d code = .ok n → d.text hostKey ≠ .error .tooDeep := by
  rcases of_bind_eq_error h with h | ⟨n, hn, h⟩
  · rw [kind_of_integer h, and_iff_left]
    intro n hn
    rw [h] at hn
    cases hn
  · have hcode := text_ne_of_integer hn
    simp only [hn, Except.ok.injEq, forall_eq', ne_eq, hcode, not_false_eq_true, true_and]
    split at h
    · rcases of_bind_eq_error h with h | ⟨text, -, h⟩
      · exact kind_of_describe h
      · cases h
    · rcases of_refuse_eq_error h with h | h
      · obtain ⟨_, htext, h⟩ := exists_of_bind_eq_ok h
        obtain ⟨_, -, h⟩ := exists_of_bind_eq_ok h
        obtain rfl := Except.ok.inj h
        exact iff_of_true rfl (text_ne_of_describe htext)
      · rcases of_bind_eq_error h with h | ⟨_, htext, h⟩
        · exact kind_of_describe h
        · rcases of_bind_eq_error h with h | ⟨_, -, h⟩
          · exact iff_of_true ((kind_of_describe h).2 hcode) (text_ne_of_describe htext)
          · cases h

/-! ### What is refused first -/

/-- What a reading is refused for, if it is. -/
def refusal? {α : Type} : Except ConfigError α → Option ConfigError
  | .ok _ => none
  | .error e => some e

/-- A reading is refused for a reason just if it ends with it. -/
@[simp] theorem refusal?_eq_some {α : Type} {x : Except ConfigError α} :
    refusal? x = some e ↔ x = .error e := by
  cases x <;> simp [refusal?]

/-- Of two readings, where the second does not depend on what the first one gives, the first one
that is refused counts. -/
theorem refusal?_bind {α β : Type} {x : Except ConfigError α} {f : α → Except ConfigError β}
    {first second : Option ConfigError} (hx : refusal? x = first)
    (hf : ∀ a, refusal? (f a) = second) : refusal? (x >>= f) = first.or second := by
  subst hx
  cases x with
  | ok a => exact hf a
  | error e => rfl

/-- The first reason of a list is that of its head, or else the first one of its tail. -/
theorem findSome?_cons_eq_or {α β : Type} {f : α → Option β} {a : α} {l : List α} :
    (a :: l).findSome? f = (f a).or (l.findSome? f) := by
  rw [List.findSome?_cons]
  cases f a <;> rfl

/-- A field is refused if it is there and its value is; its default never is. -/
theorem refusal?_field {α : Type} {default : α} {read : Value → Except ConfigError α} :
    refusal? (field entries name default read) =
      (lookup? entries name).bind fun v => refusal? (read v) := by
  rw [field]
  cases lookup? entries name <;> rfl

/-- A list is refused for the first of its items that is. -/
theorem refusal?_mapM {α β : Type} {f : α → Except ConfigError β} {l : List α} :
    refusal? (l.mapM f) = l.findSome? fun a => refusal? (f a) := by
  induction l with
  | nil => rfl
  | cons a l ih =>
    rw [List.mapM_cons, findSome?_cons_eq_or, ← ih]
    refine refusal?_bind rfl fun b => ?_
    cases l.mapM f <;> rfl

namespace Field

/-- What a value is refused for at a field. -/
def refusal? (d : Document) (f : Field) (v : Value) : Option ConfigError :=
  match f with
  | .cpuHz | .timerHz | .refreshHz => Config.refusal? (frequency d f.name v)
  | .keyScan => Config.refusal? (Config.keyScan d v)
  | .rngSeed => Config.refusal? (seed d v)
  | .logLevel => Config.refusal? (Config.logLevel d v)
  | .scale => Config.refusal? (Config.scale d v)
  | .foreground | .background => Config.refusal? (describe d v)

/-- The value of a field is refused as a bad value, unless it is nested too deep to be shown or is a
frequency too large to be converted. -/
theorem kind_of_refusal? {f : Field} (h : f.refusal? d v = some e) :
    e.kind = .badValue ↔ d.text v ≠ .error .tooDeep ∧ (f.isFrequency = true → ¬Huge v) := by
  cases f with
  | cpuHz | timerHz | refreshHz =>
    simpa [isFrequency] using kind_of_frequency (refusal?_eq_some.1 h)
  | keyScan => simpa [isFrequency] using kind_of_keyScan (refusal?_eq_some.1 h)
  | rngSeed => simpa [isFrequency] using kind_of_seed (refusal?_eq_some.1 h)
  | logLevel => simpa [isFrequency] using kind_of_logLevel (refusal?_eq_some.1 h)
  | scale => simpa [isFrequency] using kind_of_scale (refusal?_eq_some.1 h)
  | foreground | background => simpa [isFrequency] using kind_of_describe (refusal?_eq_some.1 h)

end Field

end Config

/-! ### What a document is refused for -/

namespace Document

/-- The value of a section. -/
def section? (d : Document) (heading : String) : Option Value := do
  lookup? (← d.entries? d.root) heading

/-- The value of a field of a section. -/
def field? (d : Document) (heading name : String) : Option Value := do
  lookup? (← d.entries? (← d.section? heading)) name

/-- Whether a section of fields can be one: it is missing, or empty in any way, or a mapping. -/
def wellShaped (d : Document) (heading : String) : Bool :=
  (d.section? heading).all fun v => !d.isTruthy v || (d.entries? v).isSome

/-- A mapping counts as true unless it is empty. -/
theorem isTruthy_of_entries? {d : Document} {v : Value} {entries : List (Value × Value)}
    (h : d.entries? v = some entries) : d.isTruthy v = !entries.isEmpty := by
  cases v with
  | collection k =>
    cases hk : d.collection k with
    | map inside =>
      rw [entries?, hk] at h
      obtain rfl := Option.some.inj h
      rw [isTruthy, hk]
      rfl
    | list | pairs | set =>
      rw [entries?, hk] at h
      cases h
  | null | bool | int | float | str | date | moment | bytes => cases h

end Document

namespace Config

/-- A value of a document that is read, with what it is read as. -/
inductive Reading where
  | field (f : Field) (v : Value)
  | binding (hostKey code : Value)
  deriving Repr

namespace Reading

/-- What it is refused for. -/
def refusal? (d : Document) : Reading → Option ConfigError
  | .field f v => f.refusal? d v
  | .binding hostKey code => Config.refusal? (Config.binding d hostKey code)

/-- Whether its refusal is no bad value: the value, or the name of a key whose code is an integer,
is too deep to be written out, or a frequency is too large an integer. -/
def Escapes (d : Document) : Reading → Prop
  | .field f v => d.text v = .error .tooDeep ∨ f.isFrequency = true ∧ Huge v
  | .binding hostKey code => d.text code = .error .tooDeep ∨
      (∃ n, integer d code = .ok n) ∧ d.text hostKey = .error .tooDeep

/-- A reading is refused as a bad value, unless its value escapes the checks. -/
theorem kind_of_refusal? {d : Document} {r : Reading} {e : ConfigError}
    (h : r.refusal? d = some e) : e.kind = .badValue ↔ ¬r.Escapes d := by
  cases r with
  | field f v =>
    rw [Field.kind_of_refusal? h, Escapes, not_or, not_and]
  | binding hostKey code =>
    rw [kind_of_binding (refusal?_eq_some.1 h), Escapes, not_or, not_and, forall_exists_index]

end Reading

/-- The values of fields that a document has, in the order in which they are read. -/
def fieldReadings (d : Document) (fields : List Field) : List Reading :=
  fields.filterMap fun f => (d.field? f.heading f.name).map (.field f)

/-- The bindings that a document has. -/
def bindingReadings (d : Document) : List Reading :=
  (((d.section? "keymap").bind d.entries?).getD []).map fun entry => .binding entry.1 entry.2

/-- Everything that is read of a document, in its order.  Nothing is read of sections that can be
none. -/
def readings (d : Document) : List Reading :=
  if d.wellShaped "machine" && d.wellShaped "display" then
    fieldReadings d Field.ofMachine ++ fieldReadings d Field.ofDisplay ++ bindingReadings d
  else []

variable {d : Document} {v : Value} {e : ConfigError} {entries : List (Value × Value)}

/-- The first refusal among the readings of some fields is that of the first field that is there and
refused. -/
theorem findSome?_fieldReadings (fields : List Field) :
    (fieldReadings d fields).findSome? (Reading.refusal? d) =
      fields.findSome? fun f => (d.field? f.heading f.name).bind (f.refusal? d) := by
  induction fields with
  | nil => rfl
  | cons f fields ih =>
    rw [findSome?_cons_eq_or, ← ih, fieldReadings, List.filterMap_cons]
    cases d.field? f.heading f.name with
    | none => rfl
    | some v => exact findSome?_cons_eq_or

/-- The machine's section is refused for the first of its fields that is. -/
theorem refusal?_machine (h : ∀ name, lookup? entries name = d.field? "machine" name) :
    refusal? (machine d entries) =
      (fieldReadings d Field.ofMachine).findSome? (Reading.refusal? d) := by
  rw [findSome?_fieldReadings]
  simp only [Field.ofMachine, findSome?_cons_eq_or, Field.heading, ← h]
  exact refusal?_bind refusal?_field fun _ => refusal?_bind refusal?_field fun _ =>
    refusal?_bind refusal?_field fun _ => refusal?_bind refusal?_field fun _ =>
    refusal?_bind refusal?_field fun _ => rfl

/-- The display's section is refused for the first of its fields that is. -/
theorem refusal?_display (h : ∀ name, lookup? entries name = d.field? "display" name) :
    refusal? (display d entries) =
      (fieldReadings d Field.ofDisplay).findSome? (Reading.refusal? d) := by
  rw [findSome?_fieldReadings]
  simp only [Field.ofDisplay, findSome?_cons_eq_or, Field.heading, ← h]
  exact refusal?_bind refusal?_field fun _ => refusal?_bind refusal?_field fun _ =>
    refusal?_bind refusal?_field fun _ => refusal?_bind refusal?_field fun _ => rfl

/-- A section can be read just if it can be one, and what is read of it are its fields. -/
theorem sectionEntries_cases (hsections : ∀ name, lookup? entries name = d.section? name)
    (heading : String) :
    (d.wellShaped heading = true ∧ ∃ inside, sectionEntries d entries heading = .ok inside ∧
      ∀ name, lookup? inside name = d.field? heading name) ∨
    d.wellShaped heading = false ∧ ∃ e, sectionEntries d entries heading = .error e ∧
      e.kind = .badValue := by
  rw [Document.wellShaped, sectionEntries, hsections]
  cases hv : d.section? heading with
  | none =>
    refine .inl ⟨rfl, [], rfl, fun name => ?_⟩
    rw [Document.field?, hv]
    rfl
  | some v =>
    have hfield : ∀ name, d.field? heading name =
        (d.entries? v).bind fun inside => lookup? inside name := by
      intro name
      rw [Document.field?, hv]
      rfl
    cases hinside : d.entries? v with
    | none =>
      cases htruthy : d.isTruthy v with
      | false =>
        refine .inl ⟨by simp [htruthy], [], by simp [htruthy], ?_⟩
        simp [hfield, hinside, lookup?]
      | true =>
        refine .inr ⟨by simp [htruthy, hinside], .sectionShape heading, ?_, rfl⟩
        simp [htruthy, hinside]
    | some inside =>
      refine .inl ⟨by simp [hinside], inside, ?_, by simp [hfield, hinside]⟩
      cases inside with
      | nil => simp [Document.isTruthy_of_entries? hinside]
      | cons => simp [Document.isTruthy_of_entries? hinside, hinside]

/-- A document is read section by section, unless it is no mapping and has none. -/
theorem parse_cases (d : Document) :
    (∀ name, d.section? name = none) ∧ parse d = .error .rootShape ∨
    ∃ entries, (∀ name, lookup? entries name = d.section? name) ∧
      parse d = do
        let machineEntries ← sectionEntries d entries "machine"
        let displayEntries ← sectionEntries d entries "display"
        let machine ← machine d machineEntries
        let display ← display d displayEntries
        let keymap ← keymap d ((lookup? entries "keymap").getD .null)
        return { machine, display, keymap } := by
  unfold parse
  extract_lets go
  split
  · rename_i hroot
    refine .inr ⟨[], fun name => ?_, rfl⟩
    rw [Document.section?, hroot]
    rfl
  · split
    · rename_i entries hentries
      refine .inr ⟨entries, fun name => ?_, rfl⟩
      rw [Document.section?, hentries]
      rfl
    · rename_i hentries
      refine .inl ⟨fun name => ?_, rfl⟩
      rw [Document.section?, hentries]
      rfl

/-- The bindings are refused one by one, unless their section is no mapping. -/
theorem refusal?_keymap (d : Document) : ∃ shape : Option ConfigError,
    (∀ e ∈ shape, e.kind = .badValue) ∧
      refusal? (keymap d ((d.section? "keymap").getD .null)) =
        ((bindingReadings d).findSome? (Reading.refusal? d)).or shape := by
  unfold bindingReadings keymap
  cases hv : d.section? "keymap" with
  | none => exact ⟨none, by simp, rfl⟩
  | some v =>
    simp only [Option.getD_some, Option.bind_some]
    split
    · exact ⟨none, by simp, rfl⟩
    · split
      · rename_i hentries
        exact ⟨some .keymapShape, by simp [ConfigError.kind], by rw [hentries]; rfl⟩
      · rename_i entries hentries
        refine ⟨none, by simp, ?_⟩
        rw [hentries, Option.getD_some, List.findSome?_map]
        exact refusal?_bind refusal?_mapM fun _ => rfl

theorem ok_bind {ε α β : Type} (a : α) (f : α → Except ε β) : (Except.ok a >>= f) = f a := rfl

/-- **A document is refused for the first of its readings that is refused,** or for its shape. -/
theorem refusal?_parse (d : Document) : ∃ shape : Option ConfigError,
    (∀ e ∈ shape, e.kind = .badValue) ∧
      refusal? (parse d) = ((readings d).findSome? (Reading.refusal? d)).or shape := by
  rcases parse_cases d with ⟨hnone, hparse⟩ | ⟨entries, hsections, hparse⟩
  · refine ⟨some .rootShape, by simp [ConfigError.kind], ?_⟩
    have hreadings : readings d = [] := by
      simp [readings, fieldReadings, bindingReadings, Document.field?, Document.wellShaped, hnone]
    rw [hparse, hreadings]
    rfl
  rcases sectionEntries_cases hsections "machine" with
    ⟨hmachine, inside, hinside, hfields⟩ | ⟨hmachine, e, he, hkind⟩
  · rcases sectionEntries_cases hsections "display" with
      ⟨hdisplay, inside', hinside', hfields'⟩ | ⟨hdisplay, e, he, hkind⟩
    · obtain ⟨shape, hshape, hkeymap⟩ := refusal?_keymap d
      refine ⟨shape, hshape, ?_⟩
      rw [hparse, hinside, hinside', ok_bind, ok_bind, hsections, readings, hmachine, hdisplay]
      simp only [Bool.and_self, if_true, List.findSome?_append, Option.or_assoc, ← hkeymap,
        ← refusal?_machine hfields, ← refusal?_display hfields']
      refine refusal?_bind rfl fun _ => refusal?_bind rfl fun _ => ?_
      cases keymap d ((d.section? "keymap").getD .null) <;> rfl
    · refine ⟨some e, by simpa using hkind, ?_⟩
      rw [hparse, hinside, he, readings, hmachine, hdisplay]
      rfl
  · refine ⟨some e, by simpa using hkind, ?_⟩
    rw [hparse, he, readings, hmachine]
    rfl

/-- The first of the readings that is refused. -/
def firstRefused? (d : Document) : Option Reading :=
  (readings d).find? fun r => (r.refusal? d).isSome

/-- The first result of a list is the result of its first item that has one. -/
theorem findSome?_eq_bind_find? {α β : Type} {f : α → Option β} {l : List α} :
    l.findSome? f = (l.find? fun a => (f a).isSome).bind f := by
  induction l with
  | nil => rfl
  | cons a l ih =>
    cases h : f a with
    | none => simp [h, ih]
    | some b => simp [h]

/-- **When a refusal is one for a bad value.**  A document is accepted or refused for a bad value,
unless the first of its readings that is refused is a frequency that is too large an integer, or is
too deep to be written out in the refusal or the configuration. -/
theorem parse_bad_value_iff (d : Document) :
    ((∃ c, parse d = .ok c) ∨ ∃ e, parse d = .error e ∧ e.kind = .badValue) ↔
      ∀ r, firstRefused? d = some r → ¬r.Escapes d := by
  obtain ⟨shape, hshape, hparse⟩ := refusal?_parse d
  have hmeets : ((∃ c, parse d = .ok c) ∨ ∃ e, parse d = .error e ∧ e.kind = .badValue) ↔
      ∀ e ∈ refusal? (parse d), e.kind = .badValue := by
    cases parse d <;> simp [refusal?]
  rw [hmeets, hparse, findSome?_eq_bind_find?, ← firstRefused?]
  cases hfirst : firstRefused? d with
  | none => simpa using hshape
  | some r =>
    have hrefused := List.find?_some hfirst
    obtain ⟨e, he⟩ := Option.isSome_iff_exists.1 hrefused
    simp [he, Reading.kind_of_refusal? he]

/-! ### Documents that choose one field -/

/-- A document with one field, whose value may consist of other collections. -/
def only (heading name : String) (v : Value) (others : List Collection) : Document where
  collections := #[.map [(.str heading, .collection 1)], .map [(.str name, v)]] ++ others.toArray
  root := .collection 0

/-- A document with one section has this section and no other. -/
theorem section?_only (heading name : String) (v : Value) (others : List Collection)
    (other : String) : (only heading name v others).section? other =
      if Value.isStr other (.str heading) then some (.collection 1) else none := by
  simp only [only, Document.section?, Document.entries?, Document.collection, lookup?]
  by_cases h : Value.isStr other (.str heading) = true <;> simp [h]

/-- A document with one field has this field and no other. -/
theorem field?_only (heading name : String) (v : Value) (others : List Collection)
    (other field : String) : (only heading name v others).field? other field =
      if Value.isStr other (.str heading) && Value.isStr field (.str name) then some v
      else none := by
  have hinside : (only heading name v others).entries? (.collection 1) = some [(.str name, v)] := by
    simp [only, Document.entries?, Document.collection]
  rw [Document.field?, section?_only]
  by_cases hsection : Value.isStr other (.str heading) = true
  · by_cases hfield : Value.isStr field (.str name) = true <;>
      simp [hsection, hfield, hinside, lookup?]
  · simp [hsection]

/-- All that is read of such a document is the field. -/
theorem readings_only (f : Field) (v : Value) (others : List Collection) :
    readings (only f.heading f.name v others) = [.field f v] := by
  have hshape : ∀ heading, (only f.heading f.name v others).wellShaped heading = true := by
    intro heading
    rw [Document.wellShaped, section?_only]
    split
    · simp [only, Document.entries?, Document.collection]
    · rfl
  have hkeymap : (only f.heading f.name v others).section? "keymap" = none := by
    rw [section?_only]
    cases f <;> rfl
  simp only [readings, hshape, Bool.and_self, if_true, bindingReadings, hkeymap, fieldReadings,
    field?_only]
  cases f <;> rfl

/-- A document with one field is refused for this field. -/
theorem parse_only {f : Field} {v : Value} {others : List Collection} {e : ConfigError}
    (h : f.refusal? (only f.heading f.name v others) v = some e) :
    parse (only f.heading f.name v others) = .error e := by
  obtain ⟨shape, -, hparse⟩ := refusal?_parse (only f.heading f.name v others)
  rw [readings_only, findSome?_cons_eq_or, Reading.refusal?, h] at hparse
  exact refusal?_eq_some.1 hparse

/-- Every frequency that is too large an integer is refused as such. -/
theorem parse_huge {f : Field} (hf : f.isFrequency = true) {n : Int}
    (hn : 2 ^ 1024 - 2 ^ 970 ≤ n.natAbs) :
    parse (only f.heading f.name (.int n) []) = .error .tooLarge := by
  refine parse_only ?_
  cases f with
  | cpuHz | timerHz | refreshHz =>
    rw [Field.refusal?, frequency, floatOf_of_huge hn]
    rfl
  | keyScan | rngSeed | logLevel | scale | foreground | background => cases hf

/-- A collection that is too deep is refused as such at every field. -/
theorem Field.refusal?_of_tooDeep (f : Field) {k : Nat}
    (h : d.text (.collection k) = .error .tooDeep) :
    f.refusal? d (.collection k) = some (.unwritten .tooDeep) := by
  have hdescribe : describe d (.collection k) = .error (.unwritten .tooDeep) := by
    rw [describe, h]
    rfl
  have hinteger : integer d (.collection k) = .error (.unwritten .tooDeep) := by
    simp only [integer, hdescribe]
    rfl
  have hfloat : ∀ name, floatOf d name (.collection k) = .error (.unwritten .tooDeep) := by
    intro name
    simp only [floatOf, Value.number?, hdescribe]
    rfl
  cases f with
  | cpuHz | timerHz | refreshHz =>
    rw [refusal?, frequency, hfloat]
    rfl
  | keyScan =>
    rw [refusal?, Config.keyScan, hdescribe]
    rfl
  | logLevel =>
    rw [refusal?, Config.logLevel, hdescribe]
    rfl
  | rngSeed =>
    simp only [refusal?, seed, hinteger]
    rfl
  | scale =>
    rw [refusal?, Config.scale, hinteger]
    rfl
  | foreground | background =>
    rw [refusal?, hdescribe]
    rfl

/-- So many lists, each in the one before, and an empty one in the last. -/
def nestedLists (depth : Nat) : List Collection :=
  List.ofFn fun i : Fin depth => .list [.collection (i + 3)]

/-- Each of the nested lists holds the next one. -/
theorem collection_nested (heading name : String) (v : Value) {depth i : Nat} (hi : i < depth) :
    (only heading name v (nestedLists depth)).collection (i + 2) = .list [.collection (i + 3)] := by
  have hlast : i + 2 - 2 = i := by omega
  simp [only, nestedLists, Document.collection, Array.getElem?_append_right, hlast, hi]

/-- The lists are not written out if there are more of them than the depth. -/
theorem innerIn_nested (heading name : String) (v : Value) {depth budget i : Nat}
    {around : List Nat} (hbudget : budget + i ≤ depth) (haround : ∀ k ∈ around, k < i + 2) :
    (only heading name v (nestedLists depth)).innerIn budget around (.collection (i + 2)) =
      .error .tooDeep := by
  induction budget generalizing i around with
  | zero => rfl
  | succ budget ih =>
    have hnew : ¬around.contains (i + 2) := by
      rw [List.contains_iff_mem]
      exact fun hmem => absurd (haround _ hmem) (lt_irrefl _)
    rw [Document.innerIn_collection, if_neg hnew, collection_nested heading name v (by omega)]
    have hnext : (only heading name v (nestedLists depth)).innerIn budget ((i + 2) :: around)
        (.collection (i + 1 + 2)) = .error .tooDeep := by
      refine ih (by omega) ?_
      intro k hk
      rcases List.mem_cons.1 hk with rfl | hk
      · omega
      · have := haround k hk
        omega
    simp only [Collection.form, Collection.levels, Nat.add_sub_cancel, List.mapM_cons, hnext]
    rfl

/-- **All lists in each other that are too many** are refused as too deep, at every field. -/
theorem parse_nestedLists (f : Field) {depth : Nat} (h : Document.writtenDepth ≤ depth) :
    parse (only f.heading f.name (.collection 2) (nestedLists depth)) =
      .error (.unwritten .tooDeep) := by
  refine parse_only (f.refusal?_of_tooDeep ?_)
  have hinner : (only f.heading f.name (.collection 2) (nestedLists depth)).inner (.collection 2) =
      .error .tooDeep := innerIn_nested _ _ _ (by omega) (by simp)
  rw [Document.text, hinner]
  · rfl
  all_goals simp

/-- **An integer of 310 digits is no bad value.**  The frequency is refused as too large and not in
the words in which a frequency that is no number is refused. -/
theorem parse_error_overflow :
    ∃ e, parse (only "machine" "cpu_hz" (.int (10 ^ 309)) []) = .error e ∧ e.kind = .overflow ∧
      e.message = "int too large to convert to float" := by
  have hlarge : 2 ^ 1024 - 2 ^ 970 ≤ (10 ^ 309 : Int).natAbs := by decide +kernel
  have hfrequency : Field.cpuHz.isFrequency = true := rfl
  exact ⟨.tooLarge, parse_huge hfrequency hlarge, rfl, rfl⟩

end Config
end Chip8
