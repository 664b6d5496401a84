/-
# Key bindings from the document to the keypad

A host's key is looked for by its name in upper case.  The names of the section
`keymap` are put in upper case when they are read, and once more when they are looked
up, and upper case is final: the second time nothing changes (`ofBindings_of_normal`).
So a key stands for the code of the last entry whose key has its name
(`find?_ofBindings`), although several entries may have become one.

A code that is bound is one of a key of the keypad, so that pressing it cannot fail.
What the section refuses is a code that is none, or a key without a text.
-/

import Mathlib.Data.List.Forall2
import Mathlib.Data.List.Induction
import Chip8.Proofs.LetterCase
import Chip8.Proofs.Sections

namespace Chip8

/-! ### Maps of bindings -/

namespace KeyMap

/-- All names are in upper case, and none is there twice. -/
structure Normal (m : KeyMap) : Prop where
  nodup : (m.bindings.map Prod.fst).Nodup
  upper : ∀ b ∈ m.bindings, b.1.upper = b.1

variable {name : Text} {code : Int} {bindings : List (Text × Int)} {b : Text × Int} {m : KeyMap}

/-- What is among the bindings after one was put in is this one, or was there before. -/
theorem mem_putIn (h : b ∈ putIn name code bindings) : b = (name, code) ∨ b ∈ bindings := by
  induction bindings with
  | nil => exact .inl (List.mem_singleton.1 h)
  | cons other rest ih =>
    rw [putIn] at h
    split at h
    · rcases List.mem_cons.1 h with rfl | h
      · exact .inl rfl
      · exact .inr (List.mem_cons_of_mem _ h)
    · rcases List.mem_cons.1 h with rfl | h
      · exact .inr List.mem_cons_self
      · exact (ih h).imp_right (List.mem_cons_of_mem _)

/-- A name that is new comes last. -/
theorem putIn_of_notMem (h : name ∉ bindings.map Prod.fst) :
    putIn name code bindings = bindings ++ [(name, code)] := by
  induction bindings with
  | nil => rfl
  | cons other rest ih =>
    rw [List.map_cons, List.mem_cons, not_or] at h
    rw [putIn, if_neg (Ne.symm h.1), ih h.2, List.cons_append]

/-- A name that is there keeps its place. -/
theorem map_fst_putIn_of_mem (h : name ∈ bindings.map Prod.fst) :
    (putIn name code bindings).map Prod.fst = bindings.map Prod.fst := by
  induction bindings with
  | nil => cases h
  | cons other rest ih =>
    rw [putIn]
    split
    · rename_i hname
      rw [List.map_cons, List.map_cons, hname]
    · rename_i hname
      have hrest : name ∈ rest.map Prod.fst :=
        (List.mem_cons.1 h).resolve_left (Ne.symm hname)
      rw [List.map_cons, List.map_cons, ih hrest]

/-- To bind a key keeps the names in upper case and apart. -/
theorem Normal.bind (h : Normal m) (name : Text) (code : Int) : Normal (m.bind name code) where
  nodup := by
    by_cases hmem : name.upper ∈ m.bindings.map Prod.fst
    · exact (map_fst_putIn_of_mem hmem).symm ▸ h.nodup
    · rw [KeyMap.bind, put, putIn_of_notMem hmem, List.map_append]
      exact h.nodup.append (List.nodup_singleton _) (by simpa using hmem)
  upper := by
    intro b hb
    rcases mem_putIn hb with rfl | hb
    · exact Text.upper_upper name
    · exact h.upper b hb

/-- Of a list of bindings the last one is made last. -/
theorem ofBindings_append (bindings : List (Text × Int)) (b : Text × Int) :
    ofBindings (bindings ++ [b]) = (ofBindings bindings).bind b.1 b.2 :=
  List.foldl_append

/-- What is bound one by one is normal. -/
theorem normal_ofBindings (bindings : List (Text × Int)) : Normal (ofBindings bindings) := by
  induction bindings using List.reverseRecOn with
  | nil => exact ⟨List.nodup_nil, by simp [ofBindings, empty]⟩
  | append_singleton bindings b ih =>
    rw [ofBindings_append]
    exact ih.bind b.1 b.2

/-- The names of the standard bindings are in upper case and apart. -/
theorem normal_standard : Normal standard := ⟨by decide +kernel, by decide +kernel⟩

/-- **Bindings that are normal stay as they are** when they are bound once more. -/
theorem ofBindings_of_normal (h : Normal ⟨bindings⟩) : ofBindings bindings = ⟨bindings⟩ := by
  induction bindings using List.reverseRecOn with
  | nil => rfl
  | append_singleton bindings b ih =>
    have hnodup := h.nodup
    rw [List.map_append, List.map_singleton, List.nodup_append] at hnodup
    have hstart : Normal ⟨bindings⟩ :=
      ⟨hnodup.1, fun other hother => h.upper other (List.mem_append_left _ hother)⟩
    -- The last name is new, so it is added where it stands already: at the end.
    have hnew : b.1 ∉ bindings.map Prod.fst := fun hmem => hnodup.2.2 _ hmem _ (by simp) rfl
    rw [ofBindings_append, ih hstart, KeyMap.bind, h.upper b (by simp), put, putIn_of_notMem hnew]

/-- A name has the code of the last binding of it in any case. -/
theorem find?_ofBindings (bindings : List (Text × Int)) (name : Text) :
    (ofBindings bindings).find? name =
      (bindings.reverse.find? fun b => b.1.upper = name).map Prod.snd := by
  induction bindings using List.reverseRecOn with
  | nil => rfl
  | append_singleton bindings b ih =>
    rw [ofBindings_append, KeyMap.bind, find?_put, ih, List.reverse_append, List.reverse_singleton,
      List.singleton_append, List.find?_cons]
    by_cases hname : b.1.upper = name <;> simp [hname]

/-- What holds of all codes holds of all that are bound. -/
theorem forall_mem_ofBindings {P : Int → Prop} (h : ∀ b ∈ bindings, P b.2) :
    ∀ b ∈ (ofBindings bindings).bindings, P b.2 := by
  induction bindings using List.reverseRecOn with
  | nil => exact fun b hb => nomatch hb
  | append_singleton bindings last ih =>
    intro b hb
    rw [ofBindings_append] at hb
    rcases mem_putIn hb with rfl | hb
    · exact h last (by simp)
    · exact ih (fun b hb => h b (List.mem_append_left _ hb)) b hb

/-- The bindings that every code of is one of a key of the keypad. -/
def InRange (m : KeyMap) : Prop := ∀ b ∈ m.bindings, 0 ≤ b.2 ∧ b.2 < 16

/-- The standard bindings have codes of keys. -/
theorem inRange_standard : InRange standard := by
  unfold InRange
  decide

/-- A code that is found is that of a key. -/
theorem InRange.of_find? (h : InRange m) (hcode : m.find? name = some code) :
    0 ≤ code ∧ code < 16 := by
  obtain ⟨b, hb, rfl⟩ := Option.map_eq_some_iff.1 hcode
  exact h b (List.mem_of_find?_eq_some hb)

/-- The upper-case name of a printable ASCII character, as the host's window system has it. -/
def asciiName (q : Int) : Text := Text.upper (.ofChars [Char.ofNat q.toNat])

/-- The code of a character that can be seen is looked up under its name. -/
theorem boundCode?_of_printable (m : KeyMap) {q : Int} (hlow : 0x21 ≤ q) (hhigh : q ≤ 0x7E) :
    m.boundCode? q = some (m.find? (asciiName q)) := by
  rw [boundCode?, keyName?, if_pos (by omega), Option.map_some, asciiName]

/-- The two cases of an ASCII letter have one name. -/
theorem asciiName_of_letter {q : Int} (hlow : 0x61 ≤ q) (hhigh : q ≤ 0x7A) :
    asciiName q = asciiName (q - 0x20) := by
  have hletters : ∀ k : Fin 26, asciiName (0x61 + k.val) = asciiName (0x41 + k.val) := by
    decide +kernel
  have h := hletters ⟨(q - 0x61).toNat, by omega⟩
  have hq : (0x61 : Int) + (q - 0x61).toNat = q := by omega
  have hq' : (0x41 : Int) + (q - 0x61).toNat = q - 0x20 := by omega
  rwa [hq, hq'] at h

end KeyMap

/-! ### The section `keymap` -/

namespace Document

/-- Whether the text of a value, in upper case, is a name. -/
def hasName (d : Document) (name : Text) (v : Value) : Bool :=
  match d.text v with
  | .ok text => text.upper = name
  | .error _ => false

/-- The last entry whose key has a name. -/
def lastNamed? (d : Document) (name : Text) (entries : List (Value × Value)) :
    Option (Value × Value) :=
  entries.reverse.find? fun entry => d.hasName name entry.1

/-- An integer with more digits than are written out. -/
def Unwritten (v : Value) : Prop :=
  ∃ n : Int, v = .int n ∧ Nat.pow 10 Value.writtenDigits ≤ n.natAbs

/-- A value that is no collection has a text, unless it is an integer with too many digits. -/
theorem text_of_scalar {d : Document} {v : Value} (h : ∀ k, v ≠ .collection k) :
    (∃ text, d.text v = .ok text) ∧ ¬Unwritten v ∨
      d.text v = .error .tooManyDigits ∧ Unwritten v := by
  cases v with
  | collection k => exact absurd rfl (h k)
  | int n =>
    have htext : d.text (.int n) = (Value.digits n).map Text.ofString := rfl
    rw [htext, Value.digits]
    split
    · rename_i hlong
      exact .inr ⟨rfl, n, rfl, hlong⟩
    · rename_i hshort
      refine .inl ⟨⟨_, rfl⟩, ?_⟩
      rintro ⟨n', hn, hlong⟩
      obtain rfl := Value.int.inj hn
      exact hshort hlong
  | null | bool | float | str | date | moment | bytes =>
    exact .inl ⟨⟨_, rfl⟩, fun ⟨_, hn, _⟩ => nomatch hn⟩

end Document

namespace Config

variable {d : Document} {v hostKey code : Value} {b : Text × Int} {m : KeyMap} {name : Text}
  {entries : List (Value × Value)} {bindings : List (Text × Int)} {e : ConfigError}

/-- A value that is the code of a key of the keypad. -/
def IsKeyCode (d : Document) (v : Value) : Prop := ∃ n, integer d v = .ok n ∧ 0 ≤ n ∧ n < 16

/-- A description is the text of its value. -/
theorem describe_eq_ok_iff {text : Text} : describe d v = .ok text ↔ d.text v = .ok text := by
  rw [describe]
  cases d.text v <;> simp [Except.mapError]

/-- An entry is bound just if its code is one of a key of the keypad and its key has a text. -/
theorem binding_eq_ok_iff : binding d hostKey code = .ok b ↔
    integer d code = .ok b.2 ∧ (0 ≤ b.2 ∧ b.2 < 16) ∧ d.text hostKey = .ok b.1 := by
  obtain ⟨text, n⟩ := b
  constructor
  · intro h
    obtain ⟨k, hk, h⟩ := exists_of_bind_eq_ok h
    split at h
    · rename_i hrange
      obtain ⟨shown, htext, h⟩ := exists_of_bind_eq_ok h
      obtain ⟨rfl, rfl⟩ := Prod.mk.inj (Except.ok.inj h)
      exact ⟨hk, hrange, describe_eq_ok_iff.1 htext⟩
    · exact absurd h (refuse_ne_ok _ _)
  · rintro ⟨hn, hrange, htext⟩
    rw [binding, hn, ok_bind, if_pos hrange, describe_eq_ok_iff.2 htext]
    rfl

/-- Entries are bound one by one. -/
theorem forall₂_of_mapM {α β : Type} {f : α → Except ConfigError β} {l : List α} {l' : List β}
    (h : l.mapM f = .ok l') : List.Forall₂ (fun a b => f a = .ok b) l l' := by
  induction l generalizing l' with
  | nil =>
    obtain rfl := Except.ok.inj h
    exact .nil
  | cons a l ih =>
    rw [List.mapM_cons] at h
    obtain ⟨b, hb, h⟩ := exists_of_bind_eq_ok h
    obtain ⟨rest, hrest, h⟩ := exists_of_bind_eq_ok h
    obtain rfl := Except.ok.inj h
    exact .cons hb (ih hrest)

/-- Of two lists that agree in a property, the first items with it stand in the same place. -/
theorem find?_of_forall₂ {α β : Type} {R : α → β → Prop} {p : α → Bool} {q : β → Bool}
    {l : List α} {l' : List β} (h : List.Forall₂ R l l') (hpq : ∀ a b, R a b → p a = q b) :
    l.find? p = none ∧ l'.find? q = none ∨
      ∃ a b, l.find? p = some a ∧ l'.find? q = some b ∧ R a b := by
  induction h with
  | nil => exact .inl ⟨rfl, rfl⟩
  | @cons a b l l' hab hrest ih =>
    rw [List.find?_cons, List.find?_cons, ← hpq a b hab]
    cases p a with
    | true => exact .inr ⟨a, b, rfl, rfl, hab⟩
    | false => exact ih

/-- A section that is accepted is null, or a mapping whose entries are bound. -/
theorem keymap_cases (h : keymap d v = .ok m) :
    v = .null ∧ m = KeyMap.standard ∨
      ∃ entries bindings, d.entries? v = some entries ∧
        List.Forall₂ (fun entry b => binding d entry.1 entry.2 = .ok b) entries bindings ∧
        m = KeyMap.ofBindings bindings := by
  unfold keymap at h
  split at h
  · exact .inl ⟨rfl, (Except.ok.inj h).symm⟩
  · split at h
    · cases h
    · rename_i entries hentries
      obtain ⟨bindings, hbindings, h⟩ := exists_of_bind_eq_ok h
      exact .inr ⟨entries, bindings, hentries, forall₂_of_mapM hbindings, (Except.ok.inj h).symm⟩

/-- Accepted bindings are normal, and their codes are those of keys. -/
theorem normal_of_keymap (h : keymap d v = .ok m) : m.Normal ∧ m.InRange := by
  rcases keymap_cases h with ⟨-, rfl⟩ | ⟨entries, bindings, -, hbound, rfl⟩
  · exact ⟨KeyMap.normal_standard, KeyMap.inRange_standard⟩
  · refine ⟨KeyMap.normal_ofBindings bindings, ?_⟩
    refine KeyMap.forall_mem_ofBindings (P := fun n => 0 ≤ n ∧ n < 16) fun b hb => ?_
    obtain ⟨k, hk, rfl⟩ := List.getElem_of_mem hb
    have hbinding := hbound.get (i := k) (hbound.length_eq ▸ hk) hk
    exact (binding_eq_ok_iff.1 hbinding).2.1

/-- A name stands for the code of the last entry whose key has it. -/
theorem find?_of_keymap (h : keymap d v = .ok m) (hentries : d.entries? v = some entries)
    (name : Text) :
    d.lastNamed? name entries = none ∧ m.find? name = none ∨
      ∃ entry n, d.lastNamed? name entries = some entry ∧ integer d entry.2 = .ok n ∧
        m.find? name = some n := by
  rcases keymap_cases h with ⟨rfl, -⟩ | ⟨entries', bindings, hentries', hbound, rfl⟩
  · cases hentries
  · obtain rfl := Option.some.inj (hentries.symm.trans hentries')
    -- A key has the name just if what it is bound as has it, so both searches stop in one place.
    have hnamed : ∀ (entry : Value × Value) (b : Text × Int),
        binding d entry.1 entry.2 = .ok b →
        d.hasName name entry.1 = decide (b.1.upper = name) := by
      intro entry b hb
      rw [Document.hasName, (binding_eq_ok_iff.1 hb).2.2]
    rw [KeyMap.find?_ofBindings, Document.lastNamed?]
    rcases find?_of_forall₂ (List.rel_reverse hbound) hnamed with ⟨hnone, hnone'⟩ |
      ⟨entry, b, hentry, hb, hbinding⟩
    · exact .inl ⟨hnone, by rw [hnone']; rfl⟩
    · exact .inr ⟨entry, b.2, hentry, (binding_eq_ok_iff.1 hbinding).1, by rw [hb]; rfl⟩

/-- What is refused is the section for its shape, or one of its entries. -/
theorem keymap_refusals (h : keymap d v = .error e) :
    v ≠ .null ∧ d.entries? v = none ∧ e = .keymapShape ∨
      ∃ entries, d.entries? v = some entries ∧
        ∃ entry ∈ entries, binding d entry.1 entry.2 = .error e := by
  unfold keymap at h
  split at h
  · cases h
  · rename_i hnull
    split at h
    · rename_i hentries
      exact .inl ⟨hnull, hentries, (Except.error.inj h).symm⟩
    · rename_i entries hentries
      rcases of_bind_eq_error h with h | ⟨bindings, -, h⟩
      · exact .inr ⟨entries, hentries, exists_of_mapM_eq_error h⟩
      · cases h

/-- An entry whose key is no collection is refused just if its code is none of a key of the keypad,
or its key an integer with too many digits. -/
theorem exists_binding_error_iff (hkey : ∀ k, hostKey ≠ .collection k) :
    (∃ e, binding d hostKey code = .error e) ↔
      ¬IsKeyCode d code ∨ Document.Unwritten hostKey := by
  cases hbinding : binding d hostKey code with
  | ok b =>
    obtain ⟨hcode, hrange, htext⟩ := binding_eq_ok_iff.1 hbinding
    refine iff_of_false (fun ⟨e, he⟩ => nomatch he) ?_
    rintro (hnot | hlong)
    · exact hnot ⟨b.2, hcode, hrange⟩
    · rcases Document.text_of_scalar (d := d) hkey with ⟨-, hshort⟩ | ⟨hnone, -⟩
      · exact hshort hlong
      · rw [htext] at hnone
        cases hnone
  | error e =>
    refine iff_of_true ⟨e, rfl⟩ ?_
    by_contra hgood
    rw [not_or, not_not] at hgood
    obtain ⟨⟨n, hcode, hrange⟩, hshort⟩ := hgood
    rcases Document.text_of_scalar (d := d) hkey with ⟨⟨text, htext⟩, -⟩ | ⟨-, hlong⟩
    · have hok : binding d hostKey code = .ok (text, n) :=
        binding_eq_ok_iff.2 ⟨hcode, hrange, htext⟩
      rw [hbinding] at hok
      cases hok
    · exact hshort hlong

/-- **What the section refuses.** -/
theorem exists_keymap_error_iff (hkeys : ∀ entries, d.entries? v = some entries →
    ∀ entry ∈ entries, ∀ k, entry.1 ≠ .collection k) :
    (∃ e, keymap d v = .error e) ↔ v ≠ .null ∧ d.entries? v = none ∨
      ∃ entries, d.entries? v = some entries ∧
        ∃ entry ∈ entries, ¬IsKeyCode d entry.2 ∨ Document.Unwritten entry.1 := by
  constructor
  · rintro ⟨e, h⟩
    rcases keymap_refusals h with ⟨hnull, hentries, -⟩ | ⟨entries, hentries, entry, hentry, h⟩
    · exact .inl ⟨hnull, hentries⟩
    · refine .inr ⟨entries, hentries, entry, hentry, ?_⟩
      exact (exists_binding_error_iff (hkeys entries hentries entry hentry)).1 ⟨e, h⟩
  · intro hbad
    cases hkeymap : keymap d v with
    | error e => exact ⟨e, rfl⟩
    | ok m =>
      -- If the section were accepted, each of its entries would be bound.
      exfalso
      rcases keymap_cases hkeymap with ⟨rfl, -⟩ | ⟨entries, bindings, hentries, hbound, -⟩
      · rcases hbad with ⟨hnull, -⟩ | ⟨entries, hentries, -⟩
        · exact hnull rfl
        · cases hentries
      · rcases hbad with ⟨-, hnone⟩ | ⟨entries', hentries', entry, hentry, hbad⟩
        · rw [hentries] at hnone
          cases hnone
        · obtain rfl := Option.some.inj (hentries.symm.trans hentries')
          obtain ⟨e, he⟩ :=
            (exists_binding_error_iff (hkeys _ hentries entry hentry)).2 hbad
          obtain ⟨i, hi, rfl⟩ := List.getElem_of_mem hentry
          have hok := hbound.get hi (hbound.length_eq ▸ hi)
          rw [List.get_eq_getElem, he] at hok
          cases hok

/-- A refusal is one for a bad value, as long as no code is nested too deep to be shown. -/
theorem kind_of_keymap (hkeys : ∀ entries, d.entries? v = some entries →
    ∀ entry ∈ entries, (∀ k, entry.1 ≠ .collection k) ∧ d.text entry.2 ≠ .error .tooDeep)
    (h : keymap d v = .error e) : e.kind = .badValue := by
  rcases keymap_refusals h with ⟨-, -, rfl⟩ | ⟨entries, hentries, entry, hentry, h⟩
  · rfl
  · obtain ⟨hkey, hcode⟩ := hkeys entries hentries entry hentry
    refine (kind_of_binding h).2 ⟨hcode, fun n hn hdeep => ?_⟩
    rcases Document.text_of_scalar (d := d) hkey with ⟨⟨text, htext⟩, -⟩ | ⟨hnone, -⟩
    · rw [hdeep] at htext
      cases htext
    · rw [hdeep] at hnone
      cases hnone

end Config

/-! ### From the document to the keypad -/

/-- What the window looks keys up in: the bindings of a configuration, bound once more. -/
def SystemConfig.windowKeys (c : SystemConfig) : KeyMap := KeyMap.ofBindings c.keymap.bindings

/-- The code of a key is the number of a key of the keypad, which can be pressed and let up. -/
theorem Machine.exists_key {n : Int} (h : 0 ≤ n ∧ n < 16) :
    ∃ key : Nibble, (key.val : Int) = n ∧ ∀ m : Machine,
      m.keyDown n = .ok { m with keypad := m.keypad.put key true } ∧
      m.keyUp n = .ok { m with keypad := m.keypad.put key false } := by
  have hkey : Keypad.key n = .ok (Nibble.low n) := by
    rw [Keypad.key, Nibble.ofInt?_eq_low h.1 h.2]
  refine ⟨Nibble.low n, by rw [Nibble.val_low]; omega, fun m => ⟨?_, ?_⟩⟩
  · rw [keyDown, Keypad.press, hkey]
    rfl
  · rw [keyUp, Keypad.release, hkey]
    rfl

namespace Config

/-- **Key bindings survive from the document to the keypad.**  In an accepted document whose section
`keymap` is a mapping, a printable key stands for the code of the last entry whose key has its name
in any case, and for none if there is no such entry.  So the two cases of a letter stand for the
same, and a code that a key stands for can be pressed and let up.

The section is refused just if it is neither null nor a mapping, or if the code of an entry is none
of a key of the keypad, or its key an integer with too many digits; and it is refused for a bad
value, as long as none of the codes is nested too deep to be shown. -/
theorem parse_keymap (d : Document) :
    (∀ c entries, parse d = .ok c → (d.section? "keymap").bind d.entries? = some entries →
      (∀ q : Int, 0x21 ≤ q → q ≤ 0x7E →
        (∀ entry, d.lastNamed? (KeyMap.asciiName q) entries = some entry →
          ∃ n, integer d entry.2 = .ok n ∧ c.windowKeys.boundCode? q = some (some n)) ∧
        (d.lastNamed? (KeyMap.asciiName q) entries = none →
          c.windowKeys.boundCode? q = some none)) ∧
      (∀ q : Int, 0x61 ≤ q → q ≤ 0x7A →
        c.windowKeys.boundCode? q = c.windowKeys.boundCode? (q - 0x20)) ∧
      ∀ name n, c.windowKeys.find? name = some n → ∃ key : Nibble, (key.val : Int) = n ∧
        ∀ m : Machine, m.keyDown n = .ok { m with keypad := m.keypad.put key true } ∧
          m.keyUp n = .ok { m with keypad := m.keypad.put key false }) ∧
    ∀ v, (∀ entries, d.entries? v = some entries → ∀ entry ∈ entries, ∀ k,
        entry.1 ≠ .collection k) →
      ((∃ e, keymap d v = .error e) ↔ v ≠ .null ∧ d.entries? v = none ∨
        ∃ entries, d.entries? v = some entries ∧
          ∃ entry ∈ entries, ¬IsKeyCode d entry.2 ∨ Document.Unwritten entry.1) ∧
      ((∀ entries, d.entries? v = some entries → ∀ entry ∈ entries,
          d.text entry.2 ≠ .error .tooDeep) →
        ∀ e, keymap d v = .error e → e.kind = .badValue) := by
  refine ⟨fun c entries hparse hentries => ?_, fun v hkeys => ⟨exists_keymap_error_iff hkeys, ?_⟩⟩
  · obtain ⟨-, -, -, -, hkeymap⟩ := exists_of_parse_eq_ok hparse
    obtain ⟨v, hv, hentries⟩ := Option.bind_eq_some_iff.1 hentries
    rw [hv, Option.getD_some] at hkeymap
    obtain ⟨hnormal, hrange⟩ := normal_of_keymap hkeymap
    -- The names are in upper case already, so the window looks keys up in the same bindings.
    have hkeys : c.windowKeys = c.keymap := KeyMap.ofBindings_of_normal hnormal
    rw [hkeys]
    refine ⟨fun q hlow hhigh => ?_, fun q hlow hhigh => ?_, fun name n hn => ?_⟩
    · rw [KeyMap.boundCode?_of_printable _ hlow hhigh]
      rcases find?_of_keymap hkeymap hentries (KeyMap.asciiName q) with ⟨hlast, hfind⟩ |
        ⟨entry, n, hlast, hn, hfind⟩
      · rw [hlast, hfind]
        exact ⟨fun entry hentry => (nomatch hentry), fun _ => rfl⟩
      · rw [hlast, hfind]
        refine ⟨fun entry' hentry' => ?_, fun hnone => nomatch hnone⟩
        obtain rfl := Option.some.inj hentry'
        exact ⟨n, hn, rfl⟩
    · rw [KeyMap.boundCode?_of_printable _ (by omega) (by omega),
        KeyMap.boundCode?_of_printable _ (by omega) (by omega),
        KeyMap.asciiName_of_letter hlow hhigh]
    · exact Machine.exists_key (hrange.of_find? hn)
  · intro hcodes e he
    refine kind_of_keymap (fun entries hentries entry hentry => ?_) he
    exact ⟨hkeys entries hentries entry hentry, hcodes entries hentries entry hentry⟩

/-- A document whose only section binds keys. -/
def binds (entries : List (Value × Value)) : Document where
  collections := #[.map [(.str "keymap", .collection 1)], .map entries]
  root := .collection 0

/-- Three spellings of one name, the last of them a long s. -/
def spellings : List (Value × Value) :=
  [(.str "s", .int 1), (.str "S", .int 2), (.str "ſ", .str "0xB")]

/-- The last spelling counts, for both cases of the letter, and its code can be pressed; a number
is no section. -/
theorem parse_keymap_spellings : ∃ c, parse (binds spellings) = .ok c ∧
    c.windowKeys.boundCode? 0x73 = some (some 0xB) ∧
    c.windowKeys.boundCode? 0x53 = some (some 0xB) ∧
    (∃ key : Nibble, (key.val : Int) = 0xB ∧ ∀ m : Machine,
      m.keyDown 0xB = .ok { m with keypad := m.keypad.put key true }) ∧
    ∃ e, keymap (binds spellings) (.int 7) = .error e ∧ e.kind = .badValue := by
  have hparse : parse (binds spellings) =
      .ok { keymap := KeyMap.ofBindings [("s", 1), ("S", 2), ("ſ", 0xB)] } := rfl
  have hname : (binds spellings).hasName (KeyMap.asciiName 0x53) (.str "ſ") = true := by
    decide +kernel
  have hlast : (binds spellings).lastNamed? (KeyMap.asciiName 0x53) spellings =
      some (.str "ſ", .str "0xB") := List.find?_cons_of_pos hname
  obtain ⟨htranslates, hrefuses⟩ := parse_keymap (binds spellings)
  obtain ⟨hkeys, hcases, hpress⟩ := htranslates _ spellings hparse rfl
  obtain ⟨n, hn, hcode⟩ := (hkeys 0x53 (by decide) (by decide)).1 _ hlast
  obtain rfl : 0xB = n := Except.ok.inj hn
  have hfind := hcode
  rw [KeyMap.boundCode?_of_printable _ (by decide) (by decide), Option.some.injEq] at hfind
  obtain ⟨key, hkey, hmachine⟩ := hpress _ _ hfind
  obtain ⟨hrefused, hkind⟩ := hrefuses (.int 7) fun entries h => nomatch h
  obtain ⟨e, he⟩ := hrefused.2 (.inl ⟨nofun, rfl⟩)
  exact ⟨_, hparse, (hcases 0x73 (by decide) (by decide)).trans hcode, hcode,
    ⟨key, hkey, fun m => (hmachine m).1⟩, e, he, hkind (fun entries h => nomatch h) e he⟩

/-- A key with too many digits is refused as such, whatever its code. -/
theorem parse_binds_of_unwritten {k : Nat} (hk : Nat.pow 10 Value.writtenDigits ≤ k) :
    keymap (binds [(.int k, .int 1)]) (.collection 1) = .error (.unwritten .tooManyDigits) ∧
      parse (binds [(.int k, .int 1)]) = .error (.unwritten .tooManyDigits) := by
  have hdescribe : describe (binds [(.int k, .int 1)]) (.int k) =
      .error (.unwritten .tooManyDigits) := by
    rcases Document.text_of_scalar (d := binds [(.int k, .int 1)]) (v := .int k) nofun with
      ⟨-, hshort⟩ | ⟨htext, -⟩
    · exact absurd ⟨_, rfl, hk⟩ hshort
    · rw [describe, htext]
      rfl
  have hbinding : binding (binds [(.int k, .int 1)]) (.int k) (.int 1) =
      .error (.unwritten .tooManyDigits) := by
    have hone : integer (binds [(.int k, .int 1)]) (.int 1) = .ok 1 := rfl
    rw [binding, hone, ok_bind, if_pos (by decide), hdescribe]
    rfl
  have hkeymap : keymap (binds [(.int k, .int 1)]) (.collection 1) =
      .error (.unwritten .tooManyDigits) := by
    have hentries : (binds [(.int k, .int 1)]).entries? (.collection 1) =
        some [(.int k, .int 1)] := rfl
    simp only [keymap, hentries, List.mapM_cons, hbinding]
    rfl
  refine ⟨hkeymap, ?_⟩
  have hroot : (binds [(.int k, .int 1)]).entries? (binds [(.int k, .int 1)]).root =
      some [(.str "keymap", .collection 1)] := rfl
  have hlookup : lookup? [(.str "keymap", .collection 1)] "keymap" = some (.collection 1) := rfl
  rw [parse_of_entries hroot, hlookup, Option.getD_some, hkeymap]
  rfl

/-- **A key may be too long.**  A section is refused for a bad value although it is a mapping and
its only code that of a key, because the key is an integer of 4301 digits. -/
theorem parse_long_key :
    let k := Nat.pow 10 Value.writtenDigits
    let d := binds [(.int k, .int 1)]
    d.section? "keymap" = some (.collection 1) ∧
      d.entries? (.collection 1) = some [(.int k, .int 1)] ∧ IsKeyCode d (.int 1) ∧
      ∃ e, keymap d (.collection 1) = .error e ∧ parse d = .error e ∧ e.kind = .badValue := by
  intro k d
  obtain ⟨hkeymap, hparse⟩ := parse_binds_of_unwritten (Nat.le_refl k)
  exact ⟨rfl, rfl, ⟨1, rfl, by decide⟩, _, hkeymap, hparse, rfl⟩

end Config
end Chip8
