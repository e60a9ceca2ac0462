import Mathlib.Tactic.SplitIfs
import HttpReply.Cookie

/-!
# Attributes written in fields

A field holds a name and a value: the text before its first equals sign, and the text between this
and the next one or the end. Exactly the fields that are the word secure, or hold the name of another
attribute, set something.
-/
namespace HttpReply.Cookie

/-- The field begins with the name and an equals sign, and the value stands between this and the next
    equals sign or the end. -/
def Holds (field name value : Text) : Prop :=
  '=' ∉ name ∧ '=' ∉ value ∧ ∃ rest, field = name ++ '=' :: (value ++ rest) ∧ (rest = [] ∨ rest.head? = some '=')

/-- The field gives the value for the attribute with this word, in letters of any case. -/
def Gives (word field value : Text) : Prop :=
  ∃ name, name ≠ [] ∧ Text.sameUpToCase name word = true ∧ Holds field name value

theorem nameAndValue?_eq_some_iff {field name value : Text} :
    nameAndValue? field = some (name, value) ↔ Holds field name value := by
  unfold nameAndValue?
  constructor
  · intro read
    split at read
    next before after found =>
      obtain ⟨rfl, rfl⟩ := Prod.mk.inj (Option.some.inj read)
      obtain ⟨rfl, absent⟩ := Text.cut?_eq_some_iff.1 found
      obtain ⟨whole, rest, parts, stops⟩ := Text.upTo_eq_iff.1 (rfl : Text.upTo '=' after = _)
      exact ⟨absent, whole, rest, by rw [← parts], stops⟩
    next => cases read
  · rintro ⟨absent, whole, rest, rfl, stops⟩
    have value := Text.upTo_eq_iff.2 ⟨whole, rest, rfl, stops⟩
    simp only [Text.cut?_eq_some_iff.2 ⟨rfl, absent⟩, value]

theorem nameAndValue?_eq_none_iff {field : Text} : nameAndValue? field = none ↔ '=' ∉ field := by
  rw [← Text.cut?_eq_none_iff, nameAndValue?]
  cases Text.cut? '=' field <;> simp

theorem mem_of_holds {field name value : Text} (holds : Holds field name value) : '=' ∈ field := by
  obtain ⟨-, -, rest, rfl, -⟩ := holds
  exact List.mem_append_right name List.mem_cons_self

/-- A name and a value without an equals sign are held as they are. -/
theorem holds_pair {name value : Text} (clean : '=' ∉ name) (whole : '=' ∉ value) :
    Holds (name ++ '=' :: value) name value :=
  ⟨clean, whole, [], by rw [List.append_nil], .inl rfl⟩

/-- A text with an equals sign is not the word secure. -/
theorem not_secure_of_mem {t : Text} (member : '=' ∈ t) : Text.sameUpToCase t "secure".toList = false := by
  cases same : Text.sameUpToCase t "secure".toList with
  | false => rfl
  | true => exact absurd (Text.mem_of_sameUpToCase same (by decide) member) (by decide)

/-- What a field holds decides what it sets. -/
theorem ofField?_of_holds {field name value : Text} (holds : Holds field name value) :
    Attribute.ofField? field =
      if Text.sameUpToCase name "expires".toList then some (.expires value)
      else if Text.sameUpToCase name "domain".toList then some (.domain value)
      else if Text.sameUpToCase name "path".toList then some (.path value)
      else none := by
  simp only [Attribute.ofField?, not_secure_of_mem (mem_of_holds holds), nameAndValue?_eq_some_iff.2 holds,
    Bool.false_eq_true, if_false]

/-- The field is written for the attribute. -/
def Attribute.WrittenIn (field : Text) : Attribute → Prop
  | .secure => Text.sameUpToCase field "secure".toList = true
  | .expires value => Gives "expires".toList field value
  | .domain value => Gives "domain".toList field value
  | .path value => Gives "path".toList field value

theorem word_ne_nil {name word : Text} (present : word ≠ []) (same : Text.sameUpToCase name word = true) :
    name ≠ [] := by
  rintro rfl
  exact present (List.map_eq_nil_iff.1 (Text.sameUpToCase_iff.1 same).symm)

theorem ofField?_eq_some_iff {field : Text} {a : Attribute} :
    Attribute.ofField? field = some a ↔ a.WrittenIn field := by
  constructor
  · intro read
    by_cases secure : Text.sameUpToCase field "secure".toList = true
    · rw [Attribute.ofField?, if_pos secure] at read
      obtain rfl := Option.some.inj read
      exact secure
    · cases found : nameAndValue? field with
      | none =>
        rw [Attribute.ofField?, if_neg secure, found] at read
        cases read
      | some parts =>
        have holds : Holds field parts.1 parts.2 := nameAndValue?_eq_some_iff.1 found
        rw [ofField?_of_holds holds] at read
        split_ifs at read with expires domain path
        all_goals obtain rfl := Option.some.inj read
        · exact ⟨parts.1, word_ne_nil (by decide) expires, expires, holds⟩
        · exact ⟨parts.1, word_ne_nil (by decide) domain, domain, holds⟩
        · exact ⟨parts.1, word_ne_nil (by decide) path, path, holds⟩
  · intro written
    cases a with
    | secure => exact if_pos written
    | expires value =>
      obtain ⟨name, -, same, holds⟩ := written
      rw [ofField?_of_holds holds, if_pos same]
    | domain value =>
      obtain ⟨name, -, same, holds⟩ := written
      have before : Text.sameUpToCase name "expires".toList = false := (Text.sameUpToCase_trans same).trans (by decide)
      rw [ofField?_of_holds holds, before, if_neg Bool.false_ne_true, if_pos same]
    | path value =>
      obtain ⟨name, -, same, holds⟩ := written
      have before : Text.sameUpToCase name "expires".toList = false := (Text.sameUpToCase_trans same).trans (by decide)
      have between : Text.sameUpToCase name "domain".toList = false := (Text.sameUpToCase_trans same).trans (by decide)
      rw [ofField?_of_holds holds, before, between, if_neg Bool.false_ne_true, if_neg Bool.false_ne_true, if_pos same]

end HttpReply.Cookie
