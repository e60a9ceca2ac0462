import HttpReply.Proofs.NamedCharset

/-!
# Clean labels

The blanks around the value of a charset parameter are taken off before its quotes are, and
what then stands bare is not looked at again. A label is therefore clean exactly if the
blanks of the value are outside of its quotes. A blank within them is kept, and a value
that has nothing else is taken for a label.
-/
namespace HttpReply

namespace ContentType

/-- The first parameter for the charset has this raw value. -/
def Decides (contentType raw : Text) : Prop :=
  ∃ before parameter after, contentType.splitOn ';' = before ++ parameter :: after ∧
    (∀ piece ∈ before, ∀ other, ¬ IsCharset piece other) ∧ IsCharset parameter raw

/-- The first value that a parameter gives for the charset is the one that decides, bare. -/
theorem findSome?_charsetValue?_eq_some_iff {contentType value : Text} :
    (contentType.splitOn ';').findSome? charsetValue? = some value ↔
      ∃ raw, Decides contentType raw ∧ bareValue raw = value := by
  rw [List.findSome?_eq_some_iff]
  constructor
  · rintro ⟨before, parameter, after, pieces, read, none⟩
    obtain ⟨raw, charset, bare⟩ := charsetValue?_eq_some_iff.1 read
    exact ⟨raw, ⟨before, parameter, after, pieces, fun piece member => charsetValue?_eq_none_iff.1 (none piece member),
      charset⟩, bare⟩
  · rintro ⟨raw, ⟨before, parameter, after, pieces, none, charset⟩, bare⟩
    exact ⟨before, parameter, after, pieces, charsetValue?_eq_some_iff.2 ⟨raw, charset, bare⟩,
      fun piece member => charsetValue?_eq_none_iff.2 (none piece member)⟩

theorem charset?_of_decides {contentType raw : Text} (decides : Decides contentType raw) :
    charset? contentType = if bareValue raw = [] then none else some (bareValue raw) := by
  rw [charset?, findSome?_charsetValue?_eq_some_iff.2 ⟨raw, decides, rfl⟩, Option.filter_some]
  by_cases empty : bareValue raw = [] <;> simp [empty]

theorem exists_decides {contentType label : Text} (read : charset? contentType = some label) :
    ∃ raw, Decides contentType raw ∧ bareValue raw = label :=
  findSome?_charsetValue?_eq_some_iff.1 (Option.filter_eq_some_iff.1 read).1

theorem semicolon_not_mem_raw {contentType raw : Text} (decides : Decides contentType raw) : ';' ∉ raw := by
  obtain ⟨before, parameter, after, pieces, -, blanks, word, gap, -, -, -, rfl⟩ := decides
  intro member
  have inside : ';' ∈ blanks ++ word ++ gap ++ '=' :: raw := List.mem_append_right _ (List.mem_cons_of_mem _ member)
  exact (Text.mem_of_mem_splitOn (pieces ▸ List.mem_append_right _ List.mem_cons_self) inside).2 rfl

/-- The raw value is a label that can be written, or nothing, with quotes and then blanks around it. -/
def Tidy (raw : Text) : Prop := ∃ label, Quoted raw label ∧ (label = [] ∨ Writable label)

/-- What stands bare is the raw value without quotes and blanks around it. -/
theorem quoted_bareValue (raw : Text) : Quoted raw (bareValue raw) := by
  obtain ⟨blanks, blanks', front, back, outer⟩ := Text.exists_strip Text.isBlank raw
  obtain ⟨quotes, quotes', before, after, inner⟩ := Text.exists_strip isQuote (Text.trim raw)
  refine ⟨blanks, quotes, quotes', blanks', front, before, after, back, ?_⟩
  rw [bareValue, ← inner]
  exact outer

theorem tidy_iff {raw : Text} : Tidy raw ↔ bareValue raw = [] ∨ Writable (bareValue raw) := by
  constructor
  · rintro ⟨label, quoted, rfl | writable⟩
    · exact .inl (bareValue_of_quoted quoted nofun nofun)
    · rw [bareValue_of_quoted quoted writable.first writable.last]
      exact .inr writable
  · exact fun clean => ⟨bareValue raw, quoted_bareValue raw, clean⟩

/-- What stands bare is part of the raw value. -/
theorem mem_of_mem_bareValue {raw : Text} {c : Char} (member : c ∈ bareValue raw) : c ∈ raw := by
  obtain ⟨blanks, quotes, quotes', blanks', -, -, -, -, whole⟩ := quoted_bareValue raw
  rw [whole]
  simp [member]

theorem not_writable_of_all {label : Text} (all : ∀ c ∈ label, Text.isBlank c = true ∨ isQuote c = true) :
    ¬ Writable label := by
  intro writable
  obtain ⟨c, rest, rfl⟩ := List.exists_cons_of_ne_nil writable.present
  obtain ⟨noBlank, noQuote⟩ := writable.first c rfl
  rcases all c List.mem_cons_self with blank | quote
  · exact absurd blank (by simp [noBlank])
  · exact absurd quote (by simp [noQuote])

end ContentType

/-- The content type leaves the choice to the caller and the default exactly if it gives no label. -/
theorem CharsetChoice.make_eq_make_none_iff {contentType : Text} {requested : Option Text} :
    make (some contentType) requested = make none requested ↔ ContentType.charset? contentType = none := by
  cases read : ContentType.charset? contentType <;> cases requested <;> simp [make, read]

namespace ContentType

/-- A label is clean exactly if the blanks of the value are outside of its quotes. For any content type, a label
    that is read is not empty and has no quote at an end. It has no blank there either, and so can be written,
    exactly if the value that decides is tidy. A value of blanks and quotes alone gives no label, and leaves the
    choice to the caller and the default, exactly if it is tidy; any other one is preferred to what they say. -/
theorem clean_label_iff_tidy (contentType : Text) :
    (∀ label, charset? contentType = some label →
      label ≠ [] ∧ ';' ∉ label ∧ (∀ c ∈ label.head?, isQuote c = false) ∧ (∀ c ∈ label.getLast?, isQuote c = false) ∧
        ∃ raw, Decides contentType raw ∧ (Writable label ↔ Tidy raw)) ∧
    ∀ raw, Decides contentType raw → (∀ c ∈ raw, Text.isBlank c = true ∨ isQuote c = true) →
      (charset? contentType = none ↔ Tidy raw) ∧
        ∀ requested,
          CharsetChoice.make (some contentType) requested = CharsetChoice.make none requested ↔ Tidy raw := by
  constructor
  · intro label read
    obtain ⟨raw, decides, rfl⟩ := exists_decides read
    have present := charset?_ne_nil read
    refine ⟨present, fun member => semicolon_not_mem_raw decides (mem_of_mem_bareValue member),
      Text.first_strip isQuote _, Text.last_strip isQuote _, raw, decides, ?_⟩
    rw [tidy_iff, or_iff_right present]
  · intro raw decides all
    have bare : ¬ Writable (bareValue raw) := not_writable_of_all fun c member => all c (mem_of_mem_bareValue member)
    have silent : charset? contentType = none ↔ Tidy raw := by
      rw [charset?_of_decides decides, tidy_iff, or_iff_left bare]
      by_cases empty : bareValue raw = [] <;> simp [empty]
    exact ⟨silent, fun requested => CharsetChoice.make_eq_make_none_iff.trans silent⟩

/-- Quotes of both kinds between two blanks give no label, and the charset that is asked for is taken. -/
theorem quotes_alone_give_no_label :
    let contentType := "text/html; Charset= '\"' ;charset=ascii".toList
    Decides contentType " '\"' ".toList ∧ Tidy " '\"' ".toList ∧ charset? contentType = none ∧
      CharsetChoice.make (some contentType) (some "utf-8".toList) = .fromCaller "utf-8".toList := by
  intro contentType
  have silent : charsetValue? "text/html".toList = none := by decide +kernel
  have decides : Decides contentType " '\"' ".toList := by
    refine ⟨["text/html".toList], " Charset= '\"' ".toList, ["charset=ascii".toList], by decide +kernel, ?_,
      " ".toList, "Charset".toList, [], by decide +kernel⟩
    intro piece member
    rw [List.mem_singleton.1 member]
    exact charsetValue?_eq_none_iff.1 silent
  have tidy : Tidy " '\"' ".toList :=
    ⟨[], ⟨" ".toList, "'\"'".toList, [], " ".toList, by decide +kernel⟩, .inl rfl⟩
  have listed : " '\"' ".toList.all (fun c => Text.isBlank c || isQuote c) = true := by decide +kernel
  have all : ∀ c ∈ " '\"' ".toList, Text.isBlank c = true ∨ isQuote c = true :=
    fun c member => Bool.or_eq_true_iff.1 (List.all_eq_true.1 listed c member)
  obtain ⟨none, leaves⟩ := (clean_label_iff_tidy contentType).2 _ decides all
  refine ⟨decides, tidy, none.2 tidy, ?_⟩
  rw [(leaves _).2 tidy]
  rfl

/-- With a blank within the quotes the label has a blank at its ends. A blank in quotes with nothing else is a
    label too, and the charset that is asked for has no say. -/
theorem blank_in_quotes_kept :
    let padded := "text/plain; charset=\" utf-8 \"".toList
    let blank := "text/plain; charset=\" \"".toList
    charset? padded = some " utf-8 ".toList ∧ " utf-8 ".toList.head? = some ' ' ∧ Text.isBlank ' ' = true ∧
      charset? blank = some " ".toList ∧
      CharsetChoice.make (some blank) (some "utf-8".toList) = .fromContentType " ".toList := by
  decide +kernel

end ContentType

end HttpReply
