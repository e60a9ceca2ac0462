import HttpReply.Proofs.CleanLabels

/-!
# The first parameter for the charset

Of the parameters of a content type the first that is written for the charset decides, even if it
has no value and a later one has. The label is all that is left of its value without the
blanks and then the quotes around it. No other parameter counts, wherever it stands.
-/
namespace HttpReply

namespace Text

/-- The core is what is left of the text without the characters in `p` at its two ends. -/
def Stripped (p : Char → Bool) (t core : Text) : Prop :=
  (∃ front back, front.all p = true ∧ back.all p = true ∧ t = front ++ core ++ back) ∧
    (∀ c ∈ core.head?, p c = false) ∧ ∀ c ∈ core.getLast?, p c = false

theorem stripped_iff {p : Char → Bool} {t core : Text} : Stripped p t core ↔ strip p t = core := by
  constructor
  · rintro ⟨⟨front, back, before, after, rfl⟩, first, last⟩
    rw [strip_append_back after, strip_append_front before, strip_of_ends first last]
  · rintro rfl
    exact ⟨exists_strip p t, first_strip p t, last_strip p t⟩

end Text

namespace ContentType

/-- The piece is a parameter for the charset, with any value. -/
def ForCharset (piece : Text) : Prop := ∃ raw, IsCharset piece raw

/-- The label stands bare in the raw value: it is left when the blanks are taken off, and then the quotes. -/
def Bares (raw label : Text) : Prop :=
  ∃ value, Text.Stripped Text.isBlank raw value ∧ Text.Stripped isQuote value label

theorem bares_iff {raw label : Text} : Bares raw label ↔ bareValue raw = label := by
  simp only [Bares, Text.stripped_iff, exists_eq_left', bareValue, Text.trim]

/-- Only a piece that is not for the charset is passed over. -/
theorem not_forCharset_iff {piece : Text} : ¬ ForCharset piece ↔ charsetValue? piece = none := by
  rw [charsetValue?_eq_none_iff, ForCharset, not_exists]

theorem isSome_charsetValue?_iff {piece : Text} : (charsetValue? piece).isSome = true ↔ ForCharset piece := by
  rw [Option.isSome_iff_ne_none, Ne, ← not_forCharset_iff, Classical.not_not]

instance : DecidablePred ForCharset := fun _ => decidable_of_iff _ isSome_charsetValue?_iff

theorem charset?_eq_some_iff {contentType label : Text} :
    charset? contentType = some label ↔ label ≠ [] ∧ ∃ raw, Decides contentType raw ∧ Bares raw label := by
  simp only [bares_iff]
  constructor
  · exact fun read => ⟨charset?_ne_nil read, exists_decides read⟩
  · rintro ⟨present, raw, decides, rfl⟩
    rw [charset?_of_decides decides, if_neg present]

theorem charset?_eq_none_iff {contentType : Text} :
    charset? contentType = none ↔
      (∀ piece ∈ contentType.splitOn ';', ¬ ForCharset piece) ∨ ∃ raw, Decides contentType raw ∧ Bares raw [] := by
  simp only [bares_iff]
  constructor
  · intro silent
    cases found : (contentType.splitOn ';').findSome? charsetValue? with
    | none => exact .inl fun piece member => not_forCharset_iff.2 (List.findSome?_eq_none_iff.1 found piece member)
    | some value =>
      obtain ⟨raw, decides, rfl⟩ := findSome?_charsetValue?_eq_some_iff.1 found
      rw [charset?_of_decides decides] at silent
      exact .inr ⟨raw, decides, by simpa using silent⟩
  · rintro (others | ⟨raw, decides, empty⟩)
    · have nothing : (contentType.splitOn ';').findSome? charsetValue? = none := by
        rw [List.findSome?_eq_none_iff]
        exact fun piece member => not_forCharset_iff.1 (others piece member)
      rw [charset?, nothing, Option.filter_none]
    · rw [charset?_of_decides decides, if_pos empty]

/-- Pieces that are not for the charset can be left out. -/
theorem findSome?_filter_forCharset (pieces : List Text) :
    (pieces.filter (ForCharset ·)).findSome? charsetValue? = pieces.findSome? charsetValue? := by
  induction pieces with
  | nil => rfl
  | cons piece rest ih =>
    by_cases charset : ForCharset piece
    · rw [List.filter_cons_of_pos (by simpa using charset), List.findSome?_cons, List.findSome?_cons, ih]
    · rw [List.filter_cons_of_neg (by simpa using charset), ih, List.findSome?_cons, not_forCharset_iff.1 charset]

/-- After a piece for the charset others have no say. -/
theorem findSome?_append_of_forCharset {parameter : Text} (charset : ForCharset parameter)
    (before after : List Text) :
    (before ++ parameter :: after).findSome? charsetValue? = (before ++ [parameter]).findSome? charsetValue? := by
  obtain ⟨value, read⟩ := Option.isSome_iff_exists.1 (isSome_charsetValue?_iff.2 charset)
  rw [List.findSome?_append, List.findSome?_append, List.findSome?_cons, List.findSome?_cons, read]

theorem splitOn_joined {pieces : List Text} (present : pieces ≠ []) (whole : ∀ piece ∈ pieces, ';' ∉ piece) :
    ([';'].intercalate pieces).splitOn ';' = pieces :=
  List.splitOn_intercalate ';' whole present

/-- The first piece of a content type that is a parameter for the charset decides. There is no label exactly if
    there is no such piece or nothing stands bare in the value of the first, whatever the values of later ones are; and
    otherwise the label is what stands bare there. Pieces that are not for the charset can be added, left out
    and moved, and after a piece that is for the charset there may be any text. -/
theorem first_parameter_decides (contentType : Text) :
    (charset? contentType = none ↔
      (∀ piece ∈ contentType.splitOn ';', ¬ ForCharset piece) ∨ ∃ raw, Decides contentType raw ∧ Bares raw []) ∧
    (∀ label, charset? contentType = some label ↔
      label ≠ [] ∧ ∃ raw, Decides contentType raw ∧ Bares raw label) ∧
    (∀ pieces : List Text, pieces ≠ [] → (∀ piece ∈ pieces, ';' ∉ piece) →
      pieces.filter (ForCharset ·) = (contentType.splitOn ';').filter (ForCharset ·) →
        charset? ([';'].intercalate pieces) = charset? contentType) ∧
    ∀ before parameter after, contentType.splitOn ';' = before ++ parameter :: after → ForCharset parameter →
      ∀ rest, charset? ([';'].intercalate (before ++ [parameter]) ++ ';' :: rest) = charset? contentType := by
  refine ⟨charset?_eq_none_iff, fun _ => charset?_eq_some_iff, ?_, ?_⟩
  · intro pieces present whole same
    rw [charset?, splitOn_joined present whole, ← findSome?_filter_forCharset, same, findSome?_filter_forCharset,
      charset?]
  · intro before parameter after cut charset rest
    have whole : ∀ piece ∈ before ++ [parameter], ';' ∉ piece := by
      intro piece member inside
      have listed : piece ∈ contentType.splitOn ';' := by
        rw [cut, List.append_cons]
        exact List.mem_append_left after member
      exact (Text.mem_of_mem_splitOn listed inside).2 rfl
    have decided := findSome?_append_of_forCharset charset before
    rw [charset?, List.splitOn_append_cons_self, splitOn_joined (by simp) whole, List.append_assoc,
      List.singleton_append, decided, charset?, cut, decided after]

/-- The value of the first parameter for the charset is blank, and a later one is not looked at. Where the first has a
    value the label is all of it, and parameters with similar names have no influence before it or after. -/
theorem blank_value_before_label :
    let blank := "text/html; CHARSET = '' ;charset=utf-8".toList
    let valued := "Charset= \"k='v\";x-charset=ascii".toList
    Decides blank " '' ".toList ∧ Bares " '' ".toList [] ∧ charset? blank = none ∧
      Decides valued " \"k='v\"".toList ∧ charset? valued = some "k='v".toList ∧
      charset? "text/html;charset2=a; charset ;Charset= \"k='v\"".toList = some "k='v".toList ∧
      charset? "Charset= \"k='v\";charset=utf-8;".toList = some "k='v".toList := by
  intro blank valued
  have others : ∀ piece, charsetValue? piece = none → ∀ raw, ¬ IsCharset piece raw :=
    fun _ => charsetValue?_eq_none_iff.1
  have plain : Decides blank " '' ".toList := by
    refine ⟨["text/html".toList], " CHARSET = '' ".toList, ["charset=utf-8".toList], by decide +kernel, ?_,
      " ".toList, "CHARSET".toList, " ".toList, by decide +kernel⟩
    intro piece member
    rw [List.mem_singleton.1 member]
    exact others _ (by decide +kernel)
  have quotes : Bares " '' ".toList [] := bares_iff.2 (by decide +kernel)
  have first : Decides valued " \"k='v\"".toList :=
    ⟨[], "Charset= \"k='v\"".toList, ["x-charset=ascii".toList], by decide +kernel, by simp, [], "Charset".toList, [],
      by decide +kernel⟩
  have label : charset? valued = some "k='v".toList :=
    ((first_parameter_decides valued).2.1 _).2 ⟨by decide, _, first, bares_iff.2 (by decide +kernel)⟩
  obtain ⟨-, -, moved, followed⟩ := first_parameter_decides valued
  refine ⟨plain, quotes, (first_parameter_decides blank).1.2 (.inr ⟨_, plain, quotes⟩), first, label, ?_, ?_⟩
  · rw [← label]
    exact moved ["text/html".toList, "charset2=a".toList, " charset ".toList, "Charset= \"k='v\"".toList] (by simp)
      (by decide +kernel) (by decide +kernel)
  · rw [← label]
    exact followed [] "Charset= \"k='v\"".toList ["x-charset=ascii".toList] (by decide +kernel) (by decide +kernel)
      "charset=utf-8;".toList

end ContentType

end HttpReply
