import HttpReply.Proofs.TextCell

/-!
# A charset named or asked for

A content type names a charset by its first parameter that is written as the word charset,
an equals sign and the label, with blanks and quotes around. The text of a body is then the
one that a caller gets who asks for the label where there is no content type.
-/
namespace HttpReply

namespace ContentType

/-- The parameter is the word charset in letters of any case, an equals sign and then the raw value.
    There may be blanks before and after the word. -/
def IsCharset (parameter raw : Text) : Prop :=
  ∃ blanks word gap, blanks.all Text.isBlank = true ∧ Text.sameUpToCase word charsetName = true ∧
    gap.all Text.isBlank = true ∧ parameter = blanks ++ word ++ gap ++ '=' :: raw

/-- The raw value is the label with quotes and then blanks around it. -/
def Quoted (raw label : Text) : Prop :=
  ∃ blanks quotes quotes' blanks', blanks.all Text.isBlank = true ∧ quotes.all isQuote = true ∧
    quotes'.all isQuote = true ∧ blanks'.all Text.isBlank = true ∧
    raw = blanks ++ (quotes ++ label ++ quotes') ++ blanks'

/-- A label that can be written: it is not empty, holds no semicolon, and has neither a blank nor a
    quote at an end. -/
structure Writable (label : Text) : Prop where
  present : label ≠ []
  whole : ';' ∉ label
  first : ∀ c ∈ label.head?, Text.isBlank c = false ∧ isQuote c = false
  last : ∀ c ∈ label.getLast?, Text.isBlank c = false ∧ isQuote c = false

/-- The content type has a parameter that gives the label, and before it there is none for the charset. -/
def Names (contentType label : Text) : Prop :=
  ∃ before parameter raw after, contentType = before ++ ';' :: (parameter ++ after) ∧
    (∀ piece ∈ before.splitOn ';', ∀ other, ¬ IsCharset piece other) ∧ IsCharset parameter raw ∧ Quoted raw label ∧
    (after = [] ∨ ∃ rest, after = ';' :: rest)

theorem isBlank_of_isQuote {c : Char} (quote : isQuote c = true) : Text.isBlank c = false := by
  rcases Bool.or_eq_true_iff.1 quote with double | single
  · rw [beq_iff_eq.1 double]
    decide
  · rw [beq_iff_eq.1 single]
    decide

/-- The word charset in letters of any case holds no blank and no mark. -/
theorem letters_of_word {word : Text} (same : Text.sameUpToCase word charsetName = true) :
    (∀ c ∈ word, Text.isBlank c = false) ∧ '=' ∉ word ∧ ';' ∉ word :=
  Text.separators_of_sameUpToCase same (by decide)

theorem trim_trimEnd (t : Text) : Text.trim (Text.trimEnd t) = Text.trim t := by
  obtain ⟨back, all, whole⟩ := Text.exists_dropEndWhile Text.isBlank t
  conv => rhs; rw [whole]
  exact (Text.strip_append_back all _).symm

/-- What stands before the first equals sign decides whether the parameter is one for the charset. -/
theorem charsetValue?_mark {before : Text} (clean : '=' ∉ before) (raw : Text) :
    charsetValue? (before ++ '=' :: raw) =
      if Text.sameUpToCase (Text.trim before) charsetName then some (bareValue raw) else none := by
  have trimmed : Text.trim (before ++ '=' :: raw) = Text.trimStart before ++ '=' :: Text.trimEnd raw :=
    Text.strip_mark (by decide) before raw
  have start : '=' ∉ Text.trimStart before := fun member => clean ((List.dropWhile_subset _) member)
  have name : Text.trimEnd (Text.trimStart before) = Text.trim before := rfl
  simp only [charsetValue?, trimmed, Text.cut?_eq_some_iff.2 ⟨rfl, start⟩, name, bareValue, trim_trimEnd]

theorem charsetValue?_of_not_mem {parameter : Text} (absent : '=' ∉ parameter) : charsetValue? parameter = none := by
  obtain ⟨front, back, -, -, whole⟩ := Text.exists_strip Text.isBlank parameter
  have inside : '=' ∉ Text.trim parameter := by
    intro member
    rw [whole] at absent
    exact absent (List.mem_append_left _ (List.mem_append_right _ member))
  simp only [charsetValue?, Text.cut?_eq_none_iff.2 inside]

/-- A parameter gives a value for the charset exactly if it is written as one for the charset. -/
theorem charsetValue?_eq_some_iff {parameter value : Text} :
    charsetValue? parameter = some value ↔ ∃ raw, IsCharset parameter raw ∧ bareValue raw = value := by
  constructor
  · intro read
    by_cases equals : '=' ∈ parameter
    · obtain ⟨before, raw, rfl, clean⟩ := List.eq_append_cons_of_mem equals
      rw [charsetValue?_mark clean] at read
      by_cases named : Text.sameUpToCase (Text.trim before) charsetName = true
      · rw [if_pos named] at read
        obtain ⟨blanks, gap, front, between, whole⟩ := Text.exists_strip Text.isBlank before
        refine ⟨raw, ⟨blanks, Text.trim before, gap, front, named, between, ?_⟩, Option.some.inj read⟩
        exact congrArg (· ++ '=' :: raw) whole
      · rw [if_neg named] at read
        cases read
    · rw [charsetValue?_of_not_mem equals] at read
      cases read
  · rintro ⟨raw, ⟨blanks, word, gap, front, same, between, rfl⟩, rfl⟩
    obtain ⟨letters, equals, -⟩ := letters_of_word same
    have outside : Text.isBlank '=' = false := by decide
    have clean : '=' ∉ blanks ++ word ++ gap := by
      simp only [List.mem_append, not_or]
      exact ⟨⟨Text.not_mem_of_all outside front, equals⟩, Text.not_mem_of_all outside between⟩
    have trimmed : Text.trim (blanks ++ word ++ gap) = word := by
      rw [Text.trim, Text.strip_append_back between, Text.strip_append_front front]
      exact Text.strip_of_ends (fun c first => letters c (List.mem_of_mem_head? first))
        (fun c last => letters c (List.mem_of_getLast? last))
    rw [charsetValue?_mark clean, trimmed, if_pos same]

theorem charsetValue?_eq_none_iff {parameter : Text} :
    charsetValue? parameter = none ↔ ∀ raw, ¬ IsCharset parameter raw := by
  rw [Option.eq_none_iff_forall_ne_some]
  constructor
  · intro none raw charset
    exact none _ (charsetValue?_eq_some_iff.2 ⟨raw, charset, rfl⟩)
  · intro none value read
    obtain ⟨raw, charset, -⟩ := charsetValue?_eq_some_iff.1 read
    exact none raw charset

/-- A label with neither a blank nor a quote at an end is what stands bare, and so is no label at all. -/
theorem bareValue_of_quoted {raw label : Text} (quoted : Quoted raw label)
    (first : ∀ c ∈ label.head?, Text.isBlank c = false ∧ isQuote c = false)
    (last : ∀ c ∈ label.getLast?, Text.isBlank c = false ∧ isQuote c = false) : bareValue raw = label := by
  obtain ⟨blanks, quotes, quotes', blanks', front, before, after, back, rfl⟩ := quoted
  have unblank : ∀ {q : Text}, q.all isQuote = true → ∀ c ∈ q, Text.isBlank c = false :=
    fun all c member => isBlank_of_isQuote (List.all_eq_true.1 all c member)
  have starts : ∀ c ∈ (quotes ++ label ++ quotes').head?, Text.isBlank c = false := by
    intro c start
    rw [Option.mem_def, List.append_assoc, List.head?_append, List.head?_append, Option.or_eq_some_iff] at start
    rcases start with quote | ⟨-, start⟩
    · exact unblank before c (List.mem_of_mem_head? quote)
    · rcases Option.or_eq_some_iff.1 start with own | ⟨-, quote⟩
      · exact (first c own).1
      · exact unblank after c (List.mem_of_mem_head? quote)
  have stops : ∀ c ∈ (quotes ++ label ++ quotes').getLast?, Text.isBlank c = false := by
    intro c stop
    rw [Option.mem_def, List.getLast?_append, List.getLast?_append, Option.or_eq_some_iff] at stop
    rcases stop with quote | ⟨-, stop⟩
    · exact unblank after c (List.mem_of_getLast? quote)
    · rcases Option.or_eq_some_iff.1 stop with own | ⟨-, quote⟩
      · exact (last c own).1
      · exact unblank before c (List.mem_of_getLast? quote)
  have trimmed : Text.trim (blanks ++ (quotes ++ label ++ quotes') ++ blanks') = quotes ++ label ++ quotes' := by
    rw [Text.trim, Text.strip_append_back back, Text.strip_append_front front, Text.strip_of_ends starts stops]
  rw [bareValue, trimmed, Text.strip_append_back after, Text.strip_append_front before]
  exact Text.strip_of_ends (fun c start => (first c start).2) (fun c stop => (last c stop).2)

theorem semicolon_not_mem_parameter {parameter raw label : Text} (charset : IsCharset parameter raw)
    (quoted : Quoted raw label) (writable : Writable label) : ';' ∉ parameter := by
  obtain ⟨blanks, word, gap, front, same, between, rfl⟩ := charset
  obtain ⟨blanks₁, quotes, quotes', blanks₂, front₁, before, after, back, rfl⟩ := quoted
  have blank : Text.isBlank ';' = false := by decide
  have quote : isQuote ';' = false := by decide
  simp only [List.mem_append, List.mem_cons, not_or]
  exact ⟨⟨⟨Text.not_mem_of_all blank front, (letters_of_word same).2.2⟩, Text.not_mem_of_all blank between⟩, by decide,
    ⟨Text.not_mem_of_all blank front₁, ⟨Text.not_mem_of_all quote before, writable.whole⟩,
      Text.not_mem_of_all quote after⟩, Text.not_mem_of_all blank back⟩

/-- The label that a content type names is the one that is read. -/
theorem charset?_of_names {contentType label : Text} (names : Names contentType label) (writable : Writable label) :
    charset? contentType = some label := by
  obtain ⟨before, parameter, raw, after, rfl, others, charset, quoted, tail⟩ := names
  have none : (before.splitOn ';').findSome? charsetValue? = none := by
    rw [List.findSome?_eq_none_iff]
    exact fun piece member => charsetValue?_eq_none_iff.2 (others piece member)
  have value : charsetValue? parameter = some label :=
    charsetValue?_eq_some_iff.2 ⟨raw, charset, bareValue_of_quoted quoted writable.first writable.last⟩
  have clean : ';' ∉ parameter := semicolon_not_mem_parameter charset quoted writable
  have pieces : ∃ rest, (parameter ++ after).splitOn ';' = parameter :: rest := by
    rcases tail with rfl | ⟨rest, rfl⟩
    · exact ⟨[], by rw [List.append_nil, List.splitOn_eq_singleton clean]⟩
    · exact ⟨_, List.splitOn_append_cons_self_of_not_mem clean rest⟩
  obtain ⟨rest, pieces⟩ := pieces
  rw [charset?, List.splitOn_append_cons_self, pieces, List.findSome?_append, none, Option.none_or,
    List.findSome?_cons, value]
  simp [writable.present]

end ContentType

namespace Response

/-- Whatever stands in the tables, a charset named in the content type and the same charset asked for
    where there is no content type are equivalent: whatever has been asked before of other parts, the
    first question about the text gets the same text, or the same error, whatever charset it comes with. -/
theorem named_charset_as_requested (tables : EastAsian.Tables) {contentType label : Text}
    (names : ContentType.Names contentType label) (writable : ContentType.Writable label)
    (status other : Option Status) {headers bare : Headers}
    (given : headers.value? contentTypeName = some contentType) (absent : bare.value? contentTypeName = none)
    {chunks : List Chunk} (body : chunks ≠ []) {calls : List Call} {i : Nat} {call : Call}
    (found : calls[i]? = some call) {requested : Option Text} (asks : call.requested? = some requested)
    (first : ∀ earlier ∈ calls.take i, earlier.requested? = none) :
    (received status (some headers) (some chunks)).answerAt tables calls i =
      some (((received other (some bare) (some chunks)).bodyText tables (some label)).answer.map
        fun text => .text (call.shown text)) := by
  have failing : firstText ((received status (some headers) (some chunks)).freshText tables) (calls.take i) = none := by
    rw [firstText_eq_none_iff]
    intro earlier member wanted asks'
    rw [first earlier member] at asks'
    cases asks'
  have named : CharsetChoice.make (headers.value? contentTypeName) requested = .fromContentType label := by
    apply CharsetChoice.make_of_contentType
    rw [given]
    exact ContentType.charset?_of_names names writable
  have wanted : CharsetChoice.make (bare.value? contentTypeName) (some label) = .fromCaller label := by
    rw [absent]
    rfl
  rw [answerAt_of_none rfl found asks failing, (bodyText_of_none rfl _).1, freshText_received status headers body,
    freshText_received other bare body, named, wanted]
  rfl

/-- A parameter with a similar name stands before the charset and another charset after it. The
    cookies are asked for first, and then an excerpt in a charset that nobody knows. -/
theorem excerpt_in_named_charset :
    let tables := EastAsian.Tables.onlyA
    let contentType := "text/html;charset2=x;\tChArSeT = '\"Shift_JIS'\" ;charset=ascii".toList
    let headers : Headers := ⟨[⟨"content-type".toList, contentType⟩]⟩
    let chunks : List Chunk := [[0x82, 0xA0], [0x21]]
    let calls : List Call := [.cookies, .excerpt (some "bogus".toList) 1]
    ContentType.Names contentType "Shift_JIS".toList ∧ ContentType.Writable "Shift_JIS".toList ∧
      headers.value? contentTypeName = some contentType ∧ ({} : Headers).value? contentTypeName = none ∧
      chunks ≠ [] ∧ (∀ earlier ∈ calls.take 1, earlier.requested? = none) ∧
      (received none (some headers) (some chunks)).answerAt tables calls 1 = some (.ok (.text ['あ'])) := by
  intro tables contentType headers chunks calls
  have silent : ∀ piece ∈ "text/html;charset2=x".toList.splitOn ';', ContentType.charsetValue? piece = none := by
    decide +kernel
  have names : ContentType.Names contentType "Shift_JIS".toList := by
    refine ⟨"text/html;charset2=x".toList, "\tChArSeT = '\"Shift_JIS'\" ".toList, " '\"Shift_JIS'\" ".toList,
      ";charset=ascii".toList, by decide +kernel, ?_, ?_, ?_, .inr ⟨"charset=ascii".toList, by decide +kernel⟩⟩
    · intro piece member other written
      have read := ContentType.charsetValue?_eq_some_iff.2 ⟨other, written, rfl⟩
      rw [silent piece member] at read
      cases read
    · exact ⟨"\t".toList, "ChArSeT".toList, " ".toList, by decide +kernel⟩
    · exact ⟨" ".toList, "'\"".toList, "'\"".toList, " ".toList, by decide +kernel⟩
  have writable : ContentType.Writable "Shift_JIS".toList := by
    refine ⟨by decide, by decide, ?_, ?_⟩
    · intro c start
      cases start
      decide
    · intro c stop
      cases stop
      decide
  have given : headers.value? contentTypeName = some contentType := by decide +kernel
  have absent : ({} : Headers).value? contentTypeName = none := by decide
  have body : chunks ≠ [] := by decide
  have first : ∀ earlier ∈ calls.take 1, earlier.requested? = none := by decide
  refine ⟨names, writable, given, absent, body, first, ?_⟩
  rw [named_charset_as_requested tables names writable none none given absent body rfl rfl first]
  have decoded : ((received none (some {}) (some chunks)).bodyText tables (some "Shift_JIS".toList)).answer.toOption =
      some ['あ', '!'] := by decide +kernel
  cases answer : ((received none (some {}) (some chunks)).bodyText tables (some "Shift_JIS".toList)).answer with
  | error e => rw [answer] at decoded; cases decoded
  | ok text => rw [answer] at decoded; cases decoded; rfl

end Response

end HttpReply
