import HttpReply.Body.Decode
import HttpReply.Proofs.FirstFailure

/-!
# Decoding chunk by chunk

A label is looked up once, whatever chunks there are. If a charset has it, each chunk is decoded
by itself: the first that is no text decides, and it is reported whole; otherwise the text is
that of all chunks in order. So later chunks are decoded apart from earlier ones, empty chunks
count for nothing, and a label may be written in any case and with blanks around it.
-/
namespace HttpReply

namespace Text

theorem isBlank_toLower (c : Char) : isBlank c.toLower = isBlank c := by
  cases blank : isBlank c with
  | true => rw [toLower_of_isBlank blank, blank]
  | false =>
    unfold Char.toLower
    split
    next capital =>
      have low : 65 ≤ c.toNat := capital.1
      have high : c.toNat ≤ 90 := capital.2
      have shifted : (c.val + ('a'.val - 'A'.val)).toNat = c.toNat + 32 := by
        rw [UInt32.toNat_add]
        exact Nat.mod_eq_of_lt (show c.toNat + 32 < 4294967296 by omega)
      simp only [isBlank, Char.toNat, shifted]
      simp
      omega
    next => exact blank

theorem dropWhile_lower (t : Text) : (lower t).dropWhile isBlank = lower (t.dropWhile isBlank) := by
  have same : isBlank ∘ Char.toLower = isBlank := funext isBlank_toLower
  rw [lower, List.dropWhile_map, same, lower]

theorem trim_lower (t : Text) : trim (lower t) = lower (trim t) := by
  have backwards : ∀ s : Text, (lower s).reverse = lower s.reverse := fun s => List.map_reverse.symm
  simp only [trim, strip, dropEndWhile, dropWhile_lower, backwards]

/-- The text is the core with blanks around it. -/
def Padded (core t : Text) : Prop :=
  ∃ front back, front.all isBlank = true ∧ back.all isBlank = true ∧ t = front ++ core ++ back

theorem trim_padded {core t : Text} (padded : Padded core t) : trim t = trim core := by
  obtain ⟨front, back, before, after, rfl⟩ := padded
  rw [trim, strip_append_back after, strip_append_front before, trim]

end Text

namespace Charset

/-- No charset has the label: without blanks around it and in lower case it is in no list of labels. -/
def Unknown (label : Text) : Prop :=
  ∀ charset : Charset, String.ofList (Text.lower (Text.trim label)) ∉ charset.labels

/-- The labels differ at most in the blanks around them and in the case of ASCII letters. -/
def Respelled (label other : Text) : Prop :=
  ∃ core core', Text.Padded core label ∧ Text.Padded core' other ∧ Text.sameUpToCase core core' = true

theorem ofLabel?_eq_none_iff {label : Text} : ofLabel? label = none ↔ Unknown label := by
  simp [ofLabel?, Unknown, mem_all, labelKey]

theorem ofLabel?_of_respelled {label other : Text} (same : Respelled label other) :
    ofLabel? label = ofLabel? other := by
  obtain ⟨core, core', padded, padded', letters⟩ := same
  apply ofLabel?_congr
  rw [labelKey, labelKey, Text.trim_padded padded, Text.trim_padded padded', ← Text.trim_lower, ← Text.trim_lower,
    Text.sameUpToCase_iff.1 letters]

end Charset

/-- The same error about another label, if it is one about a label. -/
def Error.relabel (label : Text) : Error → Error
  | .unknownCharset _ => .unknownCharset label
  | e => e

theorem Chunk.decode_eq_error_iff {tables : EastAsian.Tables} {charset : Charset} {chunk : Chunk} {e : Error} :
    decode tables charset chunk = .error e ↔ charset.decode? tables chunk = none ∧ e = .notText charset chunk := by
  unfold decode
  cases charset.decode? tables chunk <;> simp [eq_comm]

namespace Body

variable {tables : EastAsian.Tables} {label : Text}

/-- Every chunk by itself is a text in the charset. -/
def Decodes (tables : EastAsian.Tables) (charset : Charset) (chunks : List Chunk) (texts : List Text) : Prop :=
  List.Forall₂ (fun chunk text => charset.decode? tables chunk = some text) chunks texts

/-- The chunk by itself is no text in the charset, and every chunk before it is one. -/
def FirstUndecodable (tables : EastAsian.Tables) (charset : Charset) (chunks : List Chunk) (chunk : Chunk) : Prop :=
  ∃ before after, chunks = before ++ chunk :: after ∧ charset.decode? tables chunk = none ∧
    ∀ earlier ∈ before, ∃ text, charset.decode? tables earlier = some text

/-- What chunks with a label are: a text, an error about the label or an error about one of them. -/
def Result (tables : EastAsian.Tables) (label : Text) (chunks : List Chunk) : Except Error Text → Prop
  | .ok text => ∃ charset texts, Charset.ofLabel? label = some charset ∧ Decodes tables charset chunks texts ∧
      text = texts.flatten
  | .error (.unknownCharset given) => Charset.Unknown label ∧ given = label
  | .error (.notText charset chunk) => Charset.ofLabel? label = some charset ∧
      FirstUndecodable tables charset chunks chunk
  | .error _ => False

theorem decodeBy_of_unknown (unknown : Charset.Unknown label) (chunks : List Chunk) :
    decodeBy tables label chunks = .error (.unknownCharset label) := by
  simp only [decodeBy, Charset.ofLabel?_eq_none_iff.2 unknown]

section

variable {charset : Charset} (named : Charset.ofLabel? label = some charset)

include named

theorem decodeBy_eq_ok_iff {chunks : List Chunk} {text : Text} :
    decodeBy tables label chunks = .ok text ↔
      ∃ texts, Decodes tables charset chunks texts ∧ text = texts.flatten := by
  simp only [decodeBy, named, map_eq_ok_iff, mapM_eq_ok_iff, Chunk.decode_eq_ok_iff, Decodes]

theorem decodeBy_eq_error_iff {chunks : List Chunk} {e : Error} :
    decodeBy tables label chunks = .error e ↔
      ∃ chunk, FirstUndecodable tables charset chunks chunk ∧ e = .notText charset chunk := by
  simp only [decodeBy, named, map_eq_error_iff, mapM_eq_error_iff, FailsFirst, Chunk.decode_eq_error_iff,
    Chunk.decode_eq_ok_iff, FirstUndecodable]
  constructor
  · rintro ⟨before, chunk, after, split, ⟨fails, rfl⟩, works⟩
    exact ⟨chunk, ⟨before, after, split, fails, works⟩, rfl⟩
  · rintro ⟨chunk, ⟨before, after, split, fails, works⟩, rfl⟩
    exact ⟨before, chunk, after, split, ⟨fails, rfl⟩, works⟩

end

theorem decodeBy_eq_iff {chunks : List Chunk} {result : Except Error Text} :
    decodeBy tables label chunks = result ↔ Result tables label chunks result := by
  cases found : Charset.ofLabel? label with
  | none =>
    have unknown := Charset.ofLabel?_eq_none_iff.1 found
    rw [decodeBy_of_unknown unknown]
    rcases result with e | text
    · cases e <;> simp [Result, found, unknown, eq_comm]
    · simp [Result, found]
  | some charset =>
    have known : ¬ Charset.Unknown label := by
      rw [← Charset.ofLabel?_eq_none_iff, found]
      exact Option.some_ne_none charset
    rcases result with e | text
    · rw [decodeBy_eq_error_iff found]
      cases e with
      | notText named chunk =>
        simp only [Result, found, Option.some.injEq]
        constructor
        · rintro ⟨culprit, first, same⟩
          obtain ⟨rfl, rfl⟩ := Error.notText.inj same
          exact ⟨rfl, first⟩
        · rintro ⟨rfl, first⟩
          exact ⟨chunk, first, rfl⟩
      | unknownCharset given => simp [Result, known]
      | _ => simp [Result]
    · simp [decodeBy_eq_ok_iff found, Result, found]

/-- What comes later is decoded apart from what comes first, unless that fails. -/
theorem decodeBy_append (front back : List Chunk) :
    decodeBy tables label (front ++ back) =
      (decodeBy tables label front).bind fun text => (decodeBy tables label back).map (text ++ ·) := by
  cases found : Charset.ofLabel? label with
  | none => simp only [decodeBy, found, Except.bind]
  | some charset =>
    simp only [decodeBy, found, mapM_append_bind]
    cases front.mapM (Chunk.decode tables charset) with
    | error e => rfl
    | ok texts =>
      cases back.mapM (Chunk.decode tables charset) with
      | error e => rfl
      | ok others => exact congrArg Except.ok List.flatten_append

/-- Empty chunks can be left out. -/
theorem decodeBy_filter (chunks : List Chunk) :
    decodeBy tables label (chunks.filter (!·.isEmpty)) = decodeBy tables label chunks := by
  cases found : Charset.ofLabel? label with
  | none => simp only [decodeBy, found]
  | some charset =>
    induction chunks with
    | nil => rfl
    | cons chunk rest ih =>
      cases chunk with
      | nil =>
        have nothing : Chunk.decode tables charset [] = .ok [] :=
          Chunk.decode_eq_ok_iff.2 (Charset.decode?_nil tables charset)
        rw [List.filter_cons_of_neg (by simp), ih, decodeBy_cons found, nothing]
        cases decodeBy tables label rest <;> rfl
      | cons b bytes => rw [List.filter_cons_of_pos (by simp), decodeBy_cons found, decodeBy_cons found, ih]

/-- A label that is written otherwise is reported as it is written, and makes no other difference. -/
theorem decodeBy_of_respelled {other : Text} (same : Charset.Respelled label other) (chunks : List Chunk) :
    decodeBy tables other chunks = (decodeBy tables label chunks).mapError (Error.relabel other) := by
  have lookup := Charset.ofLabel?_of_respelled same
  cases found : Charset.ofLabel? label with
  | none => simp only [decodeBy, ← lookup, found, Except.mapError, Error.relabel]
  | some charset =>
    have alike : decodeBy tables other chunks = decodeBy tables label chunks := by
      simp only [decodeBy, ← lookup, found]
    rw [alike]
    cases decoded : decodeBy tables label chunks with
    | ok text => rfl
    | error e =>
      obtain ⟨chunk, -, rfl⟩ := (decodeBy_eq_error_iff found).1 decoded
      rfl

/-- Whatever stands in the tables of the encodings: chunks with a label are exactly what the label
    and the chunks, each by itself, make of them. Chunks in two parts are decoded part by part, and the
    first part that fails decides. Empty chunks change nothing, and neither does the way in which the label is
    written, except that an unknown label is reported as written. -/
theorem decoded_chunk_by_chunk (tables : EastAsian.Tables) :
    (∀ label chunks result, decodeBy tables label chunks = result ↔ Result tables label chunks result) ∧
    (∀ label front back, decodeBy tables label (front ++ back) =
      (decodeBy tables label front).bind fun text => (decodeBy tables label back).map (text ++ ·)) ∧
    (∀ label chunks, decodeBy tables label (chunks.filter (!·.isEmpty)) = decodeBy tables label chunks) ∧
    ∀ label other, Charset.Respelled label other → ∀ chunks,
      decodeBy tables other chunks = (decodeBy tables label chunks).mapError (Error.relabel other) :=
  ⟨fun _ _ _ => decodeBy_eq_iff, fun _ => decodeBy_append, fun _ => decodeBy_filter,
    fun _ _ => decodeBy_of_respelled⟩

theorem unknown_label_reported_as_written :
    Charset.Respelled "klingon".toList "\u3000KLINGON\t".toList ∧
      decodeBy .blank "klingon".toList [[0x41], []] = .error (.unknownCharset "klingon".toList) ∧
      decodeBy .blank "\u3000KLINGON\t".toList [[0x41], []] = .error (.unknownCharset "\u3000KLINGON\t".toList) := by
  have respelled : Charset.Respelled "klingon".toList "\u3000KLINGON\t".toList :=
    ⟨"klingon".toList, "KLINGON".toList, ⟨[], [], rfl, rfl, rfl⟩, ⟨['\u3000'], ['\t'], by decide, by decide, rfl⟩,
      by decide⟩
  have plain : decodeBy .blank "klingon".toList [[0x41], []] = .error (.unknownCharset "klingon".toList) := by
    decide +kernel
  refine ⟨respelled, plain, ?_⟩
  rw [(decoded_chunk_by_chunk .blank).2.2.2 _ _ respelled, plain]
  rfl

end Body

end HttpReply
