import HttpReply.Proofs.DefaultCharset
import HttpReply.Proofs.FirstFailure

/-!
# References in the default charset

A text is written in the default charset character by character: one byte for a character that the
charset has, and a decimal reference for any other. What is written can always be
read, and the references then stand in the text. So a text comes back as it was exactly if the charset
has all its characters.
-/
namespace HttpReply

/-- Where each item has one part only, the parts of all items make one whole. -/
theorem flatMap_eq_iff {α β : Type} {IsPart : α → List β → Prop} {f : α → List β}
    (only : ∀ item part, IsPart item part ↔ f item = part) {items : List α} {whole : List β} :
    items.flatMap f = whole ↔ ∃ parts, List.Forall₂ IsPart items parts ∧ whole = parts.flatten := by
  have listed : ∀ parts, List.Forall₂ IsPart items parts ↔ items.map f = parts := fun _ => forall₂_iff_map_eq only
  simp only [listed, exists_eq_left', List.flatMap_def]
  exact eq_comm

namespace Charset.Default

/-- The default charset has the character. -/
def Has (c : Char) : Prop := ∃ b, page.char? b = some c

/-- What is written for a character: the one byte that stands for it, or the ASCII characters of its reference,
    with its code point in decimal, if no byte does. -/
inductive Written (c : Char) : Bytes → Prop
  | byte (b : UInt8) (stands : page.char? b = some c) (alone : ∀ other, page.char? other = some c → other = b) :
    Written c [b]
  | reference (digits : Text) (bytes : Bytes) (lacks : ¬ Has c) (numeral : Text.IsDecimal c.toNat digits)
    (ascii : bytes.map UInt8.toNat = ("&#".toList ++ digits ++ ";".toList).map Char.toNat) : Written c bytes

/-- What is read where a character was written: the character, or its reference if the charset lacks it. -/
inductive ReadBack (c : Char) : Text → Prop
  | itself (has : Has c) : ReadBack c [c]
  | reference (digits : Text) (lacks : ¬ Has c) (numeral : Text.IsDecimal c.toNat digits) :
    ReadBack c ("&#".toList ++ digits ++ ";".toList)

theorem byte?_eq_some_iff {c : Char} {b : UInt8} : page.byte? c = some b ↔ page.char? b = some c :=
  CodePage.byte?_eq_some_iff distinct_page beyond_page

theorem byte?_eq_none_iff {c : Char} : page.byte? c = none ↔ ¬ Has c := by
  rw [Option.eq_none_iff_forall_ne_some, Has, not_exists]
  exact forall_congr' fun b => not_congr byte?_eq_some_iff

theorem encodeChar_of_char? {c : Char} {b : UInt8} (stands : page.char? b = some c) : encodeChar c = [b] := by
  rw [encodeChar, byte?_eq_some_iff.2 stands]

theorem encodeChar_of_lacks {c : Char} (lacks : ¬ Has c) :
    encodeChar c = (reference c).map fun d => UInt8.ofNat d.toNat := by
  rw [encodeChar, byte?_eq_none_iff.2 lacks]

theorem ascii_reference {c d : Char} (member : d ∈ reference c) : d.toNat < 0x80 := by
  simp only [reference, List.mem_append, List.mem_cons, List.not_mem_nil, or_false] at member
  rcases member with ((rfl | rfl) | digit) | rfl
  · decide
  · decide
  · have range : d.val ≥ 48 ∧ d.val ≤ 57 := by simpa [Char.isDigit] using Text.isDigit_of_mem_decimal digit
    have greatest : d.toNat ≤ 57 := range.2
    omega
  · decide

theorem char_ascii {d : Char} (ascii : d.toNat < 0x80) : char (UInt8.ofNat d.toNat) = d := by
  have value : (UInt8.ofNat d.toNat).toNat = d.toNat := by simp; omega
  have stands : page.char? (UInt8.ofNat d.toNat) = some d := by
    rw [CodePage.char?_of_lt (by omega), value, Char.ofNat_toNat]
  exact Option.some.inj ((char?_eq _).symm.trans stands)

theorem written_iff {c : Char} {bytes : Bytes} : Written c bytes ↔ encodeChar c = bytes := by
  constructor
  · intro written
    cases written with
    | byte b stands alone => exact encodeChar_of_char? stands
    | reference digits bytes lacks numeral ascii =>
      have whole : "&#".toList ++ digits ++ ";".toList = reference c := by
        rw [Text.isDecimal_iff.1 numeral]
        rfl
      have back := congrArg (List.map UInt8.ofNat) ascii
      rw [whole, List.map_map, List.map_map] at back
      rw [encodeChar_of_lacks lacks]
      refine back.symm.trans (List.map_congr_left fun b _ => ?_) |>.trans (List.map_id bytes)
      exact UInt8.ofNat_toNat
  · rintro rfl
    by_cases has : Has c
    · obtain ⟨b, stands⟩ := has
      rw [encodeChar_of_char? stands]
      refine .byte b stands fun other again => ?_
      exact List.singleton_inj.1 ((encodeChar_of_char? again).symm.trans (encodeChar_of_char? stands))
    · rw [encodeChar_of_lacks has]
      refine .reference (Text.decimal c.toNat) _ has (Text.isDecimal_iff.2 rfl) ?_
      rw [List.map_map]
      refine List.map_congr_left fun d member => ?_
      have ascii : d.toNat < 0x80 := ascii_reference member
      simp
      omega

theorem readBack_iff {c : Char} {shown : Text} : ReadBack c shown ↔ (encodeChar c).map char = shown := by
  have itself : ∀ {b}, page.char? b = some c → (encodeChar c).map char = [c] := by
    intro b stands
    rw [encodeChar_of_char? stands, List.map_singleton]
    exact congrArg (fun d => [d]) (Option.some.inj ((char?_eq b).symm.trans stands))
  have instead : ¬ Has c → (encodeChar c).map char = reference c := by
    intro lacks
    rw [encodeChar_of_lacks lacks, List.map_map]
    exact (List.map_congr_left fun d member => char_ascii (ascii_reference member)).trans (List.map_id _)
  constructor
  · intro read
    cases read with
    | itself has =>
      obtain ⟨b, stands⟩ := has
      exact itself stands
    | reference digits lacks numeral =>
      rw [instead lacks, Text.isDecimal_iff.1 numeral]
      rfl
  · rintro rfl
    by_cases has : Has c
    · obtain ⟨b, stands⟩ := has
      rw [itself stands]
      exact .itself ⟨b, stands⟩
    · rw [instead has]
      exact .reference (Text.decimal c.toNat) has (Text.isDecimal_iff.2 rfl)

theorem encode_eq_iff {t : Text} {bytes : Bytes} :
    encode t = bytes ↔ ∃ parts, List.Forall₂ Written t parts ∧ bytes = parts.flatten :=
  flatMap_eq_iff @written_iff

theorem map_char_encode (t : Text) : (encode t).map char = t.flatMap fun c => (encodeChar c).map char := by
  rw [encode, List.map_flatMap]

theorem map_char_encode_eq_iff {t text : Text} :
    (encode t).map char = text ↔ ∃ parts, List.Forall₂ ReadBack t parts ∧ text = parts.flatten := by
  rw [map_char_encode]
  exact flatMap_eq_iff @readBack_iff

/-- A reference is longer than the character that it stands for. -/
theorem length_readBack {c : Char} {shown : Text} (read : ReadBack c shown) :
    1 ≤ shown.length ∧ (¬ Has c → 1 < shown.length) := by
  cases read with
  | itself has => exact ⟨Nat.le_refl 1, fun lacks => absurd has lacks⟩
  | reference digits lacks numeral =>
    have long : 3 ≤ ("&#".toList ++ digits ++ ";".toList).length := by simp
    exact ⟨by omega, fun _ => by omega⟩

theorem length_le_encode (t : Text) : t.length ≤ ((encode t).map char).length := by
  induction t with
  | nil => exact Nat.le_refl 0
  | cons c rest ih =>
    have here := (length_readBack (readBack_iff.2 rfl : ReadBack c _)).1
    rw [map_char_encode] at ih ⊢
    rw [List.flatMap_cons, List.length_append, List.length_cons]
    omega

/-- A text comes back as it was exactly if the charset has all its characters. -/
theorem map_char_encode_eq_self_iff {t : Text} : (encode t).map char = t ↔ ∀ c ∈ t, Has c := by
  induction t with
  | nil => simp [encode]
  | cons c rest ih =>
    have read : ReadBack c _ := readBack_iff.2 rfl
    have parts : (encode (c :: rest)).map char = (encodeChar c).map char ++ (encode rest).map char := by
      rw [map_char_encode, List.flatMap_cons, ← map_char_encode]
    rw [parts, List.forall_mem_cons, ← ih]
    have itself : Has c → (encodeChar c).map char = [c] := fun has => readBack_iff.1 (.itself has)
    constructor
    · intro same
      -- The rest is not shorter than it was, so there is no room for a reference.
      have lengths := congrArg List.length same
      rw [List.length_append, List.length_cons] at lengths
      have others := length_le_encode rest
      have has : Has c := by
        by_contra lacks
        have := (length_readBack read).2 lacks
        omega
      rw [itself has, List.singleton_append] at same
      exact ⟨has, (List.cons.inj same).2⟩
    · rintro ⟨has, same⟩
      rw [itself has, same, List.singleton_append]

end Charset.Default

namespace Body

theorem decodeBy_encode (tables : EastAsian.Tables) (t : Text) :
    decodeBy tables Charset.Default.label [Charset.Default.encode t] =
      .ok ((Charset.Default.encode t).map Charset.Default.char) := by
  rw [decodeBy_eq_of_default tables rfl, List.flatten_singleton]

/-- What is written in the default charset is written for the characters one by one, whatever stands beside them: a
    character that the charset has as its only byte, and any other as a reference. It can always be
    read as one chunk in that charset. The text that is read has the references for the characters
    that the charset lacks, and so is the text that was written exactly if it lacks none. -/
theorem written_with_references (tables : EastAsian.Tables) :
    (∀ t bytes, Charset.Default.encode t = bytes ↔
      ∃ parts, List.Forall₂ Charset.Default.Written t parts ∧ bytes = parts.flatten) ∧
    (∀ s t, Charset.Default.encode (s ++ t) = Charset.Default.encode s ++ Charset.Default.encode t) ∧
    (∀ t, ∃ text, decodeBy tables Charset.Default.label [Charset.Default.encode t] = .ok text) ∧
    (∀ t text, decodeBy tables Charset.Default.label [Charset.Default.encode t] = .ok text ↔
      ∃ parts, List.Forall₂ Charset.Default.ReadBack t parts ∧ text = parts.flatten) ∧
    ∀ t, decodeBy tables Charset.Default.label [Charset.Default.encode t] = .ok t ↔
      ∀ c ∈ t, Charset.Default.Has c := by
  refine ⟨fun _ _ => Charset.Default.encode_eq_iff, Charset.Default.encode_append,
    fun t => ⟨_, decodeBy_encode tables t⟩, fun t text => ?_, fun t => ?_⟩
  · rw [decodeBy_encode, Except.ok.injEq, Charset.Default.map_char_encode_eq_iff]
  · rw [decodeBy_encode, Except.ok.injEq, Charset.Default.map_char_encode_eq_self_iff]

/-- Of two control characters side by side the default charset has one and lacks the other. -/
theorem lacking_control_character_referred_to :
    (∀ c ∈ ['€', '\u0081'], Charset.Default.Has c) ∧ ¬ Charset.Default.Has '\u0080' ∧
      Charset.Default.encode ['€', '\u0081'] = [0x80, 0x81] ∧
      decodeBy .blank Charset.Default.label [[0x80, 0x81]] = .ok ['€', '\u0081'] ∧
      Charset.Default.encode ['\u0080'] = [0x26, 0x23, 0x31, 0x32, 0x38, 0x3B] ∧
      decodeBy .blank Charset.Default.label [[0x26, 0x23, 0x31, 0x32, 0x38, 0x3B]] = .ok "&#128;".toList := by
  obtain ⟨-, -, -, read, whole⟩ := written_with_references .blank
  have has : ∀ c ∈ ['€', '\u0081'], Charset.Default.Has c := by
    intro c member
    rcases List.mem_pair.1 member with rfl | rfl
    · exact ⟨0x80, by decide +kernel⟩
    · exact ⟨0x81, by decide +kernel⟩
  have lacks : ¬ Charset.Default.Has '\u0080' := Charset.Default.byte?_eq_none_iff.1 (by decide +kernel)
  have pair : Charset.Default.encode ['€', '\u0081'] = [0x80, 0x81] := by decide +kernel
  have single : Charset.Default.encode ['\u0080'] = [0x26, 0x23, 0x31, 0x32, 0x38, 0x3B] := by decide +kernel
  refine ⟨has, lacks, pair, ?_, single, ?_⟩
  · rw [← pair]
    exact (whole _).2 has
  · rw [← single]
    refine (read _ _).2 ⟨["&#128;".toList], .cons ?_ .nil, by decide⟩
    exact .reference "128".toList lacks (Text.isDecimal_iff.2 (by decide))

end Body

end HttpReply
