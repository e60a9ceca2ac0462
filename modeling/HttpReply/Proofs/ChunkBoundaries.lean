import Mathlib.Control.Monad.Basic
import HttpReply.Proofs.ModesInChunks

/-!
# Chunk boundaries

Each chunk of a body is decoded by itself. If that gives a text, then the bytes of all chunks
in one give the same text, for a charset in which a character is never read otherwise than
by its own bytes. ISO-2022-JP is none: what a byte stands for depends on the last escape
sequence, and a boundary makes that forgotten. There the text is the same exactly if no boundary
makes a difference.
-/
namespace HttpReply

/-- After the front bytes the back bytes are decoded as if they stood alone. -/
def Charset.Closes (tables : EastAsian.Tables) (charset : Charset) (front back : Bytes) : Prop :=
  ∀ text, charset.decode? tables front = some text →
    charset.decode? tables (front ++ back) = (charset.decode? tables back).map (text ++ ·)

theorem Charset.closes_of_ne {charset : Charset} (other : charset ≠ .iso2022Jp) (tables : EastAsian.Tables)
    (front back : Bytes) : charset.Closes tables front back := by
  intro text decoded
  cases charset with
  | iso2022Jp => exact absurd rfl other
  | singleByte page => exact CharReader.readAll_append page.next_local decoded back
  | utf8 => exact CharReader.readAll_append Utf8.next_undoes.isLocal decoded back
  | utf16be => exact CharReader.readAll_append (Utf16.next_undoes .big).isLocal decoded back
  | utf16le => exact CharReader.readAll_append (Utf16.next_undoes .little).isLocal decoded back
  | userDefined =>
    obtain rfl := Option.some.inj decoded
    simp [decode?]
  | replacement =>
    -- Nothing but the empty chunk is decoded.
    cases front with
    | nil =>
      obtain rfl : [] = text := Option.some.inj decoded
      simp
    | cons b rest => cases decoded
  | gb18030 | gbk | eucJp => exact CharReader.readAll_append (EastAsian.oneOrMore_local _ _ _) decoded back
  | big5 | eucKr | shiftJis => exact CharReader.readAll_append (EastAsian.oneOrTwo_local _ _) decoded back

namespace Iso2022Jp

/-- After the front bytes the mode that they lead to makes no difference to the back bytes. -/
def AtRest (jis0208 : Nat → Option Char) (front back : Bytes) : Prop :=
  ∃ text after, read jis0208 .initial front = some (text, after) ∧ Harmless after back

theorem closes_of_atRest {tables : EastAsian.Tables} {front back : Bytes} (rest : AtRest tables.jis0208 front back) :
    Charset.iso2022Jp.Closes tables front back := by
  intro text decoded
  obtain ⟨text', after, whole, harmless⟩ := rest
  have same : (read tables.jis0208 .initial front).map Prod.fst = some text := decoded
  obtain rfl : text' = text := by
    rw [whole] at same
    exact Option.some.inj same
  exact (decode?_append whole back).trans (congrArg (Option.map (text' ++ ·)) (textFrom_of_harmless harmless))

end Iso2022Jp

namespace Body

/-- Chunks that close before the bytes that follow them are decoded as their bytes in one. -/
theorem decode?_flatten {tables : EastAsian.Tables} {label : Text} {charset : Charset}
    (named : Charset.ofLabel? label = some charset) {chunks : List Chunk} {text : Text}
    (decoded : decodeBy tables label chunks = .ok text)
    (closes : ∀ chunk back, chunk :: back <:+ chunks → back.flatten ≠ [] → charset.Closes tables chunk back.flatten) :
    charset.decode? tables chunks.flatten = some text := by
  induction chunks generalizing text with
  | nil =>
    rw [decodeBy_nil named] at decoded
    obtain rfl := Except.ok.inj decoded
    simp
  | cons chunk rest ih =>
    obtain ⟨first, others, head, tail, rfl⟩ := (decodeBy_cons_eq_ok_iff named).1 decoded
    have onward : charset.decode? tables rest.flatten = some others := by
      apply ih tail
      intro inner back later
      exact closes inner back (later.trans (List.suffix_cons chunk rest))
    rw [List.flatten_cons]
    by_cases last : rest.flatten = []
    · rw [last, Charset.decode?_nil] at onward
      obtain rfl := Option.some.inj onward
      rw [last, List.append_nil, List.append_nil, head]
    · rw [closes chunk rest List.suffix_rfl last first head, onward]
      rfl

/-- If chunks in ISO-2022-JP and their bytes in one chunk give the same text, then no boundary makes a
    difference. -/
theorem atRest_of_joined {tables : EastAsian.Tables} {label : Text} (named : Charset.ofLabel? label = some .iso2022Jp)
    {chunks : List Chunk} {text : Text} (decoded : decodeBy tables label chunks = .ok text)
    (joined : Iso2022Jp.decode? tables.jis0208 chunks.flatten = some text) {chunk : Chunk} {back : List Chunk}
    (inside : chunk :: back <:+ chunks) (follows : back.flatten ≠ []) :
    Iso2022Jp.AtRest tables.jis0208 chunk back.flatten := by
  induction chunks generalizing text with
  | nil => cases List.suffix_nil.1 inside
  | cons first rest ih =>
    obtain ⟨text', others, head, tail, rfl⟩ := (decodeBy_cons_eq_ok_iff named).1 decoded
    obtain ⟨⟨text', after⟩, whole, rfl⟩ := Option.map_eq_some_iff.1 head
    rw [List.flatten_cons, Iso2022Jp.decode?_append whole, Option.map_eq_some_iff] at joined
    obtain ⟨others', onward, same⟩ := joined
    obtain rfl : others' = others := List.append_cancel_left same
    rcases List.suffix_cons_iff.1 inside with here | later
    · obtain ⟨rfl, rfl⟩ := List.cons.inj here
      exact ⟨text', after, whole, harmless_of_decodeBy named tail follows onward⟩
    · have filled : rest.flatten ≠ [] := by
        obtain ⟨before, rfl⟩ := later
        simp only [List.flatten_append, List.flatten_cons]
        exact List.append_ne_nil_of_right_ne_nil _ (List.append_ne_nil_of_right_ne_nil _ follows)
      have harmless := harmless_of_decodeBy named tail filled onward
      exact ih tail ((Iso2022Jp.textFrom_of_harmless harmless).symm.trans onward) later

/-- Whatever stands in the tables of the encodings: if the chunks of a body, each decoded by
    itself, give a text, then their bytes in one chunk give the same text. In ISO-2022-JP this
    holds exactly if at every boundary that bytes follow the chunk before it leads to ASCII, or an
    escape sequence comes next, or the chunk leads to the Roman mode and neither of its two own
    characters comes before the next escape sequence, and no boundary stands between two
    escape sequences. -/
theorem joined_chunks_decoded_alike (tables : EastAsian.Tables) (label : Text) (chunks : List Chunk) (text : Text)
    (decoded : decodeBy tables label chunks = .ok text) :
    decodeBy tables label [chunks.flatten] = .ok text ↔
      (Charset.ofLabel? label = some .iso2022Jp → ∀ chunk back, chunk :: back <:+ chunks → back.flatten ≠ [] →
        Iso2022Jp.AtRest tables.jis0208 chunk back.flatten) := by
  obtain ⟨charset, named⟩ := named_of_decodeBy decoded
  rw [decodeBy_singleton named, Chunk.decode_eq_ok_iff]
  constructor
  · intro joined modal chunk back inside follows
    obtain rfl := Option.some.inj (named.symm.trans modal)
    exact atRest_of_joined modal decoded joined inside follows
  · intro rest
    apply decode?_flatten named decoded
    intro chunk back inside follows
    by_cases modal : charset = .iso2022Jp
    · subst modal
      exact Iso2022Jp.closes_of_atRest (rest named chunk back inside follows)
    · exact Charset.closes_of_ne modal tables chunk back.flatten

/-- Here the table holds one pair. The first chunk leads to the Roman mode and an escape sequence to ASCII
    comes next. The second leads to the Roman mode again, which reads what comes before the pair as ASCII does. -/
theorem joined_modes_decoded_alike :
    let tables := EastAsian.Tables.onlyA
    let chunks : List Chunk := [[0x1B, 0x28, 0x4A, 0x5C], [0x1B, 0x28, 0x42, 0x5C, 0x1B, 0x28, 0x4A], [],
      [0x41, 0x1B, 0x24, 0x42, 0x24, 0x22]]
    decodeBy tables "iso-2022-jp".toList chunks = .ok ['¥', '\\', 'A', 'あ'] ∧
      decodeBy tables "iso-2022-jp".toList [chunks.flatten] = .ok ['¥', '\\', 'A', 'あ'] := by
  intro tables chunks
  have decoded : decodeBy tables "iso-2022-jp".toList chunks = .ok ['¥', '\\', 'A', 'あ'] := by decide +kernel
  refine ⟨decoded, (joined_chunks_decoded_alike tables _ chunks _ decoded).2 ?_⟩
  intro _ chunk back inside follows
  simp only [chunks, List.suffix_cons_iff, List.cons.injEq, List.suffix_nil, reduceCtorEq, or_false] at inside
  rcases inside with ⟨rfl, rfl⟩ | ⟨rfl, rfl⟩ | ⟨rfl, rfl⟩ | ⟨rfl, rfl⟩
  · exact ⟨['¥'], ⟨.roman, false⟩, by decide +kernel, by decide, .inr (.inl rfl)⟩
  · exact ⟨['\\'], ⟨.roman, true⟩, by decide +kernel, by decide, .inr (.inr ⟨rfl, by decide +kernel⟩)⟩
  · exact ⟨[], .initial, by decide +kernel, by decide, .inl rfl⟩
  · exact absurd rfl follows

/-- In ISO-2022-JP a boundary can change the text: the yen sign becomes a backslash when the
    escape sequence before it stands in another chunk. And two escape sequences that are read
    each in its own chunk are refused in one. -/
theorem mode_lost_at_boundary :
    let tables := EastAsian.Tables.blank
    decodeBy tables "iso-2022-jp".toList [[0x1B, 0x28, 0x4A], [0x5C]] = .ok ['\\'] ∧
      decodeBy tables "iso-2022-jp".toList [[0x1B, 0x28, 0x4A, 0x5C]] = .ok ['¥'] ∧
      decodeBy tables "iso-2022-jp".toList [[0x1B, 0x28, 0x42], [0x1B, 0x28, 0x4A]] = .ok [] ∧
      decodeBy tables "iso-2022-jp".toList [[0x1B, 0x28, 0x42, 0x1B, 0x28, 0x4A]] =
        .error (.notText .iso2022Jp [0x1B, 0x28, 0x42, 0x1B, 0x28, 0x4A]) := by
  decide +kernel

end Body

end HttpReply
