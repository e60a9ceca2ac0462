import HttpReply.Text.Basic

/-!
# Reading characters one after another

Most encodings write each character by itself. Such an encoding is given by how it
reads the character at the front of a byte string; a whole byte string is text
when it can be read that way to its end.
-/
namespace HttpReply

/-- The character with the given code point, if there is one. -/
def scalar? (n : Nat) : Option Char :=
  if n.isValidChar then some (Char.ofNat n) else none

/-- A character is found at its own code point and at no other. -/
theorem scalar?_eq_some_iff {n : Nat} {c : Char} : scalar? n = some c ↔ c.toNat = n := by
  constructor
  · intro h
    unfold scalar? at h
    split at h
    next valid =>
      simp only [Option.some.injEq] at h
      have plain : Char.ofNat n = Char.ofNatAux n valid := dif_pos valid
      rw [← h, plain]
      rfl
    next => simp at h
  · rintro rfl
    have valid : c.toNat.isValidChar := c.valid
    simp [scalar?, valid]

@[simp] theorem scalar?_toNat (c : Char) : scalar? c.toNat = some c := scalar?_eq_some_iff.2 rfl

/-- Reads the character at the front of a byte string. The first byte and the bytes
    after it determine the text and how many of the bytes after it belong to it. -/
abbrev CharReader := UInt8 → Bytes → Option (Text × Nat)

namespace CharReader

/-- The text that is read character by character, if no byte is left unread. -/
def readAll (next : CharReader) : Bytes → Option Text
  | [] => some []
  | b :: rest =>
    match next b rest with
    | none => none
    | some (text, extra) => (readAll next (rest.drop extra)).map (text ++ ·)
termination_by bytes => bytes.length
decreasing_by
  simp only [List.length_drop, List.length_cons]
  omega

@[simp] theorem readAll_nil (next : CharReader) : next.readAll [] = some [] := by
  simp [readAll]

/-- A reader that never looks beyond the character it reads. -/
def Local (next : CharReader) : Prop :=
  ∀ b rest text extra, next b rest = some (text, extra) →
    extra ≤ rest.length ∧ ∀ more, next b (rest ++ more) = some (text, extra)

/-- A local reader reads two readable byte strings in one go as it reads them apart. -/
theorem readAll_append {next : CharReader} (isLocal : next.Local) {front : Bytes} {text : Text}
    (h : next.readAll front = some text) (back : Bytes) :
    next.readAll (front ++ back) = (next.readAll back).map (text ++ ·) := by
  fun_induction readAll next front generalizing text with
  | case1 =>
    simp only [Option.some.injEq] at h
    subst h
    simp
  | case2 b rest none => simp at h
  | case3 b rest first extra read ih =>
    obtain ⟨tail, tailRead, rfl⟩ := Option.map_eq_some_iff.1 h
    obtain ⟨within, onward⟩ := isLocal b rest first extra read
    rw [List.cons_append, readAll, onward back]
    simp only [List.drop_append_of_le_length within, ih tailRead, Option.map_map]
    congr 1
    funext more
    simp

/-- A reader that reads each character in the one form in which it is written. -/
structure Undoes (next : CharReader) (write : Char → Bytes) : Prop where
  write_ne_nil : ∀ c, write c ≠ []
  read : ∀ {c b tail}, write c = b :: tail → ∀ more, next b (tail ++ more) = some ([c], tail.length)
  written : ∀ {b rest text extra}, next b rest = some (text, extra) →
    ∃ c, text = [c] ∧ extra ≤ rest.length ∧ write c = b :: rest.take extra

theorem Undoes.isLocal {next : CharReader} {write : Char → Bytes} (undoes : next.Undoes write) :
    next.Local := by
  intro b rest text extra h
  obtain ⟨c, rfl, within, written⟩ := undoes.written h
  refine ⟨within, fun more => ?_⟩
  have read := undoes.read written (rest.drop extra ++ more)
  rw [← List.append_assoc, List.take_append_drop] at read
  rw [read, List.length_take, Nat.min_eq_left within]

/-- A byte string is the written form of the text that is read from it, and of no other. -/
theorem Undoes.readAll_eq_some_iff {next : CharReader} {write : Char → Bytes}
    (undoes : next.Undoes write) {bytes : Bytes} {t : Text} :
    next.readAll bytes = some t ↔ bytes = t.flatMap write := by
  constructor
  · intro h
    fun_induction readAll next bytes generalizing t with
    | case1 =>
      simp only [Option.some.injEq] at h
      subst h
      rfl
    | case2 b rest none => simp at h
    | case3 b rest first extra read ih =>
      obtain ⟨tail, tailRead, rfl⟩ := Option.map_eq_some_iff.1 h
      obtain ⟨c, rfl, within, written⟩ := undoes.written read
      rw [List.singleton_append, List.flatMap_cons, written, ← ih tailRead, List.cons_append,
        List.take_append_drop]
  · rintro rfl
    induction t with
    | nil => simp
    | cons c t ih =>
      cases written : write c with
      | nil => exact absurd written (undoes.write_ne_nil c)
      | cons b tail =>
        rw [List.flatMap_cons, written, List.cons_append, readAll, undoes.read written]
        simp [ih]

end CharReader

end HttpReply
