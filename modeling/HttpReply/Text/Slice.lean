import HttpReply.Text.Basic

/-!
# Slices between byte offsets

A text is stored as UTF-8, where a slice is taken between two byte offsets. It exists
only if both offsets lie within the text and between two of its characters. The cut at
a mark and the first characters of a text are slices that always exist.
-/
namespace HttpReply.Text

/-- How many bytes a text takes in UTF-8. -/
def byteLength : Text → Nat
  | [] => 0
  | c :: rest => c.utf8Size + byteLength rest

/-- The text in two parts, if the offset is that of a character or of the end. -/
def splitAtByte? (n : Nat) : Text → Option (Text × Text)
  | [] => if n = 0 then some ([], []) else none
  | c :: rest =>
    if n = 0 then some ([], c :: rest)
    else if c.utf8Size ≤ n then
      (splitAtByte? (n - c.utf8Size) rest).map fun parts => (c :: parts.1, parts.2)
    else none

/-- The text between two byte offsets, if it can be cut there. -/
def slice? (t : Text) (start stop : Nat) : Option Text :=
  if start ≤ stop then
    (splitAtByte? start t).bind fun parts => (splitAtByte? (stop - start) parts.2).map Prod.fst
  else none

/-- The byte offset of the first `mark`, if the text has one. -/
def byteOffset? (mark : Char) : Text → Option Nat
  | [] => none
  | c :: rest => if c = mark then some 0 else (byteOffset? mark rest).map (c.utf8Size + ·)

/-- The byte offset of the character number `n`, counted from zero, if there are so many. -/
def charOffset? : Nat → Text → Option Nat
  | _, [] => none
  | 0, _ :: _ => some 0
  | n + 1, c :: rest => (charOffset? n rest).map (c.utf8Size + ·)

theorem byteLength_append (a b : Text) : byteLength (a ++ b) = byteLength a + byteLength b := by
  induction a with
  | nil => simp [byteLength]
  | cons c a ih => rw [List.cons_append, byteLength, byteLength, ih, Nat.add_assoc]

/-- A text is cut between two of its parts at the length of the first. -/
theorem splitAtByte?_append (a b : Text) : splitAtByte? (byteLength a) (a ++ b) = some (a, b) := by
  induction a with
  | nil => cases b <;> simp [byteLength, splitAtByte?]
  | cons c a ih =>
    have positive := c.utf8Size_pos
    rw [byteLength, List.cons_append, splitAtByte?, if_neg (by omega), if_pos (by omega),
      Nat.add_sub_cancel_left, ih, Option.map_some]

/-- A text between two others is the slice between their lengths. -/
theorem slice?_append (a b c : Text) :
    slice? (a ++ b ++ c) (byteLength a) (byteLength a + byteLength b) = some b := by
  rw [slice?, if_pos (by omega), List.append_assoc, splitAtByte?_append, Option.bind_some,
    Nat.add_sub_cancel_left, splitAtByte?_append, Option.map_some]

/-- The offset of a mark is the length of the text before it. -/
theorem byteOffset?_eq (mark : Char) (t : Text) :
    byteOffset? mark t = (cut? mark t).map fun parts => byteLength parts.1 := by
  induction t with
  | nil => rfl
  | cons c rest ih =>
    unfold byteOffset?
    by_cases here : c = mark
    · subst here
      have cut : cut? c (c :: rest) = some ([], rest) := cut?_eq_some_iff.2 ⟨rfl, List.not_mem_nil⟩
      rw [if_pos rfl, cut]
      rfl
    · rw [if_neg here, ih]
      cases found : cut? mark rest with
      | none =>
        have absent : cut? mark (c :: rest) = none := by
          rw [cut?_eq_none_iff] at found ⊢
          simpa [Ne.symm here] using found
        rw [absent]
        rfl
      | some parts =>
        obtain ⟨rfl, clear⟩ := cut?_eq_some_iff.1 found
        have cut : cut? mark (c :: (parts.1 ++ mark :: parts.2)) = some (c :: parts.1, parts.2) := by
          rw [cut?_eq_some_iff]
          exact ⟨rfl, by simpa [Ne.symm here] using clear⟩
        rw [cut, Option.map_some, Option.map_some, Option.map_some, byteLength]

/-- Both parts of a cut are slices next to the offset of the mark. -/
theorem slices_of_cut? {mark : Char} {t before after : Text} (h : cut? mark t = some (before, after)) :
    byteOffset? mark t = some (byteLength before) ∧
      slice? t 0 (byteLength before) = some before ∧
      slice? t (byteLength before + mark.utf8Size) (byteLength t) = some after := by
  refine ⟨by rw [byteOffset?_eq, h, Option.map_some], ?_, ?_⟩
  · obtain ⟨rfl, -⟩ := cut?_eq_some_iff.1 h
    simpa [byteLength] using slice?_append [] before (mark :: after)
  · obtain ⟨rfl, -⟩ := cut?_eq_some_iff.1 h
    have start : byteLength before + mark.utf8Size = byteLength (before ++ [mark]) := by
      rw [byteLength_append, byteLength]
      rfl
    have stop : byteLength (before ++ mark :: after) = byteLength (before ++ [mark]) + byteLength after := by
      rw [← byteLength_append, List.append_assoc, List.singleton_append]
    rw [start, stop]
    simpa using slice?_append (before ++ [mark]) after []

/-- The offset of a character is the length of the characters before it. -/
theorem charOffset?_eq (n : Nat) (t : Text) :
    charOffset? n t = if n < t.length then some (byteLength (t.take n)) else none := by
  induction t generalizing n with
  | nil => cases n <;> rfl
  | cons c rest ih =>
    cases n with
    | zero => rfl
    | succ n =>
      rw [charOffset?, ih]
      by_cases within : n < rest.length
      · rw [if_pos within, if_pos (by simpa using within), List.take_succ_cons, byteLength]
        rfl
      · rw [if_neg within, if_neg (by simpa using within)]
        rfl

/-- The first characters of a longer text are the slice up to the offset of the next one. -/
theorem slice_of_charOffset? {n offset : Nat} {t : Text} (h : charOffset? n t = some offset) :
    slice? t 0 offset = some (t.take n) := by
  rw [charOffset?_eq] at h
  split at h
  next =>
    simp only [Option.some.injEq] at h
    subst h
    have whole := slice?_append [] (t.take n) (t.drop n)
    rw [List.nil_append, List.take_append_drop] at whole
    simpa [byteLength] using whole
  next => simp at h

end HttpReply.Text
