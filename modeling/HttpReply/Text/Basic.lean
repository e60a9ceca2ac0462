/-!
# Text

Text is a list of characters and a string of bytes is a list of octets. Here are
the two notions that every textual header rule uses: blanks at the ends, and
names that are the same up to the case of their ASCII letters.
-/
namespace HttpReply

/-- A piece of text, as its characters in order. -/
abbrev Text := List Char

/-- A string of bytes in the order in which they travel. -/
abbrev Bytes := List UInt8

namespace Text

/-! ## Blanks -/

/-- The characters with the Unicode property White_Space. -/
def isBlank (c : Char) : Bool :=
  let n := c.toNat
  (0x9 ≤ n && n ≤ 0xD) || n == 0x20 || n == 0x85 || n == 0xA0 || n == 0x1680 ||
    (0x2000 ≤ n && n ≤ 0x200A) || n == 0x2028 || n == 0x2029 || n == 0x202F ||
    n == 0x205F || n == 0x3000

/-- The text without the longest run of characters in `p` at its end. -/
def dropEndWhile (p : Char → Bool) (t : Text) : Text :=
  (t.reverse.dropWhile p).reverse

/-- The text without the runs of characters in `p` at its two ends. -/
def strip (p : Char → Bool) (t : Text) : Text :=
  dropEndWhile p (t.dropWhile p)

/-- The text without leading blanks. -/
def trimStart (t : Text) : Text := t.dropWhile isBlank

/-- The text without trailing blanks. -/
def trimEnd (t : Text) : Text := dropEndWhile isBlank t

/-- The text without leading and trailing blanks. -/
def trim (t : Text) : Text := strip isBlank t

theorem trimStart_append {blanks : Text} (all : blanks.all isBlank = true) (t : Text) :
    trimStart (blanks ++ t) = trimStart t :=
  List.dropWhile_append_of_pos (List.all_eq_true.1 all)

theorem trimStart_of_start {t : Text} (start : ∀ c rest, t = c :: rest → isBlank c = false) : trimStart t = t := by
  cases t with
  | nil => rfl
  | cons c rest => rw [trimStart, List.dropWhile_cons_of_neg (by simp [start c rest rfl])]

theorem start_of_trimStart {t : Text} {c : Char} {rest : Text} (trimmed : trimStart t = c :: rest) :
    isBlank c = false := by
  have first := List.head?_dropWhile_not isBlank t
  rw [← trimStart, trimmed] at first
  simpa using first

theorem not_mem_of_all {p : Char → Bool} {c : Char} (out : p c = false) {t : Text} (all : t.all p = true) : c ∉ t := by
  intro member
  rw [List.all_eq_true.1 all c member] at out
  cases out

theorem dropEndWhile_append {p : Char → Bool} {back : Text} (all : back.all p = true) (t : Text) :
    dropEndWhile p (t ++ back) = dropEndWhile p t := by
  have reversed : ∀ c ∈ back.reverse, p c = true := fun c member => List.all_eq_true.1 all c (List.mem_reverse.1 member)
  rw [dropEndWhile, List.reverse_append, List.dropWhile_append_of_pos reversed, dropEndWhile]

theorem dropEndWhile_of_last {p : Char → Bool} {t : Text} (last : ∀ c ∈ t.getLast?, p c = false) :
    dropEndWhile p t = t := by
  cases backwards : t.reverse with
  | nil => rw [dropEndWhile, backwards, List.reverse_eq_nil_iff.1 backwards]; rfl
  | cons c rest =>
    have out : p c = false := last c (by rw [List.getLast?_eq_head?_reverse, backwards]; rfl)
    rw [dropEndWhile, backwards, List.dropWhile_cons_of_neg (by simp [out]), ← backwards, List.reverse_reverse]

/-- What is dropped at the end is all in `p`. -/
theorem exists_dropEndWhile (p : Char → Bool) (t : Text) :
    ∃ back : Text, back.all p = true ∧ t = dropEndWhile p t ++ back := by
  refine ⟨(t.reverse.takeWhile p).reverse, ?_, ?_⟩
  · rw [List.all_reverse]
    exact List.all_takeWhile
  · rw [dropEndWhile, ← List.reverse_append, List.takeWhile_append_dropWhile, List.reverse_reverse]

theorem dropWhile_mark {p : Char → Bool} {mark : Char} (out : p mark = false) (before after : Text) :
    (before ++ mark :: after).dropWhile p = before.dropWhile p ++ mark :: after := by
  rw [List.dropWhile_append]
  by_cases gone : (before.dropWhile p).isEmpty = true
  · rw [if_pos gone, List.isEmpty_iff.1 gone, List.dropWhile_cons_of_neg (by simp [out]), List.nil_append]
  · rw [if_neg gone]

/-- A mark that is not in `p` stays, with what stands between it and the ends. -/
theorem strip_mark {p : Char → Bool} {mark : Char} (out : p mark = false) (before after : Text) :
    strip p (before ++ mark :: after) = before.dropWhile p ++ mark :: dropEndWhile p after := by
  have backwards : (before.dropWhile p ++ mark :: after).reverse.dropWhile p =
      after.reverse.dropWhile p ++ mark :: (before.dropWhile p).reverse := by
    rw [List.reverse_append, List.reverse_cons, List.append_assoc, List.singleton_append, dropWhile_mark out]
  rw [strip, dropWhile_mark out, dropEndWhile, backwards, List.reverse_append, List.reverse_cons, List.reverse_reverse,
    List.append_assoc, List.singleton_append, dropEndWhile]

theorem strip_append_front {p : Char → Bool} {front : Text} (all : front.all p = true) (t : Text) :
    strip p (front ++ t) = strip p t := by
  rw [strip, List.dropWhile_append_of_pos (List.all_eq_true.1 all), strip]

theorem strip_append_back {p : Char → Bool} {back : Text} (all : back.all p = true) (t : Text) :
    strip p (t ++ back) = strip p t := by
  rw [strip, List.dropWhile_append, strip]
  by_cases gone : (t.dropWhile p).isEmpty = true
  · have rest : (back ++ []).dropWhile p = [] := List.dropWhile_append_of_pos (List.all_eq_true.1 all)
    rw [List.append_nil] at rest
    rw [if_pos gone, List.isEmpty_iff.1 gone, rest]
  · rw [if_neg gone, dropEndWhile_append all]

/-- What is dropped at the two ends is all in `p`. -/
theorem exists_strip (p : Char → Bool) (t : Text) :
    ∃ front back : Text, front.all p = true ∧ back.all p = true ∧ t = front ++ strip p t ++ back := by
  obtain ⟨back, all, rest⟩ := exists_dropEndWhile p (t.dropWhile p)
  refine ⟨t.takeWhile p, back, List.all_takeWhile, all, ?_⟩
  rw [strip, List.append_assoc, ← rest, List.takeWhile_append_dropWhile]

theorem strip_of_ends {p : Char → Bool} {t : Text} (first : ∀ c ∈ t.head?, p c = false)
    (last : ∀ c ∈ t.getLast?, p c = false) : strip p t = t := by
  cases t with
  | nil => rfl
  | cons c rest =>
    rw [strip, List.dropWhile_cons_of_neg (by simp [first c rfl]), dropEndWhile_of_last last]

theorem first_strip (p : Char → Bool) (t : Text) : ∀ c ∈ (strip p t).head?, p c = false := by
  intro c start
  obtain ⟨back, -, whole⟩ := exists_dropEndWhile p (t.dropWhile p)
  rw [← strip] at whole
  have first := List.head?_dropWhile_not p t
  rw [whole, List.head?_append, Option.mem_def.1 start] at first
  simpa using first

theorem last_strip (p : Char → Bool) (t : Text) : ∀ c ∈ (strip p t).getLast?, p c = false := by
  intro c stop
  have last := List.head?_dropWhile_not p (t.dropWhile p).reverse
  rw [strip, dropEndWhile, List.getLast?_reverse, Option.mem_def] at stop
  rw [stop] at last
  simpa using last

/-! ## Case -/

/-- The text with its ASCII letters in lower case and all else as it is. -/
def lower (t : Text) : Text := t.map Char.toLower

/-- Two texts that differ at most in the case of ASCII letters. -/
def sameUpToCase (a b : Text) : Bool := lower a == lower b

theorem sameUpToCase_iff {a b : Text} : sameUpToCase a b = true ↔ lower a = lower b := by
  simp [sameUpToCase]

@[simp] theorem sameUpToCase_refl (a : Text) : sameUpToCase a a = true := by
  simp [sameUpToCase]

theorem sameUpToCase_comm (a b : Text) : sameUpToCase a b = sameUpToCase b a := by
  simp only [sameUpToCase, Bool.beq_comm]

theorem sameUpToCase_trans {a b c : Text} (h : sameUpToCase a b = true) :
    sameUpToCase a c = sameUpToCase b c := by
  rw [sameUpToCase_iff] at h
  simp [sameUpToCase, h]

/-- A character that has no lower case is in both of two texts that are the same up to case, or in none. -/
theorem mem_of_sameUpToCase {a b : Text} (same : sameUpToCase a b = true) {c : Char} (fixed : c.toLower = c)
    (member : c ∈ a) : c ∈ lower b := by
  rw [← sameUpToCase_iff.1 same, ← fixed]
  exact List.mem_map_of_mem member

/-- Where characters in `p` have no lower case, a text has none if the same text in lower case has none. -/
theorem apart_of_sameUpToCase {p : Char → Bool} (fixed : ∀ c, p c = true → c.toLower = c) {a b : Text}
    (same : sameUpToCase a b = true) (apart : (lower b).any p = false) : ∀ c ∈ a, p c = false := by
  intro c member
  cases inside : p c with
  | false => rfl
  | true => exact absurd inside (List.any_eq_false.1 apart c (mem_of_sameUpToCase same (fixed c inside) member))

theorem toLower_of_isBlank {c : Char} (blank : isBlank c = true) : c.toLower = c := by
  unfold Char.toLower
  split
  next capital =>
    have low : 65 ≤ c.toNat := capital.1
    have high : c.toNat ≤ 90 := capital.2
    simp only [isBlank, Bool.or_eq_true, Bool.and_eq_true, decide_eq_true_eq, beq_iff_eq] at blank
    omega
  next => rfl

/-- A word that differs only in case from one without blanks and marks has none either. -/
theorem separators_of_sameUpToCase {a b : Text} (same : sameUpToCase a b = true)
    (apart : (lower b).any (fun c => isBlank c || c == '=' || c == ';') = false) :
    (∀ c ∈ a, isBlank c = false) ∧ '=' ∉ a ∧ ';' ∉ a := by
  have fixed : ∀ c, (isBlank c || c == '=' || c == ';') = true → c.toLower = c := by
    intro c separates
    simp only [Bool.or_eq_true, beq_iff_eq] at separates
    rcases separates with (blank | rfl) | rfl
    · exact toLower_of_isBlank blank
    · decide
    · decide
  have none := apart_of_sameUpToCase fixed same apart
  refine ⟨fun c member => ?_, fun member => ?_, fun member => ?_⟩
  · have free := none c member
    simp only [Bool.or_eq_false_iff] at free
    exact free.1.1
  · exact absurd (none '=' member) (by decide)
  · exact absurd (none ';' member) (by decide)

/-! ## Cuts -/

/-- The texts before and after the first `mark`, if the text has one. -/
def cut? (mark : Char) (t : Text) : Option (Text × Text) :=
  match t.dropWhile (· != mark) with
  | [] => none
  | _ :: after => some (t.takeWhile (· != mark), after)

/-- The text up to the first `mark`, or all of it if it has none. -/
def upTo (mark : Char) (t : Text) : Text := t.takeWhile (· != mark)

theorem mark_not_mem_upTo (mark : Char) (t : Text) : mark ∉ upTo mark t := by
  intro h
  simpa using (List.all_eq_true.1 List.all_takeWhile) mark h

/-- A cut gives back the text: what stands before the mark holds none. -/
theorem cut?_eq_some_iff {mark : Char} {t before after : Text} :
    cut? mark t = some (before, after) ↔ t = before ++ mark :: after ∧ mark ∉ before := by
  constructor
  · intro h
    unfold cut? at h
    split at h
    next => simp at h
    next c rest hd =>
      simp only [Option.some.injEq, Prod.mk.injEq] at h
      obtain ⟨rfl, rfl⟩ := h
      have hc : c = mark := by
        have := List.head?_dropWhile_not (fun x => x != mark) t
        simpa [hd] using this
      subst hc
      refine ⟨?_, mark_not_mem_upTo c t⟩
      rw [← hd, List.takeWhile_append_dropWhile]
  · rintro ⟨rfl, hn⟩
    have ha : ∀ x ∈ before, (x != mark) = true := by
      intro x hx
      simp only [bne_iff_ne, ne_eq]
      rintro rfl
      exact hn hx
    simp [cut?, List.dropWhile_append_of_pos ha, List.takeWhile_append_of_pos ha]

/-- No cut is found exactly in a text without the mark. -/
theorem cut?_eq_none_iff {mark : Char} {t : Text} : cut? mark t = none ↔ mark ∉ t := by
  constructor
  · intro h hm
    obtain ⟨before, after, rfl, hn⟩ := List.eq_append_cons_of_mem hm
    simp [cut?_eq_some_iff.2 ⟨rfl, hn⟩] at h
  · intro h
    cases hc : cut? mark t with
    | none => rfl
    | some parts =>
      obtain ⟨rfl, -⟩ := cut?_eq_some_iff.1 hc
      simp at h

/-- The front of a text up to a mark: the text has nothing else, or goes on with the mark. -/
theorem upTo_eq_iff {mark : Char} {t front : Text} :
    upTo mark t = front ↔ mark ∉ front ∧ ∃ rest, t = front ++ rest ∧ (rest = [] ∨ rest.head? = some mark) := by
  constructor
  · rintro rfl
    refine ⟨mark_not_mem_upTo mark t, t.dropWhile (· != mark), List.takeWhile_append_dropWhile.symm, ?_⟩
    have stops := List.head?_dropWhile_not (· != mark) t
    cases rest : t.dropWhile (· != mark) with
    | nil => exact .inl rfl
    | cons c others =>
      rw [rest] at stops
      exact .inr (by simpa using stops)
  · rintro ⟨absent, rest, rfl, stops⟩
    have others : ∀ c ∈ front, (c != mark) = true := by
      intro c member
      simp only [bne_iff_ne, ne_eq]
      rintro rfl
      exact absent member
    have stop : rest.takeWhile (· != mark) = [] := by
      rcases stops with rfl | first
      · rfl
      · cases rest with
        | nil => rfl
        | cons c more => simp [Option.some.inj first]
    rw [upTo, List.takeWhile_append_of_pos others, stop, List.append_nil]

/-- The pieces of a text hold none of the marks that it is cut at, and nothing else than the text. -/
theorem mem_of_mem_splitOn {mark : Char} {t piece : Text} (member : piece ∈ t.splitOn mark) {c : Char}
    (inside : c ∈ piece) : c ∈ t ∧ c ≠ mark := by
  induction t generalizing piece with
  | nil =>
    rw [List.splitOn_nil, List.mem_singleton] at member
    rw [member] at inside
    cases inside
  | cons d rest ih =>
    rw [List.splitOn_cons_eq_if_modifyHead] at member
    split at member
    next =>
      rcases List.mem_cons.1 member with rfl | later
      · cases inside
      · obtain ⟨found, differs⟩ := ih later inside
        exact ⟨List.mem_cons_of_mem _ found, differs⟩
    next other =>
      obtain ⟨first, others, pieces⟩ := List.exists_cons_of_ne_nil (List.splitOn_ne_nil mark rest)
      rw [pieces] at member ih
      rcases List.mem_cons.1 member with rfl | later
      · rcases List.mem_cons.1 inside with rfl | inside
        · exact ⟨List.mem_cons_self, by simpa using other⟩
        · obtain ⟨found, differs⟩ := ih List.mem_cons_self inside
          exact ⟨List.mem_cons_of_mem _ found, differs⟩
      · obtain ⟨found, differs⟩ := ih (List.mem_cons_of_mem _ later) inside
        exact ⟨List.mem_cons_of_mem _ found, differs⟩

end Text

end HttpReply
