import Mathlib.Data.Finset.Dedup
import Mathlib.Data.Finset.Card
import HttpReply.Header.Basic

/-!
# Headers as an ordered multimap

Whatever lines there are at first and whatever is added to them, the headers answer as the
list of all lines does when it is searched by name. They are grouped by the lines that are
the first of their name.
-/
namespace HttpReply.Headers

/-- The lines whose name no line before them has, in order. -/
def firstLines (lines : List Header) : List Header :=
  (lines.zipIdx.filter fun (line, i) => !(lines.take i).any (Header.isNamed line.name)).map Prod.fst

/-- What is answered by headers with the given lines. -/
structure Follows (headers : Headers) (lines : List Header) : Prop where
  values : ∀ query, headers.values query =
    (lines.filter fun line => Text.sameUpToCase line.name query).map Header.value
  value? : ∀ query, headers.value? query = (headers.values query).head?
  has : ∀ query, headers.has query = true ↔ headers.values query ≠ []
  /-- The names in the order in which they first appear and as they are spelled there. -/
  groups : headers.groups = (firstLines lines).map fun line => ⟨line.name, headers.values line.name⟩
  /-- A name has one group if any line has it, and else none. -/
  group : ∀ query, (headers.groups.filter fun group => Text.sameUpToCase group.name query) =
    (lines.find? fun line => Text.sameUpToCase line.name query).toList.map fun line =>
      ⟨line.name, headers.values query⟩
  size : headers.size = (lines.map fun line => Text.lower line.name).toFinset.card
  isEmpty : headers.isEmpty = true ↔ headers.size = 0
  /-- A name is looked up without regard to case. -/
  casing : ∀ query other, Text.sameUpToCase query other = true → headers.values query = headers.values other

/-- What stays when a line is added: all answers for other names, and all groups of other names at
    their places. Only a name that is new makes a new group, and that is the last. -/
structure Keeps (headers after : Headers) (name : Text) : Prop where
  values : ∀ query, Text.sameUpToCase name query = false → after.values query = headers.values query
  value? : ∀ query, Text.sameUpToCase name query = false → after.value? query = headers.value? query
  has : ∀ query, Text.sameUpToCase name query = false → after.has query = headers.has query
  group : ∀ (i : Nat) (group : Group), headers.groups[i]? = some group → Text.sameUpToCase name group.name = false →
    after.groups[i]? = some group
  names : after.groups.map Group.name = headers.groups.map Group.name ++ if headers.has name then [] else [name]

theorem isNamed_congr {a b : Text} (same : Text.sameUpToCase a b = true) : Header.isNamed a = Header.isNamed b := by
  funext line
  rw [Header.isNamed, Header.isNamed, Text.sameUpToCase_comm, Text.sameUpToCase_trans same, Text.sameUpToCase_comm]

theorem firstLines_concat (lines : List Header) (line : Header) :
    firstLines (lines ++ [line]) =
      firstLines lines ++ if lines.any (Header.isNamed line.name) then [] else [line] := by
  have before : ∀ entry ∈ lines.zipIdx, (!((lines ++ [line]).take entry.2).any (Header.isNamed entry.1.name)) =
      !(lines.take entry.2).any (Header.isNamed entry.1.name) := by
    rintro ⟨earlier, i⟩ member
    have within : i < lines.length := by
      obtain ⟨-, bound, -⟩ := List.mem_zipIdx member
      simpa using bound
    rw [List.take_append_of_le_length (by omega)]
  unfold firstLines
  rw [List.zipIdx_append, List.filter_append, List.map_append, List.filter_congr before]
  congr 1
  by_cases known : lines.any (Header.isNamed line.name) = true
  · simp [known]
  · simp [known]

/-- Of a name only the first line is left. -/
theorem filter_firstLines (lines : List Header) (query : Text) :
    (firstLines lines).filter (Header.isNamed query) = (lines.find? (Header.isNamed query)).toList := by
  induction lines using List.reverseRecOn with
  | nil => rfl
  | append_singleton lines line ih =>
    rw [firstLines_concat, List.filter_append, ih, List.find?_append]
    by_cases asked : Header.isNamed query line = true
    · have same : Header.isNamed line.name = Header.isNamed query := isNamed_congr asked
      rw [same]
      cases found : lines.find? (Header.isNamed query) with
      | none =>
        have absent : lines.any (Header.isNamed query) = false := by simpa using found
        simp [absent, asked]
      | some first =>
        have present : lines.any (Header.isNamed query) = true :=
          List.any_eq_true.2 ⟨first, List.mem_of_find?_eq_some found, List.find?_some found⟩
        simp [present]
    · by_cases known : lines.any (Header.isNamed line.name) = true
      · simp [known, asked]
      · simp [known, asked]

theorem any_firstLines (lines : List Header) (query : Text) :
    (firstLines lines).any (Header.isNamed query) = lines.any (Header.isNamed query) := by
  have first := filter_firstLines lines query
  cases found : lines.find? (Header.isNamed query) with
  | none =>
    rw [found, Option.toList_none, List.filter_eq_nil_iff] at first
    rw [List.any_eq_false.2 first, List.any_eq_false.2 (List.find?_eq_none.1 found)]
  | some line =>
    have left : line ∈ (firstLines lines).filter (Header.isNamed query) := by
      rw [first, found]
      exact List.mem_singleton_self line
    obtain ⟨member, named⟩ := List.mem_filter.1 left
    rw [List.any_eq_true.2 ⟨line, member, named⟩, List.any_eq_true.2 ⟨line, List.mem_of_find?_eq_some found, named⟩]

theorem pairwise_firstLines (lines : List Header) :
    (firstLines lines).Pairwise fun first later => Header.isNamed later.name first = false := by
  induction lines using List.reverseRecOn with
  | nil => exact .nil
  | append_singleton lines line ih =>
    rw [firstLines_concat]
    by_cases known : lines.any (Header.isNamed line.name) = true
    · rw [if_pos known, List.append_nil]
      exact ih
    · rw [if_neg known, List.pairwise_append]
      refine ⟨ih, List.pairwise_singleton _ _, ?_⟩
      intro first member later new
      rw [List.mem_singleton.1 new]
      rw [← any_firstLines, List.any_eq_true] at known
      simpa using fun same => known ⟨first, member, same⟩

/-- A line is put into the group of its name, or into a new one if there is none. -/
theorem insertLine_eq (line : Header) {groups : List Group}
    (distinct : groups.Pairwise fun first later => Text.sameUpToCase first.name later.name = false) :
    insertLine line groups =
      if groups.any fun group => Header.isNamed group.name line then
        groups.map fun group =>
          if Header.isNamed group.name line then ⟨group.name, group.values ++ [line.value]⟩ else group
      else groups ++ [⟨line.name, [line.value]⟩] := by
  induction groups with
  | nil => rfl
  | cons group rest ih =>
    obtain ⟨apart, others⟩ := List.pairwise_cons.1 distinct
    rw [insertLine]
    by_cases here : Header.isNamed group.name line = true
    · -- No other group has the name.
      have elsewhere : ∀ other ∈ rest, Header.isNamed other.name line = false := by
        intro other member
        rw [Header.isNamed, Text.sameUpToCase_trans here]
        exact apart other member
      have kept : (rest.map fun other => if Header.isNamed other.name line then
          (⟨other.name, other.values ++ [line.value]⟩ : Group) else other) = rest := by
        conv => rhs; rw [← List.map_id rest]
        refine List.map_congr_left fun other member => ?_
        simp [elsewhere other member]
      simp [here, kept]
    · rw [if_neg here, ih others]
      by_cases known : (rest.any fun group => Header.isNamed group.name line) = true
      · simp [known, here]
      · simp [known, here]

theorem values_concat (lines : List Header) (line : Header) (query : Text) :
    values ⟨lines ++ [line]⟩ query = values ⟨lines⟩ query ++ if Header.isNamed query line then [line.value] else [] :=
  values_add ⟨lines⟩ line.name line.value query

/-- The groups are those of the first lines. -/
theorem groups_eq (headers : Headers) :
    headers.groups = (firstLines headers.lines).map fun line => ⟨line.name, headers.values line.name⟩ := by
  obtain ⟨lines⟩ := headers
  induction lines using List.reverseRecOn with
  | nil => rfl
  | append_singleton lines line ih =>
    have distinct : (groups ⟨lines⟩).Pairwise fun first later => Text.sameUpToCase first.name later.name = false := by
      rw [ih, List.pairwise_map]
      exact pairwise_firstLines lines
    have known : ((groups ⟨lines⟩).any fun group => Header.isNamed group.name line) =
        lines.any (Header.isNamed line.name) := by
      rw [ih, List.any_map, ← any_firstLines]
      simp only [Function.comp_def, Header.isNamed, Text.sameUpToCase_comm line.name]
      rfl
    have added : groups ⟨lines ++ [line]⟩ = insertLine line (groups ⟨lines⟩) := groups_add ⟨lines⟩ line.name line.value
    rw [added, insertLine_eq line distinct, known, ih, firstLines_concat]
    by_cases old : lines.any (Header.isNamed line.name) = true
    · rw [if_pos old, if_pos old, List.append_nil, List.map_map]
      refine List.map_congr_left fun first _ => ?_
      by_cases named : Header.isNamed first.name line = true
      · simp [values_concat, named]
      · simp [values_concat, named]
    · have fresh : ∀ first ∈ firstLines lines, Header.isNamed first.name line = false := by
        rw [← any_firstLines, List.any_eq_true] at old
        intro first member
        rw [Header.isNamed, Text.sameUpToCase_comm]
        exact Bool.eq_false_iff.2 fun same => old ⟨first, member, same⟩
      have none : values ⟨lines⟩ line.name = [] := by
        by_contra some
        exact old ((has_eq_true_iff ⟨lines⟩ line.name).2 some)
      rw [if_neg old, if_neg old, List.map_append]
      congr 1
      · refine List.map_congr_left fun first member => ?_
        simp [values_concat, fresh first member]
      · simp [values_concat, none, Header.isNamed]

theorem lower_mem_iff (lines : List Header) (name : Text) :
    Text.lower name ∈ lines.map (fun line => Text.lower line.name) ↔ lines.any (Header.isNamed name) = true := by
  simp [Header.isNamed, Text.sameUpToCase_iff]

theorem lower_mem_firstLines (lines : List Header) (name : Text) :
    name ∈ lines.map (fun line => Text.lower line.name) ↔ name ∈ (firstLines lines).map (fun line => Text.lower line.name) := by
  constructor
  · intro member
    obtain ⟨line, -, rfl⟩ := List.mem_map.1 member
    rwa [lower_mem_iff, any_firstLines, ← lower_mem_iff]
  · intro member
    obtain ⟨line, -, rfl⟩ := List.mem_map.1 member
    rwa [lower_mem_iff, ← any_firstLines, ← lower_mem_iff]

theorem nodup_lower_firstLines (lines : List Header) :
    ((firstLines lines).map fun line => Text.lower line.name).Nodup := by
  rw [List.Nodup, List.pairwise_map]
  refine (pairwise_firstLines lines).imp fun {first later} apart same => ?_
  rw [Header.isNamed, Text.sameUpToCase_iff.2 same] at apart
  cases apart

/-- There are as many groups as names. -/
theorem size_eq (headers : Headers) :
    headers.size = (headers.lines.map fun line => Text.lower line.name).toFinset.card := by
  have names : (headers.lines.map fun line => Text.lower line.name).toFinset =
      ((firstLines headers.lines).map fun line => Text.lower line.name).toFinset := by
    ext name
    rw [List.mem_toFinset, List.mem_toFinset, lower_mem_firstLines]
  rw [names, List.toFinset_card_of_nodup (nodup_lower_firstLines headers.lines), size, groups_eq, List.length_map,
    List.length_map]

theorem isEmpty_eq (headers : Headers) : headers.isEmpty = true ↔ headers.size = 0 := by
  rw [size_eq, Finset.card_eq_zero, List.toFinset_eq_empty_iff, List.map_eq_nil_iff, isEmpty, List.isEmpty_iff]

theorem values_congr (headers : Headers) {a b : Text} (same : Text.sameUpToCase a b = true) :
    headers.values a = headers.values b := by
  rw [values, isNamed_congr same, values]

theorem follows_lines (headers : Headers) : Follows headers headers.lines where
  values query := rfl
  value? := value?_eq_head? headers
  has := has_eq_true_iff headers
  groups := groups_eq headers
  group query := by
    have first : (firstLines headers.lines).filter (Header.isNamed query) =
        (headers.lines.find? (Header.isNamed query)).toList := filter_firstLines headers.lines query
    rw [groups_eq, List.filter_map]
    refine (congrArg _ first).trans (List.map_congr_left fun line member => ?_)
    have same : Header.isNamed query line = true := List.find?_some (Option.mem_toList.1 member)
    rw [values_congr headers same]
  size := size_eq headers
  isEmpty := isEmpty_eq headers
  casing query other := values_congr headers

theorem keeps_others (headers : Headers) (name value : Text) : Keeps headers (headers.add name value) name where
  values query apart := by simp [values_add, apart]
  value? query apart := by simp [value?_eq_head?, values_add, apart]
  has query apart := by simp [has, add, Header.isNamed, apart]
  group i group found apart := by
    rw [groups_eq, List.getElem?_map] at found ⊢
    obtain ⟨first, placed, rfl⟩ := Option.map_eq_some_iff.1 found
    have kept : (firstLines (headers.add name value).lines)[i]? = some first := by
      obtain ⟨bound, -⟩ := List.getElem?_eq_some_iff.1 placed
      rw [add, firstLines_concat, List.getElem?_append_left bound, placed]
    rw [kept]
    simp [values_add, apart]
  names := by
    rw [groups_eq, groups_eq, add, firstLines_concat, List.map_map, List.map_map, List.map_append, has]
    by_cases known : headers.lines.any (Header.isNamed name) = true
    · rw [if_pos known, if_pos known]
      rfl
    · rw [if_neg known, if_neg known]
      rfl

/-- Whatever the headers begin with and is added to them, their answers are those of the list of
    all lines, and the next addition leaves all other names alone. -/
theorem answers_follow_lines (start : List Header) (pairs : List (Text × Text)) :
    Follows (addAll ⟨start⟩ pairs) (start ++ pairs.map fun pair => ⟨pair.1, pair.2⟩) ∧
      ∀ name value, Keeps (addAll ⟨start⟩ pairs) ((addAll ⟨start⟩ pairs).add name value) name := by
  constructor
  · have follows := follows_lines (addAll ⟨start⟩ pairs)
    rwa [lines_addAll] at follows
  · exact keeps_others _

/-- One name is added for the third time, spelled otherwise each time, and leaves the other's group alone. -/
theorem answers_follow_respelled_lines :
    let headers := addAll ⟨[⟨"X-Foo".toList, ['1']⟩, ⟨"Age".toList, ['0']⟩]⟩ [("x-foo".toList, ['2'])]
    headers.values "X-FOO".toList = [['1'], ['2']] ∧
      headers.groups = [⟨"X-Foo".toList, [['1'], ['2']]⟩, ⟨"Age".toList, [['0']]⟩] ∧
      (headers.add "X-FOO".toList ['3']).groups[1]? = some ⟨"Age".toList, [['0']]⟩ := by
  intro headers
  obtain ⟨follows, keeps⟩ :=
    answers_follow_lines [⟨"X-Foo".toList, ['1']⟩, ⟨"Age".toList, ['0']⟩] [("x-foo".toList, ['2'])]
  refine ⟨?_, ?_, ?_⟩
  · exact (follows.values _).trans (by decide)
  · exact follows.groups.trans (by decide)
  · exact (keeps _ _).group 1 _ (by decide) (by decide)

end HttpReply.Headers
