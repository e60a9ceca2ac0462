import Mathlib.Data.List.Forall2
import HttpReply.Proofs.HeaderGroups

/-!
# Headers grouped by name

The groups of headers hold every line once. Written out group by group they are the lines in an
order in which the values of a name stand together, and headers that are made of that answer
everything as before. Once grouped, headers are not changed by being grouped again.
-/
namespace HttpReply.Headers

/-- The values of a group, each with the name of the group. -/
def Group.pairs (group : Group) : List (Text × Text) := group.values.map fun value => (group.name, value)

/-- The names and values of all groups, one group after another. -/
def flattened (headers : Headers) : List (Text × Text) := headers.groups.flatMap Group.pairs

/-- The headers made of the flattened groups. -/
def regrouped (headers : Headers) : Headers := ofList headers.flattened

/-- The name and the value are those of the line, and the name may be spelled otherwise. -/
def Spells (pair : Text × Text) (line : Header) : Prop :=
  Text.sameUpToCase pair.1 line.name = true ∧ pair.2 = line.value

/-- The pairs spell the lines in another order, in which the lines of each name stand as they stood. -/
def Rearranges (pairs : List (Text × Text)) (lines : List Header) : Prop :=
  ∃ moved : List Header, List.Forall₂ Spells pairs moved ∧ moved.Perm lines ∧
    ∀ query, (moved.filter fun line => Text.sameUpToCase line.name query) =
      lines.filter fun line => Text.sameUpToCase line.name query

/-- The same answers to everything that can be asked of headers by name. -/
structure AnswersAlike (headers other : Headers) : Prop where
  groups : headers.groups = other.groups
  size : headers.size = other.size
  has : ∀ query, headers.has query = other.has query
  value? : ∀ query, headers.value? query = other.value? query
  values : ∀ query, headers.values query = other.values query

/-- The lines in the order in which their names first appear. -/
def sortedLines (lines : List Header) : List Header :=
  (firstLines lines).flatMap fun first => lines.filter (Header.isNamed first.name)

theorem filter_sortedLines (lines : List Header) (query : Text) :
    (sortedLines lines).filter (Header.isNamed query) = lines.filter (Header.isNamed query) := by
  -- Of the first lines only the one with the name brings lines with the name, and it brings them all.
  have own : ∀ firsts : List Header,
      (firsts.flatMap fun first => lines.filter (Header.isNamed first.name)).filter (Header.isNamed query) =
        (firsts.filter (Header.isNamed query)).flatMap fun _ => lines.filter (Header.isNamed query) := by
    intro firsts
    induction firsts with
    | nil => rfl
    | cons first rest ih =>
      rw [List.flatMap_cons, List.filter_append, ih]
      by_cases asked : Header.isNamed query first = true
      · rw [List.filter_cons_of_pos asked, List.flatMap_cons, isNamed_congr asked, List.filter_filter]
        simp only [Bool.and_self]
      · have none : (lines.filter (Header.isNamed first.name)).filter (Header.isNamed query) = [] := by
          rw [List.filter_eq_nil_iff]
          intro line member both
          have same : Header.isNamed line.name = Header.isNamed query := isNamed_congr both
          refine asked ?_
          rw [← same, Header.isNamed, Text.sameUpToCase_comm]
          exact (List.mem_filter.1 member).2
        rw [List.filter_cons_of_neg asked, none, List.nil_append]
  rw [sortedLines, own, filter_firstLines]
  cases found : lines.find? (Header.isNamed query) with
  | none =>
    rw [Option.toList_none, List.flatMap_nil, List.filter_eq_nil_iff.2 (List.find?_eq_none.1 found)]
  | some first => rw [Option.toList_some, List.flatMap_singleton]

/-- Lists with the same lines of each name have the same lines. -/
theorem perm_of_filters {lines moved : List Header}
    (same : ∀ query, moved.filter (Header.isNamed query) = lines.filter (Header.isNamed query)) :
    moved.Perm lines := by
  rw [List.perm_iff_count]
  intro line
  have own : Header.isNamed line.name line = true := Text.sameUpToCase_refl line.name
  rw [← List.count_filter own, same, List.count_filter own]

theorem spells_group (lines : List Header) (first : Header) :
    List.Forall₂ Spells (Group.pairs ⟨first.name, values ⟨lines⟩ first.name⟩)
      (lines.filter (Header.isNamed first.name)) := by
  rw [Group.pairs, values, List.map_map, List.forall₂_map_left_iff, List.forall₂_same]
  intro line member
  refine ⟨?_, rfl⟩
  rw [Text.sameUpToCase_comm]
  exact (List.mem_filter.1 member).2

theorem flattened_rearranges (headers : Headers) : Rearranges headers.flattened headers.lines := by
  refine ⟨sortedLines headers.lines, ?_, perm_of_filters (filter_sortedLines _), filter_sortedLines _⟩
  rw [flattened, groups_eq, List.flatMap_map, sortedLines]
  induction firstLines headers.lines with
  | nil => exact .nil
  | cons first rest ih =>
    rw [List.flatMap_cons, List.flatMap_cons]
    exact List.rel_append (spells_group headers.lines first) ih

theorem pairwise_groups (headers : Headers) :
    headers.groups.Pairwise fun first later => Text.sameUpToCase first.name later.name = false := by
  rw [groups_eq, List.pairwise_map]
  exact pairwise_firstLines headers.lines

theorem values_ne_nil_of_mem_groups {headers : Headers} {group : Group} (member : group ∈ headers.groups) :
    group.values ≠ [] := by
  rw [groups_eq] at member
  obtain ⟨first, inside, rfl⟩ := List.mem_map.1 member
  refine (has_eq_true_iff headers first.name).1 ?_
  rw [has, ← any_firstLines, List.any_eq_true]
  exact ⟨first, inside, Text.sameUpToCase_refl first.name⟩

theorem groups_addAll (headers : Headers) (pairs : List (Text × Text)) :
    (headers.addAll pairs).groups = pairs.foldl (fun groups pair => insertLine ⟨pair.1, pair.2⟩ groups) headers.groups := by
  induction pairs generalizing headers with
  | nil => rfl
  | cons pair rest ih => rw [addAll, List.foldl_cons, ← addAll, ih, groups_add, List.foldl_cons]

/-- A line passes by the groups of other names. -/
theorem insertLine_append {line : Header} {front : List Group}
    (apart : ∀ group ∈ front, Header.isNamed group.name line = false) (back : List Group) :
    insertLine line (front ++ back) = front ++ insertLine line back := by
  induction front with
  | nil => rfl
  | cons group rest ih =>
    have other := apart group List.mem_cons_self
    rw [List.cons_append, insertLine, if_neg (by simp [other]), ih fun g member => apart g (List.mem_cons_of_mem _ member),
      List.cons_append]

/-- Lines of a name that is new make one group, with all their values. -/
theorem foldl_insertLine_pairs {front : List Group} {group : Group} (full : group.values ≠ [])
    (apart : ∀ other ∈ front, Text.sameUpToCase other.name group.name = false) :
    group.pairs.foldl (fun groups pair => insertLine ⟨pair.1, pair.2⟩ groups) front = front ++ [group] := by
  obtain ⟨name, values⟩ := group
  have passes : ∀ value back, insertLine ⟨name, value⟩ (front ++ back) = front ++ insertLine ⟨name, value⟩ back :=
    fun value => insertLine_append fun other member => by
      rw [Header.isNamed, Text.sameUpToCase_comm]
      exact apart other member
  -- Once the group is there it takes up the values that follow.
  have later : ∀ more stored : List Text,
      (more.map fun value => (name, value)).foldl (fun groups pair => insertLine ⟨pair.1, pair.2⟩ groups)
        (front ++ [⟨name, stored⟩]) = front ++ [⟨name, stored ++ more⟩] := by
    intro more
    induction more with
    | nil => simp
    | cons value rest ih =>
      intro stored
      have taken : insertLine ⟨name, value⟩ [⟨name, stored⟩] = [⟨name, stored ++ [value]⟩] :=
        if_pos (Text.sameUpToCase_refl name)
      rw [List.map_cons, List.foldl_cons, passes, taken, ih, List.append_assoc, List.singleton_append]
  obtain ⟨value, rest, rfl⟩ := List.exists_cons_of_ne_nil full
  have opened : insertLine ⟨name, value⟩ front = front ++ [⟨name, [value]⟩] := by
    have passed := passes value []
    rwa [List.append_nil] at passed
  rw [Group.pairs, List.map_cons, List.foldl_cons, opened, later, List.singleton_append]

/-- Headers made of groups with different names and with values have these groups. -/
theorem groups_ofList_pairs {groups : List Group}
    (distinct : groups.Pairwise fun first later => Text.sameUpToCase first.name later.name = false)
    (full : ∀ group ∈ groups, group.values ≠ []) : (ofList (groups.flatMap Group.pairs)).groups = groups := by
  rw [ofList, groups_addAll]
  induction groups using List.reverseRecOn with
  | nil => rfl
  | append_singleton front group ih =>
    obtain ⟨earlier, -, apart⟩ := List.pairwise_append.1 distinct
    have built := ih earlier fun other member => full other (List.mem_append_left _ member)
    rw [List.flatMap_append, List.foldl_append, built, List.flatMap_singleton]
    refine foldl_insertLine_pairs (full group (List.mem_append_right _ List.mem_cons_self)) ?_
    exact fun other member => apart other member group List.mem_cons_self

theorem groups_regrouped (headers : Headers) : headers.regrouped.groups = headers.groups :=
  groups_ofList_pairs (pairwise_groups headers) fun _ => values_ne_nil_of_mem_groups

/-- The values of a name are those of its group. -/
theorem values_eq_of_groups (headers : Headers) (query : Text) :
    headers.values query =
      (headers.groups.filter fun group => Text.sameUpToCase group.name query).flatMap Group.values := by
  rw [(follows_lines headers).group query]
  cases found : headers.lines.find? fun line => Text.sameUpToCase line.name query with
  | none =>
    have nothing : headers.values query = [] := by
      rw [(follows_lines headers).values query, List.filter_eq_nil_iff.2 (List.find?_eq_none.1 found), List.map_nil]
    rw [nothing]
    rfl
  | some line => rw [Option.toList_some, List.map_singleton, List.flatMap_singleton]

theorem answersAlike_of_groups {headers other : Headers} (same : headers.groups = other.groups) :
    AnswersAlike headers other := by
  have values : ∀ query, headers.values query = other.values query := by
    intro query
    rw [values_eq_of_groups, same, ← values_eq_of_groups]
  refine ⟨same, congrArg List.length same, ?_, ?_, values⟩
  · intro query
    rw [Bool.eq_iff_iff, has_eq_true_iff, has_eq_true_iff, values]
  · intro query
    rw [value?_eq_head?, value?_eq_head?, values]

/-- The groups of headers lose nothing: they have different names, each has values, together they have as many as
    there are lines, and written out they are the lines, rearranged so that the values of each name keep their order.
    Headers made of what is written out have the same groups and give the same answers for every name, and
    when they are regrouped in turn their lines stay as they are. -/
theorem grouped_without_loss (headers : Headers) :
    (headers.groups.Pairwise fun first later => Text.sameUpToCase first.name later.name = false) ∧
    (∀ group ∈ headers.groups, group.values ≠ []) ∧
    (headers.groups.flatMap Group.values).length = headers.lines.length ∧
    Rearranges headers.flattened headers.lines ∧
    AnswersAlike headers.regrouped headers ∧
    headers.regrouped.regrouped.lines = headers.regrouped.lines := by
  refine ⟨pairwise_groups headers, fun _ => values_ne_nil_of_mem_groups, ?_, flattened_rearranges headers,
    answersAlike_of_groups (groups_regrouped headers), ?_⟩
  · obtain ⟨moved, spelled, reordered, -⟩ := flattened_rearranges headers
    rw [← reordered.length_eq, ← spelled.length_eq, flattened, List.length_flatMap, List.length_flatMap]
    simp only [Group.pairs, List.length_map]
  · have same : headers.regrouped.flattened = headers.flattened := by
      rw [flattened, groups_regrouped, flattened]
    rw [regrouped, same, regrouped]

/-- A name that is spelled in three ways around another name. -/
theorem respelled_lines_regrouped :
    let headers : Headers := ⟨[⟨"X-Foo".toList, ['1']⟩, ⟨"Age".toList, ['0']⟩, ⟨"x-foo".toList, ['2']⟩,
      ⟨"X-FOO".toList, ['1']⟩]⟩
    let group : Group := ⟨"X-Foo".toList, [['1'], ['2'], ['1']]⟩
    group ∈ headers.groups ∧ group.values ≠ [] ∧
      headers.regrouped.lines = [⟨"X-Foo".toList, ['1']⟩, ⟨"X-Foo".toList, ['2']⟩, ⟨"X-Foo".toList, ['1']⟩,
        ⟨"Age".toList, ['0']⟩] ∧
      headers.regrouped.values "x-FOO".toList = [['1'], ['2'], ['1']] ∧
      headers.regrouped.regrouped.lines = headers.regrouped.lines := by
  intro headers group
  have member : group ∈ headers.groups := by decide +kernel
  obtain ⟨-, full, -, -, alike, still⟩ := grouped_without_loss headers
  exact ⟨member, full group member, by decide +kernel, (alike.values _).trans (by decide +kernel), still⟩

end HttpReply.Headers
