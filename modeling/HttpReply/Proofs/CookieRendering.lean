import HttpReply.Proofs.WrittenAttributes

/-!
# Cookies written and read

A cookie is written as its name and value and a field for each of its attributes, in any
order, in letters of any case, with blanks before the fields and other fields between them.
Every such text is read as the cookie, and whatever is read as a cookie could have been
written so.
-/
namespace HttpReply.Cookie

namespace Attribute

def age? : Attribute → Option Int32
  | expires value => Text.int32? value
  | _ => none

def domain? : Attribute → Option Text
  | domain value => some value
  | _ => none

def path? : Attribute → Option Text
  | path value => some value
  | _ => none

end Attribute

/-- The cookie after attributes that can all be set: of each kind the last one counts. -/
def settled (cookie : Cookie) (attributes : List Attribute) : Cookie where
  name := cookie.name
  value := cookie.value
  domain := (attributes.filterMap Attribute.domain?).getLast?.or cookie.domain
  path := (attributes.filterMap Attribute.path?).getLast?.or cookie.path
  maxAge := (attributes.filterMap Attribute.age?).getLast?.getD cookie.maxAge
  secure := cookie.secure || attributes.contains .secure

theorem getLast?_cons_or {α : Type} (a : α) (l : List α) (o : Option α) :
    (a :: l).getLast?.or o = l.getLast?.or (some a) := by
  rw [List.getLast?_cons]
  cases l.getLast? <;> rfl

/-- Setting one attribute leaves the others to be set. -/
theorem settled_set {cookie next : Cookie} {a : Attribute} (done : set cookie a = .ok next) (rest : List Attribute) :
    settled next rest = settled cookie (a :: rest) := by
  cases a with
  | secure =>
    obtain rfl := Except.ok.inj done
    simp [settled, Attribute.age?, Attribute.domain?, Attribute.path?]
  | expires value =>
    cases read : Text.int32? value with
    | none => simp [set, read] at done
    | some age =>
      simp only [set, read] at done
      obtain rfl := Except.ok.inj done
      simp [settled, Attribute.age?, Attribute.domain?, Attribute.path?, read, List.getLast?_cons]
  | domain value =>
    obtain rfl := Except.ok.inj done
    simp [settled, Attribute.age?, Attribute.domain?, Attribute.path?, getLast?_cons_or]
  | path value =>
    obtain rfl := Except.ok.inj done
    simp [settled, Attribute.age?, Attribute.domain?, Attribute.path?, getLast?_cons_or]

/-- Attributes are all set if every age among them is a 32-bit integer. -/
theorem foldlM_set (cookie : Cookie) {attributes : List Attribute}
    (ages : ∀ value, .expires value ∈ attributes → ∃ age, Text.int32? value = some age) :
    attributes.foldlM set cookie = .ok (settled cookie attributes) := by
  induction attributes generalizing cookie with
  | nil => simp [settled, pure, Except.pure]
  | cons a rest ih =>
    obtain ⟨next, done⟩ : ∃ next, set cookie a = .ok next := by
      cases a with
      | expires value =>
        obtain ⟨age, read⟩ := ages value List.mem_cons_self
        exact ⟨{ cookie with maxAge := age }, by simp only [set, read]⟩
      | _ => exact ⟨_, rfl⟩
    rw [List.foldlM_cons, done, ← settled_set done rest]
    exact ih next fun value member => ages value (List.mem_cons_of_mem _ member)

/-! ## Written forms -/

/-- The text holds none of the marks that separate the parts of a cookie. -/
def Clean (t : Text) : Prop := '=' ∉ t ∧ ';' ∉ t
deriving Decidable

/-- A cookie that can be written: its texts hold no marks, and its name does not begin with a blank. -/
structure WellFormed (cookie : Cookie) : Prop where
  name : Clean cookie.name
  start : ∀ c rest, cookie.name = c :: rest → Text.isBlank c = false
  value : Clean cookie.value
  domain : ∀ domain, cookie.domain = some domain → Clean domain
  path : ∀ path, cookie.path = some path → Clean path

namespace Attribute

/-- The word that names an attribute. -/
def word : Attribute → Text
  | secure => "secure".toList
  | expires _ => "expires".toList
  | domain _ => "domain".toList
  | path _ => "path".toList

/-- What follows the word: nothing, or an equals sign and a value. -/
def tail : Attribute → Text
  | secure => []
  | expires value => '=' :: value
  | domain value => '=' :: value
  | path value => '=' :: value

/-- The field is the attribute with its word in letters of any case, after any blanks. -/
def Spelled (a : Attribute) (field : Text) : Prop :=
  ∃ blanks word, blanks.all Text.isBlank = true ∧ Text.sameUpToCase word a.word = true ∧
    field = blanks ++ word ++ a.tail

end Attribute

/-- A field that sets nothing: after its blanks it is not the word secure, and no other attribute's
    word stands before its first equals sign. An empty field and a field of blanks are such. -/
def Extra (field : Text) : Prop :=
  ';' ∉ field ∧ Text.sameUpToCase (Text.trimStart field) "secure".toList = false ∧
    ∀ name value, Text.trimStart field = name ++ '=' :: value → '=' ∉ name →
      Text.sameUpToCase name "expires".toList = false ∧ Text.sameUpToCase name "domain".toList = false ∧
        Text.sameUpToCase name "path".toList = false

/-- Fields that spell the attributes in order, with extra fields anywhere between them. -/
inductive Fields : List Attribute → List Text → Prop
  | done : Fields [] []
  | next {a : Attribute} {field : Text} {attributes : List Attribute} {fields : List Text} :
      a.Spelled field → Fields attributes fields → Fields (a :: attributes) (field :: fields)
  | extra {field : Text} {attributes : List Attribute} {fields : List Text} :
      Extra field → Fields attributes fields → Fields attributes (field :: fields)

/-- The attributes of a cookie apart from its age. -/
def marks (cookie : Cookie) : List Attribute :=
  cookie.domain.toList.map .domain ++ cookie.path.toList.map .path ++ if cookie.secure then [.secure] else []

/-- The attribute that says how long a cookie lasts. -/
def age (cookie : Cookie) : Attribute := .expires (Text.signed cookie.maxAge.toInt)

/-- The attributes are those of the cookie in some order. The age of a session may be left out. -/
def Lists (cookie : Cookie) (attributes : List Attribute) : Prop :=
  attributes.Perm (cookie.age :: cookie.marks) ∨ cookie.maxAge = sessionAge ∧ attributes.Perm cookie.marks

/-- The text is a written form of the cookie: its name and value after any blanks, and then a field
    for each attribute in any order, among extra fields. -/
def Renders (cookie : Cookie) (text : Text) : Prop :=
  ∃ blanks attributes fields, blanks.all Text.isBlank = true ∧ cookie.Lists attributes ∧
    Fields attributes fields ∧
    text = [';'].intercalate ((blanks ++ cookie.name ++ '=' :: cookie.value) :: fields)

/-- One written form: no blanks, the age first and then what else there is. -/
def render (cookie : Cookie) : Text :=
  [';'].intercalate ((cookie.name ++ '=' :: cookie.value) ::
    (cookie.age :: cookie.marks).map fun a => a.word ++ a.tail)

theorem word_mem (a : Attribute) :
    a.word ∈ ["secure".toList, "expires".toList, "domain".toList, "path".toList] := by
  cases a with
  | secure => exact .head _
  | expires _ => exact .tail _ (.head _)
  | domain _ => exact .tail _ (.tail _ (.head _))
  | path _ => exact .tail _ (.tail _ (.tail _ (.head _)))

theorem word_letters (a : Attribute) :
    Text.lower a.word ≠ [] ∧ ∀ c ∈ Text.lower a.word, Text.isBlank c = false ∧ c ≠ '=' ∧ c ≠ ';' := by
  have letters : ∀ word ∈ ["secure".toList, "expires".toList, "domain".toList, "path".toList],
      Text.lower word ≠ [] ∧
        (Text.lower word).all (fun c => !Text.isBlank c && c != '=' && c != ';') = true := by
    decide
  obtain ⟨present, all⟩ := letters a.word (word_mem a)
  refine ⟨present, fun c member => ?_⟩
  have letter := List.all_eq_true.1 all c member
  simpa [and_assoc] using letter

/-- A word in letters of any case holds no blank and no mark. -/
theorem not_mem_of_word {a : Attribute} {word : Text} (same : Text.sameUpToCase word a.word = true) :
    (∀ c ∈ word, Text.isBlank c = false) ∧ Clean word := by
  apply Text.separators_of_sameUpToCase same
  rw [List.any_eq_false]
  intro c member
  simp [(word_letters a).2 c member]

theorem ne_nil_of_word {a : Attribute} {word : Text} (same : Text.sameUpToCase word a.word = true) : word ≠ [] := by
  rintro rfl
  exact (word_letters a).1 (Text.sameUpToCase_iff.1 same).symm

theorem semicolon_not_mem_blanks {blanks : Text} (all : blanks.all Text.isBlank = true) : ';' ∉ blanks :=
  Text.not_mem_of_all (by decide) all

/-- The blanks before a field's word are all that is taken off it. -/
theorem trimStart_spelled {a : Attribute} {blanks word : Text} (all : blanks.all Text.isBlank = true)
    (same : Text.sameUpToCase word a.word = true) : Text.trimStart (blanks ++ word ++ a.tail) = word ++ a.tail := by
  rw [List.append_assoc, Text.trimStart_append all]
  apply Text.trimStart_of_start
  intro c rest start
  cases word with
  | nil => exact absurd rfl (ne_nil_of_word same)
  | cons d others =>
    obtain ⟨rfl, -⟩ := List.cons.inj start
    exact (not_mem_of_word same).1 d List.mem_cons_self

/-- The value of an attribute holds no marks. -/
def Attribute.Clean (a : Attribute) : Prop := ∀ value, a.tail = '=' :: value → Cookie.Clean value

/-- A field that spells an attribute is read as that attribute. -/
theorem ofField?_spelled {a : Attribute} (clean : a.Clean) {field : Text} (spelled : a.Spelled field) :
    Attribute.ofField? (Text.trimStart field) = some a := by
  obtain ⟨blanks, word, all, same, rfl⟩ := spelled
  rw [trimStart_spelled all same, ofField?_eq_some_iff]
  have free := (not_mem_of_word same).2.1
  have present := ne_nil_of_word same
  cases a with
  | secure =>
    rw [Attribute.tail, List.append_nil]
    exact same
  | expires value => exact ⟨word, present, same, holds_pair free (clean value rfl).1⟩
  | domain value => exact ⟨word, present, same, holds_pair free (clean value rfl).1⟩
  | path value => exact ⟨word, present, same, holds_pair free (clean value rfl).1⟩

/-- The extra fields are exactly the fields that set nothing. -/
theorem extra_iff {field : Text} :
    Extra field ↔ ';' ∉ field ∧ Attribute.ofField? (Text.trimStart field) = none := by
  unfold Extra
  refine and_congr_right fun _ => ?_
  constructor
  · rintro ⟨notSecure, others⟩
    unfold Attribute.ofField? nameAndValue?
    cases found : Text.cut? '=' (Text.trimStart field) with
    | none => simp only [notSecure, Bool.false_eq_true, if_false]
    | some parts =>
      obtain ⟨whole, clean⟩ := Text.cut?_eq_some_iff.1 found
      obtain ⟨notExpires, notDomain, notPath⟩ := others parts.1 parts.2 whole clean
      simp only [notSecure, notExpires, notDomain, notPath, Bool.false_eq_true, if_false]
  · intro unset
    unfold Attribute.ofField? nameAndValue? at unset
    split at unset
    next => cases unset
    next notSecure =>
      refine ⟨Bool.eq_false_iff.2 notSecure, ?_⟩
      intro name value whole clean
      simp only [Text.cut?_eq_some_iff.2 ⟨whole, clean⟩] at unset
      by_cases expires : Text.sameUpToCase name "expires".toList = true
      · rw [if_pos expires] at unset
        cases unset
      · rw [if_neg expires] at unset
        by_cases domain : Text.sameUpToCase name "domain".toList = true
        · rw [if_pos domain] at unset
          cases unset
        · rw [if_neg domain] at unset
          by_cases path : Text.sameUpToCase name "path".toList = true
          · rw [if_pos path] at unset
            cases unset
          · exact ⟨Bool.eq_false_iff.2 expires, Bool.eq_false_iff.2 domain, Bool.eq_false_iff.2 path⟩

/-! ## What a text is read as -/

/-- Of the fields exactly the attributes are read. -/
theorem filterMap_fields {attributes : List Attribute} {raw : List Text} (fields : Fields attributes raw)
    (clean : ∀ a ∈ attributes, a.Clean) : (raw.map Text.trimStart).filterMap Attribute.ofField? = attributes := by
  induction fields with
  | done => rfl
  | next spelled _ ih =>
    have others := ih fun a member => clean a (List.mem_cons_of_mem _ member)
    rw [List.map_cons, List.filterMap_cons_some (ofField?_spelled (clean _ List.mem_cons_self) spelled), others]
  | extra extra _ ih =>
    rw [List.map_cons, List.filterMap_cons_none (extra_iff.1 extra).2]
    exact ih clean

theorem semicolon_not_mem_spelled {a : Attribute} (clean : a.Clean) {field : Text} (spelled : a.Spelled field) :
    ';' ∉ field := by
  obtain ⟨blanks, word, all, same, rfl⟩ := spelled
  intro member
  rcases List.mem_append.1 member with front | tail
  · rcases List.mem_append.1 front with blank | letter
    · exact semicolon_not_mem_blanks all blank
    · exact (not_mem_of_word same).2.2 letter
  · have outside : ∀ value, a.tail = '=' :: value → ';' ∉ a.tail := by
      intro value whole
      rw [whole, List.mem_cons, not_or]
      exact ⟨by decide, (clean value whole).2⟩
    cases a with
    | secure => cases tail
    | expires value => exact outside value rfl tail
    | domain value => exact outside value rfl tail
    | path value => exact outside value rfl tail

theorem semicolon_not_mem_fields {attributes : List Attribute} {raw : List Text} (fields : Fields attributes raw)
    (clean : ∀ a ∈ attributes, a.Clean) : ∀ field ∈ raw, ';' ∉ field := by
  induction fields with
  | done => simp
  | next spelled _ ih =>
    intro field member
    rcases List.mem_cons.1 member with rfl | later
    · exact semicolon_not_mem_spelled (clean _ List.mem_cons_self) spelled
    · exact ih (fun a inside => clean a (List.mem_cons_of_mem _ inside)) field later
  | extra extra _ ih =>
    intro field member
    rcases List.mem_cons.1 member with rfl | later
    · exact (extra_iff.1 extra).1
    · exact ih clean field later

/-- A text that begins with a name and a value and goes on with fields is read field by field. -/
theorem parse_fields {blanks name value : Text} (all : blanks.all Text.isBlank = true) (cleanName : Clean name)
    (start : ∀ c rest, name = c :: rest → Text.isBlank c = false) (cleanValue : Clean value)
    {attributes : List Attribute} {raw : List Text} (written : Fields attributes raw)
    (clean : ∀ a ∈ attributes, a.Clean) :
    parse ([';'].intercalate ((blanks ++ name ++ '=' :: value) :: raw)) =
      attributes.foldlM set (plain name value) := by
  have whole : ∀ piece ∈ (blanks ++ name ++ '=' :: value) :: raw, ';' ∉ piece := by
    intro piece member
    rcases List.mem_cons.1 member with rfl | later
    · simp only [List.mem_append, List.mem_cons, not_or]
      exact ⟨⟨semicolon_not_mem_blanks all, cleanName.2⟩, by decide, cleanValue.2⟩
    · exact semicolon_not_mem_fields written clean piece later
  have begins : ∀ c rest, name ++ '=' :: value = c :: rest → Text.isBlank c = false := by
    intro c rest same
    cases name with
    | nil =>
      obtain ⟨rfl, -⟩ := List.cons.inj same
      decide
    | cons d others =>
      obtain ⟨rfl, -⟩ := List.cons.inj same
      exact start d others rfl
  have first : Text.trimStart (blanks ++ name ++ '=' :: value) = name ++ '=' :: value := by
    rw [List.append_assoc, Text.trimStart_append all, Text.trimStart_of_start begins]
  have pieces : fields ([';'].intercalate ((blanks ++ name ++ '=' :: value) :: raw)) =
      (name ++ '=' :: value) :: raw.map Text.trimStart := by
    rw [fields, List.splitOn_intercalate ';' whole (List.cons_ne_nil _ _), List.map_cons, first]
  have pair := nameAndValue?_eq_some_iff.2 (holds_pair cleanName.1 cleanValue.1)
  rw [parse, pieces, List.head?_cons, Option.bind_some, pair, List.tail_cons, filterMap_fields written clean]

section

variable (cookie : Cookie)

theorem age?_age : cookie.age.age? = some cookie.maxAge :=
  Text.int32?_eq_some_iff.2 (Text.integer?_signed cookie.maxAge.toInt)

theorem age?_marks : cookie.marks.filterMap Attribute.age? = [] := by
  obtain ⟨_, _, domain, path, _, secure⟩ := cookie
  cases domain <;> cases path <;> cases secure <;> rfl

theorem domain?_marks : cookie.marks.filterMap Attribute.domain? = cookie.domain.toList := by
  obtain ⟨_, _, domain, path, _, secure⟩ := cookie
  cases domain <;> cases path <;> cases secure <;> rfl

theorem path?_marks : cookie.marks.filterMap Attribute.path? = cookie.path.toList := by
  obtain ⟨_, _, domain, path, _, secure⟩ := cookie
  cases domain <;> cases path <;> cases secure <;> rfl

theorem contains_marks : cookie.marks.contains .secure = cookie.secure := by
  obtain ⟨_, _, domain, path, _, secure⟩ := cookie
  cases domain <;> cases path <;> cases secure <;> rfl

end

section

variable {cookie : Cookie} {attributes : List Attribute}

/-- What is read off the attributes other than an age does not depend on their order. -/
theorem filterMap_of_lists {α : Type} {f : Attribute → Option α} (other : f cookie.age = none)
    (lists : cookie.Lists attributes) {o : Option α} (known : cookie.marks.filterMap f = o.toList) :
    (attributes.filterMap f).getLast?.or none = o := by
  have perm : (attributes.filterMap f).Perm o.toList := by
    rw [← known]
    rcases lists with order | ⟨-, order⟩
    · have mapped := order.filterMap f
      rwa [List.filterMap_cons_none other] at mapped
    · exact order.filterMap f
  cases o with
  | none => rw [List.perm_nil.1 perm]; rfl
  | some a => rw [List.perm_singleton.1 perm]; rfl

theorem age_of_lists (lists : cookie.Lists attributes) :
    (attributes.filterMap Attribute.age?).getLast?.getD sessionAge = cookie.maxAge := by
  rcases lists with order | ⟨session, order⟩
  · have mapped := order.filterMap Attribute.age?
    rw [List.filterMap_cons_some (age?_age cookie), age?_marks, List.perm_singleton] at mapped
    rw [mapped]
    rfl
  · have mapped := order.filterMap Attribute.age?
    rw [age?_marks, List.perm_nil] at mapped
    rw [mapped]
    exact session.symm

theorem contains_of_lists (lists : cookie.Lists attributes) : attributes.contains .secure = cookie.secure := by
  rcases lists with order | ⟨-, order⟩
  · rw [order.contains_eq, List.contains_cons, contains_marks]
    rfl
  · rw [order.contains_eq, contains_marks]

/-- In whatever order the attributes of a cookie are set, they make up the cookie. -/
theorem settled_of_lists (lists : cookie.Lists attributes) :
    settled (plain cookie.name cookie.value) attributes = cookie := by
  have domain := filterMap_of_lists rfl lists (domain?_marks cookie)
  have path := filterMap_of_lists rfl lists (path?_marks cookie)
  simp only [settled, plain, domain, path, age_of_lists lists, contains_of_lists lists, Bool.false_or]

theorem clean_signed (n : Int) : Clean (Text.signed n) := by
  have written : ∀ c ∈ Text.signed n, c.isDigit = true ∨ c = '-' := by
    intro c member
    unfold Text.signed at member
    split at member
    next =>
      rcases List.mem_cons.1 member with rfl | digit
      · exact .inr rfl
      · exact .inl (Text.isDigit_of_mem_decimal digit)
    next => exact .inl (Text.isDigit_of_mem_decimal member)
  refine ⟨fun member => ?_, fun member => ?_⟩
  · exact absurd (written '=' member) (by decide)
  · exact absurd (written ';' member) (by decide)

/-- Every attribute of a cookie is its age, its domain, its path or that it is secure. -/
theorem mem_of_lists (lists : cookie.Lists attributes) {a : Attribute} (member : a ∈ attributes) :
    a = cookie.age ∨ (∃ domain, cookie.domain = some domain ∧ a = .domain domain) ∨
      (∃ path, cookie.path = some path ∧ a = .path path) ∨ a = .secure := by
  have listed : a ∈ cookie.age :: cookie.marks := by
    rcases lists with order | ⟨-, order⟩
    · exact order.mem_iff.1 member
    · exact List.mem_cons_of_mem _ (order.mem_iff.1 member)
  rcases List.mem_cons.1 listed with rfl | mark
  · exact .inl rfl
  · simp only [marks, List.mem_append, List.mem_map, Option.mem_toList] at mark
    rcases mark with (⟨domain, given, rfl⟩ | ⟨path, given, rfl⟩) | flag
    · exact .inr (.inl ⟨domain, given, rfl⟩)
    · exact .inr (.inr (.inl ⟨path, given, rfl⟩))
    · split at flag
      next => exact .inr (.inr (.inr (List.mem_singleton.1 flag)))
      next => cases flag

theorem clean_of_lists (wellFormed : WellFormed cookie) (lists : cookie.Lists attributes) :
    ∀ a ∈ attributes, a.Clean := by
  intro a member
  rcases mem_of_lists lists member with rfl | ⟨domain, given, rfl⟩ | ⟨path, given, rfl⟩ | rfl
  · intro value same
    obtain rfl := (List.cons.inj same).2
    exact clean_signed cookie.maxAge.toInt
  · intro value same
    obtain rfl := (List.cons.inj same).2
    exact wellFormed.domain domain given
  · intro value same
    obtain rfl := (List.cons.inj same).2
    exact wellFormed.path path given
  · intro value same
    cases same

theorem ages_of_lists (lists : cookie.Lists attributes) :
    ∀ value, .expires value ∈ attributes → ∃ age, Text.int32? value = some age := by
  intro value member
  rcases mem_of_lists lists member with same | ⟨_, _, same⟩ | ⟨_, _, same⟩ | same
  · obtain rfl := Attribute.expires.inj same
    exact ⟨cookie.maxAge, age?_age cookie⟩
  all_goals cases same

/-- Every written form of a cookie is read as the cookie. -/
theorem parse_of_renders (wellFormed : WellFormed cookie) {text : Text} (renders : cookie.Renders text) :
    parse text = .ok cookie := by
  obtain ⟨blanks, attributes, raw, all, lists, written, rfl⟩ := renders
  rw [parse_fields all wellFormed.name wellFormed.start wellFormed.value written (clean_of_lists wellFormed lists),
    foldlM_set _ (ages_of_lists lists), settled_of_lists lists]

end

/-! ## What can be read -/

theorem mem_fields {text field : Text} (member : field ∈ fields text) :
    ';' ∉ field ∧ ∀ c rest, field = c :: rest → Text.isBlank c = false := by
  obtain ⟨piece, inside, rfl⟩ := List.mem_map.1 member
  constructor
  · intro semicolon
    have kept : ';' ∈ piece := (List.dropWhile_sublist Text.isBlank).subset semicolon
    exact (Text.mem_of_mem_splitOn inside kept).2 rfl
  · intro c rest start
    exact Text.start_of_trimStart start

/-- A value in a field without a semicolon holds no marks. -/
theorem clean_of_holds {field name value : Text} (whole : ';' ∉ field) (holds : Holds field name value) :
    Clean value := by
  obtain ⟨-, single, rest, rfl, -⟩ := holds
  simp only [List.mem_append, List.mem_cons, not_or] at whole
  exact ⟨single, whole.2.2.1⟩

theorem clean_of_ofField? {field : Text} (whole : ';' ∉ field) {a : Attribute}
    (read : Attribute.ofField? field = some a) : a.Clean := by
  rw [ofField?_eq_some_iff] at read
  intro value tail
  cases a with
  | secure => cases tail
  | _ =>
    obtain ⟨name, -, -, holds⟩ := read
    rw [← (List.cons.inj tail).2]
    exact clean_of_holds whole holds

/-- A well-formed cookie stays so when an attribute without marks is set. -/
theorem wellFormed_set {cookie next : Cookie} (wellFormed : WellFormed cookie) {a : Attribute} (clean : a.Clean)
    (done : set cookie a = .ok next) : WellFormed next := by
  cases a with
  | secure =>
    obtain rfl := Except.ok.inj done
    exact ⟨wellFormed.name, wellFormed.start, wellFormed.value, wellFormed.domain, wellFormed.path⟩
  | expires value =>
    cases read : Text.int32? value with
    | none => simp [set, read] at done
    | some age =>
      simp only [set, read] at done
      obtain rfl := Except.ok.inj done
      exact ⟨wellFormed.name, wellFormed.start, wellFormed.value, wellFormed.domain, wellFormed.path⟩
  | domain value =>
    obtain rfl := Except.ok.inj done
    refine ⟨wellFormed.name, wellFormed.start, wellFormed.value, ?_, wellFormed.path⟩
    intro given same
    obtain rfl := Option.some.inj same
    exact clean value rfl
  | path value =>
    obtain rfl := Except.ok.inj done
    refine ⟨wellFormed.name, wellFormed.start, wellFormed.value, wellFormed.domain, ?_⟩
    intro given same
    obtain rfl := Option.some.inj same
    exact clean value rfl

theorem wellFormed_foldlM {attributes : List Attribute} (clean : ∀ a ∈ attributes, a.Clean) {cookie last : Cookie}
    (wellFormed : WellFormed cookie) (done : attributes.foldlM set cookie = .ok last) : WellFormed last := by
  induction attributes generalizing cookie with
  | nil =>
    obtain rfl := Except.ok.inj done
    exact wellFormed
  | cons a rest ih =>
    rw [List.foldlM_cons] at done
    cases step : set cookie a with
    | error e =>
      rw [step] at done
      cases done
    | ok next =>
      rw [step] at done
      have kept := wellFormed_set wellFormed (clean a List.mem_cons_self) step
      exact ih (fun b member => clean b (List.mem_cons_of_mem _ member)) kept done

/-- Whatever is read as a cookie is a well-formed one. -/
theorem wellFormed_of_parse {text : Text} {cookie : Cookie} (read : parse text = .ok cookie) :
    WellFormed cookie := by
  unfold parse at read
  split at read
  next => cases read
  next name value found =>
    obtain ⟨first, head, pair⟩ := Option.bind_eq_some_iff.1 found
    obtain ⟨whole, start⟩ := mem_fields (List.mem_of_mem_head? head)
    have cleanValue := clean_of_holds whole (nameAndValue?_eq_some_iff.1 pair)
    obtain ⟨single, -, rest, rfl, -⟩ := nameAndValue?_eq_some_iff.1 pair
    have begins : ∀ c others, name = c :: others → Text.isBlank c = false := by
      rintro c others rfl
      exact start c _ rfl
    have cleanName : Clean name := ⟨single, fun semicolon => whole (List.mem_append_left _ semicolon)⟩
    have plainly : WellFormed (plain name value) :=
      ⟨cleanName, begins, cleanValue, (fun _ given => nomatch given), (fun _ given => nomatch given)⟩
    refine wellFormed_foldlM (fun a member => ?_) plainly read
    obtain ⟨field, inside, set⟩ := List.mem_filterMap.1 member
    exact clean_of_ofField? (mem_fields (List.mem_of_mem_tail inside)).1 set

theorem fields_written (attributes : List Attribute) :
    Fields attributes (attributes.map fun a => a.word ++ a.tail) := by
  induction attributes with
  | nil => exact .done
  | cons a rest ih =>
    exact .next ⟨[], a.word, rfl, Text.sameUpToCase_refl a.word, rfl⟩ ih

theorem renders_render (cookie : Cookie) : cookie.Renders cookie.render :=
  ⟨[], cookie.age :: cookie.marks, _, rfl, .inl (.refl _), fields_written _, rfl⟩

/-- Every written form of a well-formed cookie is read as exactly that cookie, whatever is read as a
    cookie is well formed, and every well-formed cookie is read from some text. -/
theorem reads_written_forms :
    (∀ cookie text, WellFormed cookie → Renders cookie text → parse text = .ok cookie) ∧
    (∀ text cookie, parse text = .ok cookie → WellFormed cookie) ∧
    ∀ cookie, (∃ text, parse text = .ok cookie) ↔ WellFormed cookie := by
  refine ⟨fun cookie text wellFormed => parse_of_renders wellFormed, fun text cookie => wellFormed_of_parse, ?_⟩
  intro cookie
  constructor
  · rintro ⟨text, read⟩
    exact wellFormed_of_parse read
  · intro wellFormed
    exact ⟨cookie.render, parse_of_renders wellFormed (renders_render cookie)⟩

theorem reads_shuffled_fields :
    WellFormed ⟨"sid".toList, "31 d4".toList, some "a.example".toList, some " /x".toList, 3600, true⟩ ∧
    parse " sid=31 d4; ;\tPATH= /x;HttpOnly; SeCure;pathology=1;;eXpires=3600; domain=a.example".toList =
      .ok ⟨"sid".toList, "31 d4".toList, some "a.example".toList, some " /x".toList, 3600, true⟩ := by
  have wellFormed :
      WellFormed ⟨"sid".toList, "31 d4".toList, some "a.example".toList, some " /x".toList, 3600, true⟩ := by
    refine ⟨by decide, ?_, by decide, ?_, ?_⟩
    · intro c rest same
      obtain rfl := (List.cons.inj same).1
      decide
    · intro domain same
      obtain rfl := Option.some.inj same
      decide
    · intro path same
      obtain rfl := Option.some.inj same
      decide
  refine ⟨wellFormed, reads_written_forms.1 _ _ wellFormed ?_⟩
  refine ⟨" ".toList, [.path " /x".toList, .secure, .expires "3600".toList, .domain "a.example".toList],
    [" ".toList, "\tPATH= /x".toList, "HttpOnly".toList, " SeCure".toList, "pathology=1".toList, [],
      "eXpires=3600".toList, " domain=a.example".toList], by decide, .inl ?_, ?_, by decide +kernel⟩
  · decide +kernel
  · have blank : Extra " ".toList := extra_iff.2 (by decide +kernel)
    have httpOnly : Extra "HttpOnly".toList := extra_iff.2 (by decide +kernel)
    have pathology : Extra "pathology=1".toList := extra_iff.2 (by decide +kernel)
    have empty : Extra [] := extra_iff.2 (by decide +kernel)
    refine .extra blank (.next ⟨"\t".toList, "PATH".toList, ?_⟩ (.extra httpOnly
      (.next ⟨" ".toList, "SeCure".toList, ?_⟩ (.extra pathology (.extra empty
        (.next ⟨[], "eXpires".toList, ?_⟩ (.next ⟨" ".toList, "domain".toList, ?_⟩ .done)))))))
    all_goals decide +kernel

end HttpReply.Cookie
