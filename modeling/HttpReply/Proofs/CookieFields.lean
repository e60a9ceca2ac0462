import Mathlib.Data.List.Forall2
import Mathlib.Data.List.Induction
import HttpReply.Proofs.CookieRendering
import HttpReply.Proofs.FirstFailure

/-!
# What the fields of a cookie say

The first field of a Set-Cookie value holds the name and the value of the cookie. Of later fields
that set the same attribute the last counts, wherever it stands, but an expires field that holds no
32-bit integer is an error wherever it stands, and the first of these is reported. Fields of all other
kinds count for nothing.
-/
namespace HttpReply

theorem getLast?_filterMap_eq_some_iff {α β : Type} {f : α → Option β} {l : List α} {b : β} :
    (l.filterMap f).getLast? = some b ↔
      ∃ before a after, l = before ++ a :: after ∧ f a = some b ∧ ∀ later ∈ after, f later = none := by
  rw [List.getLast?_filterMap, List.findSome?_eq_some_iff]
  constructor
  · rintro ⟨after, a, before, backwards, found, last⟩
    refine ⟨before.reverse, a, after.reverse, ?_, found, fun later member => last later (List.mem_reverse.1 member)⟩
    rw [← List.reverse_reverse l, backwards]
    simp
  · rintro ⟨before, a, after, rfl, found, last⟩
    exact ⟨after.reverse, a, before.reverse, by simp, found, fun later member => last later (List.mem_reverse.1 member)⟩

namespace Cookie

/-- The value is a 32-bit integer. -/
def IsAge (value : Text) : Prop := ∃ age : Int32, Text.Spells value age.toInt

/-- The last of the fields that give a value for the word gives this one, or there is none. -/
def LastGives (word : Text) (fields : List Text) : Option Text → Prop
  | some value => ∃ before field after, fields = before ++ field :: after ∧ Gives word field value ∧
      ∀ later ∈ after, ∀ other, ¬ Gives word later other
  | none => ∀ field ∈ fields, ∀ value, ¬ Gives word field value

/-- The value is that of the first expires field whose value is no 32-bit integer. -/
def FirstBadAge (fields : List Text) (value : Text) : Prop :=
  ∃ before field after, fields = before ++ field :: after ∧ Gives "expires".toList field value ∧ ¬ IsAge value ∧
    ∀ earlier ∈ before, ∀ other, Gives "expires".toList earlier other → IsAge other

/-- The cookie is what its first field and the later ones say, and every age among them is an integer. -/
structure Describes (first : Text) (later : List Text) (cookie : Cookie) : Prop where
  pair : Holds first cookie.name cookie.value
  ages : ∀ field ∈ later, ∀ value, Gives "expires".toList field value → IsAge value
  maxAge : ∀ value, LastGives "expires".toList later (some value) → Text.Spells value cookie.maxAge.toInt
  session : LastGives "expires".toList later none → cookie.maxAge = -1
  domain : LastGives "domain".toList later cookie.domain
  path : LastGives "path".toList later cookie.path
  secure : cookie.secure = true ↔ ∃ field ∈ later, Text.sameUpToCase field "secure".toList = true

/-- What a Set-Cookie value with these fields is: a cookie, or one of two errors. -/
def Means (setCookie first : Text) (later : List Text) : Except Error Cookie → Prop
  | .ok cookie => Describes first later cookie
  | .error (.cookieWithoutValue value) => '=' ∉ first ∧ value = setCookie
  | .error (.expiresNotInteger value) => '=' ∈ first ∧ FirstBadAge later value
  | .error _ => False

theorem isAge_iff {value : Text} : IsAge value ↔ ∃ age, Text.int32? value = some age := by
  simp only [IsAge, Text.int32?_eq_some_iff, Text.integer?_eq_some_iff]

/-- Any way to pick values out of the fields finds the last one. -/
theorem lastGives_iff {word : Text} {pick : Text → Option Text}
    (gives : ∀ field value, pick field = some value ↔ Gives word field value) {fields : List Text}
    {value? : Option Text} : LastGives word fields value? ↔ (fields.filterMap pick).getLast? = value? := by
  have silent : ∀ field, pick field = none ↔ ∀ value, ¬ Gives word field value := by
    intro field
    simp only [← gives, Option.eq_none_iff_forall_ne_some, Ne]
  cases value? with
  | some value => simp only [LastGives, getLast?_filterMap_eq_some_iff, gives, silent]
  | none => simp only [LastGives, List.getLast?_eq_none_iff, List.filterMap_eq_nil_iff, silent]

/-! ## Setting what the fields say -/

theorem set_eq_error_iff {cookie : Cookie} {a : Attribute} {e : Error} :
    set cookie a = .error e ↔ ∃ value, a = .expires value ∧ ¬ IsAge value ∧ e = .expiresNotInteger value := by
  cases a with
  | expires value =>
    cases read : Text.int32? value with
    | none => simp [set, isAge_iff, read, eq_comm]
    | some age => simp [set, isAge_iff, read]
  | _ => simp [set]

theorem isAge_of_set {cookie next : Cookie} {value : Text} (done : set cookie (.expires value) = .ok next) :
    IsAge value := by
  by_cases age : IsAge value
  · exact age
  · rw [set_eq_error_iff.2 ⟨value, rfl, age, rfl⟩] at done
    cases done

/-- Attributes cannot be set exactly if an age among them is no integer, and the first such age decides. -/
theorem foldlM_set_eq_error_iff {cookie : Cookie} {attributes : List Attribute} {e : Error} :
    attributes.foldlM set cookie = .error e ↔
      ∃ before value after, attributes = before ++ .expires value :: after ∧ ¬ IsAge value ∧
        (∀ other, .expires other ∈ before → IsAge other) ∧ e = .expiresNotInteger value := by
  constructor
  · intro failed
    -- What has been set before an attribute has no part in whether it can be set.
    induction attributes generalizing cookie with
    | nil => cases failed
    | cons a rest ih =>
      rw [List.foldlM_cons] at failed
      cases step : set cookie a with
      | error cause =>
        rw [step] at failed
        obtain rfl := Except.error.inj failed
        obtain ⟨value, rfl, bad, rfl⟩ := set_eq_error_iff.1 step
        exact ⟨[], value, rest, rfl, bad, (fun other member => nomatch member), rfl⟩
      | ok next =>
        rw [step] at failed
        obtain ⟨before, value, after, rfl, bad, good, rfl⟩ := ih failed
        refine ⟨a :: before, value, after, rfl, bad, ?_, rfl⟩
        intro other member
        rcases List.mem_cons.1 member with rfl | earlier
        · exact isAge_of_set step
        · exact good other earlier
  · rintro ⟨before, value, after, rfl, bad, good, rfl⟩
    have fails : set (settled cookie before) (.expires value) = .error (.expiresNotInteger value) :=
      set_eq_error_iff.2 ⟨value, rfl, bad, rfl⟩
    rw [List.foldlM_append, foldlM_set cookie fun other member => isAge_iff.1 (good other member)]
    show (Attribute.expires value :: after).foldlM set (settled cookie before) = _
    rw [List.foldlM_cons, fails]
    rfl

theorem foldlM_set_eq_ok_iff {cookie last : Cookie} {attributes : List Attribute} :
    attributes.foldlM set cookie = .ok last ↔
      (∀ value, .expires value ∈ attributes → IsAge value) ∧ last = settled cookie attributes := by
  constructor
  · intro done
    have ages : ∀ value, .expires value ∈ attributes → IsAge value := by
      induction attributes generalizing cookie with
      | nil =>
        intro value member
        cases member
      | cons a rest ih =>
        intro value member
        rw [List.foldlM_cons] at done
        cases step : set cookie a with
        | error e =>
          rw [step] at done
          cases done
        | ok next =>
          rw [step] at done
          rcases List.mem_cons.1 member with rfl | later
          · exact isAge_of_set step
          · exact ih done value later
    rw [foldlM_set cookie fun value member => isAge_iff.1 (ages value member)] at done
    exact ⟨ages, (Except.ok.inj done).symm⟩
  · rintro ⟨ages, rfl⟩
    exact foldlM_set cookie fun value member => isAge_iff.1 (ages value member)

/-- The attributes that fields set, in order. -/
def attributes (fields : List Text) : List Attribute := fields.filterMap Attribute.ofField?

def Attribute.expires? : Attribute → Option Text
  | .expires value => some value
  | _ => none

/-- The values of attributes of one kind are those that fields give for its word. -/
theorem pick_iff {kind : Attribute → Option Text} {make : Text → Attribute}
    (made : ∀ a value, kind a = some value ↔ a = make value) (field value : Text) :
    (Attribute.ofField? field).bind kind = some value ↔ (make value).WrittenIn field := by
  simp only [Option.bind_eq_some_iff, made, exists_eq_right, ofField?_eq_some_iff]

theorem lastGives_iff_getLast? {kind : Attribute → Option Text} {word : Text} (make : Text → Attribute)
    (made : ∀ a value, kind a = some value ↔ a = make value)
    (written : ∀ field value, (make value).WrittenIn field ↔ Gives word field value) {fields : List Text}
    {value? : Option Text} :
    LastGives word fields value? ↔ ((attributes fields).filterMap kind).getLast? = value? := by
  rw [attributes, List.filterMap_filterMap]
  exact lastGives_iff fun field value => (pick_iff made field value).trans (written field value)

theorem expires?_eq_some_iff (a : Attribute) (value : Text) : a.expires? = some value ↔ a = .expires value := by
  cases a <;> simp [Attribute.expires?]

theorem lastGives_expires_iff {fields : List Text} {value? : Option Text} :
    LastGives "expires".toList fields value? ↔
      ((attributes fields).filterMap Attribute.expires?).getLast? = value? :=
  lastGives_iff_getLast? .expires expires?_eq_some_iff fun _ _ => .rfl

theorem lastGives_domain_iff {fields : List Text} {value? : Option Text} :
    LastGives "domain".toList fields value? ↔ ((attributes fields).filterMap Attribute.domain?).getLast? = value? :=
  lastGives_iff_getLast? .domain (fun a value => by cases a <;> simp [Attribute.domain?]) fun _ _ => .rfl

theorem lastGives_path_iff {fields : List Text} {value? : Option Text} :
    LastGives "path".toList fields value? ↔ ((attributes fields).filterMap Attribute.path?).getLast? = value? :=
  lastGives_iff_getLast? .path (fun a value => by cases a <;> simp [Attribute.path?]) fun _ _ => .rfl

theorem mem_attributes {fields : List Text} {a : Attribute} :
    a ∈ attributes fields ↔ ∃ field ∈ fields, a.WrittenIn field := by
  simp only [attributes, List.mem_filterMap, ofField?_eq_some_iff]

theorem ages_iff {fields : List Text} :
    (∀ value, .expires value ∈ attributes fields → IsAge value) ↔
      ∀ field ∈ fields, ∀ value, Gives "expires".toList field value → IsAge value := by
  simp only [mem_attributes, Attribute.WrittenIn]
  constructor
  · exact fun ages field member value gives => ages value ⟨field, member, gives⟩
  · rintro ages value ⟨field, member, gives⟩
    exact ages field member value gives

/-- Among ages that are all integers, the last one counts as the number that it is. -/
theorem getLast?_age {given : List Attribute} (ages : ∀ value, .expires value ∈ given → IsAge value) :
    (given.filterMap Attribute.age?).getLast? = (given.filterMap Attribute.expires?).getLast?.bind Text.int32? := by
  -- From the back, since only the last attribute can be the last age.
  induction given using List.reverseRecOn with
  | nil => rfl
  | append_singleton before a ih =>
    have earlier := ih fun value member => ages value (List.mem_append_left _ member)
    cases a with
    | expires value =>
      obtain ⟨age, read⟩ := isAge_iff.1 (ages value (List.mem_append_right _ List.mem_cons_self))
      simp [Attribute.age?, Attribute.expires?, read]
    | _ => simpa [Attribute.age?, Attribute.expires?] using earlier

/-! ## What a text is read as -/

theorem eq_settled_iff {cookie : Cookie} {given : List Attribute} :
    cookie = settled (plain cookie.name cookie.value) given ↔
      (given.filterMap Attribute.age?).getLast?.getD sessionAge = cookie.maxAge ∧
        (given.filterMap Attribute.domain?).getLast? = cookie.domain ∧
        (given.filterMap Attribute.path?).getLast? = cookie.path ∧ given.contains .secure = cookie.secure := by
  obtain ⟨name, value, domain, path, maxAge, secure⟩ := cookie
  simp only [settled, plain, Option.or_none, Bool.false_or, Cookie.mk.injEq, true_and]
  grind

/-- What is said of the age is what is set: the last number, or the age of a session. -/
theorem age_iff {later : List Text} (ages : ∀ value, .expires value ∈ attributes later → IsAge value) {age : Int32} :
    ((attributes later).filterMap Attribute.age?).getLast?.getD sessionAge = age ↔
      (∀ value, LastGives "expires".toList later (some value) → Text.Spells value age.toInt) ∧
        (LastGives "expires".toList later none → age = -1) := by
  simp only [getLast?_age ages, lastGives_expires_iff]
  cases last : ((attributes later).filterMap Attribute.expires?).getLast? with
  | none => simp [sessionAge, eq_comm]
  | some value =>
    obtain ⟨a, member, read⟩ := List.mem_filterMap.1 (List.mem_of_getLast? last)
    obtain rfl : a = .expires value := (expires?_eq_some_iff a value).1 read
    obtain ⟨number, spelled⟩ := isAge_iff.1 (ages value member)
    have same : Text.Spells value age.toInt ↔ number = age := by
      rw [← Text.integer?_eq_some_iff, ← Text.int32?_eq_some_iff, spelled, Option.some.injEq]
    simp [spelled, same]

theorem describes_iff {first : Text} {later : List Text} {cookie : Cookie} :
    Describes first later cookie ↔
      Holds first cookie.name cookie.value ∧ (∀ value, .expires value ∈ attributes later → IsAge value) ∧
        cookie = settled (plain cookie.name cookie.value) (attributes later) := by
  have secure : (attributes later).contains .secure = cookie.secure ↔
      (cookie.secure = true ↔ ∃ field ∈ later, Text.sameUpToCase field "secure".toList = true) := by
    rw [eq_comm, Bool.eq_iff_iff, List.contains_iff_mem, mem_attributes]
    rfl
  rw [eq_settled_iff, secure, ← lastGives_domain_iff, ← lastGives_path_iff]
  constructor
  · rintro ⟨pair, each, maxAge, session, domain, path, secure⟩
    have ages := ages_iff.2 each
    exact ⟨pair, ages, (age_iff ages).2 ⟨maxAge, session⟩, domain, path, secure⟩
  · rintro ⟨pair, ages, age, domain, path, secure⟩
    obtain ⟨maxAge, session⟩ := (age_iff ages).1 age
    exact ⟨pair, ages_iff.1 ages, maxAge, session, domain, path, secure⟩

theorem firstBadAge_iff {later : List Text} {value : Text} :
    FirstBadAge later value ↔
      ∃ before after, attributes later = before ++ .expires value :: after ∧ ¬ IsAge value ∧
        ∀ other, .expires other ∈ before → IsAge other := by
  constructor
  · rintro ⟨before, field, after, rfl, gives, bad, good⟩
    refine ⟨attributes before, attributes after, ?_, bad, ages_iff.2 good⟩
    have set : Attribute.ofField? field = some (.expires value) := ofField?_eq_some_iff.2 gives
    simp only [attributes, List.filterMap_append, List.filterMap_cons_some set]
  · rintro ⟨given, others, split, bad, good⟩
    obtain ⟨front, back, rfl, rfl, rest⟩ := List.filterMap_eq_append_iff.1 split
    obtain ⟨silent, field, after, rfl, unset, set, -⟩ := List.filterMap_eq_cons_iff.1 rest
    refine ⟨front ++ silent, field, after, by simp, ofField?_eq_some_iff.1 set, bad, ?_⟩
    intro earlier member other gives
    rcases List.mem_append.1 member with inFront | inSilent
    · exact ages_iff.1 good earlier inFront other gives
    · have set := ofField?_eq_some_iff.2 (show Attribute.WrittenIn earlier (.expires other) from gives)
      rw [unset earlier inSilent] at set
      cases set

section

variable {setCookie first : Text} {later : List Text} (split : fields setCookie = first :: later)

include split

theorem parse_of_not_mem (absent : '=' ∉ first) : parse setCookie = .error (.cookieWithoutValue setCookie) := by
  simp only [parse, split, List.head?_cons, Option.bind_some, nameAndValue?_eq_none_iff.2 absent]

theorem parse_of_holds {name value : Text} (holds : Holds first name value) :
    parse setCookie = (attributes later).foldlM set (plain name value) := by
  simp only [parse, split, List.head?_cons, Option.bind_some, nameAndValue?_eq_some_iff.2 holds, List.tail_cons]
  rfl

theorem parse_eq_iff {result : Except Error Cookie} :
    parse setCookie = result ↔ Means setCookie first later result := by
  cases pair : nameAndValue? first with
  | none =>
    have absent := nameAndValue?_eq_none_iff.1 pair
    rw [parse_of_not_mem split absent]
    cases result with
    | ok cookie =>
      have other : ¬ Describes first later cookie := fun described => absent (mem_of_holds described.pair)
      simp [Means, other]
    | error e =>
      cases e with
      | cookieWithoutValue value => simp [Means, absent, eq_comm]
      | _ => simp [Means, absent]
  | some parts =>
    have holds : Holds first parts.1 parts.2 := nameAndValue?_eq_some_iff.1 pair
    have present := mem_of_holds holds
    rw [parse_of_holds split holds]
    cases result with
    | ok cookie =>
      rw [foldlM_set_eq_ok_iff]
      show _ ↔ Describes first later cookie
      rw [describes_iff, ← nameAndValue?_eq_some_iff, pair]
      constructor
      · rintro ⟨ages, rfl⟩
        exact ⟨rfl, ages, rfl⟩
      · rintro ⟨same, ages, all⟩
        obtain rfl := Option.some.inj same
        exact ⟨ages, all⟩
    | error e =>
      rw [foldlM_set_eq_error_iff]
      cases e with
      | cookieWithoutValue value => simp [Means, present]
      | expiresNotInteger value => simp [Means, present, firstBadAge_iff]
      | _ => simp [Means]

end

theorem exists_fields (setCookie : Text) : ∃ first later, fields setCookie = first :: later := by
  cases cut : fields setCookie with
  | nil => exact absurd (List.map_eq_nil_iff.1 cut) (List.splitOn_ne_nil _ _)
  | cons first later => exact ⟨first, later, rfl⟩

/-- The field is the piece without the blanks before it. -/
def Stands (piece field : Text) : Prop :=
  ∃ blanks, blanks.all Text.isBlank = true ∧ piece = blanks ++ field ∧
    ∀ c rest, field = c :: rest → Text.isBlank c = false

/-- The fields are the pieces of the text between its semicolons, each without the blanks before it. -/
def CutInto (text : Text) (fields : List Text) : Prop :=
  ∃ pieces, pieces ≠ [] ∧ (∀ piece ∈ pieces, ';' ∉ piece) ∧ text = [';'].intercalate pieces ∧
    List.Forall₂ Stands pieces fields

theorem stands_iff {piece field : Text} : Stands piece field ↔ Text.trimStart piece = field := by
  constructor
  · rintro ⟨blanks, all, rfl, start⟩
    rw [Text.trimStart_append all, Text.trimStart_of_start start]
  · rintro rfl
    exact ⟨piece.takeWhile Text.isBlank, List.all_takeWhile, List.takeWhile_append_dropWhile.symm, fun c rest =>
      Text.start_of_trimStart⟩

theorem cutInto_iff {text : Text} {pieces : List Text} : CutInto text pieces ↔ fields text = pieces := by
  have stands : ∀ raw, List.Forall₂ Stands raw pieces ↔ raw.map Text.trimStart = pieces :=
    fun raw => forall₂_iff_map_eq @stands_iff
  constructor
  · rintro ⟨raw, some, whole, rfl, each⟩
    rw [fields, List.splitOn_intercalate ';' whole some, (stands raw).1 each]
  · intro cut
    refine ⟨text.splitOn ';', List.splitOn_ne_nil _ _, ?_, (List.intercalate_splitOn ';').symm, (stands _).2 cut⟩
    intro piece inside semicolon
    exact (Text.mem_of_mem_splitOn inside semicolon).2 rfl

/-- A Set-Cookie value means what its fields say: which cookie it is, or which of two errors, follows
    from the first field and the last of those that set each attribute. A later field that is written
    for no attribute has no effect. -/
theorem decided_by_fields :
    (∀ setCookie, ∃ first later, CutInto setCookie (first :: later)) ∧
      (∀ setCookie first later, CutInto setCookie (first :: later) → ∀ result,
        parse setCookie = result ↔ Means setCookie first later result) ∧
      ∀ one other first before extra after, CutInto one (first :: (before ++ extra :: after)) →
        CutInto other (first :: (before ++ after)) → '=' ∈ first → (∀ a : Attribute, ¬ a.WrittenIn extra) →
          parse one = parse other := by
  refine ⟨?_, ?_, ?_⟩
  · intro setCookie
    simpa only [cutInto_iff] using exists_fields setCookie
  · intro setCookie first later cut result
    exact parse_eq_iff (cutInto_iff.1 cut)
  · intro one other first before extra after cut cut' present idle
    have silent : Attribute.ofField? extra = none := by
      rw [Option.eq_none_iff_forall_ne_some]
      exact fun a set => idle a (ofField?_eq_some_iff.1 set)
    obtain ⟨⟨name, value⟩, pair⟩ : ∃ parts, nameAndValue? first = some parts := by
      rw [← Option.ne_none_iff_exists']
      exact fun missing => nameAndValue?_eq_none_iff.1 missing present
    have holds := nameAndValue?_eq_some_iff.1 pair
    rw [parse_of_holds (cutInto_iff.1 cut) holds, parse_of_holds (cutInto_iff.1 cut') holds]
    simp only [attributes, List.filterMap_append, List.filterMap_cons_none silent]

theorem first_bad_age_reported :
    parse " id=a=b;expires=7; EXPIRES=soon=x;Secure;=4;expires=late".toList =
        .error (.expiresNotInteger "soon".toList) ∧
      parse "id=a; HttpOnly;path=/".toList = parse "id=a;path=/".toList := by
  obtain ⟨-, meaning, idle⟩ := decided_by_fields
  constructor
  · have seven : IsAge "7".toList := isAge_iff.2 ⟨7, by decide +kernel⟩
    have soon : ¬ IsAge "soon".toList := by
      rw [isAge_iff, show Text.int32? "soon".toList = none by decide +kernel]
      simp
    have bad : FirstBadAge (["expires=7", "EXPIRES=soon=x", "Secure", "=4", "expires=late"].map String.toList)
        "soon".toList :=
      firstBadAge_iff.2 ⟨[.expires "7".toList], [.secure, .expires "late".toList], by decide +kernel, soon,
        fun other member => by
          obtain rfl := Attribute.expires.inj (List.mem_singleton.1 member)
          exact seven⟩
    exact (meaning _ "id=a=b".toList _ (cutInto_iff.2 (by decide +kernel)) _).2 ⟨by decide, bad⟩
  · have silent : Attribute.ofField? "HttpOnly".toList = none := by decide +kernel
    refine idle _ _ "id=a".toList [] "HttpOnly".toList ["path=/".toList] (cutInto_iff.2 (by decide +kernel))
      (cutInto_iff.2 (by decide +kernel)) (by decide) fun a written => ?_
    rw [ofField?_eq_some_iff.2 written] at silent
    cases silent

end Cookie

end HttpReply
