import HttpReply.Proofs.CookieFields
import HttpReply.Proofs.WordNumerals

/-!
# The age of a cookie

A Set-Cookie value with one expires field stands and falls with the value of this field. If it spells an integer of
32 bits, the cookie has just this age, however many zeros lead the digits and whatever the other fields are. Any
other value, a blank beside the digits or a number one beyond the range included, is reported as it is written, and
no age comes of it: none that has wrapped around, and not that of a session either.
-/
namespace HttpReply.Cookie

/-- Exactly one of the fields gives an age, and this is the value that it gives. -/
def OnlyAge (fields : List Text) (value : Text) : Prop :=
  ∃ before field after, fields = before ++ field :: after ∧ Gives "expires".toList field value ∧
    ∀ other ∈ before ++ after, ∀ given, ¬ Gives "expires".toList other given

/-- The value of the only age decides how a Set-Cookie value is read. -/
structure DecidedByAge (setCookie value : Text) : Prop where
  read : (∃ cookie, parse setCookie = .ok cookie) ↔ ∃ n, Text.Spells value n ∧ -2147483648 ≤ n ∧ n ≤ 2147483647
  age : ∀ cookie, parse setCookie = .ok cookie → ∀ n, Text.Spells value n ↔ cookie.maxAge.toInt = n
  refused : parse setCookie = .error (.expiresNotInteger value) ↔
    ¬ ∃ n, Text.Spells value n ∧ -2147483648 ≤ n ∧ n ≤ 2147483647
  /-- Words of 32 bits, in which every overflow stops the reading, lead to the same age or to none. -/
  words : (parse setCookie).toOption.map Cookie.maxAge = Text.int32InWords? value

theorem onlyAge_iff {fields : List Text} {value : Text} :
    OnlyAge fields value ↔ (attributes fields).filterMap Attribute.expires? = [value] := by
  have gives := pick_iff expires?_eq_some_iff
  have silent : ∀ field, (Attribute.ofField? field).bind Attribute.expires? = none ↔
      ∀ given, ¬ Gives "expires".toList field given := by
    intro field
    rw [Option.eq_none_iff_forall_ne_some]
    exact forall_congr' fun given => not_congr (gives field given)
  rw [attributes, List.filterMap_filterMap, List.filterMap_eq_cons_iff]
  constructor
  · rintro ⟨before, field, after, rfl, here, others⟩
    refine ⟨before, field, after, rfl, ?_, (gives field value).2 here, ?_⟩
    · exact fun other member => (silent other).2 (others other (List.mem_append_left after member))
    · rw [List.filterMap_eq_nil_iff]
      exact fun other member => (silent other).2 (others other (List.mem_append_right before member))
  · rintro ⟨before, field, after, rfl, earlier, here, later⟩
    refine ⟨before, field, after, rfl, (gives field value).1 here, ?_⟩
    intro other member
    rcases List.mem_append.1 member with inFront | behind
    · exact (silent other).1 (earlier other inFront)
    · exact (silent other).1 (List.filterMap_eq_nil_iff.1 later other behind)

theorem isAge_iff_range {value : Text} : IsAge value ↔ ∃ n, Text.Spells value n ∧ -2147483648 ≤ n ∧ n ≤ 2147483647 := by
  constructor
  · rintro ⟨age, spelled⟩
    have high := age.toInt_lt
    exact ⟨age.toInt, spelled, age.le_toInt, by omega⟩
  · rintro ⟨n, spelled, low, high⟩
    refine ⟨Int32.ofInt n, ?_⟩
    rwa [Int32.toInt_ofInt_of_le low (by omega)]

theorem int32InWords?_eq_none_iff {value : Text} : Text.int32InWords? value = none ↔ ¬ IsAge value := by
  rw [Text.int32InWords?_eq, isAge_iff, Option.eq_none_iff_forall_ne_some, not_exists]

/-- Nothing but the age can be wrong, and an age that is not wrong is set. -/
theorem read_or_refused {setCookie first value : Text} {later : List Text} (split : fields setCookie = first :: later)
    (present : '=' ∈ first) (only : OnlyAge later value) :
    (∃ cookie, parse setCookie = .ok cookie ∧ Text.Spells value cookie.maxAge.toInt) ∨
      parse setCookie = .error (.expiresNotInteger value) ∧ ¬ IsAge value := by
  have given := onlyAge_iff.1 only
  cases result : parse setCookie with
  | ok cookie =>
    have described : Describes first later cookie := (parse_eq_iff split).1 result
    have last : LastGives "expires".toList later (some value) := lastGives_expires_iff.2 (by rw [given]; rfl)
    exact .inl ⟨cookie, rfl, described.maxAge value last⟩
  | error e =>
    have meaning := (parse_eq_iff split).1 result
    cases e with
    | cookieWithoutValue other => exact absurd present meaning.1
    | expiresNotInteger other =>
      obtain ⟨before, after, whole, bad, -⟩ := firstBadAge_iff.1 meaning.2
      have member : other ∈ (attributes later).filterMap Attribute.expires? := by
        rw [whole]
        exact List.mem_filterMap.2 ⟨.expires other, by simp, rfl⟩
      rw [given, List.mem_singleton] at member
      subst member
      exact .inr ⟨rfl, bad⟩
    -- Fields are wrong in no other way.
    | _ => cases meaning

/-- A Set-Cookie value that names a cookie and has one expires field is read exactly if this field holds an
    integer from -2^31 to 2^31 - 1, written as ASCII digits with one sign in front or none. The integer is the age of
    the cookie. Everything else that the field may hold is reported as it is. -/
theorem age_exact_or_refused {setCookie first value : Text} {later : List Text}
    (cut : CutInto setCookie (first :: later)) (present : '=' ∈ first) (only : OnlyAge later value) :
    DecidedByAge setCookie value := by
  rcases read_or_refused (cutInto_iff.1 cut) present only with ⟨cookie, done, spelled⟩ | ⟨failed, bad⟩
  · have inRange := isAge_iff_range.1 ⟨cookie.maxAge, spelled⟩
    refine ⟨iff_of_true ⟨cookie, done⟩ inRange, ?_, iff_of_false (by rw [done]; simp) (not_not.2 inRange), ?_⟩
    · intro other same n
      obtain rfl := Except.ok.inj (done.symm.trans same)
      exact ⟨Text.spells_unique spelled, fun equal => equal ▸ spelled⟩
    · rw [done, Text.int32InWords?_eq]
      exact (Text.int32?_eq_some_iff.2 (Text.integer?_eq_some_iff.2 spelled)).symm
  · have outside := isAge_iff_range.not.1 bad
    have unread : ∀ cookie, parse setCookie ≠ .ok cookie := by simp [failed]
    refine ⟨iff_of_false (not_exists.2 unread) outside, ?_, iff_of_true failed outside, ?_⟩
    · exact fun cookie done => absurd done (unread cookie)
    · rw [failed, int32InWords?_eq_none_iff.2 bad]
      rfl

/-- The lowest age is read, behind zeros and before a second equals sign. A number that would wrap around to the age of
    a session is refused. -/
theorem lowest_age_read_and_wrapping_refused :
    let lowest := " id=a=b; HttpOnly;EXPIRES=-0002147483648=x; Path=/".toList
    let wrapping := "id=a; Secure;\tExpires=4294967295".toList
    (DecidedByAge lowest "-0002147483648".toList ∧ ∃ cookie, parse lowest = .ok cookie ∧ cookie.maxAge = -2147483648) ∧
      DecidedByAge wrapping "4294967295".toList ∧ parse wrapping = .error (.expiresNotInteger "4294967295".toList) := by
  intro lowest wrapping
  have cut : CutInto lowest ["id=a=b".toList, "HttpOnly".toList, "EXPIRES=-0002147483648=x".toList, "Path=/".toList] :=
    cutInto_iff.2 (by decide +kernel)
  have other : CutInto wrapping ["id=a".toList, "Secure".toList, "Expires=4294967295".toList] :=
    cutInto_iff.2 (by decide +kernel)
  have decided : DecidedByAge lowest "-0002147483648".toList :=
    age_exact_or_refused cut (by decide) (onlyAge_iff.2 (by decide +kernel))
  have refused : DecidedByAge wrapping "4294967295".toList :=
    age_exact_or_refused other (by decide) (onlyAge_iff.2 (by decide +kernel))
  have spelled : Text.Spells "-0002147483648".toList (-2147483648) := Text.integer?_eq_some_iff.1 (by decide +kernel)
  have large : Text.Spells "4294967295".toList 4294967295 := Text.integer?_eq_some_iff.1 (by decide +kernel)
  refine ⟨⟨decided, ?_⟩, refused, ?_⟩
  · obtain ⟨cookie, done⟩ := decided.read.2 ⟨_, spelled, by decide, by decide⟩
    have age := (decided.age cookie done _).1 spelled
    exact ⟨cookie, done, Int32.toInt_inj.1 age⟩
  · refine refused.refused.2 ?_
    rintro ⟨n, named, -, high⟩
    have same := Text.spells_unique large named
    omega

end HttpReply.Cookie
