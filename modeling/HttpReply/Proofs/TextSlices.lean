import HttpReply.ContentType
import HttpReply.Proofs.HeaderGroups
import HttpReply.Response.Basic
import HttpReply.Text.Slice

/-!
# Slices that always exist

A slice of a text or of a list may not exist. Here everything that takes slices is written with
slices that can be missing, and none of them ever is: whatever the text is, the result is
that of the functions that cut it into its parts.
-/
namespace HttpReply

/-- The items from one index up to another, if there are so many. -/
def between? {α : Type} (items : List α) (start stop : Nat) : Option (List α) :=
  if start ≤ stop ∧ stop ≤ items.length then some ((items.take stop).drop start) else none

theorem between?_eq {α : Type} {items : List α} {start stop : Nat} (order : start ≤ stop)
    (within : stop ≤ items.length) : between? items start stop = some ((items.take stop).drop start) :=
  if_pos ⟨order, within⟩

/-- Values that are looked up without fail are those that are looked up. -/
theorem filterMapM_eq_some {α β : Type} {f : α → Option (Option β)} {g : α → Option β} {items : List α}
    (found : ∀ a ∈ items, f a = some (g a)) : items.filterMapM f = some (items.filterMap g) := by
  induction items with
  | nil => rfl
  | cons a rest ih =>
    have others := ih fun b member => found b (List.mem_cons_of_mem a member)
    rw [List.filterMapM_cons, found a List.mem_cons_self, List.filterMap_cons]
    cases g a <;> simp [others]

namespace Text

/-- The text up to the first `mark` and the text from the byte after the mark's offset, if there is a mark. -/
def cutBySlices (mark : Char) (t : Text) : Option (Option (Text × Text)) :=
  match byteOffset? mark t with
  | none => some none
  | some offset => do
    let before ← slice? t 0 offset
    let after ← slice? t (offset + 1) (byteLength t)
    some (some (before, after))

/-- The text up to the offset of character number `limit`, or all of it if there are not so many. -/
def takeBySlice (limit : Nat) (t : Text) : Option Text :=
  match charOffset? limit t with
  | some offset => slice? t 0 offset
  | none => some t

/-- A mark of one byte ends where the next character begins. -/
theorem cutBySlices_eq {mark : Char} (narrow : mark.utf8Size = 1) (t : Text) :
    cutBySlices mark t = some (cut? mark t) := by
  unfold cutBySlices
  cases found : cut? mark t with
  | none =>
    rw [byteOffset?_eq, found]
    rfl
  | some parts =>
    obtain ⟨offset, before, after⟩ := slices_of_cut? found
    rw [narrow] at after
    simp [offset, before, after]

theorem takeBySlice_eq (limit : Nat) (t : Text) : takeBySlice limit t = some (t.take limit) := by
  unfold takeBySlice
  cases offset : charOffset? limit t with
  | some n => exact slice_of_charOffset? offset
  | none =>
    rw [charOffset?_eq] at offset
    by_cases within : limit < t.length
    · simp [within] at offset
    · simp [List.take_of_length_le (by omega : t.length ≤ limit)]

/-- A slice that ended within a character would not exist. -/
example : slice? "Ä1".toList 0 1 = none ∧ takeBySlice 1 "Ä1".toList = some ['Ä'] := by decide

end Text

namespace ContentType

def charsetValueBySlices (parameter : Text) : Option (Option Text) :=
  (Text.cutBySlices '=' (Text.trim parameter)).map fun parts? =>
    parts?.bind fun parts =>
      if Text.sameUpToCase (Text.trimEnd parts.1) charsetName then some (bareValue parts.2) else none

/-- The charset label in a content type, with parameters cut by slices up to the one that decides. -/
def charsetBySlices (contentType : Text) : Option (Option Text) :=
  ((contentType.splitOn ';').findSomeM? charsetValueBySlices).map (·.filter (· != []))

theorem charsetBySlices_eq (contentType : Text) : charsetBySlices contentType = some (charset? contentType) := by
  have value : charsetValueBySlices = fun parameter => pure (charsetValue? parameter) := by
    funext parameter
    rw [charsetValueBySlices, Text.cutBySlices_eq (by decide), charsetValue?]
    cases Text.cut? '=' (Text.trim parameter) <;> rfl
  rw [charsetBySlices, value, List.findSomeM?_pure]
  rfl

end ContentType

namespace Cookie

def nameAndValueBySlices (field : Text) : Option (Option (Text × Text)) :=
  (Text.cutBySlices '=' field).map (·.map fun parts => (parts.1, Text.upTo '=' parts.2))

def Attribute.ofFieldBySlices (field : Text) : Option (Option Attribute) :=
  if Text.sameUpToCase field "secure".toList then some (some .secure)
  else
    (nameAndValueBySlices field).map (·.bind fun parts =>
      if Text.sameUpToCase parts.1 "expires".toList then some (.expires parts.2)
      else if Text.sameUpToCase parts.1 "domain".toList then some (.domain parts.2)
      else if Text.sameUpToCase parts.1 "path".toList then some (.path parts.2)
      else none)

/-- The cookie that a Set-Cookie value asks for, with all fields cut by slices, those after a wrong age included. -/
def parseBySlices (setCookie : Text) : Option (Except Error Cookie) := do
  match ← (fields setCookie).head?.elim (some none) nameAndValueBySlices with
  | none => some (.error (.cookieWithoutValue setCookie))
  | some (name, value) =>
    let attributes ← (fields setCookie).tail.filterMapM Attribute.ofFieldBySlices
    some (attributes.foldlM set (plain name value))

theorem nameAndValueBySlices_eq (field : Text) : nameAndValueBySlices field = some (nameAndValue? field) := by
  rw [nameAndValueBySlices, Text.cutBySlices_eq (by decide), nameAndValue?]
  cases Text.cut? '=' field <;> rfl

theorem ofFieldBySlices_eq (field : Text) : Attribute.ofFieldBySlices field = some (Attribute.ofField? field) := by
  rw [Attribute.ofFieldBySlices, nameAndValueBySlices_eq, Attribute.ofField?]
  by_cases secure : Text.sameUpToCase field "secure".toList = true
  · rw [if_pos secure, if_pos secure]
  · rw [if_neg secure, if_neg secure]
    cases nameAndValue? field <;> rfl

theorem parseBySlices_eq (setCookie : Text) : parseBySlices setCookie = some (parse setCookie) := by
  have first : (fields setCookie).head?.elim (some none) nameAndValueBySlices =
      some ((fields setCookie).head?.bind nameAndValue?) := by
    cases (fields setCookie).head? with
    | none => rfl
    | some field => exact nameAndValueBySlices_eq field
  have later : (fields setCookie).tail.filterMapM Attribute.ofFieldBySlices =
      some ((fields setCookie).tail.filterMap Attribute.ofField?) :=
    filterMapM_eq_some fun field _ => ofFieldBySlices_eq field
  unfold parseBySlices parse
  rw [first, later]
  cases (fields setCookie).head?.bind nameAndValue? <;> rfl

end Cookie

namespace Headers

/-- The group that a line opens if none of the earlier lines has its name. -/
def opened? (headers : Headers) (earlier : List Header) (line : Header) : Option Group :=
  if earlier.any (Header.isNamed line.name) then none else some ⟨line.name, headers.values line.name⟩

/-- The groups of the headers, with a slice of the lines before each line. -/
def groupsBySlices (headers : Headers) : Option (List Group) :=
  headers.lines.zipIdx.filterMapM fun (line, i) =>
    (between? headers.lines 0 i).map fun earlier => headers.opened? earlier line

theorem groupsBySlices_eq (headers : Headers) : headers.groupsBySlices = some headers.groups := by
  have sliced : headers.groupsBySlices =
      some (headers.lines.zipIdx.filterMap fun (line, i) => headers.opened? (headers.lines.take i) line) := by
    apply filterMapM_eq_some
    rintro ⟨line, i⟩ member
    have within : i < headers.lines.length := by simpa using (List.mem_zipIdx member).2.1
    simp [between?_eq (Nat.zero_le i) (Nat.le_of_lt within)]
  rw [sliced, groups_eq, firstLines, List.map_map, ← List.filterMap_eq_map, List.filterMap_filter]
  congr 2
  funext ⟨line, i⟩
  cases known : (headers.lines.take i).any (Header.isNamed line.name) <;> simp only [opened?, known] <;> rfl

end Headers

namespace Response

variable (tables : EastAsian.Tables)

/-- The excerpt of a body, with a slice of its text. -/
def excerptBySlice (r : Response) (requested : Option Text) (limit : Nat) : Option (Outcome Text) :=
  match r.bodyText tables requested with
  | ⟨.ok text, events, after⟩ => (Text.takeBySlice limit text).map fun front => ⟨.ok front, events, after⟩
  | ⟨.error e, events, after⟩ => some ⟨.error e, events, after⟩

theorem excerptBySlice_eq (r : Response) (requested : Option Text) (limit : Nat) :
    r.excerptBySlice tables requested limit = some (r.excerpt tables requested limit) := by
  unfold excerptBySlice excerpt
  rcases r.bodyText tables requested with ⟨e | text, events, after⟩
  · rfl
  · simp [Text.takeBySlice_eq, Outcome.map, Except.map]

end Response

end HttpReply
