import HttpReply.Text.Basic

/-!
# Headers

The headers of a response are lines of a name and a value, in the order in which they
were received. Names are the same up to the case of ASCII letters; a name keeps every
value that it was given.
-/
namespace HttpReply

/-- One header line. -/
structure Header where
  name : Text
  value : Text
deriving DecidableEq, Repr

/-- The line belongs to the given name. -/
def Header.isNamed (name : Text) (line : Header) : Bool := Text.sameUpToCase line.name name

/-- The header lines of a response. -/
structure Headers where
  lines : List Header := []
deriving DecidableEq, Repr

namespace Headers

/-- The headers with one more line at the end. -/
def add (headers : Headers) (name value : Text) : Headers := ⟨headers.lines ++ [⟨name, value⟩]⟩

/-- The headers with names and values added one after another. -/
def addAll (headers : Headers) (pairs : List (Text × Text)) : Headers :=
  pairs.foldl (fun headers pair => headers.add pair.1 pair.2) headers

/-- The headers made of names and values. -/
def ofList (pairs : List (Text × Text)) : Headers := addAll {} pairs

/-- Whether any line has the name. -/
def has (headers : Headers) (name : Text) : Bool := headers.lines.any (Header.isNamed name)

/-- The value of the first line that has the name. -/
def value? (headers : Headers) (name : Text) : Option Text :=
  (headers.lines.find? (Header.isNamed name)).map Header.value

/-- The values of all lines that have the name, in order. -/
def values (headers : Headers) (name : Text) : List Text :=
  (headers.lines.filter (Header.isNamed name)).map Header.value

/-- All values of the name in one text, with commas between them. -/
def joined? (headers : Headers) (name : Text) : Option Text :=
  if headers.has name then some ([','].intercalate (headers.values name)) else none

/-- Whether there is no line at all. -/
def isEmpty (headers : Headers) : Bool := headers.lines.isEmpty

/-- A name as it was first spelled, with all its values. -/
structure Group where
  name : Text
  values : List Text
deriving DecidableEq, Repr

/-- The groups with a line's value put into the group of its name, or into a new last one. -/
def insertLine (line : Header) : List Group → List Group
  | [] => [⟨line.name, [line.value]⟩]
  | group :: rest =>
    if Header.isNamed group.name line then ⟨group.name, group.values ++ [line.value]⟩ :: rest
    else group :: insertLine line rest

/-- The values of the headers grouped by name, in the order in which the names first appear. -/
def groups (headers : Headers) : List Group :=
  headers.lines.foldl (fun groups line => insertLine line groups) []

/-- How many names there are, each counted once. -/
def size (headers : Headers) : Nat := headers.groups.length

theorem lines_addAll (headers : Headers) (pairs : List (Text × Text)) :
    (headers.addAll pairs).lines = headers.lines ++ pairs.map fun pair => ⟨pair.1, pair.2⟩ := by
  induction pairs generalizing headers with
  | nil => simp [addAll]
  | cons pair rest ih =>
    rw [addAll, List.foldl_cons, ← addAll, ih]
    simp [add]

theorem values_add (headers : Headers) (name value query : Text) :
    (headers.add name value).values query =
      headers.values query ++ if Text.sameUpToCase name query then [value] else [] := by
  by_cases same : Text.sameUpToCase name query = true <;> simp [values, add, Header.isNamed, same]

theorem groups_add (headers : Headers) (name value : Text) :
    (headers.add name value).groups = insertLine ⟨name, value⟩ headers.groups := by
  simp [groups, add]

/-- The first value is the value of the first line with the name. -/
theorem value?_eq_head? (headers : Headers) (name : Text) :
    headers.value? name = (headers.values name).head? := by
  simp [value?, values, List.head?_filter]

/-- A name is present exactly if it has a value. -/
theorem has_eq_true_iff (headers : Headers) (name : Text) :
    headers.has name = true ↔ headers.values name ≠ [] := by
  simp [has, values]

end Headers

end HttpReply
