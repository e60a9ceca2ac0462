import HttpReply.Proofs.BodyStreams
import HttpReply.Proofs.CookieCell
import HttpReply.Proofs.FirstFailure

/-!
# Cookies from header lines

Each Set-Cookie line gives one cookie, in the order of the lines and whatever lines of other names
stand between them. The first of these lines that cannot be read decides. A response answers every
question for its cookies in this way, however often it has tried before.
-/
namespace HttpReply.Cookie

/-- The line is named Set-Cookie, in letters of any case. -/
def setsCookie (line : Header) : Bool := Text.lower line.name == "set-cookie".toList

/-- What the Set-Cookie lines among all lines are read as: a cookie for each of them, or the error of
    the first that cannot be read. -/
def Reading (lines : List Header) : Except Error (List Cookie) → Prop
  | .ok cookies =>
    List.Forall₂ (fun line cookie => parse line.value = .ok cookie) (lines.filter setsCookie) cookies
  | .error e =>
    ∃ before line after, lines = before ++ line :: after ∧ setsCookie line = true ∧ parse line.value = .error e ∧
      ∀ earlier ∈ before, setsCookie earlier = true → ∃ cookie, parse earlier.value = .ok cookie

theorem isNamed_headerName : Header.isNamed headerName = setsCookie := by
  have lower : Text.lower headerName = "set-cookie".toList := by decide
  funext line
  rw [Header.isNamed, Text.sameUpToCase, lower, setsCookie]

theorem parseAll_eq (lines : List Header) :
    parseAll ⟨lines⟩ = (lines.filter setsCookie).mapM fun line => parse line.value := by
  rw [parseAll, Headers.values, isNamed_headerName, List.mapM_map]
  rfl

theorem parseAll_eq_iff {lines : List Header} {result : Except Error (List Cookie)} :
    parseAll ⟨lines⟩ = result ↔ Reading lines result := by
  rw [parseAll_eq]
  cases result with
  | ok cookies => exact mapM_eq_ok_iff
  | error e => exact mapM_eq_error_iff.trans failsFirst_filter

/-- The cookies of further lines come after those of the first lines, unless these fail. -/
theorem parseAll_append (front back : List Header) :
    parseAll ⟨front ++ back⟩ =
      (parseAll ⟨front⟩).bind fun cookies => (parseAll ⟨back⟩).map (cookies ++ ·) := by
  simp only [parseAll_eq, List.filter_append, mapM_append_bind]

/-- Lines of other names can be left out. -/
theorem parseAll_filter (lines : List Header) : parseAll ⟨lines.filter setsCookie⟩ = parseAll ⟨lines⟩ := by
  simp only [parseAll_eq, List.filter_filter, Bool.and_self]

/-- Cookies are read line by line, from all Set-Cookie lines in their order and from no others, and
    the first line that cannot be read decides. In every state that a session can reach, whatever stands in
    the tables, the response answers with exactly what its headers are read as, and it has kept all of these
    cookies if it has been asked for them, and none if it has not or they cannot be read. -/
theorem read_line_by_line :
    (∀ lines result, parseAll ⟨lines⟩ = result ↔ Reading lines result) ∧
    (∀ front back, parseAll ⟨front ++ back⟩ =
      (parseAll ⟨front⟩).bind fun cookies => (parseAll ⟨back⟩).map (cookies ++ ·)) ∧
    (∀ lines, parseAll ⟨lines.filter setsCookie⟩ = parseAll ⟨lines⟩) ∧
    ∀ (tables : EastAsian.Tables) (status : Option Status) (headers : Headers) (chunks : Option (List Chunk))
      (earlier : List Session.Action),
      let reached := (Session.run tables ⟨.received status (some headers) chunks, []⟩ earlier).2.response
      (reached.ask tables .cookies).answer = (parseAll headers).map .cookies ∧
        reached.cookies =
          if .cookies ∈ earlier.filterMap Session.Action.call? then (parseAll headers).toOption else none := by
  refine ⟨fun _ _ => parseAll_eq_iff, parseAll_append, parseAll_filter, ?_⟩
  intro tables status headers chunks earlier
  rw [(Session.asked_run _ earlier).2]
  exact ⟨congrArg (Except.map Answer.cookies) (Response.answer_cookieList_askAll rfl _),
    (Response.cookies_askAll _ _).trans (Option.none_or ..)⟩

/-- A line with a similar name and one of another case stand between, and after a failure nothing is read. -/
example :
    let lines := [⟨"Set-Cookie".toList, "a=1".toList⟩, ⟨"Set-Cookie2".toList, "c".toList⟩,
      ⟨"set-cookie".toList, "b=2; Secure".toList⟩]
    parseAll ⟨lines⟩ = .ok [plain ['a'] ['1'], { plain ['b'] ['2'] with secure := true }] ∧
      parseAll ⟨lines ++ ⟨"Set-Cookie".toList, "d".toList⟩ :: lines⟩ = .error (.cookieWithoutValue ['d']) := by
  decide +kernel

end HttpReply.Cookie
