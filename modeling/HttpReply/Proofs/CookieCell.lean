import HttpReply.Proofs.TextCell

/-!
# The cookies that are kept

A response reads its cookies at most once with success. Only a question for the cookies fills
their cell, with what the headers say, so every such question gets what reading them afresh
would give.
-/
namespace HttpReply.Response

variable {tables : EastAsian.Tables}

/-- The cookies read afresh, whatever has been kept. -/
def freshCookies (r : Response) : Except Error (List Cookie) := r.getHeaders.bind Cookie.parseAll

theorem cookieList_of_none {r : Response} (empty : r.cookies = none) :
    r.cookieList.answer = r.freshCookies ∧ r.cookieList.events = Cookie.events r.freshCookies ∧
      r.cookieList.after = { r with cookies := r.freshCookies.toOption } := by
  have same : { r with cookies := none } = r := by
    rw [← empty]
  unfold cookieList freshCookies
  cases r.getHeaders with
  | error e => exact ⟨rfl, rfl, same.symm⟩
  | ok headers =>
    simp only [empty, readCookies]
    exact ⟨rfl, rfl, rfl⟩

theorem after_cookieList_of_some {r : Response} {cookies : List Cookie} (kept : r.cookies = some cookies) :
    r.cookieList.after = r ∧ r.cookieList.events = [] := by
  unfold cookieList
  cases r.getHeaders with
  | error e => exact ⟨rfl, rfl⟩
  | ok headers =>
    simp only [kept]
    exact ⟨rfl, rfl⟩

/-- Cookies that are kept and are those of the headers answer as the headers do. -/
theorem answer_cookieList_of_some {r : Response} {cookies : List Cookie} (kept : r.cookies = some cookies)
    (fresh : r.freshCookies = .ok cookies) : r.cookieList.answer = .ok cookies := by
  unfold freshCookies at fresh
  unfold cookieList
  cases received : r.getHeaders with
  | error e =>
    rw [received] at fresh
    cases fresh
  | ok headers => simp only [kept, known]

theorem cookies_bodyText (r : Response) (requested : Option Text) :
    (r.bodyText tables requested).after.cookies = r.cookies := by
  cases kept : r.text with
  | none => rw [(bodyText_of_none kept requested).2]
  | some text => rw [after_bodyText_of_some kept requested]

theorem cookies_ask_of_other (r : Response) {call : Call} (other : call ≠ .cookies) :
    (r.ask tables call).after.cookies = r.cookies := by
  cases call with
  | cookies => exact absurd rfl other
  | body requested => exact cookies_bodyText r requested
  | excerpt requested limit => exact cookies_bodyText r requested
  | bodyStream => exact congrArg cookies (after_bodyStream r)
  | _ => rfl

theorem cookies_ask (r : Response) (call : Call) :
    (r.ask tables call).after.cookies =
      r.cookies.or (if call = .cookies then r.freshCookies.toOption else none) := by
  by_cases asks : call = .cookies
  · subst asks
    rw [if_pos rfl]
    show r.cookieList.after.cookies = _
    cases kept : r.cookies with
    | none => rw [(cookieList_of_none kept).2.2, Option.none_or]
    | some cookies => rw [(after_cookieList_of_some kept).1, kept, Option.some_or]
  · rw [cookies_ask_of_other r asks, if_neg asks, Option.or_none]

theorem freshCookies_askAll (r : Response) (calls : List Call) :
    (r.askAll tables calls).2.freshCookies = r.freshCookies :=
  (congrArg freshCookies (asReceived_askAll r calls) :)

/-- The cookies after a run: those kept before, or else those that a question of the run reads. -/
theorem cookies_askAll (r : Response) (calls : List Call) :
    (r.askAll tables calls).2.cookies =
      r.cookies.or (if .cookies ∈ calls then r.freshCookies.toOption else none) := by
  induction calls generalizing r with
  | nil => exact Option.or_none.symm
  | cons call rest ih =>
    have same : (r.ask tables call).after.freshCookies = r.freshCookies := freshCookies_askAll r [call]
    show ((r.ask tables call).after.askAll tables rest).2.cookies = _
    rw [ih, cookies_ask, same, Option.or_assoc]
    by_cases asks : call = .cookies
    · subst asks
      rw [if_pos rfl, if_pos List.mem_cons_self]
      split <;> cases r.freshCookies.toOption <;> rfl
    · simp only [if_neg asks, Option.none_or, List.mem_cons, Ne.symm asks, false_or]

/-- Cookies that a run keeps are those of the headers. -/
theorem freshCookies_of_kept {r : Response} (empty : r.cookies = none) {calls : List Call} {cookies : List Cookie}
    (kept : (r.askAll tables calls).2.cookies = some cookies) : r.freshCookies = .ok cookies := by
  rw [cookies_askAll, empty, Option.none_or] at kept
  by_cases asked : .cookies ∈ calls
  · rw [if_pos asked] at kept
    cases fresh : r.freshCookies with
    | error e => rw [fresh] at kept; cases kept
    | ok others => rw [fresh] at kept; cases kept; rfl
  · rw [if_neg asked] at kept
    cases kept

/-- After any run the cookies are those that reading them afresh gives. -/
theorem answer_cookieList_askAll {r : Response} (empty : r.cookies = none) (calls : List Call) :
    (r.askAll tables calls).2.cookieList.answer = r.freshCookies := by
  have fresh : (r.askAll tables calls).2.freshCookies = r.freshCookies := freshCookies_askAll r calls
  cases kept : (r.askAll tables calls).2.cookies with
  | none => rw [(cookieList_of_none kept).1, fresh]
  | some cookies =>
    have ours := freshCookies_of_kept empty kept
    rw [answer_cookieList_of_some kept (fresh.trans ours), ours]

end HttpReply.Response
