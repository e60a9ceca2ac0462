import Mathlib.Control.Monad.Basic
import Mathlib.Data.List.Forall2

/-!
# Work that stops at the first failure

Tasks that can fail are done one after another. The first of them that fails decides, and if
none does there is one result for each task, in the order of the tasks.
-/
namespace HttpReply

variable {α β ε : Type}

/-- Where each item has one result only, the results of items are those of a function. -/
theorem forall₂_iff_map_eq {HasResult : α → β → Prop} {f : α → β} (only : ∀ item result, HasResult item result ↔ f item = result)
    {items : List α} {results : List β} : List.Forall₂ HasResult items results ↔ items.map f = results := by
  have same : HasResult = fun item result => f item = result := by
    funext item result
    exact propext (only item result)
  rw [same, ← List.forall₂_map_left_iff (R := Eq), List.forall₂_eq_eq_eq]

theorem map_eq_error_iff {f : α → β} {answer : Except ε α} {e : ε} :
    answer.map f = .error e ↔ answer = .error e := by
  cases answer <;> simp [Except.map]

theorem map_eq_ok_iff {f : α → β} {answer : Except ε α} {b : β} :
    answer.map f = .ok b ↔ ∃ a, answer = .ok a ∧ b = f a := by
  cases answer <;> simp [Except.map, eq_comm]

variable {task : α → Except ε β}

theorem mapM_cons_bind (item : α) (rest : List α) :
    (item :: rest).mapM task = (task item).bind fun result => (rest.mapM task).map (result :: ·) := by
  rw [List.mapM_cons]
  cases task item with
  | error e => rfl
  | ok result => cases rest.mapM task <;> rfl

theorem mapM_append_bind (front back : List α) :
    (front ++ back).mapM task =
      (front.mapM task).bind fun results => (back.mapM task).map (results ++ ·) := by
  rw [List.mapM_append]
  cases front.mapM task with
  | error e => rfl
  | ok results => cases back.mapM task <;> rfl

/-- Without a failure each task has its result. -/
theorem mapM_eq_ok_iff {items : List α} {results : List β} :
    items.mapM task = .ok results ↔ List.Forall₂ (fun item result => task item = .ok result) items results := by
  induction items generalizing results with
  | nil => cases results <;> simp [pure, Except.pure]
  | cons item rest ih =>
    rw [mapM_cons_bind]
    cases first : task item with
    | error e => cases results <;> simp [Except.bind, first]
    | ok result =>
      rw [Except.bind, map_eq_ok_iff]
      constructor
      · rintro ⟨others, done, rfl⟩
        exact .cons first (ih.1 done)
      · intro done
        cases done with
        | cons here others =>
          obtain rfl := Except.ok.inj (first.symm.trans here)
          exact ⟨_, ih.2 others, rfl⟩

/-- One of the tasks fails, and none before it does. -/
def FailsFirst (task : α → Except ε β) (items : List α) (e : ε) : Prop :=
  ∃ before item after, items = before ++ item :: after ∧ task item = .error e ∧
    ∀ earlier ∈ before, ∃ result, task earlier = .ok result

theorem failsFirst_cons {item : α} {rest : List α} {e : ε} :
    FailsFirst task (item :: rest) e ↔
      task item = .error e ∨ (∃ result, task item = .ok result) ∧ FailsFirst task rest e := by
  constructor
  · rintro ⟨before, failing, after, split, fails, works⟩
    cases before with
    | nil =>
      obtain ⟨rfl, -⟩ := List.cons.inj split
      exact .inl fails
    | cons first others =>
      obtain ⟨rfl, rest⟩ := List.cons.inj split
      exact .inr ⟨works item List.mem_cons_self, others, failing, after, rest, fails,
        fun earlier member => works earlier (List.mem_cons_of_mem _ member)⟩
  · rintro (fails | ⟨works, before, failing, after, rfl, fails, others⟩)
    · exact ⟨[], item, rest, rfl, fails, fun earlier member => by cases member⟩
    · refine ⟨item :: before, failing, after, rfl, fails, ?_⟩
      intro earlier member
      rcases List.mem_cons.1 member with rfl | member
      · exact works
      · exact others earlier member

/-- Among the items that are picked, a task fails first exactly if none of those before it among all items fails. -/
theorem failsFirst_filter {pick : α → Bool} {items : List α} {e : ε} :
    FailsFirst task (items.filter pick) e ↔
      ∃ before item after, items = before ++ item :: after ∧ pick item = true ∧ task item = .error e ∧
        ∀ earlier ∈ before, pick earlier = true → ∃ result, task earlier = .ok result := by
  constructor
  · rintro ⟨before, item, after, split, fails, works⟩
    obtain ⟨front, back, rfl, rfl, rest⟩ := List.filter_eq_append_iff.1 split
    obtain ⟨skipped, others, rfl, apart, picked, -⟩ := List.filter_eq_cons_iff.1 rest
    refine ⟨front ++ skipped, item, others, by rw [List.append_assoc], picked, fails, ?_⟩
    intro earlier member chosen
    rcases List.mem_append.1 member with inFront | inSkipped
    · exact works earlier (List.mem_filter.2 ⟨inFront, chosen⟩)
    · exact absurd chosen (apart earlier inSkipped)
  · rintro ⟨before, item, after, rfl, picked, fails, works⟩
    refine ⟨before.filter pick, item, after.filter pick, ?_, fails, ?_⟩
    · rw [List.filter_append, List.filter_cons_of_pos picked]
    · intro earlier member
      obtain ⟨inside, chosen⟩ := List.mem_filter.1 member
      exact works earlier inside chosen

/-- The work fails as the first task that fails. -/
theorem mapM_eq_error_iff {items : List α} {e : ε} : items.mapM task = .error e ↔ FailsFirst task items e := by
  induction items with
  | nil =>
    constructor
    · intro failed
      cases failed
    · rintro ⟨before, item, after, split, -⟩
      simp at split
  | cons item rest ih =>
    rw [mapM_cons_bind, failsFirst_cons, ← ih]
    cases first : task item with
    | error cause => simp [Except.bind]
    | ok result => simp [Except.bind, map_eq_error_iff]

end HttpReply
