import HttpReply.Response.Session

/-!
# Runs

A machine takes one step for each input: it gives an output and goes into its next state.
Questions to a response, requests to streams and the steps of a session are such machines.
What one step keeps, a whole run keeps; and a part of a machine that only some inputs
concern can be run by itself, on those inputs alone.
-/
namespace HttpReply

namespace Machine

variable {σ τ ι κ ω υ : Type}

/-- The outputs for inputs that come one after another, and the state after them. -/
def run (step : σ → ι → ω × σ) (state : σ) : List ι → List ω × σ
  | [] => ([], state)
  | input :: rest =>
    let (output, next) := step state input
    let (outputs, last) := run step next rest
    (output :: outputs, last)

theorem run_cons (step : σ → ι → ω × σ) (state : σ) (input : ι) (rest : List ι) :
    run step state (input :: rest) =
      ((step state input).1 :: (run step (step state input).2 rest).1, (run step (step state input).2 rest).2) :=
  rfl

theorem run_append (step : σ → ι → ω × σ) (state : σ) (before after : List ι) :
    run step state (before ++ after) =
      ((run step state before).1 ++ (run step (run step state before).2 after).1,
        (run step (run step state before).2 after).2) := by
  induction before generalizing state with
  | nil => rfl
  | cons input rest ih => simp only [List.cons_append, run_cons, ih]

theorem length_run (step : σ → ι → ω × σ) (state : σ) (inputs : List ι) :
    (run step state inputs).1.length = inputs.length := by
  induction inputs generalizing state with
  | nil => rfl
  | cons input rest ih => simp only [run_cons, List.length_cons, ih]

/-- The output for an input is that of one step from the state that the inputs before it lead to. -/
theorem output_at (step : σ → ι → ω × σ) (state : σ) {inputs : List ι} {i : Nat} {input : ι}
    (found : inputs[i]? = some input) :
    (run step state inputs).1[i]? = some (step (run step state (inputs.take i)).2 input).1 := by
  obtain ⟨within, rfl⟩ := List.getElem?_eq_some_iff.1 found
  have parts : inputs = inputs.take i ++ inputs[i] :: inputs.drop (i + 1) := by
    rw [← List.drop_eq_getElem_cons within, List.take_append_drop]
  have size : (run step state (inputs.take i)).1.length = i := by
    rw [length_run, List.length_take_of_le (Nat.le_of_lt within)]
  conv => lhs; rw [parts]
  rw [run_append, run_cons, List.getElem?_append_right (by omega), size, Nat.sub_self]
  rfl

/-- What every step keeps holds after a run. -/
theorem run_keeps (Holds : σ → Prop) {step : σ → ι → ω × σ}
    (keeps : ∀ state input, Holds state → Holds (step state input).2) {state : σ} (start : Holds state)
    (inputs : List ι) : Holds (run step state inputs).2 := by
  induction inputs generalizing state with
  | nil => exact start
  | cons input rest ih => exact ih (keeps state input start)

/-- Two machines whose related states give equal outputs and lead to related states do so
    over whole runs. -/
theorem run_related (Related : σ → τ → Prop) {step : σ → ι → ω × σ} {other : τ → ι → ω × τ}
    (agree : ∀ state mirror input, Related state mirror →
      (step state input).1 = (other mirror input).1 ∧ Related (step state input).2 (other mirror input).2)
    {state : σ} {mirror : τ} (start : Related state mirror) (inputs : List ι) :
    (run step state inputs).1 = (run other mirror inputs).1 ∧
      Related (run step state inputs).2 (run other mirror inputs).2 := by
  induction inputs generalizing state mirror with
  | nil => exact ⟨rfl, start⟩
  | cons input rest ih =>
    obtain ⟨same, next⟩ := agree state mirror input start
    obtain ⟨others, last⟩ := ih next
    exact ⟨by rw [run_cons, run_cons, same, others], last⟩

/-- An input that leaves the state as it is can be left out: all other outputs stay. -/
theorem run_without {step : σ → ι → ω × σ} {state : σ} {before : List ι} {input : ι}
    (still : (step (run step state before).2 input).2 = (run step state before).2) (after : List ι) :
    run step state (before ++ after) =
      ((run step state (before ++ input :: after)).1.eraseIdx before.length,
        (run step state (before ++ input :: after)).2) := by
  have size := length_run step state before
  rw [run_append, run_append, run_cons, still, ← size, List.eraseIdx_append_of_length_le (Nat.le_refl _), Nat.sub_self]
  rfl

/-- The outputs for those inputs that `select` picks. -/
def chosen (select : ι → Option κ) (inputs : List ι) (outputs : List ω) : List ω :=
  (inputs.zip outputs).filterMap fun pair => (select pair.1).map fun _ => pair.2

theorem chosen_cons (select : ι → Option κ) (input : ι) (inputs : List ι) (output : ω) (outputs : List ω) :
    chosen select (input :: inputs) (output :: outputs) =
      ((select input).map fun _ => output).toList ++ chosen select inputs outputs := by
  cases picked : select input <;> simp [chosen, picked]

/-- A part of a machine that only the picked inputs concern runs on these alone: inputs that
    are not picked can be left out without a change of any output for the others. -/
theorem run_chosen (View : σ → τ → Prop) {step : σ → ι → ω × σ} {part : τ → κ → υ × τ}
    {select : ι → Option κ} {embed : υ → ω}
    (picked : ∀ state view input inner, select input = some inner → View state view →
      (step state input).1 = embed (part view inner).1 ∧ View (step state input).2 (part view inner).2)
    (ignored : ∀ state view input, select input = none → View state view → View (step state input).2 view)
    {state : σ} {view : τ} (start : View state view) (inputs : List ι) :
    chosen select inputs (run step state inputs).1 = (run part view (inputs.filterMap select)).1.map embed ∧
      View (run step state inputs).2 (run part view (inputs.filterMap select)).2 := by
  induction inputs generalizing state view with
  | nil => exact ⟨rfl, start⟩
  | cons input rest ih =>
    rw [run_cons, chosen_cons]
    cases choice : select input with
    | none =>
      rw [List.filterMap_cons_none choice]
      exact ih (ignored state view input choice start)
    | some inner =>
      obtain ⟨same, next⟩ := picked state view input inner choice start
      obtain ⟨others, last⟩ := ih next
      rw [List.filterMap_cons_some choice, run_cons, List.map_cons, same, others]
      exact ⟨rfl, last⟩

end Machine

/-! ## Responses and sessions as machines -/

namespace Response

variable {tables : EastAsian.Tables}

/-- One question as a step: the answer with what is reported, and the response after it. -/
def askStep (tables : EastAsian.Tables) (r : Response) (call : Call) : (Except Error Answer × List Event) × Response :=
  (((r.ask tables call).answer, (r.ask tables call).events), (r.ask tables call).after)

theorem askAll_eq_run (r : Response) (calls : List Call) :
    r.askAll tables calls = Machine.run (askStep tables) r calls := by
  induction calls generalizing r with
  | nil => rfl
  | cons call rest ih =>
    rw [Machine.run_cons, askAll, ih]
    rfl

/-- The answer to question number `i` of a run, counted from zero. -/
def answerAt (tables : EastAsian.Tables) (r : Response) (calls : List Call) (i : Nat) : Option (Except Error Answer) :=
  (r.askAll tables calls).1[i]?.map Prod.fst

theorem answerAt_eq (r : Response) {calls : List Call} {i : Nat} {call : Call} (found : calls[i]? = some call) :
    r.answerAt tables calls i = some ((r.askAll tables (calls.take i)).2.ask tables call).answer := by
  rw [answerAt, askAll_eq_run, askAll_eq_run, Machine.output_at (askStep tables) r found]
  rfl

end Response

namespace Session

variable {tables : EastAsian.Tables}

/-- One step with its reaction and reports together. -/
def pairStep (tables : EastAsian.Tables) (session : Session) (action : Action) : (Reaction × List Event) × Session :=
  (((session.step tables action).1, (session.step tables action).2.1), (session.step tables action).2.2)

theorem run_eq_run (session : Session) (actions : List Action) :
    session.run tables actions = Machine.run (pairStep tables) session actions := by
  induction actions generalizing session with
  | nil => rfl
  | cons action rest ih =>
    rw [Machine.run_cons, ← ih]
    rfl

end Session

end HttpReply
