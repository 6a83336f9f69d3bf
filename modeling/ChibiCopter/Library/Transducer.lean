import Mathlib.Data.List.Induction

/-!
# Deterministic transducers and their runs

A transducer answers every input with one output and moves to a new state.
`final` and `trace` run it over a finite list of inputs, `Runs` records one
stretch of a run together with its answers, and `Reachable` collects the states
of all runs from a class of starting states.  The rules below are the ones a
proof about a machine needs: stretches compose, an invariant needs one step, and
a statement about the whole input history is proved one input at a time.
-/

/-- A machine that answers every input with one output and a new state. -/
structure Transducer (σ α β : Type*) where
  step : α → σ → β × σ

namespace Transducer

variable {σ α β γ : Type*} (machine : Transducer σ α β)

/-! ## Runs over a list of inputs -/

/-- The state that a list of inputs leaves. -/
def final : σ → List α → σ
  | state, [] => state
  | state, input :: rest => final (machine.step input state).2 rest

/-- The output of every call, paired with the state that the call leaves. -/
def trace : σ → List α → List (β × σ)
  | _, [] => []
  | state, input :: rest =>
      machine.step input state :: trace (machine.step input state).2 rest

def outputs (state : σ) (inputs : List α) : List β :=
  (machine.trace state inputs).map Prod.fst

@[simp] theorem final_nil (state : σ) : machine.final state [] = state := rfl

@[simp] theorem final_cons (state : σ) (input : α) (rest : List α) :
    machine.final state (input :: rest) =
      machine.final (machine.step input state).2 rest := rfl

@[simp] theorem trace_nil (state : σ) : machine.trace state [] = [] := rfl

@[simp] theorem trace_cons (state : σ) (input : α) (rest : List α) :
    machine.trace state (input :: rest) =
      machine.step input state :: machine.trace (machine.step input state).2 rest := rfl

@[simp] theorem outputs_nil (state : σ) : machine.outputs state [] = [] := rfl

@[simp] theorem outputs_cons (state : σ) (input : α) (rest : List α) :
    machine.outputs state (input :: rest) =
      (machine.step input state).1 ::
        machine.outputs (machine.step input state).2 rest := rfl

theorem final_append (state : σ) (first second : List α) :
    machine.final state (first ++ second) =
      machine.final (machine.final state first) second := by
  induction first generalizing state with
  | nil => rfl
  | cons input rest ih => exact ih _

theorem trace_append (state : σ) (first second : List α) :
    machine.trace state (first ++ second) =
      machine.trace state first ++
        machine.trace (machine.final state first) second := by
  induction first generalizing state with
  | nil => rfl
  | cons input rest ih => simp only [List.cons_append, trace_cons, final_cons, ih]

theorem outputs_append (state : σ) (first second : List α) :
    machine.outputs state (first ++ second) =
      machine.outputs state first ++
        machine.outputs (machine.final state first) second := by
  simp only [outputs, trace_append, List.map_append]

/-- One more input at the end is one more step from the state reached so far. -/
theorem final_concat (state : σ) (inputs : List α) (input : α) :
    machine.final state (inputs ++ [input]) =
      (machine.step input (machine.final state inputs)).2 :=
  machine.final_append state inputs [input]

theorem outputs_concat (state : σ) (inputs : List α) (input : α) :
    machine.outputs state (inputs ++ [input]) =
      machine.outputs state inputs ++
        [(machine.step input (machine.final state inputs)).1] :=
  machine.outputs_append state inputs [input]

@[simp] theorem length_trace (state : σ) (inputs : List α) :
    (machine.trace state inputs).length = inputs.length := by
  induction inputs generalizing state with
  | nil => rfl
  | cons input rest ih => simp only [trace_cons, List.length_cons, ih]

@[simp] theorem length_outputs (state : σ) (inputs : List α) :
    (machine.outputs state inputs).length = inputs.length := by
  rw [outputs, List.length_map, length_trace]

/-! ## Stretches of a run -/

/-- Reading `inputs` in `source` gives `answers` and leads to `target`. -/
structure Runs (source : σ) (inputs : List α) (answers : List β)
    (target : σ) : Prop where
  outputs_eq : machine.outputs source inputs = answers
  final_eq : machine.final source inputs = target

namespace Runs

variable {machine}

theorem refl (state : σ) : machine.Runs state [] [] state := ⟨rfl, rfl⟩

theorem single {source target : σ} {input : α} {answer : β}
    (step : machine.step input source = (answer, target)) :
    machine.Runs source [input] [answer] target := by
  constructor
  · rw [outputs_cons, step, outputs_nil]
  · rw [final_cons, step, final_nil]

theorem append {first middle last : σ} {inputs moreInputs : List α}
    {answers moreAnswers : List β}
    (left : machine.Runs first inputs answers middle)
    (right : machine.Runs middle moreInputs moreAnswers last) :
    machine.Runs first (inputs ++ moreInputs) (answers ++ moreAnswers) last := by
  constructor
  · rw [outputs_append, left.final_eq, left.outputs_eq, right.outputs_eq]
  · rw [final_append, left.final_eq, right.final_eq]

theorem cons {source middle last : σ} {input : α} {answer : β}
    {inputs : List α} {answers : List β}
    (step : machine.step input source = (answer, middle))
    (rest : machine.Runs middle inputs answers last) :
    machine.Runs source (input :: inputs) (answer :: answers) last :=
  (single step).append rest

end Runs

/-! ## Invariants and reachable states -/

/-- A condition kept by every step holds after every run. -/
theorem final_invariant (invariant : σ → Prop)
    (kept : ∀ input state, invariant state → invariant (machine.step input state).2)
    {state : σ} (start : invariant state) (inputs : List α) :
    invariant (machine.final state inputs) := by
  induction inputs generalizing state with
  | nil => exact start
  | cons input rest ih => exact ih (kept input state start)

/-- A condition on the inputs so far and the state they led to, kept by every
step, holds of the whole input history. -/
theorem final_history {state : σ} (invariant : List α → σ → Prop)
    (start : invariant [] state)
    (kept : ∀ inputs input, invariant inputs (machine.final state inputs) →
      invariant (inputs ++ [input])
        (machine.step input (machine.final state inputs)).2)
    (inputs : List α) : invariant inputs (machine.final state inputs) := by
  induction inputs using List.reverseRecOn with
  | nil => exact start
  | append_singleton inputs input ih =>
      rw [final_concat]
      exact kept inputs input ih

/-- The states of all runs that begin in a state satisfying `Start`. -/
inductive Reachable (Start : σ → Prop) : σ → Prop where
  | start {state : σ} (begins : Start state) : Reachable Start state
  | step {state : σ} (input : α) (before : Reachable Start state) :
      Reachable Start (machine.step input state).2

namespace Reachable

variable {machine} {Start : σ → Prop}

theorem run {state : σ} (reachable : machine.Reachable Start state)
    (inputs : List α) : machine.Reachable Start (machine.final state inputs) :=
  machine.final_invariant _ (fun input _ before => before.step input) reachable inputs

/-- Every reachable state satisfies every invariant that all starts satisfy. -/
theorem satisfies {state : σ} (reachable : machine.Reachable Start state)
    (invariant : σ → Prop) (begins : ∀ state, Start state → invariant state)
    (kept : ∀ input state, invariant state → invariant (machine.step input state).2) :
    invariant state := by
  induction reachable with
  | start starts => exact begins _ starts
  | step input before ih => exact kept input _ ih

end Reachable

/-! ## Watching a machine -/

/-- The same machine with every call reported through `view`. -/
def watch (view : β × σ → γ) : Transducer σ α γ where
  step input state := (view (machine.step input state), (machine.step input state).2)

@[simp] theorem watch_step (view : β × σ → γ) (input : α) (state : σ) :
    (machine.watch view).step input state =
      (view (machine.step input state), (machine.step input state).2) := rfl

@[simp] theorem watch_final (view : β × σ → γ) (state : σ) (inputs : List α) :
    (machine.watch view).final state inputs = machine.final state inputs := by
  induction inputs generalizing state with
  | nil => rfl
  | cons input rest ih => exact ih _

/-- Watching reports exactly the image of the trace. -/
theorem watch_outputs (view : β × σ → γ) (state : σ) (inputs : List α) :
    (machine.watch view).outputs state inputs =
      (machine.trace state inputs).map view := by
  induction inputs generalizing state with
  | nil => rfl
  | cons input rest ih =>
      simp only [outputs_cons, watch_step, trace_cons, List.map_cons, ih]

/-! ## Collecting along a run -/

/-- What a report reads off each input and the state that it meets, in order. -/
def collect (report : α → σ → List γ) : σ → List α → List γ
  | _, [] => []
  | state, input :: rest =>
      report input state ++ collect report (machine.step input state).2 rest

@[simp] theorem collect_nil (report : α → σ → List γ) (state : σ) :
    machine.collect report state [] = [] := rfl

@[simp] theorem collect_cons (report : α → σ → List γ) (state : σ) (input : α) (rest : List α) :
    machine.collect report state (input :: rest) =
      report input state ++ machine.collect report (machine.step input state).2 rest := rfl

theorem collect_append (report : α → σ → List γ) (state : σ) (first second : List α) :
    machine.collect report state (first ++ second) =
      machine.collect report state first ++
        machine.collect report (machine.final state first) second := by
  induction first generalizing state with
  | nil => rfl
  | cons input rest ih =>
      rw [List.cons_append, collect_cons, collect_cons, ih, final_cons, List.append_assoc]

theorem collect_concat (report : α → σ → List γ) (state : σ) (inputs : List α) (input : α) :
    machine.collect report state (inputs ++ [input]) =
      machine.collect report state inputs ++ report input (machine.final state inputs) := by
  rw [collect_append, collect_cons, collect_nil, List.append_nil]

/-- What is collected is what some input of the run reports. -/
theorem mem_collect_iff {report : α → σ → List γ} {state : σ} {inputs : List α} {item : γ} :
    item ∈ machine.collect report state inputs ↔
      ∃ front input back, inputs = front ++ input :: back ∧
        item ∈ report input (machine.final state front) := by
  constructor
  · intro member
    induction inputs generalizing state with
    | nil => exact absurd member List.not_mem_nil
    | cons input rest ih =>
        rw [collect_cons] at member
        rcases List.mem_append.mp member with now | later
        · exact ⟨[], input, rest, rfl, now⟩
        · obtain ⟨front, other, back, rfl, reported⟩ := ih later
          exact ⟨input :: front, other, back, rfl, reported⟩
  · rintro ⟨front, input, back, rfl, reported⟩
    rw [collect_append, collect_cons]
    exact List.mem_append_right _ (List.mem_append_left _ reported)

theorem forall_mem_collect_iff {report : α → σ → List γ} {state : σ} {inputs : List α}
    {property : γ → Prop} :
    (∀ item ∈ machine.collect report state inputs, property item) ↔
      ∀ front input back, inputs = front ++ input :: back →
        ∀ item ∈ report input (machine.final state front), property item := by
  constructor
  · rintro all front input back inputs_eq item reported
    exact all item (machine.mem_collect_iff.mpr ⟨front, input, back, inputs_eq, reported⟩)
  · rintro all item member
    obtain ⟨front, input, back, inputs_eq, reported⟩ := machine.mem_collect_iff.mp member
    exact all front input back inputs_eq item reported

/-- A relation between two states that every input keeps, and in which both answers
look the same, makes the two runs look the same. -/
structure Unwinding (related : σ → σ → Prop) (view : β × σ → γ) : Prop where
  kept : ∀ input first second, related first second →
    related (machine.step input first).2 (machine.step input second).2
  same_view : ∀ input first second, related first second →
    view (machine.step input first) = view (machine.step input second)

theorem Unwinding.map_trace {machine : Transducer σ α β} {related : σ → σ → Prop}
    {view : β × σ → γ} (unwinding : machine.Unwinding related view) {first second : σ}
    (start : related first second) (inputs : List α) :
    (machine.trace first inputs).map view = (machine.trace second inputs).map view := by
  induction inputs generalizing first second with
  | nil => rfl
  | cons input rest ih =>
      rw [trace_cons, trace_cons, List.map_cons, List.map_cons,
        unwinding.same_view input first second start,
        ih (unwinding.kept input first second start)]

/-! ## Components -/

/-- When some inputs of a machine drive a component and all others leave it
alone, the component's run is its own run over the inputs meant for it. -/
theorem final_component {τ δ ε : Type*} (component : Transducer τ δ ε)
    (part : σ → τ) (select : α → Option δ)
    (driven : ∀ input message state, select input = some message →
      part (machine.step input state).2 = (component.step message (part state)).2)
    (idle : ∀ input state, select input = none →
      part (machine.step input state).2 = part state)
    (state : σ) (inputs : List α) :
    part (machine.final state inputs) =
      component.final (part state) (inputs.filterMap select) := by
  induction inputs generalizing state with
  | nil => rfl
  | cons input rest ih =>
      rw [final_cons, ih]
      cases chosen : select input with
      | none => rw [List.filterMap_cons_none chosen, idle input state chosen]
      | some message =>
          rw [List.filterMap_cons_some chosen, final_cons,
            driven input message state chosen]

/-! ## Machines that are silent at most inputs -/

/-- Reading `inputs` in `source` reports `items`, with silent answers left out, and
leads to `target`. -/
structure Yields (machine : Transducer σ α (Option γ)) (source : σ) (inputs : List α)
    (items : List γ) (target : σ) : Prop where
  reports_eq : (machine.outputs source inputs).filterMap id = items
  final_eq : machine.final source inputs = target

namespace Yields

variable {machine : Transducer σ α (Option γ)}

theorem refl (state : σ) : machine.Yields state [] [] state := ⟨rfl, rfl⟩

theorem single {source target : σ} {input : α} {answer : Option γ}
    (step : machine.step input source = (answer, target)) :
    machine.Yields source [input] answer.toList target := by
  constructor
  · rw [outputs_cons, step, outputs_nil]
    cases answer <;> rfl
  · rw [final_cons, step, final_nil]

theorem silent {source target : σ} {input : α}
    (step : machine.step input source = (none, target)) :
    machine.Yields source [input] [] target :=
  single step

theorem append {first middle last : σ} {inputs moreInputs : List α} {items moreItems : List γ}
    (left : machine.Yields first inputs items middle)
    (right : machine.Yields middle moreInputs moreItems last) :
    machine.Yields first (inputs ++ moreInputs) (items ++ moreItems) last := by
  constructor
  · rw [outputs_append, left.final_eq, List.filterMap_append, left.reports_eq, right.reports_eq]
  · rw [final_append, left.final_eq, right.final_eq]

end Yields

/-! ## Refinement -/

/-- In states that satisfy the invariant, one machine does what another does on its
view of the state, and answers what the other answers. -/
structure Refines {τ : Type*} (machine : Transducer σ α β) (specification : Transducer τ α γ)
    (invariant : σ → Prop) (view : σ → τ) (answer : β → γ) : Prop where
  kept : ∀ input state, invariant state → invariant (machine.step input state).2
  view_step : ∀ input state, invariant state →
    view (machine.step input state).2 = (specification.step input (view state)).2
  answer_step : ∀ input state, invariant state →
    answer (machine.step input state).1 = (specification.step input (view state)).1

namespace Refines

variable {machine} {τ : Type*} {specification : Transducer τ α γ} {invariant : σ → Prop}
  {view : σ → τ} {answer : β → γ}

/-- Whole runs agree in the states they lead to. -/
theorem view_final (refines : machine.Refines specification invariant view answer)
    {state : σ} (holds : invariant state) (inputs : List α) :
    view (machine.final state inputs) = specification.final (view state) inputs := by
  induction inputs generalizing state with
  | nil => rfl
  | cons input rest ih =>
      rw [final_cons, final_cons, ih (refines.kept input state holds),
        refines.view_step input state holds]

/-- Whole runs agree in their answers. -/
theorem map_outputs (refines : machine.Refines specification invariant view answer)
    {state : σ} (holds : invariant state) (inputs : List α) :
    (machine.outputs state inputs).map answer = specification.outputs (view state) inputs := by
  induction inputs generalizing state with
  | nil => rfl
  | cons input rest ih =>
      rw [outputs_cons, outputs_cons, List.map_cons, ih (refines.kept input state holds),
        refines.view_step input state holds, refines.answer_step input state holds]

end Refines

end Transducer
