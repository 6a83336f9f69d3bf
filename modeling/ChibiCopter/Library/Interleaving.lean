import ChibiCopter.Library.Transducer

/-!
# Threads that share a machine

A machine whose inputs are the steps of several threads carries the state of each of
them.  A smaller machine that is driven by the messages of some steps runs as it would
alone.  Inputs that are hidden from an observer can be left out of a run without a change
of what is observed, if none of them changes what the observer sees.
-/

namespace Transducer

variable {σ α β γ : Type*} {machine : Transducer σ α β}

/-! ## Driven components -/

section Driven

variable {τ δ ε : Type*} {component : Transducer τ δ ε}

/-- Every step of the machine gives the component some messages, and the component's
state is where they lead. -/
structure Drives (machine : Transducer σ α β) (component : Transducer τ δ ε) (part : σ → τ)
    (messages : α → σ → List δ) : Prop where
  step_eq : ∀ input state,
    part (machine.step input state).2 = component.final (part state) (messages input state)

variable {part : σ → τ} {messages : α → σ → List δ}

/-- The component runs over all messages of the run. -/
theorem Drives.final (drives : machine.Drives component part messages) (state : σ)
    (inputs : List α) :
    part (machine.final state inputs) =
      component.final (part state) (machine.collect messages state inputs) := by
  induction inputs generalizing state with
  | nil => rfl
  | cons input rest ih =>
      rw [final_cons, ih, drives.step_eq, collect_cons, component.final_append]

/-- What the component reports over the messages of a run, it reports step by step. -/
theorem Drives.collect (drives : machine.Drives component part messages)
    (report : δ → τ → List γ) (state : σ) (inputs : List α) :
    component.collect report (part state) (machine.collect messages state inputs) =
      machine.collect (fun input state => component.collect report (part state)
        (messages input state)) state inputs := by
  induction inputs generalizing state with
  | nil => rfl
  | cons input rest ih =>
      rw [collect_cons, collect_cons, collect_append, ← drives.step_eq, ih]

end Driven

/-! ## What the outputs show -/

/-- What every step shows of its input alone, a run shows of its inputs. -/
theorem flatMap_outputs {view : β → List γ} {items : α → List γ}
    (shows : ∀ input state, view (machine.step input state).1 = items input) (state : σ)
    (inputs : List α) : (machine.outputs state inputs).flatMap view = inputs.flatMap items := by
  induction inputs generalizing state with
  | nil => rfl
  | cons input rest ih =>
      rw [outputs_cons, List.flatMap_cons, List.flatMap_cons, shows, ih]

/-- What the outputs of a run show is what each step shows in the state that it meets. -/
theorem flatMap_outputs_eq_collect (view : β → List γ) (state : σ) (inputs : List α) :
    (machine.outputs state inputs).flatMap view =
      machine.collect (fun input state => view (machine.step input state).1) state inputs := by
  induction inputs generalizing state with
  | nil => rfl
  | cons input rest ih => rw [outputs_cons, List.flatMap_cons, collect_cons, ih]

/-- What is picked from the messages of each input, whatever the state, is picked from
those of the run. -/
theorem filterMap_collect {δ ε : Type*} {messages : α → σ → List δ} {pick : δ → Option ε}
    {select : α → Option ε}
    (picks : ∀ input state, (messages input state).filterMap pick = (select input).toList)
    (state : σ) (inputs : List α) :
    (machine.collect messages state inputs).filterMap pick = inputs.filterMap select := by
  induction inputs generalizing state with
  | nil => rfl
  | cons input rest ih =>
      rw [collect_cons, List.filterMap_append, picks, ih]
      cases chosen : select input with
      | none => rw [List.filterMap_cons_none chosen, Option.toList_none, List.nil_append]
      | some message => rw [List.filterMap_cons_some chosen, Option.toList_some,
          List.singleton_append]

/-! ## Hidden inputs -/

/-- A relation between the states of a run and those of the same run without its hidden
inputs: shown inputs keep it and look the same, hidden ones keep it on their own and
show nothing. -/
structure Hides (machine : Transducer σ α β) (hidden : α → Bool) (related : σ → σ → Prop)
    (view : β → List γ) : Prop where
  shown : ∀ input first second, hidden input = false → related first second →
    related (machine.step input first).2 (machine.step input second).2 ∧
      view (machine.step input first).1 = view (machine.step input second).1
  skipped : ∀ input first second, hidden input = true → related first second →
    related (machine.step input first).2 second ∧ view (machine.step input first).1 = []

/-- The inputs of a run that are not hidden. -/
def purge (hidden : α → Bool) (inputs : List α) : List α :=
  inputs.filter fun input => !hidden input

variable {hidden : α → Bool} {related : σ → σ → Prop} {view : β → List γ}

/-- Without its hidden inputs a run leads to a related state and shows the same. -/
theorem Hides.run (hides : machine.Hides hidden related view) {first second : σ}
    (start : related first second) (inputs : List α) :
    related (machine.final first inputs) (machine.final second (purge hidden inputs)) ∧
      (machine.outputs first inputs).flatMap view =
        (machine.outputs second (purge hidden inputs)).flatMap view := by
  induction inputs generalizing first second with
  | nil => exact ⟨start, rfl⟩
  | cons input rest ih =>
      rw [outputs_cons, List.flatMap_cons]
      cases kind : hidden input with
      | false =>
          obtain ⟨kept, same⟩ := hides.shown input first second kind start
          obtain ⟨ends, shows⟩ := ih kept
          rw [purge, List.filter_cons_of_pos (by simp [kind]), outputs_cons, List.flatMap_cons,
            same, shows]
          exact ⟨ends, rfl⟩
      | true =>
          obtain ⟨kept, silent⟩ := hides.skipped input first second kind start
          rw [purge, List.filter_cons_of_neg (by simp [kind]), silent, List.nil_append]
          exact ih kept

/-- Hidden inputs are found with a cover for what they change: a shown input does the
same to a state and to the covered state, and a hidden one nothing but under the
cover. -/
theorem hides_of_cover (cover : σ → σ)
    (shown : ∀ input state, hidden input = false →
      cover (machine.step input state).2 = cover (machine.step input (cover state)).2 ∧
        view (machine.step input state).1 = view (machine.step input (cover state)).1)
    (skipped : ∀ input state, hidden input = true →
      cover (machine.step input state).2 = cover state ∧ view (machine.step input state).1 = []) :
    machine.Hides hidden (fun first second => cover first = cover second) view where
  shown input first second kind same := by
    obtain ⟨firstState, firstView⟩ := shown input first kind
    obtain ⟨secondState, secondView⟩ := shown input second kind
    rw [firstState, firstView, same, ← secondState, ← secondView]
    exact ⟨rfl, rfl⟩
  skipped input first second kind same := by
    obtain ⟨kept, silent⟩ := skipped input first kind
    exact ⟨kept.trans same, silent⟩

end Transducer
