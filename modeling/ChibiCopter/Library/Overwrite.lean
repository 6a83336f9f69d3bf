import Mathlib.Data.List.Induction
import Mathlib.Logic.Function.Basic

/-!
# Functions that overwrite components of a state

A component is read off a state by a function.  A map on states may keep a component,
or set it to a value that does not depend on the state before.  Maps that do one or the
other settle the component: they compose, and the second application of such a map
changes nothing.  A map that is neither, but looks at no other component, can follow a
map that sets it.
-/

namespace Overwrite

variable {σ τ : Type*}

def Keeps (component : σ → τ) (f : σ → σ) : Prop :=
  ∀ state, component (f state) = component state

/-- The component is the same behind the map, whatever the state before. -/
def Sets (component : σ → τ) (f : σ → σ) : Prop :=
  ∀ state other, component (f state) = component (f other)

def Settles (component : σ → τ) (f : σ → σ) : Prop := Keeps component f ∨ Sets component f

/-- The map computes the component from the component alone. -/
def Determined (component : σ → τ) (f : σ → σ) : Prop :=
  ∀ state other, component state = component other → component (f state) = component (f other)

variable {component : σ → τ} {f g : σ → σ}

theorem Keeps.determined (keeps : Keeps component f) : Determined component f := by
  intro state other same
  rw [keeps state, keeps other, same]

theorem Keeps.comp (later : Keeps component g) (earlier : Keeps component f) :
    Keeps component (g ∘ f) :=
  fun state => (later (f state)).trans (earlier state)

/-- A map that sets the component does so behind every other one. -/
theorem Sets.comp_left (later : Sets component g) (f : σ → σ) : Sets component (g ∘ f) :=
  fun state other => later (f state) (f other)

theorem Sets.determined (earlier : Sets component f) (later : Determined component g) :
    Sets component (g ∘ f) :=
  fun state other => later (f state) (f other) (earlier state other)

theorem settles_id (component : σ → τ) : Settles component id := Or.inl fun _ => rfl

theorem Settles.comp (later : Settles component g) (earlier : Settles component f) :
    Settles component (g ∘ f) := by
  rcases later with keeps | sets
  · rcases earlier with kept | set
    · exact Or.inl (keeps.comp kept)
    · exact Or.inr (set.determined keeps.determined)
  · exact Or.inr (sets.comp_left f)

/-- What settles a component has nothing to do the second time. -/
theorem Settles.idempotent (settles : Settles component f) (state : σ) :
    component (f (f state)) = component (f state) := by
  rcases settles with keeps | sets
  · exact keeps (f state)
  · exact sets (f state) state

/-- Where every item sets a component or leaves it, the last of those that set it
prevails. -/
theorem foldl_eq_getLastD {α : Type*} (component : σ → τ) (value? : α → Option τ)
    {step : σ → α → σ}
    (step_eq : ∀ state item, component (step state item) = (value? item).getD (component state))
    (state : σ) (items : List α) :
    component (items.foldl step state) =
      (items.filterMap value?).getLastD (component state) := by
  induction items generalizing state with
  | nil => rfl
  | cons item items ih =>
      rw [List.foldl_cons, ih, step_eq]
      cases found : value? item with
      | none => rw [List.filterMap_cons_none found, Option.getD_none]
      | some value =>
          rw [List.filterMap_cons_some found, List.getLastD_cons, Option.getD_some]

/-! ## The last item that sets a component -/

/-- The last of some items that sets a component. -/
def lastSetting {α : Type*} (value? : α → Option τ) (items : List α) : Option α :=
  (items.filter fun item => (value? item).isSome).getLast?

theorem isSome_of_lastSetting {α : Type*} {value? : α → Option τ} {items : List α} {item : α}
    (last : lastSetting value? items = some item) : (value? item).isSome :=
  (List.mem_filter.mp (List.mem_of_getLast? last)).2

/-- It gives the component its value. -/
theorem getLastD_filterMap {α : Type*} (value? : α → Option τ) (initial : τ) (items : List α) :
    (items.filterMap value?).getLastD initial =
      ((lastSetting value? items).bind value?).getD initial := by
  induction items using List.reverseRecOn with
  | nil => rfl
  | append_singleton items item ih =>
      rw [lastSetting, List.filterMap_append, List.filter_append]
      cases found : value? item with
      | none =>
          have skipped : [item].filter (fun item => (value? item).isSome) = [] := by
            simp [found]
          rw [skipped, List.filterMap_cons_none found, List.filterMap_nil, List.append_nil,
            List.append_nil]
          exact ih
      | some value =>
          have taken : [item].filter (fun item => (value? item).isSome) = [item] := by
            simp [found]
          rw [taken, List.filterMap_cons_some found, List.filterMap_nil, List.getLastD_concat,
            List.getLast?_concat, Option.bind_some, found, Option.getD_some]

/-- Two components with the same items behind them agree if and only if the last of the
items gives both the same value. -/
theorem getLastD_filterMap_eq_iff {α : Type*} {first? second? : α → Option τ}
    (isSome_eq : ∀ item, (first? item).isSome = (second? item).isSome) (initial : τ)
    (items : List α) :
    (items.filterMap first?).getLastD initial = (items.filterMap second?).getLastD initial ↔
      ∀ item, lastSetting second? items = some item → first? item = second? item := by
  have same : lastSetting first? items = lastSetting second? items := by
    rw [lastSetting, lastSetting, funext isSome_eq]
  rw [getLastD_filterMap, getLastD_filterMap, same]
  cases found : lastSetting second? items with
  | none => exact ⟨fun _ _ => nofun, fun _ => rfl⟩
  | some last =>
      obtain ⟨value, value_eq⟩ := Option.isSome_iff_exists.mp (isSome_of_lastSetting found)
      obtain ⟨other, other_eq⟩ := Option.isSome_iff_exists.mp
        ((isSome_eq last).trans (isSome_of_lastSetting found))
      rw [Option.bind_some, Option.bind_some, value_eq, other_eq, Option.getD_some,
        Option.getD_some]
      constructor
      · rintro rfl item last_eq
        cases last_eq
        rw [value_eq, other_eq]
      · intro agree
        have equal := agree last rfl
        rw [value_eq, other_eq] at equal
        exact Option.some.inj equal

end Overwrite
