import Aether.Python.Bytes
import Mathlib.Data.List.Basic

/-!
# Fluent builders whose setter exceptions are caught

Every setter of the SDK's builders (`TransactionBuilder` of `aether`, `TransferBuilder` and
`JobBuilder` of `aether_sdk`) runs the checks of its argument, raises `ValueError` when one
fails, and otherwise stores the argument in one field and returns the builder. `setField` is
that shape once; each source setter is `setField` applied to its own check and field.

A caller that catches every exception and carries on runs `runCaught`. `lastStored` says what a
field holds afterwards without running anything: the argument of the last call that stored into
it, or the value it started with. `field_runCaught` is the one induction over the call sequence
that connects the two; the builders use it field by field.
-/

namespace Aether

/-- A setter: the argument's checks, then the builder with the argument stored. -/
def setField {B : Type} (check : Except PyException Unit) (store : B → B) (builder : B) :
    Except PyException B :=
  (fun _ => store builder) <$> check

/-- A call whose exception the caller catches: the builder it returned, or the one it had. -/
def caught {B : Type} (result : Except PyException B) (builder : B) : B :=
  match result with
  | .ok next => next
  | .error _ => builder

/-- A sequence of setter calls, each exception caught and the sequence continued. -/
def runCaught {B C : Type} (apply : B → C → Except PyException B) (builder : B)
    (calls : List C) : B :=
  calls.foldl (fun builder call => caught (apply builder call) builder) builder

/-- The value the last storing call gave, or `initial` when no call stored one. -/
def lastStored {C V : Type} (stores : C → Option V) (calls : List C) (initial : V) : V :=
  ((calls.filterMap stores).getLast?).getD initial

/-- A field no call stores into keeps its initial value. -/
@[simp] theorem lastStored_none {C V : Type} (calls : List C) (initial : V) :
    lastStored (fun _ => none) calls initial = initial := by
  rw [lastStored, List.filterMap_eq_nil_iff.mpr fun _ _ => rfl]
  rfl

/-- A property of the initial value and of every value a call stores holds of the last stored
value. -/
theorem lastStored_induction {C V : Type} {stores : C → Option V} (property : V → Prop)
    {calls : List C} {initial : V} (initially : property initial)
    (stored : ∀ call value, stores call = some value → property value) :
    property (lastStored stores calls initial) := by
  unfold lastStored
  cases last : (calls.filterMap stores).getLast? with
  | none => exact initially
  | some value =>
      obtain ⟨call, _, stores⟩ := List.mem_filterMap.mp (List.mem_of_mem_getLast? last)
      exact stored call value stores

/-- The same for an optional field: a property of the value it starts with, if any, and of every
value a call stores holds of the value it ends with, if any. -/
theorem lastStored_induction_some {C V : Type} {stores : C → Option (Option V)}
    (property : V → Prop) {calls : List C} {initial : Option V}
    (initially : ∀ value, initial = some value → property value)
    (stored : ∀ call value, stores call = some (some value) → property value) :
    ∀ value, lastStored stores calls initial = some value → property value :=
  lastStored_induction (fun last => ∀ value, last = some value → property value) initially
    fun call _ stores value isSome => stored call value (isSome ▸ stores)

/-- A setter without checks always returns normally. -/
@[simp] theorem isOk_pure_unit : (pure () : Except PyException Unit).isOk = true := rfl

/-- A setter whose check passed stores; one whose check failed leaves the builder as it was. -/
theorem caught_setField {B : Type} (check : Except PyException Unit) (store : B → B)
    (builder : B) : caught (setField check store builder) builder =
      if check.isOk then store builder else builder := by
  cases check <;> rfl

@[simp] theorem runCaught_nil {B C : Type} (apply : B → C → Except PyException B) (builder : B) :
    runCaught apply builder [] = builder := rfl

theorem runCaught_append_single {B C : Type} (apply : B → C → Except PyException B)
    (builder : B) (calls : List C) (call : C) :
    runCaught apply builder (calls ++ [call]) =
      caught (apply (runCaught apply builder calls) call) (runCaught apply builder calls) := by
  simp [runCaught, List.foldl_append]

/-- A field touched by each call only through what the call stores holds the last stored value.
-/
theorem field_runCaught {B C V : Type} (apply : B → C → Except PyException B) (field : B → V)
    (stores : C → Option V)
    (stepField : ∀ builder call,
      field (caught (apply builder call) builder) = (stores call).getD (field builder))
    (builder : B) (calls : List C) :
    field (runCaught apply builder calls) = lastStored stores calls (field builder) := by
  induction calls using List.reverseRecOn with
  | nil => rfl
  | append_singleton calls call inductionHypothesis =>
      rw [runCaught_append_single, stepField, inductionHypothesis]
      cases stored : stores call <;>
        simp [lastStored, List.filterMap_append, stored, List.getLast?_append]

end Aether
