import Gateway.Entrypoint
import Mathlib.Logic.Function.Iterate
import Mathlib.Logic.Relation
import Mathlib.Tactic.SplitIfs

/-!
How the calling convention is told from an object, through any number of instances around it.

A signature and what an object can be bound to are handed on by every instance. What is known about waiting is not:
an instance looks at the object directly inside it and no further, so a coroutine is lost behind the second instance,
and a declared asynchronous form behind the first.
-/
namespace Gateway

namespace Signature

/-- One change of a signature that leaves its required parameters alone. -/
inductive Change : Signature → Signature → Prop where
  | add {before after : Signature} (p : Parameter) (optional : p.isRequired = false) :
      Change (before ++ after) (before ++ p :: after)
  | remove {before after : Signature} (p : Parameter) (optional : p.isRequired = false) :
      Change (before ++ p :: after) (before ++ after)
  | move {before after before' after' : Signature} (p : Parameter) (optional : p.isRequired = false)
      (rest : before ++ after = before' ++ after') :
      Change (before ++ p :: after) (before' ++ p :: after')

variable {s t : Signature}

/-- A parameter that is not required is not counted, wherever it stands. -/
theorem required_insert (before after : Signature) {p : Parameter} (optional : p.isRequired = false) :
    required (before ++ p :: after) = required (before ++ after) := by
  simp [required, optional]

theorem Change.required_eq (change : Change s t) : s.required = t.required := by
  cases change with
  | add p optional => exact (required_insert _ _ optional).symm
  | remove p optional => exact required_insert _ _ optional
  | move p optional rest => rw [required_insert _ _ optional, required_insert _ _ optional, rest]

theorem required_eq_of_changes (changes : Relation.ReflTransGen Change s t) : s.required = t.required := by
  induction changes with
  | refl => rfl
  | tail _ change ih => exact ih.trans change.required_eq

end Signature

namespace Entrypoint

variable {σ α : Type}

/-- Calling the object, or its call method, gives something to wait for. -/
def IsAwaited (object : Entrypoint σ α) : Prop :=
  object.isCoroutine = true ∨ object.callIsCoroutine = some true

/-- What shows of an object inside an instance and `n` more around that one. -/
theorem iterate_withMethod_succ (n : Nat) (object : Entrypoint σ α) :
    withMethod^[n + 1] object =
      { signature := object.signature, callIsCoroutine := some (n == 0 && object.isCoroutine)
        asSync := object.asSync, asAsync := object.asAsync } := by
  induction n with
  | zero => rfl
  | succ n ih =>
    rw [Function.iterate_succ_apply', ih]
    simp [withMethod]

section Nested

variable (n : Nat) (object : Entrypoint σ α)

@[simp]
theorem signature_iterate_withMethod : (withMethod^[n] object).signature = object.signature := by
  cases n with
  | zero => rfl
  | succ n => rw [iterate_withMethod_succ]

@[simp]
theorem asSync_iterate_withMethod : (withMethod^[n] object).asSync = object.asSync := by
  cases n with
  | zero => rfl
  | succ n => rw [iterate_withMethod_succ]

@[simp]
theorem asAsync_iterate_withMethod : (withMethod^[n] object).asAsync = object.asAsync := by
  cases n with
  | zero => rfl
  | succ n => rw [iterate_withMethod_succ]

@[simp]
theorem asyncForm_iterate_withMethod :
    (withMethod^[n] object).asyncForm = if n = 0 then object.asyncForm else none := by
  cases n with
  | zero => rfl
  | succ n => rw [iterate_withMethod_succ, if_neg n.succ_ne_zero]

/-- An instance looks one object deep: what waits further inside is not seen. -/
@[simp]
theorem isAwaited_iterate_withMethod :
    (withMethod^[n] object).IsAwaited ↔ n = 0 ∧ object.IsAwaited ∨ n = 1 ∧ object.isCoroutine = true := by
  cases n with
  | zero => simp
  | succ n => simp [iterate_withMethod_succ, IsAwaited]

theorem iterate_withMethod_signature (signature : Except String Signature) :
    withMethod^[n] { object with signature } = { withMethod^[n] object with signature } := by
  cases n with
  | zero => rfl
  | succ n => simp only [iterate_withMethod_succ]

end Nested

end Entrypoint

namespace Convention

open Entrypoint Signature

variable {σ α : Type} {object : Entrypoint σ α}

/-- Whether the object is awaited has no part in this: a coroutine of two parameters has the shape too. -/
theorem detect_eq_sync_iff {app : σ} :
    detect object = sync app ↔
      object.asyncForm = none ∧ (∃ s, object.signature = .ok s ∧ s.required = 2) ∧ object.asSync = some app := by
  unfold detect
  split
  case h_1 form declared => simp [declared]
  case h_2 undeclared =>
    split
    case h_1 name failed => simp [failed]
    case h_2 s shown =>
      rw [undeclared, shown]
      split_ifs with three two
      · cases object.asAsync <;> simp [three.1]
      · cases object.asSync <;> simp [two]
      · simp [two]

theorem detect_eq_async_iff {app : α} :
    detect object = async app ↔
      object.asyncForm = some app ∨
        object.asyncForm = none ∧ (∃ s, object.signature = .ok s ∧ s.required = 3) ∧ object.IsAwaited ∧
          object.asAsync = some app := by
  unfold detect
  split
  case h_1 form declared => simp [declared]
  case h_2 undeclared =>
    split
    case h_1 name failed => simp [failed, undeclared]
    case h_2 s shown =>
      rw [undeclared, shown]
      simp only [Bool.or_eq_true, beq_iff_eq]
      split_ifs with three two
      · cases object.asAsync <;> simp [three.1, IsAwaited, three.2]
      · cases object.asSync <;> simp [two]
      · have unbound : s.required = 3 → ¬object.IsAwaited := fun shape awaited => three ⟨shape, awaited⟩
        simpa using fun shape awaited => absurd awaited (unbound shape)

theorem eq_undetermined_iff {c : Convention σ α} :
    c = undetermined ↔ (∀ app, c ≠ sync app) ∧ ∀ app, c ≠ async app := by
  cases c <;> simp

theorem detect_of_error {name : String} (failed : object.signature = .error name)
    (undeclared : object.asyncForm = none) : detect object = undetermined := by
  simp [eq_undetermined_iff, detect_eq_sync_iff, detect_eq_async_iff, failed, undeclared]

theorem detect_signature_eq_of_required_eq {s t : Signature} (same : s.required = t.required)
    (object : Entrypoint σ α) :
    detect { object with signature := .ok s } = detect { object with signature := .ok t } := by
  simp only [detect, same]

section Nested

variable (n : Nat)

theorem detect_iterate_eq_sync_iff {app : σ} :
    detect (withMethod^[n] object) = sync app ↔
      (n = 0 → object.asyncForm = none) ∧ (∃ s, object.signature = .ok s ∧ s.required = 2) ∧
        object.asSync = some app := by
  simp [detect_eq_sync_iff]

theorem detect_iterate_eq_async_iff {app : α} :
    detect (withMethod^[n] object) = async app ↔
      (n = 0 ∧ object.asyncForm = some app) ∨
        (n = 0 → object.asyncForm = none) ∧ (∃ s, object.signature = .ok s ∧ s.required = 3) ∧
          (n = 0 ∧ object.IsAwaited ∨ n = 1 ∧ object.isCoroutine = true) ∧ object.asAsync = some app := by
  simp [detect_eq_async_iff]

theorem detect_function (app : σ) (s : Signature) :
    detect (withMethod^[n] (function app s) : Entrypoint σ α) =
      if s.required = 2 then sync app else undetermined := by
  split
  case isTrue two =>
    rw [detect_iterate_eq_sync_iff]
    exact ⟨fun _ => rfl, ⟨s, rfl, two⟩, rfl⟩
  case isFalse other =>
    simp [eq_undetermined_iff, detect_iterate_eq_sync_iff, detect_iterate_eq_async_iff, function, other]

theorem detect_coroutine (app : α) (s : Signature) :
    detect (withMethod^[n] (coroutine app s) : Entrypoint σ α) =
      if s.required = 3 ∧ n ≤ 1 then async app else undetermined := by
  have awaited : (coroutine app s : Entrypoint σ α).IsAwaited := .inl rfl
  split
  case isTrue told =>
    have near : n = 0 ∨ n = 1 := by omega
    rw [detect_iterate_eq_async_iff]
    refine .inr ⟨fun _ => rfl, ⟨s, rfl, told.1⟩, ?_, rfl⟩
    exact near.imp (⟨·, awaited⟩) (⟨·, rfl⟩)
  case isFalse other =>
    rw [eq_undetermined_iff]
    constructor
    · simp [detect_iterate_eq_sync_iff, coroutine]
    · intro bound
      rw [Ne, detect_iterate_eq_async_iff]
      rintro (⟨-, declared⟩ | ⟨-, ⟨_, ⟨⟩, three⟩, near, -⟩)
      · simp [coroutine] at declared
      · exact other ⟨three, by omega⟩

theorem detect_framework (name : String) (form : α) (s : Option Signature) :
    detect (withMethod^[n] (framework name form s) : Entrypoint σ α) =
      if n = 0 then async form else undetermined := by
  split
  case isTrue bare =>
    rw [detect_iterate_eq_async_iff]
    exact .inl ⟨bare, rfl⟩
  case isFalse inside =>
    simp [eq_undetermined_iff, detect_iterate_eq_sync_iff, detect_iterate_eq_async_iff, framework, inside]

end Nested

/-- The convention of an object inside any number of instances: what it is for each kind of innermost object, that
nothing but the required parameters of a signature has a part in it, and where the bound application is from. -/
theorem detect_nested (σ α : Type) :
    (∀ (n : Nat) (app : σ) (s : Signature),
      detect (withMethod^[n] (function app s) : Entrypoint σ α) =
        if s.required = 2 then sync app else undetermined) ∧
    (∀ (n : Nat) (app : α) (s : Signature),
      detect (withMethod^[n] (coroutine app s) : Entrypoint σ α) =
        if s.required = 3 ∧ n ≤ 1 then async app else undetermined) ∧
    (∀ (n : Nat) (name : String) (form : α) (s : Option Signature),
      detect (withMethod^[n] (framework name form s) : Entrypoint σ α) =
        if n = 0 then async form else undetermined) ∧
    ∀ object : Entrypoint σ α,
      (∀ (n : Nat) (s t : Signature), Relation.ReflTransGen Change s t →
        detect (withMethod^[n] { object with signature := .ok s }) =
          detect (withMethod^[n] { object with signature := .ok t })) ∧
      (∀ name, object.signature = .error name → object.asyncForm = none → detect object = undetermined) ∧
      (∀ app, detect object = sync app → object.asSync = some app) ∧
      ∀ app, detect object = async app →
        object.asyncForm = some app ∨ object.asyncForm = none ∧ object.asAsync = some app := by
  refine ⟨detect_function, detect_coroutine, detect_framework, fun object => ⟨?_, ?_, ?_, ?_⟩⟩
  · intro n s t changes
    rw [iterate_withMethod_signature n object (.ok s), iterate_withMethod_signature n object (.ok t)]
    exact detect_signature_eq_of_required_eq (required_eq_of_changes changes) _
  · intro name failed undeclared
    exact detect_of_error failed undeclared
  · intro app told
    obtain ⟨-, -, bound⟩ := detect_eq_sync_iff.mp told
    exact bound
  · intro app told
    obtain declared | ⟨undeclared, -, -, bound⟩ := detect_eq_async_iff.mp told
    · exact .inl declared
    · exact .inr ⟨undeclared, bound⟩

/-- A parameter with a default moves from the front of a coroutine's signature to its end, behind an instance; an
object without a signature; and one application of each convention. -/
theorem detect_nested_default :
    let names : Signature := .ofNames ["scope", "receive", "send"]
    let debug : Parameter := { name := "debug", hasDefault := true }
    let before : Entrypoint String String := coroutine "app" (debug :: names)
    let after : Entrypoint String String := coroutine "app" (names ++ [debug])
    let builtin : Entrypoint String String := { signature := .error "print" }
    let plain : Entrypoint String String := function "app"
    Relation.ReflTransGen Change (debug :: names) (names ++ [debug]) ∧
    detect (withMethod^[1] before) = detect (withMethod^[1] after) ∧
    detect builtin = undetermined ∧
    (detect plain = sync "app" ∧ plain.asSync = some "app") ∧
    detect before = async "app" ∧
    (before.asyncForm = some "app" ∨ before.asyncForm = none ∧ before.asAsync = some "app") := by
  obtain ⟨-, -, -, told⟩ := detect_nested String String
  intro names debug before after builtin plain
  have moved : Change ([] ++ debug :: names) (names ++ debug :: []) := .move debug rfl (by simp)
  have isSync : detect plain = sync "app" := by decide
  have isAsync : detect before = async "app" := by decide
  exact ⟨.single moved, (told before).1 1 _ _ (.single moved), (told builtin).2.1 "print" rfl rfl,
    ⟨isSync, (told plain).2.2.1 "app" isSync⟩, isAsync, (told before).2.2.2 "app" isAsync⟩

end Convention
end Gateway
