import Mathlib.Algebra.Ring.Parity
import PegEngine.Options

/-!
# Taking settings back

Applying settings gives the settings that take them back.  Of several settings
of one option the last one counts (`Options.current_applyAll`), so the inverses
have to be applied in the opposite order.  Then they restore the options
exactly, and taking them back in turn gives the settings from which everything
started: to exchange settings for their inverses is an involution
(`Options.applyAll_reversible`).
-/

namespace PegEngine

variable {σ : Type}

namespace Setting

/-- Test whether two settings are of the same option, or of the same key of the
store. -/
def sameTarget : Setting σ → Setting σ → Bool
  | .maxExpressions _, .maxExpressions _ => true
  | .debug _, .debug _ => true
  | .memoize _, .memoize _ => true
  | .recover _, .recover _ => true
  | .store key _, .store other _ => key == other
  | _, _ => false

end Setting

namespace Options

/-- A setting changes the option that it is of, and no other one. -/
theorem current_set_eq (options : Options σ) (setting other : Setting σ) :
    (options.set setting).current other =
      if other.sameTarget setting then setting else options.current other := by
  cases setting with
  | store key value =>
      cases other with
      | store otherKey otherValue =>
          by_cases same : otherKey = key
          · simp [set, current, Setting.sameTarget, Store.get?_set, same]
          · simp [set, current, Setting.sameTarget, Store.get?_set, same,
              Ne.symm same]
      | _ => rfl
  | maxExpressions | debug | memoize | recover => cases other <;> rfl

/-- The last setting of an option decides what its value is. -/
theorem current_applyAll (options : Options σ) (settings : List (Setting σ))
    (other : Setting σ) :
    (options.applyAll settings).2.current other =
      (settings.reverse.find? other.sameTarget).getD
        (options.current other) := by
  induction settings generalizing options with
  | nil => rfl
  | cons setting settings ih =>
      rw [List.reverse_cons, List.find?_append]
      calc (options.applyAll (setting :: settings)).2.current other
        _ = (settings.reverse.find? other.sameTarget).getD
              ((options.set setting).current other) := ih _
        _ = (settings.reverse.find? other.sameTarget).getD
              (([setting].find? other.sameTarget).getD
                (options.current other)) := by
            rw [current_set_eq, List.find?_singleton]
            split <;> rfl
        _ = _ := by
            cases settings.reverse.find? other.sameTarget <;> rfl

/-- Settings that come first are taken back last. -/
theorem applyAll_append (options : Options σ)
    (settings later : List (Setting σ)) :
    options.applyAll (settings ++ later) =
      let (inverses, middle) := options.applyAll settings
      let (inversesLater, final) := middle.applyAll later
      (inversesLater ++ inverses, final) := by
  induction settings generalizing options with
  | nil => simp [applyAll]
  | cons setting settings ih =>
      simp only [List.cons_append, applyAll, ih, List.append_assoc]

/-- The inverses of settings restore the options, and their inverses are the
settings. -/
theorem applyAll_applyAll (options : Options σ) (settings : List (Setting σ)) :
    (options.applyAll settings).2.applyAll (options.applyAll settings).1 =
      (settings, options) := by
  induction settings generalizing options with
  | nil => rfl
  | cons setting settings ih =>
      -- The later settings are taken back first, which leaves the options as
      -- they were after the first one.
      have later := ih (options.set setting)
      simp only [applyAll, apply] at later ⊢
      simp only [applyAll_append, later, applyAll, apply, set_current,
        current_set, List.nil_append, List.singleton_append]

/-- Exchange settings that are to be applied for those that take them back. -/
def exchange (pending : List (Setting σ) × Options σ) :
    List (Setting σ) × Options σ :=
  pending.2.applyAll pending.1

theorem exchange_involutive : Function.Involutive (exchange (σ := σ)) :=
  fun (settings, options) => applyAll_applyAll options settings

/-- Settings take effect, the last one of an option deciding, and they can be
taken back: applying the inverses restores the options and gives back the
settings, and so on with every further turn. -/
theorem applyAll_reversible (options : Options σ)
    (settings : List (Setting σ)) :
    (∀ other, (options.applyAll settings).2.current other =
      (settings.reverse.find? other.sameTarget).getD
        (options.current other)) ∧
    (options.applyAll settings).2.applyAll (options.applyAll settings).1 =
      (settings, options) ∧
    ∀ turns,
      exchange^[2 * turns] (settings, options) = (settings, options) ∧
      exchange^[2 * turns + 1] (settings, options) =
        options.applyAll settings := by
  refine ⟨current_applyAll options settings,
    applyAll_applyAll options settings, fun turns => ⟨?_, ?_⟩⟩
  · rw [exchange_involutive.iterate_even (even_two_mul turns)]
    rfl
  · rw [exchange_involutive.iterate_odd (odd_two_mul_add_one turns)]
    rfl

end Options

end PegEngine
