import PegEngine.Store
import PegEngine.Text.Quoted
import PegEngine.Text.Record

/-!
# Options and settings

The options of a parse are changed by settings, one at a time.  Applying a
setting gives the setting that takes it back, so a whole list of settings can
be undone by applying the list of their inverses, the last one first.
-/

namespace PegEngine

/-- The options of a parse, the code of which stores values of the given
type. -/
structure Options (σ : Type := StoreValue) where
  maxExpressions : Option Nat
  debug : Bool
  memoize : Bool
  recover : Bool
  store : Store σ

/-- A new value for one option, or for one key of the store. -/
inductive Setting (σ : Type := StoreValue) where
  | maxExpressions (limit : Option Nat)
  | debug (enabled : Bool)
  | memoize (enabled : Bool)
  | recover (enabled : Bool)
  | store (key : String) (value : Option σ)
deriving DecidableEq, Repr

namespace Options

variable {σ : Type}

/-- Without settings there is no limit and no trace, nothing is memoized, and
faults in the code of a grammar are contained. -/
def default : Options σ := ⟨none, false, false, true, Store.empty⟩

/-- The setting that would keep the options as they are, where the given one
would change them. -/
def current (options : Options σ) : Setting σ → Setting σ
  | .maxExpressions _ => .maxExpressions options.maxExpressions
  | .debug _ => .debug options.debug
  | .memoize _ => .memoize options.memoize
  | .recover _ => .recover options.recover
  | .store key _ => .store key (options.store.get? key)

/-- The options after a setting. -/
def set (options : Options σ) : Setting σ → Options σ
  | .maxExpressions limit => { options with maxExpressions := limit }
  | .debug enabled => { options with debug := enabled }
  | .memoize enabled => { options with memoize := enabled }
  | .recover enabled => { options with recover := enabled }
  | .store key value => { options with store := options.store.set key value }

/-- Apply a setting, and give the setting that takes it back. -/
def apply (options : Options σ) (setting : Setting σ) : Setting σ × Options σ :=
  (options.current setting, options.set setting)

/-- Apply settings in order, and give the settings that take them back, in the
order in which they have to be applied. -/
def applyAll (options : Options σ) :
    List (Setting σ) → List (Setting σ) × Options σ
  | [] => ([], options)
  | setting :: settings =>
    let (inverse, changed) := options.apply setting
    let (inverses, final) := changed.applyAll settings
    (inverses ++ [inverse], final)

/-- The setting that would keep the options takes any change back. -/
theorem set_current (options : Options σ) (setting : Setting σ) :
    (options.set setting).set (options.current setting) = options := by
  cases setting <;> simp [set, current, Store.set_get?_set]

/-- After a change, the setting that would keep the options is the change. -/
theorem current_set (options : Options σ) (setting : Setting σ) :
    (options.set setting).current (options.current setting) = setting := by
  cases setting <;> simp [set, current, Store.get?_set]

/-- The default options, changed by some settings. -/
def ofSettings (settings : List (Setting σ)) : Options σ :=
  (default.applyAll settings).2

def limitText (limit : Option Nat) : String :=
  Record.option (limit.map toString)

/-- The options written as a record, of which the store shows its keys only. -/
def asRecord (options : Options σ) : String :=
  Record.named "Options"
    [("max_expressions", limitText options.maxExpressions),
      ("debug", Record.bool options.debug),
      ("memoize", Record.bool options.memoize),
      ("recover", Record.bool options.recover),
      ("global_store", Record.named "GlobalStore"
        [("keys", Record.list (options.store.keys.map Quoted.text))])]

end Options

namespace Setting

variable {σ : Type}

/-- A setting written as a record; of a value in the store only its presence is
shown. -/
def asRecord : Setting σ → String
  | .maxExpressions limit =>
    Record.unnamed "MaxExpressions" [Options.limitText limit]
  | .debug enabled => Record.unnamed "Debug" [Record.bool enabled]
  | .memoize enabled => Record.unnamed "Memoize" [Record.bool enabled]
  | .recover enabled => Record.unnamed "Recover" [Record.bool enabled]
  | .store key value =>
    Record.unnamed "GlobalStore" [Quoted.text key, Record.bool value.isSome]

end Setting

end PegEngine
