import Std.Data.ExtTreeMap

/-!
# The store of a parse

Actions and predicates share a store of named values, which is handed from each
of them to the next one in the order in which they run.  The values are of any
type; nothing but the code itself looks into them.

The values that settings come with when they are read from a description are
truth values, numbers and texts.  A key that is read as another kind of value
than it holds counts as absent.
-/

namespace PegEngine

/-- A value in the store, if it is one of three kinds. -/
inductive StoreValue where
  | bool (flag : Bool)
  | int (number : Int)
  | text (string : String)
deriving DecidableEq, Repr

namespace StoreValue

def written : StoreValue → String
  | .bool true => "true"
  | .bool false => "false"
  | .int number => toString number
  | .text string => string

end StoreValue

/-- The named values that the code of a grammar shares. -/
structure Store (σ : Type := StoreValue) where
  values : Std.ExtTreeMap String σ

namespace Store

variable {σ : Type}

def empty : Store σ := ⟨∅⟩

def get? (store : Store σ) (key : String) : Option σ :=
  store.values[key]?

def contains (store : Store σ) (key : String) : Bool :=
  (store.get? key).isSome

/-- Give a key a value, or take its value away. -/
def set (store : Store σ) (key : String) : Option σ → Store σ
  | some value => ⟨store.values.insert key value⟩
  | none => ⟨store.values.erase key⟩

/-- The keys that have a value, in ascending order. -/
def keys (store : Store σ) : List String :=
  store.values.keys

/-- Stores that agree on every key are the same. -/
@[ext]
theorem ext {first second : Store σ}
    (sameValues : ∀ key, first.get? key = second.get? key) :
    first = second := by
  cases first with
  | mk firstValues =>
      cases second with
      | mk secondValues =>
          exact congrArg Store.mk (Std.ExtTreeMap.ext_getElem? sameValues)

/-- Setting a key changes the value of that key only. -/
theorem get?_set (store : Store σ) (key other : String) (value : Option σ) :
    (store.set key value).get? other =
      if key = other then value else store.get? other := by
  cases value with
  | none => simp [set, get?, Std.ExtTreeMap.getElem?_erase]
  | some value => simp [set, get?, Std.ExtTreeMap.getElem?_insert]

/-- Setting a key back to the value that it had undoes a change. -/
theorem set_get?_set (store : Store σ) (key : String) (value : Option σ) :
    (store.set key value).set key (store.get? key) = store := by
  ext other
  simp only [get?_set]
  split <;> simp_all

/-- The value of a key that holds a truth value. -/
def bool? (store : Store) (key : String) : Option Bool :=
  match store.get? key with
  | some (.bool flag) => some flag
  | _ => none

def int? (store : Store) (key : String) : Option Int :=
  match store.get? key with
  | some (.int number) => some number
  | _ => none

def text? (store : Store) (key : String) : Option String :=
  match store.get? key with
  | some (.text string) => some string
  | _ => none

end Store

end PegEngine
