import PegEngine.Value
import Std.Data.ExtTreeMap

/-!
# Label scopes

Labels are bound in frames, and frames are stacked: entering a scope puts an
empty frame on top, leaving it takes the frame off again with everything that
was bound in it.  The outermost frame always stays.  A frame that is taken off
is emptied and set aside, so that the next scope to be entered can reuse its
storage.

A frame lists its labels in the order in which they were bound first.  Nothing
outside of the frame depends on that order: code is given the labels as a map
(`Frame.toMap`).
-/

namespace PegEngine

/-- A map from labels to values. -/
abbrev LabelMap (α : Type) := Std.ExtTreeMap String (Value α)

/-- The labels that are bound in one scope, each with its value. -/
structure Frame (α : Type) where
  bindings : Array (String × Value α)

namespace Frame

variable {α : Type}

def empty : Frame α := ⟨#[]⟩

/-- Test whether a binding is of a label. -/
def bears (label : String) (binding : String × Value α) : Bool :=
  binding.1 == label

def get? (frame : Frame α) (label : String) : Option (Value α) :=
  (frame.bindings.find? (bears label)).map Prod.snd

/-- Bind a label, in place of the value that it has. -/
def bind (frame : Frame α) (label : String) (value : Value α) : Frame α :=
  match frame.bindings.findIdx? (bears label) with
  | some index => ⟨frame.bindings.setIfInBounds index (label, value)⟩
  | none => ⟨frame.bindings.push (label, value)⟩

/-- Take all labels out of a frame, and keep its storage. -/
def clear (frame : Frame α) : Frame α := ⟨frame.bindings.shrink 0⟩

/-- The labels of a frame with their values, in ascending order of labels. -/
def toSortedList (frame : Frame α) : List (String × Value α) :=
  frame.bindings.toList.mergeSort fun first second => !(second.1 < first.1)

/-- The labels of a frame as a map, which gives each of them the value that the
frame gives it. -/
def toMap (frame : Frame α) : LabelMap α :=
  frame.bindings.toList.foldr
    (fun binding map => map.insert binding.1 binding.2) ∅

theorem bears_eq_true {label : String} {binding : String × Value α} :
    bears label binding = true ↔ binding.1 = label := by
  simp [bears]

theorem clear_eq_empty (frame : Frame α) : frame.clear = empty := by
  simp [clear, empty]

theorem get?_empty (label : String) :
    (empty : Frame α).get? label = none := by
  simp [empty, get?]

theorem getElem?_toMap (frame : Frame α) (label : String) :
    frame.toMap[label]? = frame.get? label := by
  rw [toMap, get?, ← Array.find?_toList]
  induction frame.bindings.toList with
  | nil => simp
  | cons first bindings ih =>
      rw [List.foldr_cons, Std.ExtTreeMap.getElem?_insert, ih]
      by_cases atFirst : first.1 = label <;> simp [bears, atFirst]

/-- In a list of bindings, writing at the first place of a label, or at the end
if there is none, changes what is found for that label only. -/
theorem find?_write (bindings : List (String × Value α)) (label other : String)
    (value : Value α) :
    (match bindings.findIdx? (bears label) with
      | some index => bindings.set index (label, value)
      | none => bindings ++ [(label, value)]).find? (bears other) =
      if other = label then some (label, value)
      else bindings.find? (bears other) := by
  induction bindings with
  | nil =>
      by_cases same : other = label
      · simp [bears, same]
      · simp [bears, same, Ne.symm same]
  | cons first bindings ih =>
      by_cases atFirst : first.1 = label
      · by_cases same : other = label
        · simp [List.findIdx?_cons, bears, atFirst, same]
        · simp [List.findIdx?_cons, bears, atFirst, same, Ne.symm same]
      · by_cases same : first.1 = other
        · have differs : other ≠ label := fun equal =>
            atFirst (same.trans equal)
          cases place : bindings.findIdx? (bears label) <;>
            simp [List.findIdx?_cons, bears_eq_true, place, same, differs]
        · cases place : bindings.findIdx? (bears label) <;>
            simpa [List.findIdx?_cons, bears_eq_true, atFirst, place, same]
              using ih

/-- Binding a label changes the value of that label only. -/
theorem get?_bind (frame : Frame α) (label other : String) (value : Value α) :
    (frame.bind label value).get? other =
      if other = label then some value else frame.get? other := by
  obtain ⟨⟨bindings⟩⟩ := frame
  have written := find?_write bindings label other value
  cases place : bindings.findIdx? (bears label) with
  | none =>
      simp only [place] at written
      simp only [bind, get?, List.findIdx?_toArray, place, List.push_toArray,
        List.find?_toArray, written]
      split <;> rfl
  | some index =>
      simp only [place] at written
      simp only [bind, get?, List.findIdx?_toArray, place,
        List.setIfInBounds_toArray, List.find?_toArray, written]
      split <;> rfl

end Frame

/-- A stack of frames with at least one frame, and the emptied frames that are
set aside. -/
structure ScopeStack (α : Type) where
  top : Frame α
  below : List (Frame α)
  spare : List (Frame α)

namespace ScopeStack

variable {α : Type}

/-- The stack that holds the outermost frame only. -/
def root : ScopeStack α := ⟨Frame.empty, [], []⟩

def push (stack : ScopeStack α) : ScopeStack α :=
  match stack.spare with
  | frame :: spare => ⟨frame, stack.top :: stack.below, spare⟩
  | [] => ⟨Frame.empty, stack.top :: stack.below, []⟩

/-- Leave a scope; the outermost one is never left. -/
def pop (stack : ScopeStack α) : ScopeStack α :=
  match stack.below with
  | frame :: below => ⟨frame, below, stack.top.clear :: stack.spare⟩
  | [] => stack

def bind (stack : ScopeStack α) (label : String) (value : Value α) :
    ScopeStack α :=
  { stack with top := stack.top.bind label value }

/-- The number of frames, the outermost one included. -/
def depth (stack : ScopeStack α) : Nat := stack.below.length + 1

end ScopeStack

end PegEngine
