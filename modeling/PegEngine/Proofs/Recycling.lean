import Mathlib.Data.List.Sort
import PegEngine.Scopes

/-!
# Frames that are used again

The frame of a scope that was left serves the next scope that is entered.
Nobody can tell: whatever is done to a stack of scopes, it has the depth and the
labels of a stack that takes a new map for every scope and throws the maps of
the others away (`ScopeStack.recycling_is_invisible`).

Every step keeps the two stacks alike (`ScopeStack.Simulates.step`).  A frame is
like a map if it binds no label twice and gives every label the value that the
map gives it (`Frame.Represents`), and a frame that is set aside binds nothing.
-/

namespace PegEngine

namespace Frame

variable {α : Type} {bindings : List (String × Value α)} {label : String}
  {value : Value α}

/-- Binding a label adds it to the labels that are bound, or leaves these as
they are. -/
theorem map_fst_write (bindings : List (String × Value α)) (label : String)
    (value : Value α) :
    (match bindings.findIdx? (bears label) with
      | some index => bindings.set index (label, value)
      | none => bindings ++ [(label, value)]).map Prod.fst =
      if label ∈ bindings.map Prod.fst then bindings.map Prod.fst
      else bindings.map Prod.fst ++ [label] := by
  induction bindings with
  | nil => simp
  | cons first bindings ih =>
      by_cases atFirst : first.1 = label
      · simp [List.findIdx?_cons, bears, atFirst]
      · cases place : bindings.findIdx? (bears label) with
        | none =>
            simp only [place] at ih
            simp only [List.findIdx?_cons, bears_eq_true, atFirst, place,
              Option.map_none, if_false, List.cons_append, List.map_cons, ih,
              List.mem_cons, Ne.symm atFirst, false_or]
            split <;> rfl
        | some index =>
            simp only [place] at ih
            simp only [List.findIdx?_cons, bears_eq_true, atFirst, place,
              Option.map_some, if_false, List.set_cons_succ, List.map_cons, ih,
              List.mem_cons, Ne.symm atFirst, false_or]
            split <;> rfl

/-- If no label is bound twice, what is found for a label is what it is bound
to. -/
theorem mem_iff_find? (distinct : (bindings.map Prod.fst).Nodup) :
    (label, value) ∈ bindings ↔
      (bindings.find? (bears label)).map Prod.snd = some value := by
  induction bindings with
  | nil => simp
  | cons first bindings ih =>
      obtain ⟨new, distinct⟩ := List.nodup_cons.mp distinct
      by_cases atFirst : first.1 = label
      · subst atFirst
        have elsewhere : (first.1, value) ∉ bindings := fun isBound =>
          new (List.mem_map.mpr ⟨_, isBound, rfl⟩)
        simp [bears, elsewhere, Prod.ext_iff, eq_comm]
      · simp [bears_eq_true, atFirst, Prod.ext_iff, Ne.symm atFirst,
          ← ih distinct]

/-- A frame is like a map from labels to values: it binds no label twice, and
gives every label the same value or none. -/
structure Represents (frame : Frame α) (map : LabelMap α) : Prop where
  distinct : (frame.bindings.toList.map Prod.fst).Nodup
  values : ∀ label, frame.get? label = map[label]?

variable {frame : Frame α} {map : LabelMap α}

theorem represents_empty : (empty : Frame α).Represents ∅ :=
  ⟨List.nodup_nil, fun label => by
    rw [get?_empty, Std.ExtTreeMap.getElem?_empty]⟩

theorem Represents.bind (represents : frame.Represents map) (label : String)
    (value : Value α) :
    (frame.bind label value).Represents (map.insert label value) := by
  refine ⟨?_, fun other => ?_⟩
  · have written := map_fst_write frame.bindings.toList label value
    have labels : (frame.bind label value).bindings.toList.map Prod.fst =
        if label ∈ frame.bindings.toList.map Prod.fst then
          frame.bindings.toList.map Prod.fst
        else frame.bindings.toList.map Prod.fst ++ [label] := by
      rw [← written, Frame.bind, ← List.findIdx?_toArray, Array.toArray_toList]
      cases frame.bindings.findIdx? (bears label) <;> simp
    rw [labels]
    split
    case isTrue => exact represents.distinct
    case isFalse new =>
      exact List.nodup_append.mpr ⟨represents.distinct, List.nodup_singleton _,
        by rintro other isBound _ (_ | ⟨_, ⟨⟩⟩) rfl; exact new isBound⟩
  · rw [get?_bind, represents.values, Std.ExtTreeMap.getElem?_insert]
    simp only [Std.compare_eq_iff_eq, eq_comm (a := other)]

/-- The labels of a frame with their values, in order, are those of the map that
it is like. -/
theorem Represents.toSortedList_eq (represents : frame.Represents map) :
    frame.toSortedList = map.toList := by
  have permuted : frame.toSortedList.Perm frame.bindings.toList :=
    List.mergeSort_perm _ _
  have distinct : (frame.toSortedList.map Prod.fst).Nodup :=
    (permuted.map Prod.fst).nodup_iff.mpr represents.distinct
  have notBefore : ∀ first second : String × Value α,
      (!decide (second.1 < first.1)) = true ↔ first.1 ≤ second.1 := by
    simp only [Bool.not_eq_true', decide_eq_false_iff_not, String.not_lt,
      implies_true]
  have ordered : frame.toSortedList.Pairwise fun first second =>
      first.1 ≤ second.1 := by
    refine (List.pairwise_mergeSort ?_ ?_ _).imp (notBefore _ _).mp
    · intro first second third
      simpa only [notBefore] using String.le_trans
    · intro first second
      simpa only [Bool.or_eq_true, notBefore] using
        String.le_total first.1 second.1
  have ascending : frame.toSortedList.Pairwise fun first second =>
      first.1 < second.1 :=
    ordered.imp₂ (fun _ _ => Std.lt_of_le_of_ne)
      (List.pairwise_map.mp distinct)
  have compared : map.toList.Pairwise fun first second =>
      compare first.1 second.1 = .lt := Std.ExtTreeMap.ordered_keys_toList
  have ascendingToo : map.toList.Pairwise fun first second =>
      first.1 < second.1 := compared.imp compareOfLessAndEq_eq_lt.mp
  have irreflexive : Std.Irrefl fun first second : String × Value α =>
      first.1 < second.1 := ⟨fun binding => String.lt_irrefl binding.1⟩
  refine ascending.eq_of_mem_iff ascendingToo fun (label, value) => ?_
  rw [permuted.mem_iff, mem_iff_find? represents.distinct,
    Std.ExtTreeMap.mem_toList_iff_getElem?_eq_some, ← represents.values,
    Frame.get?, Array.find?_toList]

end Frame

/-- A step in the use of a stack of scopes. -/
inductive ScopeStep (α : Type) where
  | push
  | pop
  | bind (label : String) (value : Value α)

/-- A plain stack of maps, with at least one map: every scope has a map of its
own, which is gone when the scope is left. -/
structure MapStack (α : Type) where
  top : LabelMap α
  below : List (LabelMap α)

namespace MapStack

variable {α : Type}

/-- The stack that holds one empty map. -/
def root : MapStack α := ⟨∅, []⟩

def step (stack : MapStack α) : ScopeStep α → MapStack α
  | .push => ⟨∅, stack.top :: stack.below⟩
  | .pop =>
    match stack.below with
    | map :: below => ⟨map, below⟩
    | [] => stack
  | .bind label value => ⟨stack.top.insert label value, stack.below⟩

/-- The stack after some steps from its creation on. -/
def after (steps : List (ScopeStep α)) : MapStack α :=
  steps.foldl step root

def depth (stack : MapStack α) : Nat := stack.below.length + 1

end MapStack

namespace ScopeStack

variable {α : Type} {stack : ScopeStack α} {plain : MapStack α}

def step (stack : ScopeStack α) : ScopeStep α → ScopeStack α
  | .push => stack.push
  | .pop => stack.pop
  | .bind label value => stack.bind label value

/-- The stack after some steps from its creation on. -/
def after (steps : List (ScopeStep α)) : ScopeStack α :=
  steps.foldl step root

/-- The scopes are those of a plain stack, and the frames that are set aside
bind nothing. -/
structure Simulates (stack : ScopeStack α) (plain : MapStack α) : Prop where
  top : stack.top.Represents plain.top
  below : List.Forall₂ Frame.Represents stack.below plain.below
  spare : ∀ frame ∈ stack.spare, frame = Frame.empty

theorem simulates_root : (root : ScopeStack α).Simulates MapStack.root :=
  ⟨Frame.represents_empty, .nil, nofun⟩

/-- The frame of the new scope binds nothing, whether it is a new one or has
been set aside. -/
theorem Simulates.push (simulates : stack.Simulates plain) :
    stack.push.Simulates (plain.step .push) := by
  obtain ⟨top, below, spare⟩ := stack
  cases spare with
  | nil =>
      exact ⟨Frame.represents_empty, .cons simulates.top simulates.below, nofun⟩
  | cons frame spare =>
      obtain ⟨rfl, cleared⟩ := List.forall_mem_cons.mp simulates.spare
      exact ⟨Frame.represents_empty, .cons simulates.top simulates.below,
        cleared⟩

/-- The frame of the scope that is left is set aside without its labels. -/
theorem Simulates.pop (simulates : stack.Simulates plain) :
    stack.pop.Simulates (plain.step .pop) := by
  obtain ⟨top, frames, spare⟩ := stack
  obtain ⟨map, maps⟩ := plain
  cases simulates.below with
  | nil => exact simulates
  | cons represents below =>
      exact ⟨represents, below, List.forall_mem_cons.mpr
        ⟨top.clear_eq_empty, simulates.spare⟩⟩

theorem Simulates.bind (simulates : stack.Simulates plain) (label : String)
    (value : Value α) :
    (stack.bind label value).Simulates (plain.step (.bind label value)) :=
  { simulates with top := simulates.top.bind label value }

theorem Simulates.step (simulates : stack.Simulates plain)
    (step : ScopeStep α) : (stack.step step).Simulates (plain.step step) := by
  cases step with
  | push => exact simulates.push
  | pop => exact simulates.pop
  | bind label value => exact simulates.bind label value

theorem Simulates.steps (simulates : stack.Simulates plain)
    (steps : List (ScopeStep α)) :
    (steps.foldl ScopeStack.step stack).Simulates
      (steps.foldl MapStack.step plain) := by
  induction steps generalizing stack plain with
  | nil => exact simulates
  | cons step steps ih => exact ih (simulates.step step)

/-- After any steps, a stack that uses its frames again is as deep as a plain
one and has the same labels with the same values on top, and every frame that it
has set aside binds nothing. -/
theorem recycling_is_invisible (steps : List (ScopeStep α)) :
    (after steps).depth = (MapStack.after steps).depth ∧
      (∀ label,
        (after steps).top.get? label = (MapStack.after steps).top[label]?) ∧
      (after steps).top.toSortedList = (MapStack.after steps).top.toList ∧
      ∀ frame ∈ (after steps).spare, frame = Frame.empty := by
  have simulates : (after steps).Simulates (MapStack.after steps) :=
    simulates_root.steps steps
  refine ⟨?_, simulates.top.values, simulates.top.toSortedList_eq,
    simulates.spare⟩
  rw [depth, MapStack.depth, simulates.below.length_eq]

end ScopeStack

end PegEngine
