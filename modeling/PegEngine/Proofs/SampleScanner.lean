import PegEngine.Grammars.Sample
import PegEngine.Proofs.Scanners

/-!
# The scanner of samples

A sample can be cut into tokens in one pass.  Each step takes an identifier, or
else a keyword, or else some spaces (`Sample.step?`), and the steps are taken
until there is nothing more to take (`Sample.scan`), which is at a brace or at
the end (`Sample.scan_stops`).  The grammar is not mentioned here.
-/

namespace PegEngine

namespace Sample

/-- Neither a letter from `a` to `z` or from `A` to `Z`, nor a digit, nor a
brace, nor a space. -/
def isPunctuation (char : Char) : Bool :=
  !(('a' ≤ char && char ≤ 'z') || ('A' ≤ char && char ≤ 'Z') ||
    ('0' ≤ char && char ≤ '9') || char == '{' || char == '}' || char == ' ')

def isSpacing (char : Char) : Bool :=
  char == ' ' || char == '\t' || char == '\r' || char == '\n'

/-- Neither a brace nor spacing. -/
def isPlain (char : Char) : Bool :=
  !(char == '{' || char == '}' || isSpacing char)

/-- The longest run of punctuation, or else of characters that are neither
braces nor spacing. -/
def identifier? : Scanner (List Char) := fun chars =>
  (Scanner.run isPunctuation chars).or (Scanner.run isPlain chars)

/-- The longest run of spacing where spacing is wanted, and nothing where it is
not. -/
def spacing? (wanted : Bool) : Scanner (List Char) := fun chars =>
  if wanted then Scanner.run isSpacing chars else some ([], chars)

/-- The end of a keyword: spacing, where it is wanted, and a brace. -/
def closed? (behind : Bool) (text : List Char) :
    Scanner Token := fun chars => do
  let (_, last) ← spacing? behind chars
  let (_, later) ← Scanner.one (· == '}') last
  return (⟨true, String.ofList text⟩, later)

/-- An identifier between braces, with spacing before and behind it or not. -/
def braced? (before behind : Bool) : Scanner Token := fun chars => do
  let (_, inside) ← Scanner.one (· == '{') chars
  let (_, named) ← spacing? before inside
  let (text, following) ← identifier? named
  closed? behind text following

/-- The first of the four forms of a keyword that is there. -/
def keyword? : Scanner Token := fun chars =>
  (braced? true false chars).or
    ((braced? false true chars).or
      ((braced? true true chars).or (braced? false false chars)))

/-- The token at the start of a text, or the mere fact that there are spaces. -/
def step? : Scanner (Option Token) := fun chars =>
  ((identifier? chars).map
      (Prod.map (fun text => some ⟨false, String.ofList text⟩) id)).or
    (((keyword? chars).map (Prod.map some id)).or
      ((Scanner.run (· == ' ') chars).map (Prod.map (fun _ => none) id)))

section Lengths

variable {chars later : List Char}

theorem length_of_identifier {text : List Char}
    (finds : identifier? chars = some (text, later)) :
    later.length < chars.length := by
  rcases Option.or_eq_some_iff.mp finds with finds | ⟨-, finds⟩
  · exact Scanner.length_of_run finds
  · exact Scanner.length_of_run finds

theorem length_of_spacing {wanted : Bool} {spacing : List Char}
    (finds : spacing? wanted chars = some (spacing, later)) :
    later.length ≤ chars.length := by
  cases wanted with
  | true => exact Nat.le_of_lt (Scanner.length_of_run finds)
  | false =>
      cases finds
      exact Nat.le_refl _

theorem length_of_closed {behind : Bool} {text : List Char} {token : Token}
    (finds : closed? behind text chars = some (token, later)) :
    later.length < chars.length := by
  simp only [closed?, Option.bind_eq_bind, Option.bind_eq_some_iff,
    Option.pure_def, Option.some.injEq, Prod.mk.injEq] at finds
  obtain ⟨⟨_, last⟩, follows, ⟨_, rest⟩, closes, -, rfl⟩ := finds
  obtain ⟨rfl, -⟩ := Scanner.one_eq_some.mp closes
  exact Nat.lt_of_succ_le (length_of_spacing follows)

theorem length_of_braced {before behind : Bool} {token : Token}
    (finds : braced? before behind chars = some (token, later)) :
    later.length < chars.length := by
  simp only [braced?, Option.bind_eq_bind, Option.bind_eq_some_iff] at finds
  obtain ⟨⟨_, inside⟩, opens, ⟨_, named⟩, precedes, ⟨text, following⟩, isName,
    closes⟩ := finds
  obtain ⟨rfl, -⟩ := Scanner.one_eq_some.mp opens
  calc
    later.length < following.length := length_of_closed closes
    _ < named.length := length_of_identifier isName
    _ ≤ inside.length := length_of_spacing precedes
    _ < _ := Nat.lt_succ_self _

theorem length_of_keyword {token : Token}
    (finds : keyword? chars = some (token, later)) :
    later.length < chars.length := by
  simp only [keyword?, Option.or_eq_some_iff] at finds
  rcases finds with finds | ⟨-, finds | ⟨-, finds | ⟨-, finds⟩⟩⟩
  all_goals exact length_of_braced finds

/-- Every step takes something. -/
theorem length_of_step {token : Option Token}
    (finds : step? chars = some (token, later)) :
    later.length < chars.length := by
  simp only [step?, Option.or_eq_some_iff, Option.map_eq_some_iff,
    Prod.exists, Prod.map_apply, Prod.mk.injEq, id_eq] at finds
  rcases finds with ⟨_, _, finds, -, rfl⟩ |
    ⟨-, ⟨_, _, finds, -, rfl⟩ | ⟨-, _, _, finds, -, rfl⟩⟩
  · exact length_of_identifier finds
  · exact length_of_keyword finds
  · exact Scanner.length_of_run finds

end Lengths

/-- What all steps find, and what is behind them. -/
def scan (chars : List Char) : List (Option Token) × List Char :=
  match _finds : step? chars with
  | none => ([], chars)
  | some (token, later) => (scan later).map (List.cons token) id
termination_by chars.length
decreasing_by exact length_of_step _finds

theorem scan_steps (chars : List Char) :
    Scanner.Steps step? chars (scan chars).1 (scan chars).2 := by
  fun_induction scan chars with
  | case1 chars nothing => exact .stops nothing
  | case2 chars token later finds ih =>
      exact .step finds (length_of_step finds) ih

/-- Nothing can be taken only at a brace and at the end. -/
theorem stops_of_step {chars : List Char} (nothing : step? chars = none) :
    chars = [] ∨ ∃ brace later, chars = brace :: later ∧
      (brace = '{' ∨ brace = '}') := by
  simp only [step?, identifier?, Option.or_eq_none_iff, Option.map_eq_none_iff,
    Scanner.run_eq_none] at nothing
  obtain ⟨⟨noPunctuation, noPlain⟩, -, noSpace⟩ := nothing
  cases chars with
  | nil => exact .inl rfl
  | cons char later =>
      refine .inr ⟨char, later, rfl, ?_⟩
      have punctuation := noPunctuation char rfl
      have plain := noPlain char rfl
      have space := noSpace char rfl
      simp only [isPlain, isSpacing, Bool.not_eq_false', Bool.or_eq_true,
        beq_iff_eq] at plain
      rcases plain with (isOpening | isClosing) |
        ((isSpace | isTab) | isReturn) | isFeed
      · exact .inl isOpening
      · exact .inr isClosing
      · simp [isSpace] at space
      all_goals
        subst char
        cases punctuation

/-- A scan stops at a brace or at the end. -/
theorem scan_stops (chars : List Char) :
    (scan chars).2 = [] ∨ ∃ brace later, (scan chars).2 = brace :: later ∧
      (brace = '{' ∨ brace = '}') := by
  fun_induction scan chars with
  | case1 chars nothing => exact stops_of_step nothing
  | case2 chars token later finds ih => exact ih

example : scan "ok \x7b a \x7d \x7bfoo".toList =
    ([some ⟨false, "ok"⟩, none, some ⟨true, "a"⟩, none], "\x7bfoo".toList) := by
  cbv

end Sample

end PegEngine
