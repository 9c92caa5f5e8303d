import PegEngine.Proofs.Farthest
import PegEngine.Proofs.Footing

/-!
# Where failures are reported

The position of the farthest failure is the one at which a matcher has started,
so it is the position of a cursor (`Session.noMatch_position`).  There is one
exception.  A parse starts with a position that was fixed before anything had
been read, and only a failure at a later offset takes its place.  If the input
begins with a line break, the cursor at its first code point is at column zero
of the second line, while a failure there is reported in the first line
(`Grammar.letter_misplaced`).
-/

namespace PegEngine

open ParseState

namespace Position

/-- The position at which failures are reported that lie at the very start. -/
theorem ofOffset_zero_eq_iff {bytes : ByteArray} :
    ofOffset bytes 0 = Expectations.empty.farthest ↔
      (Decoded.ofBytesAt bytes 0).codePoint ≠ some '\n' := by
  rw [ofOffset_zero]
  by_cases lineBreak : (Decoded.ofBytesAt bytes 0).codePoint = some '\n' <;>
    simp [next, start, Expectations.empty, lineBreak]

end Position

namespace ParseState

variable {α σ : Type} {session : Session α σ} {floor : Nat}
  {state : ParseState α σ}

/-- Where the farthest failure is, for as long as the footing is kept. -/
theorem Upright.farthest_eq (upright : state.Upright session floor) :
    Decoded.Boundary session.input state.expectations.farthest.offset ∧
      state.expectations.farthest =
        if state.expectations.farthest.offset = 0 then
          Expectations.empty.farthest
        else
          Position.ofOffset session.input
            state.expectations.farthest.offset := by
  rcases upright.farthest with first | ⟨passed, cursor, stands, here⟩
  · rw [first]
    exact ⟨Decoded.boundary_zero _, rfl⟩
  · rw [if_neg (Nat.ne_of_gt passed), ← here]
    exact ⟨stands.boundary, stands.position_eq⟩

end ParseState

namespace Session

variable {α σ : Type} {session : Session α σ}

/-- A failure is reported where the farthest attempt has started. -/
theorem noMatch_farthest {entry : Rule α σ} {parsed : Parsed α}
    {log : Array LogEntry} {diagnostic : Diagnostic} {expected : List String}
    (starts : session.grammar.start? = some entry)
    (valid : session.grammar.error? = none)
    (gives : session.Gives ⟨.parsed parsed, log⟩)
    (reported : diagnostic ∈ parsed.diagnostics.toList)
    (noMatch : diagnostic.error = .noMatch expected) :
    ∃ after : ParseState α σ, after.Upright session 0 ∧
      diagnostic.position = after.expectations.farthest := by
  obtain ⟨depth, ends⟩ := (gives_iff starts valid).mp gives
  obtain ⟨after, run, nothing⟩ := exists_of_misses
    (misses_of_noMatch starts valid ends reported noMatch)
  have keeps := Watch.keeps_rule (Watch.keeps_expr session depth) entry 0
    session.opening session.upright_opening
  refine ⟨after, keeps.2.result run, ?_⟩
  have none : after.diagnostics.toList = [] := List.isEmpty_iff.mp nothing
  rw [run] at ends
  cases ends
  simp only [reportNoMatch, if_pos nothing] at reported
  rcases mem_push reported with earlier | rfl
  · cases none ▸ earlier
  · rfl

/-- For a valid grammar, a failure to match is reported at a boundary of the
input: at the position that the cursor has when it stands there, or at the first
column of the first line if the boundary is the first one.  The latter is the
position of the cursor too, unless the input begins with a line break. -/
theorem noMatch_position (session : Session α σ)
    (valid : session.grammar.error? = none) {parsed : Parsed α}
    {log : Array LogEntry} {diagnostic : Diagnostic} {expected : List String}
    (gives : session.Gives ⟨.parsed parsed, log⟩)
    (reported : diagnostic ∈ parsed.diagnostics.toList)
    (noMatch : diagnostic.error = .noMatch expected) :
    Decoded.Boundary session.input diagnostic.position.offset ∧
      diagnostic.position =
        (if diagnostic.position.offset = 0 then ⟨1, 1, 0⟩
        else
          (Cursor.ofOffset session.input
            diagnostic.position.offset).position) ∧
      (diagnostic.position =
          (Cursor.ofOffset session.input
            diagnostic.position.offset).position ↔
        ¬ (diagnostic.position.offset = 0 ∧
          (Decoded.ofBytesAt session.input 0).codePoint = some '\n')) := by
  obtain ⟨entry, starts⟩ := Grammar.start?_of_valid valid
  obtain ⟨after, upright, here⟩ :=
    noMatch_farthest starts valid gives reported noMatch
  obtain ⟨boundary, place⟩ := upright.farthest_eq
  rw [← here] at boundary place
  refine ⟨boundary, place, ?_⟩
  by_cases first : diagnostic.position.offset = 0
  · rw [if_pos first] at place
    rw [first, place, eq_comm, and_iff_right rfl]
    exact Position.ofOffset_zero_eq_iff
  · rw [if_neg first] at place
    exact ⟨fun _ both => first both.1, fun _ => place⟩

end Session

namespace Grammar

/-- A grammar of one letter. -/
def letter : Rule Unit :=
  ⟨"main", "", .exactly "a"⟩

/-- The letter is wanted where a line begins. -/
def letterSession (input : String) : Session Unit :=
  .ofSettings ⟨[letter]⟩ "in" input.toUTF8 []

/-- The report of a failure at the very start. -/
def letterReport : Diagnostic :=
  ⟨⟨1, 1, 0⟩, "in:1:1 (0)", .noMatch ["\"a\""]⟩

/-- In front of another character, the failure is at the position of the
cursor. -/
theorem letter_noMatch_position :
    (letterSession "b\n").grammar.error? = none ∧
      ∃ parsed log,
        (letterSession "b\n").Gives ⟨.parsed parsed, log⟩ ∧
          parsed.diagnostics.toList = [letterReport] ∧
          letterReport.position =
            (Cursor.ofOffset (letterSession "b\n").input 0).position := by
  have gives : (letterSession "b\n").Gives ⟨.parsed _, _⟩ := ⟨8, rfl⟩
  refine ⟨rfl, _, _, gives, by decide +kernel, ?_⟩
  have placed := Session.noMatch_position (letterSession "b\n") rfl gives
    (by decide +kernel : letterReport ∈ _) rfl
  exact placed.2.2.mpr (by decide +kernel)

/-- In front of a line break it is not: the cursor stands at column zero of the
line that the line break opens. -/
theorem letter_misplaced :
    (letterSession "\n").grammar.error? = none ∧
      ∃ parsed log,
        (letterSession "\n").Gives ⟨.parsed parsed, log⟩ ∧
          parsed.diagnostics.toList = [letterReport] ∧
          letterReport.position = ⟨1, 1, 0⟩ ∧
          (Cursor.ofOffset (letterSession "\n").input
            letterReport.position.offset).position = ⟨2, 0, 0⟩ ∧
          (letterSession "\n").opening.cursor =
            Cursor.ofOffset (letterSession "\n").input
              letterReport.position.offset :=
  ⟨rfl, _, _, ⟨8, rfl⟩, by decide +kernel, rfl, by decide +kernel,
    by decide +kernel⟩

end Grammar

end PegEngine
