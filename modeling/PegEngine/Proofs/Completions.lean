import PegEngine.Proofs.Calls

/-!
# Calls that have come to an end

If an evaluation comes to a verdict, so has every call that was made in it, and
whatever was counted and reported by then still is at the end
(`Eval.evalExpr_completes`).  This holds of calls in attempts that were given up
as of all others: nothing that went wrong in one of them is forgotten.
-/

namespace PegEngine

open ParseState

namespace Visit

variable {α σ : Type} {session : Session α σ} {visit : Visit α σ}

/-- What was called has come to a verdict, and the parse has gone on to a
state since. -/
def Completed (session : Session α σ) (last : ParseState α σ) : Visit α σ → Prop
  | .rule target index _ state =>
    ∃ depth verdict after,
      Eval.evalRule session (Eval.evalExpr session depth) target index state =
        .ok verdict after ∧ Evolved session after last
  | .expression place expr _ state =>
    ∃ depth verdict after,
      Eval.evalExpr session depth place expr state = .ok verdict after ∧
        Evolved session after last

theorem Completed.later {before after : ParseState α σ}
    (completed : visit.Completed session before)
    (evolved : Evolved session before after) :
    visit.Completed session after := by
  cases visit with
  | rule | expression =>
      obtain ⟨depth, verdict, reached, run, before⟩ := completed
      exact ⟨depth, verdict, reached, run, before.trans evolved⟩

theorem ComesTo.completed {verdict : Verdict α} {after : ParseState α σ}
    (comes : visit.ComesTo session verdict after) :
    visit.Completed session after := by
  cases visit with
  | rule | expression =>
      obtain ⟨depth, run⟩ := comes
      exact ⟨depth, verdict, after, run, .refl⟩

/-- Opening the node of a call is done by changes. -/
theorem evolved_opened (session : Session α σ) (visit : Visit α σ) :
    Evolved session visit.state (visit.opened session) := by
  cases visit with
  | rule target index nots state => exact .single (.enterNode _ state)
  | expression place expr nots state =>
      exact .head (.countExpression state) (.single (.enterNode _ _))

end Visit

namespace Eval

variable {α σ β : Type}

/-- When a program gives a result, all of some calls have come to an end. -/
def Completes (session : Session α σ) (calls : List (Visit α σ))
    (program : Eval α σ β) (state : ParseState α σ) : Prop :=
  Ends program
    (fun _ after => Evolved session state after ∧
      ∀ visit ∈ calls, visit.Completed session after)
    (fun _ => True) True state

/-- Calls come to an end one after the other, and those that are made in a call
have come to theirs when it comes to its own. -/
theorem tracking_completed (session : Session α σ) :
    Tracking session fun calls before after =>
      Evolved session before after ∧
        ∀ visit ∈ calls, visit.Completed session after where
  refl _ := ⟨.refl, nofun⟩
  trans := by
    rintro calls later before middle after ⟨evolved, completed⟩
      ⟨evolvedLater, completedLater⟩
    refine ⟨evolved.trans evolvedLater,
      List.forall_mem_append.mpr ⟨?_, completedLater⟩⟩
    exact fun visit isCall => (completed visit isCall).later evolvedLater
  aside aside := ⟨.single aside.change, nofun⟩
  skipped comes _ outside :=
    ⟨outside.1, List.forall_mem_cons.mpr ⟨comes.completed, nofun⟩⟩
  evaluated := by
    rintro visit calls verdict inner after comes - ⟨evolved, completed⟩
      ⟨evolvedLater, -⟩ -
    have closed : Evolved session inner after :=
      evolvedLater.head (.leaveNode visit.subject inner)
    refine ⟨(visit.evolved_opened session).trans (evolved.trans closed),
      List.forall_mem_cons.mpr ⟨comes.completed, ?_⟩⟩
    exact fun visit isCall => (completed visit isCall).later closed

/-- Every call that is made in an evaluation has come to an end when that comes
to a verdict. -/
theorem evalExpr_completes (session : Session α σ) (depth : Nat)
    (place : ExprPlace) (expr : Expr α σ) (nots : Nat)
    (state : ParseState α σ) :
    Completes session (visits session depth place expr nots state)
      (evalExpr session depth place expr) state :=
  (tracking_completed session).evalExpr depth place expr nots state

end Eval

namespace Session

variable {α σ : Type} {session : Session α σ}

/-- Every call of a parse has come to an end when the entry rule has. -/
theorem entering_completes {depth : Nat} {entry : Rule α σ}
    {verdict : Verdict α} {after : ParseState α σ}
    (run : session.entering depth entry = .ok verdict after) :
    ∀ visit ∈ session.visits depth entry, visit.Completed session after :=
  ((Eval.tracking_completed session).evalRule
    (Eval.evalExpr_completes session depth) rfl |>.result run).2

end Session

end PegEngine
