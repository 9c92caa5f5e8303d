import PegEngine.Proofs.Lexemes
import PegEngine.Proofs.Suffixes

/-!
# Reading an expression back

A reader goes over the lexemes of an expression from left to right, and puts
together what they recognize (`Reader.take`): a suffix applies to the term that
has been read last, and the lookaheads before a term apply to it when it is
complete.  Where no suffix applies to a lookahead, or where this makes no
difference, what is read in this way is what the expression recognizes
(`Reader.rereads`), so that expressions which are written alike recognize the
same (`Grammar.recognizer_eq_of_render`).
-/

namespace PegEngine

/-- What has been read since the last parenthesis that is still open. -/
structure Draft (σ : Type) where
  /-- The alternatives before the present one, given what is behind them. -/
  alternatives : Recognizer σ → Recognizer σ
  /-- The members before the present one, given what is behind them. -/
  members : Recognizer σ → Recognizer σ
  /-- The lookaheads that apply to the present term. -/
  lookaheads : Recognizer σ → Recognizer σ
  term : Recognizer σ

namespace Draft

variable {σ : Type}

def empty : Draft σ := ⟨id, id, id, .Never⟩

def member (draft : Draft σ) : Recognizer σ := draft.lookaheads draft.term

def alternative (draft : Draft σ) : Recognizer σ := draft.members draft.member

def whole (draft : Draft σ) : Recognizer σ :=
  draft.alternatives draft.alternative

/-- The present member is complete, and another one follows. -/
def nextMember (draft : Draft σ) : Draft σ :=
  { draft with
    members := fun later => draft.members (.AndThen draft.member later)
    lookaheads := id }

/-- The present alternative is complete, and another one follows. -/
def nextAlternative (draft : Draft σ) : Draft σ :=
  { draft with
    alternatives := fun later =>
      draft.alternatives (.OrElse draft.alternative later)
    members := id
    lookaheads := id }

/-- A lookahead applies to what follows. -/
def ahead (draft : Draft σ) (lookahead : Recognizer σ → Recognizer σ) :
    Draft σ :=
  { draft with lookaheads := fun body => draft.lookaheads (lookahead body) }

end Draft

/-- A reader has the draft of what is between the innermost parentheses, and the
drafts of what is around them. -/
abbrev Reader (σ : Type) := Draft σ × List (Draft σ)

namespace Reader

variable {α σ : Type} (grammar : Grammar α σ) (input : ByteArray)

/-- Read one lexeme.  The name of a label is read like the name of a rule, until
the term behind it is read instead. -/
def take : Reader σ → Lexeme → Reader σ
  | (draft, outer), .literal text ignoresCase =>
    ({ draft with
        term := grammar.recognizer input (.literal text ignoresCase) }, outer)
  | (draft, outer), .oneOf charClass =>
    ({ draft with term := grammar.recognizer input (.oneOf charClass) }, outer)
  | (draft, outer), .named name =>
    ({ draft with term := grammar.recognizer input (.reference name) }, outer)
  | (draft, outer), .sign .dot =>
    ({ draft with term := grammar.recognizer input .any }, outer)
  | (draft, outer), .sign .star =>
    ({ draft with term := .Repeated draft.term }, outer)
  | (draft, outer), .sign .plus =>
    ({ draft with term := .RepeatedOnce draft.term }, outer)
  | (draft, outer), .sign .question =>
    ({ draft with term := .Optional draft.term }, outer)
  | (draft, outer), .sign .ampersand => (draft.ahead .Ahead, outer)
  | (draft, outer), .sign .exclamation => (draft.ahead .NotAhead, outer)
  | (draft, outer), .sign .blank => (draft.nextMember, outer)
  | (draft, outer), .sign .slash => (draft.nextAlternative, outer)
  | (draft, outer), .sign .opening => (.empty, draft :: outer)
  | (inner, draft :: outer), .sign .closing =>
    ({ draft with term := inner.whole }, outer)
  | (draft, []), .sign .closing => (draft, [])
  | reader, .sign .colon => reader

def takeAll (reader : Reader σ) (lexemes : List Lexeme) : Reader σ :=
  lexemes.foldl (take grammar input) reader

variable {grammar input}

theorem takeAll_append (reader : Reader σ) (written others : List Lexeme) :
    takeAll grammar input reader (written ++ others) =
      takeAll grammar input (takeAll grammar input reader written) others :=
  List.foldl_append

variable (grammar input)

/-- Lexemes are read as a term behind lookaheads, whatever suffix follows. -/
def AsTerm (written : List Lexeme) (lookaheads : List Bool)
    (term : Recognizer σ) : Prop :=
  ∀ (draft : Draft σ) (outer : List (Draft σ)),
    takeAll grammar input (draft, outer) written =
      ({ draft with
          lookaheads := fun body => draft.lookaheads (.behind lookaheads body)
          term := term }, outer)

/-- Lexemes are read as one or more members of a sequence. -/
def AsMembers (written : List Lexeme) (recognizer : Recognizer σ) : Prop :=
  ∀ (draft : Draft σ) (outer : List (Draft σ)), draft.lookaheads = id → ∃ next,
    takeAll grammar input (draft, outer) written = (next, outer) ∧
      next.alternatives = draft.alternatives ∧
      next.alternative = draft.members recognizer ∧
      next.nextMember.members =
        fun later => draft.members (.AndThen recognizer later)

/-- Lexemes are read as one or more alternatives. -/
def AsAlternatives (written : List Lexeme) (recognizer : Recognizer σ) : Prop :=
  ∀ (draft : Draft σ) (outer : List (Draft σ)), draft.lookaheads = id →
    draft.members = id → ∃ next,
      takeAll grammar input (draft, outer) written = (next, outer) ∧
        next.whole = draft.alternatives recognizer ∧
        next.nextAlternative.alternatives =
          fun later => draft.alternatives (.OrElse recognizer later)

variable {grammar input} {written : List Lexeme} {lookaheads : List Bool}
  {recognizer term : Recognizer σ}

theorem AsTerm.asMembers
    (reads : AsTerm grammar input written lookaheads term) :
    AsMembers grammar input written (.behind lookaheads term) := by
  intro draft outer free
  refine ⟨_, reads draft outer, rfl, ?_, ?_⟩
  · simp only [Draft.alternative, Draft.member, free, id]
  · simp only [Draft.nextMember, Draft.member, free, id]

theorem AsMembers.asAlternatives
    (reads : AsMembers grammar input written recognizer) :
    AsAlternatives grammar input written recognizer := by
  intro draft outer free begins
  obtain ⟨next, taken, alternatives, alternative, -⟩ := reads draft outer free
  rw [begins] at alternative
  refine ⟨next, taken, ?_, ?_⟩
  · rw [Draft.whole, alternatives, alternative, id]
  · simp only [Draft.nextAlternative, alternatives, alternative, id]

/-- What is between parentheses is a term. -/
theorem AsAlternatives.parenthesized
    (reads : AsAlternatives grammar input written recognizer) :
    AsTerm grammar input (.sign .opening :: written ++ [.sign .closing]) []
      recognizer := by
  intro draft outer
  obtain ⟨inner, taken, whole, -⟩ := reads .empty (draft :: outer) rfl rfl
  change takeAll grammar input (.empty, draft :: outer)
    (written ++ [.sign .closing]) = _
  rw [takeAll_append, taken]
  change ({ draft with term := inner.whole }, outer) = _
  rw [whole]
  rfl

/-- A suffix applies to the term before it, not to the lookaheads. -/
theorem AsTerm.suffixed (reads : AsTerm grammar input written lookaheads term)
    {sign : Sign} {operator : Recognizer σ → Recognizer σ}
    (applies : ∀ (draft : Draft σ) (outer : List (Draft σ)),
      take grammar input (draft, outer) (.sign sign) =
        ({ draft with term := operator draft.term }, outer)) :
    AsTerm grammar input (written ++ [.sign sign]) lookaheads
      (operator term) := by
  intro draft outer
  rw [takeAll_append, reads]
  exact applies _ _

/-- A lookahead applies to the term behind it. -/
theorem AsTerm.ahead (reads : AsTerm grammar input written lookaheads term)
    {sign : Sign} {isNegative : Bool}
    (applies : ∀ (draft : Draft σ) (outer : List (Draft σ)),
      take grammar input (draft, outer) (.sign sign) =
        (draft.ahead (.lookingAhead isNegative), outer)) :
    AsTerm grammar input (.sign sign :: written) (isNegative :: lookaheads)
      term := by
  intro draft outer
  change takeAll grammar input
    (take grammar input (draft, outer) (.sign sign)) written = _
  rw [applies, reads]
  rfl

/-- A label does not matter. -/
theorem AsTerm.labeled (reads : AsTerm grammar input written lookaheads term)
    (label : String) :
    AsTerm grammar input (.named label :: .sign .colon :: written) lookaheads
      term := by
  intro draft outer
  exact reads
    { draft with term := grammar.recognizer input (.reference label) } outer

/-- Members are read in turn. -/
theorem asMembers_inTurn {exprs : List (Expr α σ)} (nonempty : exprs ≠ [])
    (reads : ∀ expr ∈ exprs, AsMembers grammar input
      (expr.memberLexemes expr.lexemes) (grammar.recognizer input expr)) :
    AsMembers grammar input
      ([.sign .blank].intercalate (Expr.lexemesOfMembers exprs))
      (grammar.recognizerInTurn input exprs) := by
  induction exprs with
  | nil => exact absurd rfl nonempty
  | cons expr exprs ih =>
      have first := reads expr (.head _)
      cases exprs with
      | nil =>
          simpa [Expr.lexemesOfMembers, Grammar.recognizerInTurn,
            Recognizer.andThen_stays] using first
      | cons other exprs =>
          have later := ih (List.cons_ne_nil _ _) fun member isMember =>
            reads member (.tail _ isMember)
          intro draft outer free
          obtain ⟨middle, taken, alternatives, -, members⟩ :=
            first draft outer free
          obtain ⟨next, takenToo, alternativesToo, alternative, membersToo⟩ :=
            later middle.nextMember outer rfl
          rw [members] at alternative membersToo
          refine ⟨next, ?_, alternativesToo.trans alternatives, alternative, ?_⟩
          · rw [Expr.lexemesOfMembers, Expr.lexemesOfMembers,
              List.intercalate_cons_cons, takeAll_append, takeAll_append, taken]
            exact takenToo
          · simp only [membersToo, ← Recognizer.andThen_assoc]
            rfl

/-- Alternatives are read one after the other. -/
theorem asAlternatives_ofFirst {exprs : List (Expr α σ)} (nonempty : exprs ≠ [])
    (reads : ∀ expr ∈ exprs, AsAlternatives grammar input expr.lexemes
      (grammar.recognizer input expr)) :
    AsAlternatives grammar input
      ([.sign .slash].intercalate (Expr.lexemesOfAlternatives exprs))
      (grammar.recognizerOfFirst input exprs) := by
  induction exprs with
  | nil => exact absurd rfl nonempty
  | cons expr exprs ih =>
      have first := reads expr (.head _)
      cases exprs with
      | nil =>
          simpa [Expr.lexemesOfAlternatives, Grammar.recognizerOfFirst,
            Recognizer.orElse_never] using first
      | cons other exprs =>
          have later := ih (List.cons_ne_nil _ _) fun member isMember =>
            reads member (.tail _ isMember)
          intro draft outer free begins
          obtain ⟨middle, taken, -, alternatives⟩ :=
            first draft outer free begins
          obtain ⟨next, takenToo, whole, alternativesToo⟩ :=
            later middle.nextAlternative outer rfl rfl
          rw [alternatives] at whole alternativesToo
          refine ⟨next, ?_, whole, ?_⟩
          · rw [Expr.lexemesOfAlternatives, Expr.lexemesOfAlternatives,
              List.intercalate_cons_cons, takeAll_append, takeAll_append, taken]
            exact takenToo
          · simp only [alternativesToo, ← Recognizer.orElse_assoc]
            rfl

end Reader

namespace Reader

variable {α σ : Type}

/-- The lexemes of an expression are read as what it recognizes, wherever it
stands.  As a term, it is read as something behind its lookaheads, which is tame
unless it refers to a rule. -/
structure Rereads (grammar : Grammar α σ) (input : ByteArray)
    (expr : Expr α σ) : Prop where
  alternatives : AsAlternatives grammar input expr.lexemes
    (grammar.recognizer input expr)
  members : AsMembers grammar input (expr.memberLexemes expr.lexemes)
    (grammar.recognizer input expr)
  term : ∃ term,
    AsTerm grammar input (expr.termLexemes expr.lexemes) expr.lookaheads term ∧
      .behind expr.lookaheads term = grammar.recognizer input expr ∧
      (expr.references = [] → term.Tame input)

variable {grammar : Grammar α σ} {input : ByteArray} {expr : Expr α σ}

/-- An expression that is never put in parentheses. -/
theorem Rereads.ofTerm {term : Recognizer σ}
    (isTerm : expr.termLexemes expr.lexemes = expr.lexemes)
    (isMember : expr.memberLexemes expr.lexemes = expr.lexemes)
    (reads : AsTerm grammar input expr.lexemes expr.lookaheads term)
    (same : .behind expr.lookaheads term = grammar.recognizer input expr)
    (tame : expr.references = [] → term.Tame input) :
    Rereads grammar input expr where
  alternatives := same ▸ reads.asMembers.asAlternatives
  members := by
    rw [isMember, ← same]
    exact reads.asMembers
  term := ⟨term, by rwa [isTerm], same, tame⟩

/-- An expression that is put in parentheses to be a term. -/
theorem Rereads.ofAlternatives (free : expr.lookaheads = [])
    (isTerm : expr.termLexemes expr.lexemes =
      .sign .opening :: expr.lexemes ++ [.sign .closing])
    (alternatives : AsAlternatives grammar input expr.lexemes
      (grammar.recognizer input expr))
    (members : AsMembers grammar input (expr.memberLexemes expr.lexemes)
      (grammar.recognizer input expr))
    (tame : expr.references = [] → (grammar.recognizer input expr).Tame input) :
    Rereads grammar input expr where
  alternatives := alternatives
  members := members
  term := by
    rw [isTerm, free]
    exact ⟨_, alternatives.parenthesized, rfl, tame⟩

/-- An expression is read back if all expressions in it are written in full, and
suffixes apply to lookaheads only where this makes no difference. -/
theorem rereads (plain : expr.Throughout Expr.Plain)
    (grouped : expr.Throughout Expr.Grouped) :
    Rereads grammar input expr := by
  induction plain with
  | @intro expr here members ih =>
      have ih := fun member isMember =>
        ih member isMember (grouped.member isMember)
      have apart := grouped.here
      have tame : expr.references = [] →
          (grammar.recognizer input expr).Tame input :=
        Grammar.tame_recognizer
          (.intro here.codeless fun member isMember =>
            (members member isMember).mono fun _ => Expr.Plain.codeless)
      cases expr with
      | literal | oneOf | any | reference =>
          exact .ofTerm rfl rfl (fun _ _ => rfl) rfl tame
      | sequence exprs =>
          have reads : AsMembers grammar input (Expr.sequence exprs).lexemes
              (grammar.recognizer input (.sequence exprs)) :=
            asMembers_inTurn here fun member isMember =>
              (ih member isMember).members
          exact .ofAlternatives rfl rfl reads.asAlternatives reads tame
      | choice exprs =>
          have reads : AsAlternatives grammar input (Expr.choice exprs).lexemes
              (grammar.recognizer input (.choice exprs)) :=
            asAlternatives_ofFirst here fun member isMember =>
              (ih member isMember).alternatives
          exact .ofAlternatives rfl rfl reads reads.parenthesized.asMembers tame
      | zeroOrMore body =>
          obtain ⟨term, reads, same, tame⟩ := (ih body (.head _)).term
          have passes : .Repeated (.behind body.lookaheads term) =
              Recognizer.behind body.lookaheads (.Repeated term) := by
            rcases apart with free | ⟨positive, isolated⟩
            · rw [free]
              rfl
            · exact Recognizer.repeated_behind (tame isolated) positive
          exact .ofTerm rfl rfl (reads.suffixed fun _ _ => rfl)
            (passes.symm.trans (congrArg Recognizer.Repeated same))
            fun isolated => (tame isolated).repeated
      | oneOrMore body =>
          obtain ⟨term, reads, same, tame⟩ := (ih body (.head _)).term
          have passes : .RepeatedOnce (.behind body.lookaheads term) =
              Recognizer.behind body.lookaheads (.RepeatedOnce term) := by
            rcases apart with free | isolated
            · rw [free]
              rfl
            · exact Recognizer.repeatedOnce_behind (tame isolated)
          exact .ofTerm rfl rfl (reads.suffixed fun _ _ => rfl)
            (passes.symm.trans (congrArg Recognizer.RepeatedOnce same))
            fun isolated => (tame isolated).repeatedOnce
      | optional body =>
          obtain ⟨term, reads, same, tame⟩ := (ih body (.head _)).term
          have passes : .Optional (.behind body.lookaheads term) =
              Recognizer.behind body.lookaheads (.Optional term) :=
            Recognizer.optional_behind apart
          exact .ofTerm rfl rfl (reads.suffixed fun _ _ => rfl)
            (passes.symm.trans (congrArg Recognizer.Optional same))
            fun isolated => (tame isolated).optional
      | followedBy body =>
          obtain ⟨term, reads, same, tame⟩ := (ih body (.head _)).term
          exact .ofTerm rfl rfl (reads.ahead fun _ _ => rfl)
            (congrArg Recognizer.Ahead same) tame
      | notFollowedBy body =>
          obtain ⟨term, reads, same, tame⟩ := (ih body (.head _)).term
          exact .ofTerm rfl rfl (reads.ahead fun _ _ => rfl)
            (congrArg Recognizer.NotAhead same) tame
      | labeled name body =>
          obtain ⟨term, reads, same, -⟩ := (ih body (.head _)).term
          have reads := (reads.labeled name).asMembers
          rw [same] at reads
          exact .ofAlternatives rfl rfl reads.asAlternatives reads tame
      | action | require | forbid => exact here.elim

/-- What is read over all lexemes. -/
def reread (grammar : Grammar α σ) (input : ByteArray) (written : List Lexeme) :
    Recognizer σ :=
  (takeAll grammar input (.empty, []) written).1.whole

theorem Rereads.reread (rereads : Rereads grammar input expr) :
    reread grammar input expr.lexemes = grammar.recognizer input expr := by
  obtain ⟨next, taken, whole, -⟩ := rereads.alternatives .empty [] rfl rfl
  rw [Reader.reread, taken, whole]
  rfl

end Reader

/-- Expressions that are written alike recognize the same. -/
theorem Grammar.recognizer_eq_of_render {α σ : Type} (grammar : Grammar α σ)
    (input : ByteArray) {first second : Expr α σ}
    (plain : first.Throughout Expr.Plain)
    (plainToo : second.Throughout Expr.Plain)
    (grouped : first.Throughout Expr.Grouped)
    (groupedToo : second.Throughout Expr.Grouped)
    (same : first.render = second.render) :
    grammar.recognizer input first = grammar.recognizer input second := by
  rw [← (Reader.rereads plain grouped).reread,
    ← (Reader.rereads plainToo groupedToo).reread,
    Expr.lexemes_eq_of_render plain plainToo same]

end PegEngine
