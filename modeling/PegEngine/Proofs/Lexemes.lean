import Mathlib.Data.List.Chain
import PegEngine.Proofs.Legibility
import PegEngine.Proofs.Recognition

/-!
# Expressions as lexemes

An expression in writing is a list of lexemes, put together without anything in
between (`Expr.spell_lexemes`).  Of any two lexemes next to each other one is a
sign, and names have none of the characters that signs, literals and classes
begin with.  So the text has one reading as lexemes only
(`Legible.eq_of_spell`), and two expressions that are written alike have the
same lexemes (`Expr.lexemes_eq_of_render`).
-/

namespace PegEngine

/-- What is written in the same way everywhere. -/
inductive Sign where
  | dot
  | blank
  | slash
  | opening
  | closing
  | star
  | plus
  | question
  | ampersand
  | exclamation
  | colon

/-- A sign stands for itself, or a literal, a class, or the name of a rule or a
label is written. -/
inductive Lexeme where
  | literal (text : String) (ignoresCase : Bool)
  | oneOf (charClass : CharClass)
  | named (name : String)
  | sign (sign : Sign)

def Sign.text : Sign → List Char
  | .dot => ['.']
  | .blank => [' ']
  | .slash => [' ', '/', ' ']
  | .opening => ['(']
  | .closing => [')']
  | .star => ['*']
  | .plus => ['+']
  | .question => ['?']
  | .ampersand => ['&']
  | .exclamation => ['!']
  | .colon => [':']

namespace Lexeme

/-- The characters with which signs begin. -/
def signMarks : List Char := ['.', ' ', '(', ')', '*', '+', '?', '&', '!', ':']

/-- The characters that are not in names. -/
def marks : List Char := '"' :: '[' :: '/' :: signMarks

def text : Lexeme → List Char
  | .literal text ignoresCase =>
    (Expr.literalDescriptor text ignoresCase).toList
  | .oneOf charClass => charClass.descriptor.toList
  | .named name => name.toList
  | .sign mark => mark.text

/-- A name that can be read as one, such as every identifier. -/
structure IsName (name : String) : Prop where
  nonempty : name.toList ≠ []
  unmarked : ∀ char ∈ name.toList, char ∉ marks

/-- Classes have no descriptions of their own, and names are names. -/
inductive Clean : Lexeme → Prop
  | literal (text : String) (ignoresCase : Bool) :
      Clean (.literal text ignoresCase)
  | oneOf {charClass : CharClass} (plain : charClass.description = none) :
      Clean (.oneOf charClass)
  | named {name : String} (isName : IsName name) : Clean (.named name)
  | sign (sign : Sign) : Clean (.sign sign)

inductive IsSign : Lexeme → Prop
  | sign (sign : Sign) : IsSign (.sign sign)

/-- The kind of a lexeme, by the character with which it begins. -/
inductive Kind where
  | literal
  | oneOf
  | named
  | sign
deriving DecidableEq

def kind : Lexeme → Kind
  | .literal _ _ => .literal
  | .oneOf _ => .oneOf
  | .named _ => .named
  | .sign _ => .sign

def kindOf (char : Char) : Kind :=
  if char = '"' then .literal
  else if char = '[' then .oneOf
  else if char ∈ signMarks then .sign
  else .named

/-- The first character of a lexeme tells its kind. -/
theorem Clean.starts {lexeme : Lexeme} (clean : lexeme.Clean) :
    ∃ char, lexeme.text.head? = some char ∧ kindOf char = lexeme.kind ∧
      char ≠ '/' := by
  cases clean with
  | literal text ignoresCase =>
      refine ⟨'"', ?_, rfl, by decide⟩
      simp [Lexeme.text, Expr.literalDescriptor, Quoted.text]
  | oneOf plain =>
      refine ⟨'[', ?_, rfl, by decide⟩
      simp [Lexeme.text, CharClass.descriptor, plain,
        CharClass.generatedDescription_eq]
  | @named name isName =>
      obtain ⟨nonempty, unmarked⟩ := isName
      obtain ⟨char, chars, isText⟩ := List.exists_cons_of_ne_nil nonempty
      have isOther := unmarked char (isText ▸ .head _)
      simp only [marks, List.mem_cons, not_or] at isOther
      refine ⟨char, by simp [Lexeme.text, isText], ?_, isOther.2.2.1⟩
      simp [kindOf, kind, isOther]
  | sign sign =>
      cases sign
      all_goals
        refine ⟨_, rfl, ?_⟩
        decide

/-- What stands behind a lexeme does not go on with it. -/
def EndsBefore (rest : List Char) : Lexeme → Prop
  | .sign _ => rest.head? ≠ some '/'
  | _ => ∀ char, rest.head? = some char → char ∈ marks

end Lexeme

theorem Sign.text_cut {first second : Sign} {left right : List Char}
    (leftStarts : left.head? ≠ some '/') (rightStarts : right.head? ≠ some '/')
    (same : first.text ++ left = second.text ++ right) :
    first = second ∧ left = right := by
  cases first <;> cases second <;> simp [Sign.text] at same ⊢ <;>
    first
      | exact same
      | exact rightStarts (by simp [← same])
      | exact leftStarts (by simp [same])

namespace Lexeme

variable {first second lexeme other : Lexeme} {left right : List Char}

theorem mem_marks {char : Char} (isSign : kindOf char = .sign) :
    char ∈ marks := by
  unfold kindOf at isSign
  split at isSign
  · cases isSign
  · split at isSign
    · cases isSign
    · split at isSign
      case isTrue isMark => simp [marks, isMark]
      case isFalse => cases isSign

/-- The flag of a literal or a class is not taken for something else. -/
theorem not_flag (starts : ∀ char, left.head? = some char → char ∈ marks) :
    left.head? ≠ some 'i' :=
  fun isFlag => absurd (starts 'i' isFlag) (by decide)

/-- A lexeme can be told from the text that begins with it. -/
theorem Clean.cut (clean : first.Clean) (cleanToo : second.Clean)
    (ends : first.EndsBefore left) (endsToo : second.EndsBefore right)
    (same : first.text ++ left = second.text ++ right) :
    first = second ∧ left = right := by
  have sameKind : first.kind = second.kind := by
    obtain ⟨char, isFirst, kind, -⟩ := clean.starts
    obtain ⟨other, isOther, kindToo, -⟩ := cleanToo.starts
    have heads := congrArg List.head? same
    simp only [List.head?_append, isFirst, isOther, Option.some_or,
      Option.some.injEq] at heads
    rw [← kind, ← kindToo, heads]
  cases clean with
  | literal text ignoresCase =>
      cases cleanToo with
      | literal =>
          obtain ⟨rfl, rfl, behind⟩ :=
            Quoted.literal_cut (not_flag ends) (not_flag endsToo) same
          exact ⟨rfl, behind⟩
      | _ => cases sameKind
  | oneOf plain =>
      cases cleanToo with
      | oneOf plainToo =>
          simp only [text, CharClass.descriptor, plain, plainToo,
            Option.getD_none] at same
          obtain ⟨rfl, behind⟩ := CharClass.generated_cut plain plainToo
            (not_flag ends) (not_flag endsToo) same
          exact ⟨rfl, behind⟩
      | _ => cases sameKind
  | named isName =>
      cases cleanToo with
      | named isNameToo =>
          obtain ⟨sameChars, behind⟩ :=
            run_cut marks isName.unmarked isNameToo.unmarked ends endsToo same
          rw [String.toList_inj.mp sameChars]
          exact ⟨rfl, behind⟩
      | _ => cases sameKind
  | sign sign =>
      cases cleanToo with
      | sign =>
          obtain ⟨rfl, behind⟩ := Sign.text_cut ends endsToo same
          exact ⟨rfl, behind⟩
      | _ => cases sameKind

end Lexeme

/-- Lexemes in writing. -/
def spell (lexemes : List Lexeme) : List Char := lexemes.flatMap Lexeme.text

@[simp] theorem spell_nil : spell [] = [] := rfl

@[simp] theorem spell_cons (lexeme : Lexeme) (lexemes : List Lexeme) :
    spell (lexeme :: lexemes) = lexeme.text ++ spell lexemes := rfl

@[simp] theorem spell_append (lexemes others : List Lexeme) :
    spell (lexemes ++ others) = spell lexemes ++ spell others :=
  List.flatMap_append

theorem spell_intercalate (sign : Sign) (lists : List (List Lexeme)) :
    spell ([.sign sign].intercalate lists) =
      sign.text.intercalate (lists.map spell) := by
  induction lists with
  | nil => rfl
  | cons lexemes lists ih =>
      cases lists with
      | nil => simp
      | cons others lists =>
          simpa [List.intercalate_cons_cons, Lexeme.text] using ih

/-- Lexemes that can be told from their writing: of any two next to each other
one is a sign. -/
structure Legible (lexemes : List Lexeme) : Prop where
  clean : ∀ lexeme ∈ lexemes, lexeme.Clean
  chained : lexemes.IsChain fun first second =>
    first.IsSign ∨ second.IsSign

namespace Legible

variable {lexeme : Lexeme} {lexemes others : List Lexeme}

theorem tail (legible : Legible (lexeme :: lexemes)) : Legible lexemes where
  clean other isOther := legible.clean other (.tail _ isOther)
  chained := legible.chained.tail

/-- What is written behind a lexeme does not go on with it. -/
theorem endsBefore (legible : Legible (lexeme :: lexemes)) :
    lexeme.EndsBefore (spell lexemes) := by
  cases lexemes with
  | nil => cases lexeme <;> simp [Lexeme.EndsBefore, spell]
  | cons other lexemes =>
      obtain ⟨char, isFirst, kind, differs⟩ :=
        (legible.clean other (.tail _ (.head _))).starts
      have head : (spell (other :: lexemes)).head? = some char := by
        simp [spell, isFirst]
      have isMark : other.IsSign → char ∈ Lexeme.marks := by
        rintro ⟨sign⟩
        exact Lexeme.mem_marks kind
      cases lexeme with
      | sign sign =>
          intro isSlash
          exact differs (Option.some.inj (head.symm.trans isSlash))
      | literal | oneOf | named =>
          intro first isHead
          cases Option.some.inj (head.symm.trans isHead)
          exact isMark (legible.chained.rel.resolve_left nofun)

/-- Lexemes can be told from their writing. -/
theorem eq_of_spell (legible : Legible lexemes) (legibleToo : Legible others)
    (same : spell lexemes = spell others) : lexemes = others := by
  induction lexemes generalizing others with
  | nil =>
      cases others with
      | nil => rfl
      | cons other others =>
          obtain ⟨char, isFirst, -⟩ := (legibleToo.clean other (.head _)).starts
          have heads := congrArg List.head? same
          simp [spell, isFirst] at heads
  | cons lexeme lexemes ih =>
      cases others with
      | nil =>
          obtain ⟨char, isFirst, -⟩ := (legible.clean lexeme (.head _)).starts
          have heads := congrArg List.head? same
          simp [spell, isFirst] at heads
      | cons other others =>
          obtain ⟨rfl, behind⟩ := (legible.clean lexeme (.head _)).cut
            (legibleToo.clean other (.head _)) legible.endsBefore
            legibleToo.endsBefore same
          rw [ih legible.tail legibleToo.tail behind]

theorem nil : Legible [] := ⟨nofun, .nil⟩

theorem single (clean : lexeme.Clean) : Legible [lexeme] :=
  ⟨fun _ isLexeme => List.mem_singleton.mp isLexeme ▸ clean, .singleton _⟩

/-- A sign between lexemes keeps them apart. -/
theorem around (legible : Legible lexemes) (sign : Sign)
    (legibleToo : Legible others) :
    Legible (lexemes ++ .sign sign :: others) where
  clean lexeme isLexeme := by
    rcases List.mem_append.mp isLexeme with before | behind
    · exact legible.clean lexeme before
    · cases behind with
      | head => exact .sign sign
      | tail _ behind => exact legibleToo.clean lexeme behind
  chained := by
    refine List.isChain_append.mpr ⟨legible.chained, ?_, ?_⟩
    · refine List.isChain_cons.mpr ⟨fun _ _ => .inl ⟨sign⟩, legibleToo.chained⟩
    · rintro last - next isNext
      cases isNext
      exact .inr ⟨sign⟩

theorem intercalate {lists : List (List Lexeme)} (sign : Sign)
    (legible : ∀ lexemes ∈ lists, Legible lexemes) :
    Legible ([.sign sign].intercalate lists) := by
  induction lists with
  | nil => exact nil
  | cons lexemes lists ih =>
      have first := legible lexemes (.head _)
      have later := ih fun others isOther => legible others (.tail _ isOther)
      cases lists with
      | nil => simpa using first
      | cons others lists =>
          simpa [List.intercalate_cons_cons] using first.around sign later

end Legible

namespace Expr

variable {α σ : Type}

/-- The lexemes of an expression as one term, given its plain lexemes. -/
def termLexemes (expr : Expr α σ) (written : List Lexeme) : List Lexeme :=
  match expr with
  | .sequence _ | .choice _ | .labeled _ _ | .action _ _ =>
    .sign .opening :: written ++ [.sign .closing]
  | _ => written

/-- The lexemes of an expression as a member of a sequence. -/
def memberLexemes (expr : Expr α σ) (written : List Lexeme) : List Lexeme :=
  match expr with
  | .choice _ | .action _ _ => .sign .opening :: written ++ [.sign .closing]
  | _ => written

mutual

/-- The lexemes of an expression in writing; code is not made of lexemes. -/
def lexemes : Expr α σ → List Lexeme
  | .literal text ignoresCase => [.literal text ignoresCase]
  | .oneOf charClass => [.oneOf charClass]
  | .any => [.sign .dot]
  | .sequence members => [.sign .blank].intercalate (lexemesOfMembers members)
  | .choice alternatives =>
    [.sign .slash].intercalate (lexemesOfAlternatives alternatives)
  | .zeroOrMore body => body.termLexemes body.lexemes ++ [.sign .star]
  | .oneOrMore body => body.termLexemes body.lexemes ++ [.sign .plus]
  | .optional body => body.termLexemes body.lexemes ++ [.sign .question]
  | .followedBy body => .sign .ampersand :: body.termLexemes body.lexemes
  | .notFollowedBy body => .sign .exclamation :: body.termLexemes body.lexemes
  | .labeled label body =>
    .named label :: .sign .colon :: body.termLexemes body.lexemes
  | .reference name => [.named name]
  | .action _ _ | .require _ | .forbid _ => []

def lexemesOfMembers : List (Expr α σ) → List (List Lexeme)
  | [] => []
  | expr :: exprs =>
    expr.memberLexemes expr.lexemes :: lexemesOfMembers exprs

def lexemesOfAlternatives : List (Expr α σ) → List (List Lexeme)
  | [] => []
  | expr :: exprs => expr.lexemes :: lexemesOfAlternatives exprs

end

theorem lexemesOfMembers_eq (exprs : List (Expr α σ)) :
    lexemesOfMembers exprs =
      exprs.map fun expr => expr.memberLexemes expr.lexemes := by
  induction exprs with
  | nil => rfl
  | cons expr exprs ih => rw [lexemesOfMembers, ih, List.map_cons]

theorem lexemesOfAlternatives_eq (exprs : List (Expr α σ)) :
    lexemesOfAlternatives exprs = exprs.map lexemes := by
  induction exprs with
  | nil => rfl
  | cons expr exprs ih => rw [lexemesOfAlternatives, ih, List.map_cons]

theorem renderMembers_eq (exprs : List (Expr α σ)) :
    renderMembers exprs = exprs.map fun expr => expr.asMember expr.render := by
  induction exprs with
  | nil => rfl
  | cons expr exprs ih => rw [renderMembers, ih, List.map_cons]

theorem renderAlternatives_eq (exprs : List (Expr α σ)) :
    renderAlternatives exprs = exprs.map render := by
  induction exprs with
  | nil => rfl
  | cons expr exprs ih => rw [renderAlternatives, ih, List.map_cons]

/-- An expression of which the writing shows everything: it is not code, no
description of its own stands for a class, lists are not empty, and names are
read as names. -/
def Plain : Expr α σ → Prop
  | .oneOf charClass => charClass.description = none
  | .sequence members => members ≠ []
  | .choice alternatives => alternatives ≠ []
  | .labeled name _ | .reference name => Lexeme.IsName name
  | .action _ _ | .require _ | .forbid _ => False
  | _ => True

theorem Plain.codeless {expr : Expr α σ} (plain : expr.Plain) :
    expr.Codeless := by
  cases expr with
  | action | require | forbid => exact plain
  | _ => trivial

theorem spell_termLexemes (expr : Expr α σ) {written : List Lexeme}
    {text : String} (same : spell written = text.toList) :
    spell (expr.termLexemes written) = (expr.asTerm text).toList := by
  cases expr <;>
    simp [termLexemes, asTerm, parenthesized, same, Lexeme.text, Sign.text]

theorem spell_memberLexemes (expr : Expr α σ) {written : List Lexeme}
    {text : String} (same : spell written = text.toList) :
    spell (expr.memberLexemes written) = (expr.asMember text).toList := by
  cases expr <;>
    simp [memberLexemes, asMember, parenthesized, same, Lexeme.text, Sign.text]

/-- An expression without code is written as its lexemes. -/
theorem spell_lexemes {expr : Expr α σ} (codeless : expr.Throughout Codeless) :
    spell expr.lexemes = expr.render.toList := by
  induction codeless with
  | @intro expr here members ih =>
      cases expr with
      | literal | oneOf | any | reference =>
          simp [lexemes, render, Lexeme.text, Sign.text]
      | sequence exprs =>
          rw [lexemes, render, spell_intercalate, String.toList_intercalate,
            lexemesOfMembers_eq, renderMembers_eq, List.map_map, List.map_map]
          refine congrArg _ (List.map_congr_left fun member isMember => ?_)
          exact spell_memberLexemes member (ih member isMember)
      | choice exprs =>
          rw [lexemes, render, spell_intercalate, String.toList_intercalate,
            lexemesOfAlternatives_eq, renderAlternatives_eq, List.map_map,
            List.map_map]
          refine congrArg _ (List.map_congr_left fun member isMember => ?_)
          exact ih member isMember
      | zeroOrMore body | oneOrMore body | optional body | followedBy body
      | notFollowedBy body | labeled label body =>
          simp [lexemes, render, spell_termLexemes body (ih _ (.head _)),
            Lexeme.text, Sign.text]
      | action | require | forbid => exact here.elim

end Expr

namespace Legible

variable {α σ : Type} {written : List Lexeme}

theorem parenthesized (legible : Legible written) :
    Legible (.sign .opening :: written ++ [.sign .closing]) := by
  simpa using (nil.around .opening legible).around .closing nil

theorem termLexemes (legible : Legible written) (expr : Expr α σ) :
    Legible (expr.termLexemes written) := by
  unfold Expr.termLexemes
  split
  case h_5 => exact legible
  all_goals exact legible.parenthesized

theorem memberLexemes (legible : Legible written) (expr : Expr α σ) :
    Legible (expr.memberLexemes written) := by
  unfold Expr.memberLexemes
  split
  case h_3 => exact legible
  all_goals exact legible.parenthesized

end Legible

namespace Expr

variable {α σ : Type}

/-- The lexemes of an expression of which the writing shows everything can be
told from their writing. -/
theorem legible_lexemes {expr : Expr α σ} (plain : expr.Throughout Plain) :
    Legible expr.lexemes := by
  induction plain with
  | @intro expr here members ih =>
      cases expr with
      | literal text ignoresCase => exact .single (.literal text ignoresCase)
      | oneOf charClass => exact .single (.oneOf here)
      | any => exact .single (.sign .dot)
      | reference name => exact .single (.named here)
      | sequence exprs =>
          rw [lexemes, lexemesOfMembers_eq]
          refine Legible.intercalate .blank fun written isWritten => ?_
          obtain ⟨member, isMember, rfl⟩ := List.mem_map.mp isWritten
          exact (ih member isMember).memberLexemes member
      | choice exprs =>
          rw [lexemes, lexemesOfAlternatives_eq]
          refine Legible.intercalate .slash fun written isWritten => ?_
          obtain ⟨member, isMember, rfl⟩ := List.mem_map.mp isWritten
          exact ih member isMember
      | zeroOrMore body | oneOrMore body | optional body =>
          exact ((ih body (.head _)).termLexemes body).around _ .nil
      | followedBy body | notFollowedBy body =>
          exact Legible.nil.around _ ((ih body (.head _)).termLexemes body)
      | labeled name body =>
          exact (Legible.single (.named here)).around .colon
            ((ih body (.head _)).termLexemes body)
      | action | require | forbid => exact here.elim

/-- Expressions that are written alike have the same lexemes, if the writing
shows everything. -/
theorem lexemes_eq_of_render {first second : Expr α σ}
    (plain : first.Throughout Plain) (plainToo : second.Throughout Plain)
    (same : first.render = second.render) : first.lexemes = second.lexemes := by
  refine (legible_lexemes plain).eq_of_spell (legible_lexemes plainToo) ?_
  rw [spell_lexemes (plain.mono fun _ => Plain.codeless),
    spell_lexemes (plainToo.mono fun _ => Plain.codeless), same]

end Expr

end PegEngine
