import Mathlib.Algebra.Order.BigOperators.Group.List
import Mathlib.Tactic.Ring
import PegEngine.Proofs.Boundaries
import PegEngine.Proofs.Invariants
import PegEngine.Proofs.Places

/-!
# Shares of the nodes of a grammar

Results are kept for rules and for the expressions that do not use the labels in
scope.  All other expressions are evaluated together with the rule or with the
expression around them.  So every expression of a grammar belongs to the share
of exactly one node for which results are kept, and the shares add up to the
number of the expressions (`Grammar.sum_shares`).

A result is kept for an offset and for either polarity of the attempts.  What a
table of kept results holds (`Session.held`) is the sum of the shares of those
that are in it.  It is never more than twice the number of the expressions for
each of the offsets at which a code point starts and for the end of the input
(`Session.held_le`), and keeping a result for the first time adds the share of
its node (`Session.held_store`).
-/

namespace PegEngine

/-- A sum that grows in no place grows by what it does in one of them. -/
theorem sum_map_add_le {β : Type} {items : List β} {before after : β → Nat}
    {item : β} {added : Nat} (isItem : item ∈ items)
    (atMost : ∀ other ∈ items, before other ≤ after other)
    (grows : before item + added ≤ after item) :
    (items.map before).sum + added ≤ (items.map after).sum := by
  obtain ⟨earlier, later, rfl⟩ := List.append_of_mem isItem
  have first : (earlier.map before).sum ≤ (earlier.map after).sum :=
    List.sum_le_sum fun other isOther => atMost other (by simp [isOther])
  have last : (later.map before).sum ≤ (later.map after).sum :=
    List.sum_le_sum fun other isOther => atMost other (by simp [isOther])
  simp only [List.map_append, List.map_cons, List.sum_append, List.sum_cons]
  omega

section Parts

variable {β γ : Type} {weight : γ → Nat}

/-- Items whose parts weigh the same. -/
theorem sum_map_flatMap {parts : β → List γ} {total : Nat} (items : List β)
    (each : ∀ item, ((parts item).map weight).sum = total) :
    ((items.flatMap parts).map weight).sum = items.length * total := by
  induction items with
  | nil => simp
  | cons item items ih =>
      rw [List.flatMap_cons, List.map_append, List.sum_append, each, ih,
        List.length_cons]
      ring

/-- Items that weigh what their parts weigh, which may depend on the position of
the item, and something more. -/
theorem sum_map_flatMap_zipIdx {parts : β → Nat → List γ} {more whole : β → Nat}
    (items : List β) (start : Nat)
    (each : ∀ item ∈ items, ∀ index,
      ((parts item index).map weight).sum + more item = whole item) :
    (((items.zipIdx start).flatMap fun item =>
        parts item.1 item.2).map weight).sum + (items.map more).sum =
      (items.map whole).sum := by
  induction items generalizing start with
  | nil => rfl
  | cons item items ih =>
      have first := each item (.head _) start
      have later := ih (start + 1) fun other isOther =>
        each other (.tail _ isOther)
      simp only [List.zipIdx_cons, List.flatMap_cons, List.map_append,
        List.map_cons, List.sum_append, List.sum_cons] at later ⊢
      omega

end Parts

namespace Decoded

/-- The offsets from a given one on at which something is decoded, the end of
the bytes included. -/
def offsetsFrom (bytes : ByteArray) (offset : Nat) : List Nat :=
  if beforeEnd : offset < bytes.size then
    have : 0 < (ofBytesAt bytes offset).width := width_ofBytesAt_pos beforeEnd
    offset :: offsetsFrom bytes (offset + (ofBytesAt bytes offset).width)
  else [offset]
termination_by bytes.size - offset

def offsets (bytes : ByteArray) : List Nat :=
  offsetsFrom bytes 0

/-- The number of code points that decoding the bytes yields. -/
def count (bytes : ByteArray) : Nat :=
  (all bytes).countP fun decoded => decoded.codePoint.isSome

theorem length_offsetsFrom (bytes : ByteArray) (offset : Nat) :
    (offsetsFrom bytes offset).length =
      (allFrom bytes offset).countP (fun decoded => decoded.codePoint.isSome) +
        1 := by
  induction offset using offsetsFrom.induct bytes with
  | case1 offset beforeEnd _ ih =>
      rw [offsetsFrom, allFrom, dif_pos beforeEnd, dif_pos beforeEnd,
        List.length_cons, ih, List.countP_cons_of_pos]
      exact codePoint_isSome_iff.mpr beforeEnd
  | case2 offset atEnd =>
      rw [offsetsFrom, allFrom, dif_neg atEnd, dif_neg atEnd]
      rfl

theorem length_offsets (bytes : ByteArray) :
    (offsets bytes).length = count bytes + 1 :=
  length_offsetsFrom bytes 0

theorem mem_offsetsFrom {bytes : ByteArray} {start offset : Nat}
    (reached : Relation.ReflTransGen (Follows bytes) start offset) :
    offset ∈ offsetsFrom bytes start := by
  induction reached using Relation.ReflTransGen.head_induction_on with
  | refl =>
      rw [offsetsFrom]
      split <;> simp
  | head step _ ih =>
      obtain ⟨beforeEnd, rfl⟩ := step
      rw [offsetsFrom, dif_pos beforeEnd]
      exact .tail _ ih

theorem Boundary.mem_offsets {bytes : ByteArray} {offset : Nat}
    (boundary : Boundary bytes offset) : offset ∈ offsets bytes :=
  mem_offsetsFrom boundary

end Decoded

namespace Expr

variable {α σ : Type}

mutual

/-- The number of expressions in an expression, itself included. -/
def size : Expr α σ → Nat
  | .literal _ _ | .oneOf _ | .any | .reference _ | .require _ | .forbid _ => 1
  | .sequence members => sizeOfAll members + 1
  | .choice alternatives => sizeOfAll alternatives + 1
  | .zeroOrMore body | .oneOrMore body | .optional body | .followedBy body
  | .notFollowedBy body | .labeled _ body | .action body _ => body.size + 1

def sizeOfAll : List (Expr α σ) → Nat
  | [] => 0
  | expr :: exprs => expr.size + sizeOfAll exprs

end

mutual

/-- The number of expressions that are evaluated whenever an expression is
called: those in it that use the labels around it. -/
def unkept : Expr α σ → Nat
  | .sequence members =>
    if anyUsesScope members then unkeptOfAll members + 1 else 0
  | .labeled _ body | .action body _ => body.unkept + 1
  | .require _ | .forbid _ => 1
  | _ => 0

def unkeptOfAll : List (Expr α σ) → Nat
  | [] => 0
  | expr :: exprs => expr.unkept + unkeptOfAll exprs

end

/-- The number of expressions that are evaluated with an expression if its
members are called once. -/
def charge (expr : Expr α σ) : Nat :=
  (expr.members.map unkept).sum + 1

/-- The charge of an expression if its results are kept. -/
def share (expr : Expr α σ) : Nat :=
  if expr.usesScope then 0 else expr.charge

mutual

/-- The expressions in an expression with their places, if the place of the
whole is given. -/
def placed (place : ExprPlace) : Expr α σ → List (ExprPlace × Expr α σ)
  | .sequence members => (place, .sequence members) :: placedAll place 0 members
  | .choice alternatives =>
    (place, .choice alternatives) :: placedAll place 0 alternatives
  | .zeroOrMore body =>
    (place, .zeroOrMore body) :: placed (place.member 0) body
  | .oneOrMore body => (place, .oneOrMore body) :: placed (place.member 0) body
  | .optional body => (place, .optional body) :: placed (place.member 0) body
  | .followedBy body =>
    (place, .followedBy body) :: placed (place.member 0) body
  | .notFollowedBy body =>
    (place, .notFollowedBy body) :: placed (place.member 0) body
  | .labeled label body =>
    (place, .labeled label body) :: placed (place.member 0) body
  | .action body run =>
    (place, .action body run) :: placed (place.member 0) body
  | expr => [(place, expr)]

def placedAll (place : ExprPlace) (index : Nat) :
    List (Expr α σ) → List (ExprPlace × Expr α σ)
  | [] => []
  | expr :: exprs =>
    placed (place.member index) expr ++ placedAll place (index + 1) exprs

end

theorem sizeOfAll_eq (exprs : List (Expr α σ)) :
    sizeOfAll exprs = (exprs.map size).sum := by
  induction exprs with
  | nil => rfl
  | cons expr exprs ih => simp [sizeOfAll, ih]

theorem unkeptOfAll_eq (exprs : List (Expr α σ)) :
    unkeptOfAll exprs = (exprs.map unkept).sum := by
  induction exprs with
  | nil => rfl
  | cons expr exprs ih => simp [unkeptOfAll, ih]

theorem placedAll_eq (place : ExprPlace) (index : Nat)
    (exprs : List (Expr α σ)) :
    placedAll place index exprs = (exprs.zipIdx index).flatMap fun item =>
      placed (place.member item.2) item.1 := by
  induction exprs generalizing index with
  | nil => rfl
  | cons expr exprs ih => simp [placedAll, ih]

theorem size_eq (expr : Expr α σ) :
    expr.size = (expr.members.map size).sum + 1 := by
  cases expr <;> simp [size, members, sizeOfAll_eq]

theorem unkept_eq (expr : Expr α σ) :
    expr.unkept = if expr.usesScope then expr.charge else 0 := by
  cases expr with
  | sequence exprs =>
      simp only [unkept, charge, members, unkeptOfAll_eq]
      rfl
  | _ => simp [unkept, charge, members, usesScope]

theorem placed_eq (place : ExprPlace) (expr : Expr α σ) :
    placed place expr = (place, expr) ::
      expr.members.zipIdx.flatMap fun item =>
        placed (place.member item.2) item.1 := by
  cases expr <;> simp [placed, members, placedAll_eq]

/-- An expression is charged either to itself or to what is around it. -/
theorem share_add_unkept (expr : Expr α σ) :
    expr.share + expr.unkept = expr.charge := by
  rw [share, unkept_eq]
  split <;> simp

/-- Every expression in an expression has its share, or is evaluated whenever
the whole is called. -/
theorem sum_shares (place : ExprPlace) (expr : Expr α σ) :
    ((placed place expr).map fun item => item.2.share).sum + expr.unkept =
      expr.size := by
  induction expr using induction_members generalizing place with
  | step expr ih =>
      have members := sum_map_flatMap_zipIdx expr.members 0
        fun member isMember index => ih member isMember (place.member index)
      have own := expr.share_add_unkept
      rw [placed_eq, List.map_cons, List.sum_cons, size_eq]
      rw [charge] at own
      dsimp only
      omega

end Expr

namespace Grammar

variable {α σ : Type} {grammar : Grammar α σ}

/-- The number of expressions in a grammar. -/
def size (grammar : Grammar α σ) : Nat :=
  (grammar.rules.map fun rule => rule.body.size).sum

/-- The expressions of a grammar with their places. -/
def placed (grammar : Grammar α σ) : List (ExprPlace × Expr α σ) :=
  grammar.rules.zipIdx.flatMap fun item => item.1.body.placed (.body item.2)

/-- The nodes of a grammar with the number of expressions that are evaluated
with each of them if its result is not kept yet. -/
def shares (grammar : Grammar α σ) : List (NodeKey × Nat) :=
  (grammar.rules.zipIdx.map fun item => (.rule item.2, item.1.body.unkept)) ++
    grammar.placed.map fun item => (.expression item.1, item.2.share)

theorem placed_subset {place : ExprPlace} {expr : Expr α σ}
    (found : grammar.exprAt? place = some expr) :
    expr.placed place ⊆ grammar.placed := by
  obtain ⟨rule, path⟩ := place
  induction path generalizing expr with
  | nil =>
      obtain ⟨entry, present, rfl⟩ := Option.map_eq_some_iff.mp found
      intro item isItem
      exact List.mem_flatMap.mpr
        ⟨(entry, rule), List.mem_zipIdx_iff_getElem?.mpr present, isItem⟩
  | cons index path ih =>
      obtain ⟨whole, present, isMember⟩ := Option.bind_eq_some_iff.mp found
      intro item isItem
      refine ih present ?_
      rw [Expr.placed_eq]
      refine .tail _ (List.mem_flatMap.mpr
        ⟨(expr, index), List.mem_zipIdx_iff_getElem?.mpr isMember, isItem⟩)

theorem mem_placed {place : ExprPlace} {expr : Expr α σ}
    (found : grammar.exprAt? place = some expr) :
    (place, expr) ∈ grammar.placed := by
  refine placed_subset found ?_
  rw [Expr.placed_eq]
  exact .head _

theorem mem_shares_of_rule {index : Nat} {rule : Rule α σ}
    (isRule : grammar.rules[index]? = some rule) :
    (.rule index, rule.body.unkept) ∈ grammar.shares :=
  List.mem_append_left _ (List.mem_map.mpr
    ⟨(rule, index), List.mem_zipIdx_iff_getElem?.mpr isRule, rfl⟩)

theorem mem_shares_of_expr {place : ExprPlace} {expr : Expr α σ}
    (found : grammar.exprAt? place = some expr) :
    (.expression place, expr.share) ∈ grammar.shares :=
  List.mem_append_right _ (List.mem_map.mpr
    ⟨(place, expr), mem_placed found, rfl⟩)

theorem sum_shares (grammar : Grammar α σ) :
    (grammar.shares.map Prod.snd).sum = grammar.size := by
  have bodies := sum_map_flatMap_zipIdx grammar.rules 0
    fun rule _ index => rule.body.sum_shares (.body index)
  have unkept : (grammar.rules.zipIdx.map fun item =>
      item.1.body.unkept).sum =
        (grammar.rules.map fun rule => rule.body.unkept).sum := by
    conv => rhs; rw [← List.zipIdx_map_fst 0 grammar.rules, List.map_map]
    rfl
  rw [shares, List.map_append, List.map_map, List.map_map, List.sum_append,
    Nat.add_comm]
  exact (congrArg _ unkept).trans bodies

end Grammar

namespace Session

variable {α σ : Type} {session : Session α σ}

/-- Where the results of a parse can belong, with the share of the node. -/
def shares (session : Session α σ) : List (MemoKey × Nat) :=
  (Decoded.offsets session.input).flatMap fun offset =>
    [false, true].flatMap fun inverted =>
      session.grammar.shares.map fun share =>
        (⟨offset, share.1, inverted⟩, share.2)

/-- The shares of the results that have been kept. -/
def held (session : Session α σ) (memo : MemoTable α) : Nat :=
  (session.shares.map fun share =>
    if (memo.lookup share.1).isSome then share.2 else 0).sum

theorem mem_shares {key : MemoKey} {share : Nat}
    (boundary : Decoded.Boundary session.input key.offset)
    (isShare : (key.node, share) ∈ session.grammar.shares) :
    (key, share) ∈ session.shares := by
  obtain ⟨offset, node, inverted⟩ := key
  refine List.mem_flatMap.mpr ⟨offset, boundary.mem_offsets,
    List.mem_flatMap.mpr ⟨inverted, ?_, List.mem_map.mpr ⟨_, isShare, rfl⟩⟩⟩
  cases inverted <;> simp

/-- All shares at all offsets. -/
theorem sum_shares (session : Session α σ) :
    (session.shares.map Prod.snd).sum =
      2 * session.grammar.size * (Decoded.count session.input + 1) := by
  have once : ∀ (offset : Nat) (inverted : Bool),
      ((session.grammar.shares.map fun share =>
        ((⟨offset, share.1, inverted⟩ : MemoKey), share.2)).map
          Prod.snd).sum = session.grammar.size := by
    intro offset inverted
    rw [List.map_map]
    exact session.grammar.sum_shares
  have twice (offset : Nat) := sum_map_flatMap [false, true] (once offset)
  rw [shares, sum_map_flatMap _ twice, Decoded.length_offsets]
  exact Nat.mul_comm _ _

/-- No table holds more than all shares at all offsets. -/
theorem held_le (session : Session α σ) (memo : MemoTable α) :
    session.held memo ≤
      2 * session.grammar.size * (Decoded.count session.input + 1) := by
  rw [← session.sum_shares]
  refine List.sum_le_sum fun share _ => ?_
  split
  · exact Nat.le_refl _
  · exact Nat.zero_le _

/-- Keeping a result for the first time adds its share. -/
theorem held_store {memo : MemoTable α} {key : MemoKey} {share : Nat}
    (isNew : memo.lookup key = none) (isShare : (key, share) ∈ session.shares)
    (entry : MemoEntry α) :
    session.held memo + share ≤ session.held (memo.store key entry) := by
  refine sum_map_add_le isShare (fun other _ => ?_) ?_
  · by_cases same : other.1 = key
    · simp [same, isNew]
    · simp [same, MemoTable.lookup_store]
  · simp [isNew, MemoTable.lookup_store]

end Session

end PegEngine
