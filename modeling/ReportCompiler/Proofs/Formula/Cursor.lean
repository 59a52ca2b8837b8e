import ReportCompiler.Proofs.Formula.Completeness
import ReportCompiler.Proofs.Formula.Extent

/-!
# The cursor of the reader

An expression can be read from any position of any token list, whether or not a formula has these
tokens.  The reader finds nothing and stays, stops with an error, or finds an expression and moves
on.  Where it moves to, and what it finds, is said by the grammar, which speaks of the tokens that
are used and of the next one only.

## Main definitions

* `nextAt ts pos` - the position of the next solid token, or that of the end.
* `NothingAt ts pos` - the next solid token begins no expression, or there is none.
* `ReadsTo resolve ts pos fin e` - the grammar derives `e` from the tokens between two positions,
  and what comes behind does not go on with it.

## Main results

* `parseFrom_ok_iff` - an expression is read exactly where the grammar derives it.
* `ReadsTo.congr` - tokens outside of the window do not matter.
* `cursor_moves_over_expression` - **the cursor moves over one expression, or stays.**
-/

namespace ReportCompiler.Formula

variable {ε : Type} {resolve : String → Except ε Expr}

open Reading (Finds)

/-! ### Readings without effects -/

namespace Reading

variable {α β : Type} {raise : Fault → ε}

theorem run_bind (r : Reading α) (f : α → Reading β) :
    (r.bind f).run resolve (fun why => .error (raise why)) =
      (r.run resolve fun why => .error (raise why)).bind fun a =>
        (f a).run resolve fun why => .error (raise why) := by
  induction r with
  | done a => rfl
  | fault why => rfl
  | ask reference next ih =>
    rw [ask_bind, run, run]
    cases resolve reference with
    | error why => rfl
    | ok e => exact ih e

/-- Readings that agree lead to results that are related. -/
theorem Same.answered {R : α → β → Prop} {r : Reading α} {r' : Reading β} (h : Same R r r')
    {ρ : String → Expr} {b : β} (hb : r'.answered ρ = .ok b) :
    ∃ a, r.answered ρ = .ok a ∧ R a b := by
  induction h with
  | done h =>
    obtain rfl := Except.ok.inj hb
    exact ⟨_, rfl, h⟩
  | fault why => cases hb
  | ask reference _ ih => exact ih _ hb

theorem Finds.of_answered {ρ : String → Expr} {Q : α → Prop} {r : Reading α} {a : α}
    (h : r.Finds (fun reference => (.ok (ρ reference) : Except Fault Expr)) Q)
    (ha : r.answered ρ = .ok a) : Q a := by
  have hrun : r.run (fun reference => (.ok (ρ reference) : Except Fault Expr))
      (fun why => .error (id why)) = .ok a := run_of_answered (m := Except Fault) .error ha
  exact h.of_run hrun

/-- A resolver that answers the references which a reading asks for leads to the same result as the
function of its answers, whatever it does with the references that are left. -/
theorem Consumes.exists_run {Q : List String → α → Prop} {r : Reading α} {refs : List String}
    (raise : Fault → ε) {a : α} (hr : r.Consumes (fun _ => True) Q refs)
    (h : r.answered (answerOf resolve) = .ok a) :
    ∃ now rest, refs = now ++ rest ∧ Q rest a ∧
      ((∀ reference ∈ now, ∃ e, resolve reference = .ok e) →
        r.run resolve (fun why => .error (raise why)) = .ok a) := by
  induction r generalizing refs with
  | done b =>
    obtain rfl := Except.ok.inj h
    exact ⟨[], refs, rfl, hr, fun _ => rfl⟩
  | fault why => cases h
  | ask reference next ih =>
    obtain ⟨later, rfl, hnext⟩ := hr
    obtain ⟨now, rest, rfl, hrest, hrun⟩ := ih _ (hnext _ trivial) h
    refine ⟨reference :: now, rest, rfl, hrest, fun hall => ?_⟩
    obtain ⟨⟨e, he⟩, hnow⟩ := List.forall_mem_cons.mp hall
    rw [answerOf_eq he] at hrun
    rw [run, he]
    exact hrun hnow

end Reading

/-! ### Expressions in front of other tokens -/

theorem references_append (ts us : List Token) :
    references (ts ++ us) = references ts ++ references us := by
  simp [references]

/-- A reference is a solid token. -/
theorem Resolves.of_solid {ts : List Token} (h : Resolves resolve (solid ts)) :
    Resolves resolve ts := by
  intro t ht href
  refine h t (List.mem_filter.mpr ⟨ht, ?_⟩) href
  simp [(isReference_iff.mp href).1]

/-- What is read from the front of tokens is derived from the solid tokens in front of those that
are left. -/
theorem derives_of_run {raise : Fault → ε} {ts : List Token} {e : Expr} {r : Rest ts}
    (h : (parseExpression ts).run resolve (fun why => .error (raise why)) = .ok (some (e, r))) :
    ∃ front, ts = front ++ r.1 ∧ Derives resolve 1 (solid front) e ∧ Cuts ts r.1 ∧
      Stops 1 r.1 := by
  obtain ⟨us, hus, hderives⟩ := (parse_spans.1 ts).of_run h
  obtain ⟨hcut, hstops⟩ := (parse_halts.1 ts).of_run h (e, r) rfl
  obtain ⟨front, t, hts, ht⟩ := hcut
  refine ⟨front ++ [t], by simp [← hts], ?_, ⟨front, t, hts, ht⟩, hstops⟩
  have hfront : us = solid (front ++ [t]) := by
    have happend : us ++ solid r.1 = solid (front ++ [t]) ++ solid r.1 := by
      rw [← solid_append, List.append_assoc, List.singleton_append, ← hts]
      exact hus.symm
    exact List.append_cancel_right happend
  rw [← hfront]
  cases hderives with
  | given h => exact h

/-- Tokens from which an expression is derived are read as that expression, whatever comes behind
them that does not go on with it. -/
theorem run_of_derives (raise : Fault → ε) {ts front rest : List Token} {e : Expr}
    (hts : ts = front ++ rest) (hderives : Derives resolve 1 (solid front) e) (hcut : Cuts ts rest)
    (hstops : Stops 1 rest) :
    ∃ r, (parseExpression ts).run resolve (fun why => .error (raise why)) = .ok (some (e, r)) ∧
      r.1 = rest := by
  -- without blanks, by the rules of the grammar, and with them since they are skipped
  obtain ⟨left, hread, hleft⟩ := hderives.written.2.expression (by omega) (by omega) hstops
  have hsame : solid ts = solid (solid front ++ rest) := by
    rw [hts, solid_append, solid_append, solid_solid]
  obtain ⟨found, hfound, hrel⟩ := (parse_same.1 _ _ hsame).answered hread
  cases hrel with
  | @some p _ hp =>
    obtain ⟨u, r⟩ := p
    obtain ⟨rfl, hr⟩ : u = e ∧ solid r.1 = solid left.1 := hp
    have hrest : r.1 = rest :=
      ((parse_halts.1 _).of_answered hfound (u, r) rfl).1.eq_of_solid hcut
        (hr.trans (congrArg solid hleft))
    refine ⟨r, ?_, hrest⟩
    -- the references that are asked for are those in front of the rest
    obtain ⟨now, later, hrefs, hlater, hrun⟩ :=
      ((parse_consumes Expr.Compositional.trivial.assembles).1 _).exists_run raise hfound
    have hnow : now = references front := by
      have happend : now ++ later = references front ++ later := by
        rw [← hrefs, hts, references_append, ← hrest]
        exact congrArg (references front ++ ·) hlater.2.symm
      exact List.append_cancel_right happend
    refine hrun fun reference href => ?_
    rw [hnow] at href
    obtain ⟨t, ht, rfl⟩ := List.mem_map.mp href
    obtain ⟨hmem, hreference⟩ := List.mem_filter.mp ht
    exact hderives.resolves.of_solid t hmem hreference

/-! ### Positions -/

/-- The position of the next solid token from `pos` on, or that of the end. -/
def nextAt (ts : List Token) (pos : Nat) : Nat :=
  pos + (ts.drop pos).findIdx fun t => t.kind ≠ .whitespace

theorem getElem?_findIdx_solid (ts : List Token) :
    ts[ts.findIdx fun t => t.kind ≠ .whitespace]? = (next? ts).map Prod.fst := by
  fun_induction next? ts with
  | case1 => rfl
  | case2 t rest hblank ih =>
    rw [List.findIdx_cons, Option.map_map]
    simpa [hblank, Function.comp_def] using ih
  | case3 t rest hsolid => simp [List.findIdx_cons, hsolid]

theorem getElem?_nextAt (ts : List Token) (pos : Nat) :
    ts[nextAt ts pos]? = (next? (ts.drop pos)).map Prod.fst := by
  rw [nextAt, ← List.getElem?_drop, getElem?_findIdx_solid]

/-- The next solid token is the same when the tokens up to it are. -/
theorem findIdx_congr {α : Type} {p : α → Bool} {xs ys : List α}
    (h : ∀ i ≤ xs.findIdx p, ys[i]? = xs[i]?) : ys.findIdx p = xs.findIdx p := by
  induction xs generalizing ys with
  | nil =>
    have hnil : ys = [] := by simpa using h 0 (Nat.zero_le _)
    rw [hnil]
  | cons x xs ih =>
    have hfirst := h 0 (Nat.zero_le _)
    cases ys with
    | nil => cases hfirst
    | cons y ys =>
      obtain rfl := Option.some.inj hfirst
      rw [List.findIdx_cons] at h ⊢
      rw [List.findIdx_cons]
      cases hy : p y with
      | true => rfl
      | false =>
        rw [hy] at h
        exact congrArg (· + 1) (ih fun i hi => h (i + 1) (Nat.succ_le_succ hi))

theorem nextAt_congr {ts ts' : List Token} {pos : Nat}
    (h : ∀ i, pos ≤ i → i ≤ nextAt ts pos → ts'[i]? = ts[i]?) : nextAt ts' pos = nextAt ts pos := by
  refine congrArg (pos + ·) (findIdx_congr fun i hi => ?_)
  rw [List.getElem?_drop, List.getElem?_drop]
  exact h (pos + i) (by omega) (Nat.add_le_add_left hi pos)

theorem cuts_drop_iff {ts : List Token} {pos fin : Nat} (hfin : fin ≤ ts.length) :
    Cuts (ts.drop pos) (ts.drop fin) ↔
      pos < fin ∧ ∃ t, ts[fin - 1]? = some t ∧ t.kind ≠ .whitespace := by
  constructor
  · rintro ⟨front, t, hts, ht⟩
    have hlength := congrArg List.length hts
    simp only [List.length_drop, List.length_append, List.length_cons] at hlength
    have hlast : ts[pos + front.length]? = some t := by
      rw [← List.getElem?_drop, hts, List.getElem?_append_right (Nat.le_refl _)]
      simp
    have hindex : pos + front.length = fin - 1 := by omega
    exact ⟨by omega, t, hindex ▸ hlast, ht⟩
  · rintro ⟨hlt, t, hlast, ht⟩
    refine ⟨(ts.drop pos).take (fin - 1 - pos), t, ?_, ht⟩
    obtain ⟨hindex, hget⟩ := List.getElem?_eq_some_iff.mp hlast
    have htail : t :: ts.drop fin = (ts.drop pos).drop (fin - 1 - pos) := by
      rw [List.drop_drop, show pos + (fin - 1 - pos) = fin - 1 by omega,
        List.drop_eq_getElem_cons hindex, hget, show fin - 1 + 1 = fin by omega]
    rw [htail, List.take_append_drop]

/-! ### Reading from a position -/

/-- The tokens from `pos` up to `fin` are read as `e`: the solid ones derive it, the last one is
solid, and the next solid token behind them does not go on with it. -/
structure ReadsTo (resolve : String → Except ε Expr) (ts : List Token) (pos fin : Nat) (e : Expr) :
    Prop where
  /-- Some token is used. -/
  lt : pos < fin
  /-- The last token that is used is solid. -/
  last : ∃ t, ts[fin - 1]? = some t ∧ t.kind ≠ .whitespace
  /-- The solid tokens derive the expression. -/
  derives : Derives resolve 1 (solid ((ts.drop pos).take (fin - pos))) e
  /-- The next token is neither a percent sign nor an infix operator. -/
  stops : ∀ t, ts[nextAt ts fin]? = some t → t.kind ≠ .postfixOp ∧ t.binaryOp? = none

theorem ReadsTo.le_length {ts : List Token} {pos fin : Nat} {e : Expr}
    (h : ReadsTo resolve ts pos fin e) : fin ≤ ts.length := by
  obtain ⟨t, ht, -⟩ := h.last
  have hindex := (List.getElem?_eq_some_iff.mp ht).1
  have hlt := h.lt
  omega

theorem reach_lt_one_iff {t : Token} :
    t.reach < 1 ↔ t.kind ≠ .postfixOp ∧ t.binaryOp? = none := by
  unfold Token.reach
  split
  case isTrue hpost => simp [hpost]
  case isFalse hpost =>
    cases t.binaryOp? with
    | none => simp [hpost]
    | some op =>
      have hpos := precedence_pos op
      simp only [Option.map_some, Option.getD_some]
      simp
      omega

theorem stops_drop_iff {ts : List Token} {pos : Nat} :
    Stops 1 (ts.drop pos) ↔
      ∀ t, ts[nextAt ts pos]? = some t → t.kind ≠ .postfixOp ∧ t.binaryOp? = none := by
  simp only [Stops, reach_lt_one_iff, getElem?_nextAt, Option.map_eq_some_iff, Prod.exists]
  exact ⟨fun h t => by rintro ⟨u, r, hnext, rfl⟩; exact h u r hnext,
    fun h t r hnext => h t ⟨t, r, hnext, rfl⟩⟩

/-- Only the tokens from `pos` up to the one that is looked at last matter. -/
theorem ReadsTo.congr {ts ts' : List Token} {pos fin : Nat} {e : Expr}
    (h : ReadsTo resolve ts pos fin e)
    (hsame : ∀ i, pos ≤ i → i ≤ nextAt ts fin → ts'[i]? = ts[i]?) :
    ReadsTo resolve ts' pos fin e := by
  have hlt := h.lt
  have hle : fin ≤ nextAt ts fin := Nat.le_add_right _ _
  have hnext : nextAt ts' fin = nextAt ts fin :=
    nextAt_congr fun i hi => hsame i (by omega)
  have htaken : (ts'.drop pos).take (fin - pos) = (ts.drop pos).take (fin - pos) := by
    refine List.ext_getElem? fun i => ?_
    by_cases hi : i < fin - pos
    · rw [List.getElem?_take_of_lt hi, List.getElem?_take_of_lt hi, List.getElem?_drop,
        List.getElem?_drop]
      exact hsame (pos + i) (by omega) (by omega)
    · simp [List.getElem?_take_eq_none (Nat.le_of_not_lt hi)]
  refine ⟨hlt, ?_, by rw [htaken]; exact h.derives, ?_⟩
  · rw [hsame (fin - 1) (by omega) (by omega)]
    exact h.last
  · rw [hnext, hsame _ (by omega) (Nat.le_refl _)]
    exact h.stops

/-- The same, said of the tokens that are left. -/
theorem readsTo_of_cuts {ts front rest : List Token} {pos : Nat} {e : Expr}
    (hfront : ts.drop pos = front ++ rest) (hderives : Derives resolve 1 (solid front) e)
    (hcut : Cuts (ts.drop pos) rest) (hstops : Stops 1 rest) :
    ReadsTo resolve ts pos (ts.length - rest.length) e := by
  have hsuffix : rest <:+ ts := List.IsSuffix.trans ⟨front, hfront.symm⟩ (List.drop_suffix pos ts)
  have hle := hsuffix.length_le
  have hlength := congrArg List.length hfront
  rw [List.length_append, List.length_drop] at hlength
  generalize hfin : ts.length - rest.length = fin
  obtain rfl : rest = ts.drop fin := hfin ▸ List.suffix_iff_eq_drop.mp hsuffix
  obtain ⟨hlt, hlast⟩ := (cuts_drop_iff (by omega)).mp hcut
  have htaken : (ts.drop pos).take (fin - pos) = front := by
    rw [hfront, List.take_append_of_le_length (by omega), List.take_of_length_le (by omega)]
  exact ⟨hlt, hlast, by rwa [htaken], stops_drop_iff.mp hstops⟩

theorem parseFrom_run (raise : Fault → ε) (ts : List Token) (pos : Nat) :
    (parseFrom ts pos).run resolve (fun why => .error (raise why)) =
      ((parseExpression (ts.drop pos)).run resolve fun why => .error (raise why)).map fun found =>
        (found.map Prod.fst, (found.map fun p => ts.length - p.2.1.length).getD pos) := by
  rw [parseFrom, Reading.run_bind]
  rcases (parseExpression (ts.drop pos)).run resolve fun why => .error (raise why) with
    why | (_ | p) <;> rfl

/-- **An expression is read from a position exactly if the grammar derives it there.** -/
theorem parseFrom_ok_iff {raise : Fault → ε} {ts : List Token} {pos fin : Nat} {e : Expr} :
    (parseFrom ts pos).run resolve (fun why => .error (raise why)) = .ok (some e, fin) ↔
      ReadsTo resolve ts pos fin e := by
  rw [parseFrom_run]
  constructor
  · intro h
    rcases hrun : (parseExpression (ts.drop pos)).run resolve fun why => .error (raise why) with
      why | (_ | ⟨u, r⟩)
    · rw [hrun] at h
      cases h
    · rw [hrun] at h
      cases h
    · rw [hrun] at h
      obtain ⟨hu, rfl⟩ := Prod.mk.inj (Except.ok.inj h)
      obtain rfl := Option.some.inj hu
      obtain ⟨front, hfront, hderives, hcut, hstops⟩ := derives_of_run hrun
      exact readsTo_of_cuts hfront hderives hcut hstops
  · intro h
    have hlt := h.lt
    have hle := h.le_length
    have hcut : Cuts (ts.drop pos) (ts.drop fin) := (cuts_drop_iff hle).mpr ⟨hlt, h.last⟩
    have hsplit : ts.drop pos = (ts.drop pos).take (fin - pos) ++ ts.drop fin := by
      have hdrop : ts.drop fin = (ts.drop pos).drop (fin - pos) := by
        rw [List.drop_drop, Nat.add_sub_cancel' (Nat.le_of_lt hlt)]
      rw [hdrop, List.take_append_drop]
    obtain ⟨r, hrun, hrest⟩ :=
      run_of_derives raise hsplit h.derives hcut (stops_drop_iff.mpr h.stops)
    have hfin : ts.length - r.1.length = fin := by
      rw [hrest, List.length_drop]
      omega
    rw [hrun]
    exact congrArg (fun fin => Except.ok (some e, fin)) hfin

/-- There is nothing to read: what comes next is the end, a separator or a closer. -/
def NothingAt (ts : List Token) (pos : Nat) : Prop :=
  ∀ t, ts[nextAt ts pos]? = some t →
    t.kind = .sep ∨ t.kind = .func ∧ t.subkind = .closer ∨ t.kind = .paren ∧ t.subkind = .closer

theorem nothingAt_iff {ts : List Token} {pos : Nat} :
    NothingAt ts pos ↔ ∀ t r, next? (ts.drop pos) = some (t, r) → t.endsExpression := by
  simp only [NothingAt, getElem?_nextAt, Option.map_eq_some_iff, Prod.exists, Token.endsExpression,
    Token.is, Bool.or_eq_true, Bool.and_eq_true, decide_eq_true_eq, or_assoc]
  exact ⟨fun h t r hnext => h t ⟨t, r, hnext, rfl⟩,
    fun h t => by rintro ⟨u, r, hnext, rfl⟩; exact h u r hnext⟩

theorem parseExpression_eq_none {ts : List Token}
    (h : ∀ t r, next? ts = some (t, r) → t.endsExpression) : parseExpression ts = .done none := by
  rw [parseExpression]
  split
  case h_1 => rfl
  case h_2 t r hnext => exact if_pos (h t r hnext)

theorem parseExpression_finds_some {ts : List Token} {t : Token} {r : Rest ts}
    (hnext : next? ts = some (t, r)) (ht : t.endsExpression = false) :
    (parseExpression ts).Finds resolve fun found => found ≠ none := by
  rw [parseExpression, hnext]
  simp only [ht]
  exact (parse_halts.2.1 5 ts (Nat.le_refl 5)).bind fun p _ => Option.some_ne_none p

/-- Where there is something to read, it is read or refused. -/
theorem parseFrom_ne_none {raise : Fault → ε} {ts : List Token} {pos : Nat}
    (h : ¬NothingAt ts pos) (fin : Nat) :
    (parseFrom ts pos).run resolve (fun why => .error (raise why)) ≠ .ok (none, fin) := by
  intro hread
  simp only [nothingAt_iff, Classical.not_forall] at h
  obtain ⟨t, r, hnext, ht⟩ := h
  have hfinds : (parseExpression (ts.drop pos)).Finds resolve fun found => found ≠ none :=
    parseExpression_finds_some hnext (Bool.eq_false_iff.mpr ht)
  rw [parseFrom_run] at hread
  rcases hrun : (parseExpression (ts.drop pos)).run resolve fun why => .error (raise why) with
    why | (_ | p)
  · rw [hrun] at hread
    cases hread
  · exact hfinds.of_run hrun rfl
  · rw [hrun] at hread
    cases hread

theorem binaryOp?_eq_none_iff {t : Token} :
    t.binaryOp? = none ↔ ∀ op : BinaryOp, ¬(t.kind = .infixOp ∧ t.value = op.symbol) := by
  have hall (op : BinaryOp) : op ∈ BinaryOp.all := by cases op <;> decide
  unfold Token.binaryOp?
  split
  case isTrue hkind =>
    rw [BinaryOp.ofSymbol?, List.find?_eq_none]
    simp only [beq_iff_eq, hkind, true_and]
    exact ⟨fun h op heq => h op (hall op) heq.symm, fun h op _ heq => h op heq.symm⟩
  case isFalse hkind => simp [hkind]

/-- **The cursor moves over one expression, or stays.**  From any position of any token list, with
any resolver that has no effects: where there is no solid token left, or the next one is a separator
or a closer, nothing is read and the position stays.  Elsewhere there is an error, or an expression
is read and the position moves on, but not beyond the end.  Then the next solid token is neither a
percent sign nor an infix operator, and no token behind it, nor any in front of the old position,
has a say in what is read and how far.  An expression is read exactly where the grammar derives it.
-/
theorem cursor_moves_over_expression (resolve : String → Except ε Expr) (raise : Fault → ε)
    (ts : List Token) (pos : Nat) :
    let read (ts : List Token) := (parseFrom ts pos).run resolve fun why => .error (raise why)
    (NothingAt ts pos → read ts = .ok (none, pos)) ∧
    (¬NothingAt ts pos → (∃ why, read ts = .error why) ∨
      ∃ e fin, read ts = .ok (some e, fin) ∧ pos < fin ∧ fin ≤ ts.length ∧
        (∀ t, ts[nextAt ts fin]? = some t → t.kind ≠ .postfixOp ∧
          ∀ op : BinaryOp, ¬(t.kind = .infixOp ∧ t.value = op.symbol)) ∧
        ∀ ts', (∀ i, pos ≤ i → i ≤ nextAt ts fin → ts'[i]? = ts[i]?) →
          read ts' = .ok (some e, fin)) ∧
    ∀ e fin, read ts = .ok (some e, fin) ↔ ReadsTo resolve ts pos fin e := by
  refine ⟨fun h => ?_, fun h => ?_, fun e fin => parseFrom_ok_iff⟩
  · rw [nothingAt_iff] at h
    simp only [parseFrom_run, parseExpression_eq_none h]
    rfl
  · rcases hread : (parseFrom ts pos).run resolve fun why => .error (raise why) with
      why | ⟨_ | e, fin⟩
    · exact .inl ⟨why, hread⟩
    · exact absurd hread (parseFrom_ne_none h fin)
    · have hreads := parseFrom_ok_iff.mp hread
      refine .inr ⟨e, fin, hread, hreads.lt, hreads.le_length, fun t ht => ?_, fun ts' hsame => ?_⟩
      · exact (hreads.stops t ht).imp_right binaryOp?_eq_none_iff.mp
      · exact parseFrom_ok_iff.mpr (hreads.congr hsame)

/-- A call without closer, with a blank behind its first argument. -/
def unclosedSum : List Token :=
  [⟨.func, .opener, "SUM("⟩, ⟨.operand, .range, "A1"⟩, ⟨.infixOp, .plain, "+"⟩,
    ⟨.operand, .number, "1"⟩, ⟨.whitespace, .plain, " "⟩, ⟨.sep, .arg, ","⟩,
    ⟨.operand, .range, "B1"⟩]

/-- The same argument between closers that nothing opens. -/
def strayClosers : List Token :=
  [⟨.paren, .closer, ")"⟩, ⟨.operand, .range, "A1"⟩, ⟨.infixOp, .plain, "+"⟩,
    ⟨.operand, .number, "1"⟩, ⟨.whitespace, .plain, " "⟩, ⟨.sep, .arg, ","⟩, ⟨.func, .closer, ")"⟩,
    ⟨.postfixOp, .plain, "%"⟩]

theorem readsTo_unclosedSum :
    ReadsTo byName unclosedSum 1 4 (.binary .add (.var "A1") (.number "1")) where
  lt := by decide
  last := ⟨⟨.operand, .number, "1"⟩, rfl, by decide⟩
  derives := by
    have hreference : Derives byName 3 [⟨.operand, .range, "A1"⟩] (.var "A1") :=
      .tighter (.tighter (.tighter (.tighter (.tighter (.operand (.reference rfl rfl))))))
    have hnumber : Derives byName 4 [⟨.operand, .number, "1"⟩] (.number "1") :=
      .tighter (.tighter (.tighter (.tighter (.operand (.number rfl)))))
    have hsum := Derives.binary (t := ⟨.infixOp, .plain, "+"⟩) hreference rfl hnumber rfl rfl
    exact .tighter (.tighter hsum)
  stops t ht := by
    obtain rfl := Option.some.inj ht
    decide

/-- The first argument is read up to the blank in front of the separator, whatever stands around
them.  From the blank on nothing is read. -/
theorem cursor_moves_over_expression_unclosedSum :
    (parseFrom unclosedSum 1).run byName .error =
        .ok (some (.binary .add (.var "A1") (.number "1")), 4) ∧
    (parseFrom strayClosers 1).run byName .error =
        .ok (some (.binary .add (.var "A1") (.number "1")), 4) ∧
    (parseFrom unclosedSum 4).run byName .error = .ok (none, 4) := by
  obtain ⟨-, hsome, hiff⟩ := cursor_moves_over_expression byName id unclosedSum 1
  obtain ⟨hnone, -, -⟩ := cursor_moves_over_expression byName id unclosedSum 4
  have hread := (hiff _ _).mpr readsTo_unclosedSum
  have hbegins : ¬NothingAt unclosedSum 1 := fun h => by
    simpa using h ⟨.operand, .range, "A1"⟩ rfl
  refine ⟨hread, ?_, hnone fun t ht => ?_⟩
  · rcases hsome hbegins with ⟨why, hwhy⟩ | ⟨e, fin, hfound, -, -, -, hlocal⟩
    · cases hwhy.symm.trans hread
    · obtain ⟨he, rfl⟩ := Prod.mk.inj (Except.ok.inj (hfound.symm.trans hread))
      obtain rfl := Option.some.inj he
      have hsame : ∀ i < 6, 1 ≤ i → strayClosers[i]? = unclosedSum[i]? := by decide
      exact hlocal strayClosers fun i hi hle => hsame i (Nat.lt_succ_of_le hle) hi
  · obtain rfl := Option.some.inj ht
    exact .inl rfl

end ReportCompiler.Formula
