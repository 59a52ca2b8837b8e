import ReportCompiler.Command.Flatten
import ReportCompiler.Proofs.Document.Table

/-!
# What is printed for a list of directories

A program is run on each directory in turn, and each run prints its row before the next one starts.
The header comes from the first run.  What has been printed in the end is a table as `tableText` writes
it, also if a run fails: then it is the table of the runs before.

## Main definitions

* `CommandM.result` - what a piece of work comes to, and what it leaves behind.
* `CommandM.Silent` - work that only reads.
* `AddsRows` - work that adds rows to a table.

## Main results

* `AddsRows.flattenOne_bind` - a run adds one row.
* `addsRows_flattenCommand` - **what is printed for a list of directories is a table.**
-/

namespace ReportCompiler

namespace CommandM

/-- What a piece of work comes to, and what it leaves behind. -/
def result {α : Type} (x : CommandM α) (c : Console) : Except Failure α × Console :=
  x.run.run c

variable {α β : Type} {x : CommandM α} {c c' : Console}

theorem result_bind_ok {a : α} (f : α → CommandM β) (h : x.result c = (.ok a, c')) :
    (x >>= f).result c = (f a).result c' := by
  have hx : x c = (Except.ok a, c') := h
  show (ExceptT.bind x f) c = _
  simp only [ExceptT.bind, ExceptT.mk, bind, StateT.bind, hx]
  rfl

theorem result_bind_error {e : Failure} (f : α → CommandM β) (h : x.result c = (.error e, c')) :
    (x >>= f).result c = (.error e, c') := by
  have hx : x c = (Except.error e, c') := h
  show (ExceptT.bind x f) c = _
  simp only [ExceptT.bind, ExceptT.mk, bind, StateT.bind, hx]
  rfl

/-- The work leaves the console as it is. -/
def Silent (x : CommandM α) : Prop :=
  ∀ c, (x.result c).2 = c

theorem Silent.pure (a : α) : Silent (Pure.pure a) :=
  fun _ => rfl

theorem Silent.throw (e : Failure) : Silent (throw e : CommandM α) :=
  fun _ => rfl

theorem Silent.get : Silent (get : CommandM Console) :=
  fun _ => rfl

theorem Silent.cases (h : Silent x) (c : Console) :
    (∃ a, x.result c = (.ok a, c)) ∨ ∃ e, x.result c = (.error e, c) := by
  have hc := h c
  generalize x.result c = r at hc ⊢
  obtain ⟨(e | a), _⟩ := r
  · exact .inr ⟨e, congrArg _ hc⟩
  · exact .inl ⟨a, congrArg _ hc⟩

theorem Silent.bind {f : α → CommandM β} (hx : Silent x) (hf : ∀ a, Silent (f a)) :
    Silent (x >>= f) := by
  intro c
  rcases hx.cases c with ⟨a, ha⟩ | ⟨e, he⟩
  · rw [result_bind_ok f ha]
    exact hf a c
  · rw [result_bind_error f he]

end CommandM

open CommandM

/-! ### Work that only reads -/

theorem silent_runProgram (interpreter : Interpreter) (program report : String) :
    Silent (runProgram interpreter program report) := by
  refine .bind .get fun c => ?_
  dsimp only
  split
  · exact .throw _
  · split
    · exact .pure _
    · exact .throw _

theorem silent_findInterpreter (host : Host) (name : String) : Silent (findInterpreter host name) := by
  unfold findInterpreter
  split
  · exact .pure _
  · exact .throw _

theorem silent_readDirectories (host : Host) (infile : Option String) :
    Silent (readDirectories host infile) := by
  have hlist : Silent (readList host infile) := by
    unfold readList
    split
    · exact .pure _
    · refine .bind .get fun c => ?_
      split
      · exact .pure _
      all_goals exact .throw _
  refine .bind hlist fun bytes => ?_
  split
  · exact .pure _
  · exact .throw _

/-! ### Work that adds rows -/

/-- The work adds rows to a table, one for each label in turn, until it fails. -/
def AddsRows (isFirst : Bool) (labels : List String) (x : CommandM Unit) (c : Console) : Prop :=
  ∃ runs outcome,
    x.result c = (outcome, { c with stdout := c.stdout ++ tableText isFirst runs }) ∧
      runs.map Prod.fst <+: labels ∧ (outcome = .ok () → runs.map Prod.fst = labels)

theorem AddsRows.of_error {isFirst : Bool} {labels : List String} {x : CommandM Unit} {c : Console}
    {e : Failure} (h : x.result c = (.error e, c)) : AddsRows isFirst labels x c := by
  refine ⟨[], .error e, ?_, List.nil_prefix, nofun⟩
  rw [h, tableText, String.append_empty]

theorem AddsRows.after {α : Type} {isFirst : Bool} {labels : List String} {x : CommandM α}
    {f : α → CommandM Unit} {a : α} {c : Console} (hx : x.result c = (.ok a, c))
    (hf : AddsRows isFirst labels (f a) c) : AddsRows isFirst labels (x >>= f) c := by
  unfold AddsRows
  rwa [result_bind_ok f hx]

/-- A run adds its row, or it fails and adds nothing. -/
theorem flattenOne_cases (host : Host) (interpreter : Interpreter) (program : String) (isFirst : Bool)
    (dir : String) (c : Console) :
    (∃ document, (flattenOne host interpreter program isFirst dir).result c = (.ok (),
        { c with stdout := c.stdout ++ documentRows isFirst (benchmarkName dir) document })) ∨
      ∃ e, (flattenOne host interpreter program isFirst dir).result c = (.error e, c) := by
  unfold flattenOne
  rcases (silent_runProgram interpreter program (host.expand dir)).cases c with ⟨s, hs⟩ | ⟨e, he⟩
  · rw [result_bind_ok _ hs]
    split
    · next document _ => exact .inl ⟨document, rfl⟩
    · exact .inr ⟨_, rfl⟩
  · exact .inr ⟨e, result_bind_error _ he⟩

theorem AddsRows.flattenOne_bind {host : Host} {interpreter : Interpreter} {program : String}
    {labels : List String} {next : CommandM Unit} (hnext : ∀ c, AddsRows false labels next c)
    (isFirst : Bool) (dir : String) (c : Console) :
    AddsRows isFirst (benchmarkName dir :: labels)
      (flattenOne host interpreter program isFirst dir >>= fun _ => next) c := by
  rcases flattenOne_cases host interpreter program isFirst dir c with ⟨document, hrun⟩ | ⟨e, he⟩
  · obtain ⟨runs, outcome, hresult, hlabels, hall⟩ := hnext
      { c with stdout := c.stdout ++ documentRows isFirst (benchmarkName dir) document }
    refine ⟨(benchmarkName dir, document) :: runs, outcome, ?_, ?_, ?_⟩
    · rw [result_bind_ok _ hrun, hresult, String.append_assoc, tableText]
    · exact List.cons_prefix_cons.mpr ⟨rfl, hlabels⟩
    · intro hok
      rw [List.map_cons, hall hok]
  · exact .of_error (result_bind_error _ he)

theorem addsRows_forM (host : Host) (interpreter : Interpreter) (program : String)
    (dirs : List String) (c : Console) :
    AddsRows false (dirs.map benchmarkName)
      (dirs.forM (flattenOne host interpreter program false)) c := by
  induction dirs generalizing c with
  | nil =>
    refine ⟨[], .ok (), ?_, List.prefix_rfl, fun _ => rfl⟩
    rw [tableText, String.append_empty]
    rfl
  | cons dir rest ih => exact .flattenOne_bind ih false dir c

/-- **What is printed for a list of directories is a table.**  It has one row for each of them, as
far as no run fails, with their names for labels. -/
theorem addsRows_flattenCommand {host : Host} {args : FlattenArgs} {c : Console} {dirs : List String}
    (h : ((readDirectories host args.infile).result c).1 = .ok dirs) :
    AddsRows true (dirs.map benchmarkName) (flattenCommand host args) c := by
  have hget : (get : CommandM Console).result c = (.ok c, c) := rfl
  have hread : (readDirectories host args.infile).result c = (.ok dirs, c) :=
    Prod.ext h (silent_readDirectories host args.infile c)
  refine .after hget ?_
  dsimp only
  split
  · exact .of_error rfl
  · refine .after hread ?_
    cases dirs with
    | nil => exact .of_error rfl
    | cons first rest =>
      rcases (silent_findInterpreter host args.interpreter).cases c with ⟨i, hi⟩ | ⟨e, he⟩
      · exact .after hi (.flattenOne_bind (addsRows_forM host i _ rest) true first c)
      · exact .of_error (result_bind_error _ he)

end ReportCompiler
