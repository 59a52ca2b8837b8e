import Mathlib.Data.List.Perm.Basic
import ReportCompiler.Proofs.Session.Walk

/-!
# The instructions are the meanings of the reachable cells

When a new session is asked for some cells and every request succeeds, its instructions are those of
the cells that the requested ones lead to, each once and no others.  Their order is the only thing
that depends on the order of the requests.

## Main results

* `exists_sound_of_ensure` - the cells that are done after successful requests.
* `instructions_exact` - **the instructions are the meanings of the reachable cells**, and requests
  for the same cells in another order give the same instructions up to their order.
-/

namespace ReportCompiler

open Formula

namespace Source

variable {src : Source}

/-- Making sure of several cells: when all requests succeed, all of them are done. -/
theorem does_ensureAll {T : Address → Prop} (hT : ∀ a b, T a → src.DependsOn a b → T b)
    {before : List Address} {s : Session} (h : s.Sound src before) (hchain : s.chain = [])
    {requested : List Address} (hreq : ∀ a ∈ requested, ∀ c, src.canonical a = .ok c → T c) :
    SessionM.Does src T (fun after _ => ∀ a ∈ requested, ∃ c, src.canonical a = .ok c ∧ c ∈ after)
      (requested.mapM src.ensure) before s := by
  induction requested generalizing before s with
  | nil =>
    rw [List.mapM_nil]
    exact SessionM.does_pure h (by simp)
  | cons a rest ih =>
    rw [List.mapM_cons]
    refine (does_ensure hT h hchain (hreq a List.mem_cons_self)).bind ?_
    rintro n after s' hgrown ⟨c, hcanon, -, hc⟩
    have hrest := ih hgrown.sound (hgrown.chain.trans hchain)
      fun b hb => hreq b (List.mem_cons_of_mem _ hb)
    refine hrest.bind ?_
    intro ns later s'' hgrown' hall
    refine SessionM.does_pure hgrown'.sound ?_
    intro b hb
    rcases List.mem_cons.mp hb with rfl | hb
    · exact ⟨c, hcanon, hgrown'.mem hc⟩
    · exact hall b hb

theorem Reachable.trans {requested : List Address} {a b : Address}
    (h : src.Reachable requested a) (hab : src.DependsOn a b) : src.Reachable requested b := by
  obtain ⟨r, hr, start, hstart, hpath⟩ := h
  exact ⟨r, hr, start, hstart, hpath.tail hab⟩

/-- After successful requests exactly the reachable cells are done, and none is in progress. -/
theorem exists_sound_of_ensure {requested : List Address} {names : List String} {s : Session}
    (h : requested.mapM src.ensure {} = (.ok names, s)) :
    ∃ cells, s.Sound src cells ∧ s.chain = [] ∧ ∀ c, c ∈ cells ↔ src.Reachable requested c := by
  obtain ⟨cells, hgrown, hall⟩ := does_ensureAll (fun _ _ ha hab => Reachable.trans ha hab)
    Session.Sound.fresh rfl
    (fun a ha c hc => (⟨a, ha, c, hc, .refl⟩ : src.Reachable requested c))
  rw [h] at hgrown hall
  have hdone := hall names rfl
  obtain ⟨new, hnew, hreach⟩ := hgrown.grown
  refine ⟨cells, hgrown.sound, hgrown.chain, ?_⟩
  intro c
  constructor
  · intro hc
    exact hreach c (by simpa [hnew] using hc)
  · -- dependence does not lead out of the compiled cells
    rintro ⟨a, ha, start, hstart, hpath⟩
    obtain ⟨start', hstart', hmem⟩ := hdone a ha
    obtain rfl := Except.ok.inj (hstart.symm.trans hstart')
    exact hgrown.sound.compiled.mem_of_reflTransGen hmem hpath

theorem exists_cells_of_ensure {requested : List Address} {names : List String} {s : Session}
    (h : requested.mapM src.ensure {} = (.ok names, s)) :
    ∃ cells, src.Compiles cells s.instructions.toList ∧
      ∀ c, c ∈ cells ↔ src.Reachable requested c := by
  obtain ⟨cells, hsound, -, hcells⟩ := exists_sound_of_ensure h
  exact ⟨cells, hsound.compiled, hcells⟩

/-- Requests for the same cells lead to the same cells. -/
theorem Reachable.congr {requested requested' : List Address}
    (h : ∀ a, a ∈ requested' ↔ a ∈ requested) (c : Address) :
    src.Reachable requested' c ↔ src.Reachable requested c := by
  simp only [Reachable, h]

end Source

/-- **The instructions of a session are the meanings of the reachable cells.**  When a new session
is asked for cells and every request succeeds, there is one instruction for each cell that the
requested ones lead to, these included, and no other; each binds the variable of its cell to the
meaning of the cell.  Requests for the same cells in another order, if they all succeed, give the
same instructions in perhaps another order. -/
theorem instructions_exact (src : Source) (requested : List Address) (names : List String)
    (s : Session) (h : requested.mapM src.ensure {} = (.ok names, s)) :
    (∃ cells : List Address, cells.Nodup ∧ (∀ c, c ∈ cells ↔ src.Reachable requested c) ∧
      (s.instructions.toList.map Instruction.name).Nodup ∧
      cells.map src.instruction = s.instructions.toList.map .ok) ∧
    ∀ (requested' : List Address) (names' : List String) (s' : Session),
      (∀ a, a ∈ requested' ↔ a ∈ requested) → requested'.mapM src.ensure {} = (.ok names', s') →
        s'.instructions.toList.Perm s.instructions.toList := by
  obtain ⟨cells, hcompiled, hcells⟩ := Source.exists_cells_of_ensure h
  refine ⟨⟨cells, hcompiled.nodup, hcells, hcompiled.nodup_names, hcompiled.map_instruction⟩, ?_⟩
  intro requested' names' s' hsame h'
  obtain ⟨cells', hcompiled', hcells'⟩ := Source.exists_cells_of_ensure h'
  -- both runs compile the same cells, and an instruction is a function of its cell
  have hperm : cells'.Perm cells := by
    rw [List.perm_ext_iff_of_nodup hcompiled'.nodup hcompiled.nodup]
    intro c
    rw [hcells', hcells, Source.Reachable.congr hsame]
  have hmap := hperm.map src.instruction
  rw [hcompiled'.map_instruction, hcompiled.map_instruction] at hmap
  exact (List.map_perm_map_iff fun _ _ => Except.ok.inj).mp hmap

/-- Two cells of a report that refer to the same cell of another sheet, one of them also to the
other.  The references without sheet on the second sheet stay there. -/
def twoSheets : Source where
  workbook := { sheets := [
    ((Sheet.new "report").setFormula ⟨0, 0⟩ "=b!A1+A2").setFormula ⟨1, 0⟩ "=2*B!A1",
    ((Sheet.new "B").setFormula ⟨0, 0⟩ "=A2").setValue ⟨1, 0⟩ (.boolean true)] }
  layout := {}

/-- Both orders of the two requests succeed, and they give the same instructions up to order. -/
theorem instructions_exact_twoSheets :
    let forth := [⟨"report", 0, 0⟩, ⟨"REPORT", 1, 0⟩].mapM twoSheets.ensure {}
    let back := [⟨"REPORT", 1, 0⟩, ⟨"report", 0, 0⟩].mapM twoSheets.ensure {}
    forth.1 = .ok ["report_A1", "report_A2"] ∧ back.1 = .ok ["report_A2", "report_A1"] ∧
      (∃ cells : List Address, cells.Nodup ∧
        (∀ c, c ∈ cells ↔ twoSheets.Reachable [⟨"report", 0, 0⟩, ⟨"REPORT", 1, 0⟩] c) ∧
        (forth.2.instructions.toList.map Instruction.name).Nodup ∧
        cells.map twoSheets.instruction = forth.2.instructions.toList.map .ok) ∧
      back.2.instructions.toList.Perm forth.2.instructions.toList := by
  intro forth back
  have hforth : forth.1 = .ok ["report_A1", "report_A2"] := by decide +kernel
  have hback : back.1 = .ok ["report_A2", "report_A1"] := by decide +kernel
  have hexact := instructions_exact twoSheets _ _ forth.2 (Prod.ext hforth rfl)
  refine ⟨hforth, hback, hexact.1, hexact.2 _ _ back.2 ?_ (Prod.ext hback rfl)⟩
  intro a
  simp only [List.mem_cons, List.not_mem_nil, or_false]
  exact or_comm

end ReportCompiler
