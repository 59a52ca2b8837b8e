import ReportCompiler.Proofs.Program.Expansion

/-!
# What a layout asks for

While the outputs of a report are put together, the session is asked for one cell after the other.
Which cells these are, and in which order, can be read off the layout and the merged regions: what
the session has done in the end is what it does when it is asked for these cells and nothing else.
The rest of the work reads coordinates of the layout, and that can only fail.

## Main definitions

* `Entry.requests`, `Layout.requests` - the cells that are asked for, in order.
* `SessionM.Asks src E asked` - work that comes to asking for the cells `asked`.
* `Entry.Misread`, `Layout.Misread` - the errors that the layout brings about by itself.

## Main results

* `Asks.bind`, `asks_mapM` - requests follow each other as the work does.
* `asks_entryOutputs` - the requests of an entry.
* `asks_outputs` - **the outputs ask for the cells of the layout**, and fail by themselves only where
  the layout cannot be read.
-/

namespace ReportCompiler

/-- The cells of a column of a table: the first one when a merged region goes on below it, and else
the members and the total below them. -/
def Workbook.columnRequests (wb : Workbook) (first : Address) (rows : Nat) : List Address :=
  if wb.mergedBelow first then [first] else (List.range (rows + 1)).map first.below

namespace Entry

/-- The cells that an entry asks for, on the sheet of the report. -/
def requests (wb : Workbook) (sheet : String) : Entry → List Address
  | .single _ _ value => ((coordinate? value).map (Address.ofPosition sheet)).toList
  | .table _ firstColumn lastColumn _ firstRow rows =>
    ((tableColumns? firstColumn lastColumn).getD []).flatMap fun col =>
      wb.columnRequests ⟨sheet, firstRow - 1, col⟩ rows

/-- The coordinates that are read for an entry. -/
def coordinates : Entry → List String
  | .single path label value => path ++ [label, value]
  | .table path firstColumn lastColumn headerRow firstRow _ =>
    path ++ ((tableColumns? firstColumn lastColumn).getD []).flatMap fun col =>
      [coordinateText col headerRow, coordinateText col firstRow]

/-- The errors that an entry brings about by itself. -/
inductive Misread : Entry → Error → Prop
  /-- A coordinate of the entry is none. -/
  | coordinate {entry : Entry} {text : String} (hmem : text ∈ entry.coordinates)
    (hnone : coordinate? text = none) : entry.Misread (.resolution ⟨text, .notCoordinate⟩)
  /-- A column of the table is none. -/
  | columns {path : List String} {firstColumn lastColumn : String} {headerRow firstRow rows : Nat} :
    (Entry.table path firstColumn lastColumn headerRow firstRow rows).Misread
      (.layout (.badColumns firstColumn lastColumn))

end Entry

namespace Layout

/-- The cells that a layout asks for: those of its entries, in order. -/
def requests (layout : Layout) (wb : Workbook) : List Address :=
  match wb.sheet? layout.defaultSheet with
  | none => []
  | some sheet => layout.entries.flatMap (Entry.requests wb sheet.name)

/-- The errors that a layout brings about by itself. -/
inductive Misread (layout : Layout) : Error → Prop
  /-- The workbook has no sheet for the report. -/
  | sheet : layout.Misread (.resolution ⟨layout.defaultSheet, .reportSheetMissing⟩)
  /-- An entry cannot be read. -/
  | entry {entry : Entry} {why : Error} (hmem : entry ∈ layout.entries) (h : entry.Misread why) :
    layout.Misread why

/-- The cells that a layout asks for are on the sheet of the report, as the workbook writes it. -/
theorem hasTitle_of_mem_requests {layout : Layout} {wb : Workbook} {a : Address}
    (h : a ∈ layout.requests wb) : wb.HasTitle a.sheet := by
  unfold requests at h
  cases hsheet : wb.sheet? layout.defaultSheet with
  | none => simp [hsheet] at h
  | some sheet =>
    rw [hsheet] at h
    obtain ⟨entry, -, ha⟩ := List.mem_flatMap.mp h
    have hname : a.sheet = sheet.name := by
      cases entry with
      | single path label value =>
        obtain ⟨p, -, rfl⟩ := Option.map_eq_some_iff.mp (Option.mem_toList.mp ha)
        rfl
      | table path firstColumn lastColumn headerRow firstRow rows =>
        obtain ⟨col, -, hcol⟩ := List.mem_flatMap.mp ha
        unfold Workbook.columnRequests at hcol
        split at hcol
        · rw [List.mem_singleton.mp hcol]
        · obtain ⟨i, -, rfl⟩ := List.mem_map.mp hcol
          rfl
    rw [hname]
    exact Workbook.hasTitle_of_sheet? hsheet

end Layout

namespace SessionM

variable {src : Source} {E E' : Error → Prop} {α β : Type} {xs ys : List Address}

/-- As far as the session goes, the work comes to asking for the cells.  It fails where one of these
requests fails, or with an error of its own, after some of the requests. -/
def Asks (src : Source) (E : Error → Prop) (asked : List Address) (m : SessionM α) : Prop :=
  ∀ s, match m s with
    | (.ok _, s') => ∃ names, asked.mapM src.ensure s = (.ok names, s')
    | (.error why, s') => asked.mapM src.ensure s = (.error why, s') ∨
      E why ∧ ∃ begun names, begun <+: asked ∧ begun.mapM src.ensure s = (.ok names, s')

theorem Asks.of_ok {m : SessionM α} (h : Asks src E xs m) {s s' : Session} {a : α}
    (hm : m s = (.ok a, s')) : ∃ names, xs.mapM src.ensure s = (.ok names, s') := by
  have hs := h s
  rwa [hm] at hs

theorem Asks.of_error {m : SessionM α} (h : Asks src E xs m) {s s' : Session} {why : Error}
    (hm : m s = (.error why, s')) : xs.mapM src.ensure s = (.error why, s') ∨
      E why ∧ ∃ begun names, begun <+: xs ∧ begun.mapM src.ensure s = (.ok names, s') := by
  have hs := h s
  rwa [hm] at hs

theorem Asks.mono {m : SessionM α} (h : Asks src E xs m) (hE : ∀ why, E why → E' why) :
    Asks src E' xs m := by
  intro s
  rcases hm : m s with ⟨why | a, s'⟩
  · exact (h.of_error hm).imp_right fun hown => ⟨hE why hown.1, hown.2⟩
  · exact h.of_ok hm

theorem asks_pure (a : α) : Asks src E [] (pure a) :=
  fun _ => ⟨[], rfl⟩

theorem asks_throw {why : Error} (h : E why) : Asks src E xs (throw why : SessionM α) :=
  fun _ => .inr ⟨h, [], [], List.nil_prefix, rfl⟩

theorem asks_ensure (a : Address) : Asks src E [a] (src.ensure a) := by
  intro s
  rw [List.mapM_cons, List.mapM_nil, bind_apply]
  rcases src.ensure a s with ⟨why | name, s'⟩
  · exact .inl rfl
  · exact ⟨[name], rfl⟩

/-- After requests that have succeeded, the others are what is left to do. -/
theorem mapM_append_of_ok {s s' : Session} {names : List String}
    (h : xs.mapM src.ensure s = (.ok names, s')) :
    (xs ++ ys).mapM src.ensure s = match ys.mapM src.ensure s' with
      | (.ok more, s'') => (.ok (names ++ more), s'')
      | (.error why, s'') => (.error why, s'') := by
  rw [List.mapM_append, bind_apply, h]
  dsimp only
  rw [bind_apply]
  rcases ys.mapM src.ensure s' with ⟨_ | _, _⟩ <;> rfl

/-- A request that fails is the last one. -/
theorem mapM_append_of_error {s s' : Session} {why : Error}
    (h : xs.mapM src.ensure s = (.error why, s')) :
    (xs ++ ys).mapM src.ensure s = (.error why, s') := by
  rw [List.mapM_append, bind_apply, h]

theorem Asks.bind {m : SessionM α} {f : α → SessionM β} (hm : Asks src E xs m)
    (hf : ∀ a, Asks src E ys (f a)) : Asks src E (xs ++ ys) (m >>= f) := by
  intro s
  rw [bind_apply]
  rcases hrun : m s with ⟨why | a, s'⟩
  · rcases hm.of_error hrun with hfail | ⟨hown, begun, names, hbegun, hdone⟩
    · exact .inl (mapM_append_of_error hfail)
    · exact .inr ⟨hown, begun, names, hbegun.trans (List.prefix_append xs ys), hdone⟩
  · obtain ⟨names, hdone⟩ := hm.of_ok hrun
    dsimp only
    rcases hrun' : f a s' with ⟨why | b, s''⟩
    · rcases (hf a).of_error hrun' with hfail | ⟨hown, begun, more, hbegun, hdone'⟩
      · left
        rw [mapM_append_of_ok hdone, hfail]
      · refine .inr ⟨hown, xs ++ begun, names ++ more, ?_, ?_⟩
        · exact (List.prefix_append_right_inj xs).mpr hbegun
        · rw [mapM_append_of_ok hdone, hdone']
    · obtain ⟨more, hdone'⟩ := (hf a).of_ok hrun'
      refine ⟨names ++ more, ?_⟩
      rw [mapM_append_of_ok hdone, hdone']

/-- What comes at the end may ask for nothing. -/
theorem Asks.bind_nil {m : SessionM α} {f : α → SessionM β} (hm : Asks src E xs m)
    (hf : ∀ a, Asks src E [] (f a)) : Asks src E xs (m >>= f) := by
  have h := hm.bind hf
  rwa [List.append_nil] at h

theorem Asks.bind_pure {m : SessionM α} {f : α → β} (hm : Asks src E xs m) :
    Asks src E xs (m >>= fun a => pure (f a)) :=
  hm.bind_nil fun a => asks_pure (f a)

/-- Reading the layout asks for nothing. -/
theorem asks_ofExcept_bind {e : Except Error α} {f : α → SessionM β}
    (herror : ∀ why, e = .error why → E why) (hf : ∀ a, e = .ok a → Asks src E xs (f a)) :
    Asks src E xs (MonadExcept.ofExcept e >>= f) := by
  cases e with
  | error why => exact asks_throw (herror why rfl)
  | ok a => exact hf a rfl

theorem asks_mapM {f : α → SessionM β} {asked : α → List Address} {as : List α}
    (hf : ∀ a ∈ as, Asks src E (asked a) (f a)) : Asks src E (as.flatMap asked) (as.mapM f) := by
  induction as with
  | nil =>
    rw [List.mapM_nil]
    exact asks_pure []
  | cons a rest ih =>
    obtain ⟨ha, hrest⟩ := List.forall_mem_cons.mp hf
    rw [List.mapM_cons, List.flatMap_cons]
    exact ha.bind fun b => (ih hrest).bind_pure

end SessionM

namespace Source

open SessionM

variable {src : Source} {sheet : String}

/-! ### Coordinates that cannot be read -/

theorem cellAt_error {coord : String} {why : Error} (h : cellAt sheet coord = .error why) :
    coordinate? coord = none ∧ why = .resolution ⟨coord, .notCoordinate⟩ := by
  unfold cellAt at h
  split at h
  · cases h
  · next hnone => exact ⟨hnone, (Except.error.inj h).symm⟩

theorem labelAt_error {coord : String} {why : Error} (h : src.labelAt sheet coord = .error why) :
    coordinate? coord = none ∧ why = .resolution ⟨coord, .notCoordinate⟩ := by
  unfold labelAt at h
  cases hcell : cellAt sheet coord with
  | ok a =>
    rw [hcell] at h
    cases h
  | error why' =>
    rw [hcell] at h
    obtain rfl := Except.error.inj h
    exact cellAt_error hcell

theorem mapM_labelAt_error {path : List String} {why : Error}
    (h : path.mapM (src.labelAt sheet) = .error why) :
    ∃ coord ∈ path, coordinate? coord = none ∧ why = .resolution ⟨coord, .notCoordinate⟩ := by
  induction path with
  | nil => cases h
  | cons coord rest ih =>
    rw [List.mapM_cons] at h
    cases hlabel : src.labelAt sheet coord with
    | error why' =>
      rw [hlabel] at h
      obtain rfl := Except.error.inj h
      exact ⟨coord, List.mem_cons_self, labelAt_error hlabel⟩
    | ok label =>
      cases hrest : rest.mapM (src.labelAt sheet) with
      | error why' =>
        rw [hlabel, hrest] at h
        obtain rfl := Except.error.inj h
        obtain ⟨coord', hmem, hwhy⟩ := ih hrest
        exact ⟨coord', List.mem_cons_of_mem _ hmem, hwhy⟩
      | ok labels =>
        rw [hlabel, hrest] at h
        cases h

section

variable {entry : Entry}

theorem misread_of_refused {coord : String} {why : Error} (hmem : coord ∈ entry.coordinates)
    (h : coordinate? coord = none ∧ why = .resolution ⟨coord, .notCoordinate⟩) :
    entry.Misread why := by
  obtain ⟨hnone, rfl⟩ := h
  exact .coordinate hmem hnone

theorem misread_of_path {path : List String} {why : Error}
    (hpath : ∀ coord ∈ path, coord ∈ entry.coordinates)
    (h : path.mapM (src.labelAt sheet) = .error why) : entry.Misread why := by
  obtain ⟨coord, hmem, hrefused⟩ := mapM_labelAt_error h
  exact misread_of_refused (hpath coord hmem) hrefused

end

/-! ### The requests -/

section

variable {E : Error → Prop}

theorem asks_columnValue (first : Address) (rows : Nat) :
    Asks src E (src.workbook.columnRequests first rows) (src.columnValue first rows) := by
  unfold columnValue Workbook.columnRequests
  by_cases hmerged : src.workbook.kind (first.below 1) = .merged
  · have hbelow : src.workbook.mergedBelow first = true := decide_eq_true hmerged
    rw [if_pos hmerged, if_pos hbelow]
    exact (asks_ensure first).bind_pure
  · have hbelow : ¬ src.workbook.mergedBelow first = true := fun h => hmerged (of_decide_eq_true h)
    rw [if_neg hmerged, if_neg hbelow, List.range_succ, List.map_append]
    -- the members come first, and the total after them
    have hmembers : Asks src E ((List.range rows).map first.below)
        (src.ensureColumn first rows) := by
      rw [List.map_eq_flatMap]
      exact asks_mapM fun i _ => asks_ensure (first.below i)
    exact hmembers.bind fun vars => (asks_ensure (first.below rows)).bind_pure

end

/-- The requests of a column of a table. -/
theorem asks_columnOutput {entry : Entry} {headerRow firstRow col : Nat} (path : List String)
    (rows : Nat) (hcol : col < maxColumns)
    (hheader : coordinateText col headerRow ∈ entry.coordinates)
    (hfirst : coordinateText col firstRow ∈ entry.coordinates) :
    Asks src entry.Misread (src.workbook.columnRequests ⟨sheet, firstRow - 1, col⟩ rows)
      (src.columnOutput sheet path headerRow firstRow rows col) := by
  unfold columnOutput
  refine asks_ofExcept_bind (fun why hwhy => misread_of_refused hheader (labelAt_error hwhy))
    fun label _ => ?_
  refine asks_ofExcept_bind (fun why hwhy => misread_of_refused hfirst (cellAt_error hwhy))
    fun first hcell => ?_
  obtain rfl := eq_of_cellAt_coordinateText hcol hcell
  exact (asks_columnValue _ rows).bind_pure

/-- The requests of an entry. -/
theorem asks_entryOutputs (entry : Entry) :
    Asks src entry.Misread (entry.requests src.workbook sheet) (src.entryOutputs sheet entry) := by
  cases entry with
  | single path label value =>
    unfold entryOutputs
    refine asks_ofExcept_bind
      (fun why hwhy => misread_of_refused (by simp [Entry.coordinates]) (cellAt_error hwhy)) ?_
    intro a ha
    obtain ⟨p, hp, rfl⟩ := eq_of_cellAt ha
    rw [Entry.requests, hp]
    refine (asks_ensure _).bind_nil fun var => ?_
    refine asks_ofExcept_bind (fun why => misread_of_path ?_) fun labels _ => ?_
    · exact fun coord => List.mem_append_left _
    refine asks_ofExcept_bind
      (fun why hwhy => misread_of_refused (by simp [Entry.coordinates]) (labelAt_error hwhy)) ?_
    intro text _
    exact asks_pure _
  | table path firstColumn lastColumn headerRow firstRow rows =>
    rw [entryOutputs, columnRange?_eq]
    cases hcolumns : tableColumns? firstColumn lastColumn with
    | none => exact asks_throw .columns
    | some columns =>
      refine asks_ofExcept_bind (fun why => misread_of_path ?_) fun labels _ => ?_
      · exact fun coord => List.mem_append_left _
      rw [Entry.requests, hcolumns]
      refine asks_mapM fun col hcol => ?_
      have hread : ∀ text ∈ [coordinateText col headerRow, coordinateText col firstRow],
          text ∈ (Entry.table path firstColumn lastColumn headerRow firstRow rows).coordinates := by
        intro text htext
        rw [Entry.coordinates, hcolumns]
        exact List.mem_append_right _ (List.mem_flatMap.mpr ⟨col, hcol, htext⟩)
      exact asks_columnOutput labels rows (lt_of_mem_tableColumns? hcolumns col hcol)
        (hread _ (by simp)) (hread _ (by simp))

/-- **The outputs ask for the cells of the layout**, and fail by themselves only where the layout
cannot be read. -/
theorem asks_outputs (src : Source) :
    Asks src src.layout.Misread (src.layout.requests src.workbook) src.outputs := by
  unfold outputs Layout.requests
  cases src.workbook.sheet? src.layout.defaultSheet with
  | none => exact asks_throw .sheet
  | some sheet =>
    refine (asks_mapM fun entry hentry => ?_).bind_pure
    exact (asks_entryOutputs entry).mono fun why hwhy => .entry hentry hwhy

end Source

end ReportCompiler
