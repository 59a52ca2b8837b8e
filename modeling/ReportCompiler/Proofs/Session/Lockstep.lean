import ReportCompiler.Proofs.Session.Nesting

/-!
# Work between requests

The report is compiled by one request after another, and between two of them a session has nothing
in progress.  Work that is made of requests keeps it so.  Two such pieces of work, perhaps on two
workbooks, go in lock step when their requests do.

## Main definitions

* `Session.Idle` - the session is sound and has nothing in progress.
* `SessionM.InStep src Q m m'` - from every idle session, `m` and `m'` come to the same, which is
  idle again, and a result satisfies `Q`.

## Main results

* `ensureWithin_eq_of_le` - between requests, depth beyond the bound changes nothing.
* `inStep_pure`, `inStep_throw`, `InStep.bind`, `InStep.mapM` - lock step passes from parts to
  wholes.
-/

namespace ReportCompiler

/-- The session is sound and has nothing in progress. -/
structure Session.Idle (src : Source) (s : Session) : Prop where
  /-- Some cells are done. -/
  sound : ∃ cells, s.Sound src cells
  /-- No cell is being compiled. -/
  chain : s.chain = []
  /-- No formula is being compiled. -/
  scope : s.scope = []

namespace Session.Idle

variable {src : Source} {T : Address → Prop} {before after : List Address} {s s' : Session}

theorem fresh : Idle src {} :=
  ⟨⟨[], .fresh⟩, rfl, rfl⟩

theorem of_grown (h : s.Idle src) (hgrown : Session.Grown src T before s after s') : s'.Idle src :=
  ⟨⟨after, hgrown.sound⟩, hgrown.chain.trans h.chain, hgrown.scope.trans h.scope⟩

end Session.Idle

namespace Source

variable {src : Source} {s : Session} {c : Address}

/-- **Between requests, depth beyond the bound changes nothing.** -/
theorem ensureWithin_eq_of_le {depth : Nat} (h : s.Idle src) (hc : src.workbook.HasTitle c.sheet)
    (hdepth : src.depthBound ≤ depth) :
    src.ensureWithin depth c s = src.ensureWithin src.depthBound c s := by
  obtain ⟨cells, hsound⟩ := h.sound
  have hawaits : s.Awaits src (fun c => src.workbook.HasTitle c.sheet) c :=
    awaits_of_chain h.chain hc
  have hbound : src.Allows (fun c => src.workbook.HasTitle c.sheet) src.depthBound s.chain :=
    allows_depthBound h.chain
  have hallows : src.Allows (fun c => src.workbook.HasTitle c.sheet) depth s.chain := by
    refine ⟨hbound.1, ?_⟩
    have hlt := hbound.2
    omega
  -- with either depth the walk comes to the same as under a watch
  have hwatched {d : Nat} (hd : src.Allows (fun c => src.workbook.HasTitle c.sheet) d s.chain) :=
    (watched_ensureWithin (fun _ _ _ hab => hab.hasTitle) (fun _ hd => hd) (.layout .unreadable) d
      src.depthBound c cells s hsound hawaits ⟨hd, hbound⟩).1
  rw [hwatched hallows, hwatched hbound]

end Source

namespace SessionM

/-- From every idle session the two pieces of work come to the same.  The session is idle again, and
a result satisfies `Q`. -/
def InStep (src : Source) {α : Type} (Q : α → Prop) (m m' : SessionM α) : Prop :=
  ∀ s, s.Idle src → m s = m' s ∧ (m s).2.Idle src ∧ ∀ a, (m s).1 = .ok a → Q a

variable {src : Source} {α β : Type} {Q : α → Prop} {Q' : β → Prop}

theorem inStep_pure {a : α} (h : Q a) : InStep src Q (pure a) (pure a) := by
  intro s hidle
  refine ⟨rfl, hidle, ?_⟩
  rintro _ ⟨⟩
  exact h

theorem inStep_throw (why : Error) : InStep src Q (throw why) (throw why) := by
  intro s hidle
  refine ⟨rfl, hidle, ?_⟩
  rintro _ ⟨⟩

theorem inStep_ofExcept (x : Except Error α) :
    InStep src (fun a => x = .ok a) (MonadExcept.ofExcept x) (MonadExcept.ofExcept x) := by
  cases x with
  | error why => exact inStep_throw why
  | ok a => exact inStep_pure rfl

theorem InStep.bind {m m' : SessionM α} {f f' : α → SessionM β} (h : InStep src Q m m')
    (hf : ∀ a, Q a → InStep src Q' (f a) (f' a)) : InStep src Q' (m >>= f) (m' >>= f') := by
  intro s hidle
  obtain ⟨hsame, hidle', hQ⟩ := h s hidle
  rw [bind_apply, bind_apply, ← hsame]
  rcases hm : m s with ⟨why | a, s'⟩
  · rw [hm] at hidle'
    refine ⟨rfl, hidle', ?_⟩
    rintro _ ⟨⟩
  · rw [hm] at hidle' hQ
    exact hf a (hQ a rfl) s' hidle'

theorem InStep.mapM {f f' : α → SessionM β} {as : List α}
    (h : ∀ a ∈ as, InStep src Q' (f a) (f' a)) :
    InStep src (fun bs => ∀ b ∈ bs, Q' b) (as.mapM f) (as.mapM f') := by
  induction as with
  | nil =>
    rw [List.mapM_nil, List.mapM_nil]
    exact inStep_pure (by simp)
  | cons a rest ih =>
    obtain ⟨ha, hrest⟩ := List.forall_mem_cons.mp h
    rw [List.mapM_cons, List.mapM_cons]
    refine ha.bind fun b hb => (ih hrest).bind fun bs hbs => ?_
    exact inStep_pure (List.forall_mem_cons.mpr ⟨hb, hbs⟩)

end SessionM

end ReportCompiler
