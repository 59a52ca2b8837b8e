import ReportCompiler.Proofs.Workbook.Names

/-!
# The listing of defined names

Names are stored by their keys and listed by their texts as they were given, with blanks and capitals.
A key is made from the text, so that two names with different keys are two texts: no two names of a
listing compare as equal.  That is why a listing depends on nothing but what is found under each key,
neither on the order in which names with different keys were defined nor on the order in which the
store goes through them.

## Main definitions

* `Names.Keyed` - every name is stored under its own key.
* `Names.Enumerates` - a list has every stored name once, in any order.

## Main results

* `Names.keyed_after` - after every history names are stored under their own keys.
* `Names.Keyed.pairwise_list` - **a listing is strictly increasing.**
* `Names.Keyed.eq_list` - every sorted enumeration of the names is the listing.
* `Names.Keyed.filter_list` - the names of a listing with a key are what is found under it.
* `Names.list_determined` - all of this after every history.
-/

namespace ReportCompiler

namespace Names

variable {ns : Names} {d : DefinedName}

/-! ### Refusal -/

/-- A name is refused exactly for the fault that it has. -/
theorem set_eq_error_iff {fault : NameFault} :
    ns.set d = .error fault ↔ checkName d.name = .error fault := by
  unfold set
  cases checkName d.name with
  | error why => simp only [Except.error.injEq]
  | ok _ => exact iff_of_false nofun nofun

theorem define_of_error {fault : NameFault} (h : ns.set d = .error fault) : ns.define d = ns := by
  rw [define, h]

/-! ### Keys of stored names -/

/-- Every name is stored under its own key. -/
def Keyed (ns : Names) : Prop :=
  ∀ (key : String) (d : DefinedName), ns.byKey[key]? = some d → nameKey d.name = key

theorem Keyed.define (h : ns.Keyed) (d : DefinedName) : (ns.define d).Keyed := by
  unfold Names.define set
  cases checkName d.name with
  | error fault => exact h
  | ok _ =>
    intro key e he
    simp only [Std.TreeMap.getElem?_insert, Std.LawfulEqCmp.compare_eq_iff_eq] at he
    split at he
    · next hkey => rw [← Option.some.inj he, hkey]
    · exact h key e he

theorem keyed_after (history : List DefinedName) : (after history).Keyed := by
  induction history using List.reverseRecOn with
  | nil =>
    intro key d hd
    rw [show (after []).byKey[key]? = none from Std.TreeMap.getElem?_emptyc] at hd
    cases hd
  | append_singleton history d ih =>
    rw [after_concat]
    exact ih.define d

theorem get?_congr {s t : String} (h : nameKey s = nameKey t) : ns.get? s = ns.get? t := by
  rw [get?, get?, h]

theorem values_eq_map (ns : Names) : ns.byKey.values = ns.byKey.toList.map Prod.snd := by
  have hfold : ns.byKey.values = ns.byKey.foldr (fun _ d rest => d :: rest) [] := rfl
  rw [hfold, Std.TreeMap.foldr_eq_foldr_toList, List.foldr_cons_eq_append, List.append_nil]

namespace Keyed

theorem mem_values_iff (h : ns.Keyed) : d ∈ ns.byKey.values ↔ ns.get? d.name = some d := by
  rw [values_eq_map, List.mem_map, get?]
  constructor
  · rintro ⟨⟨key, e⟩, hmem, rfl⟩
    have hstored := Std.TreeMap.mem_toList_iff_getElem?_eq_some.mp hmem
    rwa [h key e hstored]
  · intro hfound
    exact ⟨(nameKey d.name, d), Std.TreeMap.mem_toList_iff_getElem?_eq_some.mpr hfound, rfl⟩

/-- Different keys force different texts. -/
theorem pairwise_values (h : ns.Keyed) :
    ns.byKey.values.Pairwise fun d e => d.name ≠ e.name := by
  rw [values_eq_map, List.pairwise_map]
  refine Std.TreeMap.distinct_keys_toList.imp_of_mem ?_
  rintro ⟨key, d⟩ ⟨key', e⟩ hd he hkeys hname
  refine hkeys (Std.LawfulEqCmp.compare_eq_iff_eq.mpr ?_)
  rw [← h key d (Std.TreeMap.mem_toList_iff_getElem?_eq_some.mp hd), hname,
    h key' e (Std.TreeMap.mem_toList_iff_getElem?_eq_some.mp he)]

end Keyed

/-! ### The listing -/

theorem list_perm (ns : Names) : ns.list.Perm ns.byKey.values :=
  List.mergeSort_perm _ _

theorem pairwise_list_not_lt (ns : Names) : ns.list.Pairwise fun d e => ¬ e.name < d.name := by
  have hsorted : ns.list.Pairwise fun d e => !decide (e.name < d.name) := by
    refine List.pairwise_mergeSort ?_ ?_ _
    · intro a b c hab hbc
      simp only [Bool.not_eq_true', decide_eq_false_iff_not] at hab hbc ⊢
      intro hca
      -- the middle name cannot lie on either side of the two others
      by_cases hb : b.name < c.name
      · exact hab (String.lt_trans hb hca)
      · rw [String.lt_antisymm hb hbc] at hab
        exact hab hca
    · intro a b
      simp only [Bool.or_eq_true, Bool.not_eq_true', decide_eq_false_iff_not]
      by_cases hba : b.name < a.name
      · exact .inr fun hab => String.lt_irrefl _ (String.lt_trans hab hba)
      · exact .inl hba
  refine hsorted.imp ?_
  intro d e hle
  simpa only [Bool.not_eq_true', decide_eq_false_iff_not] using hle

/-- The list has every stored name once. -/
structure Enumerates (ns : Names) (ds : List DefinedName) : Prop where
  /-- No name occurs twice. -/
  nodup : ds.Nodup
  /-- The names are those that are found under themselves. -/
  mem (d : DefinedName) : d ∈ ds ↔ ns.get? d.name = some d

namespace Keyed

/-- **A listing is strictly increasing.** -/
theorem pairwise_list (h : ns.Keyed) : ns.list.Pairwise fun d e => d.name < e.name := by
  have hne : ns.list.Pairwise fun d e => d.name ≠ e.name :=
    (ns.list_perm.pairwise_iff Ne.symm).mpr h.pairwise_values
  refine (ns.pairwise_list_not_lt.and hne).imp ?_
  rintro d e ⟨hle, hne⟩
  by_contra hlt
  exact hne (String.lt_antisymm hlt hle)

theorem enumerates_list (h : ns.Keyed) : ns.Enumerates ns.list where
  nodup := by
    refine h.pairwise_list.imp ?_
    rintro d _ hlt rfl
    exact String.lt_irrefl _ hlt
  mem d := by rw [ns.list_perm.mem_iff, h.mem_values_iff]

/-- Every sorted enumeration of the names is the listing, for no two of them compare as equal. -/
theorem eq_list (h : ns.Keyed) {ds : List DefinedName} (hds : ns.Enumerates ds)
    (hsorted : ds.Pairwise fun d e => ¬ e.name < d.name) : ds = ns.list := by
  have hperm : ds.Perm ns.list := by
    rw [List.perm_ext_iff_of_nodup hds.nodup h.enumerates_list.nodup]
    intro d
    rw [hds.mem, h.enumerates_list.mem]
  refine hperm.eq_of_pairwise ?_ hsorted ns.pairwise_list_not_lt
  intro d e hd he hde hed
  have hname : d.name = e.name := String.lt_antisymm hed hde
  have hfound := (hds.mem d).mp hd
  rw [hname, (h.enumerates_list.mem e).mp he] at hfound
  exact (Option.some.inj hfound).symm

/-- The names of a listing with a key are what is found under it: one name or none. -/
theorem filter_list (h : ns.Keyed) (s : String) :
    (ns.list.filter fun d => nameKey d.name = nameKey s) = (ns.get? s).toList := by
  have hmem (d : DefinedName) :
      d ∈ (ns.list.filter fun d => nameKey d.name = nameKey s) ↔ ns.get? s = some d := by
    rw [List.mem_filter, h.enumerates_list.mem, decide_eq_true_eq]
    constructor
    · rintro ⟨hfound, hkey⟩
      rwa [← get?_congr hkey]
    · intro hfound
      have hkey := h _ d hfound
      exact ⟨by rwa [get?_congr hkey], hkey⟩
  cases hfound : ns.get? s with
  | none =>
    refine List.eq_nil_iff_forall_not_mem.mpr fun d hd => ?_
    rw [hmem, hfound] at hd
    cases hd
  | some d =>
    refine List.perm_singleton.mp ?_
    rw [List.perm_ext_iff_of_nodup (h.enumerates_list.nodup.filter _) (List.nodup_singleton d)]
    intro e
    rw [hmem, hfound, List.mem_singleton, Option.some_inj, eq_comm]

/-- What is found under each text decides the listing. -/
theorem list_congr (h : ns.Keyed) {ns' : Names} (h' : ns'.Keyed)
    (hget : ∀ s, ns'.get? s = ns.get? s) : ns'.list = ns.list := by
  refine h.eq_list ⟨h'.enumerates_list.nodup, fun d => ?_⟩ ns'.pairwise_list_not_lt
  rw [h'.enumerates_list.mem, hget]

end Keyed

/-! ### Histories -/

/-- The accepted requests with the key of a text, the last one first, decide what is found. -/
theorem get?_after_eq_some_iff {history : List DefinedName} {s : String} :
    (after history).get? s = some d ↔
      ∃ before later, history = before ++ d :: later ∧ checkName d.name = .ok () ∧
        nameKey d.name = nameKey s ∧
          ∀ e ∈ later, checkName e.name = .ok () → nameKey e.name ≠ nameKey s := by
  rw [get?_after, List.find?_eq_some_iff_append]
  simp only [decide_eq_true_eq, Bool.not_eq_true', decide_eq_false_iff_not, not_and]
  constructor
  · rintro ⟨⟨hcheck, hkey⟩, later, before, hhistory, hlater⟩
    refine ⟨before.reverse, later.reverse, ?_, hcheck, hkey, fun e he => ?_⟩
    · rw [← List.reverse_reverse history, hhistory, List.reverse_append, List.reverse_cons,
        List.append_assoc, List.singleton_append]
    · exact hlater e (List.mem_reverse.mp he)
  · rintro ⟨before, later, rfl, hcheck, hkey, hlater⟩
    refine ⟨⟨hcheck, hkey⟩, later.reverse, before.reverse, ?_, fun e he => ?_⟩
    · rw [List.reverse_append, List.reverse_cons, List.append_assoc, List.singleton_append]
    · exact hlater e (List.mem_reverse.mp he)

/-- Histories with the same requests for each key, in whatever order they deal with different keys,
lead to the same names. -/
theorem get?_after_congr {history history' : List DefinedName}
    (h : ∀ key, (history'.filter fun d => nameKey d.name = key) =
      history.filter fun d => nameKey d.name = key) (s : String) :
    (after history').get? s = (after history).get? s := by
  have hfilter (history : List DefinedName) : (after history).get? s =
      ((history.filter fun d => nameKey d.name = nameKey s).reverse.find? fun d =>
        checkName d.name = .ok ()) := by
    rw [get?_after, ← List.filter_reverse, List.find?_filter]
    simp only [decide_eq_true_eq, and_comm]
  rw [hfilter, hfilter, h]

/-- **After every history of requests, accepted or refused, what is listed is one name for each key,
strictly increasing.**  A refused request changes nothing.  What is found under a text is the last
accepted name with its key.  A listing has exactly what is found under each key and is strictly
increasing.  So it is the same for every order of requests with different keys, and whatever order
the stored names are gone through and however they are sorted. -/
theorem list_determined (history : List DefinedName) :
    let ns := after history
    (∀ d fault, ns.set d = .error fault ↔ checkName d.name = .error fault) ∧
      (∀ d fault, ns.set d = .error fault → ns.define d = ns) ∧
      (∀ s d, ns.get? s = some d ↔
        ∃ before later, history = before ++ d :: later ∧ checkName d.name = .ok () ∧
          nameKey d.name = nameKey s ∧
            ∀ e ∈ later, checkName e.name = .ok () → nameKey e.name ≠ nameKey s) ∧
      (∀ s, ns.get? s = none ↔
        ∀ d ∈ history, checkName d.name = .ok () → nameKey d.name ≠ nameKey s) ∧
      (∀ s, (ns.list.filter fun d => nameKey d.name = nameKey s) = (ns.get? s).toList) ∧
      ns.list.Pairwise (fun d e => d.name < e.name) ∧
      (∀ history', (∀ key, (history'.filter fun d => nameKey d.name = key) =
          history.filter fun d => nameKey d.name = key) →
        (after history').list = ns.list) ∧
      ∀ stored sorted, ns.Enumerates stored → sorted.Perm stored →
        sorted.Pairwise (fun d e => ¬ e.name < d.name) → sorted = ns.list := by
  intro ns
  have hkeyed : ns.Keyed := keyed_after history
  refine ⟨fun d fault => set_eq_error_iff, fun d fault => define_of_error,
    fun s d => get?_after_eq_some_iff, ?_, hkeyed.filter_list, hkeyed.pairwise_list, ?_, ?_⟩
  · intro s
    rw [get?_after, List.find?_eq_none]
    simp only [List.mem_reverse, decide_eq_true_eq, not_and, ne_eq]
  · intro history' hsame
    exact hkeyed.list_congr (keyed_after history') (get?_after_congr hsame)
  · intro stored sorted hstored hperm hsorted
    refine hkeyed.eq_list ⟨hperm.nodup_iff.mpr hstored.nodup, fun d => ?_⟩ hsorted
    rw [hperm.mem_iff, hstored.mem]

/-- A name is defined anew in capitals and with a blank behind it, and two other names come before it
in either order, one of which is refused. -/
theorem list_determined_twoOrders :
    let ns := after [⟨"Freq", "data!A1"⟩, ⟨"1st", "data!A2"⟩, ⟨" area", "data!A3"⟩,
      ⟨"FREQ ", "data!A4"⟩]
    ns.get? "freq" = some ⟨"FREQ ", "data!A4"⟩ ∧ ns.define ⟨"1st", "data!A2"⟩ = ns ∧
      (ns.list.filter fun d => nameKey d.name = nameKey "freq") = [⟨"FREQ ", "data!A4"⟩] ∧
      (after [⟨" area", "data!A3"⟩, ⟨"Freq", "data!A1"⟩, ⟨"FREQ ", "data!A4"⟩,
        ⟨"1st", "data!A2"⟩]).list = ns.list := by
  intro ns
  have hkeys : nameKey "Freq" = "freq" ∧ nameKey "1st" = "1st" ∧ nameKey " area" = "area" ∧
      nameKey "FREQ " = "freq" ∧ nameKey "freq" = "freq" ∧ checkName "FREQ " = .ok () ∧
      checkName "1st" = .error (.badStart "1st") := by decide
  obtain ⟨hfreq, hfirst, harea, hcapitals, hsmall, haccepted, hrefused⟩ := hkeys
  obtain ⟨hset, hunchanged, hget, -, hfilter, -, horder, -⟩ := list_determined
    [⟨"Freq", "data!A1"⟩, ⟨"1st", "data!A2"⟩, ⟨" area", "data!A3"⟩, ⟨"FREQ ", "data!A4"⟩]
  have hfound : ns.get? "freq" = some ⟨"FREQ ", "data!A4"⟩ :=
    (hget _ _).mpr ⟨[⟨"Freq", _⟩, ⟨"1st", _⟩, ⟨" area", _⟩], [], rfl, haccepted,
      hcapitals.trans hsmall.symm, nofun⟩
  refine ⟨hfound, hunchanged _ _ ((hset _ _).mpr hrefused), (hfilter "freq").trans ?_, horder _ ?_⟩
  · exact congrArg Option.toList hfound
  · intro key
    simp only [List.filter_cons, List.filter_nil, hfreq, hfirst, harea, hcapitals,
      decide_eq_true_eq]
    by_cases hkey : key = "freq"
    · subst hkey
      decide
    · simp only [Ne.symm hkey, if_false]
      by_cases hkey' : key = "area"
      · subst hkey'
        decide
      · simp only [Ne.symm hkey', if_false]

end Names

end ReportCompiler
