import ReportCompiler.Proofs.Program.Filling

/-!
# Texts that stay as they are

What is put in for one blank may hold another, which is filled in later.  Here is when the text
comes out unchanged in spite of that: for one blank, and for the blanks of the region and the
accessor, one after the other.

Counting characters says how often something was put in.  The rest is a comparison of the two texts
from both ends.  From the left, the first place of a blank shows that what is put in begins with the
blank.  A blank that does not overlap itself can be looked for from the right as well
(`replaceAll_reverse`), so that what is put in also ends with the blank.

## Main definitions

* `Borderless p` - no part of the text `p` is both its beginning and its end.

## Main results

* `exists_count_replaceAll` - what each place loses and gets, character by character.
* `replaceAll_eq_self_iff` - a text stays as it is exactly if the pattern is not in it, or is put in
  its own place.
* `prefix_of_fixed`, `suffix_of_fixed` - what is put in begins and ends with the pattern, if a
  second filling undoes the first.
* `eq_placeholder_of_fixed` - **the accessor does not undo what is put in for the region.**
-/

namespace ReportCompiler

section

variable {p q v w cs : List Char}

/-! ### One place after the other -/

theorem replaceAll_nil (p v : List Char) : replaceAll p v [] = [] := by
  rw [replaceAll]

theorem replaceAll_append (hp : p ≠ []) (v rest : List Char) :
    replaceAll p v (p ++ rest) = v ++ replaceAll p v rest := by
  obtain ⟨c, ps, rfl⟩ := List.exists_cons_of_ne_nil hp
  rw [List.cons_append, replaceAll, if_pos]
  · simp
  · exact List.isPrefixOf_iff_prefix.mpr (List.prefix_append (c :: ps) rest)

theorem replaceAll_cons {c : Char} {rest : List Char} (h : ¬ p <+: c :: rest) (v : List Char) :
    replaceAll p v (c :: rest) = c :: replaceAll p v rest := by
  rw [replaceAll, if_neg fun hfound => h (List.isPrefixOf_iff_prefix.mp hfound)]

/-- A text is empty, or begins with the pattern, or with a character where the pattern does not
begin. -/
theorem induction_on_found {motive : List Char → Prop} (hp : p ≠ []) (nil : motive [])
    (found : ∀ rest, motive rest → motive (p ++ rest))
    (other : ∀ c rest, ¬ p <+: c :: rest → motive rest → motive (c :: rest)) (cs : List Char) :
    motive cs := by
  induction hn : cs.length using Nat.strongRecOn generalizing cs with
  | ind n ih =>
    cases cs with
    | nil => exact nil
    | cons c rest =>
      subst hn
      by_cases hfound : p <+: c :: rest
      · obtain ⟨more, hmore⟩ := hfound
        rw [← hmore] at ih ⊢
        refine found more (ih more.length ?_ more rfl)
        rw [List.length_append]
        exact Nat.lt_add_of_pos_left (List.length_pos_iff.mpr hp)
      · exact other c rest hfound (ih rest.length (Nat.lt_succ_self _) rest rfl)

/-- The first place where the pattern is found. -/
theorem exists_first_place (hp : p ≠ []) (h : p <:+: cs) :
    ∃ front rest, cs = front ++ p ++ rest ∧
      ∀ v, replaceAll p v cs = front ++ v ++ replaceAll p v rest := by
  induction cs using induction_on_found hp with
  | nil => exact absurd (List.infix_nil.mp h) hp
  | found rest _ => exact ⟨[], rest, rfl, fun v => replaceAll_append hp v rest⟩
  | other c rest hnot ih =>
    have hrest : p <:+: rest := (List.infix_cons_iff.mp h).resolve_left hnot
    obtain ⟨front, more, rfl, hall⟩ := ih hrest
    refine ⟨c :: front, more, rfl, fun v => ?_⟩
    rw [replaceAll_cons hnot, hall]
    rfl

/-! ### Counting characters -/

/-- Every place where the pattern is found loses the characters of the pattern and gets those of
what is put in. -/
theorem exists_count_replaceAll (hp : p ≠ []) (cs : List Char) :
    ∃ k, (k = 0 ↔ ¬ p <:+: cs) ∧ ∀ v c,
      (replaceAll p v cs).count c + k * p.count c = cs.count c + k * v.count c := by
  induction cs using induction_on_found hp with
  | nil =>
    refine ⟨0, ?_, fun v c => by rw [replaceAll_nil, Nat.zero_mul, Nat.zero_mul]⟩
    exact ⟨fun _ h => hp (List.infix_nil.mp h), fun _ => rfl⟩
  | found rest ih =>
    obtain ⟨k, -, hk⟩ := ih
    refine ⟨k + 1, ⟨fun h => absurd h (Nat.succ_ne_zero k), fun h => ?_⟩, fun v c => ?_⟩
    · exact absurd (List.prefix_append p rest).isInfix h
    · have hrest := hk v c
      rw [replaceAll_append hp, List.count_append, List.count_append, Nat.succ_mul, Nat.succ_mul]
      omega
  | other c rest hnot ih =>
    obtain ⟨k, hzero, hk⟩ := ih
    refine ⟨k, hzero.trans (not_congr ?_), fun v d => ?_⟩
    · exact ⟨List.infix_cons, fun h => (List.infix_cons_iff.mp h).resolve_left hnot⟩
    · have hrest := hk v d
      rw [replaceAll_cons hnot, List.count_cons, List.count_cons]
      omega

theorem replaceAll_self (hp : p ≠ []) (cs : List Char) : replaceAll p p cs = cs := by
  induction cs using induction_on_found hp with
  | nil => exact replaceAll_nil p p
  | found rest ih => rw [replaceAll_append hp, ih]
  | other c rest hnot ih => rw [replaceAll_cons hnot, ih]

/-- **A text stays as it is exactly if the pattern is not in it, or is put in its own place.** -/
theorem replaceAll_eq_self_iff (hp : p ≠ []) : replaceAll p v cs = cs ↔ (p <:+: cs → v = p) := by
  constructor
  · intro h hfound
    obtain ⟨k, hzero, hcount⟩ := exists_count_replaceAll hp cs
    have hk : 0 < k := Nat.pos_of_ne_zero fun hk => hzero.mp hk hfound
    have hperm : v.Perm p := by
      rw [List.perm_iff_count]
      intro c
      have hc := hcount v c
      rw [h] at hc
      exact (Nat.eq_of_mul_eq_mul_left hk (Nat.add_left_cancel hc)).symm
    obtain ⟨front, rest, rfl, hall⟩ := exists_first_place hp hfound
    rw [hall v, List.append_assoc, List.append_assoc] at h
    exact (List.append_inj (List.append_cancel_left h) hperm.length_eq).1
  · intro h
    by_cases hfound : p <:+: cs
    · rw [h hfound, replaceAll_self hp]
    · exact replaceAll_eq_self hfound

/-! ### Comparing from the left -/

/-- Where the filled text begins like the text, no place begins, since what is put in begins
differently. -/
theorem replaceAll_cancel_left (hq : q ≠ []) (hw : w ≠ []) (hhead : w.head? ≠ q.head?)
    {front ys zs : List Char} (h : replaceAll q w (front ++ ys) = front ++ zs) :
    replaceAll q w ys = zs := by
  induction front with
  | nil => exact h
  | cons c front ih =>
    rw [List.cons_append] at h
    by_cases hfound : q <+: c :: (front ++ ys)
    · obtain ⟨more, hmore⟩ := hfound
      rw [← hmore, replaceAll_append hq] at h
      obtain ⟨a, w, rfl⟩ := List.exists_cons_of_ne_nil hw
      obtain ⟨b, q, rfl⟩ := List.exists_cons_of_ne_nil hq
      have hfirst : a = c := (List.cons.inj h).1
      have hplace : b = c := (List.cons.inj hmore).1
      exact absurd (congrArg some (hfirst.trans hplace.symm)) hhead
    · rw [replaceAll_cons hfound] at h
      exact ih (List.cons.inj h).2

/-- What a filled text begins with was there before, or it was put in behind a part of it. -/
theorem prefix_or_short (hq : q ≠ []) {ys front rest : List Char}
    (h : replaceAll q w (v ++ ys) = front ++ rest) (hv : ¬ q <:+: v) :
    front <+: v ∨ ∃ x y, v = x ++ y ∧ x <+: front ∧ x ≠ front ∧ y <+: q ∧ y ≠ q := by
  induction front generalizing v with
  | nil => exact .inl (List.nil_prefix)
  | cons c front ih =>
    cases v with
    | nil => exact .inr ⟨[], [], rfl, List.nil_prefix, by simp, List.nil_prefix, hq.symm⟩
    | cons d v =>
      by_cases hfound : q <+: d :: (v ++ ys)
      · -- the place goes on behind `v`, which is therefore a part of the pattern
        rcases List.prefix_or_prefix_of_prefix hfound (List.prefix_append (d :: v) ys) with
          hle | hle
        · exact absurd hle.isInfix hv
        · refine .inr ⟨[], d :: v, rfl, List.nil_prefix, by simp, hle, ?_⟩
          rintro rfl
          exact hv (List.infix_refl _)
      · rw [List.cons_append, replaceAll_cons hfound] at h
        obtain ⟨rfl, hrest⟩ := List.cons.inj h
        rcases ih hrest (fun hfound => hv (List.infix_cons hfound)) with
          hle | ⟨x, y, rfl, hx, hne, hy⟩
        · exact .inl (List.cons_prefix_cons.mpr ⟨rfl, hle⟩)
        · exact .inr ⟨d :: x, y, rfl, List.cons_prefix_cons.mpr ⟨rfl, hx⟩, by simpa using hne, hy⟩

theorem count_le_of_proper {x : List Char} {c : Char} (h : x <+: p) (hne : x ≠ p) :
    x.count c ≤ p.dropLast.count c := by
  rcases List.eq_nil_or_concat p with rfl | ⟨ps, d, rfl⟩
  · exact absurd (List.prefix_nil.mp h) hne
  · rw [List.concat_eq_append] at h hne ⊢
    rw [List.dropLast_concat]
    exact ((List.prefix_concat_iff.mp h).resolve_left hne).sublist.count_le c

/-- What is put in the place of the first pattern begins with that pattern, if a text does not
change when both are filled in, and what is put in has too many of some character for what is
begun. -/
theorem prefix_of_fixed (hp : p ≠ []) (hq : q ≠ []) (hw : w ≠ []) (hhead : w.head? ≠ q.head?)
    (hv : ¬ q <:+: v) {c : Char} (hcount : p.dropLast.count c + q.dropLast.count c < v.count c)
    (hfound : p <:+: cs) (hfix : replaceAll q w (replaceAll p v cs) = cs) : p <+: v := by
  obtain ⟨front, rest, rfl, hall⟩ := exists_first_place hp hfound
  rw [hall v, List.append_assoc, List.append_assoc] at hfix
  rcases prefix_or_short hq (replaceAll_cancel_left hq hw hhead hfix) hv with
    hle | ⟨x, y, rfl, hx, hxne, hy, hyne⟩
  · exact hle
  · have hxc := count_le_of_proper (c := c) hx hxne
    have hyc := count_le_of_proper (c := c) hy hyne
    rw [List.count_append] at hcount
    omega

/-! ### Comparing from the right -/

/-- No part of the text is both its beginning and its end. -/
def Borderless (p : List Char) : Prop :=
  ∀ n < p.length, 0 < n → p.take n ≠ p.drop (p.length - n)

instance (p : List Char) : Decidable (Borderless p) :=
  Nat.decidableBallLT p.length fun n _ => 0 < n → p.take n ≠ p.drop (p.length - n)

/-- Places of a pattern do not overlap if nothing both begins and ends it. -/
theorem Borderless.prefix_of_append (hp : Borderless p) (hne : cs ≠ []) (h : p <+: cs ++ p) :
    p <+: cs := by
  rcases List.prefix_or_prefix_of_prefix h (List.prefix_append cs p) with hle | hle
  · exact hle
  · obtain ⟨y, rfl⟩ := hle
    -- what the pattern has beyond `cs` both ends it and begins it
    have hbegins : y <+: cs ++ y := (List.prefix_append_right_inj cs).mp h
    have hy : y = [] := by
      refine Decidable.byContradiction fun hy => ?_
      have hpos := List.length_pos_iff.mpr hy
      have hlt := List.length_pos_iff.mpr hne
      refine hp y.length (by rw [List.length_append]; omega) hpos ?_
      rw [← List.prefix_iff_eq_take.mp hbegins, List.length_append, Nat.add_sub_cancel,
        List.drop_left]
    simp [hy]

theorem replaceAll_append_right (hp : Borderless p) (hne : p ≠ []) (v cs : List Char) :
    replaceAll p v (cs ++ p) = replaceAll p v cs ++ v := by
  induction cs using induction_on_found hne with
  | nil =>
    have hpattern := replaceAll_append hne v []
    rw [List.append_nil, replaceAll_nil, List.append_nil] at hpattern
    rw [List.nil_append, hpattern, replaceAll_nil, List.nil_append]
  | found rest ih => rw [List.append_assoc, replaceAll_append hne, ih, replaceAll_append hne,
      List.append_assoc]
  | other c rest hnot ih =>
    have hnot' : ¬ p <+: c :: (rest ++ p) := fun h =>
      hnot (hp.prefix_of_append (List.cons_ne_nil c rest) h)
    rw [List.cons_append, replaceAll_cons hnot', ih, replaceAll_cons hnot, List.cons_append]

theorem replaceAll_concat (hne : p ≠ []) {c : Char} (h : ¬ p <:+ cs ++ [c]) (v : List Char) :
    replaceAll p v (cs ++ [c]) = replaceAll p v cs ++ [c] := by
  induction cs using induction_on_found hne with
  | nil =>
    have hnot : ¬ p <+: [c] := fun hle => by
      obtain ⟨a, ps, rfl⟩ := List.exists_cons_of_ne_nil hne
      obtain ⟨rfl, hps⟩ := List.cons_prefix_cons.mp hle
      obtain rfl := List.prefix_nil.mp hps
      exact h (List.suffix_refl _)
    rw [List.nil_append, replaceAll_cons hnot, replaceAll_nil]
    rfl
  | found rest ih =>
    rw [List.append_assoc] at h ⊢
    rw [replaceAll_append hne, replaceAll_append hne,
      ih fun hle => h (hle.trans (List.suffix_append p _)), List.append_assoc]
  | other d rest hnot ih =>
    have hnot' : ¬ p <+: d :: (rest ++ [c]) := fun hle => by
      rw [← List.cons_append] at hle
      rcases List.prefix_concat_iff.mp hle with rfl | hle
      · exact h (List.suffix_refl _)
      · exact hnot hle
    rw [List.cons_append] at h ⊢
    rw [replaceAll_cons hnot', replaceAll_cons hnot, List.cons_append,
      ih fun hle => h (hle.trans (List.suffix_cons d _))]

/-- A pattern without overlaps can be looked for from the right as well. -/
theorem replaceAll_reverse (hp : Borderless p.reverse) (hne : p ≠ []) (v cs : List Char) :
    replaceAll p.reverse v.reverse cs.reverse = (replaceAll p v cs).reverse := by
  have hne' : p.reverse ≠ [] := fun h => hne (List.reverse_eq_nil_iff.mp h)
  induction cs using induction_on_found hne with
  | nil => rw [replaceAll_nil, List.reverse_nil, replaceAll_nil]
  | found rest ih =>
    rw [List.reverse_append, replaceAll_append_right hp hne', ih, replaceAll_append hne,
      List.reverse_append]
  | other c rest hnot ih =>
    have hnot' : ¬ p.reverse <:+ rest.reverse ++ [c] := by
      rwa [← List.reverse_cons, List.reverse_suffix]
    rw [List.reverse_cons, replaceAll_concat hne' hnot', ih, replaceAll_cons hnot,
      List.reverse_cons]

/-- What is put in the place of the first pattern also ends with that pattern. -/
theorem suffix_of_fixed (hp : Borderless p.reverse) (hq : Borderless q.reverse) (hpne : p ≠ [])
    (hqne : q ≠ []) (hw : w ≠ []) (hlast : w.getLast? ≠ q.getLast?) (hv : ¬ q <:+: v) {c : Char}
    (hcount : p.tail.count c + q.tail.count c < v.count c) (hfound : p <:+: cs)
    (hfix : replaceAll q w (replaceAll p v cs) = cs) : p <:+ v := by
  rw [← List.reverse_prefix]
  have hfixed : replaceAll q.reverse w.reverse (replaceAll p.reverse v.reverse cs.reverse) =
      cs.reverse := by
    rw [replaceAll_reverse hp hpne, replaceAll_reverse hq hqne, hfix]
  refine prefix_of_fixed (c := c) (by simpa) (by simpa) (by simpa) ?_ ?_ ?_ ?_ hfixed
  · rwa [List.head?_reverse, List.head?_reverse]
  · rwa [List.reverse_infix]
  · rwa [List.dropLast_reverse, List.dropLast_reverse, List.count_reverse, List.count_reverse,
      List.count_reverse]
  · rwa [List.reverse_infix]

/-- A text that begins and ends with a pattern, and is more than the pattern, has it twice. -/
theorem eq_of_prefix_of_suffix (hp : Borderless p) (hbegin : p <+: v) (hend : p <:+ v)
    {c : Char} (hc : c ∈ p) (hcount : v.count c ≤ p.count c) : v = p := by
  obtain ⟨front, rfl⟩ := hend
  have hfront : front = [] := by
    refine Decidable.byContradiction fun hne => ?_
    have htwice := (hp.prefix_of_append hne hbegin).sublist.count_le c
    have hpos := List.count_pos_iff.mpr hc
    rw [List.count_append] at hcount
    omega
  rw [hfront, List.nil_append]

/-! ### Texts that two fillings leave as they are -/

/-- Where two fillings change nothing, the characters that are put in are those that are lost. -/
theorem exists_count_of_fixed (hp : p ≠ []) (hq : q ≠ []) (hfound : p <:+: cs)
    (hfix : replaceAll q w (replaceAll p v cs) = cs) :
    ∃ r k, 0 < r ∧ (k = 0 ↔ ¬ q <:+: replaceAll p v cs) ∧
      ∀ c, r * v.count c + k * w.count c = r * p.count c + k * q.count c := by
  obtain ⟨r, hr, hfirst⟩ := exists_count_replaceAll hp cs
  obtain ⟨k, hk, hsecond⟩ := exists_count_replaceAll hq (replaceAll p v cs)
  refine ⟨r, k, Nat.pos_of_ne_zero fun hzero => hr.mp hzero hfound, hk, fun c => ?_⟩
  have hv := hfirst v c
  have hw := hsecond w c
  rw [hfix] at hw
  omega

end

/-- A text that has the blank for the region stays as it is only if that blank is put in its own
place: if something else is put in, the blank for the accessor cannot undo it. -/
theorem eq_placeholder_of_fixed {v w cs : List Char} (hw : w ≠ []) (hopen : '{' ∉ w)
    (hclose : '}' ∉ w) (hv : ¬ placeholder "ACCESSOR" <:+: v)
    (hfound : placeholder "REGION" <:+: cs)
    (hfix : replaceAll (placeholder "ACCESSOR") w (replaceAll (placeholder "REGION") v cs) = cs) :
    v = placeholder "REGION" := by
  have hp : placeholder "REGION" ≠ [] := by decide
  have hq : placeholder "ACCESSOR" ≠ [] := by decide
  obtain ⟨r, k, hr, hk, hcount⟩ := exists_count_of_fixed hp hq hfound hfix
  rcases Nat.eq_zero_or_pos k with hzero | hpos
  · -- the second filling does nothing, so neither does the first
    rw [replaceAll_eq_self (hk.mp hzero)] at hfix
    exact (replaceAll_eq_self_iff hp).mp hfix hfound
  · -- what is put in makes up for the braces of two blanks, with letters of at most one
    have hbraces (c : Char) (hc : c ∉ w) (hregion : (placeholder "REGION").count c = 2)
        (haccessor : (placeholder "ACCESSOR").count c = 2) : 2 < v.count c := by
      have heq := hcount c
      rw [List.count_eq_zero_of_not_mem hc, hregion, haccessor, Nat.mul_zero, Nat.add_zero] at heq
      refine Nat.lt_of_mul_lt_mul_left (a := r) ?_
      omega
    have hletter : v.count 'G' ≤ (placeholder "REGION").count 'G' := by
      have heq := hcount 'G'
      have hnone : (placeholder "ACCESSOR").count 'G' = 0 := by decide
      rw [hnone, Nat.mul_zero, Nat.add_zero] at heq
      exact Nat.le_of_mul_le_mul_left (Nat.le.intro heq) hr
    have hhead : w.head? ≠ (placeholder "ACCESSOR").head? := fun h =>
      hopen (List.mem_of_head? h)
    have hlast : w.getLast? ≠ (placeholder "ACCESSOR").getLast? := fun h =>
      hclose (List.mem_of_getLast? h)
    have hbegin : placeholder "REGION" <+: v :=
      prefix_of_fixed (c := '}') hp hq hw hhead hv (hbraces '}' hclose (by decide) (by decide))
        hfound hfix
    have hend : placeholder "REGION" <:+ v :=
      suffix_of_fixed (c := '{') (by decide) (by decide) hp hq hw hlast hv
        (hbraces '{' hopen (by decide) (by decide)) hfound hfix
    exact eq_of_prefix_of_suffix (by decide) hbegin hend (by decide) hletter

end ReportCompiler
