import Mathlib.Data.List.Forall2
import ReportCompiler.Document.Flatten
import ReportCompiler.Proofs.Cell.Coordinates

/-!
# The leaves of a document

A document is flattened from the inside out.  The key of a value is joined to the name of its section
and trimmed again on each level, so that in the end every name on the way has been trimmed, the inner
ones many times.  Trimming a joined key takes nothing away: its parts are trimmed, and where one of
them is empty a colon stands at the end.

A place in a document is given by the numbers of the fields that lead to it, so that values under
equal keys stay apart.  The document lists its values in the order of their places.

## Main definitions

* `Value.descend` - the value at a place, and the names on the way to it.
* `Value.leafPlaces` - the places of all values that are no objects.
* `pathKey` - the key of a value, from the names on the way to it.

## Main results

* `Value.mem_leafPlaces_iff` - the places are exactly those of values that are no objects.
* `Value.pairwise_leafPlaces` - they are in the order of the document.
* `sectionKey_pathKey` - **joining and trimming level by level is joining trimmed names once.**
* `forall₂_flatten` - flattening gives one pair for each place.
* `flatten_exact` - all of this for every document.
-/

namespace ReportCompiler

open Text

namespace Json.Value

/-! ### Places -/

/-- The value at a place, and the names of the fields on the way to it.  Only objects are entered.
-/
def descend : Value → List Nat → Option (List String × Value)
  | v, [] => some ([], v)
  | .object fields, i :: place =>
    match fields[i]? with
    | some (name, v) => (descend v place).map fun (names, leaf) => (name :: names, leaf)
    | none => none
  | _, _ :: _ => none

mutual

/-- The places of the values that are no objects, in the order of the document. -/
def leafPlaces : Value → List (List Nat)
  | .object fields => fieldPlaces 0 fields
  | _ => [[]]

/-- The places of the values that are no objects, below fields that are counted from `i` on. -/
def fieldPlaces (i : Nat) : List (String × Value) → List (List Nat)
  | [] => []
  | (_, v) :: rest => (leafPlaces v).map (i :: ·) ++ fieldPlaces (i + 1) rest

end

theorem descend_nil (v : Value) : v.descend [] = some ([], v) := by
  rw [descend]

theorem descend_object {fields : List (String × Value)} {i : Nat} {name : String} {v : Value}
    (h : fields[i]? = some (name, v)) (place : List Nat) :
    (object fields).descend (i :: place) =
      (v.descend place).map fun (names, leaf) => (name :: names, leaf) := by
  rw [descend, h]

theorem leafPlaces_of_not_isObject {v : Value} (h : v.isObject = false) : v.leafPlaces = [[]] := by
  cases v with
  | object fields => cases h
  | _ => rw [leafPlaces]; nofun

theorem mem_fieldPlaces_iff {fields : List (String × Value)} {i : Nat} {place : List Nat} :
    place ∈ fieldPlaces i fields ↔ ∃ j name v below, fields[j]? = some (name, v) ∧
      below ∈ v.leafPlaces ∧ place = (i + j) :: below := by
  induction fields generalizing i with
  | nil => simp [fieldPlaces]
  | cons field rest ih =>
    obtain ⟨name, v⟩ := field
    rw [fieldPlaces, List.mem_append, List.mem_map, ih]
    constructor
    · rintro (⟨below, hbelow, rfl⟩ | ⟨j, name', v', below, hj, hbelow, rfl⟩)
      · exact ⟨0, name, v, below, rfl, hbelow, rfl⟩
      · exact ⟨j + 1, name', v', below, hj, hbelow, by rw [Nat.add_assoc, Nat.add_comm 1]⟩
    · rintro ⟨j, name', v', below, hj, hbelow, rfl⟩
      cases j with
      | zero =>
        obtain ⟨rfl, rfl⟩ := Prod.mk.inj (Option.some.inj hj)
        exact .inl ⟨below, hbelow, rfl⟩
      | succ j =>
        exact .inr ⟨j, name', v', below, hj, hbelow, by rw [Nat.add_assoc, Nat.add_comm 1]⟩

/-- **The places of leaves are those of the values that are no objects.** -/
theorem mem_leafPlaces_iff {v : Value} {place : List Nat} :
    place ∈ v.leafPlaces ↔
      ∃ names leaf, v.descend place = some (names, leaf) ∧ leaf.isObject = false := by
  induction place generalizing v with
  | nil =>
    have hhere (names : List String) (leaf : Value) :
        v.descend [] = some (names, leaf) ↔ [] = names ∧ v = leaf := by
      rw [descend_nil, Option.some_inj, Prod.mk.injEq]
    cases hobject : v.isObject with
    | true =>
      refine iff_of_false ?_ ?_
      · cases v with
        | object fields =>
          rw [leafPlaces, mem_fieldPlaces_iff]
          rintro ⟨j, name, v, below, -, -, h⟩
          cases h
        | _ => cases hobject
      · rintro ⟨names, leaf, hdescend, hleaf⟩
        rw [← ((hhere names leaf).mp hdescend).2, hobject] at hleaf
        cases hleaf
    | false =>
      rw [leafPlaces_of_not_isObject hobject]
      exact iff_of_true List.mem_cons_self ⟨[], v, descend_nil v, hobject⟩
  | cons i below ih =>
    cases v with
    | object fields =>
      rw [leafPlaces, mem_fieldPlaces_iff]
      constructor
      · rintro ⟨j, name, v, below', hj, hbelow, h⟩
        obtain ⟨hij, rfl⟩ := List.cons.inj h
        rw [Nat.zero_add] at hij
        obtain ⟨names, leaf, hdescend, hleaf⟩ := ih.mp hbelow
        refine ⟨name :: names, leaf, ?_, hleaf⟩
        rw [hij, descend_object hj, hdescend, Option.map_some]
      · rintro ⟨names, leaf, hdescend, hleaf⟩
        cases hfield : fields[i]? with
        | none =>
          rw [descend, hfield] at hdescend
          cases hdescend
        | some field =>
          obtain ⟨name, v⟩ := field
          rw [descend_object hfield] at hdescend
          obtain ⟨⟨names', leaf'⟩, hbelow, heq⟩ := Option.map_eq_some_iff.mp hdescend
          obtain ⟨-, rfl⟩ := Prod.mk.inj heq
          exact ⟨i, name, v, below, hfield, ih.mpr ⟨names', leaf', hbelow, hleaf⟩,
            by rw [Nat.zero_add]⟩
    | _ =>
      refine iff_of_false ?_ ?_
      · rw [leafPlaces_of_not_isObject rfl, List.mem_singleton]
        nofun
      · rintro ⟨names, leaf, hdescend, -⟩
        cases hdescend

mutual

/-- **The places of leaves are in the order of the document.** -/
theorem pairwise_leafPlaces (v : Value) : v.leafPlaces.Pairwise (List.Lex (· < ·)) := by
  cases v with
  | object fields =>
    rw [leafPlaces]
    exact pairwise_fieldPlaces 0 fields
  | _ =>
    rw [leafPlaces_of_not_isObject rfl]
    exact List.pairwise_singleton _ _

theorem pairwise_fieldPlaces (i : Nat) (fields : List (String × Value)) :
    (fieldPlaces i fields).Pairwise (List.Lex (· < ·)) := by
  cases fields with
  | nil =>
    rw [fieldPlaces]
    exact List.Pairwise.nil
  | cons field rest =>
    rw [fieldPlaces, List.pairwise_append, List.pairwise_map]
    refine ⟨?_, pairwise_fieldPlaces (i + 1) rest, ?_⟩
    · exact (pairwise_leafPlaces field.2).imp List.Lex.cons
    · -- a place below a later field begins with a greater number
      intro place hplace other hother
      obtain ⟨below, -, rfl⟩ := List.mem_map.mp hplace
      obtain ⟨j, name, v, below', -, -, rfl⟩ := mem_fieldPlaces_iff.mp hother
      exact List.Lex.rel (by omega)

end

theorem descend_append (v : Value) (place below : List Nat) :
    v.descend (place ++ below) = (v.descend place).bind fun (names, w) =>
      (w.descend below).map fun (names', leaf) => (names ++ names', leaf) := by
  induction place generalizing v with
  | nil =>
    rw [List.nil_append, descend_nil, Option.bind_some]
    dsimp only
    cases v.descend below <;> rfl
  | cons i place ih =>
    cases v with
    | object fields =>
      rw [List.cons_append]
      cases hfield : fields[i]? with
      | none =>
        rw [descend, hfield, descend, hfield]
        rfl
      | some field =>
        rw [descend_object hfield, descend_object hfield, ih]
        cases field.2.descend place with
        | none => rfl
        | some found =>
          rw [Option.bind_some, Option.map_some, Option.bind_some, Option.map_map]
          rfl
    | _ => rfl

/-- An object without fields has no leaves below it. -/
theorem not_isPrefix_of_descend_empty {v : Value} {place leaf : List Nat} {names : List String}
    (h : v.descend place = some (names, .object [])) (hleaf : leaf ∈ v.leafPlaces) :
    ¬ place <+: leaf := by
  rintro ⟨below, rfl⟩
  obtain ⟨names', w, hdescend, hw⟩ := mem_leafPlaces_iff.mp hleaf
  rw [descend_append, h, Option.bind_some] at hdescend
  cases below with
  | nil =>
    obtain ⟨-, rfl⟩ := Prod.mk.inj (Option.some.inj hdescend)
    cases hw
  | cons i below => cases hdescend

end Json.Value

/-! ### Keys -/

/-- The key of a value, from the names on the way to it: the name of a field of the document itself
as it is, and else all names trimmed, with two colons between them. -/
def pathKey : List String → String
  | [name] => name
  | names => "::".intercalate (names.map trim)

theorem toList_join_cons_cons (name next : String) (rest : List String) :
    ("::".intercalate ((name :: next :: rest).map trim)).toList =
      trimChars name.toList ++ "::".toList ++ ("::".intercalate ((next :: rest).map trim)).toList := by
  rw [String.toList_intercalate, String.toList_intercalate, List.map_cons, List.map_cons,
    List.map_cons, List.map_cons, List.intercalate_cons_cons, toList_trim]

theorem not_isBlank_head_join (names : List String) :
    ∀ c ∈ ("::".intercalate (names.map trim)).toList.head?, isBlank c = false := by
  match names with
  | [] => simp
  | [name] =>
    rw [List.map_singleton, String.intercalate_singleton, toList_trim]
    exact not_isBlank_head_trimChars _
  | name :: next :: rest =>
    intro c hc
    rw [toList_join_cons_cons, List.append_assoc, List.head?_append, Option.mem_def,
      Option.or_eq_some_iff] at hc
    rcases hc with hname | ⟨-, hcolon⟩
    · exact not_isBlank_head_trimChars _ c hname
    · -- the first name is blank, and the text begins with a colon
      obtain rfl : ':' = c := Option.some.inj hcolon
      decide

theorem not_isBlank_getLast_join (names : List String) :
    ∀ c ∈ ("::".intercalate (names.map trim)).toList.getLast?, isBlank c = false := by
  induction names with
  | nil => simp
  | cons name rest ih =>
    cases rest with
    | nil =>
      rw [List.map_singleton, String.intercalate_singleton, toList_trim]
      exact not_isBlank_getLast_trimChars _
    | cons next rest =>
      intro c hc
      rw [toList_join_cons_cons, List.getLast?_append, Option.mem_def, Option.or_eq_some_iff] at hc
      rcases hc with hrest | ⟨-, hcolon⟩
      · exact ih c hrest
      · -- the last name is blank, and the text ends with a colon
        rw [List.getLast?_append, show "::".toList.getLast? = some ':' from rfl,
          Option.some_or] at hcolon
        obtain rfl := Option.some.inj hcolon
        decide

/-- A trimmed key is its names trimmed and joined. -/
theorem trim_pathKey (names : List String) :
    trim (pathKey names) = "::".intercalate (names.map trim) := by
  unfold pathKey
  split
  · rw [List.map_singleton, String.intercalate_singleton]
  · rw [trim, trimChars_eq_self (not_isBlank_head_join names) (not_isBlank_getLast_join names),
      String.ofList_toList]

/-- **Joining and trimming on one more level is joining one more trimmed name.** -/
theorem sectionKey_pathKey (name : String) {names : List String} (h : names ≠ []) :
    sectionKey name (pathKey names) = pathKey (name :: names) := by
  obtain ⟨next, rest, rfl⟩ := List.exists_cons_of_ne_nil h
  rw [sectionKey, trim_pathKey, pathKey, ← String.toList_inj, toList_join_cons_cons,
    String.toList_append, String.toList_append, toList_trim]
  nofun

/-! ### Flattening -/

open Json (Value)

/-- The pair is the value at the place, under the key of the names on the way to it. -/
def Json.Value.Lists (document : Value) (place : List Nat) (pair : String × Value) : Prop :=
  ∃ names, names ≠ [] ∧ document.descend place = some (names, pair.2) ∧ pair.1 = pathKey names

section

variable {fields : List (String × Value)} {i : Nat} {name : String} {v : Value}

/-- A value that is no object is listed under the name of its field. -/
theorem lists_field (h : fields[i]? = some (name, v)) :
    (Value.object fields).Lists [i] (name, v) := by
  refine ⟨[name], List.cons_ne_nil _ _, ?_, rfl⟩
  rw [Value.descend_object h, Value.descend_nil, Option.map_some]

/-- What a section lists is listed under the keys of the section. -/
theorem lists_section (h : fields[i]? = some (name, v)) {place : List Nat} {pair : String × Value}
    (hpair : v.Lists place pair) :
    (Value.object fields).Lists (i :: place) (sectionKey name pair.1, pair.2) := by
  obtain ⟨names, hne, hdescend, hkey⟩ := hpair
  refine ⟨name :: names, List.cons_ne_nil _ _, ?_, ?_⟩
  · rw [Value.descend_object h, hdescend, Option.map_some]
  · rw [hkey, sectionKey_pathKey name hne]

end

mutual

/-- **Flattening gives one pair for each place.** -/
theorem forall₂_flatten (v : Value) (h : v.isObject) :
    List.Forall₂ v.Lists v.leafPlaces (flatten v) := by
  cases v with
  | object fields =>
    rw [Value.leafPlaces, flatten]
    exact forall₂_flattenFields [] fields
  | _ => cases h

/-- The fields of an object behind others give one pair for each place below them. -/
theorem forall₂_flattenFields (front fields : List (String × Value)) :
    List.Forall₂ (Value.object (front ++ fields)).Lists
      (Value.fieldPlaces front.length fields) (flattenFields fields) := by
  cases fields with
  | nil =>
    rw [Value.fieldPlaces, flattenFields]
    exact List.Forall₂.nil
  | cons field rest =>
    obtain ⟨name, v⟩ := field
    have hfield : (front ++ (name, v) :: rest)[front.length]? = some (name, v) := by
      rw [List.getElem?_append_right (Nat.le_refl _), Nat.sub_self]
      rfl
    have hrest := forall₂_flattenFields (front ++ [(name, v)]) rest
    rw [List.append_assoc, List.singleton_append, List.length_append, List.length_singleton]
      at hrest
    rw [Value.fieldPlaces, flattenFields]
    refine List.rel_append ?_ hrest
    cases hobject : v.isObject with
    | true =>
      rw [if_pos rfl, List.forall₂_map_left_iff, List.forall₂_map_right_iff]
      exact (forall₂_flatten v hobject).imp fun place pair => lists_section hfield
    | false =>
      rw [if_neg Bool.false_ne_true, Value.leafPlaces_of_not_isObject hobject]
      exact List.Forall₂.cons (lists_field hfield) List.Forall₂.nil

end

/-- **Flattening lists exactly the values of a document that are no objects, in the order of the
document.**  They are the values at the places of leaves, which are in the order of the document and
pairwise different.  For each of them there is one pair, with the value as it is and the key of the
names on the way to it: a single name as it is, and several names trimmed, with two colons between
them.  Below an object without fields there is none of them. -/
theorem flatten_exact (fields : List (String × Value)) :
    let document := Value.object fields
    document.leafPlaces.Pairwise (List.Lex (· < ·)) ∧
      (∀ place, place ∈ document.leafPlaces ↔
        ∃ names leaf, document.descend place = some (names, leaf) ∧ leaf.isObject = false) ∧
      List.Forall₂ (fun place pair => ∃ names, names ≠ [] ∧
          document.descend place = some (names, pair.2) ∧ pair.1 = pathKey names)
        document.leafPlaces (flatten document) ∧
      ∀ place names, document.descend place = some (names, .object []) →
        ∀ leaf ∈ document.leafPlaces, ¬ place <+: leaf := by
  intro document
  refine ⟨document.pairwise_leafPlaces, fun place => Value.mem_leafPlaces_iff,
    forall₂_flatten document rfl, ?_⟩
  intro place names hempty leaf hleaf
  exact Value.not_isPrefix_of_descend_empty hempty hleaf

/-- Sections and values with blank, empty and equal keys: an empty section is left out, an array is
kept whole, and a value whose key is spelled like that of another one is not lost. -/
theorem flatten_exact_crowdedDocument :
    let document := Value.object [(" a ", .object [(" b", .bool true), ("c", .object []),
      (" ", .object [("", .array [.object [("d", .null)]])])]), ("a::b", .null), (" e ", .text "f")]
    document.leafPlaces = [[0, 0], [0, 2, 0], [1], [2]] ∧
      flatten document = [("a::b", .bool true), ("a::::", .array [.object [("d", .null)]]),
        ("a::b", .null), (" e ", .text "f")] ∧
      ∀ leaf ∈ document.leafPlaces, ¬ [0, 1] <+: leaf := by
  intro document
  refine ⟨by decide, ?_, ?_⟩
  · have hkeys : sectionKey " a " " b" = "a::b" ∧
        sectionKey " a " (sectionKey " " "") = "a::::" := by decide
    show [(sectionKey " a " " b", _), (sectionKey " a " (sectionKey " " ""), _), _, _] = _
    rw [hkeys.1, hkeys.2]
  · obtain ⟨-, -, -, hempty⟩ := flatten_exact [(" a ", .object [(" b", .bool true), ("c", .object []),
      (" ", .object [("", .array [.object [("d", .null)]])])]), ("a::b", .null), (" e ", .text "f")]
    exact hempty [0, 1] [" a ", "c"] rfl

end ReportCompiler
