import ReportCompiler.Proofs.Document.Table

/-!
# Cells as the program would print them

A cell of a table should show a value as the program that computed it would print it: a text as it
is, and all else as a literal of the program's language.  Texts inside arrays and objects are quoted
there, and the language escapes the backslash, the quote and every control.  Here only the backslash,
the quote, the line feed and the tab are escaped; all other controls are left as they are.  So a cell
shows what the program would print exactly if no text inside the value has one of those.

## Main definitions

* `Target.printed` - a value as the program's language prints it, where numbers with a point are left
  to a parameter.
* `Json.Value.isPlain` - a value without such numbers, and with ASCII texts only.
* `Json.Value.innerTexts` - the texts and keys inside a value.
* `isLeftRaw` - a control that is not escaped.

## Main results

* `textRepr_eq_literal` - a text without such controls is quoted as the language quotes it.
* `mem_valueRepr` - a control that is not escaped is found in the cell.
* `Target.controlFree_literal` - the language prints no control.
* `cellText_eq_printed_iff` - **a cell shows what the program would print exactly if no text inside
  the value has a control other than the line feed and the tab.**
-/

namespace ReportCompiler

open Json (Value)
open Text

/-! ### What the program prints -/

namespace Target

/-- The quote of a text: a double one only if the text has a single one and no double one. -/
def quoteOf (cs : List Char) : Char :=
  if '\'' ∈ cs ∧ '"' ∉ cs then '"' else '\''

/-- A character between quotes. -/
def escapedChar (quote c : Char) : List Char :=
  if c = '\\' ∨ c = quote then ['\\', c]
  else if c = '\n' then "\\n".toList
  else if c = '\r' then "\\r".toList
  else if c = '\t' then "\\t".toList
  else if c.toNat < 0x20 ∨ c.toNat = 0x7f then
    '\\' :: 'x' :: [Nat.digitChar (c.toNat / 16), Nat.digitChar (c.toNat % 16)]
  else [c]

/-- A text in quotes. -/
def stringLiteral (s : String) : String :=
  let quote := quoteOf s.toList
  String.ofList ([quote] ++ s.toList.flatMap (escapedChar quote) ++ [quote])

mutual

/-- A value as a literal, where `number` prints the numbers with a point. -/
def literal (number : Decimal.Binary64 → String) : Value → String
  | .null => "None"
  | .bool true => "True"
  | .bool false => "False"
  | .integer n => toString n
  | .float x => number x
  | .text s => stringLiteral s
  | .array items => "[" ++ ", ".intercalate (itemLiterals number items) ++ "]"
  | .object fields => "\x7b" ++ ", ".intercalate (fieldLiterals number fields) ++ "\x7d"

/-- The items of an array as literals. -/
def itemLiterals (number : Decimal.Binary64 → String) : List Value → List String
  | [] => []
  | v :: rest => literal number v :: itemLiterals number rest

/-- The fields of an object as literals. -/
def fieldLiterals (number : Decimal.Binary64 → String) : List (String × Value) → List String
  | [] => []
  | (key, v) :: rest =>
    (stringLiteral key ++ ": " ++ literal number v) :: fieldLiterals number rest

end

/-- A value as it is printed: a text as it is, and all else as a literal. -/
def printed (number : Decimal.Binary64 → String) : Value → String
  | .text s => s
  | v => literal number v

end Target

/-! ### Texts inside values -/

/-- The text has ASCII characters only. -/
def isAsciiText (s : String) : Bool :=
  s.toList.all fun c => c.toNat < 0x80

namespace Json.Value

mutual

/-- The value has no numbers with a point, and its texts and keys are ASCII. -/
def isPlain : Value → Bool
  | .null | .bool _ | .integer _ => true
  | .float _ => false
  | .text s => isAsciiText s
  | .array items => arePlain items
  | .object fields => areFieldsPlain fields

/-- All items are plain. -/
def arePlain : List Value → Bool
  | [] => true
  | v :: rest => v.isPlain && arePlain rest

/-- All fields are plain. -/
def areFieldsPlain : List (String × Value) → Bool
  | [] => true
  | (key, v) :: rest => isAsciiText key && v.isPlain && areFieldsPlain rest

end

mutual

/-- The texts and keys of a value, in the order in which they are printed. -/
def texts : Value → List String
  | .null | .bool _ | .integer _ | .float _ => []
  | .text s => [s]
  | .array items => itemTexts items
  | .object fields => fieldTexts fields

/-- The texts and keys of the items of an array. -/
def itemTexts : List Value → List String
  | [] => []
  | v :: rest => v.texts ++ itemTexts rest

/-- The texts and keys of the fields of an object. -/
def fieldTexts : List (String × Value) → List String
  | [] => []
  | (key, v) :: rest => key :: v.texts ++ fieldTexts rest

end

/-- The texts and keys inside a value.  A text of its own is not inside. -/
def innerTexts : Value → List String
  | .text _ => []
  | v => v.texts

end Json.Value

/-- A control that is not escaped. -/
def isLeftRaw (c : Char) : Bool :=
  (c.toNat < 0x20 && c != '\n' && c != '\t') || c.toNat == 0x7f

/-! ### Quoted texts -/

theorem quoteFor_eq (cs : List Char) : quoteFor cs = Target.quoteOf cs := by
  simp [quoteFor, Target.quoteOf]

theorem quoteOf_cases (cs : List Char) : Target.quoteOf cs = '"' ∨ Target.quoteOf cs = '\'' := by
  unfold Target.quoteOf
  split
  · exact .inl rfl
  · exact .inr rfl

theorem isLeftRaw_iff {c : Char} :
    isLeftRaw c ↔ (c.toNat < 0x20 ∧ c ≠ '\n' ∧ c ≠ '\t') ∨ c.toNat = 0x7f := by
  simp [isLeftRaw, and_assoc]

/-- A control that is left as it is has no other meaning in a literal. -/
theorem isLeftRaw_ne {c : Char} (h : isLeftRaw c) :
    c ≠ '\\' ∧ c ≠ '"' ∧ c ≠ '\'' ∧ c ≠ '\n' ∧ c ≠ '\t' := by
  refine ⟨?_, ?_, ?_, ?_, ?_⟩ <;>
    · rintro rfl
      exact absurd h (by decide)

theorem literalChar_eq {quote c : Char} (h : isLeftRaw c = false) :
    literalChar quote c = Target.escapedChar quote c := by
  have hreturn : c ≠ '\r' := by
    rintro rfl
    cases h
  have hcontrol : ¬ (c.toNat < 0x20 ∧ c ≠ '\n' ∧ c ≠ '\t' ∨ c.toNat = 0x7f) :=
    isLeftRaw_iff.not.mp (Bool.eq_false_iff.mp h)
  simp only [literalChar, Target.escapedChar, Bool.or_eq_true, decide_eq_true_eq, hreturn, if_false]
  split
  · rfl
  · split
    · rfl
    · split
      · rfl
      · next hfeed htab =>
        rw [if_neg fun hlow => hcontrol (hlow.imp_left fun hlow => ⟨hlow, hfeed, htab⟩)]

/-- A text without controls that are left as they are is quoted as the language quotes it. -/
theorem textRepr_eq_literal {s : String} (h : ∀ c ∈ s.toList, isLeftRaw c = false) :
    textRepr s = Target.stringLiteral s := by
  rw [textRepr, Target.stringLiteral, quoteFor_eq]
  congr 3
  exact List.flatMap_congr fun c hc => literalChar_eq (h c hc)

/-- A control that is left as it is stands between the quotes. -/
theorem mem_textRepr {s : String} {c : Char} (hc : c ∈ s.toList) (hraw : isLeftRaw c) :
    c ∈ (textRepr s).toList := by
  obtain ⟨hslash, hdouble, hsingle, hfeed, htab⟩ := isLeftRaw_ne hraw
  have hquote : c ≠ quoteFor s.toList := by
    rw [quoteFor_eq]
    rcases quoteOf_cases s.toList with hquote | hquote <;> rwa [hquote]
  have hchar : literalChar (quoteFor s.toList) c = [c] := by
    simp [literalChar, hslash, hquote, hfeed, htab]
  rw [textRepr, String.toList_ofList]
  have hmem : c ∈ s.toList.flatMap (literalChar (quoteFor s.toList)) :=
    List.mem_flatMap.mpr ⟨c, hc, by rw [hchar]; exact List.mem_singleton_self c⟩
  exact List.mem_append_left _ (List.mem_cons_of_mem _ hmem)

theorem integerText_eq (n : Int) : integerText n = toString n := by
  cases n with
  | ofNat m =>
    have hsign : Decimal.signText (Int.ofNat m < 0) = "" := by simp [Decimal.signText]
    rw [integerText, hsign, String.empty_append]
    rfl
  | negSucc m =>
    have hsign : Decimal.signText (Int.negSucc m < 0) = "-" := by
      simp [Decimal.signText, Int.negSucc_lt_zero]
    rw [integerText, hsign]
    rfl

/-! ### Cells without controls that are left as they are -/

section

variable (number : Decimal.Binary64 → String)

mutual

theorem valueRepr_eq_literal {v : Value} (hplain : v.isPlain)
    (h : ∀ s ∈ v.texts, ∀ c ∈ s.toList, isLeftRaw c = false) :
    valueRepr v = Target.literal number v := by
  cases v with
  | null => rw [valueRepr, Target.literal]
  | bool b => cases b <;> simp [valueRepr, Target.literal]
  | integer n => rw [valueRepr, Target.literal, integerText_eq]
  | float x =>
    rw [Value.isPlain] at hplain
    cases hplain
  | text s =>
    rw [Value.texts, List.forall_mem_singleton] at h
    rw [valueRepr, Target.literal, textRepr_eq_literal h]
  | array items =>
    rw [Value.isPlain] at hplain
    rw [Value.texts] at h
    rw [valueRepr, Target.literal, itemReprs_eq_literals hplain h]
  | object fields =>
    rw [Value.isPlain] at hplain
    rw [Value.texts] at h
    rw [valueRepr, Target.literal, fieldReprs_eq_literals hplain h]

theorem itemReprs_eq_literals {items : List Value} (hplain : Value.arePlain items)
    (h : ∀ s ∈ Value.itemTexts items, ∀ c ∈ s.toList, isLeftRaw c = false) :
    itemReprs items = Target.itemLiterals number items := by
  cases items with
  | nil => rw [itemReprs, Target.itemLiterals]
  | cons v rest =>
    rw [Value.arePlain, Bool.and_eq_true] at hplain
    rw [Value.itemTexts, List.forall_mem_append] at h
    rw [itemReprs, Target.itemLiterals, valueRepr_eq_literal hplain.1 h.1,
      itemReprs_eq_literals hplain.2 h.2]

theorem fieldReprs_eq_literals {fields : List (String × Value)}
    (hplain : Value.areFieldsPlain fields)
    (h : ∀ s ∈ Value.fieldTexts fields, ∀ c ∈ s.toList, isLeftRaw c = false) :
    fieldReprs fields = Target.fieldLiterals number fields := by
  cases fields with
  | nil => rw [fieldReprs, Target.fieldLiterals]
  | cons field rest =>
    rw [Value.areFieldsPlain, Bool.and_eq_true, Bool.and_eq_true] at hplain
    rw [Value.fieldTexts, List.cons_append, List.forall_mem_cons, List.forall_mem_append] at h
    rw [fieldReprs, Target.fieldLiterals, textRepr_eq_literal h.1,
      valueRepr_eq_literal hplain.1.2 h.2.1, fieldReprs_eq_literals hplain.2 h.2.2]

end

end

/-! ### Cells with one -/

section

variable {s : String} {c : Char}

theorem mem_enclosed {parts : List String} (h : ∃ part ∈ parts, c ∈ part.toList)
    (opener closer : String) : c ∈ (opener ++ ", ".intercalate parts ++ closer).toList := by
  obtain ⟨part, hpart, hc⟩ := h
  have hmem : c ∈ (", ".intercalate parts).toList := by
    rw [String.toList_intercalate]
    exact mem_intercalate_iff.mpr (.inr ⟨part.toList, List.mem_map_of_mem hpart, hc⟩)
  rw [String.toList_append, String.toList_append]
  exact List.mem_append_left _ (List.mem_append_right _ hmem)

mutual

/-- A control that is left as it is in a text is found in the cell. -/
theorem mem_valueRepr (hc : c ∈ s.toList) (hraw : isLeftRaw c) {v : Value} (hs : s ∈ v.texts) :
    c ∈ (valueRepr v).toList := by
  cases v with
  | text t =>
    rw [Value.texts, List.mem_singleton] at hs
    rw [valueRepr, ← hs]
    exact mem_textRepr hc hraw
  | array items =>
    rw [Value.texts] at hs
    rw [valueRepr]
    exact mem_enclosed (mem_itemReprs hc hraw hs) _ _
  | object fields =>
    rw [Value.texts] at hs
    rw [valueRepr]
    exact mem_enclosed (mem_fieldReprs hc hraw hs) _ _
  | _ =>
    rw [Value.texts] at hs
    cases hs

theorem mem_itemReprs (hc : c ∈ s.toList) (hraw : isLeftRaw c) {items : List Value}
    (hs : s ∈ Value.itemTexts items) : ∃ part ∈ itemReprs items, c ∈ part.toList := by
  cases items with
  | nil =>
    rw [Value.itemTexts] at hs
    cases hs
  | cons v rest =>
    rw [Value.itemTexts, List.mem_append] at hs
    rw [itemReprs, List.exists_mem_cons_iff]
    exact hs.imp (mem_valueRepr hc hraw) (mem_itemReprs hc hraw)

theorem mem_fieldReprs (hc : c ∈ s.toList) (hraw : isLeftRaw c) {fields : List (String × Value)}
    (hs : s ∈ Value.fieldTexts fields) : ∃ part ∈ fieldReprs fields, c ∈ part.toList := by
  cases fields with
  | nil =>
    rw [Value.fieldTexts] at hs
    cases hs
  | cons field rest =>
    rw [Value.fieldTexts, List.cons_append, List.mem_cons, List.mem_append] at hs
    rw [fieldReprs, List.exists_mem_cons_iff, String.toList_append, String.toList_append,
      List.mem_append, List.mem_append]
    rcases hs with hs | hs | hs
    · rw [hs] at hc
      exact .inl (.inl (.inl (mem_textRepr hc hraw)))
    · exact .inl (.inr (mem_valueRepr hc hraw hs))
    · exact .inr (mem_fieldReprs hc hraw hs)

end

end

/-! ### The language prints no control -/

namespace Target

theorem controlFree_escapedChar {quote c : Char} (hquote : quote = '"' ∨ quote = '\'')
    (hc : c.toNat < 0x80) : ControlFree (escapedChar quote c) := by
  have hhex : ∀ d < 16, isControl (Nat.digitChar d) = false := by decide
  unfold escapedChar
  split
  · next h =>
    rcases h with rfl | rfl
    · decide
    · rcases hquote with rfl | rfl <;> decide
  iterate 3
    split
    · decide
  split
  · next h =>
    have hhigh := hhex (c.toNat / 16) (by omega)
    have hlow := hhex (c.toNat % 16) (by omega)
    simp only [controlFree_cons, hhigh, hlow, controlFree_nil, and_true]
    decide
  · next h =>
    rw [controlFree_cons]
    exact ⟨not_isControl_of_le (by omega) (by omega), controlFree_nil⟩

theorem controlFree_stringLiteral {s : String} (h : isAsciiText s) :
    ControlFree (stringLiteral s).toList := by
  have hquote := quoteOf_cases s.toList
  have hside : ControlFree [quoteOf s.toList] := by
    rcases hquote with hquote | hquote <;>
      · rw [hquote]
        decide
  rw [stringLiteral, String.toList_ofList, controlFree_append, controlFree_append]
  refine ⟨⟨hside, .flatMap fun c hc => controlFree_escapedChar hquote ?_⟩, hside⟩
  simpa using List.all_eq_true.mp h c hc

section

variable (number : Decimal.Binary64 → String)

mutual

theorem controlFree_literal {v : Value} (h : v.isPlain) : ControlFree (literal number v).toList := by
  cases v with
  | null =>
    rw [literal]
    decide
  | bool b =>
    cases b <;>
      · rw [literal]
        decide
  | integer n =>
    rw [literal, ← integerText_eq]
    exact controlFree_integerText n
  | float x =>
    rw [Value.isPlain] at h
    cases h
  | text s =>
    rw [Value.isPlain] at h
    rw [literal]
    exact controlFree_stringLiteral h
  | array items =>
    rw [Value.isPlain] at h
    rw [literal, String.toList_append, String.toList_append, controlFree_append, controlFree_append]
    exact ⟨⟨by decide, .intercalate (by decide) (controlFree_itemLiterals h)⟩, by decide⟩
  | object fields =>
    rw [Value.isPlain] at h
    rw [literal, String.toList_append, String.toList_append, controlFree_append, controlFree_append]
    exact ⟨⟨by decide, .intercalate (by decide) (controlFree_fieldLiterals h)⟩, by decide⟩

theorem controlFree_itemLiterals {items : List Value} (h : Value.arePlain items) :
    ∀ part ∈ itemLiterals number items, ControlFree part.toList := by
  cases items with
  | nil =>
    rw [itemLiterals]
    nofun
  | cons v rest =>
    rw [Value.arePlain, Bool.and_eq_true] at h
    rw [itemLiterals, List.forall_mem_cons]
    exact ⟨controlFree_literal h.1, controlFree_itemLiterals h.2⟩

theorem controlFree_fieldLiterals {fields : List (String × Value)}
    (h : Value.areFieldsPlain fields) :
    ∀ part ∈ fieldLiterals number fields, ControlFree part.toList := by
  cases fields with
  | nil =>
    rw [fieldLiterals]
    nofun
  | cons field rest =>
    rw [Value.areFieldsPlain, Bool.and_eq_true, Bool.and_eq_true] at h
    rw [fieldLiterals, List.forall_mem_cons, String.toList_append, String.toList_append,
      controlFree_append, controlFree_append]
    exact ⟨⟨⟨controlFree_stringLiteral h.1.1, by decide⟩, controlFree_literal h.1.2⟩,
      controlFree_fieldLiterals h.2⟩

end

end

end Target

/-! ### Cells -/

theorem isControl_of_isLeftRaw {c : Char} (h : isLeftRaw c) : isControl c := by
  rw [isLeftRaw_iff] at h
  simp only [isControl, Bool.or_eq_true, Bool.and_eq_true, decide_eq_true_eq]
  omega

theorem valueRepr_eq_literal_iff (number : Decimal.Binary64 → String) {v : Value}
    (h : v.isPlain) : valueRepr v = Target.literal number v ↔
      ∀ s ∈ v.texts, ∀ c ∈ s.toList, isLeftRaw c = false := by
  refine ⟨fun heq s hs c hc => ?_, valueRepr_eq_literal number h⟩
  rw [Bool.eq_false_iff]
  intro hraw
  -- the cell has the control, and the language prints none
  have hmem := mem_valueRepr hc hraw hs
  rw [heq] at hmem
  have hcontrol := isControl_of_isLeftRaw hraw
  rw [Target.controlFree_literal number h c hmem] at hcontrol
  cases hcontrol

/-- **A cell shows what the program would print exactly if no text inside the value has a control
other than the line feed and the tab.**  A text of its own is shown as it is. -/
theorem cellText_eq_printed_iff (number : Decimal.Binary64 → String) {v : Value} (h : v.isPlain) :
    cellText v = Target.printed number v ↔
      ∀ s ∈ v.innerTexts, ∀ c ∈ s.toList, isLeftRaw c = false := by
  cases v with
  | text s => exact iff_of_true rfl nofun
  | _ => exact valueRepr_eq_literal_iff number h

/-- Both quotes, a backslash, a tab and a line feed in texts and keys, three levels deep. -/
def crowdedValue : Value :=
  .array [.text "it's", .object [("say \"hi\"", .array [.text "a\tb\\\n", .text "'\""]),
    ("", .integer (-30))], .null, .bool true]

/-- The crowded value is shown as the program would print it. -/
theorem cellText_eq_printed_iff_crowdedValue :
    crowdedValue.isPlain ∧
      cellText crowdedValue = Target.printed Decimal.documentText crowdedValue ∧
      cellText crowdedValue =
        "[\"it's\", \x7b'say \"hi\"': ['a\\tb\\\\\\n', '\\'\"'], '': -30\x7d, None, True]" := by
  have hplain : crowdedValue.isPlain := by decide
  have htexts : crowdedValue.innerTexts =
      ["it's", "say \"hi\"", "a\tb\\\n", "'\"", ""] := by
    decide
  refine ⟨hplain, (cellText_eq_printed_iff _ hplain).mpr ?_, by decide⟩
  rw [htexts]
  simp [isLeftRaw]

/-- A carriage return inside an array is shown as it is, and the program would print an escape. -/
theorem carriageReturn_left_raw :
    Value.isPlain (.array [.text "a\rb"]) ∧
      cellText (.array [.text "a\rb"]) = "['a\rb']" ∧
      Target.printed Decimal.documentText (.array [.text "a\rb"]) = "['a\\rb']" := by
  decide

end ReportCompiler
