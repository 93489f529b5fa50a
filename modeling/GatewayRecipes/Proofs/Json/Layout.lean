import GatewayRecipes.Proofs.Json.Scalar

/-! Layouts of data as JSON text: white space may stand behind brackets, commas and colons and
before the end of a list or record. Whatever the layout, a reader gives back the data and stops
behind its text. -/
namespace GatewayRecipes

namespace Output.Data
open GatewayRecipes.Json

mutual

/-- Data as the tree of a text without fault. -/
def tree : Data → Tree
  | .bool b => .bool b
  | .number n => .number ⟨false, Nat.toDigits 10 n, none, none⟩
  | .text s => .text (.ok s)
  | .list items => .list (itemTrees items) .closed
  | .record fields => .record (fieldTrees fields) .closed

def itemTrees : List Data → List Tree
  | [] => []
  | d :: rest => d.tree :: itemTrees rest

def fieldTrees : List (String × Data) → List (Except Problem String × Tree)
  | [] => []
  | (k, d) :: rest => (.ok k, d.tree) :: fieldTrees rest

end

end Output.Data

namespace Json
open GatewayRecipes.Output

def Gap (cs : List Char) : Prop := ∀ c ∈ cs, isSpace c = true

mutual

inductive LaidOut : Data → List Char → Prop
  | bool (b : Bool) : LaidOut (.bool b) (boolean b)
  | number (n : Nat) : LaidOut (.number n) (toString n).toList
  | text (s : String) : LaidOut (.text s) (string s)
  | emptyList : LaidOut (.list []) ['[', ']']
  | list {gap cs more : List Char} {d : Data} {rest : List Data} (hgap : Gap gap)
      (first : LaidOut d cs) (further : LaidOutItems rest more) :
      LaidOut (.list (d :: rest)) ('[' :: (gap ++ (cs ++ more)))
  | emptyRecord : LaidOut (.record []) ['\x7b', '\x7d']
  | record {gap gap' cs more : List Char} {k : String} {d : Data} {rest : List (String × Data)}
      (hgap : Gap gap) (hgap' : Gap gap') (first : LaidOut d cs)
      (further : LaidOutFields rest more) :
      LaidOut (.record ((k, d) :: rest))
        ('\x7b' :: (gap ++ (string k ++ ':' :: (gap' ++ (cs ++ more)))))

/-- A text of the further items of a list, and its end. -/
inductive LaidOutItems : List Data → List Char → Prop
  | nil {gap : List Char} (hgap : Gap gap) : LaidOutItems [] (gap ++ [']'])
  | cons {gap cs more : List Char} {d : Data} {rest : List Data} (hgap : Gap gap)
      (first : LaidOut d cs) (further : LaidOutItems rest more) :
      LaidOutItems (d :: rest) (',' :: (gap ++ (cs ++ more)))

/-- A text of the further fields of a record, and its end. -/
inductive LaidOutFields : List (String × Data) → List Char → Prop
  | nil {gap : List Char} (hgap : Gap gap) : LaidOutFields [] (gap ++ ['\x7d'])
  | cons {gap gap' cs more : List Char} {k : String} {d : Data} {rest : List (String × Data)}
      (hgap : Gap gap) (hgap' : Gap gap') (first : LaidOut d cs)
      (further : LaidOutFields rest more) :
      LaidOutFields ((k, d) :: rest)
        (',' :: (gap ++ (string k ++ ':' :: (gap' ++ (cs ++ more)))))

end

lemma gap_nil : Gap [] := fun _ h => absurd h List.not_mem_nil

mutual

/-- Compact text is a layout without white space. -/
theorem laidOut_compact : ∀ d : Data, LaidOut d (compact d)
  | .bool b => .bool b
  | .number n => .number n
  | .text s => .text s
  | .list [] => .emptyList
  | .list (d :: rest) => .list gap_nil (laidOut_compact d) (laidOut_compactItems rest)
  | .record [] => .emptyRecord
  | .record ((k, d) :: rest) => by
    have h := LaidOut.record (k := k) gap_nil gap_nil (laidOut_compact d)
      (laidOut_compactFields rest)
    simpa [compact] using h

theorem laidOut_compactItems : ∀ ds : List Data, LaidOutItems ds (compactItems ds)
  | [] => .nil gap_nil
  | d :: rest => .cons gap_nil (laidOut_compact d) (laidOut_compactItems rest)

theorem laidOut_compactFields : ∀ fs : List (String × Data), LaidOutFields fs (compactFields fs)
  | [] => .nil gap_nil
  | (k, d) :: rest => by
    have h := LaidOutFields.cons (k := k) gap_nil gap_nil (laidOut_compact d)
      (laidOut_compactFields rest)
    simpa [compactFields] using h

end

lemma gap_newLine (depth : Nat) : Gap (newLine depth) := by
  intro c hc
  rcases List.mem_cons.mp hc with rfl | hc
  · rfl
  · rw [List.eq_of_mem_replicate hc]
    rfl

lemma gap_space : Gap [' '] := List.forall_mem_singleton.mpr rfl

mutual

/-- Indented text is a layout, at any depth. -/
theorem laidOut_pretty : ∀ (depth : Nat) (d : Data), LaidOut d (pretty depth d)
  | _, .bool b => .bool b
  | _, .number n => .number n
  | _, .text s => .text s
  | _, .list [] => .emptyList
  | depth, .list (d :: rest) => by
    have h := LaidOut.list (gap_newLine (depth + 1)) (laidOut_pretty (depth + 1) d)
      (laidOut_prettyItems depth rest)
    simpa [pretty] using h
  | _, .record [] => .emptyRecord
  | depth, .record ((k, d) :: rest) => by
    have h := LaidOut.record (k := k) (gap_newLine (depth + 1)) gap_space
      (laidOut_pretty (depth + 1) d) (laidOut_prettyFields depth rest)
    simpa [pretty] using h

theorem laidOut_prettyItems : ∀ (depth : Nat) (ds : List Data),
    LaidOutItems ds (prettyItems depth ds)
  | depth, [] => .nil (gap_newLine depth)
  | depth, d :: rest => by
    have h := LaidOutItems.cons (gap_newLine (depth + 1)) (laidOut_pretty (depth + 1) d)
      (laidOut_prettyItems depth rest)
    simpa [prettyItems] using h

theorem laidOut_prettyFields : ∀ (depth : Nat) (fs : List (String × Data)),
    LaidOutFields fs (prettyFields depth fs)
  | depth, [] => .nil (gap_newLine depth)
  | depth, (k, d) :: rest => by
    have h := LaidOutFields.cons (k := k) (gap_newLine (depth + 1)) gap_space
      (laidOut_pretty (depth + 1) d) (laidOut_prettyFields depth rest)
    simpa [prettyFields] using h

end

/-! Reading a layout. -/

lemma skipSpace_gap {gap : List Char} (h : Gap gap) (cs : List Char) :
    skipSpace (gap ++ cs) = skipSpace cs :=
  List.dropWhile_append_of_pos h

lemma skipSpace_cons {c : Char} (h : isSpace c = false) (cs : List Char) :
    skipSpace (c :: cs) = c :: cs :=
  List.dropWhile_cons_of_neg (by simp [h])

lemma readTree_gap {gap : List Char} (h : Gap gap) (fuel : Nat) (cs : List Char) :
    readTree fuel (gap ++ cs) = readTree fuel cs := by
  cases fuel with
  | zero => rfl
  | succ fuel => rw [readTree, readTree, skipSpace_gap h]

lemma string_append (s : String) (rest : List Char) :
    string s ++ rest = '"' :: (s.toList.flatMap escapeChar ++ '"' :: rest) := by
  simp [string]

lemma readTree_boolean (fuel : Nat) (b : Bool) (rest : List Char) :
    readTree (fuel + 1) (boolean b ++ rest) = (.bool b, some rest) := by
  cases b <;> rfl

lemma number_cons (n : Nat) :
    ∃ c more, (toString n).toList = c :: more ∧ Nat.toDigits 10 n = c :: more ∧
      c.isDigit = true := by
  rw [Nat.toString_eq_ofList_toDigits, String.toList_ofList]
  cases hd : Nat.toDigits 10 n with
  | nil => exact absurd hd Nat.toDigits_ne_nil
  | cons c more =>
    exact ⟨c, more, rfl, rfl, isDigit_of_mem_toDigits (by rw [hd]; exact List.mem_cons_self ..)⟩

lemma ne_of_isDigit {c d : Char} (hc : c.isDigit = true) (hd : d.isDigit = false) : c ≠ d := by
  rintro rfl
  simp [hd] at hc

lemma isSpace_of_isDigit {c : Char} (hc : c.isDigit = true) : isSpace c = false := by
  simp [isSpace, ne_of_isDigit hc]

lemma readTree_number (fuel n : Nat) {rest : List Char} (hr : EndsNumber rest) :
    readTree (fuel + 1) ((toString n).toList ++ rest) =
      (.number ⟨false, Nat.toDigits 10 n, none, none⟩, some rest) := by
  have hread := readNumeral_toDigits n hr
  obtain ⟨c, more, htext, hdigits, hc⟩ := number_cons n
  have hne (d : Char) (hd : d.isDigit = false) : c ≠ d := ne_of_isDigit hc hd
  rw [hdigits, List.cons_append] at hread
  rw [htext, hdigits, List.cons_append, readTree, skipSpace_cons (isSpace_of_isDigit hc)]
  simp only [hne 'n' rfl, hne 't' rfl, hne 'f' rfl, hne '-' rfl, hc, if_true, if_false, hread,
    readingOfNumeral]

lemma readTree_string (fuel : Nat) (s : String) (rest : List Char) :
    readTree (fuel + 1) (string s ++ rest) = (.text (.ok s), some rest) := by
  rw [string_append, readTree, skipSpace_cons rfl]
  simp [readString_escaped, readingOfString, Except.map]

/-- What a value begins with is no white space and ends no list. -/
lemma LaidOut.head {d : Data} {cs : List Char} (h : LaidOut d cs) :
    ∃ c more, cs = c :: more ∧ isSpace c = false ∧ c ≠ ']' := by
  cases h with
  | bool b => cases b <;> exact ⟨_, _, rfl, rfl, by decide⟩
  | number n =>
    obtain ⟨c, more, htext, -, hc⟩ := number_cons n
    exact ⟨c, more, htext, isSpace_of_isDigit hc, ne_of_isDigit hc rfl⟩
  | _ => exact ⟨_, _, rfl, rfl, by decide⟩

lemma endsNumber_cons {c : Char} (h : c.isDigit = false ∧ c ≠ '.' ∧ c ≠ 'e' ∧ c ≠ 'E')
    (rest : List Char) : EndsNumber (c :: rest) := by
  rintro _ ⟨⟩
  exact h

lemma endsNumber_gap {gap : List Char} (hgap : Gap gap) {rest : List Char} (h : EndsNumber rest) :
    EndsNumber (gap ++ rest) := by
  cases gap with
  | nil => exact h
  | cons c more =>
    have hc := hgap c (List.mem_cons_self ..)
    simp only [isSpace, Bool.or_eq_true, beq_iff_eq] at hc
    rcases hc with ((rfl | rfl) | rfl) | rfl <;> exact endsNumber_cons (by decide) _

lemma LaidOutItems.endsNumber {ds : List Data} {more : List Char} (h : LaidOutItems ds more)
    (rest : List Char) : EndsNumber (more ++ rest) := by
  cases h with
  | nil hgap =>
    rw [List.append_assoc]
    exact endsNumber_gap hgap (endsNumber_cons (by decide) rest)
  | cons => exact endsNumber_cons (by decide) _

lemma LaidOutFields.endsNumber {fs : List (String × Data)} {more : List Char}
    (h : LaidOutFields fs more) (rest : List Char) : EndsNumber (more ++ rest) := by
  cases h with
  | nil hgap =>
    rw [List.append_assoc]
    exact endsNumber_gap hgap (endsNumber_cons (by decide) rest)
  | cons => exact endsNumber_cons (by decide) _

/-! What the readers of items and fields do behind a value. -/

section
variable {fuel : Nat} {cs gap more : List Char} {t : Tree}

lemma readItems_last {rest : List Char} (hgap : Gap gap)
    (h : readTree fuel cs = (t, some (gap ++ ']' :: rest))) :
    readItems (fuel + 1) cs = ([t], .closed, some rest) := by
  rw [readItems, h]
  simp only [skipSpace_gap hgap, skipSpace_cons (c := ']') rfl]

lemma readItems_more {c : Char} (hgap : Gap gap) (hspace : isSpace c = false) (hc : c ≠ ']')
    (h : readTree fuel cs = (t, some (',' :: (gap ++ c :: more)))) :
    readItems (fuel + 1) cs = consItem t (readItems fuel (c :: more)) := by
  rw [readItems, h]
  simp only [skipSpace_gap hgap, skipSpace_cons (c := ',') rfl, skipSpace_cons hspace]
  split
  · next he => cases he
  · next he => exact absurd (List.cons.inj he).1 hc
  · rfl

lemma readFields_last {k : String} {rest : List Char} (hgap : Gap gap)
    (h : readTree fuel cs = (t, some (gap ++ '\x7d' :: rest))) :
    readFields (fuel + 1) (k.toList.flatMap escapeChar ++ '"' :: ':' :: cs) =
      ([(.ok k, t)], .closed, some rest) := by
  rw [readFields, readString_escaped]
  simp only [skipSpace_cons (c := ':') rfl, h, skipSpace_gap hgap, skipSpace_cons (c := '\x7d') rfl]
  simp [Except.map]

lemma readFields_more {k : String} (hgap : Gap gap)
    (h : readTree fuel cs = (t, some (',' :: (gap ++ '"' :: more)))) :
    readFields (fuel + 1) (k.toList.flatMap escapeChar ++ '"' :: ':' :: cs) =
      consField (.ok k) t (readFields fuel more) := by
  rw [readFields, readString_escaped]
  simp only [skipSpace_cons (c := ':') rfl, h, skipSpace_gap hgap, skipSpace_cons (c := ',') rfl,
    skipSpace_cons (c := '"') rfl]
  simp [Except.map]

lemma readTree_list {c : Char} {items : List Tree} {ending : Ending} {rest : Option (List Char)}
    (hgap : Gap gap) (hspace : isSpace c = false) (hc : c ≠ ']')
    (h : readItems fuel (c :: more) = (items, ending, rest)) :
    readTree (fuel + 1) ('[' :: (gap ++ c :: more)) = (.list items ending, rest) := by
  rw [readTree, skipSpace_cons rfl]
  simp only [Char.reduceEq, Char.reduceIsDigit, Bool.false_eq_true, if_false, if_true,
    skipSpace_gap hgap, skipSpace_cons hspace]
  split
  · next he => cases he
  · next he => exact absurd (List.cons.inj he).1 hc
  · simp [h]

lemma readTree_record {fields : List (Except Problem String × Tree)} {ending : Ending}
    {rest : Option (List Char)} (hgap : Gap gap)
    (h : readFields fuel more = (fields, ending, rest)) :
    readTree (fuel + 1) ('\x7b' :: (gap ++ '"' :: more)) = (.record fields ending, rest) := by
  rw [readTree, skipSpace_cons rfl]
  simp [skipSpace_gap hgap, skipSpace_cons (c := '"') rfl, h]

end

/-! Two steps for each character that is left are enough. -/

mutual

/-- A layout of data reads as the data, before whatever does not carry on a number. -/
theorem LaidOut.readTree_eq {d : Data} {cs : List Char} (h : LaidOut d cs) {fuel : Nat}
    {rest : List Char} (hrest : EndsNumber rest)
    (hfuel : 2 * (cs.length + rest.length) + 2 ≤ fuel) :
    readTree fuel (cs ++ rest) = (d.tree, some rest) := by
  obtain ⟨fuel, rfl⟩ : ∃ n, fuel = n + 2 := ⟨fuel - 2, by omega⟩
  cases h with
  | bool b => exact readTree_boolean _ b rest
  | number n => exact readTree_number _ n hrest
  | text s => exact readTree_string _ s rest
  | emptyList | emptyRecord => rfl
  | @list gap cs more d ds hgap first further =>
    simp only [List.length_cons, List.length_append] at hfuel
    simp only [List.cons_append, List.append_assoc]
    have hfirst : readTree fuel (cs ++ (more ++ rest)) = (d.tree, some (more ++ rest)) :=
      first.readTree_eq (further.endsNumber rest) (by rw [List.length_append]; omega)
    have hitems := further.readItems_eq hfirst (by omega)
    obtain ⟨c, cs, rfl, hspace, hc⟩ := first.head
    exact readTree_list hgap hspace hc hitems
  | @record gap gap' cs more k d fs hgap hgap' first further =>
    simp only [List.length_cons, List.length_append] at hfuel
    simp only [List.cons_append, List.append_assoc]
    have hfirst : readTree fuel (cs ++ (more ++ rest)) = (d.tree, some (more ++ rest)) :=
      first.readTree_eq (further.endsNumber rest) (by rw [List.length_append]; omega)
    rw [← readTree_gap hgap'] at hfirst
    have hfields := further.readFields_eq hfirst (by omega)
    rw [string_append]
    exact readTree_record hgap (hfields k)

/-- Behind a first item, the further ones and the end of their list are read. -/
theorem LaidOutItems.readItems_eq {ds : List Data} {tail : List Char} (h : LaidOutItems ds tail)
    {fuel : Nat} {cs rest : List Char} {t : Tree}
    (ht : readTree fuel cs = (t, some (tail ++ rest)))
    (hfuel : 2 * (tail.length + rest.length) + 1 ≤ fuel) :
    readItems (fuel + 1) cs = (t :: Data.itemTrees ds, .closed, some rest) := by
  cases h with
  | nil hgap =>
    rw [List.append_assoc] at ht
    exact readItems_last hgap ht
  | @cons gap cs' more d ds hgap first further =>
    simp only [List.length_cons, List.length_append] at hfuel
    simp only [List.cons_append, List.append_assoc] at ht
    obtain ⟨fuel, rfl⟩ : ∃ n, fuel = n + 1 := ⟨fuel - 1, by omega⟩
    have hfirst : readTree fuel (cs' ++ (more ++ rest)) = (d.tree, some (more ++ rest)) :=
      first.readTree_eq (further.endsNumber rest) (by rw [List.length_append]; omega)
    have hitems := further.readItems_eq hfirst (by omega)
    obtain ⟨c, cs, rfl, hspace, hc⟩ := first.head
    rw [readItems_more hgap hspace hc ht]
    exact congrArg (consItem t) hitems

/-- Behind a first field, the further ones and the end of their record are read. -/
theorem LaidOutFields.readFields_eq {fs : List (String × Data)} {tail : List Char}
    (h : LaidOutFields fs tail) {fuel : Nat} {cs rest : List Char} {t : Tree}
    (ht : readTree fuel cs = (t, some (tail ++ rest)))
    (hfuel : 2 * (tail.length + rest.length) + 1 ≤ fuel) (k : String) :
    readFields (fuel + 1) (k.toList.flatMap escapeChar ++ '"' :: ':' :: cs) =
      ((.ok k, t) :: Data.fieldTrees fs, .closed, some rest) := by
  cases h with
  | nil hgap =>
    rw [List.append_assoc] at ht
    exact readFields_last hgap ht
  | @cons gap gap' cs' more k' d fs hgap hgap' first further =>
    simp only [List.length_cons, List.length_append] at hfuel
    simp only [List.cons_append, List.append_assoc] at ht
    obtain ⟨fuel, rfl⟩ : ∃ n, fuel = n + 1 := ⟨fuel - 1, by omega⟩
    have hfirst : readTree fuel (cs' ++ (more ++ rest)) = (d.tree, some (more ++ rest)) :=
      first.readTree_eq (further.endsNumber rest) (by rw [List.length_append]; omega)
    rw [← readTree_gap hgap'] at hfirst
    have hfields := further.readFields_eq hfirst (by omega) k'
    rw [string_append] at ht
    rw [readFields_more hgap ht]
    exact congrArg (consField (.ok k) t) hfields

end

/-- A text that is a layout of data, but for white space at its end, is read up to that. -/
theorem LaidOut.readText_gap {d : Data} {text gap : List Char} (h : LaidOut d text)
    (hgap : Gap gap) : readText (text ++ gap) = (d.tree, some gap) := by
  have hnil : EndsNumber [] := fun c hc => absurd hc (Option.not_mem_none c)
  have hend : EndsNumber gap := by
    have h := endsNumber_gap hgap hnil
    rwa [List.append_nil] at h
  exact h.readTree_eq hend (Nat.le_of_eq (by rw [List.length_append]))

/-- A text that is nothing but a layout of data is read to its end. -/
theorem LaidOut.readText_eq {d : Data} {text : List Char} (h : LaidOut d text) :
    readText text = (d.tree, some []) := by
  have hread := h.readText_gap gap_nil
  rwa [List.append_nil] at hread

lemma isEnd_gap {gap : List Char} (h : Gap gap) : isEnd gap = true := List.all_eq_true.mpr h

end Json
end GatewayRecipes
