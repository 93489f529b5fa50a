import GatewayRecipes.Output.Outline
import GatewayRecipes.Proofs.Text.Quoted
import GatewayRecipes.Text.Blank

/-! Nothing is lost in an outline. The first word of a line is the name, with a colon behind it
where there are lines below or could be; what stands behind the word tells the sort of value, and
the depth of the next line tells where nested values end. -/
namespace GatewayRecipes
open GatewayRecipes.Text

namespace Text

/-- A text that is one word: it is not empty, and there is no white space in it. -/
def IsWord (text : String) : Prop := text ≠ "" ∧ ∀ c ∈ text.toList, isBlank c = false

instance (text : String) : Decidable (IsWord text) :=
  decidable_of_iff (text ≠ "" ∧ text.toList.all fun c => !isBlank c) (by simp [IsWord])

/-- A text that goes on with white space. -/
def GoesOnBlank (s : List Char) : Prop := ∀ c ∈ s.head?, isBlank c = true

lemma IsWord.append {w : String} (h : IsWord w) {v : String} (hv : IsWord v) :
    IsWord (w ++ v) := by
  refine ⟨?_, fun c hc => ?_⟩
  · simpa [String.append_eq_empty_iff] using fun hw => absurd hw h.1
  · rw [String.toList_append, List.mem_append] at hc
    exact hc.elim (h.2 c) (hv.2 c)

lemma goesOnBlank_cons {c : Char} (h : isBlank c = true) (s : List Char) :
    GoesOnBlank (c :: s) := by
  rintro _ ⟨⟩
  exact h

lemma goesOnBlank_newline (s : List Char) : GoesOnBlank ('\n' :: s) :=
  goesOnBlank_cons (by decide) s

/-- What is told from white space behind it makes a line that is told from anything behind it. -/
lemma Legible.line {α : Type} {P : α → Prop} {write : α → List Char} {a : α}
    (h : Legible P write GoesOnBlank a) :
    Legible P (fun a => write a ++ ['\n']) (fun _ => True) a := by
  intro b hb s t _ _ he
  simp only [List.append_assoc] at he
  obtain ⟨hab, hst⟩ := h hb (goesOnBlank_newline s) (goesOnBlank_newline t) he
  exact ⟨hab, (List.cons.inj hst).2⟩

/-- White space tells where a word ends. -/
lemma IsWord.legible {w : String} (h : IsWord w) : Legible IsWord String.toList GoesOnBlank w := by
  intro v hv s t hs ht he
  obtain ⟨hw, hst⟩ := append_inj_up_to (p := (!isBlank ·)) (by simpa using h.2)
    (by simpa [GoesOnBlank] using hs) (by simpa using hv.2) (by simpa [GoesOnBlank] using ht) he
  exact ⟨String.toList_injective hw, hst⟩

lemma IsWord.exists_cons {w : String} (h : IsWord w) :
    ∃ c rest, w.toList = c :: rest ∧ isBlank c = false := by
  cases hw : w.toList with
  | nil => exact absurd (String.toList_eq_nil_iff.mp hw) h.1
  | cons c rest => exact ⟨c, rest, rfl, h.2 c (hw ▸ List.mem_cons_self)⟩

end Text

lemma RecipeKind.isWord_name (k : RecipeKind) : IsWord k.name := by
  cases k <;> decide

lemma Text.quoted_legible (text : String) :
    Legible (fun _ => True) (fun text => (quoted text).toList) (fun _ => True) text := by
  intro text' _ s t hs ht h
  simp only [quoted, String.toList_ofList] at h
  obtain ⟨htext, hst⟩ := quote_legible text.toList trivial hs ht h
  exact ⟨String.toList_injective htext, hst⟩

lemma Expression.toList_display (e : Expression) :
    e.display.toList = e.word.toList ++ '(' :: ((quoted e.source).toList ++ [')']) := by
  simp [display]

/-- An expression reads like no other one. -/
lemma Expression.legible_display (e : Expression) :
    Legible (fun _ => True) (fun e => e.display.toList) (fun _ => True) e := by
  intro e' _ s t _ _ h
  -- The words before the bracket differ in their first letter.
  rcases e with a | a <;> rcases e' with b | b <;>
  simp [toList_display, word, source] at h
  all_goals
    obtain ⟨rfl, hst⟩ := quoted_legible a trivial trivial trivial h
    exact ⟨rfl, (List.cons.inj hst).2⟩

namespace PropertyValue

/-- All names in a value, those of properties, entries and components, are words. -/
inductive Plain : PropertyValue → Prop
  | value (text : String) : Plain (.value text)
  | reference {target : String} (h : IsWord target) : Plain (.reference target)
  | expression (e : Expression) : Plain (.expression e)
  | recipe {r : Recipe} (names : ∀ e ∈ r.properties, IsWord e.1)
      (values : ∀ e ∈ r.properties, Plain e.2) : Plain (.recipe r)
  | map {entries : List (String × PropertyValue)} (names : ∀ e ∈ entries, IsWord e.1)
      (values : ∀ e ∈ entries, Plain e.2) : Plain (.map entries)

end PropertyValue

namespace Output
open PropertyValue

/-- A property or an entry in which all names are words. -/
def PlainEntry (e : String × PropertyValue) : Prop := IsWord e.1 ∧ e.2.Plain

/-! Depth. -/

/-- A text that does not begin as a line at a depth does, nor deeper. -/
def Shallow (depth : Nat) (s : List Char) : Prop := ¬ indentation depth <+: s

lemma indentation_succ (depth : Nat) :
    indentation (depth + 1) = indentation depth ++ [' ', ' '] :=
  (List.replicate_append_replicate (n := 2 * depth) (m := 2)).symm

lemma Shallow.succ {depth : Nat} {s : List Char} (h : Shallow depth s) : Shallow (depth + 1) s :=
  fun hp => h ((indentation_succ depth ▸ List.prefix_append _ _).trans hp)

lemma shallow_word {w : String} (h : IsWord w) (depth : Nat) (s : List Char) :
    Shallow (depth + 1) (indentation depth ++ (w.toList ++ s)) := by
  obtain ⟨c, rest, hw, hc⟩ := h.exists_cons
  rw [Shallow, indentation_succ, List.prefix_append_right_inj, hw, List.cons_append,
    List.cons_prefix_cons]
  rintro ⟨rfl, -⟩
  exact absurd hc (by decide)

/-! Lines. -/

def outlineWord (name : String) : PropertyValue → String
  | .value _ | .reference _ | .expression _ => name
  | .recipe _ | .map _ => name ++ ":"

def behindWord (depth : Nat) : PropertyValue → List Char
  | .value text => ' ' :: '=' :: ' ' :: (quote text.toList ++ ['\n'])
  | .reference target => ' ' :: '-' :: '>' :: ' ' :: (target.toList ++ ['\n'])
  | .expression e => ' ' :: '=' :: ' ' :: (e.display.toList ++ ['\n'])
  | .recipe r => ' ' :: (r.kind.name.toList ++ '\n' :: outlineRecipe false (depth + 1) r)
  | .map [] => [' ', '\x7b', '\x7d', '\n']
  | .map (e :: rest) => '\n' :: outlineEntries false (depth + 1) (e :: rest)

lemma outlineProperty_eq (depth : Nat) (name : String) (v : PropertyValue) :
    outlineProperty false depth name v =
      indentation depth ++ ((outlineWord name v).toList ++ behindWord depth v) := by
  unfold outlineProperty
  split <;> simp [outlineWord, behindWord, paint]

lemma outlineRecipe_eq (depth : Nat) (r : Recipe) :
    outlineRecipe false depth r = outlineEntries false depth r.properties := by
  cases r
  rw [outlineRecipe]

lemma outlineEntries_eq_flatMap (depth : Nat) (entries : List (String × PropertyValue)) :
    outlineEntries false depth entries =
      entries.flatMap fun e => outlineProperty false depth e.1 e.2 := by
  induction entries with
  | nil => rw [outlineEntries, List.flatMap_nil]
  | cons e rest ih => rw [outlineEntries, List.flatMap_cons, ih]

lemma isWord_outlineWord {name : String} (h : IsWord name) (v : PropertyValue) :
    IsWord (outlineWord name v) := by
  cases v
  case recipe | map => exact h.append (by decide)
  all_goals exact h

/-- What a line says about the sort of its value. -/
inductive Mark
  | value
  | reference
  | expression
  | recipe
  | map
  deriving DecidableEq

def mark : PropertyValue → Mark
  | .value _ => .value
  | .reference _ => .reference
  | .expression _ => .expression
  | .recipe _ => .recipe
  | .map _ => .map

def mark? : List Char → Option Mark
  | ' ' :: '=' :: ' ' :: '"' :: _ => some .value
  | ' ' :: '-' :: _ => some .reference
  | ' ' :: '=' :: _ => some .expression
  | ' ' :: '\x7b' :: _ => some .map
  | ' ' :: _ => some .recipe
  | '\n' :: _ => some .map
  | _ => none

lemma mark?_behindWord (depth : Nat) (v : PropertyValue) (s : List Char) :
    mark? (behindWord depth v ++ s) = some (mark v) := by
  rcases v with text | target | (source | source) | ⟨_ | _, _⟩ | (_ | ⟨e, rest⟩)
  case expression.literal | expression.computed =>
    simp [behindWord, Expression.toList_display, Expression.word, mark?, mark]
  case recipe.gatewayProxyFactory | recipe.gatewayMethodMetadata =>
    simp [behindWord, RecipeKind.name, mark?, mark]
  all_goals rfl

/-- No line imitates one of another sort. -/
lemma mark_eq {depth : Nat} {v v' : PropertyValue} {s t : List Char}
    (h : behindWord depth v ++ s = behindWord depth v' ++ t) : mark v = mark v' := by
  have hmark := congrArg mark? h
  rwa [mark?_behindWord, mark?_behindWord, Option.some.injEq] at hmark

lemma goesOnBlank_behindWord (depth : Nat) (v : PropertyValue) (s : List Char) :
    GoesOnBlank (behindWord depth v ++ s) := by
  have hblank : isBlank ' ' = true ∧ isBlank '\n' = true := by decide
  rcases v with text | target | e | r | (_ | ⟨e, rest⟩) <;> simp [GoesOnBlank, behindWord, hblank]

/-! Entries. -/

/-- Lines at a depth, in front of a line that is not as deep. -/
lemma pieces_entries (depth : Nat) :
    Text.Pieces PlainEntry (fun e => outlineProperty false depth e.1 e.2) (Shallow depth)
      (Shallow (depth + 1)) where
  not_ends _ s h := by
    rw [outlineProperty_eq, List.append_assoc] at h
    exact h (List.prefix_append _ _)
  next_of_ends h := h.succ
  next_write {e} he s := by
    rw [outlineProperty_eq, List.append_assoc, List.append_assoc]
    exact shallow_word (isWord_outlineWord he.1 e.2) depth _

/-- The lines of a property tell it from all others if what stands behind the word does. -/
lemma legible_entry {depth : Nat} {e : String × PropertyValue} (he : PlainEntry e)
    (hv : Legible Plain (behindWord depth) (Shallow (depth + 1)) e.2) :
    Legible PlainEntry (fun e => outlineProperty false depth e.1 e.2) (Shallow (depth + 1)) e := by
  obtain ⟨name, v⟩ := e
  rintro ⟨name', v'⟩ he' s t hs ht h
  simp only [outlineProperty_eq, List.append_assoc, List.append_cancel_left_eq] at h
  obtain ⟨hword, hbehind⟩ := (isWord_outlineWord he.1 v).legible (isWord_outlineWord he'.1 v')
    (goesOnBlank_behindWord depth v s) (goesOnBlank_behindWord depth v' t) h
  obtain ⟨rfl, hst⟩ := hv he'.2 hs ht hbehind
  refine ⟨?_, hst⟩
  have hname : name = name' := by
    cases v
    case recipe | map => simpa [outlineWord] using hword
    all_goals exact hword
  rw [hname]

lemma legible_entries {depth : Nat} {entries : List (String × PropertyValue)}
    (he : ∀ e ∈ entries, PlainEntry e)
    (hv : ∀ e ∈ entries, Legible Plain (behindWord depth) (Shallow (depth + 1)) e.2) :
    Legible (fun entries => ∀ e ∈ entries, PlainEntry e) (outlineEntries false depth)
      (Shallow depth) entries := by
  intro entries' he' s t hs ht h
  rw [outlineEntries_eq_flatMap, outlineEntries_eq_flatMap] at h
  exact (pieces_entries depth).legible he (fun e hm => legible_entry (he e hm) (hv e hm))
    he' hs ht h

/-! Values, by what they are. -/

lemma legible_value (depth : Nat) (text : String) :
    Legible Plain (behindWord depth) (Shallow (depth + 1)) (.value text) := by
  intro v' hv' s t _ _ h
  have hmark := mark_eq h
  cases hv' with
  | value text' =>
    have hline : quote text.toList ++ ['\n'] ++ s = quote text'.toList ++ ['\n'] ++ t := by
      simpa [behindWord] using h
    obtain ⟨htext, hst⟩ := (quote_legible text.toList).restrict.line trivial trivial trivial hline
    exact ⟨congrArg _ (String.toList_injective htext), hst⟩
  | _ => cases hmark

lemma legible_reference (depth : Nat) {target : String} (hw : IsWord target) :
    Legible Plain (behindWord depth) (Shallow (depth + 1)) (.reference target) := by
  intro v' hv' s t _ _ h
  have hmark := mark_eq h
  cases hv' with
  | @reference target' hw' =>
    have hline : target.toList ++ ['\n'] ++ s = target'.toList ++ ['\n'] ++ t := by
      simpa [behindWord] using h
    obtain ⟨rfl, hst⟩ := hw.legible.line hw' trivial trivial hline
    exact ⟨rfl, hst⟩
  | _ => cases hmark

lemma legible_expression (depth : Nat) (e : Expression) :
    Legible Plain (behindWord depth) (Shallow (depth + 1)) (.expression e) := by
  intro v' hv' s t _ _ h
  have hmark := mark_eq h
  cases hv' with
  | expression e' =>
    have hline : e.display.toList ++ ['\n'] ++ s = e'.display.toList ++ ['\n'] ++ t := by
      simpa [behindWord] using h
    obtain ⟨rfl, hst⟩ := e.legible_display.restrict.line trivial trivial trivial hline
    exact ⟨rfl, hst⟩
  | _ => cases hmark

lemma legible_recipe {depth : Nat} {r : Recipe} (he : ∀ e ∈ r.properties, PlainEntry e)
    (hv : ∀ e ∈ r.properties, Legible Plain (behindWord (depth + 1)) (Shallow (depth + 2)) e.2) :
    Legible Plain (behindWord depth) (Shallow (depth + 1)) (.recipe r) := by
  intro v' hv' s t hs ht h
  have hmark := mark_eq h
  cases hv' with
  | @recipe r' names' values' =>
    obtain ⟨kind, properties⟩ := r
    obtain ⟨kind', properties'⟩ := r'
    have hlines : kind.name.toList ++ ['\n'] ++ (outlineEntries false (depth + 1) properties ++ s) =
        kind'.name.toList ++ ['\n'] ++ (outlineEntries false (depth + 1) properties' ++ t) := by
      simpa [behindWord, outlineRecipe] using h
    obtain ⟨hkind, hbelow⟩ :=
      kind.isWord_name.legible.line kind'.isWord_name trivial trivial hlines
    obtain ⟨rfl, hst⟩ :=
      legible_entries he hv (fun e he => ⟨names' e he, values' e he⟩) hs ht hbelow
    rw [RecipeKind.name_injective hkind]
    exact ⟨rfl, hst⟩
  | _ => cases hmark

lemma legible_map {depth : Nat} {entries : List (String × PropertyValue)}
    (he : ∀ e ∈ entries, PlainEntry e)
    (hv : ∀ e ∈ entries, Legible Plain (behindWord (depth + 1)) (Shallow (depth + 2)) e.2) :
    Legible Plain (behindWord depth) (Shallow (depth + 1)) (.map entries) := by
  intro v' hv' s t hs ht h
  have hmark := mark_eq h
  cases hv' with
  | @map entries' names' values' =>
    -- An empty map ends on the line itself, and no other one does.
    rcases entries with _ | ⟨e, rest⟩ <;> rcases entries' with _ | ⟨e', rest'⟩
    · exact ⟨rfl, by simpa [behindWord] using h⟩
    · exact absurd (List.cons.inj h).1 (by decide)
    · exact absurd (List.cons.inj h).1 (by decide)
    · obtain ⟨hentries, hst⟩ := legible_entries he hv
        (fun e he => ⟨names' e he, values' e he⟩) hs ht (List.cons.inj h).2
      exact ⟨congrArg _ hentries, hst⟩
  | _ => cases hmark

/-- What stands behind a word tells the value. -/
theorem legible_behindWord {v : PropertyValue} (hv : v.Plain) (depth : Nat) :
    Legible Plain (behindWord depth) (Shallow (depth + 1)) v := by
  induction hv generalizing depth with
  | value text => exact legible_value depth text
  | reference hw => exact legible_reference depth hw
  | expression e => exact legible_expression depth e
  | recipe names values ih =>
    exact legible_recipe (fun e he => ⟨names e he, values e he⟩) fun e he => ih e he (depth + 1)
  | map names values ih =>
    exact legible_map (fun e he => ⟨names e he, values e he⟩) fun e he => ih e he (depth + 1)

/-! Definitions. -/

/-- A definition in which all names are words. -/
def PlainDefinition (d : String × Recipe) : Prop :=
  IsWord d.1 ∧ ∀ e ∈ d.2.properties, PlainEntry e

lemma outlineDefinition_eq (name : String) (r : Recipe) :
    outlineDefinition false name r =
      name.toList ++ ' ' :: '(' :: ((r.kind.name ++ ")").toList ++
        '\n' :: outlineEntries false 1 r.properties) := by
  simp [outlineDefinition, outlineRecipe_eq, paint]

lemma pieces_definitions :
    Text.Pieces PlainDefinition (fun d => outlineDefinition false d.1 d.2) (· = [])
      (Shallow 1) where
  not_ends {d} _ s := by simp [outlineDefinition_eq]
  next_of_ends := by
    rintro _ rfl
    simp [Shallow, indentation]
  next_write {d} hd s := by
    rw [outlineDefinition_eq, List.append_assoc]
    exact shallow_word hd.1 0 _

/-- The block of a component tells its definition from all others. -/
lemma legible_definition {d : String × Recipe} (hd : PlainDefinition d) :
    Legible PlainDefinition (fun d => outlineDefinition false d.1 d.2) (Shallow 1) d := by
  obtain ⟨name, kind, properties⟩ := d
  rintro ⟨name', kind', properties'⟩ hd' s t hs ht h
  simp only [outlineDefinition_eq, List.append_assoc, List.cons_append] at h
  obtain ⟨rfl, hhead⟩ := hd.1.legible hd'.1 (goesOnBlank_cons (by decide) _)
    (goesOnBlank_cons (by decide) _) h
  obtain ⟨hkind, hbelow⟩ := (kind.isWord_name.append (by decide)).legible
    (kind'.isWord_name.append (by decide)) (goesOnBlank_newline _) (goesOnBlank_newline _)
    (List.cons.inj (List.cons.inj hhead).2).2
  obtain ⟨rfl, hst⟩ := legible_entries hd.2 (fun e he => legible_behindWord (hd.2 e he).2 1)
    hd'.2 hs ht (List.cons.inj hbelow).2
  obtain rfl : kind = kind' := RecipeKind.name_injective (by simpa using hkind)
  exact ⟨rfl, hst⟩

/-- Nothing is lost in the outline of definitions in which all names are words: no other such
definitions have it, not even the same ones in another order. -/
theorem outline_eq_iff {definitions definitions' : Table Recipe}
    (h : ∀ d ∈ definitions, PlainDefinition d) (h' : ∀ d ∈ definitions', PlainDefinition d) :
    outline false definitions = outline false definitions' ↔ definitions = definitions' := by
  refine ⟨fun ho => ?_, congrArg _⟩
  have hlines := congrArg String.toList ho
  rw [outline, outline, String.toList_ofList, String.toList_ofList,
    ← List.append_nil (List.flatMap ..), ← List.append_nil (List.flatMap _ definitions')] at hlines
  exact (pieces_definitions.legible h (fun d hd => legible_definition (h d hd)) h' rfl rfl
    hlines).1

def misleadingMetadata : PropertyValue :=
  .recipe ⟨.gatewayMethodMetadata, [("payload", .value "x\"\n  mapper: \x7b\x7d")]⟩

/-- A component with a name that ends in a colon, and with an empty map at the end. -/
def nestedDefinitions : Table Recipe :=
  [("orders", ⟨.gatewayProxyFactory,
    [("methods", .map [("get:", misleadingMetadata)]), ("mapper", .map [])]⟩)]

/-- The same, but with the empty map among the methods. -/
def deeperDefinitions : Table Recipe :=
  [("orders", ⟨.gatewayProxyFactory,
    [("methods", .map [("get:", misleadingMetadata), ("mapper", .map [])])]⟩)]

theorem outline_eq_iff_nested :
    (∀ d ∈ nestedDefinitions, PlainDefinition d) ∧
      (∀ d ∈ deeperDefinitions, PlainDefinition d) ∧
      outline false nestedDefinitions ≠ outline false deeperDefinitions := by
  have hmetadata : misleadingMetadata.Plain := .recipe (by decide) (by simp [Plain.value])
  have hempty : Plain (.map []) := .map (by simp) (by simp)
  have hnested : ∀ d ∈ nestedDefinitions, PlainDefinition d := by
    have hmethods : Plain (.map [("get:", misleadingMetadata)]) :=
      .map (by decide) (by simpa using hmetadata)
    refine List.forall_mem_singleton.mpr ⟨by decide, List.forall_mem_cons.mpr ⟨?_, ?_⟩⟩
    · exact ⟨by decide, hmethods⟩
    · exact List.forall_mem_singleton.mpr ⟨by decide, hempty⟩
  have hdeeper : ∀ d ∈ deeperDefinitions, PlainDefinition d := by
    have hmethods : Plain (.map [("get:", misleadingMetadata), ("mapper", .map [])]) :=
      .map (by decide) (by simpa using ⟨hmetadata, hempty⟩)
    refine List.forall_mem_singleton.mpr ⟨by decide, List.forall_mem_singleton.mpr ?_⟩
    exact ⟨by decide, hmethods⟩
  refine ⟨hnested, hdeeper, fun h => ?_⟩
  have hsame := (outline_eq_iff hnested hdeeper).mp h
  simp [nestedDefinitions, deeperDefinitions] at hsame

end Output
end GatewayRecipes
