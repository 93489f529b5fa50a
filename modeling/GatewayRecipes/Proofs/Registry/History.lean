import GatewayRecipes.Proofs.Registry.Fold

/-! Registries over any number of loads. Loads that fail leave no trace in the definitions, and all
others only append to them. -/
namespace GatewayRecipes

/-- A request to load definitions: from a tree, from the text of a document, or from a file. -/
inductive LoadCall
  | element (root : Element)
  | document (text : String)
  | file (read : FileReader) (path : String)

namespace LoadCall

def run (r : Registry) : LoadCall → Traced Report (Registry × Nat)
  | element root => r.load root
  | document text => r.loadDocument text
  | file read path => r.loadFile read path

/-- The tree that a call loads, if the file and the document can be read. -/
def root? : LoadCall → Option Element
  | element root => some root
  | document text => (Markup.parseDocument text).toOption
  | file read path =>
    (read path).toOption.bind fun content => (Markup.parseBytes content).toOption

/-- In any registry alike, a call fails before it loads anything, and not for a name in use, or it
loads its tree and only adds steps to the report of an error. -/
lemma run_cases (call : LoadCall) :
    (call.root? = none ∧ ∃ report, (∀ name, report.cause ≠ .duplicateComponent name) ∧
      ∀ r, call.run r = Traced.fail report) ∨
      ∃ root steps, call.root? = some root ∧
        ∀ r, call.run r =
          (r.load root).mapError fun report => ⟨steps ++ report.steps, report.cause⟩ := by
  cases call with
  | element root => exact .inr ⟨root, [], rfl, fun r => (Traced.mapError_id _).symm⟩
  | document text =>
    simp only [root?, run, Registry.loadDocument]
    cases Markup.parseDocument text with
    | error cause => exact .inl ⟨rfl, _, fun _ => by simp, fun r => rfl⟩
    | ok root => exact .inr ⟨root, [], rfl, fun r => (Traced.mapError_id _).symm⟩
  | file read path =>
    simp only [root?, run, Registry.loadFile]
    cases read path with
    | error cause => exact .inl ⟨rfl, _, fun _ => by simp, fun r => rfl⟩
    | ok content =>
      simp only [Except.toOption, Option.bind_some]
      cases Markup.parseBytes content with
      | error cause => exact .inl ⟨rfl, _, fun _ => by simp, fun r => rfl⟩
      | ok root => exact .inr ⟨root, ["loading " ++ path], rfl, fun r => rfl⟩

/-- The number of definitions that a call reports, none if it fails. -/
def count (r : Registry) (call : LoadCall) : Nat :=
  match (call.run r).result with
  | .ok (_, n) => n
  | .error _ => 0

end LoadCall

namespace Registry

/-- A registry with parsers added one after the other, in which nothing is loaded. -/
def built (parsers : List DefinitionParser) : Registry := parsers.foldl withParser empty

def afterAll (r : Registry) : List LoadCall → Registry
  | [] => r
  | call :: rest => (r.after (call.run r)).afterAll rest

def totalCount (r : Registry) : List LoadCall → Nat
  | [] => 0
  | call :: rest => call.count r + (r.after (call.run r)).totalCount rest

lemma definitions_built (parsers : List DefinitionParser) : (built parsers).definitions = [] := by
  suffices h : ∀ r : Registry, (parsers.foldl withParser r).definitions = r.definitions from h empty
  induction parsers with
  | nil => exact fun r => rfl
  | cons p rest ih => exact fun r => ih (r.withParser p)

/-- Whatever is loaded and however, a call that does not fail loads its tree. -/
lemma exists_root_of_run {r loaded : Registry} {call : LoadCall} {n : Nat}
    (h : (call.run r).result = .ok (loaded, n)) :
    ∃ root, call.root? = some root ∧ (r.load root).result = .ok (loaded, n) := by
  obtain ⟨-, report, -, hfail⟩ | ⟨root, steps, hroot, hload⟩ := call.run_cases
  · rw [hfail] at h
    cases h
  · refine ⟨root, hroot, ?_⟩
    rw [hload, Traced.result_mapError] at h
    cases hl : (r.load root).result with
    | error report => rw [hl] at h; cases h
    | ok outcome => rwa [hl] at h

lemma exists_load_of_run {r loaded : Registry} {call : LoadCall} {n : Nat}
    (h : (call.run r).result = .ok (loaded, n)) :
    ∃ root, (r.load root).result = .ok (loaded, n) :=
  (exists_root_of_run h).imp fun _ hload => hload.2

lemma after_of_error {r : Registry} {outcome : Traced Report (Registry × Nat)} {report : Report}
    (h : outcome.result = .error report) : r.after outcome = r := by
  rw [after, h]

lemma after_of_ok {r loaded : Registry} {outcome : Traced Report (Registry × Nat)} {n : Nat}
    (h : outcome.result = .ok (loaded, n)) : r.after outcome = loaded := by
  rw [after, h]

/-- A call appends as many definitions as it reports, all with new names. -/
theorem after_run (r : Registry) (call : LoadCall) :
    ∃ added, r.definitions.Fresh added ∧ added.length = call.count r ∧
      r.after (call.run r) = { r with definitions := r.definitions ++ added } := by
  cases h : (call.run r).result with
  | error report =>
    refine ⟨[], Table.fresh_nil _, by rw [LoadCall.count, h]; rfl, ?_⟩
    rw [after_of_error h, List.append_nil]
  | ok outcome =>
    obtain ⟨loaded, n⟩ := outcome
    obtain ⟨root, hl⟩ := exists_load_of_run h
    obtain ⟨added, -, hf, rfl, rfl⟩ := load_cases hl
    exact ⟨added, hf, by rw [LoadCall.count, h], after_of_ok h⟩

/-- Calls append as many definitions as they report together, all with new names. -/
theorem afterAll_eq_append (r : Registry) (calls : List LoadCall) :
    ∃ added, r.definitions.Fresh added ∧ added.length = r.totalCount calls ∧
      r.afterAll calls = { r with definitions := r.definitions ++ added } := by
  induction calls generalizing r with
  | nil => exact ⟨[], Table.fresh_nil _, rfl, by rw [afterAll, List.append_nil]⟩
  | cons call rest ih =>
    obtain ⟨first, hf, hn, hr⟩ := r.after_run call
    obtain ⟨others, ho, hm, hs⟩ := ih (r.after (call.run r))
    -- Names that are new after the first call are new before it and not among those it added.
    rw [hr] at ho hs
    refine ⟨first ++ others, hf.append ho, ?_, ?_⟩
    · rw [List.length_append, totalCount, hn, hm]
    · rw [afterAll, hr, hs, List.append_assoc]

/-- What is registered stays so. -/
lemma get?_afterAll {r : Registry} {name : String} {recipe : Recipe}
    (h : r.get? name = some recipe) (calls : List LoadCall) :
    (r.afterAll calls).get? name = some recipe := by
  obtain ⟨added, -, -, hr⟩ := r.afterAll_eq_append calls
  rw [get?] at h
  rw [hr, get?, Table.get?_append, h, Option.some_or]

/-- After any calls on a new registry, names are distinct and the size is the sum of the numbers
that were reported. The next call leaves the definitions alone if it fails, and otherwise appends
as many as it reports. What is registered once is found again after all further calls. -/
theorem loads_append (parsers : List DefinitionParser) (calls : List LoadCall) :
    let r := (built parsers).afterAll calls
    r.names.Nodup ∧ r.size = (built parsers).totalCount calls ∧
    (∀ (call : LoadCall) report, (call.run r).result = .error report →
      r.after (call.run r) = r) ∧
    (∀ (call : LoadCall) loaded n, (call.run r).result = .ok (loaded, n) →
      ∃ added, added.length = n ∧ r.definitions.Fresh added ∧
        r.after (call.run r) = { r with definitions := r.definitions ++ added }) ∧
    ∀ name recipe, r.get? name = some recipe →
      ∀ more, (r.afterAll more).get? name = some recipe := by
  intro r
  obtain ⟨all, hf, hn, hr⟩ := (built parsers).afterAll_eq_append calls
  have hd : r.definitions = all := by
    change ((built parsers).afterAll calls).definitions = all
    rw [hr, definitions_built, List.nil_append]
  refine ⟨?_, ?_, ?_, ?_, ?_⟩
  · rw [names, hd]
    exact hf.nodup
  · rw [size, hd, hn]
  · intro call report h
    exact after_of_error h
  · intro call loaded n h
    obtain ⟨added, ha, hc, hs⟩ := r.after_run call
    refine ⟨added, ?_, ha, hs⟩
    rw [hc, LoadCall.count, h]
  · intro name recipe h more
    exact get?_afterAll h more

end Registry
end GatewayRecipes
