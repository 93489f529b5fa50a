import GatewayRecipes.CommandLine.Commands
import GatewayRecipes.Proofs.Gateway.Nesting
import GatewayRecipes.Proofs.Registry.History

/-! Definitions that are printed as JSON, and a reader for such texts. What is loaded into a new
registry is read back from what is printed of it, however many definitions there are. -/
namespace GatewayRecipes
open Output

namespace Decode
open Json

/-- Read a definition with some levels of nesting left: a record of a name and a recipe. -/
def definition : (levels : Nat) → Tree → Decoded (String × Recipe)
  | levels + 1, .record fields ending =>
    structFields ("name", "recipe") text (recipe .direct levels) ending none none fields
  | 0, t => .error (atLimit t)
  | _ + 1, .keyless _ p => .error (ofProblem p)
  | _ + 1, t => .error (wrongSort t)

/-- Read a list of definitions with some levels of nesting left. -/
def definitions : (levels : Nat) → Tree → Decoded (List (String × Recipe))
  | levels + 1, .list items ending => do
    let ds ← items.mapM (definition levels)
    refuse ending.readProblem
    return ds
  | 0, t => .error (atLimit t)
  | _ + 1, t => .error (wrongSort t)

end Decode

/-- Read definitions from a JSON text, in the order in which they stand there. -/
def definitionsOfJson? (json : String) : Except DecodeError (List (String × Recipe)) :=
  let (tree, rest) := Json.readText json.toList
  match Decode.definitions Decode.maxLevels tree with
  | .error e => .error e
  | .ok ds => if rest.any Json.isEnd then .ok ds else .error .malformed

namespace Decode
open Json Output.Data

def definitionData (d : String × Recipe) : Data :=
  .record [("name", .text d.1), ("recipe", d.2.data)]

lemma definition_tree {levels : Nat} {d : String × Recipe} (h : d.2.Distinct)
    (hn : d.2.data.nesting ≤ levels) : definition (levels + 1) (definitionData d).tree = .ok d := by
  have hname : text (.text (.ok d.1)) = .ok d.1 := rfl
  exact structFields_written ("name", "recipe") (by decide) hname (recipe_tree .direct h hn)

lemma mapM_definition {levels : Nat} {ds : List (String × Recipe)}
    (h : ∀ d ∈ ds, d.2.Distinct ∧ d.2.data.nesting ≤ levels) :
    (itemTrees (ds.map definitionData)).mapM (definition (levels + 1)) = .ok ds := by
  induction ds with
  | nil => rfl
  | cons d rest ih =>
    obtain ⟨⟨hd, hn⟩, hrest⟩ := List.forall_mem_cons.mp h
    rw [List.map_cons, itemTrees, List.mapM_cons, definition_tree hd hn, ih hrest]
    rfl

lemma definitions_tree {levels : Nat} {ds : List (String × Recipe)}
    (h : ∀ d ∈ ds, d.2.Distinct ∧ d.2.data.nesting ≤ levels) :
    definitions (levels + 2) (definitionsData ds).tree = .ok ds := by
  have hitems := mapM_definition h
  rw [definitionsData, tree, definitions]
  exact congrArg (· >>= _) hitems

end Decode

/-- However a list of definitions is laid out, and with whatever white space behind it, it is read
back. -/
theorem definitionsOfJson?_of_laidOut {ds : List (String × Recipe)} {text gap : List Char}
    (h : ∀ d ∈ ds, d.2.Distinct ∧ d.2.data.nesting ≤ 125)
    (htext : Json.LaidOut (definitionsData ds) text) (hgap : Json.Gap gap) :
    definitionsOfJson? (String.ofList (text ++ gap)) = .ok ds := by
  have htree : Decode.definitions Decode.maxLevels (definitionsData ds).tree = .ok ds :=
    Decode.definitions_tree h
  rw [definitionsOfJson?, String.toList_ofList, htext.readText_gap hgap]
  simp [htree, Json.isEnd_gap hgap]

namespace Registry
open CommandLine (printDefinitions translate)

/-- All that is loaded into a new registry comes from gateways. -/
lemma readable_of_run {call : LoadCall} {r : Registry} {n : Nat}
    (h : (call.run standard).result = .ok (r, n)) :
    r.definitions.length = n ∧ ∀ d ∈ r.definitions, d.2.Distinct ∧ d.2.data.nesting ≤ 11 := by
  obtain ⟨root, hload⟩ := exists_load_of_run h
  obtain ⟨staged, hstaged, -, rfl, rfl⟩ := load_cases hload
  refine ⟨rfl, ?_⟩
  refine forall_of_register (P := fun recipe => recipe.Distinct ∧ recipe.data.nesting ≤ 11) ?_
    hstaged
  intro p hp e mode recipe hrecipe
  obtain rfl : p = .gateway := List.mem_singleton.mp hp
  exact Gateway.readable_of_translate hrecipe

/-- What is loaded into a new registry is printed as JSON from which the same definitions are read
back, in the same order and under the same names, with the line end behind the text or without it.
Each recipe can also be read by itself. No bound on the depth of recipes is asked for. -/
theorem printed_definitions_read_back (call : LoadCall) (r : Registry) (n : Nat)
    (loaded : (call.run standard).result = .ok (r, n)) :
    ∃ text, Format.json.structured? (definitionsData r.definitions) = some text ∧
      Json.LaidOut (definitionsData r.definitions) text.toList ∧
      definitionsOfJson? text = .ok r.definitions ∧ r.definitions.length = n ∧
      (∀ d ∈ r.definitions, ∀ depth,
        Recipe.ofJson? (String.ofList (Json.pretty depth d.2.data)) = .ok d.2) ∧
      (∀ colour, printDefinitions colour .json r.definitions = text ++ "\n") ∧
      definitionsOfJson? (text ++ "\n") = .ok r.definitions ∧
      ∀ read file, call = .file read file → ∀ colour,
        (translate colour .json read file).code = 0 ∧
          (translate colour .json read file).output = text ++ "\n" := by
  obtain ⟨hlength, hreadable⟩ := readable_of_run loaded
  have hlevels : ∀ d ∈ r.definitions, d.2.Distinct ∧ d.2.data.nesting ≤ 125 := fun d hd =>
    ⟨(hreadable d hd).1, (hreadable d hd).2.trans (by decide)⟩
  have htext := Json.laidOut_pretty 0 (definitionsData r.definitions)
  have hnewline : Json.Gap ['\n'] := List.forall_mem_singleton.mpr rfl
  refine ⟨String.ofList (Json.pretty 0 (definitionsData r.definitions)), rfl, ?_, ?_, hlength, ?_,
    fun colour => rfl, ?_, ?_⟩
  · rwa [String.toList_ofList]
  · have hread := definitionsOfJson?_of_laidOut hlevels htext Json.gap_nil
    rwa [List.append_nil] at hread
  · intro d hd depth
    obtain ⟨hdistinct, hnesting⟩ := hreadable d hd
    apply Recipe.ofJson?_of_laidOut hdistinct (by omega)
    rw [String.toList_ofList]
    exact Json.laidOut_pretty depth d.2.data
  · have hread := definitionsOfJson?_of_laidOut hlevels htext hnewline
    rwa [String.ofList_append] at hread
  · rintro read file rfl colour
    have hload : (CommandLine.loadDefinitions read file).result = .ok (r, n) := loaded
    rw [CommandLine.translate, hload]
    exact ⟨rfl, rfl⟩

/-- A gateway as deep as they go, with a text that needs escapes, and one without anything. -/
def deepDocument : String :=
  "<a><gateway id='\"&#10;'><method name='m'><header name='é' value='v'/></method></gateway>" ++
    "<gateway/></a>"

def deepRoot : Element :=
  ⟨"a", [],
    [⟨"gateway", [("id", "\"\n")],
      [⟨"method", [("name", "m")], [⟨"header", [("name", "é"), ("value", "v")], []⟩]⟩]⟩,
      ⟨"gateway", [], []⟩]⟩

theorem printed_definitions_read_back_deep :
    ∃ r, ((LoadCall.document deepDocument).run standard).result = .ok (r, 2) ∧
      r.names = ["\"\n", "gateway-proxy-factory#0"] ∧
      ∃ text, Format.json.structured? (definitionsData r.definitions) = some text ∧
        definitionsOfJson? text = .ok r.definitions := by
  have hparse : Markup.parseDocument deepDocument = .ok deepRoot := by cbv
  have hrun : (LoadCall.document deepDocument).run standard = standard.load deepRoot := by
    rw [LoadCall.run, loadDocument, hparse]
  have loaded : ((LoadCall.document deepDocument).run standard).result =
      .ok (standard.after (standard.load deepRoot), 2) := by
    rw [hrun]
    rfl
  obtain ⟨text, htext, -, hread, -⟩ := printed_definitions_read_back _ _ 2 loaded
  exact ⟨_, loaded, rfl, text, htext, hread⟩

end Registry
end GatewayRecipes
