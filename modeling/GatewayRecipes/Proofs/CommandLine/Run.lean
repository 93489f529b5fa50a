import GatewayRecipes.CommandLine.Run
import Mathlib.Tactic.Lemma

/-! What a run leaves behind once its command line is understood and its settings are loaded. -/
namespace GatewayRecipes.CommandLine
open Registry (standard)

def Validation.print (colour : Bool) (format : Output.Format) (v : Validation) : String :=
  match format.structured? v.data with
  | some text => text ++ "\n"
  | none => unlines (v.lines colour)

/-- A context whose command line is understood and whose settings load, under some choices. -/
structure Context.Starts (c : Context) (choices : Choices) (a : Arguments) (s : Settings) :
    Prop where
  parsed : parse c.environment c.arguments = .ok a
  loaded : Settings.load c.environment c.read a.config choices.order = .ok s

section
variable {c : Context} {choices : Choices} {a : Arguments} {s : Settings} {file : String}

lemma run_of_starts (h : c.Starts choices a s) :
    run c choices =
      let outcome := a.command.run c.colour (outputFormat a s) c.read
      let log := outcome.log.filter (logFilter a s).shows
      { outcome with error := outcome.error.map (errorText · [] (c.trace choices)), log := log } := by
  simp only [run, h.parsed, h.loaded]

lemma run_validating (h : c.Starts choices a s) (hcommand : a.command = .validate file) :
    let verdict := Validation.ofResult file (standard.loadFile c.read file).result
    (run c choices).code = (if verdict.valid then 0 else 1) ∧
      (run c choices).output = verdict.print c.colour (outputFormat a s) := by
  rw [run_of_starts h, hcommand]
  exact ⟨rfl, rfl⟩

lemma run_translating_of_ok (h : c.Starts choices a s) (hcommand : a.command = .translate file)
    {r : Registry} {n : Nat} (hload : (standard.loadFile c.read file).result = .ok (r, n)) :
    (run c choices).code = 0 ∧
      (run c choices).output = printDefinitions c.colour (outputFormat a s) r.definitions := by
  rw [run_of_starts h, hcommand]
  simp only [Command.run, translate, loadDefinitions, hload, and_self]

lemma errorText_nil (message trace : String) :
    errorText message [] trace = "Error: " ++ message ++ trace := rfl

lemma run_translating_of_error (h : c.Starts choices a s) (hcommand : a.command = .translate file)
    {report : Report} (hload : (standard.loadFile c.read file).result = .error report) :
    (run c choices).code = 1 ∧ (run c choices).output = "" ∧
      (run c choices).error = some ("Error: " ++ report.line ++ c.trace choices) := by
  rw [run_of_starts h, hcommand]
  simp only [Command.run, translate, loadDefinitions, hload, Option.map_some, errorText_nil,
    and_self]

end

end GatewayRecipes.CommandLine
