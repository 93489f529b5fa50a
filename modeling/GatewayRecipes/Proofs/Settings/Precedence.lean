import GatewayRecipes.Proofs.CommandLine.Run
import GatewayRecipes.Proofs.Settings.Layer
import Mathlib

/-! Which layer decides on a setting: a variable, else the file, else the default. Each setting is
decided on its own, and nothing is asked of a value that another one covers. -/
namespace GatewayRecipes.Settings
open CommandLine (run)
open Text (lower)

/-- A setting: the variable and the key that set it, what values are read as, whatever the order of
the tables in them, and what it is where nothing sets it. -/
structure Setting (α : Type) where
  name : String
  key : String
  read : Value → Option α
  standard : α
  names_key : lower name = lower (variablePrefix ++ "_") ++ key
  read_eq : ∀ {v w : Value}, v.Reordered w → read v = read w

def outputSetting : Setting Output.Format :=
  ⟨"GATEDEF_OUTPUT", "output", readFormat?, standard.output, by decide, (·.readFormat?_eq)⟩

def logLevelSetting : Setting String :=
  ⟨"GATEDEF_LOG_LEVEL", "log_level", Value.text?, standard.logLevel, by decide, (·.text?_eq)⟩

namespace Setting
variable {α : Type}

/-- The value in the topmost layer that has one: that of the variable, else that of the key. -/
def topmost? (f : Setting α) (env : Environment) (file : Table Value) : Option Value :=
  (override? env f.name).or (file.get? f.key)

/-- What the topmost layer decides, if its value is valid. -/
def decided? (f : Setting α) (env : Environment) (file : Table Value) : Option α :=
  match f.topmost? env file with
  | some v => f.read v
  | none => some f.standard

/-- Once variables are put over a file, a setting is what the topmost layer decides. -/
lemma field?_overlay (f : Setting α) {env : Environment} (hplain : env.Plain) (file : Table Value)
    (order : EntryOrder) :
    field? (overlay file (order.arrange (environmentTable variablePrefix env))) f.key f.read
      f.standard = f.decided? env file := by
  rw [field?, get?_overlay_environmentTable hplain f.names_key]
  rfl

lemma decided?_of_key {f : Setting α} {env : Environment} {file : Table Value} {v : Value}
    (hvariable : override? env f.name = none) (hkey : file.get? f.key = some v) :
    f.decided? env file = f.read v := by
  rw [decided?, topmost?, hvariable, hkey, Option.none_or]

/-- The order of the file does not show in what is decided. -/
lemma decided?_of_reordered (f : Setting α) (env : Environment) {t u : Table Value}
    (ht : t.Distinct) (h : Reordered t u) : f.decided? env t = f.decided? env u := by
  rw [decided?, decided?, topmost?, topmost?]
  cases override? env f.name with
  | some v => rfl
  | none => exact h.field?_eq f.read_eq f.key f.standard ht

end Setting

/-- Whether a key of a file decides on a setting: it is, or begins with, the name of one that no
variable sets. -/
def counts (env : Environment) (key : String) : Bool :=
  keyRoot key == outputSetting.key && (override? env outputSetting.name).isNone ||
    keyRoot key == logLevelSetting.key && (override? env logLevelSetting.name).isNone

section
variable {env : Environment} {read : FileReader} {path : Option String} {entries : Table Value}

/-- The settings are those that are decided on, one by one. -/
lemma load_eq_decided (hplain : env.Plain)
    (hfile : fileEntries env read (filePath? read path) = .ok entries) (order : LoadOrder) :
    Settings.load env read path order =
      match outputSetting.decided? env (overlay [] (order.file.arrange entries)),
        logLevelSetting.decided? env (overlay [] (order.file.arrange entries)) with
      | some output, some logLevel => .ok ⟨output, logLevel⟩
      | _, _ => .error .malformed := by
  let file := overlay [] (order.file.arrange entries)
  let merged := overlay file (order.environment.arrange (environmentTable variablePrefix env))
  have houtput : field? merged "output" readFormat? standard.output =
      outputSetting.decided? env file := outputSetting.field?_overlay hplain file _
  have hlevel : field? merged "log_level" Value.text? standard.logLevel =
      logLevelSetting.decided? env file := logLevelSetting.field?_overlay hplain file _
  have hmerged : merged.Distinct := distinct_overlay (distinct_overlay_nil _) _
  have hblind : ofTable? merged = ofTable? (order.settings.arrange merged) :=
    orderBlind_ofTable? _ _ hmerged (order.settings.reordered merged)
  rw [Settings.load, loadLayered, hfile]
  change decodeWith ofTable? (order.settings.arrange merged) = _
  rw [decodeWith, ← hblind, ofTable?, houtput, hlevel]
  cases outputSetting.decided? env file with
  | none => rfl
  | some output =>
    cases logLevelSetting.decided? env file with
    | none => rfl
    | some logLevel => rfl

/-- What stands in a file under keys that decide on nothing does not count. -/
lemma decided?_congr {α : Type} (f : Setting α) {a b : Table Value}
    (hkey : override? env f.name = none → ∀ key, keyRoot key = f.key → counts env key)
    (hagree : (a.filter fun e => counts env e.1) = b.filter fun e => counts env e.1) :
    f.decided? env (overlay [] a) = f.decided? env (overlay [] b) := by
  rw [Setting.decided?, Setting.decided?, Setting.topmost?, Setting.topmost?]
  cases hvariable : override? env f.name with
  | some v => rfl
  | none =>
    have hroot : ∀ t : Table Value, (t.filter fun e => keyRoot e.1 == f.key) =
        (t.filter fun e => counts env e.1).filter fun e => keyRoot e.1 == f.key := by
      intro t
      rw [List.filter_filter]
      apply List.filter_congr
      intro e _
      cases hname : keyRoot e.1 == f.key with
      | false => rfl
      | true => rw [hkey hvariable e.1 (beq_iff_eq.mp hname)]; rfl
    have hsame := (hroot a).trans ((congrArg _ hagree).trans (hroot b).symm)
    rw [get?_overlay_congr hsame]

/-- Where keys that count do not meet, what is decided does not depend on the order. -/
lemma decided?_of_keysApart {α : Type} (f : Setting α) {a b : Table Value}
    (hkey : override? env f.name = none → ∀ key, keyRoot key = f.key → counts env key)
    (hagree : Reordered (a.filter fun e => counts env e.1) (b.filter fun e => counts env e.1))
    (hapart : KeysApart (a.filter fun e => counts env e.1)) :
    f.decided? env (overlay [] a) = f.decided? env (overlay [] b) := by
  have hpick : ∀ t : Table Value,
      f.decided? env (overlay [] t) =
        f.decided? env (overlay [] (t.filter fun e => counts env e.1)) :=
    fun t => decided?_congr f hkey (by simp [List.filter_filter])
  rw [hpick a, hpick b]
  exact f.decided?_of_reordered env (distinct_overlay_nil _)
    (hapart.reordered_overlay hagree)

lemma counts_output (h : override? env outputSetting.name = none) (key : String)
    (hkey : keyRoot key = outputSetting.key) : counts env key := by
  rw [counts, hkey, h]
  rfl

lemma counts_logLevel (h : override? env logLevelSetting.name = none) (key : String)
    (hkey : keyRoot key = logLevelSetting.key) : counts env key := by
  rw [counts, hkey, h]
  rfl

variable {read' : FileReader} {path' : Option String} {entries' : Table Value}

/-- Of two files with the same entries that count, the one gives what the other does in some order. -/
lemma exists_load_eq (hplain : env.Plain)
    (hfile : fileEntries env read (filePath? read path) = .ok entries)
    (hfile' : fileEntries env read' (filePath? read' path') = .ok entries')
    (hagree : Reordered (entries.filter fun e => counts env e.1)
      (entries'.filter fun e => counts env e.1)) (order : LoadOrder) :
    ∃ order', Settings.load env read' path' order' = Settings.load env read path order := by
  obtain ⟨arranged, harranged, hsame⟩ :=
    exists_arranged (p := counts env) hagree (order.file.reordered entries)
  obtain ⟨file, rfl⟩ := exists_entryOrder harranged
  refine ⟨⟨file, order.environment, order.settings⟩, ?_⟩
  rw [load_eq_decided hplain hfile', load_eq_decided hplain hfile,
    decided?_congr _ counts_output hsame, decided?_congr _ counts_logLevel hsame]

end

/-- A directory with a settings file in which the output format is a list. -/
def besideList : FileReader :=
  Directory.read ⟨[("s.json", "\x7b\"output\":[]\x7d".toUTF8.toList)]⟩

def yamlEnvironment : Environment := [("Gatedef_Output", "yaml")]

lemma fileEntries_besideList (env : Environment) :
    fileEntries env besideList (filePath? besideList (some "s.json")) =
      .ok [("output", .list [])] := by
  have hformat : Format.detect "s.json" = .ok .json := rfl
  have hread : besideList "s.json" = .ok "\x7b\"output\":[]\x7d".toUTF8.toList := rfl
  have htext : Text.decodeUtf8 "\x7b\"output\":[]\x7d".toUTF8.toList =
      .ok "\x7b\"output\":[]\x7d".toList := by cbv
  have hsubstitute : substitute env "\x7b\"output\":[]\x7d" = "\x7b\"output\":[]\x7d" := by cbv
  have hentries : Format.json.read? "\x7b\"output\":[]\x7d" = some [("output", .list [])] := by cbv
  change fileLayer env besideList "s.json" = _
  simp only [fileLayer, hformat, readText, hread, htext, String.ofList_toList]
  change textLayer env .json _ = _
  rw [textLayer, hsubstitute, hentries]

end GatewayRecipes.Settings
