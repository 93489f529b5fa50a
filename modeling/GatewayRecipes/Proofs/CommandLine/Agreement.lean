import GatewayRecipes.Proofs.CommandLine.Run
import GatewayRecipes.Proofs.Registry.Failure
import Mathlib

/-! Validating a file and translating it. Both commands load it into a new registry, and tell of the
one result of this each in its own way. -/
namespace GatewayRecipes.CommandLine
open Element Registry

/-- Whether a load of a file into a new registry gets to a gateway, with these definitions staged. -/
def Reaches (read : FileReader) (file : String) (staged : Table Recipe) (o : Occurrence) : Prop :=
  ∃ content root before after, read file = .ok content ∧ Markup.parseBytes content = .ok root ∧
    standard.handled root = before ++ o :: after ∧
    (before.foldlM standard.register []).result = .ok staged

/-- How a file fails to load into a new registry: the steps and the message that are reported. -/
inductive LoadFailure (read : FileReader) (file : String) : List String → Prop
  | reading {cause : FileError} (unread : read file = .error cause) :
      LoadFailure read file ["reading " ++ file, "IO error: " ++ cause.message]
  | document {content : List UInt8} {cause : Markup.DocumentError}
      (content_eq : read file = .ok content)
      (malformed : Markup.parseBytes content = .error cause) :
      LoadFailure read file ["loading " ++ file, "XML error: " ++ cause.message]
  /-- A gateway does not translate. -/
  | parsing {o : Occurrence} {staged : Table Recipe} {cause : Gateway.DefinitionError}
      (reached : Reaches read file staged o)
      (failed : (Gateway.translate (modeAt o) o.element).result = .error cause) :
      LoadFailure read file ["loading " ++ file, "parsing " ++ describe o.element,
        "Definition error: " ++ cause.message]
  /-- A gateway translates, and an earlier one has its name. -/
  | registering {o : Occurrence} {staged : Table Recipe} {recipe : Recipe} {name : String}
      (reached : Reaches read file staged o)
      (translated : (Gateway.translate (modeAt o) o.element).result = .ok recipe)
      (named : standard.nameAt staged .gatewayProxyFactory o = name) (taken : name ∈ staged.keys) :
      LoadFailure read file ["loading " ++ file, "registering " ++ describe o.element,
        "component name '" ++ name ++ "' is already in use"]

section
variable {read : FileReader} {file : String} {staged : Table Recipe} {o : Occurrence}

lemma loadFile_of_root {content : List UInt8} {root : Element} (hread : read file = .ok content)
    (hroot : Markup.parseBytes content = .ok root) :
    (standard.loadFile read file).result =
      (standard.load root).result.mapError (·.within ("loading " ++ file)) := by
  simp only [loadFile, hread, hroot, Traced.result_mapError]

lemma Reaches.parser (h : Reaches read file staged o) :
    standard.parserFor? o.element.name = some .gateway := by
  obtain ⟨-, root, before, after, -, -, hsplit, -⟩ := h
  exact @parserFor?_of_handled [] root o (hsplit ▸ by simp)

lemma Reaches.result_of_refused (h : Reaches read file staged o) {report : Report}
    (hrefused : standard.Refused staged o report) :
    (standard.loadFile read file).result = .error (report.within ("loading " ++ file)) := by
  obtain ⟨content, root, before, after, hread, hroot, hsplit, hbefore⟩ := h
  have hload := load_eq_error_iff.mpr ⟨before, o, after, staged, hsplit, hbefore, hrefused⟩
  rw [loadFile_of_root hread hroot, hload]
  rfl

lemma Reaches.loadFailure (h : Reaches read file staged o) {report : Report}
    (hrefused : standard.Refused staged o report) :
    LoadFailure read file (report.within ("loading " ++ file)).chain := by
  cases hrefused with
  | untranslated hp failed =>
    cases h.parser.symm.trans hp
    exact .parsing h failed
  | taken hp parsed inUse =>
    cases h.parser.symm.trans hp
    exact .registering h parsed rfl (inUse.resolve_left List.not_mem_nil)

lemma loadFailure_of_load {report : Report}
    (h : (standard.loadFile read file).result = .error report) :
    LoadFailure read file report.chain := by
  cases hread : read file with
  | error cause =>
    rw [loadFile, hread] at h
    cases h
    exact .reading hread
  | ok content =>
    cases hroot : Markup.parseBytes content with
    | error cause =>
      simp only [loadFile, hread, hroot] at h
      cases h
      exact .document hread hroot
    | ok root =>
      rw [loadFile_of_root hread hroot] at h
      cases hload : (standard.load root).result with
      | ok loaded => rw [hload] at h; cases h
      | error inner =>
        rw [hload] at h
        cases h
        obtain ⟨before, o, after, staged, hsplit, hbefore, hrefused⟩ :=
          load_eq_error_iff.mp hload
        have hreached : Reaches read file staged o :=
          ⟨content, root, before, after, hread, hroot, hsplit, hbefore⟩
        exact hreached.loadFailure hrefused

lemma load_of_loadFailure {errors : List String} (h : LoadFailure read file errors) :
    ∃ report, (standard.loadFile read file).result = .error report ∧ report.chain = errors := by
  cases h with
  | reading unread =>
    rw [loadFile, unread]
    exact ⟨_, rfl, rfl⟩
  | document hread malformed =>
    simp only [loadFile, hread, malformed]
    exact ⟨_, rfl, rfl⟩
  | parsing reached failed =>
    exact ⟨_, reached.result_of_refused (.untranslated reached.parser failed), rfl⟩
  | registering reached translated named taken =>
    subst named
    exact ⟨_, reached.result_of_refused (.taken reached.parser translated (.inr taken)), rfl⟩

/-- A file fails to load exactly in these ways. -/
theorem loadFailure_iff {errors : List String} :
    LoadFailure read file errors ↔
      ∃ report, (standard.loadFile read file).result = .error report ∧ report.chain = errors := by
  refine ⟨load_of_loadFailure, ?_⟩
  rintro ⟨report, h, rfl⟩
  exact loadFailure_of_load h

end

def repeatedDocument : String := "<a><gateway id='x'/><gateway id='x'/></a>"

def besideRepeated (environment : Settings.Environment) (arguments : List String) : Context where
  arguments := arguments
  environment := environment
  read := Directory.read ⟨[("gw.xml", repeatedDocument.toUTF8.toList)]⟩
  terminal := false

lemma repeated_failure (environment : Settings.Environment) (arguments : List String) :
    LoadFailure (besideRepeated environment arguments).read "gw.xml"
      ["loading gw.xml", "registering <gateway id=\"x\">",
        "component name 'x' is already in use"] := by
  let gateway := (Element.named "gateway").withAttribute "id" "x"
  let root := (Element.named "a").withChildren [gateway, gateway]
  have hparse : Markup.parseBytes repeatedDocument.toUTF8.toList = .ok root := by cbv
  have split : standard.handled root =
      [⟨gateway, [(root, 0)]⟩] ++ ⟨gateway, [(root, 1)]⟩ :: [] := rfl
  have reached : Reaches (besideRepeated environment arguments).read "gw.xml" [("x", _)]
      ⟨gateway, [(root, 1)]⟩ := ⟨_, root, _, [], rfl, hparse, split, rfl⟩
  exact .registering reached rfl rfl (List.mem_singleton.mpr rfl)

end GatewayRecipes.CommandLine
