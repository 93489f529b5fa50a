import GatewayRecipes.Proofs.Settings.Layer
import GatewayRecipes.Settings.Basic
import Mathlib

/-! A file of settings on its own, and under the variables of the environment. Where no variable has
the prefix, both loads go through the same stages and end in the same way, if they go through the
entries of the file in the same order, and in all orders if its keys do not meet. -/
namespace GatewayRecipes.Settings
open Text (lower)

/-- Whether no variable has a name that begins with a prefix and an underscore, in any case of its
letters. -/
def Environment.Lacks (env : Environment) (namePrefix : String) : Prop :=
  ∀ e ∈ env, ¬ (lower (namePrefix ++ "_")).toList <+: (lower e.1).toList

instance (env : Environment) (namePrefix : String) : Decidable (env.Lacks namePrefix) :=
  inferInstanceAs (Decidable (∀ e ∈ env, _))

lemma variableKey?_eq_none_iff {namePrefix name : String} :
    variableKey? namePrefix name = none ↔
      ¬ (lower (namePrefix ++ "_")).toList <+: (lower name).toList := by
  rw [variableKey?, ← List.isPrefixOf_iff_prefix]
  split
  · next h => simpa using h
  · next h => simpa using h

lemma environmentLayer_eq_nil_iff {namePrefix : String} {env : Environment} :
    environmentLayer namePrefix env = [] ↔ env.Lacks namePrefix := by
  rw [environmentLayer, List.filterMap_eq_nil_iff, Environment.Lacks]
  refine forall₂_congr fun e _ => ?_
  rw [Option.map_eq_none_iff, variableKey?_eq_none_iff]

structure Holds (read : FileReader) (path : String) (format : Format) (text : List Char) :
    Prop where
  known : (extension? path).bind Format.ofExtension? = some format
  decoded : ∃ content, read path = .ok content ∧ Text.decodeUtf8 content = .ok text

/-- Whether a table holds the settings that the entries of a file make, gone through in some order. -/
def Makes (entries t : Table Value) : Prop :=
  ∃ arranged, Reordered entries arranged ∧ Reordered (overlay [] arranged) t

lemma makes_iff {entries t : Table Value} :
    Makes entries t ↔ ∃ order : LoadOrder, order.ofFile entries = t := by
  constructor
  · rintro ⟨arranged, harranged, ht⟩
    obtain ⟨file, rfl⟩ := exists_entryOrder harranged
    obtain ⟨settings, rfl⟩ := exists_entryOrder ht
    exact ⟨⟨file, .asWritten, settings⟩, rfl⟩
  · rintro ⟨order, rfl⟩
    exact ⟨_, order.file.reordered entries, order.settings.reordered _⟩

/-- What is read of a file whose keys do not meet is the same in all orders. -/
lemma KeysApart.decode_ofFile {entries : Table Value} (h : KeysApart entries) {α : Type}
    {decode : Table Value → Option α} (hblind : OrderBlind decode) (order order' : LoadOrder) :
    decode (order.ofFile entries) = decode (order'.ofFile entries) := by
  have hfile := (order.file.reordered entries).symm.trans (order'.file.reordered entries)
  have hoverlay := (h.of_reordered (order.file.reordered entries)).reordered_overlay hfile
  have hsame := ((order.settings.reordered _).symm.trans hoverlay).trans
    (order'.settings.reordered _)
  exact hblind _ _ ((order.settings.reordered _).distinct (distinct_overlay_nil _)) hsame

/-- What may come of a file as settings of some form, whatever form that is. The format is found
first, then the file is read, the text parsed with its references replaced, and the settings that
its entries make decoded. The first of these that fails decides on the error. -/
inductive Loads {α : Type} (env : Environment) (read : FileReader) (path : String)
    (decode : Table Value → Option α) : Except Error α → Prop
  | unsupported (format : (extension? path).bind Format.ofExtension? = none) :
      Loads env read path decode (.error (.unsupported (extension? path)))
  | unread {format : Format} {cause : FileError}
      (known : (extension? path).bind Format.ofExtension? = some format)
      (failed : read path = .error cause) :
      Loads env read path decode (.error (.file cause))
  | notText {format : Format} {content : List UInt8} {fault : Text.Utf8Fault}
      (known : (extension? path).bind Format.ofExtension? = some format)
      (found : read path = .ok content) (failed : Text.decodeUtf8 content = .error fault) :
      Loads env read path decode (.error (.file .notText))
  | malformed {format : Format} {text : List Char} (file : Holds read path format text)
      (failed : format.read? (substitute env (String.ofList text)) = none) :
      Loads env read path decode (.error .malformed)
  | refused {format : Format} {text : List Char} {entries t : Table Value}
      (file : Holds read path format text)
      (parsed : format.read? (substitute env (String.ofList text)) = some entries)
      (made : Makes entries t) (failed : decode t = none) :
      Loads env read path decode (.error .malformed)
  | loaded {format : Format} {text : List Char} {entries t : Table Value} {a : α}
      (file : Holds read path format text)
      (parsed : format.read? (substitute env (String.ofList text)) = some entries)
      (made : Makes entries t) (decoded : decode t = some a) :
      Loads env read path decode (.ok a)

section
variable {env : Environment} {read : FileReader} {path : String} {order : LoadOrder}

lemma loadFile_of_unknown (format : (extension? path).bind Format.ofExtension? = none) :
    loadFile env read path order = .error (.unsupported (extension? path)) := by
  rw [loadFile, fileLayer, Format.detect, format]
  rfl

/-- Once the format is known, the settings are those of the text. -/
lemma loadFile_of_known {format : Format}
    (known : (extension? path).bind Format.ofExtension? = some format) :
    loadFile env read path order =
      (readText read path).bind fun text => fromText env format text order := by
  rw [loadFile, fileLayer, Format.detect, known]
  cases htext : readText read path with
  | error e => rfl
  | ok text => rfl

lemma Holds.loadFile_eq {format : Format} {text : List Char} (h : Holds read path format text) :
    loadFile env read path order = fromText env format (String.ofList text) order := by
  obtain ⟨content, hread, htext⟩ := h.decoded
  rw [loadFile_of_known h.known, readText, hread]
  simp only [htext]
  rfl

variable {α : Type} {decode : Table Value → Option α}

/-- Once a text is parsed, what its entries make is decoded. -/
lemma Holds.decode_eq {format : Format} {text : List Char} {entries : Table Value}
    (h : Holds read path format text)
    (parsed : format.read? (substitute env (String.ofList text)) = some entries) :
    (loadFile env read path order >>= decodeWith decode) =
      decodeWith decode (order.ofFile entries) := by
  rw [h.loadFile_eq, fromText, textLayer, parsed]
  rfl

lemma loads_of_loadFile (order : LoadOrder) :
    Loads env read path decode (loadFile env read path order >>= decodeWith decode) := by
  cases hformat : (extension? path).bind Format.ofExtension? with
  | none =>
    rw [loadFile_of_unknown hformat]
    exact .unsupported hformat
  | some format =>
    cases hread : read path with
    | error cause =>
      rw [loadFile_of_known hformat, readText, hread]
      exact .unread hformat hread
    | ok content =>
      cases htext : Text.decodeUtf8 content with
      | error fault =>
        rw [loadFile_of_known hformat, readText, hread]
        simp only [htext]
        exact .notText hformat hread htext
      | ok text =>
        have file : Holds read path format text := ⟨hformat, content, hread, htext⟩
        cases hentries : format.read? (substitute env (String.ofList text)) with
        | none =>
          rw [file.loadFile_eq, fromText, textLayer, hentries]
          exact .malformed file hentries
        | some entries =>
          have made : Makes entries (order.ofFile entries) := makes_iff.mpr ⟨order, rfl⟩
          rw [file.decode_eq hentries, decodeWith]
          cases hdecode : decode (order.ofFile entries) with
          | none => exact .refused file hentries made hdecode
          | some a => exact .loaded file hentries made hdecode

lemma exists_loadFile_of_loads {out : Except Error α} (h : Loads env read path decode out) :
    ∃ order, (loadFile env read path order >>= decodeWith decode) = out := by
  cases h with
  | unsupported hformat =>
    refine ⟨.asWritten, ?_⟩
    rw [loadFile_of_unknown hformat]
    rfl
  | unread known hread =>
    refine ⟨.asWritten, ?_⟩
    rw [loadFile_of_known known, readText, hread]
    rfl
  | notText known hread htext =>
    refine ⟨.asWritten, ?_⟩
    rw [loadFile_of_known known, readText, hread]
    simp only [htext]
    rfl
  | malformed file hentries =>
    refine ⟨.asWritten, ?_⟩
    rw [file.loadFile_eq, fromText, textLayer, hentries]
    rfl
  | refused file hentries made hdecode =>
    obtain ⟨order, rfl⟩ := makes_iff.mp made
    exact ⟨order, by rw [file.decode_eq hentries, decodeWith, hdecode]⟩
  | loaded file hentries made hdecode =>
    obtain ⟨order, rfl⟩ := makes_iff.mp made
    exact ⟨order, by rw [file.decode_eq hentries, decodeWith, hdecode]⟩

/-- The settings of a file come from the file as `Loads` says, and from it alone. -/
theorem exists_loadFile_iff {out : Except Error α} :
    (∃ order, (loadFile env read path order >>= decodeWith decode) = out) ↔
      Loads env read path decode out := by
  refine ⟨?_, exists_loadFile_of_loads⟩
  rintro ⟨order, rfl⟩
  exact loads_of_loadFile order

/-- Two loads of a file whose keys do not meet give the same, in whatever orders they go. -/
lemma loadFile_of_keysApart
    (hapart : ∀ entries, fileLayer env read path = .ok entries → KeysApart entries)
    (hblind : OrderBlind decode) (order order' : LoadOrder) :
    (loadFile env read path order >>= decodeWith decode) =
      (loadFile env read path order' >>= decodeWith decode) := by
  rw [loadFile, loadFile]
  cases hentries : fileLayer env read path with
  | error e => rfl
  | ok entries =>
    change decodeWith decode (order.ofFile entries) = decodeWith decode (order'.ofFile entries)
    rw [decodeWith, decodeWith, (hapart entries hentries).decode_ofFile hblind order order']

/-- Without variables, the entries of a file make what they make alone. -/
lemma LoadOrder.ofLayers_nil (order : LoadOrder) (file : Table Value) :
    order.ofLayers file [] = order.ofFile file := by
  rw [LoadOrder.ofLayers, (order.environment.reordered []).eq_nil, overlay_nil, LoadOrder.ofFile]

lemma loadLayered_of_lacks {namePrefix : String} (lacks : env.Lacks namePrefix) :
    loadLayered namePrefix env read (some path) order = loadFile env read path order := by
  rw [loadLayered, loadFile, fileEntries, environmentTable, environmentLayer_eq_nil_iff.mpr lacks]
  cases fileLayer env read path with
  | error e => rfl
  | ok entries => exact congrArg Except.ok (order.ofLayers_nil entries)

end

def referring : FileReader :=
  Directory.read ⟨[("s.json", "\x7b\"log_level\":\"$LEVEL\"\x7d".toUTF8.toList)]⟩

def levelEnvironment (rest : Environment) : Environment := ("LEVEL", "debug") :: rest

lemma fileLayer_referring (rest : Environment) :
    fileLayer (levelEnvironment rest) referring "s.json" = .ok [("log_level", .text "debug")] := by
  have hformat : Format.detect "s.json" = .ok .json := rfl
  have hread : referring "s.json" = .ok "\x7b\"log_level\":\"$LEVEL\"\x7d".toUTF8.toList := rfl
  have htext : Text.decodeUtf8 "\x7b\"log_level\":\"$LEVEL\"\x7d".toUTF8.toList =
      .ok "\x7b\"log_level\":\"$LEVEL\"\x7d".toList := by cbv
  have hsubstitute : substitute (levelEnvironment rest) "\x7b\"log_level\":\"$LEVEL\"\x7d" =
      "\x7b\"log_level\":\"debug\"\x7d" := by cbv
  have hentries : Format.json.read? "\x7b\"log_level\":\"debug\"\x7d" =
      some [("log_level", .text "debug")] := by cbv
  simp only [fileLayer, hformat, readText, hread, htext, String.ofList_toList]
  change textLayer _ .json _ = _
  rw [textLayer, hsubstitute, hentries]

lemma keysApart_referring : KeysApart [("log_level", .text "debug")] :=
  ⟨List.nodup_singleton _, trivial, trivial⟩

end GatewayRecipes.Settings
