import Mathlib.Data.Prod.Basic
import Querymap.Proofs.CommandLine.Writing
import Querymap.Proofs.Declaration
import Querymap.Proofs.ScanOrder

/-! Typings beside each input. The files of a run are written in path order, so where the typings of several
inputs lead to one place, those of the last of them remain. -/
namespace Querymap

open Console

section

/-- What an input gives by itself. -/
def Settings.Yields (settings : Settings) (disk : Disk) (format : OutputFormat) (file : Path)
    (text : String) : Prop :=
  ∃ extracted, Gives disk.source settings.options (settings.files disk) file (.ok extracted) ∧
    extracted.map.merge.artifact settings.config.exported format = text

variable {console after : Console} {arguments : Arguments} {format : OutputFormat} {folder : Path}
  {settings : Settings} {disk : Disk} {file : Path}

theorem get?_mergeEach_iff {model : Model} :
    (settings.outcome disk).typings.mergeEach.get? file.spelling = some model ↔
      ∃ extracted, Gives disk.source settings.options (settings.files disk) file (.ok extracted) ∧
        extracted.map.merge = model := by
  rw [FileTypings.mergeEach, Dict.get?_mapValues, Option.map_eq_some_iff]
  have gives : ∀ {map}, (settings.outcome disk).typings.get? file.spelling = some map ↔ _ :=
    get?_typings_iff (increasing_scan disk _ _ _).nodup_spellings
  simp only [gives]
  constructor
  · rintro ⟨_, ⟨extracted, given, rfl⟩, merged⟩
    exact ⟨extracted, given, merged⟩
  · rintro ⟨extracted, given, merged⟩
    exact ⟨_, ⟨extracted, given, rfl⟩, merged⟩

theorem exists_extracted (complete : (settings.outcome disk).errors = [])
    (listed : file ∈ settings.files disk) :
    ∃ extracted, Gives disk.source settings.options (settings.files disk) file (.ok extracted) := by
  obtain ⟨result, gives⟩ := @exists_gives disk.source settings.options _ _ listed
  cases result with
  | ok extracted => exact ⟨extracted, gives⟩
  | error error =>
    have failed := mem_errors_iff.2 gives
    rw [← Settings.outcome, complete] at failed
    cases failed

theorem separate_succeeds (tree : console.disk.IsTree)
    (loaded : Settings.load console.disk folder arguments = .ok settings)
    (separate : settings.config.separate = true)
    (ran : (generate arguments format false folder).run console = (.ok .success, after)) :
    (settings.outcome console.disk).errors = [] ∧
      Disk.Written (artifacts settings format (settings.outcome console.disk).typings) console.disk
        after.disk := by
  obtain ⟨complete, delivered⟩ := generate_succeeds loaded ran
  unfold deliver at delivered
  rw [if_neg Bool.false_ne_true, if_pos separate] at delivered
  exact ⟨complete, @writeEach_ok (console.told _) _ _ _ _ tree delivered⟩

/-- Beside every input stand the typings of the last input that is written to the same place. -/
theorem separate_run_keeps_last (tree : console.disk.IsTree)
    (loaded : Settings.load console.disk folder arguments = .ok settings)
    (separate : settings.config.separate = true)
    (ran : (generate arguments format false folder).run console = (.ok .success, after)) :
    ∀ file ∈ settings.files console.disk, ∃ last ∈ settings.files console.disk, ∃ text,
      settings.Yields console.disk format last text ∧
      after.disk.read (file.generated format.suffix) = .ok text ∧
      after.disk.place? (last.generated format.suffix) =
        after.disk.place? (file.generated format.suffix) ∧
      ∀ other ∈ settings.files console.disk,
        after.disk.place? (other.generated format.suffix) =
          after.disk.place? (file.generated format.suffix) →
        other.spelling ≤ last.spelling := by
  obtain ⟨complete, written⟩ := separate_succeeds tree loaded separate ran
  have entry : ∀ file ∈ settings.files console.disk, ∃ model,
      (file.spelling, model) ∈ (settings.outcome console.disk).typings.mergeEach.entries := by
    intro file listed
    obtain ⟨extracted, gives⟩ := exists_extracted complete listed
    exact ⟨_, Dict.get?_eq_some_iff.1 (get?_mergeEach_iff.2 ⟨extracted, gives, rfl⟩)⟩
  intro file listed
  obtain ⟨model, member⟩ := entry file listed
  obtain ⟨earlier, final, later, split, led, unled, read⟩ :=
    written.last _ (List.mem_map_of_mem member)
  -- The written files are the entries of the typings, so the last one belongs to an input.
  obtain ⟨before, rest, entries, rfl, ends⟩ := List.map_eq_append_iff.1 split
  obtain ⟨⟨name, model⟩, behind, rfl, rfl, rfl⟩ := List.map_eq_cons_iff.1 ends
  have found : (settings.outcome console.disk).typings.mergeEach.get? name = some model :=
    Dict.get?_eq_some_iff.2 (entries ▸ List.mem_append_right _ List.mem_cons_self)
  obtain ⟨extracted, gives, rfl⟩ := (@get?_mergeEach_iff settings console.disk ⟨name⟩ model).1 found
  dsimp only at led read
  refine ⟨⟨name⟩, gives.listed, _, ⟨extracted, gives, rfl⟩, read, led, fun other listed same => ?_⟩
  obtain ⟨theirs, member⟩ := entry other listed
  exact Dict.le_of_split entries member fun later => unled _ (List.mem_map_of_mem later) same

end

namespace SameStem

/-- A folder of two inputs with one stem. -/
def console : Console where
  disk := {
    entries := [(["p"], .folder), (["p", "a.htm"], .file (some "<i id=b>")),
      (["p", "a.html"], .file (some "<p id=a>"))]
    here := ["p"] }

def arguments : Arguments := { inputs := ["."], separate := true }

def settings : Settings where
  config := { input := ["."], separate := true }
  base := ⟨"/p"⟩
  output := none
  verbose := false

def run : Except CommandError ExitStatus × Console :=
  (generate arguments .declarations false ⟨"/p"⟩).run console

theorem tree : console.disk.IsTree := by constructor <;> decide

theorem loaded : Settings.load console.disk ⟨"/p"⟩ arguments = .ok settings := by decide

theorem success : run.1 = .ok .success := by decide +kernel

theorem ran : run = (.ok .success, run.2) := Prod.fst_eq_iff.1 success

/-- The place of the typings of both inputs. -/
theorem generated : Path.generated ⟨"/p/./a.htm"⟩ OutputFormat.declarations.suffix = ⟨"/p/a-querymap.d.ts"⟩ ∧
    Path.generated ⟨"/p/./a.html"⟩ OutputFormat.declarations.suffix = ⟨"/p/a-querymap.d.ts"⟩ := by
  decide

/-- The model of a single element with an id. -/
def modelOf (id type : String) : Model where
  ids := Dict.ofList [(id, type)]
  selectors := Dict.ofList [("#" ++ id, type)]

theorem entries : (settings.outcome console.disk).typings.mergeEach.entries =
    [("/p/./a.htm", modelOf "b" "HTMLElement"), ("/p/./a.html", modelOf "a" "HTMLParagraphElement")] := by
  decide

end SameStem

theorem separate_run_keeps_last_sameStem :
    SameStem.console.disk.IsTree ∧
      Settings.load SameStem.console.disk ⟨"/p"⟩ SameStem.arguments = .ok SameStem.settings ∧
      SameStem.settings.config.separate = true ∧ SameStem.run.1 = .ok .success ∧
      ∃ last ∈ SameStem.settings.files SameStem.console.disk, ∃ text,
        SameStem.settings.Yields SameStem.console.disk .declarations last text ∧
        SameStem.run.2.disk.read ⟨"/p/a-querymap.d.ts"⟩ = .ok text := by
  open SameStem in
  have listed : ⟨"/p/./a.htm"⟩ ∈ settings.files console.disk := by decide +kernel
  obtain ⟨last, among, text, yields, read, _⟩ :=
    separate_run_keeps_last tree loaded rfl ran ⟨"/p/./a.htm"⟩ listed
  rw [generated.1] at read
  exact ⟨tree, loaded, rfl, success, last, among, text, yields, read⟩

/-- The typings of the first of two inputs with one stem are lost. -/
theorem separate_run_loses_typings :
    SameStem.run.1 = .ok .success ∧
      SameStem.settings.files SameStem.console.disk = [⟨"/p/./a.htm"⟩, ⟨"/p/./a.html"⟩] ∧
      ∃ text, SameStem.settings.Yields SameStem.console.disk .declarations ⟨"/p/./a.htm"⟩ text ∧
        SameStem.run.2.disk.read (Path.generated ⟨"/p/./a.htm"⟩ OutputFormat.declarations.suffix) ≠
          .ok text := by
  open SameStem in
  obtain ⟨_, written⟩ := separate_succeeds tree loaded rfl ran
  have first : (settings.outcome console.disk).typings.mergeEach.get? "/p/./a.htm" =
      some (modelOf "b" "HTMLElement") :=
    Dict.get?_eq_some_iff.2 (entries ▸ List.mem_cons_self)
  obtain ⟨extracted, gives, merged⟩ :=
    (@get?_mergeEach_iff settings console.disk ⟨"/p/./a.htm"⟩ _).1 first
  have files : settings.files console.disk = [⟨"/p/./a.htm"⟩, ⟨"/p/./a.html"⟩] := by decide +kernel
  refine ⟨success, files, _, ⟨extracted, gives, rfl⟩, ?_⟩
  simp only [artifacts, entries, List.map_cons, List.map_nil, generated] at written
  have read := @Disk.Written.read_last _ _ [_] _ written
  have plain : (modelOf "b" "HTMLElement").HasOneLineTypes := by constructor <;> decide +kernel
  have plain' : (modelOf "a" "HTMLParagraphElement").HasOneLineTypes := by constructor <;> decide +kernel
  have apart : modelOf "b" "HTMLElement" ≠ modelOf "a" "HTMLParagraphElement" := by decide +kernel
  rw [generated.1, merged]
  intro kept
  have same : (modelOf "b" "HTMLElement").declaration false =
      (modelOf "a" "HTMLParagraphElement").declaration false := Except.ok.inj (kept.symm.trans read)
  have back := Declaration.read?_declaration plain false
  rw [same, Declaration.read?_declaration plain' false] at back
  exact apart (Option.some.inj back).symm

end Querymap
