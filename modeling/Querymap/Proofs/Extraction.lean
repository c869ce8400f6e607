import Querymap.Pipeline
import Querymap.Proofs.Pug.IncludeFree

/-! Extraction of a single file. Without includes it depends on nothing but the file's own content. -/
namespace Querymap

namespace Files

theorem find?_remove (files : Files) (path other : Path) :
    (files.remove path).find? other =
      if path.same other = true then none else files.find? other := by
  obtain ⟨entries⟩ := files
  simp only [find?, remove]
  induction entries with
  | nil => simp
  | cons entry rest ih =>
    by_cases removed : entry.1.same path = true
    · rw [List.filter_cons_of_neg (by simp [removed]), ih]
      by_cases same : path.same other = true
      · simp [same]
      · have apart : entry.1.same other = false := by
          refine Bool.eq_false_iff.2 fun equal => same ?_
          exact same_trans (by rwa [same_comm]) equal
        simp [same, apart]
    · rw [List.filter_cons_of_pos (by simp [removed])]
      by_cases found : entry.1.same other = true
      · have apart : ¬path.same other = true := fun same =>
          removed (same_trans found (by rwa [same_comm]))
        simp [found, apart]
      · simpa [found] using ih

theorem find?_write (files : Files) (path other : Path) (content : String) :
    (files.write path content).find? other =
      if path.same other = true then some content else files.find? other := by
  by_cases same : path.same other = true
  · simp [find?, write, same]
  · have rest := find?_remove files path other
    simp only [find?, if_neg same] at rest ⊢
    simpa [write, same] using rest

end Files

theorem FileType.ofPath_eq_of_same {a b : Path} (same : a.same b = true) :
    FileType.ofPath a = FileType.ofPath b := by
  have equal : a.components = b.components := by simpa only [Path.same, beq_iff_eq] using same
  simp only [FileType.ofPath, Path.extension?, Path.fileName?, equal]

/-- A template that includes nothing, or a file in another language. -/
def Includeless (path : Path) (content : String) : Prop :=
  FileType.ofPath path = .pug → ∀ block, Pug.parse content = .ok block → Pug.includeFree block = true

theorem Includeless.of_same {a b : Path} {content : String} (free : Includeless a content)
    (same : a.same b = true) : Includeless b content := by
  intro template
  exact free (FileType.ofPath_eq_of_same same ▸ template)

theorem includeless_of_ne {path : Path} (other : FileType.ofPath path ≠ .pug) (content : String) :
    Includeless path content :=
  fun template => absurd template other

/-- What a file contributes if nothing has been extracted before it. -/
def extractAlone (source : Source) (options : Options) (path : Path) :
    Except ExtractError Extracted :=
  ((extractFile source options path).run []).1

theorem run_extract_of_includeless (source other : Source) (options : Options) {path : Path}
    {content : String} (free : Includeless path content) (includes : Pug.Includes) :
    (extract source options (FileType.ofPath path) (some path) content).run includes =
      (extractOne other options (FileType.ofPath path) (some path) content, includes) := by
  simp only [extractOne]
  cases type : FileType.ofPath path with
  | html => rfl
  | compiledJsx =>
    unfold extract
    dsimp only
    cases options.factory.filter (!·.isEmpty) <;> rfl
  | jsx | tsx =>
    unfold extract
    dsimp only
    cases Extract.jsx (some path) content <;> rfl
  | pug =>
    unfold extract Extract.pug
    dsimp only
    cases parsed : Pug.parse content with
    | error => rfl
    | ok block =>
      dsimp only
      rw [Pug.inlineIncludes_of_includeFree _ _ (free type block parsed),
        Pug.inlineIncludes_of_includeFree _ _ (free type block parsed)]
      rfl

/-- All that a source says about a path is includeless. -/
def Source.Includeless (source : Source) (path : Path) : Prop :=
  ∀ content, source.read path = .ok content → Querymap.Includeless path content

theorem run_extractFile {source : Source} {path : Path} (options : Options)
    (free : source.Includeless path) (includes : Pug.Includes) :
    (extractFile source options path).run includes =
      (extractAlone source options path, includes) := by
  simp only [extractAlone, extractFile]
  cases read : source.read path with
  | error cause => rfl
  | ok content =>
    dsimp only
    rw [run_extract_of_includeless source source options (free content read),
      run_extract_of_includeless source source options (free content read)]

theorem extractAlone_congr {source other : Source} {path : Path} (options : Options)
    (free : source.Includeless path) (same : source.read path = other.read path) :
    extractAlone source options path = extractAlone other options path := by
  simp only [extractAlone, extractFile, same]
  cases read : other.read path with
  | error cause => rfl
  | ok content =>
    dsimp only
    rw [run_extract_of_includeless source other options (free content (same.trans read)),
      run_extract_of_includeless other other options (free content (same.trans read))]

end Querymap
