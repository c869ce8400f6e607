import Querymap.Proofs.Path
import Querymap.Proofs.Pug.Inclusions

/-! The templates that a template reaches through includes. Paths with the same components read the same
file and include the same files. -/
namespace Querymap

theorem Files.read_eq_ok_iff {files : Files} {path : Path} {content : String} :
    files.read path = .ok content ↔ files.find? path = some content := by
  unfold read
  cases files.find? path <;> simp

theorem Files.read_eq_ok_of_same {files : Files} {a b : Path} {content : String}
    (same : a.same b = true) (read : files.read a = .ok content) : files.read b = .ok content := by
  rw [read_eq_ok_iff] at read ⊢
  simpa only [find?, Path.same, Path.same_iff.1 same] using read

namespace Pug

theorem resolve_same {a b : Path} (same : a.same b = true) (name : String) :
    (resolve a name).same (resolve b name) = true := by
  have parents : a.parent?.map (·.components) = b.parent?.map (·.components) := by
    rw [Path.components_parent?, Path.components_parent?, Path.same_iff.1 same]
  -- The includes before an extension is added to them.
  have targets : ∀ {target other : Path}, target.components = other.components →
      (if target.extension?.isNone then target.addExtension "pug" else target).components =
        (if other.extension?.isNone then other.addExtension "pug" else other).components := by
    intro target other equal
    have extensions : target.extension? = other.extension? := by
      simp only [Path.extension?, Path.fileName?, equal]
    rw [extensions]
    split
    · rw [Path.components_addExtension _ (by decide) (by decide),
        Path.components_addExtension _ (by decide) (by decide), equal]
    · exact equal
  rw [Path.same_iff]
  unfold resolve
  cases first : a.parent? with
  | none =>
    cases second : b.parent? with
    | none => rfl
    | some folder => simp [first, second] at parents
  | some folder =>
    cases second : b.parent? with
    | none => simp [first, second] at parents
    | some other =>
      have equal : folder.components = other.components := by
        simpa [first, second] using parents
      exact targets (by rw [Path.components_join, Path.components_join, equal])

theorem isTemplate_of_same {a b : Path} (same : a.same b = true) : isTemplate a = isTemplate b := by
  simp only [isTemplate, Path.extension?, Path.fileName?, Path.same_iff.1 same]

/-- An include in the file `base` stands for the template `target`. -/
structure Leads (base : Path) (inclusion : Inclusion) (target : Path) : Prop where
  resolved : resolve base inclusion.name = target
  template : isTemplate target = true

variable {files : Files} {base target a b c : Path} {inclusion : Inclusion}
  {list : List Inclusion}

theorem Leads.of_same (leads : Leads a inclusion target) (same : a.same b = true) :
    ∃ other, Leads b inclusion other ∧ target.same other = true := by
  obtain ⟨rfl, template⟩ := leads
  have equal := resolve_same same inclusion.name
  exact ⟨_, ⟨rfl, isTemplate_of_same equal ▸ template⟩, equal⟩

/-- The template in a file. -/
def Holds (files : Files) (path : Path) (nodes : Block) : Prop :=
  ∃ content, files.read path = .ok content ∧ parse content = .ok nodes

theorem Holds.of_same {nodes : Block} (holds : Holds files a nodes) (same : a.same b = true) :
    Holds files b nodes := by
  obtain ⟨content, read, parsed⟩ := holds
  exact ⟨content, Files.read_eq_ok_of_same same read, parsed⟩

theorem Holds.readable {nodes : Block} (holds : Holds files a nodes) (cause : FileError) :
    files.read a ≠ .error cause := by
  obtain ⟨content, read, _⟩ := holds
  simp [read]

theorem Holds.parsed {nodes : Block} {content : String} (holds : Holds files a nodes)
    (read : files.read a = .ok content) : parse content = .ok nodes := by
  obtain ⟨content', read', parsed⟩ := holds
  cases read.symm.trans read'
  exact parsed

theorem Holds.unique {nodes others : Block} (first : Holds files a nodes)
    (second : Holds files a others) : nodes = others := by
  obtain ⟨content, read, parsed⟩ := first
  obtain ⟨content', read', parsed'⟩ := second
  cases read.symm.trans read'
  exact Except.ok.inj (parsed.symm.trans parsed')

/-- The template at a path includes another one, directly or by way of further templates. -/
inductive Reaches (files : Files) : Path → Path → Prop
  | direct {base target path : Path} {nodes : Block} {inclusion : Inclusion} :
      Holds files base nodes → inclusion ∈ inclusions nodes → Leads base inclusion target →
        target.same path = true → Reaches files base path
  | through {base target path : Path} {nodes : Block} {inclusion : Inclusion} :
      Holds files base nodes → inclusion ∈ inclusions nodes → Leads base inclusion target →
        Reaches files target path → Reaches files base path

theorem Reaches.of_same_left (reaches : Reaches files a c) (same : a.same b = true) :
    Reaches files b c := by
  induction reaches generalizing b with
  | direct holds member leads found =>
    obtain ⟨other, leads', equal⟩ := leads.of_same same
    exact .direct (holds.of_same same) member leads'
      (Files.same_trans (Files.same_comm _ _ ▸ equal) found)
  | through holds member leads _ ih =>
    obtain ⟨other, leads', equal⟩ := leads.of_same same
    exact .through (holds.of_same same) member leads' (ih equal)

theorem Reaches.of_same_right (reaches : Reaches files a b) (same : b.same c = true) :
    Reaches files a c := by
  induction reaches with
  | direct holds member leads found =>
    exact .direct holds member leads (Files.same_trans found same)
  | through holds member leads _ ih => exact .through holds member leads (ih same)

theorem Reaches.trans (first : Reaches files a b) (second : Reaches files b c) :
    Reaches files a c := by
  induction first with
  | direct holds member leads found =>
    exact .through holds member leads (second.of_same_left (Files.same_comm _ _ ▸ found))
  | through holds member leads _ ih => exact .through holds member leads (ih second)

/-- Some includes in the file `base` reach a file. -/
def ReachedFrom (files : Files) (base : Path) (list : List Inclusion) (path : Path) : Prop :=
  ∃ inclusion ∈ list, ∃ target, Leads base inclusion target ∧
    (target.same path = true ∨ Reaches files target path)

theorem reaches_iff_reachedFrom {nodes : Block} (holds : Holds files base nodes) :
    Reaches files base a ↔ ReachedFrom files base (inclusions nodes) a := by
  constructor
  · intro reaches
    cases reaches with
    | direct held member leads found =>
      cases held.unique holds
      exact ⟨_, member, _, leads, .inl found⟩
    | through held member leads reached =>
      cases held.unique holds
      exact ⟨_, member, _, leads, .inr reached⟩
  · rintro ⟨inclusion, member, target, leads, found | reached⟩
    · exact .direct holds member leads found
    · exact .through holds member leads reached

/-- What an included template reaches is reached from the include. -/
theorem ReachedFrom.through {nodes : Block} (member : inclusion ∈ list)
    (leads : Leads base inclusion target) (holds : Holds files target nodes)
    (reached : ReachedFrom files target (inclusions nodes) a) : ReachedFrom files base list a :=
  ⟨inclusion, member, target, leads, .inr ((reaches_iff_reachedFrom holds).2 reached)⟩

theorem ReachedFrom.tail (reached : ReachedFrom files base list a) :
    ReachedFrom files base (inclusion :: list) a := by
  obtain ⟨other, member, found⟩ := reached
  exact ⟨other, List.mem_cons_of_mem _ member, found⟩

end Pug

end Querymap
