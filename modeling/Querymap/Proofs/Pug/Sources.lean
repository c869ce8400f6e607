import Querymap.Proofs.Pug.IncludeTable
import Querymap.Proofs.Results

/-! Sources that agree on some files, of which no template includes any other. Whatever is extracted from
these files is the same for both. Where the first source cannot read a file the other one may tell something
else, and then the extraction from the first one has failed. -/
namespace Querymap

/-- Sources tell the same of the files `Within`, but for unreadable ones that are excused, and the templates
among these files include no others. -/
structure Source.Agrees (source other : Source) (excused : ExtractError → Prop) (Within : Path → Prop) :
    Prop where
  read {path : Path} : Within path → other.read path = source.read path ∨
    ∃ cause, source.read path = .error cause ∧ excused (.unreadable path cause)
  closed {base target : Path} {content : String} {nodes : Pug.Block} {inclusion : Pug.Inclusion} :
    Within base → Pug.isTemplate base = true → source.read base = .ok content →
      Pug.parse content = .ok nodes → inclusion ∈ Pug.inclusions nodes →
        Pug.Leads base inclusion target → Within target

/-- The files that an extraction of some files opens: these and the templates that they include. -/
inductive Source.Opens (source : Source) (files : List Path) : Path → Prop
  | input {path : Path} : path ∈ files → Opens source files path
  | included {base target : Path} {content : String} {nodes : Pug.Block} {inclusion : Pug.Inclusion} :
    Opens source files base → Pug.isTemplate base = true → source.read base = .ok content →
      Pug.parse content = .ok nodes → inclusion ∈ Pug.inclusions nodes →
        Pug.Leads base inclusion target → Opens source files target

namespace Pug

/-- A reading comes to the same as another one, unless that one fails for an excused reason. -/
def Matches {α : Type} (excused : ExtractError → Prop) (one two : Reading α) : Prop :=
  ∀ table, one.run table = two.run table ∨
    ∃ error left, two.run table = (.error error, left) ∧ excused error

namespace Matches

variable {α β : Type} {excused : ExtractError → Prop} {one two : Reading α} {next next' : α → Reading β}

theorem refl (reading : Reading α) : Matches excused reading reading := fun _ => .inl rfl

theorem bind (first : Matches excused one two) (second : ∀ value, Matches excused (next value) (next' value)) :
    Matches excused (one >>= next) (two >>= next') := by
  intro table
  rw [run_bind, run_bind]
  rcases first table with same | ⟨error, left, failed, reason⟩
  · rw [same]
    rcases two.run table with ⟨error | value, left⟩
    · exact .inl rfl
    · exact second value left
  · rw [failed]
    exact .inr ⟨error, left, rfl, reason⟩

theorem loadAll {load load' : String → Nat → Reading Block} {list : List Inclusion}
    (each : ∀ inclusion ∈ list,
      Matches excused (load' inclusion.name inclusion.line) (load inclusion.name inclusion.line)) :
    Matches excused (loadAll load' list) (loadAll load list) := by
  unfold Pug.loadAll
  induction list with
  | nil => exact .refl _
  | cons first rest ih =>
    obtain ⟨one, others⟩ := List.forall_mem_cons.1 each
    rw [List.mapM_cons, List.mapM_cons]
    exact one.bind fun _ => (ih others).bind fun _ => .refl _

end Matches

section

variable {source other : Source} {excused : ExtractError → Prop} {Within : Path → Prop}
  (agrees : source.Agrees other excused Within)

section

variable {main : Option Path} {chain : Chain source} {base target : Path} {name : String} {line : Nat}
  {table : Includes} (leads : Leads base ⟨name, line⟩ target) (free : ¬Active (chain.active main) target)
  (unknown : table.find? target = none)
include leads free unknown

theorem run_load_unreadable {cause : FileError} (absent : source.read target = .error cause) :
    (load source main chain (some base) name line).run table =
      (.error (.unreadable target cause), table) := by
  rcases run_load_unknown leads free unknown with
    ⟨_, absent', ran⟩ | ⟨_, _, found, _⟩ | ⟨_, _, _, found, _⟩
  · cases absent.symm.trans absent'
    exact ran
  · cases absent.symm.trans found
  · cases absent.symm.trans found

theorem run_load_faulty {content : String} {error : ParseError}
    (found : source.read target = .ok content) (faulty : parse content = .error error) :
    (load source main chain (some base) name line).run table =
      (.error (.template target.spelling error), table) := by
  rcases run_load_unknown leads free unknown with
    ⟨_, absent, _⟩ | ⟨_, _, found', faulty', ran⟩ | ⟨_, _, _, found', parsed, _⟩
  · cases absent.symm.trans found
  · cases found.symm.trans found'
    cases faulty.symm.trans faulty'
    exact ran
  · cases found.symm.trans found'
    cases faulty.symm.trans parsed

theorem run_load_parsed {content : String} {nodes : Block}
    (found : source.read target = .ok content) (parsed : parse content = .ok nodes) :
    ∃ within : Chain source, within.paths = target :: chain.paths ∧ within.room < chain.room ∧
      (load source main chain (some base) name line).run table =
        remember target nodes
          ((loadAll (load source main within (some target)) (inclusions nodes)).run table) := by
  rcases run_load_unknown leads free unknown with
    ⟨_, absent, _⟩ | ⟨_, _, found', faulty, _⟩ | ⟨_, _, within, found', parsed', rest⟩
  · cases absent.symm.trans found
  · cases found.symm.trans found'
    cases faulty.symm.trans parsed
  · cases found.symm.trans found'
    cases parsed.symm.trans parsed'
    exact ⟨within, rest⟩

end

/-- A chain of files that are being read counts by its files alone. -/
theorem active_congr {chain : Chain source} {chain' : Chain other} (paths : chain'.paths = chain.paths)
    (main : Option Path) : chain'.active main = chain.active main := by
  rw [Chain.active, Chain.active, paths]

include agrees

/-- What an include loads within the same chain of files. -/
theorem load_agrees {main : Option Path} {chain : Chain source} {chain' : Chain other} {base : Path}
    {inclusion : Inclusion} (paths : chain'.paths = chain.paths)
    (inside : ∀ target, Leads base inclusion target → Within target) :
    Matches excused (load other main chain' (some base) inclusion.name inclusion.line)
      (load source main chain (some base) inclusion.name inclusion.line) := by
  induction room : chain.room using Nat.strongRecOn generalizing chain chain' base inclusion with
  | ind room ih =>
    intro table
    cases template : isTemplate (resolve base inclusion.name) with
    | false =>
      rw [run_load_foreign template, run_load_foreign template]
      exact .inl rfl
    | true =>
      have leads : Leads base inclusion (resolve base inclusion.name) := ⟨rfl, template⟩
      have within := inside _ leads
      have same := active_congr paths main
      by_cases active : Active (chain.active main) (resolve base inclusion.name)
      · rw [run_load_cycle leads active, run_load_cycle leads (same ▸ active)]
        exact .inl rfl
      have active' : ¬Active (chain'.active main) (resolve base inclusion.name) := same ▸ active
      cases known : table.find? (resolve base inclusion.name) with
      | some block =>
        rw [run_load_known leads active known, run_load_known leads active' known]
        exact .inl rfl
      | none =>
        rcases agrees.read within with reads | ⟨cause, missing, reason⟩
        swap
        · exact .inr ⟨_, _, run_load_unreadable leads active known missing, reason⟩
        cases found : source.read (resolve base inclusion.name) with
        | error cause =>
          rw [run_load_unreadable leads active known found,
            run_load_unreadable leads active' known (reads.trans found)]
          exact .inl rfl
        | ok content =>
          have found' := reads.trans found
          cases parsed : parse content with
          | error error =>
            rw [run_load_faulty leads active known found parsed,
              run_load_faulty leads active' known found' parsed]
            exact .inl rfl
          | ok nodes =>
            obtain ⟨inner, longer, smaller, ran⟩ := run_load_parsed leads active known found parsed
            obtain ⟨inner', longer', _, ran'⟩ := run_load_parsed leads active' known found' parsed
            have within' : Matches excused
                (loadAll (load other main inner' (some (resolve base inclusion.name))) (inclusions nodes))
                (loadAll (load source main inner (some (resolve base inclusion.name))) (inclusions nodes)) :=
              .loadAll fun inclusion member =>
                ih inner.room (room ▸ smaller) (by rw [longer', longer, paths])
                  (fun target => agrees.closed within template found parsed member) rfl
            rw [ran, ran']
            rcases within' table with equal | ⟨error, left, failed, reason⟩
            · rw [equal]
              exact .inl rfl
            · rw [failed]
              exact .inr ⟨error, left, rfl, reason⟩

theorem inlineIncludes_agrees {path : Path} {nodes : Block}
    (inside : ∀ inclusion ∈ inclusions nodes, ∀ target, Leads path inclusion target → Within target) :
    Matches excused (inlineIncludes other (some path) nodes) (inlineIncludes source (some path) nodes) := by
  unfold inlineIncludes
  rw [expandBlock_eq_fill, expandBlock_eq_fill, map_eq_pure_bind, map_eq_pure_bind]
  exact (Matches.loadAll fun inclusion member =>
    load_agrees agrees rfl (inside inclusion member)).bind fun _ => .refl _

end

theorem isTemplate_of_ofPath {path : Path} (type : FileType.ofPath path = .pug) :
    isTemplate path = true := by
  unfold FileType.ofPath at type
  split at type <;> simp_all [isTemplate]

end Pug

section

variable {source other : Source} {excused : ExtractError → Prop} {Within : Path → Prop} {path : Path}
  (agrees : source.Agrees other excused Within)
include agrees

theorem extractFile_agrees (options : Options) (inside : Within path) :
    Pug.Matches excused (extractFile other options path) (extractFile source options path) := by
  unfold extractFile
  rcases agrees.read inside with reads | ⟨cause, missing, reason⟩
  swap
  · rw [missing]
    exact fun table => .inr ⟨_, table, rfl, reason⟩
  rw [reads]
  cases found : source.read path with
  | error cause => exact .refl _
  | ok content =>
    refine (?_ : Pug.Matches excused (extract other _ _ _ _) (extract source _ _ _ _))
    unfold extract
    cases type : FileType.ofPath path with
    | pug =>
      refine .bind ?_ fun _ => .refl _
      unfold Extract.pug
      cases parsed : Pug.parse content with
      | error error => exact .refl _
      | ok nodes =>
        have template := Pug.isTemplate_of_ofPath type
        exact (Pug.inlineIncludes_agrees agrees fun inclusion member target =>
          agrees.closed inside template found parsed member).bind fun _ => .refl _
    | _ => exact .refl _

theorem extractShare_agrees (options : Options) {paths : List Path} (inside : ∀ path ∈ paths, Within path)
    (includes : Pug.Includes) :
    extractShare other options paths includes = extractShare source options paths includes ∨
      ∃ path error, (path, .error error) ∈ extractShare source options paths includes ∧ excused error := by
  induction paths generalizing includes with
  | nil => exact .inl rfl
  | cons path rest ih =>
    obtain ⟨first, others⟩ := List.forall_mem_cons.1 inside
    rw [extractShare_cons, extractShare_cons]
    rcases extractFile_agrees agrees options first includes with same | ⟨error, left, failed, reason⟩
    · rw [same]
      rcases ih others ((extractFile source options path).run includes).2 with rest | ⟨path, error, member, reason⟩
      · rw [rest]
        exact .inl rfl
      · exact .inr ⟨path, error, List.mem_cons_of_mem _ member, reason⟩
    · rw [failed]
      exact .inr ⟨path, error, List.mem_cons_self, reason⟩

/-- The files of a run give the same, whichever of the sources they are read from, unless one of them fails for
an excused reason. -/
theorem extractFiles_agrees (options : Options) {paths : List Path} (inside : ∀ path ∈ paths, Within path) :
    extractFiles other options [] paths = extractFiles source options [] paths ∨
      ∃ name error, (name, error) ∈ (extractFiles source options [] paths).errors ∧ excused error := by
  rw [extractFiles_eq_ofResults, extractFiles_eq_ofResults]
  rcases extractShare_agrees agrees options inside [] with same | ⟨path, error, member, reason⟩
  · rw [same]
    exact .inl rfl
  · exact .inr ⟨path.spelling, error, Outcome.mem_errors_ofResults.2 member, reason⟩

end

end Querymap
