import Querymap.Proofs.Pug.Reach

/-! Inlining by rules: every include is read and parsed anew wherever it stands, in document order, and
the first failure is that of the whole. What is inlined without failure depends on the files that are
reached and on nothing else. -/
namespace Querymap.Pug

/-- A file is among those that are being inlined. -/
def Active (chain : List Path) (target : Path) : Prop := ∃ path ∈ chain, path.same target = true

/-- The blocks that the includes of the file `base` stand for, or the first failure. The files in
`chain` are being inlined. -/
inductive Inlines (files : Files) :
    List Path → Option Path → List Inclusion → Except ExtractError (List Block) → Prop
  | done {chain : List Path} {base : Option Path} : Inlines files chain base [] (.ok [])
  | homeless {chain : List Path} {inclusion : Inclusion} {rest : List Inclusion} :
      Inlines files chain none (inclusion :: rest)
        (.error (.missingBasePath inclusion.name inclusion.line))
  /-- Files in other languages hold no nodes. -/
  | foreign {chain : List Path} {base : Path} {inclusion : Inclusion} {rest : List Inclusion}
      {result : Except ExtractError (List Block)} :
      isTemplate (resolve base inclusion.name) = false →
      Inlines files chain (some base) rest result →
      Inlines files chain (some base) (inclusion :: rest) (result.map ([] :: ·))
  | cycle {chain : List Path} {base target : Path} {inclusion : Inclusion}
      {rest : List Inclusion} :
      Leads base inclusion target → Active chain target →
      Inlines files chain (some base) (inclusion :: rest) (.error (.includeCycle target))
  | absent {chain : List Path} {base target : Path} {inclusion : Inclusion}
      {rest : List Inclusion} {cause : FileError} :
      Leads base inclusion target → ¬Active chain target → files.read target = .error cause →
      Inlines files chain (some base) (inclusion :: rest) (.error (.unreadable target cause))
  | malformed {chain : List Path} {base target : Path} {inclusion : Inclusion}
      {rest : List Inclusion} {content : String} {error : ParseError} :
      Leads base inclusion target → ¬Active chain target → files.read target = .ok content →
      parse content = .error error →
      Inlines files chain (some base) (inclusion :: rest) (.error (.template target.spelling error))
  | broken {chain : List Path} {base target : Path} {inclusion : Inclusion}
      {rest : List Inclusion} {nodes : Block} {error : ExtractError} :
      Leads base inclusion target → ¬Active chain target → Holds files target nodes →
      Inlines files (target :: chain) (some target) (inclusions nodes) (.error error) →
      Inlines files chain (some base) (inclusion :: rest) (.error error)
  | inlined {chain : List Path} {base target : Path} {inclusion : Inclusion}
      {rest : List Inclusion} {nodes : Block} {blocks : List Block}
      {result : Except ExtractError (List Block)} :
      Leads base inclusion target → ¬Active chain target → Holds files target nodes →
      Inlines files (target :: chain) (some target) (inclusions nodes) (.ok blocks) →
      Inlines files chain (some base) rest result →
      Inlines files chain (some base) (inclusion :: rest) (result.map (fill blocks nodes :: ·))

variable {files other : Files} {chain chain' : List Path} {base target : Path}
  {inclusion : Inclusion} {list rest : List Inclusion} {nodes : Block} {blocks : List Block}

theorem Leads.unique {target' : Path} (first : Leads base inclusion target)
    (second : Leads base inclusion target') : target = target' :=
  first.resolved.symm.trans second.resolved

theorem Leads.not_foreign (leads : Leads base inclusion target) :
    ¬isTemplate (resolve base inclusion.name) = false := by
  rw [leads.resolved, leads.template]
  decide

section

/-! What a list comes to, by what its first include leads to. -/

variable {result : Except ExtractError (List Block)}

theorem Inlines.of_foreign (inlines : Inlines files chain (some base) (inclusion :: rest) result)
    (elsewhere : isTemplate (resolve base inclusion.name) = false) :
    ∃ others, Inlines files chain (some base) rest others ∧ result = others.map ([] :: ·) := by
  cases inlines with
  | foreign _ others => exact ⟨_, others, rfl⟩
  | cycle leads | absent leads | malformed leads | broken leads | inlined leads =>
    exact absurd elsewhere leads.not_foreign

theorem Inlines.of_active (inlines : Inlines files chain (some base) (inclusion :: rest) result)
    (leads : Leads base inclusion target) (active : Active chain target) :
    result = .error (.includeCycle target) := by
  cases inlines with
  | foreign elsewhere => exact absurd elsewhere leads.not_foreign
  | cycle leads' => rw [leads.unique leads']
  | absent leads' free | malformed leads' free | broken leads' free | inlined leads' free =>
    exact absurd (leads.unique leads' ▸ active) free

theorem Inlines.of_missing {cause : FileError}
    (inlines : Inlines files chain (some base) (inclusion :: rest) result)
    (leads : Leads base inclusion target) (free : ¬Active chain target)
    (missing : files.read target = .error cause) : result = .error (.unreadable target cause) := by
  cases inlines with
  | foreign elsewhere => exact absurd elsewhere leads.not_foreign
  | cycle leads' active => exact absurd (leads'.unique leads ▸ active) free
  | absent leads' _ missing' =>
    cases leads.unique leads'
    cases missing.symm.trans missing'
    rfl
  | malformed leads' _ read =>
    cases leads.unique leads'
    cases missing.symm.trans read
  | broken leads' _ holds | inlined leads' _ holds =>
    exact absurd (leads.unique leads' ▸ missing) (holds.readable _)

theorem Inlines.of_malformed {content : String} {error : ParseError}
    (inlines : Inlines files chain (some base) (inclusion :: rest) result)
    (leads : Leads base inclusion target) (free : ¬Active chain target)
    (read : files.read target = .ok content) (unparsed : parse content = .error error) :
    result = .error (.template target.spelling error) := by
  cases inlines with
  | foreign elsewhere => exact absurd elsewhere leads.not_foreign
  | cycle leads' active => exact absurd (leads'.unique leads ▸ active) free
  | absent leads' _ missing =>
    cases leads.unique leads'
    cases missing.symm.trans read
  | malformed leads' _ read' unparsed' =>
    cases leads.unique leads'
    cases read.symm.trans read'
    cases unparsed.symm.trans unparsed'
    rfl
  | broken leads' _ holds | inlined leads' _ holds =>
    cases leads.unique leads'
    cases unparsed.symm.trans (holds.parsed read)

theorem Inlines.of_holds (inlines : Inlines files chain (some base) (inclusion :: rest) result)
    (leads : Leads base inclusion target) (free : ¬Active chain target)
    (holds : Holds files target nodes) :
    (∃ error, Inlines files (target :: chain) (some target) (inclusions nodes) (.error error) ∧
      result = .error error) ∨
    ∃ blocks others, Inlines files (target :: chain) (some target) (inclusions nodes) (.ok blocks) ∧
      Inlines files chain (some base) rest others ∧ result = others.map (fill blocks nodes :: ·) := by
  cases inlines with
  | foreign elsewhere => exact absurd elsewhere leads.not_foreign
  | cycle leads' active => exact absurd (leads'.unique leads ▸ active) free
  | absent leads' _ missing => exact absurd (leads'.unique leads ▸ missing) (holds.readable _)
  | malformed leads' _ read unparsed =>
    cases leads.unique leads'
    cases unparsed.symm.trans (holds.parsed read)
  | broken leads' _ holds' inner =>
    cases leads.unique leads'
    cases holds.unique holds'
    exact .inl ⟨_, inner, rfl⟩
  | inlined leads' _ holds' inner others =>
    cases leads.unique leads'
    cases holds.unique holds'
    exact .inr ⟨_, _, inner, others, rfl⟩

end

theorem Inlines.unique {start : Option Path} {result result' : Except ExtractError (List Block)}
    (first : Inlines files chain start list result)
    (second : Inlines files chain start list result') : result = result' := by
  induction first generalizing result' with
  | done => cases second; rfl
  | homeless => cases second; rfl
  | foreign elsewhere _ ih =>
    obtain ⟨others, inlines, rfl⟩ := second.of_foreign elsewhere
    rw [ih inlines]
  | cycle leads active => exact (second.of_active leads active).symm
  | absent leads free missing => exact (second.of_missing leads free missing).symm
  | malformed leads free read unparsed => exact (second.of_malformed leads free read unparsed).symm
  | broken leads free holds _ ih =>
    obtain ⟨error, inner, rfl⟩ | ⟨blocks, _, inner, _⟩ := second.of_holds leads free holds
    · cases ih inner
      rfl
    · cases ih inner
  | inlined leads free holds _ _ ih ih' =>
    obtain ⟨error, inner, rfl⟩ | ⟨blocks, _, inner, others, rfl⟩ := second.of_holds leads free holds
    · cases ih inner
    · cases ih inner
      rw [ih' others]

/-- Inlining without failure takes three kinds of steps only. -/
theorem Inlines.ok_induction {motive : List Path → Path → List Inclusion → List Block → Prop}
    (done : ∀ chain base, motive chain base [] [])
    (foreign : ∀ {chain base inclusion rest blocks},
      isTemplate (resolve base inclusion.name) = false → motive chain base rest blocks →
      motive chain base (inclusion :: rest) ([] :: blocks))
    (inlined : ∀ {chain base target inclusion rest nodes inner blocks},
      Leads base inclusion target → ¬Active chain target → Holds files target nodes →
      Inlines files (target :: chain) (some target) (inclusions nodes) (.ok inner) →
      motive (target :: chain) target (inclusions nodes) inner → motive chain base rest blocks →
      motive chain base (inclusion :: rest) (fill inner nodes :: blocks))
    (succeeds : Inlines files chain (some base) list (.ok blocks)) :
    motive chain base list blocks := by
  generalize start : some base = from?, ended : Except.ok blocks = result at succeeds
  induction succeeds generalizing base blocks with
  | done =>
    cases start
    cases ended
    exact done _ _
  | homeless => contradiction
  | foreign elsewhere _ ih =>
    cases start
    obtain ⟨blocks, rfl, same⟩ := map_eq_ok ended.symm
    cases same
    exact foreign elsewhere (ih rfl rfl)
  | cycle | absent | malformed | broken => contradiction
  | inlined leads free holds within _ ih ih' =>
    cases start
    obtain ⟨blocks, rfl, same⟩ := map_eq_ok ended.symm
    cases same
    exact inlined leads free holds within (ih rfl rfl) (ih' rfl rfl)

/-- What is inlined without failure never comes back to a file that is being inlined. -/
theorem Inlines.avoids {path : Path} (succeeds : Inlines files chain (some base) list (.ok blocks))
    (active : Active chain path) : ¬ReachedFrom files base list path := by
  refine succeeds.ok_induction (motive := fun chain base list _ =>
    Active chain path → ¬ReachedFrom files base list path) ?_ ?_ ?_ active
  · rintro _ _ _ ⟨inclusion, member, _⟩
    contradiction
  · rintro chain base inclusion rest _ elsewhere ih active ⟨other, member, target, leads, found⟩
    rcases List.mem_cons.1 member with rfl | member
    · exact leads.not_foreign elsewhere
    · exact ih active ⟨other, member, target, leads, found⟩
  · rintro chain base target inclusion rest nodes _ _ leads free holds _ ih ih' active
      ⟨other, member, target', leads', found⟩
    rcases List.mem_cons.1 member with rfl | member
    · cases leads.unique leads'
      obtain ⟨first, inside, same⟩ := active
      rcases found with found | reaches
      · exact free ⟨first, inside, Files.same_trans same (Files.same_comm _ _ ▸ found)⟩
      · exact ih ⟨first, List.mem_cons_of_mem _ inside, same⟩
          ((reaches_iff_reachedFrom holds).1 reaches)
    · exact ih' active ⟨other, member, target', leads', found⟩

/-- Includes that are inlined without failure are inlined likewise from another spelling of their file,
within other files that they do not reach, and in other files that agree on those that they reach. -/
theorem Inlines.transport {base' : Path}
    (succeeds : Inlines files chain (some base) list (.ok blocks)) (same : base.same base' = true)
    (apart : ∀ path, Active chain' path → ¬ReachedFrom files base list path)
    (agree : ∀ path content, ReachedFrom files base list path → files.read path = .ok content →
      other.read path = .ok content) :
    Inlines other chain' (some base') list (.ok blocks) := by
  refine succeeds.ok_induction (motive := fun _ base list blocks => ∀ chain' base',
    base.same base' = true → (∀ path, Active chain' path → ¬ReachedFrom files base list path) →
      (∀ path content, ReachedFrom files base list path → files.read path = .ok content →
        other.read path = .ok content) →
      Inlines other chain' (some base') list (.ok blocks)) ?_ ?_ ?_ chain' base' same apart agree
  · intro _ _ _ _ _ _ _
    exact .done
  · intro _ base inclusion rest blocks elsewhere ih chain' base' same apart agree
    have foreign := isTemplate_of_same (resolve_same same inclusion.name) ▸ elsewhere
    exact .foreign foreign (ih chain' base' same (fun path active => mt .tail (apart path active))
      fun path content reached => agree path content reached.tail)
  · intro _ base target inclusion rest nodes inner blocks leads _ holds within ih ih' chain' base'
      same apart agree
    obtain ⟨target', leads', equal⟩ := leads.of_same same
    have member : inclusion ∈ inclusion :: rest := List.mem_cons_self
    have reached : ReachedFrom files base (inclusion :: rest) target' :=
      ⟨inclusion, member, target, leads, .inl equal⟩
    have holds' : Holds other target' nodes := by
      obtain ⟨content, read, parsed⟩ := holds.of_same equal
      exact ⟨content, agree target' content reached read, parsed⟩
    have apart' : ∀ path, Active (target' :: chain') path →
        ¬ReachedFrom files target (inclusions nodes) path := by
      rintro path ⟨first, inside, found⟩
      rcases List.mem_cons.1 inside with rfl | inside
      · exact within.avoids ⟨target, List.mem_cons_self, Files.same_trans equal found⟩
      · exact mt (ReachedFrom.through member leads holds) (apart path ⟨first, inside, found⟩)
    have agree' : ∀ path content, ReachedFrom files target (inclusions nodes) path →
        files.read path = .ok content → other.read path = .ok content :=
      fun path content reached => agree path content (.through member leads holds reached)
    have others := ih' chain' base' same (fun path active => mt .tail (apart path active))
      fun path content reached => agree path content reached.tail
    exact .inlined leads' (fun active => apart target' active reached) holds'
      (ih (target' :: chain') target' equal apart' agree') others

end Querymap.Pug
