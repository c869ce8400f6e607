import Querymap.Proofs.Pug.Inlining

/-! The table of included templates. What is known of a file is what inlining it anew would give wherever
it is included from here on, so a look-up hides no cycle and no missing file. -/
namespace Querymap.Pug

namespace Chain

variable {source : Source}

/-- The files that are being inlined, the main template as the last one. -/
def active (chain : Chain source) (main : Option Path) : List Path := chain.paths ++ main.toList

theorem active_iff {chain : Chain source} {main : Option Path} {target : Path} :
    Active (chain.active main) target ↔
      main.any target.same = true ∨ chain.contains target = true := by
  have found : chain.contains target = true ↔ ∃ path ∈ chain.paths, path.same target = true := by
    simp only [contains, List.any_eq_true, Files.same_comm target]
  rw [found, or_comm]
  simp only [Active, active, List.mem_append, or_and_right, exists_or]
  cases main <;> simp [Files.same_comm target]

end Chain

section

variable {source : Source} {main : Option Path} {chain : Chain source} {base target : Path}
  {name : String} {line : Nat} {table : Includes}

theorem run_load_none :
    (load source main chain none name line).run table = (.error (.missingBasePath name line), table) := by
  rw [load.eq_def]
  rfl

theorem run_load_foreign (elsewhere : isTemplate (resolve base name) = false) :
    (load source main chain (some base) name line).run table = (.ok [], table) := by
  rw [load.eq_def]
  simp only [elsewhere]
  rfl

theorem run_load_cycle (leads : Leads base ⟨name, line⟩ target)
    (active : Active (chain.active main) target) :
    (load source main chain (some base) name line).run table =
      (.error (.includeCycle target), table) := by
  obtain ⟨rfl, template⟩ := leads
  rw [load.eq_def]
  dsimp only
  rw [if_neg (by simp [template])]
  rcases Chain.active_iff.1 active with first | within
  · rw [if_pos first]
    rfl
  · split
    · rfl
    · rfl

theorem run_get_bind {α : Type} (next : Includes → Reading α) :
    (get >>= next : Reading α).run table = (next table).run table := rfl

theorem run_load_known {block : Block} (leads : Leads base ⟨name, line⟩ target)
    (free : ¬Active (chain.active main) target) (known : table.find? target = some block) :
    (load source main chain (some base) name line).run table = (.ok block, table) := by
  obtain ⟨rfl, template⟩ := leads
  obtain ⟨outside, apart⟩ := not_or.1 (mt Chain.active_iff.2 free)
  rw [load.eq_def]
  dsimp only
  rw [if_neg (by simp [template]), if_neg outside, dif_neg apart, run_get_bind, known]
  rfl

theorem run_bind {α β : Type} (first : Reading α) (next : α → Reading β) :
    (first >>= next).run table =
      match first.run table with
      | (.ok result, table) => (next result).run table
      | (.error error, table) => (.error error, table) := by
  change (StateT.bind (first.run) (ExceptT.bindCont next)) table = _
  unfold StateT.bind
  generalize first.run table = outcome
  rcases outcome with ⟨error | result, table⟩ <;> rfl

/-- What a file that has been read comes to once its includes have been loaded. -/
def remember (target : Path) (nodes : Block) :
    Except ExtractError (List Block) × Includes → Except ExtractError Block × Includes
  | (.ok blocks, table) => (.ok (fill blocks nodes), (target, fill blocks nodes) :: table)
  | (.error error, table) => (.error error, table)

/-- A file that is neither known nor being inlined is read, and its includes are loaded within it. -/
theorem run_load_unknown (leads : Leads base ⟨name, line⟩ target)
    (free : ¬Active (chain.active main) target) (unknown : table.find? target = none) :
    (∃ cause, source.read target = .error cause ∧
      (load source main chain (some base) name line).run table =
        (.error (.unreadable target cause), table)) ∨
    (∃ content error, source.read target = .ok content ∧ parse content = .error error ∧
      (load source main chain (some base) name line).run table =
        (.error (.template target.spelling error), table)) ∨
    ∃ content nodes, ∃ within : Chain source, source.read target = .ok content ∧
      parse content = .ok nodes ∧ within.paths = target :: chain.paths ∧ within.room < chain.room ∧
      (load source main chain (some base) name line).run table =
        remember target nodes
          ((loadAll (load source main within (some target)) (inclusions nodes)).run table) := by
  obtain ⟨rfl, template⟩ := leads
  obtain ⟨outside, apart⟩ := not_or.1 (mt Chain.active_iff.2 free)
  rw [load.eq_def]
  dsimp only
  rw [if_neg (by simp [template]), if_neg outside, dif_neg apart, run_get_bind, unknown]
  dsimp only
  split
  · next cause missing => exact .inl ⟨cause, missing, rfl⟩
  · next content read =>
    cases parsed : parse content with
    | error error => exact .inr (.inl ⟨content, error, read, parsed, rfl⟩)
    | ok nodes =>
      refine .inr (.inr ⟨content, nodes, chain.push _ (by simpa using apart)
        (by simp [read, Except.isOk, Except.toBool]), read, parsed, rfl, Chain.room_push .., ?_⟩)
      dsimp only
      rw [run_bind, expandBlock_eq_fill, map_eq_pure_bind, run_bind]
      generalize ExceptT.run (m := StateM Includes) (loadAll _ (inclusions nodes)) table = outcome
      rcases outcome with ⟨error | blocks, table⟩ <;> rfl

end

/-- A block is the template in a file with its includes inlined, all of them without failure. -/
def Expands (files : Files) (path : Path) (block : Block) : Prop :=
  ∃ nodes blocks, Holds files path nodes ∧
    Inlines files [path] (some path) (inclusions nodes) (.ok blocks) ∧ fill blocks nodes = block

/-- What is known of a file is its expansion. The `shunned` templates are those whose text may differ
from that of their file; no known file leads to one. -/
structure Includes.Sound (files : Files) (shunned : List Path) (table : Includes) : Prop where
  expands : ∀ entry ∈ table, Expands files entry.1 entry.2
  shuns : ∀ entry ∈ table, ∀ path, Active shunned path →
    entry.1.same path = false ∧ ¬Reaches files entry.1 path

/-- Whatever is inlined from the file `base` is reached from each file that is being inlined, unless
that one is shunned. -/
def Linked (files : Files) (shunned chain : List Path) (base : Path) (list : List Inclusion) : Prop :=
  ∀ path ∈ chain, path ∈ shunned ∨
    ∀ target, ReachedFrom files base list target → Reaches files path target

section

variable {files : Files} {shunned chain : List Path} {base target : Path} {inclusion : Inclusion}
  {rest : List Inclusion} {table : Includes} {nodes block : Block} {blocks : List Block}

theorem Includes.sound_nil (files : Files) (shunned : List Path) :
    Includes.Sound files shunned [] := ⟨by simp, by simp⟩

theorem Includes.Sound.of_find? (sound : table.Sound files shunned)
    (known : table.find? target = some block) :
    ∃ path, path.same target = true ∧ Expands files path block ∧
      ∀ other, Active shunned other → ¬Reaches files path other := by
  simp only [Includes.find?, Option.map_eq_some_iff] at known
  obtain ⟨entry, found, rfl⟩ := known
  have same := List.find?_some found
  have member := List.mem_of_find?_eq_some found
  exact ⟨entry.1, same, sound.expands entry member,
    fun other active => (sound.shuns entry member other active).2⟩

theorem Linked.tail (linked : Linked files shunned chain base (inclusion :: rest)) :
    Linked files shunned chain base rest := by
  intro path member
  exact (linked path member).imp_right fun reaches target found => reaches target found.tail

/-- An include of a readable template takes the chain further. -/
theorem Linked.push (linked : Linked files shunned chain base (inclusion :: rest))
    (leads : Leads base inclusion target) (holds : Holds files target nodes) :
    Linked files shunned (target :: chain) target (inclusions nodes) := by
  intro path member
  rcases List.mem_cons.1 member with rfl | member
  · exact .inr fun other => (reaches_iff_reachedFrom holds).2
  · exact (linked path member).imp_right fun reaches other found =>
      reaches other (.through List.mem_cons_self leads holds found)

/-- What is known of a file that is not being inlined is what inlining it would give here: a known file
that led back to a file of the chain would lead back to itself. -/
theorem Includes.Sound.inlines (sound : table.Sound files shunned)
    (linked : Linked files shunned chain base (inclusion :: rest))
    (leads : Leads base inclusion target) (known : table.find? target = some block) :
    ∃ nodes blocks, Holds files target nodes ∧
      Inlines files (target :: chain) (some target) (inclusions nodes) (.ok blocks) ∧
      fill blocks nodes = block := by
  obtain ⟨path, same, ⟨nodes, blocks, holds, inlines, filled⟩, shuns⟩ := sound.of_find? known
  have returns : ∀ other, path.same other = true →
      ¬ReachedFrom files path (inclusions nodes) other := fun other equal =>
    inlines.avoids ⟨path, List.mem_cons_self, equal⟩
  -- Nothing active here is reached from the known file, so its includes are inlined here as well.
  refine ⟨nodes, blocks, holds.of_same same, inlines.transport same ?_ fun _ _ _ read => read, filled⟩
  rintro other ⟨first, inside, found⟩ reached
  rcases List.mem_cons.1 inside with rfl | inside
  · exact returns other (Files.same_trans same found) reached
  · have back : Reaches files path first :=
      ((reaches_iff_reachedFrom holds).2 reached).of_same_right (Files.same_comm _ _ ▸ found)
    rcases linked first inside with avoided | linked
    · exact shuns first ⟨first, avoided, by simp [Path.same]⟩ back
    · have again := linked path ⟨inclusion, List.mem_cons_self, target, leads,
        .inl (Files.same_comm _ _ ▸ same)⟩
      exact returns path (by simp [Path.same]) ((reaches_iff_reachedFrom holds).1 (back.trans again))

/-- A file whose includes have been inlined without failure may be remembered. -/
theorem Includes.Sound.cons (sound : table.Sound files shunned)
    (within : ∀ path, Active shunned path → Active chain path) (free : ¬Active chain target)
    (holds : Holds files target nodes)
    (inlines : Inlines files (target :: chain) (some target) (inclusions nodes) (.ok blocks)) :
    Includes.Sound files shunned ((target, fill blocks nodes) :: table) := by
  refine ⟨fun entry member => ?_, fun entry member path active => ?_⟩
  · rcases List.mem_cons.1 member with rfl | member
    · refine ⟨nodes, blocks, holds, inlines.transport (by simp [Path.same]) ?_
        fun _ _ _ read => read, rfl⟩
      rintro path ⟨first, inside, same⟩
      cases List.mem_singleton.1 inside
      exact inlines.avoids ⟨target, List.mem_cons_self, same⟩
    · exact sound.expands entry member
  · rcases List.mem_cons.1 member with rfl | member
    · obtain ⟨first, inside, found⟩ := within path active
      refine ⟨Bool.eq_false_iff.2 fun same => ?_, fun reaches => ?_⟩
      · exact free ⟨first, inside, Files.same_trans found (Files.same_comm _ _ ▸ same)⟩
      · exact inlines.avoids ⟨first, List.mem_cons_of_mem _ inside, found⟩
          ((reaches_iff_reachedFrom holds).1 reaches)
    · exact sound.shuns entry member path active

end

section

variable {load : String → Nat → Reading Block} {first : Inclusion} {rest : List Inclusion}
  {table after : Includes}

/-- The blocks of a list of includes whose first one gives `block`. -/
def following (block : Block) :
    Except ExtractError (List Block) × Includes → Except ExtractError (List Block) × Includes :=
  Prod.map (Except.map (block :: ·)) id

theorem run_loadAll_ok {block : Block}
    (runs : (load first.name first.line).run table = (.ok block, after)) :
    (loadAll load (first :: rest)).run table = following block ((loadAll load rest).run after) := by
  simp only [loadAll, List.mapM_cons]
  rw [run_bind, runs]
  dsimp only
  rw [run_bind]
  generalize ExceptT.run (m := StateM Includes) _ after = outcome
  rcases outcome with ⟨_ | _, _⟩ <;> rfl

theorem run_loadAll_error {error : ExtractError}
    (runs : (load first.name first.line).run table = (.error error, after)) :
    (loadAll load (first :: rest)).run table = (.error error, after) := by
  simp only [loadAll, List.mapM_cons]
  rw [run_bind, runs]

end

/-- A run inlines, and leaves a table that is as sound as the one it started from. -/
structure Follows (files : Files) (shunned chain : List Path) (base : Option Path)
    (list : List Inclusion) (outcome : Except ExtractError (List Block) × Includes) : Prop where
  inlines : Inlines files chain base list outcome.1
  sound : outcome.2.Sound files shunned

/-- Includes are loaded as the rules say, from whatever sound table. -/
theorem loadAll_follows {files : Files} {shunned : List Path} {main : Option Path}
    (chain : Chain files.source) (within : ∀ path ∈ shunned, path ∈ chain.active main)
    {base : Path} {list : List Inclusion} (linked : Linked files shunned (chain.active main) base list)
    {table : Includes} (sound : table.Sound files shunned) :
    Follows files shunned (chain.active main) (some base) list
      ((loadAll (load files.source main chain (some base)) list).run table) := by
  -- A file that is read is loaded within a longer chain, which has less room.
  induction room : chain.room using Nat.strongRecOn generalizing chain base list table with
  | _ room deeper => ?_
  subst room
  induction list generalizing table with
  | nil => exact ⟨.done, sound⟩
  | cons first rest ih =>
    have others := fun {table} => @ih linked.tail table
    by_cases elsewhere : isTemplate (resolve base first.name) = false
    · rw [run_loadAll_ok (run_load_foreign elsewhere)]
      exact ⟨.foreign elsewhere (others sound).inlines, (others sound).sound⟩
    have leads : Leads base first (resolve base first.name) := ⟨rfl, by simpa using elsewhere⟩
    rcases Classical.em (Active (chain.active main) (resolve base first.name)) with active | free
    · rw [run_loadAll_error (run_load_cycle leads active)]
      exact ⟨.cycle leads active, sound⟩
    cases known : table.find? (resolve base first.name) with
    | some block =>
      obtain ⟨nodes, blocks, holds, inlines, rfl⟩ := sound.inlines linked leads known
      rw [run_loadAll_ok (run_load_known leads free known)]
      exact ⟨.inlined leads free holds inlines (others sound).inlines, (others sound).sound⟩
    | none =>
      rcases run_load_unknown leads free known with ⟨cause, missing, runs⟩ |
        ⟨content, error, read, parsed, runs⟩ | ⟨content, nodes, deep, read, parsed, paths, less, runs⟩
      · rw [run_loadAll_error runs]
        exact ⟨.absent leads free missing, sound⟩
      · rw [run_loadAll_error runs]
        exact ⟨.malformed leads free read parsed, sound⟩
      have holds : Holds files (resolve base first.name) nodes := ⟨content, read, parsed⟩
      have pushed : deep.active main = resolve base first.name :: chain.active main := by
        simp only [Chain.active, paths, List.cons_append]
      have inner := deeper deep.room less deep
        (fun path member => pushed ▸ List.mem_cons_of_mem _ (within path member))
        (pushed ▸ linked.push leads holds) sound rfl
      rw [pushed] at inner
      generalize (loadAll (load files.source main deep _) _).run table = outcome at runs inner
      rcases outcome with ⟨error | blocks, after⟩
      · rw [run_loadAll_error runs]
        exact ⟨.broken leads free holds inner.inlines, inner.sound⟩
      · have grown := inner.sound.cons (fun _ ⟨first, member, same⟩ =>
          ⟨first, within first member, same⟩) free holds inner.inlines
        rw [run_loadAll_ok runs]
        exact ⟨.inlined leads free holds inner.inlines (others grown).inlines, (others grown).sound⟩

end Querymap.Pug
