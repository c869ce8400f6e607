import Querymap.Proofs.Pug.Resolution
import Querymap.Proofs.Pug.IncludeTable

/-! Templates whose includes go around. Loading one of them cannot succeed: nothing on the way is ever
remembered, and each round is inlined within a longer chain, which has less room. -/
namespace Querymap.Pug

open Disk

/-- A path leads to a template. -/
def Shows (disk : Disk) (path : Path) (place : Place) (nodes : Block) : Prop :=
  ∃ text, disk.find true path = .ok (place, .file (some text)) ∧ parse text = .ok nodes

/-- An include that is inlined without failure. -/
inductive Fine (disk : Disk) : Path → Inclusion → Prop
  | foreign {base : Path} {inclusion : Inclusion} :
      isTemplate (resolve base inclusion.name) = false → Fine disk base inclusion
  | template {base target : Path} {inclusion : Inclusion} {place : Place} {nodes : Block} :
      Leads base inclusion target → Shows disk target place nodes →
      (∀ inner ∈ inclusions nodes, Fine disk target inner) → Fine disk base inclusion

/-- All includes of a template before this one are fine. -/
def ComesTo (disk : Disk) (base : Path) (place : Place) (inclusion : Inclusion) : Prop :=
  ∃ nodes before after, Shows disk base place nodes ∧ inclusions nodes = before ++ inclusion :: after ∧
    ∀ other ∈ before, Fine disk base other

/-- The includes of the template that an entry holds. -/
def includesOf : Entry → List Inclusion
  | .file (some text) =>
    match parse text with
    | .ok nodes => inclusions nodes
    | .error _ => []
  | _ => []

/-- All includes have names of their own. -/
def NamesIncludes (disk : Disk) : Prop :=
  ∀ entry ∈ disk.entries, ∀ inclusion ∈ includesOf entry.2, HasName inclusion.name

/-- The error of a cycle, or of a path that is too long where there may be one. -/
inductive EndsIn (long : Prop) : ExtractError → Prop
  | cycle (target : Path) : EndsIn long (.includeCycle target)
  | long (path : Path) : long → EndsIn long (.unreadable path .nameTooLong)

/-- A run that goes on with a good table, or ends. -/
inductive Goes (long : Prop) (good : Includes → Prop) {α : Type} : Except ExtractError α × Includes → Prop
  | on {value : α} {after : Includes} : good after → Goes long good (.ok value, after)
  | ends {error : ExtractError} {after : Includes} : EndsIn long error → Goes long good (.error error, after)

section

variable {disk : Disk} {base other target : Path} {place : Place} {nodes : Block} {inclusion : Inclusion}

theorem Shows.get? (shows : Shows disk base place nodes) :
    ∃ text, disk.get? place = some (.file (some text)) ∧ parse text = .ok nodes := by
  obtain ⟨text, found, parsed⟩ := shows
  exact ⟨text, (find_eq_ok_iff.1 found).2, parsed⟩

theorem Shows.unique {others : Block} (first : Shows disk base place nodes)
    (second : Shows disk other place others) : nodes = others := by
  obtain ⟨text, stands, parsed⟩ := first.get?
  obtain ⟨text', stands', parsed'⟩ := second.get?
  cases stands.symm.trans stands'
  exact Except.ok.inj (parsed.symm.trans parsed')

theorem Shows.mem_includesOf (shows : Shows disk base place nodes) (member : inclusion ∈ inclusions nodes) :
    ∃ entry ∈ disk.entries, inclusion ∈ includesOf entry.2 := by
  obtain ⟨text, stands, parsed⟩ := shows.get?
  refine ⟨_, (mem_entries_of_get? stands).resolve_left ?_, ?_⟩
  · rintro rfl
    cases stands
  · rw [includesOf, parsed]
    exact member

theorem Shows.place?_eq (shows : Shows disk base place nodes) : disk.place? base = some place := by
  obtain ⟨text, found, _⟩ := shows
  rw [Disk.place?, found]
  rfl

theorem ComesTo.listed (comes : ComesTo disk base place inclusion) :
    ∃ nodes, Shows disk base place nodes ∧ inclusion ∈ inclusions nodes := by
  obtain ⟨nodes, before, after, shows, split, _⟩ := comes
  exact ⟨nodes, shows, by simp [split]⟩

theorem ComesTo.place?_eq (comes : ComesTo disk base place inclusion) : disk.place? base = some place := by
  obtain ⟨_, shows, _⟩ := comes.listed
  exact shows.place?_eq

theorem Shows.aims (tree : disk.IsTree) (shows : Shows disk base place nodes) :
    ∃ text, Aims disk base place (some text) ∧ parse text = .ok nodes := by
  obtain ⟨text, found, parsed⟩ := shows
  exact ⟨text, aims_of_find tree found, parsed⟩

theorem Shows.read (shows : Shows disk base place nodes) :
    ∃ text, disk.read base = .ok text ∧ parse text = .ok nodes := by
  obtain ⟨text, found, parsed⟩ := shows
  exact ⟨text, read_eq_ok_iff_exists_find.2 ⟨place, found⟩, parsed⟩

theorem shows_of_read (tree : disk.IsTree) {text content : String} (aims : Aims disk base place (some text))
    (read : disk.read base = .ok content) (parsed : parse content = .ok nodes) :
    Shows disk base place nodes := by
  obtain ⟨last, found⟩ := read_eq_ok_iff_exists_find.1 read
  cases (aims_of_find tree found).walked.symm.trans aims.walked
  exact ⟨content, found, parsed⟩

/-- Templates at one place include the same templates, if the paths do not get too long. -/
theorem Shows.included (tree : disk.IsTree) (linkless : disk.Linkless) (names : NamesIncludes disk)
    {others inner : Block} {last : Place} (shows : Shows disk base place nodes)
    (shows' : Shows disk other place others) (member : inclusion ∈ inclusions nodes)
    (leads : Leads base inclusion target) (ends : Shows disk target last inner) :
    Leads other inclusion (resolve other inclusion.name) ∧
      (∃ text, Aims disk (resolve other inclusion.name) last (some text)) ∧
      (Shows disk (resolve other inclusion.name) last inner ∨
        disk.read (resolve other inclusion.name) = .error .nameTooLong) := by
  obtain ⟨entry, stored, listed⟩ := shows.mem_includesOf member
  obtain ⟨text, found, _⟩ := shows
  obtain ⟨text', found', _⟩ := shows'
  obtain ⟨content, read, parsed⟩ := ends.read
  obtain ⟨_, aims, leads', aims', reads⟩ :=
    read_resolve tree linkless found found' (names entry stored inclusion listed) leads read
  obtain ⟨_, own, _⟩ := ends.aims tree
  cases aims.walked.symm.trans own.walked
  exact ⟨leads', ⟨_, aims'⟩, reads.imp_left fun read => shows_of_read tree aims' read parsed⟩

/-- No known template lies at one of the places. -/
def Shuns (disk : Disk) (shunned : List Place) (table : Includes) : Prop :=
  ∀ entry ∈ table, ∀ place content, Aims disk entry.1 place content → place ∉ shunned

/-- An include that leads to a known template does not lead to one of the places. -/
theorem Shuns.notMem {places : List Place} {table : Includes} {block : Block} {content : Option String}
    (shuns : Shuns disk places table) (aims : Aims disk target place content)
    (known : table.find? target = some block) : place ∉ places := by
  simp only [Includes.find?, Option.map_eq_some_iff] at known
  obtain ⟨entry, found, _⟩ := known
  have same := List.find?_some found
  exact shuns entry (List.mem_of_find?_eq_some found) place content
    (aims.of_same (Files.same_comm _ _ ▸ same))

/-- The first include that is not fine leads from each of the places to one of them. -/
def Loops (disk : Disk) (places : List Place) : Prop :=
  ∀ place ∈ places, ∃ base inclusion target last, ComesTo disk base place inclusion ∧
    Leads base inclusion target ∧ disk.place? target = some last ∧ last ∈ places

theorem Loops.shows {places : List Place} (loops : Loops disk places) (member : place ∈ places) :
    ∃ base nodes, Shows disk base place nodes := by
  obtain ⟨base, _, _, _, ⟨nodes, _, _, shows, _⟩, _⟩ := loops place member
  exact ⟨base, nodes, shows⟩

/-- A path to one of the places leads to the template there. -/
theorem Loops.shows_of_place? {places : List Place} (loops : Loops disk places)
    (leads : disk.place? target = some place) (member : place ∈ places) :
    ∃ nodes, Shows disk target place nodes := by
  obtain ⟨base, nodes, shows⟩ := loops.shows member
  obtain ⟨text, stands, parsed⟩ := shows.get?
  exact ⟨nodes, text, find_eq_ok_iff.2 ⟨(place?_eq_some_iff.1 leads).1, stands⟩, parsed⟩

/-- What is inlined without failure lies at none of the places. -/
theorem Fine.notMem (tree : disk.IsTree) (linkless : disk.Linkless) (names : NamesIncludes disk)
    {places : List Place} (loops : Loops disk places) {content : Option String} (fine : Fine disk base inclusion)
    (leads : Leads base inclusion target) (aims : Aims disk target place content) : place ∉ places := by
  induction fine generalizing target place content with
  | foreign elsewhere => exact absurd elsewhere leads.not_foreign
  | @template base own inclusion here nodes leads' shows fine ih =>
    obtain rfl := leads.unique leads'
    obtain ⟨_, aims', _⟩ := shows.aims tree
    cases aims.walked.symm.trans aims'.walked
    intro member
    obtain ⟨first, inner, next, last, ⟨others, before, after, shows', split, _⟩, leadsOn, reached, back⟩ :=
      loops _ member
    obtain rfl := shows.unique shows'
    have listed : inner ∈ inclusions nodes := by simp [split]
    obtain ⟨nodes', ends⟩ := loops.shows_of_place? reached back
    obtain ⟨leads, ⟨_, aims⟩, _⟩ := shows'.included tree linkless names shows listed leadsOn ends
    exact ih inner listed leads aims back

end

section

variable {long : Prop} {good : Includes → Prop} {load : String → Nat → Reading Block} {table : Includes}
  {inclusion : Inclusion} {list before after : List Inclusion}

theorem Goes.imp {α : Type} {shorter : Prop} {outcome : Except ExtractError α × Includes}
    (goes : Goes long good outcome) (imp : long → shorter) : Goes shorter good outcome := by
  cases goes with
  | on kept => exact .on kept
  | ends error =>
    refine .ends ?_
    cases error with
    | cycle target => exact .cycle target
    | long path may => exact .long path (imp may)

theorem Goes.following {block : Block} {outcome : Except ExtractError (List Block) × Includes}
    (goes : Goes long good outcome) : Goes long good (following block outcome) := by
  cases goes with
  | on kept => exact .on kept
  | ends error => exact .ends error

theorem Goes.remember {target : Path} {nodes : Block} {good' : Includes → Prop}
    {outcome : Except ExtractError (List Block) × Includes} (goes : Goes long good outcome)
    (keeps : ∀ block after, good after → good' ((target, block) :: after)) :
    Goes long good' (remember target nodes outcome) := by
  cases goes with
  | on kept => exact .on (keeps _ _ kept)
  | ends error => exact .ends error

/-- Includes go on as each of them does. -/
theorem goes_loadAll
    (each : ∀ inclusion ∈ list, ∀ table, good table →
      Goes long good ((load inclusion.name inclusion.line).run table)) (kept : good table) :
    Goes long good ((loadAll load list).run table) := by
  induction list generalizing table with
  | nil => exact .on kept
  | cons first rest ih =>
    obtain ⟨here, later⟩ := List.forall_mem_cons.1 each
    generalize ran : (load first.name first.line).run table = outcome
    have goes := here table kept
    rw [ran] at goes
    cases goes with
    | on kept =>
      rw [run_loadAll_ok ran]
      exact (ih later kept).following
    | ends error =>
      rw [run_loadAll_error ran]
      exact .ends error

/-- A list of includes ends where one of them does, if those before it go on. -/
theorem ends_loadAll
    (each : ∀ inclusion ∈ before, ∀ table, good table →
      Goes long good ((load inclusion.name inclusion.line).run table))
    (last : ∀ table, good table → Goes long (fun _ => False) ((load inclusion.name inclusion.line).run table))
    (kept : good table) :
    Goes long (fun _ => False) ((loadAll load (before ++ inclusion :: after)).run table) := by
  induction before generalizing table with
  | nil =>
    generalize ran : (load inclusion.name inclusion.line).run table = outcome
    have goes := last table kept
    rw [ran] at goes
    cases goes with
    | on none => contradiction
    | ends error =>
      rw [List.nil_append, run_loadAll_error ran]
      exact .ends error
  | cons first rest ih =>
    obtain ⟨here, later⟩ := List.forall_mem_cons.1 each
    generalize ran : (load first.name first.line).run table = outcome
    have goes := here table kept
    rw [ran] at goes
    rw [List.cons_append]
    cases goes with
    | on kept =>
      rw [run_loadAll_ok ran]
      exact (ih later kept).following
    | ends error =>
      rw [run_loadAll_error ran]
      exact .ends error

end

/-- An include of a template ends with a cycle or a path that is too long, or goes on as the template does. -/
theorem goes_load {disk : Disk} {main : Option Path} {long : Prop} {good : Includes → Prop}
    {chain : Chain disk.source} {base target : Path} {inclusion : Inclusion} {place : Place}
    {nodes : Block} {table : Includes} (leads : Leads base inclusion target)
    (reads : Shows disk target place nodes ∨ disk.read target = .error .nameTooLong ∧ long)
    (known : ∀ block, ¬Active (chain.active main) target → table.find? target = some block → good table)
    (read : ∀ within : Chain disk.source, ¬Active (chain.active main) target →
      within.paths = target :: chain.paths → within.room < chain.room → Shows disk target place nodes →
      Goes long good (remember target nodes
        ((loadAll (load disk.source main within (some target)) (inclusions nodes)).run table))) :
    Goes long good ((load disk.source main chain (some base) inclusion.name inclusion.line).run table) := by
  rcases Classical.em (Active (chain.active main) target) with active | free
  · rw [run_load_cycle leads active]
    exact .ends (.cycle _)
  cases found : table.find? target with
  | some block =>
    rw [run_load_known leads free found]
    exact .on (known block free found)
  | none =>
    rcases run_load_unknown leads free found with ⟨cause, missing, runs⟩ |
      ⟨content, error, text, unparsed, runs⟩ | ⟨content, others, within, text, parsed, paths, less, runs⟩
    · rw [runs]
      rcases reads with shows | ⟨tooLong, may⟩
      · obtain ⟨_, text, _⟩ := shows.read
        cases text.symm.trans missing
      · cases tooLong.symm.trans missing
        exact .ends (.long _ may)
    · rcases reads with shows | ⟨tooLong, _⟩
      · obtain ⟨_, text', parsed⟩ := shows.read
        cases text.symm.trans text'
        cases unparsed.symm.trans parsed
      · cases tooLong.symm.trans text
    · rcases reads with shows | ⟨tooLong, _⟩
      · obtain ⟨_, text', parsed'⟩ := shows.read
        cases text.symm.trans text'
        cases parsed.symm.trans parsed'
        rw [runs]
        exact read within free paths less shows
      · cases tooLong.symm.trans text

section

variable {disk : Disk} {main : Option Path} {places : List Place} {long : Prop}
  (tree : disk.IsTree) (linkless : disk.Linkless) (names : NamesIncludes disk) (loops : Loops disk places)
include tree linkless names loops

/-- What is inlined without failure goes on from wherever it is included, unless it is active there or its
path is too long. -/
theorem goes_of_fine {base other : Path} {here : Place} {nodes others : Block} {inclusion : Inclusion}
    (fine : Fine disk base inclusion) (shows : Shows disk base here nodes)
    (shows' : Shows disk other here others) (member : inclusion ∈ inclusions nodes) (near : other = base ∨ long)
    (chain : Chain disk.source) (table : Includes) (shuns : Shuns disk places table) :
    Goes long (Shuns disk places)
      ((load disk.source main chain (some other) inclusion.name inclusion.line).run table) := by
  induction fine generalizing other here nodes others chain table with
  | @foreign base inclusion elsewhere =>
    obtain ⟨_, aims, _⟩ := shows.aims tree
    obtain ⟨_, aims', _⟩ := shows'.aims tree
    obtain ⟨_, parent, _⟩ := aims_folder tree linkless aims
    obtain ⟨_, parent', _⟩ := aims_folder tree linkless aims'
    obtain ⟨entry, stored, listed⟩ := shows.mem_includesOf member
    rw [isTemplate_resolve (names entry stored inclusion listed) parent parent'] at elsewhere
    rw [run_load_foreign elsewhere]
    exact .on shuns
  | @template base target inclusion place inner leads ends fine ih =>
    obtain ⟨_, aims, _⟩ := ends.aims tree
    have apart := (Fine.template leads ends fine).notMem tree linkless names loops leads aims
    obtain ⟨leads', ⟨text, aims'⟩, reads⟩ := shows.included tree linkless names shows' member leads ends
    have near' : resolve other inclusion.name = target ∨ long := by
      rcases near with rfl | may
      · exact .inl leads.resolved
      · exact .inr may
    have reads : Shows disk (resolve other inclusion.name) place inner ∨
        disk.read (resolve other inclusion.name) = .error .nameTooLong ∧ long := by
      rcases near' with same | may
      · exact .inl (same ▸ ends)
      · exact reads.imp_right fun tooLong => ⟨tooLong, may⟩
    refine goes_load leads' reads (fun _ _ _ => shuns) fun within _ _ _ shows' => ?_
    have goes := goes_loadAll (fun own member table shuns =>
      ih own member ends shows' member near' within table shuns) shuns
    refine goes.remember fun block after kept entry member last content reached => ?_
    rcases List.mem_cons.1 member with rfl | member
    · cases aims'.walked.symm.trans reached.walked
      exact apart
    · exact kept entry member last content reached

/-- A template ends as the first of its includes does that is not fine. -/
theorem ends_of_comesTo {base other : Path} {here : Place} {nodes : Block} {inclusion : Inclusion}
    {chain : Chain disk.source} (comes : ComesTo disk base here inclusion) (shows : Shows disk other here nodes)
    (near : other = base ∨ long)
    (last : ∀ table, Shuns disk places table → Goes long (fun _ => False)
      ((load disk.source main chain (some other) inclusion.name inclusion.line).run table))
    {table : Includes} (shuns : Shuns disk places table) :
    Goes long (fun _ => False)
      ((loadAll (load disk.source main chain (some other)) (inclusions nodes)).run table) := by
  obtain ⟨others, before, after, shows', split, fine⟩ := comes
  obtain rfl := shows.unique shows'
  rw [split]
  refine ends_loadAll (fun own inside table shuns => ?_) last shuns
  exact goes_of_fine tree linkless names loops (fine own inside) shows' shows (by simp [split, inside])
    near chain table shuns

/-- From one of the places, inlining goes around until it ends. -/
theorem ends_of_loops {base : Path} {place : Place} {nodes : Block} (shows : Shows disk base place nodes)
    (member : place ∈ places) (chain : Chain disk.source) (table : Includes)
    (shuns : Shuns disk places table) :
    Goes True (fun _ => False)
      ((loadAll (load disk.source main chain (some base)) (inclusions nodes)).run table) := by
  -- A file that is read is loaded within a longer chain, which has less room.
  induction room : chain.room using Nat.strongRecOn generalizing chain base place nodes table with
  | _ room deeper => ?_
  subst room
  obtain ⟨first, inclusion, target, last, comes, leads, reached, back⟩ := loops place member
  obtain ⟨inner, ends⟩ := loops.shows_of_place? reached back
  obtain ⟨others, shows', listed⟩ := comes.listed
  obtain rfl := shows.unique shows'
  obtain ⟨leads', ⟨text, aims⟩, reads⟩ := shows'.included tree linkless names shows listed leads ends
  refine ends_of_comesTo tree linkless names loops comes shows (.inr trivial) (fun table shuns => ?_) shuns
  refine goes_load leads' (reads.imp_right fun tooLong => ⟨tooLong, trivial⟩) (fun block _ known => ?_)
    fun within _ _ less shows => ?_
  · exact shuns.notMem aims known back
  · exact (deeper within.room less shows back within table shuns rfl).remember fun _ _ none => none

end

end Querymap.Pug
