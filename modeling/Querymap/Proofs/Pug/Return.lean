import Querymap.Proofs.Pug.Rounds
import Querymap.Proofs.Pug.Steps
import Querymap.Proofs.Shares

/-! Templates on a disk whose includes lead back to a file that is being inlined. Where no path climbs, the
include names that file by the components it is known by, and is reported as a cycle. A path that climbs
spells the file anew on each round; then inlining goes around until a path happens to repeat or is too
long. -/
namespace Querymap.Pug

open Disk

/-- Following the includes of a template leads back to one of some files that are being inlined, before
anything else fails. The templates on the way lie at the places of `trail`. -/
inductive ComesBack (disk : Disk) : List Place → Path → List Place → Prop
  | back {active : List Place} {base target : Path} {here place : Place} {inclusion : Inclusion} :
      ComesTo disk base here inclusion → Leads base inclusion target → disk.place? target = some place →
      place ∈ active → ComesBack disk active base []
  | on {active trail : List Place} {base target : Path} {here place : Place} {inclusion : Inclusion} :
      ComesTo disk base here inclusion → Leads base inclusion target → disk.place? target = some place →
      ComesBack disk (place :: active) target trail → ComesBack disk active base (place :: trail)

/-- Some path leads up, or may begin anew. -/
def Climbs (disk : Disk) (main : Path) : Prop :=
  main.isAbsolute = false ∨ ".." ∈ main.route ∨
    ∃ entry ∈ disk.entries, ∃ inclusion ∈ includesOf entry.2, ".." ∈ (⟨inclusion.name⟩ : Path).route

/-- The places of a way back are left again, each by an include that is not fine. -/
theorem ComesBack.leaves {disk : Disk} {active trail : List Place} {base : Path} {place : Place}
    (comes : ComesBack disk active base trail) (leads : disk.place? base = some place) :
    ∀ here ∈ place :: trail, ∃ base inclusion target last, ComesTo disk base here inclusion ∧
      Leads base inclusion target ∧ disk.place? target = some last ∧
      (last ∈ place :: trail ∨ last ∈ active) := by
  induction comes generalizing place with
  | back comes onward reached back =>
    cases comes.place?_eq.symm.trans leads
    intro here member
    rw [List.mem_singleton.1 member]
    exact ⟨_, _, _, _, comes, onward, reached, .inr back⟩
  | on comes onward reached rest ih =>
    cases comes.place?_eq.symm.trans leads
    intro here member
    rcases List.mem_cons.1 member with rfl | member
    · exact ⟨_, _, _, _, comes, onward, reached, .inl (by simp)⟩
    · obtain ⟨base, inclusion, target, last, comes', leads', reached', ends⟩ := ih reached here member
      refine ⟨base, inclusion, target, last, comes', leads', reached', ?_⟩
      rcases ends with within | before
      · exact .inl (List.mem_cons_of_mem _ within)
      · rcases List.mem_cons.1 before with rfl | before
        · exact .inl (List.mem_cons_of_mem _ List.mem_cons_self)
        · exact .inr before

/-- The files at some places are being inlined, by plain paths unless some path climbs. -/
def Inlining (disk : Disk) (main : Path) (chain : Chain disk.source) (active : List Place) : Prop :=
  ∀ place ∈ active, ∃ path ∈ chain.active main, (∃ content, Aims disk path place content) ∧
    (Climbs disk main ∨ Plain path)

section

variable {disk : Disk} {main base target : Path} {active trail places : List Place} {place : Place}
  {nodes : Block} {inclusion : Inclusion} {chain : Chain disk.source}
  (tree : disk.IsTree) (linkless : disk.Linkless) (names : NamesIncludes disk)
include tree linkless names

theorem plain_of_leads (shows : Shows disk base place nodes) (member : inclusion ∈ inclusions nodes)
    (leads : Leads base inclusion target) (plain : Climbs disk main ∨ Plain base) :
    Climbs disk main ∨ Plain target := by
  obtain ⟨entry, stored, listed⟩ := shows.mem_includesOf member
  obtain ⟨_, aims, _⟩ := shows.aims tree
  obtain ⟨_, parent, _⟩ := aims_folder tree linkless aims
  by_cases up : ".." ∈ (⟨inclusion.name⟩ : Path).route
  · exact .inl (.inr (.inr ⟨entry, stored, inclusion, listed, up⟩))
  · exact plain.imp_right fun plain =>
      leads.resolved ▸ plain.resolve (names entry stored inclusion listed) parent up

omit tree linkless names in
theorem Inlining.push {within : Chain disk.source} {content : Option String}
    (inlining : Inlining disk main chain active) (paths : within.paths = target :: chain.paths)
    (aims : Aims disk target place content) (plain : Climbs disk main ∨ Plain target) :
    Inlining disk main within (place :: active) := by
  have pushed : within.active main = target :: chain.active main := by
    simp only [Chain.active, paths, List.cons_append]
  intro other member
  rw [pushed]
  rcases List.mem_cons.1 member with rfl | member
  · exact ⟨target, List.mem_cons_self, ⟨_, aims⟩, plain⟩
  · obtain ⟨path, inside, holds⟩ := inlining other member
    exact ⟨path, List.mem_cons_of_mem _ inside, holds⟩

/-- Inlining ends where the includes lead back. -/
theorem ends_of_comesBack (loops : Loops disk places) (comes : ComesBack disk active base trail)
    (shows : Shows disk base place nodes) (before : ∀ place ∈ active, place ∈ places)
    (along : ∀ place ∈ trail, place ∈ places) (plain : Climbs disk main ∨ Plain base)
    (inlining : Inlining disk main chain active) {table : Includes} (shuns : Shuns disk places table) :
    Goes (Climbs disk main) (fun _ => False)
      ((loadAll (load disk.source (some main) chain (some base)) (inclusions nodes)).run table) := by
  induction comes generalizing place nodes chain table with
  | @back active base target here last inclusion comes leads reached back =>
    cases comes.place?_eq.symm.trans shows.place?_eq
    obtain ⟨inner, ends⟩ := loops.shows_of_place? reached (before last back)
    obtain ⟨_, aims, _⟩ := ends.aims tree
    refine ends_of_comesTo tree linkless names loops comes shows (.inl rfl) (fun table shuns => ?_) shuns
    refine goes_load leads (.inl ends) (fun block _ known => ?_) fun within free _ _ _ => ?_
    · exact shuns.notMem aims known (before last back)
    · obtain ⟨others, own, listed⟩ := comes.listed
      obtain ⟨path, member, ⟨_, aims'⟩, ways⟩ := inlining last back
      have climbs : Climbs disk main := by
        rcases ways with climbs | plain'
        · exact climbs
        · refine (plain_of_leads tree linkless names own listed leads plain).resolve_right fun plain => ?_
          exact free ⟨path, member, plain'.same linkless plain aims' aims⟩
      exact ((ends_of_loops tree linkless names loops ends (before last back) within table shuns).imp
        fun _ => climbs).remember fun _ _ none => none
  | @on active trail base target here last inclusion comes leads reached rest ih =>
    cases comes.place?_eq.symm.trans shows.place?_eq
    have member : last ∈ places := along last List.mem_cons_self
    obtain ⟨inner, ends⟩ := loops.shows_of_place? reached member
    obtain ⟨_, aims, _⟩ := ends.aims tree
    refine ends_of_comesTo tree linkless names loops comes shows (.inl rfl) (fun table shuns => ?_) shuns
    refine goes_load leads (.inl ends) (fun block _ known => ?_) fun within free paths _ _ => ?_
    · exact shuns.notMem aims known member
    · obtain ⟨others, own, listed⟩ := comes.listed
      have plain := plain_of_leads tree linkless names own listed leads plain
      refine (ih ends ?_ ?_ plain ?_ shuns).remember fun _ _ none => none
      · exact List.forall_mem_cons.2 ⟨member, before⟩
      · exact fun place inside => along place (List.mem_cons_of_mem _ inside)
      · exact inlining.push paths aims plain

end

/-- A template contributes the elements that are left once its includes are loaded. -/
theorem extractAlone_of_parsed {source : Source} {main : Path} {text : String} {nodes : Block}
    (options : Options) (read : source.read main = .ok text) (template : FileType.ofPath main = .pug)
    (parsed : parse text = .ok nodes) : extractAlone source options main =
      ((loadAll (load source (some main) .empty (some main)) (inclusions nodes)).run []).1.map
        fun blocks => ⟨Markup.record options.scopeMode (events (fill blocks nodes)), none⟩ := by
  have run : (extractFile source options main).run [] =
      (extract source options .pug (some main) text).run [] := by
    rw [extractFile, read, template]
  rw [extractAlone, run, run_extract_pug, run_pug_of_ok parsed]
  generalize (loadAll (load source (some main) .empty (some main)) (inclusions nodes)).run [] = outcome
  rcases outcome with ⟨error | blocks, table⟩ <;> rfl

/-- A template whose includes lead back to a file that is being inlined is reported as a cycle; if paths may
climb, as one that is too long to read. -/
theorem extractAlone_of_comesBack {disk : Disk} {main : Path} {place : Place} {trail : List Place}
    (tree : disk.IsTree) (linkless : disk.Linkless) (names : NamesIncludes disk)
    (template : FileType.ofPath main = .pug) (leads : disk.place? main = some place)
    (comes : ComesBack disk [place] main trail) (options : Options) :
    (∃ target, extractAlone disk.source options main = .error (.includeCycle target)) ∨
      Climbs disk main ∧ ∃ path, extractAlone disk.source options main = .error (.unreadable path .nameTooLong) := by
  have loops : Loops disk (place :: trail) := by
    intro here member
    obtain ⟨base, inclusion, target, last, comes, onward, reached, ends⟩ := comes.leaves leads here member
    refine ⟨base, inclusion, target, last, comes, onward, reached, ?_⟩
    rcases ends with within | before
    · exact within
    · exact List.mem_singleton.1 before ▸ List.mem_cons_self
  obtain ⟨nodes, shows⟩ := loops.shows_of_place? leads List.mem_cons_self
  obtain ⟨text, read, parsed⟩ := shows.read
  obtain ⟨_, aims, _⟩ := shows.aims tree
  have plain : Climbs disk main ∨ Plain main := by
    cases absolute : main.isAbsolute with
    | false => exact .inl (.inl absolute)
    | true =>
      by_cases up : ".." ∈ main.route
      · exact .inl (.inr (.inl up))
      · exact .inr ⟨absolute, up⟩
  have inlining : Inlining disk main .empty [place] := by
    intro other member
    rw [List.mem_singleton.1 member]
    exact ⟨main, by simp [Chain.active], ⟨_, aims⟩, plain⟩
  have shuns : Shuns disk (place :: trail) [] := by simp [Shuns]
  have goes := ends_of_comesBack tree linkless names loops comes shows (by simp)
    (fun _ => List.mem_cons_of_mem _) plain inlining shuns
  rw [extractAlone_of_parsed options read template parsed]
  generalize (loadAll (load disk.source (some main) .empty (some main)) (inclusions nodes)).run [] = outcome
    at goes
  cases goes with
  | on none => contradiction
  | ends error =>
    cases error with
    | cycle target => exact .inl ⟨target, rfl⟩
    | long path climbs => exact .inr ⟨climbs, path, rfl⟩

section

variable {disk : Disk} {path : Path} {place : Place} {text : String} {inclusion : Inclusion}
  {before after : List Inclusion}

/-- A text that can be parsed is a template with the includes that are read off it. -/
theorem shows_of_find (found : disk.find true path = .ok (place, .file (some text)))
    (valid : (parse text).isOk = true) :
    ∃ nodes, Shows disk path place nodes ∧ inclusions nodes = includesOf (.file (some text)) := by
  cases parsed : parse text with
  | error => rw [parsed] at valid; contradiction
  | ok nodes => exact ⟨nodes, ⟨text, found, parsed⟩, by rw [includesOf, parsed]⟩

theorem comesTo_of_find (found : disk.find true path = .ok (place, .file (some text)))
    (valid : (parse text).isOk = true)
    (split : includesOf (.file (some text)) = before ++ inclusion :: after)
    (fine : ∀ other ∈ before, Fine disk path other) : ComesTo disk path place inclusion := by
  obtain ⟨nodes, shows, listed⟩ := shows_of_find found valid
  exact ⟨nodes, before, after, shows, listed.trans split, fine⟩

end

namespace Site

/-- A page whose menu includes the page again. -/
def disk : Disk where
  entries := [
    (["p"], .folder), (["p", "main.pug"], .file (some "include head\ninclude parts/menu")),
    (["p", "head.pug"], .file (some "h1#top")), (["p", "parts"], .folder),
    (["p", "parts", "menu.pug"], .file (some "include /p/main"))]

theorem isTree : disk.IsTree := ⟨by decide, by decide⟩

theorem linkless : disk.Linkless := by
  simp [Linkless, disk]

theorem names : NamesIncludes disk := by
  unfold NamesIncludes HasName
  decide +kernel

theorem fine : Fine disk ⟨"/p/main.pug"⟩ ⟨"head", 1⟩ := by
  obtain ⟨nodes, shows, listed⟩ :=
    @shows_of_find disk ⟨"/p/head.pug"⟩ _ "h1#top" (by rfl) (by decide +kernel)
  have none : includesOf (.file (some "h1#top")) = [] := by decide +kernel
  exact .template ⟨by decide, by decide⟩ shows (by simp [listed, none])

theorem comesBack : ComesBack disk [["p", "main.pug"]] ⟨"/p/main.pug"⟩ [["p", "parts", "menu.pug"]] := by
  have menu : ComesTo disk ⟨"/p/main.pug"⟩ ["p", "main.pug"] ⟨"parts/menu", 2⟩ :=
    @comesTo_of_find disk _ _ "include head\ninclude parts/menu" _ [⟨"head", 1⟩] [] (by rfl) (by decide +kernel)
      (by decide +kernel) (by simpa using fine)
  have main : ComesTo disk ⟨"/p/parts/menu.pug"⟩ ["p", "parts", "menu.pug"] ⟨"/p/main", 1⟩ :=
    @comesTo_of_find disk _ _ "include /p/main" _ [] [] (by rfl) (by decide +kernel)
      (by decide +kernel) (by simp)
  have down : Leads ⟨"/p/main.pug"⟩ ⟨"parts/menu", 2⟩ ⟨"/p/parts/menu.pug"⟩ :=
    ⟨by decide, by decide⟩
  have back : Leads ⟨"/p/parts/menu.pug"⟩ ⟨"/p/main", 1⟩ ⟨"/p/main.pug"⟩ :=
    ⟨by decide, by decide⟩
  have reached : disk.place? ⟨"/p/main.pug"⟩ = some ["p", "main.pug"] := by decide
  exact .on menu down (by decide) (.back main back reached (by simp))

end Site

/-- A menu that includes its page by the path from the root. -/
theorem extractAlone_of_comesBack_site :
    (∃ target, extractAlone Site.disk.source {} ⟨"/p/main.pug"⟩ = .error (.includeCycle target)) ∨
      Climbs Site.disk ⟨"/p/main.pug"⟩ ∧
        ∃ path, extractAlone Site.disk.source {} ⟨"/p/main.pug"⟩ = .error (.unreadable path .nameTooLong) :=
  extractAlone_of_comesBack Site.isTree Site.linkless Site.names (by decide +kernel) (by decide +kernel)
    Site.comesBack {}

namespace Detour

/-- A page that includes itself by way of the folder that it is in. -/
def disk : Disk where
  entries := [(["a"], .folder), (["a", "main.pug"], .file (some "include ../a/main"))]

theorem isTree : disk.IsTree := ⟨by decide, by decide⟩

theorem parse_main : parse "include ../a/main" = .ok [.include "../a/main" 1] :=
  parse_line rfl rfl (readLine_node rfl) (readChildren_none (by simp [Outside])) rfl

theorem comesBack : ComesBack disk [["a", "main.pug"]] ⟨"/a/main.pug"⟩ [] := by
  have main : ComesTo disk ⟨"/a/main.pug"⟩ ["a", "main.pug"] ⟨"../a/main", 1⟩ :=
    ⟨_, [], [], ⟨_, by rfl, parse_main⟩, by rfl, by simp⟩
  have back : Leads ⟨"/a/main.pug"⟩ ⟨"../a/main", 1⟩ ⟨"/a/../a/main.pug"⟩ :=
    ⟨by decide, by decide⟩
  have reached : disk.place? ⟨"/a/../a/main.pug"⟩ = some ["a", "main.pug"] := by decide
  exact .back main back reached (by simp)

/-- Whatever can be read is the page. -/
theorem eq_of_read {path : Path} {content : String} (read : disk.read path = .ok content) :
    content = "include ../a/main" := by
  obtain ⟨place, _, stands⟩ := read_eq_ok_iff.1 read
  rcases mem_entries_of_get? stands with rfl | member
  · cases stands
  · have own : place = ["a", "main.pug"] ∧ content = "include ../a/main" := by simpa [disk] using member
    exact own.2

theorem hasName : HasName "../a/main" := by
  unfold HasName
  decide

theorem exists_parent? {base : Path} {content : String} (read : disk.read base = .ok content) :
    ∃ folder, base.parent? = some folder ∧ base.route.length = folder.route.length + 1 := by
  obtain ⟨place, found⟩ := read_eq_ok_iff_exists_find.1 read
  obtain ⟨folder, name, _, parent, _, route, _⟩ := (aims_of_find isTree found).parent isTree
  exact ⟨folder, parent, by rw [route, List.length_append, List.length_singleton]⟩

/-- Each round spells two more names. -/
theorem length_route_resolve {base : Path} {content : String} (read : disk.read base = .ok content) :
    (resolve base "../a/main").route.length = base.route.length + 2 := by
  obtain ⟨folder, parent, length⟩ := exists_parent? read
  have added : (included "../a/main").filterMap Path.Component.name? = ["..", "a", "main.pug"] := by
    decide
  rw [(route_resolve (by decide) hasName parent disk).1, added, List.length_append, length]
  rfl

theorem not_active {main base : Path} {chain : Chain disk.source} {content : String}
    (read : disk.read base = .ok content)
    (short : ∀ path ∈ chain.active main, path.route.length ≤ base.route.length) :
    ¬Active (chain.active main) (resolve base "../a/main") := by
  rintro ⟨path, inside, same⟩
  have long := length_route_resolve read
  rw [← route_of_same same] at long
  have := short path inside
  omega

theorem isTemplate_resolve {base : Path} {content : String} (read : disk.read base = .ok content) :
    isTemplate (resolve base "../a/main") = true := by
  obtain ⟨folder, parent, _⟩ := exists_parent? read
  have own : (⟨"/a/main.pug"⟩ : Path).parent? = some ⟨"/a"⟩ := by decide
  rw [Pug.isTemplate_resolve hasName parent own]
  decide

/-- The page is read again and again. -/
theorem run_load {main base : Path} {chain : Chain disk.source} {content : String}
    (read : disk.read base = .ok content)
    (short : ∀ path ∈ chain.active main, path.route.length ≤ base.route.length) :
    ∃ path cause, (load disk.source (some main) chain (some base) "../a/main" 1).run [] =
      (.error (.unreadable path cause), []) := by
  induction room : chain.room using Nat.strongRecOn generalizing chain base content with
  | _ room deeper => ?_
  subst room
  have leads : Leads base ⟨"../a/main", 1⟩ (resolve base "../a/main") := ⟨rfl, isTemplate_resolve read⟩
  have free := not_active read short
  rcases @run_load_unknown _ _ _ _ _ _ _ [] leads free rfl with ⟨cause, _, runs⟩ |
    ⟨content, error, text, unparsed, runs⟩ | ⟨content, nodes, within, text, parsed, paths, less, runs⟩
  · exact ⟨_, cause, runs⟩
  · obtain rfl := eq_of_read (source_read ▸ text)
    cases parse_main.symm.trans unparsed
  · have listed : inclusions nodes = [⟨"../a/main", 1⟩] := by
      obtain rfl := eq_of_read (source_read ▸ text)
      cases parse_main.symm.trans parsed
      rfl
    have longer := length_route_resolve read
    obtain ⟨path, cause, ends⟩ := deeper within.room less (source_read ▸ text) (fun path inside => by
      rw [Chain.active, paths, List.cons_append] at inside
      rcases List.mem_cons.1 inside with rfl | inside
      · exact Nat.le_refl _
      · have := short path inside
        omega) rfl
    rw [listed, run_loadAll_error ends] at runs
    exact ⟨path, cause, runs⟩

end Detour

/-- A page that spells itself anew in each round is not reported to include itself. -/
theorem detour_unnoticed : Detour.disk.IsTree ∧ Detour.disk.Linkless ∧
    ComesBack Detour.disk [["a", "main.pug"]] ⟨"/a/main.pug"⟩ [] ∧
    ¬∃ target, extractAlone Detour.disk.source {} ⟨"/a/main.pug"⟩ = .error (.includeCycle target) := by
  refine ⟨Detour.isTree, by simp [Linkless, Detour.disk], Detour.comesBack, ?_⟩
  rintro ⟨target, fails⟩
  have read : Detour.disk.read ⟨"/a/main.pug"⟩ = .ok "include ../a/main" := by rfl
  obtain ⟨path, cause, ends⟩ :=
    @Detour.run_load ⟨"/a/main.pug"⟩ _ .empty _ read (by simp [Chain.active, Chain.empty])
  have listed : inclusions [.include "../a/main" 1] = [⟨"../a/main", 1⟩] := by rfl
  rw [extractAlone_of_parsed {} read (by decide +kernel) Detour.parse_main, listed,
    run_loadAll_error ends] at fails
  cases fails

end Querymap.Pug
