import Querymap.Proofs.Cache.Freshness
import Querymap.Proofs.Pug.Heads
import Querymap.Proofs.Shares

/-! What word of a changed file renews. Only the changed file itself is extracted again, so the entries
of the templates that include it are those from before the change. -/
namespace Querymap

namespace Pug

/-- A template whose includes are inlined without failure depends on the files it reaches only. -/
theorem Extracts.transport {files other : Files} {mode : Markup.ScopeMode} {path : Path}
    {content : String} {map : ScopeMap} (extracts : Extracts files mode (some path) content (.ok map))
    (read : files.read path = .ok content)
    (agree : ∀ target text, Reaches files path target → files.read target = .ok text →
      other.read target = .ok text) :
    Extracts other mode (some path) content (.ok map) := by
  cases extracts with
  | done parsed inlines =>
    have reaches := fun target => (reaches_iff_reachedFrom (a := target) ⟨content, read, parsed⟩).2
    exact .done parsed (inlines.transport (by simp [Path.same]) (fun _ => inlines.avoids)
      fun target text reached => agree target text (reaches target reached))

end Pug

variable {files : Files} {options : Options} {path changed : Path} {content : String}

theorem extractAlone_template (template : FileType.ofPath path = .pug)
    (read : files.read path = .ok content) :
    extractAlone files.source options path =
      ((Extract.pug files.source options.scopeMode (some path) content).run []).1.map (⟨·, none⟩) := by
  simp only [extractAlone, extractFile, Files.source, read]
  rw [template]
  exact congrArg Prod.fst (run_extract_pug files.source options (some path) content [])

theorem extractAlone_of_extracts {result : Except ExtractError ScopeMap}
    (template : FileType.ofPath path = .pug) (read : files.read path = .ok content)
    (extracts : Pug.Extracts files options.scopeMode (some path) content result) :
    extractAlone files.source options path = result.map (⟨·, none⟩) := by
  rw [extractAlone_template template read, (Pug.pug_extracts_afresh ..).unique extracts]

/-- Neither the file itself nor, from a template, any file that it reaches is the changed one. -/
structure Unaffected (files : Files) (changed path : Path) : Prop where
  other : changed.same path = false
  apart : FileType.ofPath path = .pug → ¬Pug.Reaches files path changed

theorem Unaffected.extractAlone (unaffected : Unaffected files changed path) {extracted : Extracted}
    (succeeds : extractAlone files.source options path = .ok extracted) :
    Querymap.extractAlone (files.write changed content).source options path = .ok extracted := by
  have kept : ∀ {target : Path}, changed.same target = false →
      (files.write changed content).source.read target = files.source.read target :=
    files.read_edit_of_ne (.write changed content)
  by_cases template : FileType.ofPath path = .pug
  · cases read : files.read path with
    | error cause =>
      simp [Querymap.extractAlone, extractFile, Files.source, read] at succeeds
      contradiction
    | ok text =>
      have extracts := Pug.pug_extracts_afresh files options.scopeMode (some path) text
      rw [extractAlone_of_extracts template read extracts] at succeeds
      obtain ⟨map, same, rfl⟩ := Pug.map_eq_ok succeeds
      rw [same] at extracts
      refine extractAlone_of_extracts template ((kept unaffected.other).trans read)
        (extracts.transport read fun target other reaches found => (kept ?_).trans found)
      refine Bool.eq_false_iff.2 fun equal => unaffected.apart template ?_
      exact reaches.of_same_right (Files.same_comm _ _ ▸ equal)
  · have free : files.source.Includeless path := fun text _ => includeless_of_ne template text
    rw [← succeeds]
    exact (extractAlone_congr options free (kept unaffected.other).symm).symm

namespace Cache

variable {cache renewed : Cache} {paths : List Path}

theorem refresh_outcome (cache : Cache) (files : Files) (options : Options) (paths : List Path) :
    extractFiles files.source options cache.entries.keys paths =
      .ofFunction (extractAlone files.source options) (cache.unknown paths) := by
  rw [extractFiles, extractShares_eq_ofFunction, asked, List.flatten_singleton, unknown]

theorem refresh_succeeds (read : ∀ path ∈ cache.unknown paths,
      ∃ extracted, extractAlone files.source options path = .ok extracted) :
    ∃ renewed, (cache.refresh files.source options paths).2 = .ok renewed := by
  simp only [refresh, refresh_outcome, Outcome.errors_eq_nil_iff.2 read]
  exact ⟨_, rfl⟩

theorem read_of_refresh (done : (cache.refresh files.source options paths).2 = .ok renewed) :
    ∀ path ∈ cache.unknown paths,
      ∃ extracted, extractAlone files.source options path = .ok extracted := by
  simp only [refresh, refresh_outcome] at done
  refine Outcome.errors_eq_nil_iff.1 ?_
  split at done
  · contradiction
  · assumption

/-- A refresh keeps what it knows of the listed files and extracts the others. -/
theorem get?_of_refresh (done : (cache.refresh files.source options paths).2 = .ok renewed)
    (path : Path) :
    renewed.get? path =
      if path ∈ paths then
        (cache.get? path).or ((extractAlone files.source options path).toOption.map (·.map))
      else none := by
  simp only [refresh, refresh_outcome] at done
  split at done
  · contradiction
  · cases done
    simp only [get?]
    rw [get?_renewed]
    by_cases listed : path ∈ paths
    · simp only [if_pos listed]
      cases known : cache.entries.get? path.spelling with
      | some entry => rfl
      | none =>
        simp only [Option.none_or, Option.map_none, Option.map_map, Function.comp_def, Option.map_id']
        have unknown : path ∈ cache.unknown paths := mem_unknown.2 ⟨listed, known⟩
        refine Option.ext fun map => ?_
        rw [Outcome.get?_typings_ofFunction]
        cases extractAlone files.source options path <;> simp [unknown, Except.toOption]
    · simp only [if_neg listed, Option.map_none]

/-- The entry of a path is what its file gives now. -/
def Current (cache : Cache) (files : Files) (options : Options) (path : Path) : Prop :=
  ∃ extracted, extractAlone files.source options path = .ok extracted ∧
    cache.get? path = some extracted.map

theorem get?_forget (cache : Cache) (changed path : Path) :
    (cache.forget changed).get? path = if path = changed then none else cache.get? path := by
  obtain ⟨name⟩ := path
  obtain ⟨gone⟩ := changed
  simp only [get?, forget, Dict.get?_erase, Path.mk.injEq]
  split <;> rfl

theorem get?_eq_none {cache : Cache} {path : Path} :
    cache.get? path = none ↔ cache.entries.get? path.spelling = none :=
  Option.map_eq_none_iff

/-- What is not known yet is extracted from the files as they are. -/
theorem current_of_refresh (done : (cache.refresh files.source options paths).2 = .ok renewed)
    (listed : path ∈ paths) (unknown : cache.get? path = none) :
    renewed.Current files options path := by
  obtain ⟨extracted, read⟩ := read_of_refresh done path (mem_unknown.2 ⟨listed, get?_eq_none.1 unknown⟩)
  refine ⟨extracted, read, ?_⟩
  rw [get?_of_refresh done, if_pos listed, unknown, read]
  rfl

theorem kept_of_refresh (done : (cache.refresh files.source options paths).2 = .ok renewed)
    (listed : path ∈ paths) {map : ScopeMap} (known : cache.get? path = some map) :
    renewed.get? path = some map := by
  rw [get?_of_refresh done, if_pos listed, known, Option.some_or]

/-- If every entry is what its file gives now, so is the model. -/
theorem model_of_current (done : (cache.refresh files.source options paths).2 = .ok renewed)
    {now : Files} (current : ∀ path ∈ paths, renewed.Current now options path) :
    .ok renewed.model = (extractFiles now.source options [] paths).model := by
  have whole : extractFiles now.source options [] paths =
      .ofFunction (extractAlone now.source options) paths := by
    rw [extractFiles, extractShares_eq_ofFunction, asked, List.flatten_singleton]
    exact congrArg _ (List.filter_eq_self.2 fun _ _ => rfl)
  rw [whole]
  refine Outcome.FromScratch.unique (.inl ⟨fun path listed => ?_, _, fun path map => ?_, rfl⟩)
    Outcome.model_ofFunction
  · obtain ⟨extracted, read, _⟩ := current path listed
    exact ⟨extracted, read⟩
  · rw [Dict.get?_mapValues]
    change renewed.get? path = some map ↔ _
    constructor
    · intro found
      have listed : path ∈ paths := by
        rw [get?_of_refresh done] at found
        split at found
        · assumption
        · contradiction
      obtain ⟨extracted, read, known⟩ := current path listed
      exact ⟨listed, extracted, read, Option.some.inj (known.symm.trans found)⟩
    · rintro ⟨listed, extracted, read, rfl⟩
      obtain ⟨extracted', read', known⟩ := current path listed
      cases read.symm.trans read'
      exact known

variable {known : Cache}

/-- After word of a change, the changed file stands as it is and all others as they were before. -/
theorem current_of_change (first : (Cache.refresh {} files.source options paths).2 = .ok known)
    (second : ((known.forget changed).refresh (files.write changed content).source options paths).2 =
      .ok renewed) (listed : path ∈ paths) :
    renewed.Current (if path = changed then files.write changed content else files) options path := by
  have forgotten := get?_forget known changed path
  split
  · next same =>
    exact current_of_refresh second listed (forgotten.trans (if_pos same))
  · next other =>
    obtain ⟨extracted, read, entry⟩ := current_of_refresh first listed rfl
    refine ⟨extracted, read, kept_of_refresh second listed ?_⟩
    rw [forgotten, if_neg other, entry]

/-- The changed file and all that it does not affect are known as they are now, the others as they were
before the change; the model is that of an extraction from scratch if all entries are current. -/
theorem change_renews (files : Files) (options : Options) (paths : List Path) (changed : Path)
    (content : String) (known renewed : Cache)
    (first : (Cache.refresh {} files.source options paths).2 = .ok known)
    (second : ((known.forget changed).refresh (files.write changed content).source options paths).2 =
      .ok renewed) :
    (∀ path ∈ paths, renewed.Current
      (if path = changed then files.write changed content else files) options path) ∧
    (∀ path ∈ paths, path = changed ∨ Unaffected files changed path →
      renewed.Current (files.write changed content) options path) ∧
    ((∀ path ∈ paths, renewed.Current (files.write changed content) options path) →
      .ok renewed.model =
        (extractFiles (files.write changed content).source options [] paths).model) := by
  have entries := fun path (listed : path ∈ paths) => current_of_change first second listed
  refine ⟨entries, fun path listed settled => ?_, model_of_current second⟩
  have entry := entries path listed
  split at entry
  · exact entry
  · next other =>
    obtain ⟨extracted, read, found⟩ := entry
    exact ⟨extracted, (settled.resolve_left other).extractAlone read, found⟩

/-! A page that includes a part, before and after a change of the part. -/

def menuPage : Path := ⟨"p.pug"⟩

def menuPart : Path := ⟨"q.pug"⟩

def menuFiles : Files := ⟨[(menuPage, "include q\n"), (menuPart, "div(id=\"a\")\n")]⟩

def newMenuPart : String := "span(id=\"a\")\n"

def menuItem (tag : String) : Pug.Block := [.tag tag [⟨"id", .literal "a"⟩] []]

theorem parse_menuPage : Pug.parse "include q\n" = .ok [.include "q" 1] :=
  Pug.parse_line rfl rfl (Pug.readLine_node rfl) (Pug.readChildren_none (by simp [Pug.Outside])) rfl

theorem parse_menuItem {tag content : String} (valid : Pug.IsName tag)
    (cut : Pug.readLines content.toList =
      .ok [⟨1, 0, tag.toList ++ Pug.printGroup [⟨"id", .literal "a"⟩]⟩]) :
    Pug.parse content = .ok (menuItem tag) := by
  have unchained : Pug.elseBranch? (tag.toList ++ Pug.printGroup [⟨"id", .literal "a"⟩]) = none := by
    refine Pug.elseBranch?_of_isName valid fun c head => ?_
    rw [Pug.head?_printGroup head]
    decide
  exact Pug.parse_line cut unchained (Pug.readLine_tag (Pug.readTag_printed valid (by decide) 1 []))
    (Pug.readChildren_block_nil 0) rfl

theorem menuPart_before : Pug.Holds menuFiles menuPart (menuItem "div") :=
  ⟨_, Files.read_eq_ok_iff.2 rfl, parse_menuItem (by decide) rfl⟩

theorem menuPart_after :
    Pug.Holds (menuFiles.write menuPart newMenuPart) menuPart (menuItem "span") :=
  ⟨_, Files.read_eq_ok_iff.2 rfl, parse_menuItem (by decide) rfl⟩

theorem leads_menuPart : Pug.Leads menuPage ⟨"q", 1⟩ menuPart :=
  ⟨by decide, by decide⟩

theorem extractAlone_menuPage {files : Files} {tag : String}
    (read : files.read menuPage = .ok "include q\n")
    (holds : Pug.Holds files menuPart (menuItem tag)) :
    extractAlone files.source {} menuPage =
      .ok ⟨Markup.record .single (Pug.events [.group (menuItem tag)]), none⟩ := by
  have free : ¬Pug.Active [menuPage] menuPart := by
    rintro ⟨path, inside, same⟩
    cases List.mem_singleton.1 inside
    exact absurd same (by decide)
  exact extractAlone_of_extracts (by decide) read
    (.done parse_menuPage (.inlined leads_menuPart free holds .done .done))

theorem menuPage_before :
    extractAlone menuFiles.source {} menuPage =
      .ok ⟨Markup.record .single (Pug.events [.group (menuItem "div")]), none⟩ :=
  extractAlone_menuPage (Files.read_eq_ok_iff.2 (by decide)) menuPart_before

theorem menuPage_after :
    extractAlone (menuFiles.write menuPart newMenuPart).source {} menuPage =
      .ok ⟨Markup.record .single (Pug.events [.group (menuItem "span")]), none⟩ :=
  extractAlone_menuPage (Files.read_eq_ok_iff.2 (by decide)) menuPart_after

/-- The page is read, the part changes, and word of the change is answered. -/
theorem menu_runs : ∃ known renewed,
    (Cache.refresh {} menuFiles.source {} [menuPage]).2 = .ok known ∧
    ((known.forget menuPart).refresh (menuFiles.write menuPart newMenuPart).source {}
      [menuPage]).2 = .ok renewed := by
  have start : ∀ path ∈ unknown {} [menuPage],
      ∃ extracted, extractAlone menuFiles.source {} path = .ok extracted := by
    intro path listed
    cases List.mem_singleton.1 (mem_unknown.1 listed).1
    exact ⟨_, menuPage_before⟩
  obtain ⟨known, first⟩ := refresh_succeeds start
  have again : ∀ path ∈ unknown (known.forget menuPart) [menuPage], ∃ extracted,
      extractAlone (menuFiles.write menuPart newMenuPart).source {} path = .ok extracted := by
    intro path listed
    cases List.mem_singleton.1 (mem_unknown.1 listed).1
    exact ⟨_, menuPage_after⟩
  obtain ⟨renewed, second⟩ := refresh_succeeds again
  exact ⟨known, renewed, first, second⟩

theorem change_renews_menu : ∃ known renewed,
    (Cache.refresh {} menuFiles.source {} [menuPage]).2 = .ok known ∧
    ((known.forget menuPart).refresh (menuFiles.write menuPart newMenuPart).source {}
      [menuPage]).2 = .ok renewed ∧
    renewed.Current menuFiles {} menuPage := by
  obtain ⟨known, renewed, first, second⟩ := menu_runs
  have renews := change_renews menuFiles {} [menuPage] menuPart newMenuPart known renewed first second
  exact ⟨known, renewed, first, second, renews.1 menuPage List.mem_cons_self⟩

/-- A page may include a changed part and yet keep its entry from before the change. -/
theorem change_leaves_includer : ∃ known renewed,
    (Cache.refresh {} menuFiles.source {} [menuPage]).2 = .ok known ∧
    FileType.ofPath menuPage = .pug ∧ Pug.Reaches menuFiles menuPage menuPart ∧
    ((known.forget menuPart).refresh (menuFiles.write menuPart newMenuPart).source {}
      [menuPage]).2 = .ok renewed ∧
    ¬renewed.Current (menuFiles.write menuPart newMenuPart) {} menuPage := by
  obtain ⟨known, renewed, first, second⟩ := menu_runs
  have holds : Pug.Holds menuFiles menuPage [.include "q" 1] :=
    ⟨"include q\n", Files.read_eq_ok_iff.2 (by decide +kernel), parse_menuPage⟩
  refine ⟨known, renewed, first, by decide +kernel,
    .direct holds List.mem_cons_self leads_menuPart (by decide +kernel), second, ?_⟩
  rintro ⟨extracted, read, fresh⟩
  obtain ⟨old, readBefore, stale⟩ := current_of_change first second List.mem_cons_self
  cases menuPage_before.symm.trans readBefore
  cases menuPage_after.symm.trans read
  exact absurd (Option.some.inj (stale.symm.trans fresh)) (by decide +kernel)

end Cache

end Querymap
