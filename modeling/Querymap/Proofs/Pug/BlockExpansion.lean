import Querymap.Proofs.Markup.Nested
import Querymap.Proofs.Pug.Extracts
import Querymap.Proofs.Pug.IncludeFree
import Querymap.Proofs.Pug.Stacked
import Querymap.Proofs.Pug.Substitution
import Querymap.Proofs.Pug.TagHeads
import Querymap.Proofs.Shares

/-! Block expansion: tags one behind the other on a line. Only the block below tells them from tags on
lines of their own: it goes into the first tag, not into the last one. -/
namespace Querymap.Pug

/-- The part is a shorthand, which may stand for a whole head. -/
def HeadPart.isShorthand : HeadPart → Bool
  | .id _ | .class _ => true
  | .list _ => false

/-- The head of a tag: a name with what stands behind it, or shorthands alone. The first word of the
name is no keyword. -/
structure TagHead where
  name : List Char
  parts : List HeadPart
  named : name = [] ∨ IsTagName name
  short : name = [] → parts.head?.any HeadPart.isShorthand = true
  parted : ∀ part ∈ parts, part.Valid
  free : String.ofList (name.takeWhile Text.isWord) ∉ keywords

section Shorthands

variable {part : HeadPart} {number : Nat} {lines : List Line}

/-- Where a shorthand begins a line, the line is a tag. -/
theorem readForm_shorthand (valid : part.Valid) (short : part.isShorthand = true) (rest : List Char) :
    readForm number (part.print ++ rest) lines = readTag number (part.print ++ rest) lines := by
  have unreserved {c : Char} {rest : List Char} (solid : Text.isWord c = false) :
      splitKeyword? (c :: rest) = none := by
    rw [splitKeyword?_eq_none_iff, List.takeWhile_cons_of_neg (by simp [solid])]
    decide
  cases part with
  | id name =>
    obtain ⟨nonempty, inside⟩ := valid
    obtain ⟨c, name, rfl⟩ := List.exists_cons_of_ne_nil nonempty
    have id := List.all_eq_true.1 inside c List.mem_cons_self
    have bracket : c ≠ '[' := by rintro rfl; revert id; decide
    have brace : c ≠ '{' := by rintro rfl; revert id; decide
    have none : splitKeyword? ('#' :: c :: (name ++ rest)) = none := unreserved (by decide)
    simp [HeadPart.print, readForm, bracket, brace, none]
  | «class» name =>
    have none : splitKeyword? ('.' :: (name ++ rest)) = none := unreserved (by decide)
    simp [HeadPart.print, readForm, none]
  | list inner => contradiction

end Shorthands

namespace TagHead

variable (head : TagHead) {after : List Char}

def text : List Char := head.name ++ head.parts.flatMap HeadPart.print

/-- Shorthands alone stand for a `div`. -/
def tagName : String := if head.name = [] then "div" else String.ofList head.name

def attributes : List Attribute := head.parts.flatMap HeadPart.attributes

/-- A head is read up to what follows it. -/
theorem readForm_text (ends : EndsHead after) (number : Nat) (lines : List Line) :
    readForm number (head.text ++ after) lines =
      (readTail number after).map fun tail =>
        (.tag head.tagName head.attributes tail, ⟨lines, List.suffix_refl _⟩) := by
  obtain ⟨name, parts, named, short, parted, free⟩ := head
  rcases named with rfl | valid
  · cases parts with
    | nil => exact absurd (short rfl) (by simp)
    | cons part parts =>
      have unnamed : splitTagName? (part.print ++ (parts.flatMap HeadPart.print ++ after)) = none := by
        have marked : part.isShorthand = true := short rfl
        cases part with
        | id | «class» => rfl
        | list => contradiction
      have unslashed : withoutSlash after = after := by
        rcases ends with rfl | ⟨text, rfl⟩ <;> rfl
      have attributes := readTagAttributes_parts parted ends number lines
      rw [List.flatMap_cons, List.append_assoc] at attributes
      simp only [text, List.nil_append, List.flatMap_cons, List.append_assoc]
      rw [readForm_shorthand (parted part List.mem_cons_self) (short rfl), readTag, unnamed]
      simp [attributes, unslashed, tagName, TagHead.attributes]
  · simp only [text, List.append_assoc, tagName, if_neg valid.nonempty]
    exact readForm_tagName valid parted ends free number lines

theorem elseBranch?_text (ends : EndsHead after) : elseBranch? (head.text ++ after) = none := by
  refine elseBranch?_of_free ?_
  rw [text, List.append_assoc, takeWhile_head head.name head.parts ends]
  exact head.free

theorem trimmed_text : Text.Trimmed head.text := by
  obtain ⟨name, parts, named, short, parted, free⟩ := head
  rcases named with rfl | valid
  · cases parts with
    | nil => exact absurd (short rfl) (by simp)
    | cons part parts =>
      obtain ⟨first, others⟩ := List.forall_mem_cons.1 parted
      simpa [text] using trimmed_parts first.trimmed others
  · exact trimmed_parts valid.trimmed parted

/-- A head on a line of its own. -/
def lead : Lead where
  text := head.text
  name := head.tagName
  attributes := head.attributes
  inner := []
  unchained := by simpa using head.elseBranch?_text (.inl rfl)
  reads number lines := by
    have read := head.readForm_text (.inl rfl) number lines
    rw [List.append_nil, readTail] at read
    exact readLine_tag read

/-- Heads one behind the other on a line. -/
def chain : TagHead → List TagHead → List Char
  | head, [] => head.text
  | head, next :: others => head.text ++ ':' :: ' ' :: chain next others

theorem trimmed_chain (head : TagHead) (others : List TagHead) : Text.Trimmed (chain head others) := by
  induction others generalizing head with
  | nil => exact head.trimmed_text
  | cons next others ih => exact head.trimmed_text.append ": ".toList (by decide) (ih next)

theorem chain_eq (head : TagHead) (others : List TagHead) :
    ∃ after, EndsHead after ∧ chain head others = head.text ++ after := by
  cases others with
  | nil => exact ⟨[], .inl rfl, (List.append_nil _).symm⟩
  | cons next others => exact ⟨_, .inr ⟨_, rfl⟩, rfl⟩

/-- Each head of a chain is within the one before. -/
theorem readLine_chain (head : TagHead) (others : List TagHead) (number : Nat) (lines : List Line) :
    readLine number (chain head others) lines =
      .ok (.tag head.tagName head.attributes (nest (others.map lead) []), .block,
        ⟨lines, List.suffix_refl _⟩) := by
  induction others generalizing head with
  | nil => exact head.lead.reads number lines
  | cons next others ih =>
    have read := head.readForm_text (.inr ⟨chain next others, rfl⟩) number lines
    rw [readTail, expansion_gap number (trimmed_chain next others)] at read
    rw [chain, readLine_eq, read]
    simp only [Except.bind, Except.map, ih next]
    rfl

/-- A chain of heads, which holds all but the first one. -/
def chainLead (first : TagHead) (others : List TagHead) : Lead where
  text := chain first others
  name := first.tagName
  attributes := first.attributes
  inner := nest (others.map lead) []
  unchained := by
    obtain ⟨after, ends, same⟩ := chain_eq first others
    rw [same]
    exact first.elseBranch?_text ends
  reads := readLine_chain first others

end TagHead

/-! Other numbers for the includes of a template. -/

section Numbers

variable (number : Nat → Nat)

mutual

theorem Node.inclusions_renumber (node : Node) :
    (node.renumber number).inclusions =
      node.inclusions.map fun inclusion => ⟨inclusion.name, number inclusion.line⟩ := by
  cases node with
  | «include» | text | comment | doctype | inherits => rfl
  | tag _ _ block | mixin _ block | call _ _ block | loop block | case block | when block
  | named _ block | code block | group block => exact inclusions_renumber block
  | conditional consequent alternate =>
    simp only [Node.renumber, Node.inclusions, List.map_append, inclusions_renumber consequent,
      alternate.inclusions_renumber]
  | each block alternate =>
    cases alternate with
    | none => exact inclusions_renumber block
    | some alternate =>
      simp only [Node.renumber, Node.inclusions, List.map_append, inclusions_renumber block,
        inclusions_renumber alternate]

theorem inclusions_renumber (block : List Node) :
    inclusions (renumber number block) =
      (inclusions block).map fun inclusion => ⟨inclusion.name, number inclusion.line⟩ := by
  cases block with
  | nil => rfl
  | cons node rest =>
    simp only [renumber, inclusions, List.map_append, node.inclusions_renumber,
      inclusions_renumber rest]

theorem Alternate.inclusions_renumber (alternate : Alternate) :
    (alternate.renumber number).inclusions =
      alternate.inclusions.map fun inclusion => ⟨inclusion.name, number inclusion.line⟩ := by
  cases alternate with
  | none => rfl
  | elseIf block next =>
    simp only [Alternate.renumber, Alternate.inclusions, List.map_append,
      Querymap.Pug.inclusions_renumber block, next.inclusions_renumber]
  | otherwise block => exact Querymap.Pug.inclusions_renumber block

end

mutual

theorem Node.fill_renumber (blocks : List Block) (node : Node) :
    (node.renumber number).fill blocks = node.fill blocks := by
  cases node with
  | «include» | text | comment | doctype | inherits => rfl
  | tag _ _ block | mixin _ block | call _ _ block | loop block | case block | when block
  | named _ block | code block | group block =>
    simp only [Node.renumber, Node.fill, fill_renumber blocks block]
  | conditional consequent alternate =>
    simp only [Node.renumber, Node.fill, inclusions_renumber, List.length_map,
      fill_renumber _ consequent, alternate.fill_renumber]
  | each block alternate =>
    cases alternate with
    | none => simp only [Node.renumber, Node.fill, fill_renumber blocks block]
    | some alternate =>
      simp only [Node.renumber, Node.fill, inclusions_renumber, List.length_map,
        fill_renumber _ block, fill_renumber _ alternate]

theorem fill_renumber (blocks : List Block) (block : List Node) :
    fill blocks (renumber number block) = fill blocks block := by
  cases block with
  | nil => rfl
  | cons node rest =>
    simp only [renumber, fill, node.inclusions_renumber, List.length_map, node.fill_renumber,
      fill_renumber _ rest]

theorem Alternate.fill_renumber (blocks : List Block) (alternate : Alternate) :
    (alternate.renumber number).fill blocks = alternate.fill blocks := by
  cases alternate with
  | none => rfl
  | elseIf block next =>
    simp only [Alternate.renumber, Alternate.fill, Querymap.Pug.inclusions_renumber,
      List.length_map, Querymap.Pug.fill_renumber _ block, next.fill_renumber]
  | otherwise block =>
    simp only [Alternate.renumber, Alternate.fill, Querymap.Pug.fill_renumber blocks block]

end

variable {source : Source} {main path : Option Path} {chain : Chain source}

/-- From a file with a path, an include is loaded by its name alone. -/
theorem load_line (base : Path) (name : String) (line other : Nat) :
    load source main chain (some base) name line = load source main chain (some base) name other := by
  rw [load.eq_def, load.eq_def source main chain (some base) name other]

/-- The numbers of includes are for error messages only. -/
theorem run_inlineIncludes_renumber {nodes inlined : Block} {table : Includes} :
    ((inlineIncludes source path (renumber number nodes)).run table).1 = .ok inlined ↔
      ((inlineIncludes source path nodes).run table).1 = .ok inlined := by
  simp only [inlineIncludes, expandBlock_eq_fill, inclusions_renumber, fill_renumber]
  cases path with
  | some base =>
    have same : loadAll (load source (some base) .empty (some base))
        ((inclusions nodes).map fun inclusion => ⟨inclusion.name, number inclusion.line⟩) =
          loadAll (load source (some base) .empty (some base)) (inclusions nodes) := by
      rw [loadAll, List.mapM_map, loadAll]
      exact congrArg (List.mapM · (inclusions nodes)) (funext fun inclusion => load_line ..)
    rw [same]
  | none =>
    cases inclusions nodes with
    | nil => rfl
    | cons first rest =>
      simp only [List.map_cons, map_eq_pure_bind, run_bind, run_loadAll_error run_load_none]
      constructor <;> intro loaded <;> cases loaded

end Numbers

/-! Nodes within the tags of a stack. -/

section Nests

/-- What stands on the line of a lead loads and defines nothing. -/
structure Lead.Plain (lead : Lead) : Prop where
  loads : includeFree lead.inner = true
  bare : Bare lead.inner

variable {leads : List Lead}

theorem includeFree_append (first second : List Node) :
    includeFree (first ++ second) = (includeFree first && includeFree second) := by
  induction first with
  | nil => rfl
  | cons node rest ih => simp only [List.cons_append, includeFree, ih, Bool.and_assoc]

theorem includeFree_nest (plain : ∀ lead ∈ leads, lead.Plain) (nodes : Block) :
    includeFree (nest leads nodes) = includeFree nodes := by
  induction leads with
  | nil => rfl
  | cons lead leads ih =>
    obtain ⟨first, others⟩ := List.forall_mem_cons.1 plain
    simp only [nest, includeFree, Node.includeFree, includeFree_append, first.loads, ih others,
      Bool.true_and, Bool.and_true]

theorem definitions_nest (plain : ∀ lead ∈ leads, lead.Plain) (nodes : Block) :
    definitions (nest leads nodes) = definitions nodes := by
  induction leads with
  | nil => rfl
  | cons lead leads ih =>
    obtain ⟨first, others⟩ := List.forall_mem_cons.1 plain
    simp only [nest, definitions, Node.definitions, definitions_append, first.bare.defines, ih others,
      List.nil_append, List.append_nil]

theorem withoutDefinitions_nest (plain : ∀ lead ∈ leads, lead.Plain) (nodes : Block) :
    withoutDefinitions (nest leads nodes) = nest leads (withoutDefinitions nodes) := by
  induction leads with
  | nil => rfl
  | cons lead leads ih =>
    obtain ⟨first, others⟩ := List.forall_mem_cons.1 plain
    simp only [nest, withoutDefinitions, Node.withoutDefinitions, withoutDefinitions_append,
      first.bare.kept, ih others, List.append_nil]

/-- Nothing but the nodes in a stack is loaded. -/
theorem expandBlock_nest {m : Type → Type} [Monad m] [LawfulMonad m] (load : String → Nat → m Block)
    (plain : ∀ lead ∈ leads, lead.Plain) (nodes : Block) :
    expandBlock load (nest leads nodes) = nest leads <$> expandBlock load nodes := by
  have append (first second : Block) (free : includeFree first = true) :
      expandBlock load (first ++ second) = (first ++ ·) <$> expandBlock load second := by
    induction first with
    | nil => simp
    | cons node rest ih =>
      simp only [includeFree, Bool.and_eq_true] at free
      simp only [List.cons_append, expandBlock, expandNode_of_includeFree load node free.1,
        ih free.2, pure_bind, map_eq_pure_bind, bind_assoc]
  induction leads with
  | nil => simp [nest]
  | cons lead leads ih =>
    obtain ⟨first, others⟩ := List.forall_mem_cons.1 plain
    simp only [nest, expandBlock, expandNode, append _ _ first.loads, ih others, pure_bind,
      map_eq_pure_bind, bind_assoc]

theorem events_nest (plain : ∀ lead ∈ leads, lead.Plain) (nodes : Block) :
    events (nest leads nodes) =
      blockEvents (mixinEvents (mixins nodes) []) (nest leads (withoutDefinitions nodes)) := by
  rw [events_eq, mixins, definitions_nest plain, withoutDefinitions_nest plain, ← mixins]

end Nests

namespace TagHead

theorem plain_lead (head : TagHead) : head.lead.Plain := ⟨rfl, rfl, rfl⟩

theorem plain_leads (heads : List TagHead) : ∀ each ∈ heads.map lead, each.Plain := by
  intro each member
  obtain ⟨head, _, rfl⟩ := List.mem_map.1 member
  exact head.plain_lead

theorem plain_chainLead (first : TagHead) (others : List TagHead) : (chainLead first others).Plain where
  loads := includeFree_nest (plain_leads others) []
  bare := ⟨definitions_nest (plain_leads others) [], withoutDefinitions_nest (plain_leads others) []⟩

open Markup

/-- Tags that are no modules leave the scope as it is when they end, so that it does not matter for the
nodes behind them whether they have ended. -/
theorem run_nest_append {others : List TagHead} (plain : ∀ head ∈ others, head.tagName ≠ moduleTag)
    (mode : ScopeMode) (recorder : Recorder) (expand : String → Option (List Event)) (nodes : Block) :
    recorder.run mode (blockEvents expand (nest (others.map lead) [] ++ nodes)) =
      recorder.run mode (blockEvents expand (nest (others.map lead) nodes)) := by
  induction others generalizing recorder with
  | nil => rfl
  | cons head others ih =>
    obtain ⟨first, rest⟩ := List.forall_mem_cons.1 plain
    have ends (recorder : Recorder) : recorder.step mode (.closed head.tagName) = recorder :=
      if_neg first
    have inside := ih rest (recorder.step mode
      (.opened head.tagName (tagAttributes head.attributes)))
    rw [blockEvents_append, Recorder.run_append] at inside
    simp only [Recorder.run] at inside ⊢
    simp only [List.map_cons, nest, lead, List.nil_append, List.cons_append, blockEvents, nodeEvents,
      List.append_assoc, List.foldl_cons, List.foldl_append, List.foldl_nil, ends, List.append_nil,
      inside]

/-- Where the block below goes does not matter to the scopes, if all heads but the first are no
modules. -/
theorem record_chain {first : TagHead} {others : List TagHead}
    (plain : ∀ head ∈ others, head.tagName ≠ moduleTag) (mode : ScopeMode) (nodes : Block) :
    record mode (events (nest [chainLead first others] nodes)) =
      record mode (events (nest ((first :: others).map lead) nodes)) := by
  have chained : ∀ each ∈ [chainLead first others], each.Plain := by
    simpa using plain_chainLead first others
  rw [events_nest chained, events_nest (plain_leads _)]
  generalize mixinEvents (mixins nodes) [] = expand
  have inside := run_nest_append plain mode
    (Recorder.step mode {} (.opened first.tagName (tagAttributes first.attributes))) expand
    (withoutDefinitions nodes)
  simp only [record, Recorder.run] at inside ⊢
  simp only [List.map_cons, nest, lead, chainLead, List.nil_append, blockEvents, nodeEvents,
    List.cons_append, List.foldl_cons, List.foldl_append, List.append_nil, inside]

end TagHead

section Extraction

variable {source : Source} {options : Options} {path : Option Path} {content : String}
  {leads : List Lead} {number : Nat → Nat} {nodes : Block} {extracted : Extracted}

theorem extractOne_of_error {error : ParseError} (unparsed : parse content = .error error) :
    extractOne source options .pug path content =
      .error (.template (displayPath path) error) := by
  rw [extractOne, run_extract_pug, run_pug_of_error unparsed]
  rfl

/-- What a stack contributes: its block is inlined alone, and what comes of it is recorded within the
tags. -/
theorem extractOne_nest (parsed : parse content = .ok (nest leads (renumber number nodes)))
    (plain : ∀ lead ∈ leads, lead.Plain) :
    extractOne source options .pug path content = .ok extracted ↔
      ∃ inlined, ((inlineIncludes source path nodes).run []).1 = .ok inlined ∧
        extracted = ⟨Markup.record options.scopeMode (events (nest leads inlined)), none⟩ := by
  have within : inlineIncludes source path (nest leads (renumber number nodes)) =
      nest leads <$> inlineIncludes source path (renumber number nodes) :=
    expandBlock_nest _ plain _
  have loaded := fun inlined =>
    @run_inlineIncludes_renumber number source path nodes inlined []
  simp only [← loaded]
  rw [extractOne, run_extract_pug]
  simp only [Extract.pug, parsed, within, map_eq_pure_bind, bind_assoc, pure_bind]
  rw [run_bind]
  generalize (inlineIncludes source path (renumber number nodes)).run [] = outcome
  obtain ⟨error | inlined, table⟩ := outcome
  · simp [Except.map]
  · constructor
    · intro same
      exact ⟨inlined, rfl, (Except.ok.inj same).symm⟩
    · rintro ⟨_, ⟨⟩, rfl⟩
      rfl

end Extraction

/-- Heads on one line give the nodes below them to the first tag, heads on lines of their own to the last
one. Both are recorded alike if all of the heads but the first are no modules. -/
theorem blockExpansion_nesting {block : List Line} {alone : String} (first : TagHead)
    (others : List TagHead) (cut : readLines alone.toList = .ok block)
    (inline : Stack [TagHead.chain first others] block)
    (nested : Stack ((first :: others).map TagHead.text) block) :
    parse inline.content = (renumbered inline.layout.number (parse alone)).map (fun nodes =>
        [.tag first.tagName first.attributes (nest (others.map TagHead.lead) [] ++ nodes)]) ∧
      parse nested.content = (renumbered nested.layout.number (parse alone)).map
        (nest ((first :: others).map TagHead.lead)) ∧
      ((∀ head ∈ others, head.tagName ≠ Markup.moduleTag) → ∀ source options path extracted,
        extractOne source options .pug path inline.content = .ok extracted ↔
          extractOne source options .pug path nested.content = .ok extracted) := by
  have chained := @parse_stack [TagHead.chainLead first others] _ _ inline rfl _ cut
  have stacked := @parse_stack ((first :: others).map TagHead.lead) _ _ nested
    (by rw [List.map_map]; rfl) _ cut
  refine ⟨chained, stacked, fun plain source options path extracted => ?_⟩
  have plain_chain : ∀ each ∈ [TagHead.chainLead first others], each.Plain := by
    simpa using TagHead.plain_chainLead first others
  cases parsed : parse alone with
  | error error =>
    rw [parsed] at chained stacked
    rw [extractOne_of_error chained, extractOne_of_error stacked]
    constructor <;> intro extracts <;> cases extracts
  | ok nodes =>
    rw [parsed] at chained stacked
    rw [extractOne_nest chained plain_chain, extractOne_nest stacked (TagHead.plain_leads _)]
    simp only [TagHead.record_chain plain]

namespace TagHead

/-- `ul#menu` -/
def menu : TagHead where
  name := "ul".toList
  parts := [.id "menu".toList]
  named := .inr (by decide)
  short := by decide
  parted := by decide
  free := by decide

/-- `.item(title=")")` -/
def item : TagHead where
  name := []
  parts := [.class "item".toList, .list "title=\")\"".toList]
  named := .inl rfl
  short := by decide
  parted := by decide
  free := by decide

/-- `a#home` -/
def home : List Line := [⟨1, 0, "a#home".toList⟩]

theorem blockExpansion_nesting_menu :
    readLines "a#home".toList = .ok home ∧
      parse "ul#menu: .item(title=\")\")\n\ta#home" =
        (renumbered (· + 1) (parse "a#home")).map (fun nodes =>
          [.tag "ul" menu.attributes ([.tag "div" item.attributes []] ++ nodes)]) ∧
      ∃ extracted,
        extractOne (Files.source {}) {} .pug none "ul#menu: .item(title=\")\")\n\ta#home" =
          .ok extracted ∧
        extractOne (Files.source {}) {} .pug none "ul#menu\n .item(title=\")\")\n  a#home" =
          .ok extracted := by
  have cut : readLines "a#home".toList = .ok home := by decide +kernel
  let below (columns numbers : Nat) : LineLayout :=
    ⟨(· + numbers), (· + columns), fun _ _ less => Nat.add_lt_add_right less _⟩
  let inline : Stack [chain menu [item]] home := {
    content := "ul#menu: .item(title=\")\")\n\ta#home"
    above := [⟨1, 0, chain menu [item]⟩]
    layout := below 1 1
    cut := by decide +kernel
    texts := rfl
    deeper := List.pairwise_singleton _ _
    below := by decide }
  let nested : Stack ([menu, item].map TagHead.text) home := {
    content := "ul#menu\n .item(title=\")\")\n  a#home"
    above := [⟨1, 0, menu.text⟩, ⟨2, 1, item.text⟩]
    layout := below 2 2
    cut := by decide +kernel
    texts := rfl
    deeper := by decide
    below := by decide }
  obtain ⟨expanded, -, alike⟩ := blockExpansion_nesting menu [item] cut inline nested
  have read : (extractOne (Files.source {}) {} .pug none nested.content).isOk = true := by
    decide +kernel
  cases extracts : extractOne (Files.source {}) {} .pug none nested.content with
  | error error =>
    rw [extracts] at read
    contradiction
  | ok extracted =>
    exact ⟨cut, expanded, extracted, (alike (by decide) _ _ _ _).2 extracts, rfl⟩

end TagHead

/-- A module behind a colon has ended before the block below it begins. -/
theorem inline_module_scope :
    extractOne (Files.source {}) {} .pug none "div: dom-module#m\n  p#x" ≠
      extractOne (Files.source {}) {} .pug none "div\n dom-module#m\n  p#x" := by
  decide +kernel

end Querymap.Pug
