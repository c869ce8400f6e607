import Querymap.FileError

/-! Where the contents of files come from. -/
namespace Querymap

/-- Paths that name pairwise different files. -/
def Path.Distinct (paths : List Path) : Prop := paths.Pairwise fun a b => a.same b = false

/-- A reader of files. Only finitely many different paths can be read. -/
structure Source where
  read : Path → Except FileError String
  bounded : ∃ limit, ∀ paths : List Path, Path.Distinct paths →
    (∀ path ∈ paths, (read path).isOk = true) → paths.length ≤ limit

/-- A finite set of files. -/
structure Files where
  entries : List (Path × String) := []
deriving DecidableEq, Inhabited

namespace Files

def remove (files : Files) (path : Path) : Files :=
  ⟨files.entries.filter (!·.1.same path)⟩

def write (files : Files) (path : Path) (content : String) : Files :=
  ⟨(path, content) :: (files.remove path).entries⟩

def find? (files : Files) (path : Path) : Option String :=
  (files.entries.find? (·.1.same path)).map (·.2)

def read (files : Files) (path : Path) : Except FileError String :=
  match files.find? path with
  | some content => .ok content
  | none => .error (.unknown path)

theorem same_comm (a b : Path) : a.same b = b.same a := by
  simp only [Path.same, Bool.beq_comm]

theorem same_trans {a b c : Path} (h : a.same b = true) (h' : b.same c = true) :
    a.same c = true := by
  simp only [Path.same, beq_iff_eq] at *
  exact h.trans h'

/-- Different paths that are all among the keys are no more than the keys. -/
theorem length_le_of_distinct (keys paths : List Path) (distinct : Path.Distinct paths)
    (among : ∀ path ∈ paths, ∃ key ∈ keys, key.same path = true) :
    paths.length ≤ keys.length := by
  induction keys generalizing paths with
  | nil =>
    cases paths with
    | nil => simp
    | cons path rest =>
      obtain ⟨_, member, _⟩ := among path (by simp)
      contradiction
  | cons key keys ih =>
    have others := ih (paths.filter (!key.same ·)) (distinct.filter _) fun path member => by
      obtain ⟨member, apart⟩ := List.mem_filter.1 member
      obtain ⟨found, inside, same⟩ := among path member
      rcases List.mem_cons.1 inside with rfl | inside
      · simp [same] at apart
      · exact ⟨found, inside, same⟩
    have atMostOne : (paths.filter (key.same ·)).length ≤ 1 := by
      match found : paths.filter (key.same ·), distinct.filter (key.same ·) with
      | [], _ => simp
      | [_], _ => simp
      | a :: b :: rest, distinct =>
        have apart : a.same b = false := by simpa using (List.pairwise_cons.1 distinct).1 b (by simp)
        have first : key.same a = true := (List.mem_filter.1 (found ▸ List.mem_cons_self)).2
        have second : key.same b = true :=
          (List.mem_filter.1 (found ▸ List.mem_cons_of_mem _ List.mem_cons_self)).2
        rw [same_trans (same_comm key a ▸ first) second] at apart
        contradiction
    have parts := List.length_eq_countP_add_countP (key.same ·) (l := paths)
    simp only [List.countP_eq_length_filter, Bool.not_eq_true, Bool.decide_eq_false] at parts
    simp only [List.length_cons]
    omega

theorem bounded (files : Files) : ∃ limit, ∀ paths : List Path, Path.Distinct paths →
    (∀ path ∈ paths, (files.read path).isOk = true) → paths.length ≤ limit := by
  refine ⟨(files.entries.map (·.1)).length, fun paths distinct readable =>
    length_le_of_distinct _ paths distinct fun path member => ?_⟩
  have ok := readable path member
  simp only [read, find?] at ok
  cases found : files.entries.find? (·.1.same path) with
  | none => simp [found, Except.isOk, Except.toBool] at ok
  | some entry =>
    exact ⟨entry.1, List.mem_map.2 ⟨entry, List.mem_of_find?_eq_some found, rfl⟩,
      by simpa using List.find?_some found⟩

def source (files : Files) : Source := ⟨files.read, files.bounded⟩

end Files

end Querymap
