import Querymap.Dict
import Querymap.Disk.Basic
import Querymap.Source

/-! What can be asked of a file system without changing it. -/
namespace Querymap.Disk

/-- The end of a path with every link followed. -/
def status (disk : Disk) (path : Path) : Except FileError Entry :=
  (disk.find true path).map (·.2)

def exists? (disk : Disk) (path : Path) : Bool := (disk.status path).isOk

def isFolder (disk : Disk) (path : Path) : Bool :=
  match disk.status path with
  | .ok .folder => true
  | _ => false

def isFile (disk : Disk) (path : Path) : Bool :=
  match disk.status path with
  | .ok (.file _) => true
  | _ => false

/-- The entry of a path, which may be a link. -/
def ownStatus (disk : Disk) (path : Path) : Except FileError Entry :=
  (disk.find false path).map (·.2)

/-- Two paths with the same place name the same file. -/
def place? (disk : Disk) (path : Path) : Option Place :=
  (disk.find true path).toOption.map (·.1)

def read (disk : Disk) (path : Path) : Except FileError String :=
  match disk.status path with
  | .ok (.file (some text)) => .ok text
  | .ok (.file none) => .error .invalidText
  | .ok .folder => .error .isDirectory
  | .ok (.link _) => .error .linkLoop
  | .error error => .error error

/-- The names of the entries right below a place, in increasing order. -/
def namesBelow (disk : Disk) (place : Place) : List String :=
  (Dict.ofList (disk.entries.filterMap fun (other, _) =>
    if other.dropLast = place then other.getLast?.map fun name => (name, ()) else none)).keys

def list (disk : Disk) (path : Path) : Except FileError (List String) := do
  match ← disk.find true path with
  | (place, .folder) => return disk.namesBelow place
  | _ => throw .notDirectory

theorem exists_texts (limit : Nat) :
    ∃ texts : List (List Char), ∀ text : List Char, text.length ≤ limit → text ∈ texts := by
  induction limit with
  | zero => exact ⟨[[]], fun text h => by simp [List.length_eq_zero_iff.1 (Nat.le_zero.1 h)]⟩
  | succ limit ih =>
    obtain ⟨shorter, complete⟩ := ih
    refine ⟨[] :: ((List.range 0x110000).map Char.ofNat).flatMap fun c => shorter.map (c :: ·),
      fun text h => ?_⟩
    cases text with
    | nil => simp
    | cons c rest =>
      refine List.mem_cons_of_mem _ (List.mem_flatMap.2 ⟨c, ?_, ?_⟩)
      · refine List.mem_map.2 ⟨c.toNat, List.mem_range.2 ?_, Char.ofNat_toNat c⟩
        have := c.valid
        simp only [UInt32.isValidChar, Nat.isValidChar] at this
        simp only [Char.toNat]
        omega
      · exact List.mem_map.2 ⟨rest, complete rest (by simpa using h), rfl⟩

theorem length_le_byteLength (text : List Char) : text.length ≤ Text.byteLength text := by
  induction text with
  | nil => simp [Text.byteLength]
  | cons c rest ih =>
    have := c.utf8Size_pos
    simp only [Text.byteLength, List.length_cons, List.foldr_cons] at *
    omega

theorem lt_pathLimit_of_locateBy {disk : Disk} {follow : Bool} {path : Path} {names : List String}
    {located : Located} (h : disk.locateBy follow path names = .ok located) :
    Text.byteLength path.spelling.toList < pathLimit := by
  unfold locateBy at h
  split at h
  · contradiction
  · split at h
    · contradiction
    · split at h
      · contradiction
      · next short => exact Nat.lt_of_not_le short

theorem lt_pathLimit_of_status {disk : Disk} {path : Path} {entry : Entry}
    (h : disk.status path = .ok entry) : Text.byteLength path.spelling.toList < pathLimit := by
  cases located : disk.locate true path with
  | ok located => exact lt_pathLimit_of_locateBy located
  | error error => simp [status, find, located, bind, Except.bind, Except.map] at h

theorem lt_pathLimit_of_read {disk : Disk} {path : Path} (h : (disk.read path).isOk = true) :
    Text.byteLength path.spelling.toList < pathLimit := by
  cases status : disk.status path with
  | ok entry => exact lt_pathLimit_of_status status
  | error error => simp [read, status, Except.isOk, Except.toBool] at h

/-- Readable paths are shorter than the limit, and of those there are finitely many. -/
def source (disk : Disk) : Source where
  read := disk.read
  bounded := by
    obtain ⟨texts, complete⟩ := exists_texts pathLimit
    refine ⟨(texts.map fun text => (⟨String.ofList text⟩ : Path)).length,
      fun paths distinct readable => Files.length_le_of_distinct _ paths distinct
        fun path member => ⟨path, List.mem_map.2 ⟨path.spelling.toList, complete _ ?_, by simp⟩,
          by simp [Path.same]⟩⟩
    exact Nat.le_trans (length_le_byteLength _) (Nat.le_of_lt (lt_pathLimit_of_read (readable path member)))

end Querymap.Disk
