import Querymap.Pipeline
import Querymap.Scan

/-! The typings of texts, files, patterns and folders, each as one model. -/
namespace Querymap

/-- The typings of a text. Its path is where its includes start from. -/
def typingsOfText (disk : Disk) (options : Options) (type : FileType) (path : Option Path)
    (content : String) : Except ExtractError Model :=
  (extractOne disk.source options type path content).map (·.map.merge)

def typingsOfFiles (disk : Disk) (options : Options) (paths : List Path) :
    Except ExtractError Model :=
  (extractFiles disk.source options [] paths).model

/-- The typings of all files that a pattern stands for. -/
def typingsOfPattern (disk : Disk) (options : Options) (pattern : String) :
    Except ExtractError Model :=
  typingsOfFiles disk options (scan disk ⟨""⟩ [pattern] true).files

/-- The typings of the supported files in a folder; compiled scripts count if their factory is known. -/
def typingsOfFolder (disk : Disk) (options : Options) (folder : Path) : Except ExtractError Model :=
  typingsOfFiles disk options (scan disk folder [""] options.factory.isSome).files

end Querymap
