import HeaderEnum.Disk.Tree
import HeaderEnum.Text.Utf8

/-!
# Text files

The text of a file: its bytes as UTF-8, with every line end as one line feed. A byte order mark is a
character like any other.
-/

namespace HeaderEnum.Disk

/-- The text that the bytes of a file hold. -/
def textOfBytes (bytes : ByteArray) : Except FileFault String :=
  match Text.decodeUtf8 bytes with
  | .ok text => .ok (Text.withLineFeeds text)
  | .error fault => .error (.undecodable fault)

/-- The text of a file, given its bytes or why there are none. -/
def textOfRead (bytes : Except (Halt FileFault) ByteArray) : Except (Halt FileFault) String :=
  match bytes with
  | .ok bytes => (textOfBytes bytes).mapError .fault
  | .error halt => .error halt

end HeaderEnum.Disk
