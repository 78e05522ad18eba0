import OutlineChart.Files.Tree

/-! # What writing leaves

A path leads to a place if there is a folder at every place on the way.  So a file that is written
there makes no folder of its own, and all paths lead where they led before.
-/

namespace OutlineChart

namespace Files

variable {fs : Files} {place other : Place} {content : Bytes}

/-! ## Folders -/

end Files

end OutlineChart
