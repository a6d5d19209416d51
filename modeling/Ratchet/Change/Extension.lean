import Ratchet.Text.Cut

namespace Ratchet

/-!
# Checked files

The compiler is asked about TypeScript sources only: files whose names end in
`.ts` or `.tsx`.  A newline after the ending is overlooked.
-/

namespace Extension

/-- The endings of the files that are checked. -/
def supported : List (List Char) := [".ts".toList, ".tsx".toList]

/-- True of a text that ends in one of the endings. -/
def endsSupported (cs : List Char) : Bool :=
  supported.any fun ending => ending.isSuffixOf cs

/-- True of the path of a file that is checked. -/
def isSupported (path : String) : Bool :=
  let cs := path.toList
  endsSupported cs || (cs.getLast? == some '\n' && endsSupported cs.dropLast)

end Extension

end Ratchet
