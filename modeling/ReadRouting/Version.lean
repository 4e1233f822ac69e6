set_option autoImplicit false
set_option relaxedAutoImplicit false

/-!
# Version

## Main definitions

* `ReadRouting.version` — the version of the library.
-/

namespace ReadRouting

/-- The major, minor and patch numbers of the library. -/
def version : List Nat := [0, 1, 0]

/-- The version as it is written, with points between the numbers. -/
def versionText : String := String.intercalate "." (version.map toString)

end ReadRouting
