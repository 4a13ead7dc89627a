import EntityGen.Proofs.Generation.Again
import EntityGen.Proofs.Generation.Group
import EntityGen.Proofs.Generation.Plan

/-!
Contract: the files of a run for one folder.

Owns:
- the places of planned files, which differ where their paths do;
- the files of a table after a run: one for each class, with its text;
- the regular files that a run leaves alone.

Does not own: runs for several groups, and what the texts say.
-/

namespace EntityGen

open EntityGen.Model (ClassDecl)

namespace Config

variable {config : Config}

end Config
end EntityGen
