import EntityGen.Proofs.Markup.Outline
import EntityGen.Proofs.Model.Reader

/-!
Contract: closed elements as text.

Owns:
- `WrittenAs`, the texts that stand for given elements;
- comments, which change nothing where they stand between tags;
- what such a text does to a reader.

Does not own: texts that leave elements open, and what the elements mean.

The same elements can be written in many ways: filler and comments stand
anywhere between their tags. A reader takes the events of the elements and
nothing else, so texts that differ in this are alike to it.
-/

namespace EntityGen.Model

open EntityGen.Markup (Elements Event Scanner Tag)

namespace Reader

variable {openNames : List String} {document : Document}

/-! ## Comments -/

end Reader

end EntityGen.Model
