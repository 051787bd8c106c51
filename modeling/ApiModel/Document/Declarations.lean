import ApiModel.Declaration.Basic
import ApiModel.Document.Container
import ApiModel.Schema.Type

/-!
# The declarations of a document

Every named schema of a document becomes a declaration, in the order of the document. Its name is
the key under which it stands and its reference is the pointer that leads there.
-/

namespace ApiModel.Document

open Reference (Layout)

/-- The declaration of a named schema. -/
def declaration (layout : Layout) (key : Scalar) (schema : Value) : Traced Declaration := do
  let ref ← referenceTo layout.schemas key
  let type ← Schema.toType layout schema
  let description ← Value.checkedAs .declaration
    ((schema.getD "description").checkTextOrNull.within [.name "description"])
  return ⟨key.said, ref, type, description⟩

/-- The declarations of a document, in its order. -/
def declarations (version : Version) (document : Value) : Traced (List Declaration) := do
  let layout := Layout.of version
  let ds ← (container document layout.schemas).mapM fun e => declaration layout e.1 e.2
  Traced.note (.declarations ds.length version.label)
  return ds

end ApiModel.Document
