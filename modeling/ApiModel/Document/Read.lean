import ApiModel.Declaration.Order
import ApiModel.Document.Declarations
import ApiModel.Document.Operations
import ApiModel.Reference.Internal

/-!
# Reading a document

A document is read in one go: its version, a check of its references, its declarations, its shared
parameters and its operations. The first failure ends the reading.

* `arranged_of_not_sort`: declarations that are not to be sorted stay as they are.
-/

namespace ApiModel.Document

/-- Declarations in the order that the settings ask for. -/
def arranged (settings : Settings) (ds : List Declaration) : List Declaration :=
  if settings.sortDeclarations then Declaration.order ds else ds

theorem arranged_of_not_sort {settings : Settings} (h : settings.sortDeclarations = false)
    (ds : List Declaration) : arranged settings ds = ds := by
  simp [arranged, h]

/-- The interface that a document describes. -/
def read (settings : Settings) (document : Value) : Traced Api := do
  let version ← Version.detect document
  Reference.checkDocument document
  let ds ← declarations version document
  let ds := arranged settings ds
  let table ← sharedParameters version document
  let os ← operations settings version document table
  Traced.note (.parsed ds.length table.length os.length)
  return ⟨version, ds, table, os⟩

end ApiModel.Document
