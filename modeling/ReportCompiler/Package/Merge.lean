import ReportCompiler.Package.Markup
import ReportCompiler.Workbook.Reference

/-!
# Stored merged regions

* `mergeRegion?` - the region that a stored text means.
* `mergedRegions` - the regions of the part of a sheet.
-/

namespace ReportCompiler.Package

/-- The region of two coordinates with a colon between them; one coordinate alone is a region of its
own.  The corners are taken as they come. -/
def mergeRegion? (text : String) : Option Region :=
  let (first, last) := (splitOnce ':' text.toList).getD (text.toList, text.toList)
  match coordinate? (String.ofList first), coordinate? (String.ofList last) with
  | some p, some q => some ⟨p, q⟩
  | _, _ => none

/-- The references of an element that merges cells. -/
def mergeReferences (e : Markup.Element) : List String :=
  if e.name = "mergeCell".toList then
    (e.attributes.filter fun (key, _) => key = "ref".toList).map fun (_, value) => String.ofList value
  else []

/-- The regions of the part of a sheet; references that mean none are left out. -/
def mergedRegions (part : String) : List Region :=
  (Markup.elements part).flatMap fun e => (mergeReferences e).filterMap mergeRegion?

end ReportCompiler.Package
