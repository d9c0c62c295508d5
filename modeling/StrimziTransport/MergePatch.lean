import StrimziTransport.Json

/-!
`jsonpatch.MergePatch` of `evanphx/json-patch` (RFC 7386 as that library implements it).
A member of the patch whose value is `null` deletes; an object merges member by member;
anything else replaces, with its nested `null` members pruned when the target had no
object there, and left as it is when the target had one.
-/

namespace StrimziTransport

mutual
/-- `pruneNulls`: the `null` members of every object inside are dropped; `null` array
elements stay. -/
def prune : Json → Json
  | .obj ms => .obj (pruneMembers ms)
  | .arr xs => .arr (pruneElems xs)
  | j => j

def pruneElems : List Json → List Json
  | [] => []
  | x :: xs => prune x :: pruneElems xs

def pruneMembers : List (String × Json) → List (String × Json)
  | [] => []
  | (_, .null) :: ms => pruneMembers ms
  | (k, v) :: ms => (k, prune v) :: pruneMembers ms
end

mutual
/-- `merge(cur, patch, false)`: two objects merge member by member, a non-object patch
replaces an object as it is, and anything replacing a non-object is pruned first. -/
def merge : Json → Json → Json
  | .obj doc, .obj patch => .obj (mergeDocs doc patch)
  | .obj _, patch => patch
  | _, patch => prune patch

/-- `mergeDocs(doc, patch, false)`, one patch member at a time. -/
def mergeDocs (doc : List (String × Json)) : List (String × Json) → List (String × Json)
  | [] => doc
  | (k, .null) :: patch => mergeDocs (eraseMember k doc) patch
  | (k, v) :: patch =>
      mergeDocs (setMember k (match doc.lookup k with
        | none | some .null => prune v
        | some cur => merge cur v) doc) patch
end

/-- `jsonpatch.MergePatch(docData, patchData)` on parsed documents. -/
def mergePatch (doc patch : Json) : Except String Json :=
  match doc, patch with
  | .null, _ => .error "Invalid JSON Document"
  | _, .null => .error "Invalid JSON Patch"
  | .obj d, .obj p => .ok (.obj (mergeDocs d p))
  | _, .obj p => .ok (.obj (pruneMembers p))
  | _, .arr xs => .ok (.arr (pruneElems xs))
  | _, _ => .error "Invalid JSON Patch"

end StrimziTransport
