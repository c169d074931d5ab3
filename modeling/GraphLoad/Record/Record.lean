import GraphLoad.Json.Printer

/-!
Records, and dropping repeated ones. Two records are the same when their texts are, and texts list
the keys of every object in order, so the order in which a record was written does not count. No
sorting is needed for that: the fields of a value that was read stand in ascending order of their keys
already, at every depth, and a write keeps that order.
-/

namespace GraphLoad

/-- A node or relationship as the caller describes it. -/
abbrev Record := Fields

namespace Record

/-- The text that two records share exactly when they are the same. -/
def canonical (record : Record) : String :=
  (Json.object record).render

/-- The records whose text is neither among those seen nor that of an earlier record. -/
def distinctFrom : (seen : List String) → List Record → List Record
  | _, [] => []
  | seen, r :: rs =>
    if seen.contains (canonical r) then distinctFrom seen rs
    else r :: distinctFrom (canonical r :: seen) rs

/-- The first of each group of equal records, in order. -/
def distinct (records : List Record) : List Record :=
  distinctFrom [] records

end Record
end GraphLoad
