import UtilityCss.Record.Basic

/-!
# Tidying records

Two passes run over the records of a program.  `Record.distinct` keeps the first of several records
with the same property and values, whatever their pseudo-class and media condition, and all layer
records.  `Record.elideEmptyLayers` then removes layers with nothing in them; a layer that becomes
empty because inner ones were removed goes too.  `Record.tidy` is the two in this order.
-/

namespace UtilityCss.Record

/-- Is this a repetition of a record whose key is known?  Layer records never are. -/
def isRepeated (seen : List (Text × List Text)) : Record → Bool
  | .layer _ _ => false
  | record => record.key ∈ seen

/-- The known keys after a record.  Layer records add none. -/
def see (seen : List (Text × List Text)) : Record → List (Text × List Text)
  | .layer _ _ => seen
  | record => record.key :: seen

/-- The records that are not repetitions, given the keys that are known already. -/
def distinctFrom (seen : List (Text × List Text)) : List Record → List Record
  | [] => []
  | record :: records =>
    if record.isRepeated seen then distinctFrom seen records
    else record :: distinctFrom (record.see seen) records

/-- The first record of each key, and every layer record. -/
def distinct (records : List Record) : List Record := distinctFrom [] records

/-- The records that are repetitions, given the keys that are known already. -/
def repeatedFrom (seen : List (Text × List Text)) : List Record → List Record
  | [] => []
  | record :: records =>
    if record.isRepeated seen then record :: repeatedFrom seen records
    else repeatedFrom (record.see seen) records

/-- The records that `distinct` drops. -/
def repeated (records : List Record) : List Record := repeatedFrom [] records

/-- Adds a record to those kept so far, the last one first.  The end of a layer meets its start when
nothing was kept in between, and both vanish. -/
def elideStep (kept : List Record) (record : Record) : List Record :=
  match record, kept with
  | .layer name .stop, .layer other .start :: rest =>
    if other = name then rest else record :: kept
  | _, _ => record :: kept

/-- The records without empty layers. -/
def elideEmptyLayers (records : List Record) : List Record := (records.foldl elideStep []).reverse

/-- The records without repetitions and without the layers that are then empty. -/
def tidy (records : List Record) : List Record := elideEmptyLayers (distinct records)

end UtilityCss.Record
