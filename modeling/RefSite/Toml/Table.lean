import RefSite.Toml.Value

namespace RefSite.Toml

namespace Fields

/-- Changes the field with a key, or adds it if there is none. -/
def alter? (key : Text) (change : Option Value → Option Value) : Fields → Option Fields
  | [] => (change none).map fun v => [(key, v)]
  | (k, v) :: fields =>
    if k = key then (change (some v)).map fun v => (k, v) :: fields
    else (alter? key change fields).map ((k, v) :: ·)

/-- The form of a table that a path runs into where there is none yet. -/
def formOfNew (byHeader : Bool) : Form := if byHeader then .implied else .dotted

/-- A header may go on through every table but one in braces, a dotted key only through those that
have no header of their own. -/
def mayPass (byHeader : Bool) : Form → Bool
  | .inline => false
  | .header => byHeader
  | .implied | .dotted => true

/-- How a table counts once a path has led into it: a dotted key claims it, so that no header can
open it any more. -/
def formOfPassed (byHeader : Bool) (form : Form) : Form := if byHeader then form else .dotted

/-- Changes the table that a path leads to from a table of the form `here`. Tables that are missing
on the way are made; of tables under a header in double brackets the last one is meant, which keeps
its form. -/
def within? (byHeader : Bool) (change : Form → Fields → Option Fields) :
    List Text → Form → Fields → Option Fields
  | [], here, fields => change here fields
  | key :: path, _, fields =>
    alter? key (fun
      | none =>
        let form := formOfNew byHeader
        (within? byHeader change path form []).map (.table form)
      | some (.table form inner) =>
        if mayPass byHeader form then
          let form := formOfPassed byHeader form
          (within? byHeader change path form inner).map (.table form)
        else none
      | some (.tables items) =>
        match items.reverse with
        | .table form inner :: earlier =>
          (within? byHeader change path form inner).map fun inner =>
            .tables (.table form inner :: earlier).reverse
        | _ => none
      | some _ => none) fields

def addNew? (v : Value) : Option Value → Option Value
  | none => some v
  | some _ => none

/-- Puts a value under a key, which must be new; dots lead into tables without a header of their
own. -/
def put? (path : List Text) (key : Text) (v : Value) : Fields → Option Fields :=
  within? false
    (fun form fields =>
      if path ≠ [] ∧ form ≠ .dotted then none else alter? key (addNew? v) fields)
    path .header

/-- Opens a table, which may so far only have been passed by other headers. -/
def openTable? (path : List Text) (key : Text) : Fields → Option Fields :=
  within? true
    (fun _ => alter? key fun
      | none => some (.table .header [])
      | some (.table .implied inner) => some (.table .header inner)
      | some _ => none)
    path .header

def openNext? (path : List Text) (key : Text) : Fields → Option Fields :=
  within? true
    (fun _ => alter? key fun
      | none => some (.tables [.table .header []])
      | some (.tables items) => some (.tables (items ++ [.table .header []]))
      | some _ => none)
    path .header

end Fields

end RefSite.Toml
