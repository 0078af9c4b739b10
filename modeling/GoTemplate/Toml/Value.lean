/-
  TOML values and tables.

  A table remembers how it came about, because that decides who may add to it: a header may
  complete a table that was only implied by a longer header, a dotted key any table without a
  header of its own, and nothing may be added to an inline table.  A table that a dotted key has
  added to belongs to the dotted keys: no header may complete it any more.  No key is ever given
  twice.

  `Table.within` walks along a path of keys, making tables that are missing, and changes the table
  at its end; headers and assignments are both changes of that form.
-/
import GoTemplate.Text

namespace GoTemplate.Toml

/-! ## Values -/

/-- How a table came about. -/
inductive Origin where
  /-- Under a header of its own, or as the document itself. -/
  | header
  /-- On the way to the table of a longer header. -/
  | implied
  /-- On the way of a dotted key, or implied and then added to by one. -/
  | dotted
  | inline
deriving DecidableEq, Repr

/-- How an array came about. -/
inductive ArrayKind where
  | values
  /-- By headers in double brackets. -/
  | tables
deriving DecidableEq, Repr

mutual

/-- A TOML value; floats and dates are kept as spelled. -/
inductive Value where
  | string (t : Text)
  | integer (n : Int)
  | float (literal : Text)
  | boolean (b : Bool)
  | dateTime (literal : Text)
  | array (kind : ArrayKind) (items : List Value)
  | table (origin : Origin) (entries : List Entry)

/-- A key with its value. -/
inductive Entry where
  | mk (key : Text) (value : Value)

end

/-- The entries of a table, in the order in which they came. -/
abbrev Table := List Entry

/-! ## Tables -/

namespace Table

/-- The value of a key. -/
def find? (key : Text) : Table → Option Value
  | [] => none
  | .mk k v :: rest => if k = key then some v else find? key rest

/-- Give a key a value, in the place it has or else at the end. -/
def put (key : Text) (value : Value) : Table → Table
  | [] => [.mk key value]
  | .mk k v :: rest => if k = key then .mk k value :: rest else .mk k v :: put key value rest

/-- The origin of a table made on the way along a path. -/
def originOnWay (dotted : Bool) : Origin := if dotted then .dotted else .implied

/-- The origin of a table after a path has passed through it, `none` if it may not.  A dotted path
    takes over a table that a header has implied. -/
def passed? (dotted : Bool) : Origin → Option Origin
  | .inline => none
  | .header => if dotted then none else some .header
  | .implied => some (originOnWay dotted)
  | .dotted => some .dotted

/-- Change the table at the end of a path, `none` if there can be none.  In an array of tables the
    last one is meant. -/
def within (dotted : Bool) (change : Origin → Table → Option Table) :
    List Text → Origin → Table → Option Table
  | [], origin, t => change origin t
  | key :: path, _, t =>
    match t.find? key with
    | none => do
      let origin := originOnWay dotted
      let sub ← within dotted change path origin []
      return t.put key (.table origin sub)
    | some (.table origin sub) => do
      let origin ← passed? dotted origin
      let sub ← within dotted change path origin sub
      return t.put key (.table origin sub)
    | some (.array .tables items) =>
      match items.getLast? with
      | some (.table origin sub) =>
        (within dotted change path origin sub).map fun sub' =>
          t.put key (.array .tables (items.dropLast ++ [.table origin sub']))
      | _ => none
    | some _ => none

/-- Assign a value at a path of keys.  A dotted key ends in a table made by dotted keys, a simple
    key in the table it is written under. -/
def assign (path : List Text) (value : Value) (origin : Origin) (t : Table) : Option Table :=
  match path.getLast? with
  | none => none
  | some key =>
    within true
      (fun origin t =>
        if (origin = .dotted) = (path.length = 1) then none
        else if (t.find? key).isSome then none
        else some (t.put key value))
      path.dropLast origin t

/-- The change that a header makes: a new table, or one that was only implied. -/
def openTable (key : Text) (t : Table) : Option Table :=
  match t.find? key with
  | none => some (t.put key (.table .header []))
  | some (.table .implied sub) => some (t.put key (.table .header sub))
  | some _ => none

/-- The change that a header in double brackets makes: one more table in an array of tables. -/
def openItem (key : Text) (t : Table) : Option Table :=
  match t.find? key with
  | none => some (t.put key (.array .tables [.table .header []]))
  | some (.array .tables items) => some (t.put key (.array .tables (items ++ [.table .header []])))
  | some _ => none

/-- The document after a header. -/
def header (array : Bool) (path : List Text) (t : Table) : Option Table :=
  match path.getLast? with
  | none => none
  | some key =>
    within false (fun _ t => if array then openItem key t else openTable key t)
      path.dropLast .header t

end Table

end GoTemplate.Toml
