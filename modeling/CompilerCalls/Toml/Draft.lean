import CompilerCalls.Toml.Value

/-!
# Documents in the making

The statements of a document fill its table one after the other.  What may be
said about a key depends on what was said before: a table has a single header,
a table which dotted keys went through gets no header later, and a value which
was written as a whole does not grow.
-/

namespace CompilerCalls.Toml

/-- The names on the way to a value. -/
abbrev Key := List String

inductive Statement where
  | pair (key : Key) (value : Value)
  | table (key : Key)
  | item (key : Key)

/-- A value which is a part of another one as soon as it is written. -/
def frozenBy (frozen : List Key) (key : Key) : Bool :=
  frozen.any fun whole => whole.isPrefixOf key

/-- A table in one line, of which some fields have been read. -/
structure LineDraft where
  table : Table := []
  /-- Keys of arrays and tables in earlier fields. -/
  frozen : List Key := []

def LineDraft.add (draft : LineDraft) (key : Key) (value : Value) :
    Option LineDraft :=
  match key.getLast? with
  | none => none
  | some name =>
      if frozenBy draft.frozen key then none
      else
        (draft.table.change false key.dropLast (Table.add name value)).map
          fun table =>
            { table
              frozen :=
                if value.isContainer then key :: draft.frozen
                else draft.frozen }

/-- A document of which some statements have been read. -/
structure Draft where
  root : Table := []
  header : Key := []
  /-- Keys which may not have a header any more. -/
  closed : List Key := []
  /-- Keys which will be closed by the next header. -/
  pending : List Key := []
  /-- Keys of arrays and tables which were written as a whole. -/
  frozen : List Key := []

namespace Draft

/-- The keys of the tables which a dotted key goes through. -/
def throughKeys (header key : Key) : List Key :=
  (List.range (key.length - 1)).map fun count => header ++ key.take (count + 1)

def addPair (draft : Draft) (key : Key) (value : Value) : Option Draft :=
  let through := throughKeys draft.header key
  let parent := draft.header ++ key.dropLast
  match key.getLast? with
  | none => none
  | some name =>
      if through.any draft.closed.contains || frozenBy draft.frozen parent then
        none
      else
        (draft.root.change true parent (Table.add name value)).map fun root =>
          { draft with
            root
            pending := through ++ draft.pending
            frozen :=
              if value.isContainer then (draft.header ++ key) :: draft.frozen
              else draft.frozen }

def openTable (draft : Draft) (key : Key) : Option Draft :=
  let closed := draft.pending ++ draft.closed
  if closed.contains key || frozenBy draft.frozen key then none
  else
    (draft.root.change true key some).map fun root =>
      { draft with root, header := key, closed := key :: closed, pending := [] }

/-- One more empty table at the end of an array of tables. -/
def addItem (name : String) (table : Table) : Option Table :=
  match table.value? name with
  | none => some (table ++ [(name, .array [.table []])])
  | some (.array items) =>
      some (Table.put name (.array (items ++ [.table []])) table)
  | some _ => none

/-- The document after the header of a new item.  What was said about keys
below the header concerned the item before. -/
def openItem (draft : Draft) (key : Key) : Option Draft :=
  match key.getLast? with
  | none => none
  | some name =>
      if frozenBy draft.frozen key then none
      else
        let isOutside (other : Key) : Bool := !key.isPrefixOf other
        (draft.root.change true key.dropLast (addItem name)).map fun root =>
          { root
            header := key
            closed := key :: (draft.pending ++ draft.closed).filter isOutside
            pending := []
            frozen := draft.frozen.filter isOutside }

def add (draft : Draft) : Statement → Option Draft
  | .pair key value => draft.addPair key value
  | .table key => draft.openTable key
  | .item key => draft.openItem key

end Draft

end CompilerCalls.Toml
