import CompilerCalls.Decimal.Written
import CompilerCalls.Text.Quoted
import CompilerCalls.Text.Split
import CompilerCalls.Toml.Fault
import CompilerCalls.Toml.Moment

/-!
# Values of settings documents

The values which a TOML document can hold, and the text in which messages show
them.
-/

namespace CompilerCalls.Toml

/-- A value.  A table keeps the order in which its keys were written. -/
inductive Value where
  | text (content : String)
  | integer (number : Int)
  | float (number : Decimal.Binary64)
  | boolean (truth : Bool)
  | moment (instant : Moment)
  | array (items : List Value)
  | table (fields : List (String × Value))

abbrev Table := List (String × Value)

namespace Value

def isContainer : Value → Bool
  | .array _ | .table _ => true
  | _ => false

def writtenInteger (number : Int) : Except WriteFault String :=
  let digits := number.natAbs.repr
  if integerDigits < digits.length then .error .integerTooLong
  else .ok (if number < 0 then "-" ++ digits else digits)

mutual

/-- The text of a value which is nested up to a depth. -/
def writtenWithin (depth : Nat) (value : Value) : Except WriteFault String :=
  if depth = 0 then .error .tooDeep
  else
    match value with
    | .text content => .ok (Text.quoted content)
    | .integer number => writtenInteger number
    | .float number => .ok number.written
    | .boolean truth => .ok (if truth then "True" else "False")
    | .moment instant =>
        if depth ≤ instant.nesting then .error .tooDeep else .ok instant.written
    | .array items =>
        (writtenItems (depth - 1) items).map fun texts =>
          "[" ++ Text.join ", " texts ++ "]"
    | .table fields =>
        (writtenFields (depth - 1) fields).map fun texts =>
          "\x7b" ++ Text.join ", " texts ++ "\x7d"

def writtenItems (depth : Nat) (items : List Value) :
    Except WriteFault (List String) :=
  match items with
  | [] => .ok []
  | item :: rest =>
      match writtenWithin depth item with
      | .error fault => .error fault
      | .ok shown => (writtenItems depth rest).map (shown :: ·)

def writtenFields (depth : Nat) (fields : List (String × Value)) :
    Except WriteFault (List String) :=
  match fields with
  | [] => .ok []
  | (key, value) :: rest =>
      match writtenWithin depth value with
      | .error fault => .error fault
      | .ok shown =>
          (writtenFields depth rest).map
            ((Text.quoted key ++ ": " ++ shown) :: ·)

end

/-- The text in which messages show a value. -/
def written (value : Value) : Except WriteFault String :=
  value.writtenWithin nestingLimit

end Value

namespace Table

/-- The value of a key. -/
def value? (table : Table) (key : String) : Option Value := table.lookup key

/-- Puts a value in the place of the one which a key has, or at the end. -/
def put (key : String) (value : Value) : Table → Table
  | [] => [(key, value)]
  | (other, old) :: rest =>
      if other = key then (key, value) :: rest
      else (other, old) :: put key value rest

/-- Changes the table which is reached by keys, and makes the tables which are
missing on the way.  If arrays are entered, their last item is meant. -/
def change (entersArrays : Bool) :
    List String → (Table → Option Table) → Table → Option Table
  | [], step, table => step table
  | key :: keys, step, table =>
      match table.value? key with
      | none =>
          (change entersArrays keys step []).map fun inner =>
            table ++ [(key, .table inner)]
      | some (.table fields) =>
          (change entersArrays keys step fields).map fun inner =>
            put key (.table inner) table
      | some (.array items) =>
          match entersArrays, items.getLast? with
          | true, some (.table fields) =>
              (change entersArrays keys step fields).map fun inner =>
                put key (.array (items.dropLast ++ [.table inner])) table
          | _, _ => none
      | some _ => none

/-- Adds a key which must not be there yet. -/
def add (key : String) (value : Value) (table : Table) : Option Table :=
  match table.value? key with
  | none => some (table ++ [(key, value)])
  | some _ => none

end Table

end CompilerCalls.Toml
