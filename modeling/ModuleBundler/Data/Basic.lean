import ModuleBundler.Number.Binary64

/-!
Structured data as programs hold it: scalars, optional values, sequences, maps, records and
variants. A value and the parts that it is a list of are one family indexed by shape, so that a
function on data is one structural recursion.

A map is written as steps, each of which gives a key or a value. Usually they alternate; what a
map means when they do not is for the reader of the steps to say.
-/

set_option autoImplicit false

namespace ModuleBundler

/-- What a piece of data is a piece of. -/
inductive Shape where
  | value
  | values
  | fields
  | steps
deriving Repr, DecidableEq

/-- Data of a shape. -/
inductive Data : Shape → Type where
  | bool (b : Bool) : Data .value
  /-- An integer of at most 64 bits, signed or not. -/
  | integer (i : Int) : Data .value
  /-- An integer of 128 bits. -/
  | wideInteger (signed : Bool) : Data .value
  | float (v : Binary64) : Data .value
  | char (c : Char) : Data .value
  | text (s : String) : Data .value
  | bytes : Data .value
  | absent : Data .value
  | present (d : Data .value) : Data .value
  | unit : Data .value
  | unitRecord : Data .value
  | unitVariant (name : String) : Data .value
  | wrapper (d : Data .value) : Data .value
  | wrapperVariant (d : Data .value) : Data .value
  | sequence (elements : Data .values) : Data .value
  | tuple (elements : Data .values) : Data .value
  | tupleRecord : Data .value
  | tupleVariant : Data .value
  | record (fields : Data .fields) : Data .value
  | recordVariant : Data .value
  | map (steps : Data .steps) : Data .value
  /-- A value that refuses to be written, and why. -/
  | failing (message : String) : Data .value
  | nil : Data .values
  | cons (head : Data .value) (tail : Data .values) : Data .values
  | noFields : Data .fields
  | field (name : String) (d : Data .value) (others : Data .fields) : Data .fields
  | noSteps : Data .steps
  | key (d : Data .value) (others : Data .steps) : Data .steps
  | value (d : Data .value) (others : Data .steps) : Data .steps

namespace Data

/-- The data of a list of values. -/
def ofList : List (Data .value) → Data .values
  | [] => .nil
  | d :: rest => .cons d (ofList rest)

/-- The data of a list of named values. -/
def ofFields : List (String × Data .value) → Data .fields
  | [] => .noFields
  | (k, d) :: rest => .field k d (ofFields rest)

/-- The steps that give keys and values in turn. -/
def ofEntries : List (Data .value × Data .value) → Data .steps
  | [] => .noSteps
  | (k, d) :: rest => .key k (.value d (ofEntries rest))

end Data

end ModuleBundler
