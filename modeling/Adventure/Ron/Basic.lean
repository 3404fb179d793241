import Adventure.Document

namespace Adventure

/-- A value of the object notation in which knowledge bases and saves are kept. A number with a fraction is kept as
its text, since no record holds one. -/
inductive Ron where
  | word (name : String)
  | flag (value : Bool)
  | option (value : Option Ron)
  | text (value : String)
  | bytes (values : List UInt8)
  | letter (value : Char)
  | integer (value : Int) (kind : Option IntegerKind)
  | fraction (digits : String)
  | list (items : List Ron)
  | tuple (name : Option String) (items : List Ron)
  | record (name : Option String) (fields : List (String × Ron))
  | table (entries : List (Ron × Ron))

namespace Ron

instance : Inhabited Ron := ⟨.tuple none []⟩

instance : Writable Ron where
  text := .text
  int value := .integer value none
  flag := .flag
  option := .option
  list := .list
  variant := .word
  record := .record none

/-- The kinds of integers that a number can name behind its digits, with their names. -/
def suffixes : List (String × IntegerKind) :=
  [("i8", ⟨true, 8⟩), ("i16", ⟨true, 16⟩), ("i32", ⟨true, 32⟩), ("i64", ⟨true, 64⟩),
    ("u8", ⟨false, 8⟩), ("u16", ⟨false, 16⟩), ("u32", ⟨false, 32⟩), ("u64", ⟨false, 64⟩)]

end Ron

end Adventure
