import Rollout.Machine.Program.Scan.Matching

/-!
Scripts that scan records: for each record that a pattern selects, statements are carried out.
-/

namespace Rollout.Program.Scan

/-- An operation on two numbers. -/
inductive Operation
  | add | sub | mul | div | mod | pow
  deriving DecidableEq

/-- How two values are compared. -/
inductive Comparison
  | less | lessOrEqual | equal | notEqual | greater | greaterOrEqual
  deriving DecidableEq

/-- A function that every script knows. -/
inductive Builtin
  | length | substr | index | split | sub | gsub | position | sprintf | sin | cos | atan2 | exp | log | sqrt | int
  | rand | srand | lower | upper | system | close | fflush | strftime | mktime | systime
  deriving DecidableEq

/-- The functions with their names and the least and the greatest number of their arguments. -/
def builtins : List (String × Builtin × Nat × Nat) :=
  [("length", .length, 0, 1), ("substr", .substr, 2, 3), ("index", .index, 2, 2), ("split", .split, 2, 3),
    ("sub", .sub, 2, 3), ("gsub", .gsub, 2, 3), ("match", .position, 2, 2), ("sprintf", .sprintf, 1, 255),
    ("sin", .sin, 1, 1), ("cos", .cos, 1, 1), ("atan2", .atan2, 2, 2), ("exp", .exp, 1, 1), ("log", .log, 1, 1),
    ("sqrt", .sqrt, 1, 1), ("int", .int, 1, 1), ("rand", .rand, 0, 0), ("srand", .srand, 0, 1),
    ("tolower", .lower, 1, 1), ("toupper", .upper, 1, 1), ("system", .system, 1, 1), ("close", .close, 1, 1),
    ("fflush", .fflush, 0, 1), ("strftime", .strftime, 0, 3), ("mktime", .mktime, 1, 1),
    ("systime", .systime, 0, 0)]

/-- What a name stands for. -/
inductive Name
  /-- A variable of the whole script, by its number. -/
  | shared (i : Nat)
  /-- A variable of a function, by its number. -/
  | own (i : Nat)

/-- Variables that mean something to the scan, by their numbers. -/
def specialNames : List String :=
  ["NF", "NR", "FNR", "FS", "OFS", "ORS", "RS", "SUBSEP", "RSTART", "RLENGTH", "FILENAME", "CONVFMT", "OFMT",
    "ENVIRON", "ARGC", "ARGV"]

mutual

/-- An expression that has a value. -/
inductive Expr
  /-- A number. -/
  | number (x : Float)
  /-- A text. -/
  | text (t : Text)
  /-- A regular expression, which says whether the record matches. -/
  | regex (c : Regex.Compiled)
  /-- What a place holds. -/
  | place (p : Place)
  /-- A name that stands alone as an argument. -/
  | bare (n : Name)
  /-- Put a value into a place, perhaps after an operation with what it holds. -/
  | assign (p : Place) (op : Option Operation) (e : Expr)
  /-- Count a place up or down, before or after its value is taken. -/
  | step (p : Place) (up before : Bool)
  /-- One of two values. -/
  | choice (test yes no : Expr)
  /-- Are both true? -/
  | both (a b : Expr)
  /-- Is one of them true? -/
  | either (a b : Expr)
  /-- Is it not true? -/
  | not (e : Expr)
  /-- Does an array have an element? -/
  | isIn (keys : List Expr) (array : Name)
  /-- Does a text match an expression, or does it not? -/
  | matches (wanted : Bool) (a b : Expr)
  /-- Compare two values. -/
  | compare (c : Comparison) (a b : Expr)
  /-- One text after the other. -/
  | concat (a b : Expr)
  /-- An operation on numbers. -/
  | operation (op : Operation) (a b : Expr)
  /-- The number with another sign. -/
  | negative (e : Expr)
  /-- The number. -/
  | positive (e : Expr)
  /-- The value of a function of the script, by its number. -/
  | call (f : Nat) (arguments : List Expr)
  /-- The value of a function that every script knows. -/
  | builtin (b : Builtin) (arguments : List Expr)
  /-- Read a record from somewhere, perhaps into a place. -/
  | getline (source : Source) (target : Option Place)

/-- Where a value is kept. -/
inductive Place
  /-- In a variable. -/
  | variable (n : Name)
  /-- In an element of an array. -/
  | element (array : Name) (keys : List Expr)
  /-- In a field of the record, or in all of it. -/
  | field (e : Expr)

/-- Where a record is read. -/
inductive Source
  /-- In the input. -/
  | input
  /-- In a file. -/
  | file (name : Expr)
  /-- In what a command prints. -/
  | command (line : Expr)

end

/-- Where something is printed. -/
inductive Sink
  /-- To a file, from its start. -/
  | file
  /-- To the end of a file. -/
  | extend
  /-- To a command. -/
  | command
  deriving DecidableEq

/-- A statement. -/
inductive Stmt
  /-- Nothing. -/
  | skip
  /-- Find a value. -/
  | eval (e : Expr)
  /-- Print values, or the record. -/
  | print (values : List Expr) (target : Option (Sink × Expr))
  /-- Print values by a format. -/
  | printf (values : List Expr) (target : Option (Sink × Expr))
  /-- Take away an element of an array, or all. -/
  | delete (array : Name) (keys : Option (List Expr))
  /-- One after the other. -/
  | block (ss : List Stmt)
  /-- One or the other. -/
  | cond (test : Expr) (yes no : Stmt)
  /-- As long as a test says so; after the body, something is done. -/
  | loop (test : Option Expr) (step : Stmt) (body : Stmt)
  /-- The same, but the body comes first. -/
  | loopAfter (test : Expr) (body : Stmt)
  /-- For each key of an array. -/
  | each (key : Name) (array : Name) (body : Stmt)
  /-- Leave the loop. -/
  | leave
  /-- Go on with the loop. -/
  | again
  /-- Go on with the next record. -/
  | nextRecord
  /-- Go on with the next file. -/
  | nextFile
  /-- End the scan. -/
  | quit (status : Option Expr)
  /-- End the function. -/
  | giveBack (value : Option Expr)

/-- Which records are selected. -/
inductive Selector
  /-- All. -/
  | all
  /-- Those for which an expression is true. -/
  | only (e : Expr)
  /-- Those from one for which an expression is true to one for which another one is. -/
  | span (first last : Expr)

/-- What is done with records. -/
structure Rule where
  /-- Which records are selected. -/
  selector : Selector
  /-- What is done. -/
  body : Stmt

/-- A function of a script. -/
structure Function where
  /-- Its name. -/
  name : Text
  /-- The number of its parameters. -/
  parameters : Nat
  /-- What it does, if that is known. -/
  body : Option Stmt

/-- A script. -/
structure Script where
  /-- What is done at first. -/
  beginning : List Stmt
  /-- What is done with each record. -/
  rules : List Rule
  /-- What is done in the end. -/
  ending : List Stmt
  /-- The functions. -/
  functions : Array Function
  /-- The names of the variables of the whole script. -/
  names : List Text

end Rollout.Program.Scan
