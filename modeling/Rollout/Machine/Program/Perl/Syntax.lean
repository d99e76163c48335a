import Rollout.Machine.Program.Perl.Value

/-!
Scripts: statements that are carried out one after another, and expressions, which have one value or several,
depending on where they stand.
-/

namespace Rollout.Program.Perl

/-- The kind of thing that a name stands for, by the sign in front of it. -/
inductive Sigil
  | scalar | array | hash | code | handle
  deriving DecidableEq

/-- The sign. -/
def Sigil.sign : Sigil → Char
  | scalar => '$'
  | array => '@'
  | hash => '%'
  | code => '&'
  | handle => '*'

/-- A variable. -/
structure Variable where
  /-- What it is. -/
  sigil : Sigil
  /-- Its name. -/
  name : Text
  deriving DecidableEq

/-- How variables are declared. -/
inductive Declaring
  /-- They belong to the block. -/
  | own
  /-- They belong to the package. -/
  | shared
  /-- They belong to the block and keep what they hold. -/
  | lasting
  deriving DecidableEq

/-- What is joined with an assignment. -/
inductive Update
  | operation (op : Binary)
  | andAlso
  | orElse
  | orDefined

/-- What is printed at the end of what is printed. -/
inductive Printing
  | print | say | printf
  deriving DecidableEq

/-- What is done with each of several values. -/
inductive Mapping
  | map | grep
  deriving DecidableEq

mutual

/-- An expression. -/
inductive Expr
  /-- A value that is written. -/
  | value (v : Value)
  /-- Texts one after another. -/
  | joined (es : List Expr)
  /-- The values of a list as one text. -/
  | listText (e : Expr)
  /-- A variable. -/
  | variable (v : Variable)
  /-- What a reference leads to. -/
  | deref (s : Sigil) (e : Expr)
  /-- An element of an array. -/
  | element (a i : Expr)
  /-- A value of a hash. -/
  | field (h k : Expr)
  /-- Elements of an array. -/
  | slice (a is : Expr)
  /-- Values of a hash. -/
  | fieldSlice (h ks : Expr)
  /-- Values of a hash with their keys. -/
  | pairSlice (h ks : Expr)
  /-- Some of the values of a list. -/
  | listSlice (e is : Expr)
  /-- The number of the last element of an array. -/
  | lastIndex (a : Expr)
  /-- New variables. -/
  | declare (d : Declaring) (vs : List Variable) (isList : Bool)
  /-- Something that gets its old value back at the end of the block. -/
  | localized (e : Expr)
  /-- Put a value somewhere. -/
  | assign (op : Option Update) (a b : Expr)
  /-- An operation. -/
  | binary (op : Binary) (a b : Expr)
  /-- The values of a list so many times. -/
  | repeatedList (a b : Expr)
  | and (a b : Expr)
  | or (a b : Expr)
  | orDefined (a b : Expr)
  | xor (a b : Expr)
  | not (e : Expr)
  | negative (e : Expr)
  | complement (e : Expr)
  | choice (c a b : Expr)
  /-- The values from one to another, or whether something lies between two tests that belong to a place. -/
  | range (spot : Nat) (a b : Expr)
  /-- Count up or down. -/
  | step (up before : Bool) (e : Expr)
  /-- The reference to something. -/
  | reference (e : Expr)
  | list (es : List Expr)
  | newArray (es : List Expr)
  | newHash (es : List Expr)
  | newCode (body : Block)
  /-- Call a function by its name; without arguments it gets those of the function that calls it. -/
  | call (name : Text) (args : Option (List Expr))
  /-- Call what a reference leads to. -/
  | callValue (f : Expr) (args : Option (List Expr))
  /-- Call a method of an object or a class. -/
  | method (object : Expr) (name : Expr) (args : List Expr)
  /-- A function that every script knows. -/
  | function (name : Text) (args : List Expr)
  | mapping (m : Mapping) (f : Block) (e : Expr)
  | sorting (order : Option Expr) (e : Expr)
  | printing (p : Printing) (handle : Option Expr) (es : List Expr)
  /-- Does a text match an expression? -/
  | matching (target : Option Expr) (p : Expr) (letters : Text) (wanted : Bool)
  /-- Replace what an expression matches. -/
  | replacing (target : Option Expr) (p : Expr) (new : Expr) (letters : Text)
  /-- Replace characters. -/
  | translating (target : Option Expr) (old new letters : Text)
  /-- A regular expression as a value. -/
  | pattern (p : Expr) (letters : Text)
  /-- The next line of a file, or all of them. -/
  | readLine (handle : Expr)
  /-- The next line of the files that are named, or of the standard input. -/
  | readInput
  /-- The names of files that patterns cover. -/
  | fileNames (e : Expr)
  /-- What is so about a file. -/
  | fileTest (letter : Char) (e : Expr)
  /-- The output of a command. -/
  | command (e : Expr)
  | doBlock (b : Block)
  | evalBlock (b : Block)

/-- A statement, with its line. -/
inductive Statement
  | expression (line : Nat) (e : Expr)
  | branch (line : Nat) (tests : List (Expr × Block)) (other : Block)
  /-- A loop as long as a test holds, with what is done before the next round. -/
  | loop (line : Nat) (label : Option Text) (test : Option Expr) (body next : Block)
  /-- A statement that is done at least once. -/
  | doLoop (line : Nat) (body : Block) (test : Expr)
  | each (line : Nat) (label : Option Text) (v : Option (Bool × Variable)) (e : Expr) (body : Block)
  | block (line : Nat) (label : Option Text) (body : Block)
  | function (name : Text) (body : Block)
  | package (name : Text)
  | empty

/-- Statements one after another. -/
inductive Block
  | mk (statements : List Statement)

end

instance : Inhabited Expr := ⟨.value .absent⟩

/-- The statements of a block. -/
def Block.statements : Block → List Statement
  | mk ss => ss

/-- A block without statements. -/
def Block.none : Block := .mk []

/-- An expression as a block. -/
def Block.ofExpr (line : Nat) (e : Expr) : Block := .mk [.expression line e]

/-- The variable in which values stand that have no other name. -/
def Expr.topic : Expr := .variable ⟨.scalar, "_"⟩

end Rollout.Program.Perl
