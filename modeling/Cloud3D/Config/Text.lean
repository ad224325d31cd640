import Mathlib.Algebra.Order.Ring.Int
import Mathlib.Data.List.Infix
import Mathlib.Data.List.Basic

/-!
# Text of a configuration file

What `FileParser` uses of the standard library: `std::getline`, `find` and `substr` of
`std::string`, and `std::stoi`. A character stands for one byte. `std::stof` is left to
the parsers as a parameter, since the kind of number that a version is plays no part.
-/

namespace Cloud3D

/-- The exceptions that reading a configuration can end in. -/
inductive Thrown where
  | failure (what : String)
  | invalidArgument (what : String)
  | outOfRange (what : String)
deriving DecidableEq, Repr

/-- The lines of a text without their newlines. What follows the last newline is a line
only if it is not empty. -/
def splitLines : List Char → List (List Char)
  | [] => []
  | c :: text =>
      if c = '\n' then [] :: splitLines text
      else
        match splitLines text with
        | [] => [[c]]
        | line :: lines => (c :: line) :: lines

/-- All lines that `std::getline` delivers. -/
def getlines (text : String) : List String := (splitLines text.toList).map String.ofList

/-- A line is what stands before the next newline. -/
theorem splitLines_append {line : List Char} (single : '\n' ∉ line) (text : List Char) :
    splitLines (line ++ '\n' :: text) = line :: splitLines text := by
  induction line with
  | nil => simp [splitLines]
  | cons c line ih =>
      obtain ⟨here, later⟩ := not_or.mp (mt List.mem_cons.mpr single)
      rw [List.cons_append, splitLines, if_neg (Ne.symm here), ih later]

/-- Every sequence of lines is that of some file. -/
theorem splitLines_join {lines : List (List Char)} (single : ∀ line ∈ lines, '\n' ∉ line)
    (text : List Char) :
    splitLines ((lines.flatMap fun line => line ++ ['\n']) ++ text) =
      lines ++ splitLines text := by
  induction lines with
  | nil => rfl
  | cons line lines ih =>
      obtain ⟨here, later⟩ := List.forall_mem_cons.mp single
      rw [List.flatMap_cons, List.append_assoc, List.append_assoc, List.singleton_append,
        splitLines_append here, ih later, List.cons_append]

/-- The position of the first occurrence of `key`. -/
def find (line key : String) : Option Nat :=
  line.toList.tails.findIdx? fun tail => key.toList.isPrefixOf tail

theorem find_eq_zero_iff (line key : String) :
    find line key = some 0 ↔ key.toList <+: line.toList := by
  rw [find]
  cases line.toList with
  | nil => simp
  | cons c text =>
      rw [List.tails_cons, List.findIdx?_cons, ← List.isPrefixOf_iff_prefix]
      cases key.toList.isPrefixOf (c :: text) <;> simp

/-- The text from a position on. A position after the end is an error. -/
def substr (line : String) (pos : Nat) : Except Thrown String :=
  if line.toList.length < pos then throw (.outOfRange "basic_string::substr")
  else return String.ofList (line.toList.drop pos)

theorem substr_eq_ok {line : String} {pos : Nat} (inside : pos ≤ line.toList.length) :
    substr line pos = .ok (String.ofList (line.toList.drop pos)) :=
  if_neg (Nat.not_lt.mpr inside)

/-- `std::isspace` in the default locale. -/
def isSpace (c : Char) : Bool :=
  c = ' ' ∨ c = '\t' ∨ c = '\n' ∨ c.toNat = 11 ∨ c.toNat = 12 ∨ c = '\r'

/-- The value of a row of decimal digits. -/
def decimal (digits : List Char) : Nat :=
  digits.foldl (fun value digit => 10 * value + (digit.toNat - '0'.toNat)) 0

/-- `std::stoi` to base 10: white space, a sign, and the longest row of digits. What
follows is ignored. -/
def stoi (str : String) : Except Thrown Int32 :=
  let unspaced := str.toList.dropWhile isSpace
  let signless := match unspaced with
    | '-' :: text => text
    | '+' :: text => text
    | text => text
  let digits := signless.takeWhile Char.isDigit
  let value : Int := if unspaced.head? = some '-' then -decimal digits else decimal digits
  if digits = [] then throw (.invalidArgument "stoi")
  else if value < -2 ^ 31 ∨ 2 ^ 31 ≤ value then throw (.outOfRange "stoi")
  else return Int32.ofInt value

example : stoi "\t -12 rest" = .ok (-12) := by decide

example : stoi "2147483648" = .error (.outOfRange "stoi") := by decide

end Cloud3D
