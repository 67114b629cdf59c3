/-!
# Prefix codes

A prefix code is a binary tree: a bit chooses a side, a leaf is a symbol. A code is written as the
length of each symbol's word; words of one length go to the symbols in order, shorter words before
longer ones.

* `Code.ofLengths` is the tree of such a list of lengths.
* `Code.isComplete` says that every row of bits starts with a word.
-/

namespace JobLog.Gzip

/-- A prefix code. -/
inductive Code
  /-- No word leads here. -/
  | none
  | symbol (n : Nat)
  | fork (zero one : Code)

namespace Code

/-- The code behind a bit. -/
def child : Code → Bool → Code
  | .fork zero one, b => if b then one else zero
  | _, _ => .none

/-- Adds a word of `length` bits, the bits of `word` from the highest one down. -/
def insert (word symbol : Nat) : Nat → Code → Code
  | 0, _ => .symbol symbol
  | length + 1, .fork zero one =>
    if word.testBit length then .fork zero (insert word symbol length one)
    else .fork (insert word symbol length zero) one
  | length + 1, _ =>
    if word.testBit length then .fork .none (insert word symbol length .none)
    else .fork (insert word symbol length .none) .none

/-- The greatest length of a word. -/
def maxLength : Nat := 15

/-- The symbols with words of a length. -/
def symbolsOf (lengths : List Nat) (length : Nat) : List Nat :=
  lengths.zipIdx.filterMap fun (l, n) => if l = length then some n else Option.none

/-- The code with words of the given lengths; a symbol of length zero has no word. -/
def ofLengths (lengths : List Nat) : Code :=
  ((List.range maxLength).foldl (fun (code, word) l =>
    let (code, word) := (symbolsOf lengths (l + 1)).foldl
      (fun (code, word) n => (insert word n (l + 1) code, word + 1)) (code, 2 * word)
    (code, word)) (Code.none, 0)).1

/-- The number of symbols with a word. -/
def wordCount (lengths : List Nat) : Nat := (lengths.filter (· ≠ 0)).length

/-- The number of rows of `maxLength` bits that start with one of the words. -/
def coverage (lengths : List Nat) : Nat :=
  (lengths.filter (· ≠ 0)).foldl (fun n l => n + 1 <<< (maxLength - l)) 0

/-- The words cover every row of bits exactly once. -/
def isComplete (lengths : List Nat) : Bool := coverage lengths = 1 <<< maxLength

end Code
end JobLog.Gzip
