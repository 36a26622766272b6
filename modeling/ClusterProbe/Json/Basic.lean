import ClusterProbe.Number.Binary64

/-!
# Documents

The values that configuration documents, expectations and response bodies hold. Numbers have three
kinds, and two numbers are equal only within one kind. A mapping lists its entries by ascending
key, each key once; `SortedKeys` says so, and everything that builds a mapping keeps it.
-/

namespace ClusterProbe

/-- A number: a natural below `2 ^ 64`, a negative integer `-(n + 1)` down to `-2 ^ 63`, or a
finite double. -/
inductive Number where
  | natural (n : UInt64)
  | belowZero (n : Fin (Nat.pow 2 63))
  | double (x : Binary64)
deriving DecidableEq

namespace Number

/-- An integer that fits in 64 bits. -/
def ofInt? (i : Int) : Option Number :=
  match i with
  | .ofNat n => if n < Nat.pow 2 64 then some (.natural (UInt64.ofNat n)) else none
  | .negSucc n => if h : n < Nat.pow 2 63 then some (.belowZero ⟨n, h⟩) else none

/-- Equality within a kind; doubles are compared as numbers. -/
def same : Number → Number → Bool
  | .natural m, .natural n => m = n
  | .belowZero m, .belowZero n => m = n
  | .double x, .double y => x.same y
  | _, _ => false

end Number

/-- A document. -/
inductive Json where
  | null
  | bool (b : Bool)
  | number (n : Number)
  | string (s : String)
  | array (items : List Json)
  | object (entries : List (String × Json))

namespace Json

/-- The entry of a key. -/
def find? (key : String) : List (String × Json) → Option Json
  | [] => none
  | (k, v) :: rest => if k = key then some v else find? key rest

/-- The entries with one more; an entry of the same key is replaced. -/
def insert (key : String) (value : Json) : List (String × Json) → List (String × Json)
  | [] => [(key, value)]
  | (k, v) :: rest =>
    if key < k then (key, value) :: (k, v) :: rest
    else if key = k then (key, value) :: rest
    else (k, v) :: insert key value rest

/-- The mapping of a list of entries; of two entries of one key the later one counts. -/
def ofEntries (entries : List (String × Json)) : List (String × Json) :=
  entries.foldl (fun acc e ↦ insert e.1 e.2 acc) []

mutual

/-- Deep equality: mappings entry by entry, numbers within their kind. -/
def same : Json → Json → Bool
  | .null, .null => true
  | .bool a, .bool b => a = b
  | .number a, .number b => a.same b
  | .string a, .string b => a = b
  | .array a, .array b => sameItems a b
  | .object a, .object b => sameEntries a b
  | _, _ => false

/-- Equality item by item. -/
def sameItems : List Json → List Json → Bool
  | [], [] => true
  | a :: as, b :: bs => same a b && sameItems as bs
  | _, _ => false

/-- Equality entry by entry. -/
def sameEntries : List (String × Json) → List (String × Json) → Bool
  | [], [] => true
  | (k, a) :: as, (l, b) :: bs => k = l && same a b && sameEntries as bs
  | _, _ => false

end

mutual

/-- Every mapping in the document lists its keys in strictly ascending order. -/
def SortedKeys : Json → Prop
  | .array items => SortedItems items
  | .object entries => (entries.map Prod.fst).Pairwise (· < ·) ∧ SortedEntries entries
  | _ => True

/-- The same of every item of a list. -/
def SortedItems : List Json → Prop
  | [] => True
  | v :: rest => SortedKeys v ∧ SortedItems rest

/-- The same of the value of every entry. -/
def SortedEntries : List (String × Json) → Prop
  | [] => True
  | (_, v) :: rest => SortedKeys v ∧ SortedEntries rest

end

/-- The kinds of document. -/
inductive Kind where
  | null | boolean | number | string | array | object
deriving DecidableEq

/-- The kind of a document. -/
def kind : Json → Kind
  | .null => .null
  | .bool _ => .boolean
  | .number _ => .number
  | .string _ => .string
  | .array _ => .array
  | .object _ => .object

/-- The name of a kind. -/
def Kind.name : Kind → String
  | .null => "null"
  | .boolean => "boolean"
  | .number => "number"
  | .string => "string"
  | .array => "array"
  | .object => "object"

/-- What was inserted last is found. -/
theorem find?_insert_self (key : String) (value : Json) (entries : List (String × Json)) :
    find? key (insert key value entries) = some value := by
  induction entries with
  | nil => simp [insert, find?]
  | cons e rest ih =>
    obtain ⟨k, v⟩ := e
    simp only [insert]
    split
    · simp [find?]
    · split
      · simp [find?]
      next h => simp [find?, Ne.symm h, ih]

/-- An insertion leaves every other key alone. -/
theorem find?_insert_of_ne {key other : String} (h : other ≠ key) (value : Json)
    (entries : List (String × Json)) :
    find? other (insert key value entries) = find? other entries := by
  induction entries with
  | nil => simp [insert, find?, h.symm]
  | cons e rest ih =>
    obtain ⟨k, v⟩ := e
    simp only [insert]
    split
    · simp [find?, h.symm]
    · split
      next hk => subst hk; simp [find?, h.symm]
      · simp [find?, ih]

end Json

end ClusterProbe
