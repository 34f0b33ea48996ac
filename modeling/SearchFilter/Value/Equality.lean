import SearchFilter.Value

/-!
Equality of values by what they denote: numbers of different kinds by their values, a truth value
as zero or one, mappings and sets without regard to order, named operators as their texts. Keys, and
values inside others, are also the same if they are one object, which shows where something is no
number.
-/

namespace SearchFilter.Value

/-- The number that a value counts as. -/
def asNumber? : Value → Option Number
  | bool b => some (.int (if b then 1 else 0))
  | number n => some n
  | _ => none

/-- Sameness of values without parts. -/
def atomsAlike (a b : Value) : Bool :=
  match a.asNumber?, b.asNumber? with
  | some m, some n => m.identical n || (m.equal? n).getD false
  | none, none =>
    match a.asText?, b.asText? with
    | some s, some t => s == t
    | none, none =>
      match a, b with
      | null, null => true
      | date d, date e => d == e
      | moment m, moment n => m.same n
      | bytes x, bytes y => x == y
      | _, _ => false
    | _, _ => false
  | _, _ => false

mutual

/-- Sameness of values. -/
def alike : Value → Value → Bool
  | list xs, list ys => allAlike xs ys
  | tuple xs, tuple ys => allAlike xs ys
  | set xs, set ys => xs.length == ys.length && eachIn xs ys
  | map xs, map ys => xs.length == ys.length && eachEntryIn xs ys
  | a, b => atomsAlike a b
termination_by structural a => a

def allAlike : List Value → List Value → Bool
  | [], [] => true
  | x :: xs, y :: ys => alike x y && allAlike xs ys
  | _, _ => false
termination_by structural xs => xs

def eachIn : List Value → List Value → Bool
  | [], _ => true
  | x :: xs, ys => ys.any (fun y => alike x y) && eachIn xs ys
termination_by structural xs => xs

def eachEntryIn : List (Value × Value) → List (Value × Value) → Bool
  | [], _ => true
  | x :: xs, ys => ys.any (fun y => entryAlike x y) && eachEntryIn xs ys
termination_by structural xs => xs

def entryAlike : Value × Value → Value × Value → Bool
  | (key, value), (key', value') => alike key key' && alike value value'
termination_by structural x => x

end

mutual

/-- Whether a value may be a key: nothing in it can change, and no number in it signals. -/
def isKey : Value → Bool
  | list _ | set _ | map _ => false
  | number n => !n.signals
  | tuple items => allKeys items
  | _ => true
termination_by structural v => v

def allKeys : List Value → Bool
  | [] => true
  | item :: rest => item.isKey && allKeys rest
termination_by structural items => items

end

/-- Two keys of a mapping are one. -/
def sameKey (a b : Value) : Bool :=
  alike a b

/-- Puts a value under a key; a key that is there keeps its place and its spelling. -/
def insertEntry (entries : List (Value × Value)) (key value : Value) : List (Value × Value) :=
  if entries.any (fun entry => sameKey entry.1 key) then
    entries.map fun entry => if sameKey entry.1 key then (entry.1, value) else entry
  else entries ++ [(key, value)]

/-- The entries of a mapping written one after another: the last value of a key wins. -/
def collectEntries (entries : List (Value × Value)) : List (Value × Value) :=
  entries.foldl (fun found entry => insertEntry found entry.1 entry.2) []

/-- The members of a set written one after another, without repetition. -/
def collectMembers (items : List Value) : List Value :=
  items.foldl (fun found item =>
    if found.any (sameKey item) then found else found ++ [item]) []

end SearchFilter.Value
