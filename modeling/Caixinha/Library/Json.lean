import Mathlib.Data.List.Sort
import Mathlib.Data.String.Basic

/-! JSON documents and their compact text with sorted keys, as `json.dumps` writes them
with `sort_keys=True` and no spaces, with or without escaping non-ASCII text. -/
namespace Caixinha.Library.Json

/-- A document without floating-point numbers; an object lists its fields in order. -/
inductive Value where
  | null
  | bool (b : Bool)
  | int (n : Int)
  | str (s : String)
  | arr (items : List Value)
  | obj (fields : List (String × Value))
  deriving Repr, Inhabited

def hexDigit (n : Nat) : Char := Nat.digitChar n

def escapeChar (c : Char) : List Char :=
  if c = '"' then ['\\', '"']
  else if c = '\\' then ['\\', '\\']
  else if c = '\n' then ['\\', 'n']
  else if c = '\r' then ['\\', 'r']
  else if c = '\t' then ['\\', 't']
  else if c = '\x0c' then ['\\', 'f']
  else if c = '\x08' then ['\\', 'b']
  else if c.toNat < 32 then ['\\', 'u', '0', '0', hexDigit (c.toNat / 16), hexDigit (c.toNat % 16)]
  else [c]

def codeEscape (code : Nat) : List Char :=
  ['\\', 'u', hexDigit (code / 4096), hexDigit (code / 256 % 16), hexDigit (code / 16 % 16),
    hexDigit (code % 16)]

/-- With `ensure_ascii`, everything outside the printable ASCII range goes by its code,
beyond the basic plane by a surrogate pair. -/
def escapeAscii (c : Char) : List Char :=
  if c.toNat < 127 then escapeChar c
  else if c.toNat < 0x10000 then codeEscape c.toNat
  else
    codeEscape (0xD800 + (c.toNat - 0x10000) / 1024) ++
      codeEscape (0xDC00 + (c.toNat - 0x10000) % 1024)

section Writer
variable (escape : Char → List Char)

/-- The characters behind the opening quote, the closing one included. -/
def quotedTail (s : String) : List Char := s.toList.flatMap escape ++ ['"']

def quoted (s : String) : List Char := '"' :: quotedTail escape s

def intText (n : Int) : List Char :=
  if n < 0 then '-' :: Nat.toDigits 10 n.natAbs else Nat.toDigits 10 n.natAbs

mutual
def write : Value → List Char
  | .null => ['n', 'u', 'l', 'l']
  | .bool true => ['t', 'r', 'u', 'e']
  | .bool false => ['f', 'a', 'l', 's', 'e']
  | .int n => intText n
  | .str s => quoted escape s
  | .arr items => '[' :: writeItems items ++ [']']
  | .obj fields => '{' :: writeFields fields ++ ['}']

def writeItems : List Value → List Char
  | [] => []
  | v :: vs => match vs with
    | [] => write v
    | _ :: _ => write v ++ ',' :: writeItems vs

def writeFields : List (String × Value) → List Char
  | [] => []
  | (k, v) :: rest => match rest with
    | [] => quoted escape k ++ ':' :: write v
    | _ :: _ => quoted escape k ++ ':' :: write v ++ ',' :: writeFields rest
end

end Writer

/-- `null` for a missing value. -/
def nullable {α : Type} (f : α → Value) (a : Option α) : Value := a.elim .null f

/-- Fields in the order of their keys, as `sorted` compares text. -/
def sortFields (fields : List (String × Value)) : List (String × Value) :=
  fields.insertionSort (fun a b => a.1 ≤ b.1)

mutual
def sortKeys : Value → Value
  | .arr items => .arr (sortItems items)
  | .obj fields => .obj (sortFields (sortFieldValues fields))
  | v => v

def sortItems : List Value → List Value
  | [] => []
  | v :: vs => sortKeys v :: sortItems vs

def sortFieldValues : List (String × Value) → List (String × Value)
  | [] => []
  | (k, v) :: rest => (k, sortKeys v) :: sortFieldValues rest
end

def dumps (v : Value) : String := String.ofList (write escapeChar (sortKeys v))

def dumpsAscii (v : Value) : String := String.ofList (write escapeAscii (sortKeys v))

mutual
/-- Every object of the document is a dictionary: no key occurs twice. -/
def Distinct : Value → Prop
  | .arr items => DistinctItems items
  | .obj fields => (fields.map Prod.fst).Nodup ∧ DistinctFields fields
  | _ => True

def DistinctItems : List Value → Prop
  | [] => True
  | v :: vs => Distinct v ∧ DistinctItems vs

def DistinctFields : List (String × Value) → Prop
  | [] => True
  | (_, v) :: rest => Distinct v ∧ DistinctFields rest
end

mutual
/-- Every object lists its keys in increasing order. -/
def Sorted : Value → Prop
  | .arr items => SortedItems items
  | .obj fields => fields.Pairwise (fun a b => a.1 ≤ b.1) ∧ SortedFields fields
  | _ => True

def SortedItems : List Value → Prop
  | [] => True
  | v :: vs => Sorted v ∧ SortedItems vs

def SortedFields : List (String × Value) → Prop
  | [] => True
  | (_, v) :: rest => Sorted v ∧ SortedFields rest
end

theorem distinctFields_iff (fields : List (String × Value)) :
    DistinctFields fields ↔ ∀ f ∈ fields, Distinct f.2 := by
  induction fields with
  | nil => simp [DistinctFields]
  | cons f rest ih => simp [DistinctFields, ih]

theorem sortedFields_iff (fields : List (String × Value)) :
    SortedFields fields ↔ ∀ f ∈ fields, Sorted f.2 := by
  induction fields with
  | nil => simp [SortedFields]
  | cons f rest ih => simp [SortedFields, ih]

theorem distinctItems_iff (items : List Value) :
    DistinctItems items ↔ ∀ v ∈ items, Distinct v := by
  induction items with
  | nil => simp [DistinctItems]
  | cons v vs ih => simp [DistinctItems, ih]

theorem sortFieldValues_eq_map (fields : List (String × Value)) :
    sortFieldValues fields = fields.map (fun f => (f.1, sortKeys f.2)) := by
  induction fields with
  | nil => rfl
  | cons f rest ih => rw [sortFieldValues, ih, List.map_cons]

theorem sortFields_perm (fields : List (String × Value)) : (sortFields fields).Perm fields :=
  List.perm_insertionSort _ _

theorem sortFields_pairwise (fields : List (String × Value)) :
    (sortFields fields).Pairwise (fun a b => a.1 ≤ b.1) := by
  have : Std.Total (fun a b : String × Value => a.1 ≤ b.1) := ⟨fun a b => le_total a.1 b.1⟩
  have : IsTrans (String × Value) (fun a b => a.1 ≤ b.1) := ⟨fun _ _ _ => le_trans⟩
  exact List.pairwise_insertionSort _ fields

theorem sortFields_of_pairwise {fields : List (String × Value)}
    (h : fields.Pairwise (fun a b => a.1 ≤ b.1)) : sortFields fields = fields :=
  h.insertionSort_eq

mutual
theorem sorted_sortKeys : (v : Value) → Sorted (sortKeys v)
  | .null | .bool _ | .int _ | .str _ => by simp [sortKeys, Sorted]
  | .arr items => by
    rw [sortKeys, Sorted]
    exact sortedItems_sortItems items
  | .obj fields => by
    rw [sortKeys, Sorted]
    refine ⟨sortFields_pairwise _, (sortedFields_iff _).mpr fun f hf => ?_⟩
    exact (sortedFields_iff _).mp (sortedFields_sortFieldValues fields) f
      ((sortFields_perm _).mem_iff.mp hf)

theorem sortedItems_sortItems : (items : List Value) → SortedItems (sortItems items)
  | [] => by simp [sortItems, SortedItems]
  | v :: vs => by
    rw [sortItems, SortedItems]
    exact ⟨sorted_sortKeys v, sortedItems_sortItems vs⟩

theorem sortedFields_sortFieldValues : (fields : List (String × Value)) →
    SortedFields (sortFieldValues fields)
  | [] => by simp [sortFieldValues, SortedFields]
  | (k, v) :: rest => by
    rw [sortFieldValues, SortedFields]
    exact ⟨sorted_sortKeys v, sortedFields_sortFieldValues rest⟩
end

mutual
theorem sortKeys_of_sorted : (v : Value) → Sorted v → sortKeys v = v
  | .null, _ | .bool _, _ | .int _, _ | .str _, _ => by simp [sortKeys]
  | .arr items, h => by
    rw [sortKeys, sortItems_of_sorted items h]
  | .obj fields, h => by
    rw [sortKeys, sortFieldValues_of_sorted fields h.2, sortFields_of_pairwise h.1]

theorem sortItems_of_sorted : (items : List Value) → SortedItems items → sortItems items = items
  | [], _ => rfl
  | v :: vs, h => by
    rw [sortItems, sortKeys_of_sorted v h.1, sortItems_of_sorted vs h.2]

theorem sortFieldValues_of_sorted : (fields : List (String × Value)) → SortedFields fields →
    sortFieldValues fields = fields
  | [], _ => rfl
  | (k, v) :: rest, h => by
    rw [sortFieldValues, sortKeys_of_sorted v h.1, sortFieldValues_of_sorted rest h.2]
end

@[simp] theorem sortKeys_sortKeys (v : Value) : sortKeys (sortKeys v) = sortKeys v :=
  sortKeys_of_sorted _ (sorted_sortKeys v)

/-- Writing a document that was read back in key order gives the same text. -/
@[simp] theorem dumps_sortKeys (v : Value) : dumps (sortKeys v) = dumps v := by
  rw [dumps, dumps, sortKeys_sortKeys]

private theorem keys_sortFieldValues (fields : List (String × Value)) :
    (sortFieldValues fields).map Prod.fst = fields.map Prod.fst := by
  rw [sortFieldValues_eq_map, List.map_map]
  rfl

mutual
theorem distinct_sortKeys : (v : Value) → Distinct v → Distinct (sortKeys v)
  | .null, _ | .bool _, _ | .int _, _ | .str _, _ => by simp [sortKeys, Distinct]
  | .arr items, h => by
    rw [sortKeys, Distinct]
    exact distinctItems_sortItems items h
  | .obj fields, h => by
    rw [sortKeys, Distinct]
    have hperm := sortFields_perm (sortFieldValues fields)
    refine ⟨?_, (distinctFields_iff _).mpr fun f hf => ?_⟩
    · rw [(hperm.map Prod.fst).nodup_iff, keys_sortFieldValues]
      exact h.1
    · exact (distinctFields_iff _).mp (distinctFields_sortFieldValues fields h.2) f
        (hperm.mem_iff.mp hf)

theorem distinctItems_sortItems : (items : List Value) → DistinctItems items →
    DistinctItems (sortItems items)
  | [], _ => by simp [sortItems, DistinctItems]
  | v :: vs, h => by
    rw [sortItems, DistinctItems]
    exact ⟨distinct_sortKeys v h.1, distinctItems_sortItems vs h.2⟩

theorem distinctFields_sortFieldValues : (fields : List (String × Value)) →
    DistinctFields fields → DistinctFields (sortFieldValues fields)
  | [], _ => by simp [sortFieldValues, DistinctFields]
  | (k, v) :: rest, h => by
    rw [sortFieldValues, DistinctFields]
    exact ⟨distinct_sortKeys v h.1, distinctFields_sortFieldValues rest h.2⟩
end

/-- The value stored under a key, as `dict.get` returns it. -/
def get? (v : Value) (key : String) : Option Value :=
  match v with
  | .obj fields => (fields.find? (fun f => f.1 = key)).map Prod.snd
  | _ => none

private theorem find?_eq_of_perm {key : String} {fs gs : List (String × Value)}
    (hperm : fs.Perm gs) (hnodup : (fs.map Prod.fst).Nodup) :
    fs.find? (fun f => f.1 = key) = gs.find? (fun f => f.1 = key) := by
  induction hperm with
  | nil => rfl
  | cons f _ ih =>
    rw [List.find?_cons, List.find?_cons, ih (List.nodup_cons.mp hnodup).2]
  | swap f g rest =>
    have hne : g.1 ≠ f.1 := by
      intro he
      simp [he] at hnodup
    rw [List.find?_cons, List.find?_cons, List.find?_cons, List.find?_cons]
    by_cases hf : f.1 = key <;> by_cases hg : g.1 = key <;> simp_all
  | trans hab _ ih₁ ih₂ =>
    rw [ih₁ hnodup, ih₂ ((hab.map Prod.fst).nodup_iff.mp hnodup)]

def asText? : Value → Option String
  | .str s => some s
  | _ => none

/-- Looking a key up does not depend on the order in which a dictionary lists its keys. -/
theorem get?_sortKeys_obj {fields : List (String × Value)} (h : (fields.map Prod.fst).Nodup)
    (key : String) : get? (sortKeys (.obj fields)) key = (get? (.obj fields) key).map sortKeys := by
  have hnodup : ((sortFields (sortFieldValues fields)).map Prod.fst).Nodup := by
    rw [((sortFields_perm _).map Prod.fst).nodup_iff, keys_sortFieldValues]
    exact h
  rw [sortKeys, get?, get?, find?_eq_of_perm (sortFields_perm _) hnodup,
    sortFieldValues_eq_map, List.find?_map]
  simp only [Option.map_map]
  rfl

theorem get?_sortKeys (v : Value) (key : String) (h : Distinct v) :
    get? (sortKeys v) key = (get? v key).map sortKeys := by
  cases v with
  | obj fields => exact get?_sortKeys_obj h.1 key
  | _ => rfl

end Caixinha.Library.Json
