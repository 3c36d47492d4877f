import Caixinha.Library.Json

/-! Reading a JSON document back, and the round trip with the canonical writer.
Floating-point literals and lone surrogates are refused: no document here holds them. -/
namespace Caixinha.Library.Json

def isSpace (c : Char) : Bool := c == ' ' || c == '\t' || c == '\n' || c == '\r'

def skipSpace (cs : List Char) : List Char := cs.dropWhile isSpace

def hexValue (c : Char) : Option Nat :=
  if '0' ≤ c ∧ c ≤ '9' then some (c.toNat - 48)
  else if 'a' ≤ c ∧ c ≤ 'f' then some (c.toNat - 87)
  else if 'A' ≤ c ∧ c ≤ 'F' then some (c.toNat - 55)
  else none

def hex4 (a b c d : Char) : Option Nat := do
  let a ← hexValue a
  let b ← hexValue b
  let c ← hexValue c
  let d ← hexValue d
  return ((a * 16 + b) * 16 + c) * 16 + d

def simpleEscape (c : Char) : Option Char :=
  if c = '"' then some '"'
  else if c = '\\' then some '\\'
  else if c = '/' then some '/'
  else if c = 'n' then some '\n'
  else if c = 'r' then some '\r'
  else if c = 't' then some '\t'
  else if c = 'f' then some '\x0c'
  else if c = 'b' then some '\x08'
  else none

/-- The character named by four hexadecimal digits; a high surrogate needs its low one. -/
def unicodeEscape (code : Nat) (rest : List Char) : Option (Char × List Char) :=
  if 0xD800 ≤ code ∧ code ≤ 0xDBFF then
    match rest with
    | '\\' :: 'u' :: a :: b :: c :: d :: tail =>
      match hex4 a b c d with
      | some low =>
        if 0xDC00 ≤ low ∧ low ≤ 0xDFFF then
          some (Char.ofNat (0x10000 + (code - 0xD800) * 1024 + (low - 0xDC00)), tail)
        else none
      | none => none
    | _ => none
  else if 0xDC00 ≤ code ∧ code ≤ 0xDFFF then none
  else some (Char.ofNat code, rest)

/-- The character written after a backslash. -/
def unescape : List Char → Option (Char × List Char)
  | [] => none
  | e :: rest =>
    if e = 'u' then
      match rest with
      | a :: b :: c :: d :: tail => (hex4 a b c d).bind fun code => unicodeEscape code tail
      | _ => none
    else (simpleEscape e).map fun c => (c, rest)

/-- The text up to the closing quote, with its escapes resolved. -/
def parseChars : Nat → List Char → Option (List Char × List Char)
  | 0, _ => none
  | _ + 1, [] => none
  | fuel + 1, c :: rest =>
    if c = '"' then some ([], rest)
    else if c = '\\' then
      match unescape rest with
      | none => none
      | some (e, tail) => (parseChars fuel tail).map fun p => (e :: p.1, p.2)
    else if c.toNat < 32 then none
    else (parseChars fuel rest).map fun p => (c :: p.1, p.2)

def parseString (cs : List Char) : Option (String × List Char) :=
  (parseChars cs.length cs).map fun p => (String.ofList p.1, p.2)

def parseNat (cs : List Char) : Option (Nat × List Char) :=
  match cs.takeWhile Char.isDigit, cs.dropWhile Char.isDigit with
  | [], _ => none
  | '0' :: _ :: _, _ => none
  | _, '.' :: _ => none
  | _, 'e' :: _ => none
  | _, 'E' :: _ => none
  | digits, rest => some (Nat.ofDigitChars 10 digits 0, rest)

def parseInt (cs : List Char) : Option (Int × List Char) :=
  match cs with
  | '-' :: rest => (parseNat rest).map fun p => (-(p.1 : Int), p.2)
  | _ => (parseNat cs).map fun p => ((p.1 : Int), p.2)

def keyword (word : List Char) (v : Value) (cs : List Char) : Option (Value × List Char) :=
  if word <+: cs then some (v, cs.drop word.length) else none

mutual
def parseValue : Nat → List Char → Option (Value × List Char)
  | 0, _ => none
  | _ + 1, [] => none
  | fuel + 1, c :: rest =>
    if c = '"' then (parseString rest).map fun p => (.str p.1, p.2)
    else if c = '[' then
      match skipSpace rest with
      | ']' :: tail => some (.arr [], tail)
      | items => (parseItems fuel items).map fun p => (.arr p.1, p.2)
    else if c = '{' then
      match skipSpace rest with
      | '}' :: tail => some (.obj [], tail)
      | fields => (parseFields fuel fields).map fun p => (.obj p.1, p.2)
    else if c = 'n' then keyword ['n', 'u', 'l', 'l'] .null (c :: rest)
    else if c = 't' then keyword ['t', 'r', 'u', 'e'] (.bool true) (c :: rest)
    else if c = 'f' then keyword ['f', 'a', 'l', 's', 'e'] (.bool false) (c :: rest)
    else (parseInt (c :: rest)).map fun p => (.int p.1, p.2)

def parseItems : Nat → List Char → Option (List Value × List Char)
  | 0, _ => none
  | fuel + 1, cs =>
    match parseValue fuel cs with
    | none => none
    | some (v, rest) =>
      match skipSpace rest with
      | ']' :: tail => some ([v], tail)
      | ',' :: tail => (parseItems fuel (skipSpace tail)).map fun p => (v :: p.1, p.2)
      | _ => none

def parseFields : Nat → List Char → Option (List (String × Value) × List Char)
  | 0, _ => none
  | _ + 1, [] => none
  | fuel + 1, c :: text =>
    if c = '"' then
      match parseString text with
      | none => none
      | some (key, rest) =>
        match skipSpace rest with
        | ':' :: tail =>
          match parseValue fuel (skipSpace tail) with
          | none => none
          | some (v, rest') =>
            match skipSpace rest' with
            | '}' :: tail' => some ([(key, v)], tail')
            | ',' :: tail' =>
              (parseFields fuel (skipSpace tail')).map fun p => ((key, v) :: p.1, p.2)
            | _ => none
        | _ => none
    else none
end

/-- The fields of an object as the text lists them, duplicates included. -/
def parsePairs (text : String) : Option Value :=
  match parseValue (text.length + 1) (skipSpace text.toList) with
  | some (v, rest) => if (skipSpace rest).isEmpty then some v else none
  | none => none

/-- Setting a key keeps its first place in the dictionary. -/
def setField (fields : List (String × Value)) (key : String) (v : Value) :
    List (String × Value) :=
  if fields.any (fun f => f.1 = key) then
    fields.map (fun f => if f.1 = key then (key, v) else f)
  else fields ++ [(key, v)]

mutual
/-- The last value given for a key wins, as when a dictionary is built from pairs. -/
def collapse : Value → Value
  | .arr items => .arr (collapseItems items)
  | .obj fields => .obj (collapseFields [] fields)
  | v => v

def collapseItems : List Value → List Value
  | [] => []
  | v :: vs => collapse v :: collapseItems vs

def collapseFields : List (String × Value) → List (String × Value) → List (String × Value)
  | acc, [] => acc
  | acc, (k, v) :: rest => collapseFields (setField acc k (collapse v)) rest
end

def loads (text : String) : Option Value := (parsePairs text).map collapse

private theorem toDigits_ten_isDigit (n : Nat) : ∀ c ∈ Nat.toDigits 10 n, c.isDigit = true :=
  fun _ hc => Nat.isDigit_of_mem_toDigits (by decide) (by decide) hc

private theorem toDigits_ten_head (n : Nat) (hn : 0 < n) :
    ∃ d ds, Nat.toDigits 10 n = d :: ds ∧ d ≠ '0' := by
  induction n using Nat.strong_induction_on with
  | _ n ih =>
    by_cases h : n < 10
    · have hchar : ∀ m < 10, 0 < m → Nat.digitChar m ≠ '0' := by decide
      exact ⟨_, _, Nat.toDigits_of_lt_base h, hchar n h hn⟩
    · obtain ⟨d, ds, he, hd⟩ := ih (n / 10) (by omega) (by omega)
      exact ⟨d, ds ++ Nat.toDigits 10 (n % 10), by
        rw [Nat.toDigits_of_base_le (by decide) (by omega), he]
        simp [Nat.toDigits_of_lt_base (Nat.mod_lt n (by decide : 10 > 0))], hd⟩

/-- What may follow a value in a document: never a digit, a point or an exponent. -/
def Follows (rest : List Char) : Prop :=
  ∀ c ∈ rest.head?, c.isDigit = false ∧ c ≠ '.' ∧ c ≠ 'e' ∧ c ≠ 'E'

private theorem takeWhile_digits {ds rest : List Char} (hds : ∀ c ∈ ds, c.isDigit = true)
    (hrest : Follows rest) :
    (ds ++ rest).takeWhile Char.isDigit = ds ∧ (ds ++ rest).dropWhile Char.isDigit = rest := by
  rw [List.takeWhile_append_of_pos hds, List.dropWhile_append_of_pos hds]
  cases rest with
  | nil => simp
  | cons c rest =>
    have hc := (hrest c (by simp)).1
    constructor <;> simp [hc]

theorem parseNat_toDigits (n : Nat) {rest : List Char} (hrest : Follows rest) :
    parseNat (Nat.toDigits 10 n ++ rest) = some (n, rest) := by
  obtain ⟨htake, hdrop⟩ := takeWhile_digits (toDigits_ten_isDigit n) hrest
  have hvalue : Nat.ofDigitChars 10 (Nat.toDigits 10 n) 0 = n :=
    Nat.ofDigitChars_toDigits (by decide) (by decide)
  rw [parseNat, htake, hdrop]
  have hend : ∀ c tail, rest = c :: tail → c ≠ '.' ∧ c ≠ 'e' ∧ c ≠ 'E' := by
    intro c tail he
    exact (hrest c (by simp [he])).2
  rcases Nat.eq_zero_or_pos n with rfl | hn
  · rw [Nat.toDigits_zero] at hvalue ⊢
    split <;> simp_all
  · obtain ⟨d, ds, he, hd⟩ := toDigits_ten_head n hn
    rw [he] at hvalue ⊢
    split <;> simp_all

private theorem digit_head_ne {d : Char} (h : d.isDigit = true) :
    d ≠ '-' ∧ d ≠ 'n' ∧ d ≠ 't' ∧ d ≠ 'f' ∧ d ≠ '"' ∧ d ≠ '[' ∧ d ≠ '{' := by
  refine ⟨?_, ?_, ?_, ?_, ?_, ?_, ?_⟩ <;> rintro rfl <;> exact absurd h (by decide)

private theorem toDigits_cons (n : Nat) :
    ∃ d ds, Nat.toDigits 10 n = d :: ds ∧ d.isDigit = true := by
  cases he : Nat.toDigits 10 n with
  | nil => exact absurd he Nat.toDigits_ne_nil
  | cons d ds => exact ⟨d, ds, rfl, toDigits_ten_isDigit n d (by simp [he])⟩

theorem parseInt_intText (n : Int) {rest : List Char} (hrest : Follows rest) :
    parseInt (intText n ++ rest) = some (n, rest) := by
  unfold intText
  split
  · rename_i hneg
    rw [List.cons_append, parseInt, parseNat_toDigits _ hrest]
    simp only [Option.map_some, Option.some.injEq, Prod.mk.injEq, and_true]
    omega
  · rename_i hpos
    obtain ⟨d, ds, he, hd⟩ := toDigits_cons n.natAbs
    have hparse := parseNat_toDigits n.natAbs hrest
    rw [he, List.cons_append] at hparse ⊢
    have hne := (digit_head_ne hd).1
    unfold parseInt
    split
    · simp_all
    · rw [hparse]
      simp only [Option.map_some, Option.some.injEq, Prod.mk.injEq, and_true]
      omega

private theorem hexValue_hexDigit : ∀ n < 16, hexValue (hexDigit n) = some n := by decide

private theorem hex4_digits {a b c d : Nat} (ha : a < 16) (hb : b < 16) (hc : c < 16)
    (hd : d < 16) :
    hex4 (hexDigit a) (hexDigit b) (hexDigit c) (hexDigit d) =
      some (((a * 16 + b) * 16 + c) * 16 + d) := by
  simp [hex4, hexValue_hexDigit _ ha, hexValue_hexDigit _ hb, hexValue_hexDigit _ hc,
    hexValue_hexDigit _ hd]

private theorem hex4_code {code : Nat} (h : code < 0x10000) :
    hex4 (hexDigit (code / 4096)) (hexDigit (code / 256 % 16)) (hexDigit (code / 16 % 16))
      (hexDigit (code % 16)) = some code := by
  rw [hex4_digits (by omega) (by omega) (by omega) (by omega)]
  congr 1
  omega

/-- An escaping a reader undoes: each character comes back and costs at least one. -/
structure Readable (escape : Char → List Char) : Prop where
  length_pos : ∀ c, 1 ≤ (escape c).length
  read : ∀ fuel c rest, parseChars (fuel + 1) (escape c ++ rest) =
    (parseChars fuel rest).map fun p => (c :: p.1, p.2)

private theorem parseChars_escapeChar (fuel : Nat) (c : Char) (rest : List Char) :
    parseChars (fuel + 1) (escapeChar c ++ rest) =
      (parseChars fuel rest).map fun p => (c :: p.1, p.2) := by
  unfold escapeChar
  split_ifs with h₁ h₂ h₃ h₄ h₅ h₆ h₇ h₈
  · subst h₁; simp [parseChars, unescape, simpleEscape]
  · subst h₂; simp [parseChars, unescape, simpleEscape]
  · subst h₃; simp [parseChars, unescape, simpleEscape]
  · subst h₄; simp [parseChars, unescape, simpleEscape]
  · subst h₅; simp [parseChars, unescape, simpleEscape]
  · subst h₆; simp [parseChars, unescape, simpleEscape]
  · subst h₇; simp [parseChars, unescape, simpleEscape]
  · -- the remaining control characters are written by their code
    have hhex : hex4 '0' '0' (hexDigit (c.toNat / 16)) (hexDigit (c.toNat % 16)) =
        some c.toNat := by
      have h := hex4_digits (a := 0) (b := 0) (c := c.toNat / 16) (d := c.toNat % 16)
        (by omega) (by omega) (by omega) (by omega)
      rw [show hexDigit 0 = '0' by decide] at h
      rw [h]
      congr 1
      omega
    have hcode : unicodeEscape c.toNat rest = some (c, rest) := by
      unfold unicodeEscape
      rw [if_neg (by omega), if_neg (by omega), Char.ofNat_toNat]
    simp [parseChars, unescape, hhex, hcode]
  · simp [parseChars, h₁, h₂, h₈]

theorem readable_escapeChar : Readable escapeChar where
  length_pos c := by
    unfold escapeChar
    split_ifs <;> simp
  read := parseChars_escapeChar

private theorem char_code (c : Char) :
    c.toNat < 0xD800 ∨ (0xDFFF < c.toNat ∧ c.toNat < 0x110000) := c.valid

private theorem unescape_code {code : Nat} (h : code < 0x10000) (rest : List Char) :
    unescape ((codeEscape code).tail ++ rest) = unicodeEscape code rest := by
  simp [codeEscape, unescape, hex4_code h]

private theorem parseChars_code (fuel : Nat) {code : Nat} (h : code < 0x10000) {c : Char}
    {rest tail : List Char} (hcode : unicodeEscape code rest = some (c, tail)) :
    parseChars (fuel + 1) (codeEscape code ++ rest) =
      (parseChars fuel tail).map fun p => (c :: p.1, p.2) := by
  have hread := unescape_code h rest
  rw [hcode] at hread
  change parseChars (fuel + 1) ('\\' :: ((codeEscape code).tail ++ rest)) = _
  simp [parseChars, hread]

private theorem unicodeEscape_plain {c : Char} (h : c.toNat < 0x10000) (rest : List Char) :
    unicodeEscape c.toNat rest = some (c, rest) := by
  have hvalid := char_code c
  unfold unicodeEscape
  rw [if_neg (by omega), if_neg (by omega), Char.ofNat_toNat]

private theorem unicodeEscape_pair {high low : Nat} (hhigh : 0xD800 ≤ high ∧ high ≤ 0xDBFF)
    (hlow : 0xDC00 ≤ low ∧ low ≤ 0xDFFF) (rest : List Char) :
    unicodeEscape high (codeEscape low ++ rest) =
      some (Char.ofNat (0x10000 + (high - 0xD800) * 1024 + (low - 0xDC00)), rest) := by
  unfold unicodeEscape
  simp only [if_pos hhigh, codeEscape, List.cons_append, List.nil_append,
    hex4_code (show low < 0x10000 by omega), if_pos hlow]

theorem readable_escapeAscii : Readable escapeAscii where
  length_pos c := by
    unfold escapeAscii codeEscape
    split_ifs
    · exact readable_escapeChar.length_pos c
    · simp
    · simp
  read fuel c rest := by
    unfold escapeAscii
    have hvalid := char_code c
    split_ifs with h₁ h₂
    · exact parseChars_escapeChar fuel c rest
    · exact parseChars_code fuel h₂ (unicodeEscape_plain h₂ rest)
    · -- a surrogate pair: the high half announces the low one
      have hpair := @unicodeEscape_pair (0xD800 + (c.toNat - 0x10000) / 1024)
        (0xDC00 + (c.toNat - 0x10000) % 1024) (by omega) (by omega) rest
      have hjoin : 0x10000 + (0xD800 + (c.toNat - 0x10000) / 1024 - 0xD800) * 1024 +
          (0xDC00 + (c.toNat - 0x10000) % 1024 - 0xDC00) = c.toNat := by omega
      rw [hjoin, Char.ofNat_toNat] at hpair
      rw [List.append_assoc]
      exact parseChars_code fuel (by omega) hpair

private theorem follows_cons {c : Char} {rest : List Char}
    (h : c.isDigit = false ∧ c ≠ '.' ∧ c ≠ 'e' ∧ c ≠ 'E') : Follows (c :: rest) := by
  intro d hd
  obtain rfl : c = d := by simpa using hd
  exact h

private theorem skipSpace_cons {c : Char} {rest : List Char} (h : isSpace c = false) :
    skipSpace (c :: rest) = c :: rest := by
  simp [skipSpace, h]

/-- Characters that can start a written value; none of them is a space or closes a list. -/
def Starts (c : Char) : Prop := isSpace c = false ∧ c ≠ ']' ∧ c ≠ '}'

instance (c : Char) : Decidable (Starts c) := inferInstanceAs (Decidable (_ ∧ _))

private theorem isDigit_starts {c : Char} (h : c.isDigit = true) : Starts c := by
  refine ⟨?_, ?_, ?_⟩
  · simp only [isSpace, Bool.or_eq_false_iff, beq_eq_false_iff_ne]
    refine ⟨⟨⟨?_, ?_⟩, ?_⟩, ?_⟩ <;> rintro rfl <;> exact absurd h (by decide)
  · rintro rfl
    exact absurd h (by decide)
  · rintro rfl
    exact absurd h (by decide)

theorem write_head (escape : Char → List Char) (v : Value) :
    ∃ c rest, write escape v = c :: rest ∧ Starts c := by
  cases v with
  | null => exact ⟨_, _, rfl, by decide⟩
  | bool b => cases b <;> exact ⟨_, _, rfl, by decide⟩
  | int n =>
    obtain ⟨d, ds, he, hd⟩ := toDigits_cons n.natAbs
    simp only [write, intText]
    split
    · exact ⟨_, _, rfl, by decide⟩
    · exact ⟨d, ds, he, isDigit_starts hd⟩
  | str s => exact ⟨_, _, by rw [write, quoted], by decide⟩
  | arr items => exact ⟨_, _, by rw [write]; rfl, by decide⟩
  | obj fields => exact ⟨_, _, by rw [write]; rfl, by decide⟩

section RoundTrip
variable {escape : Char → List Char} (hread : Readable escape)
include hread
-- The linter does not see a use through the other theorems of a mutual block.
set_option linter.unusedSectionVars false

theorem parseChars_flatMap (cs rest : List Char) (fuel : Nat) (h : cs.length < fuel) :
    parseChars fuel (cs.flatMap escape ++ '"' :: rest) = some (cs, rest) := by
  induction cs generalizing fuel with
  | nil =>
    obtain ⟨fuel, rfl⟩ : ∃ n, fuel = n + 1 := ⟨fuel - 1, by simp at h; omega⟩
    simp [parseChars]
  | cons c cs ih =>
    obtain ⟨fuel, rfl⟩ : ∃ n, fuel = n + 1 := ⟨fuel - 1, by simp at h; omega⟩
    rw [List.flatMap_cons, List.append_assoc, hread.read, ih fuel (by simpa using h)]
    rfl

private theorem length_le_flatMap (cs : List Char) :
    cs.length ≤ (cs.flatMap escape).length := by
  induction cs with
  | nil => simp
  | cons c cs ih =>
    have := hread.length_pos c
    rw [List.flatMap_cons, List.length_append, List.length_cons]
    omega

theorem parseString_quotedTail (s : String) (rest : List Char) :
    parseString (quotedTail escape s ++ rest) = some (s, rest) := by
  have hlen := length_le_flatMap hread s.toList
  rw [parseString, quotedTail, List.append_assoc, List.singleton_append, parseChars_flatMap hread]
  · simp
  · rw [List.length_append, List.length_cons]
    omega

mutual
/-- Reading a written value gives it back and stops right behind it. -/
theorem parseValue_write : (v : Value) → (fuel : Nat) → (rest : List Char) →
    (write escape v).length < fuel → Follows rest → parseValue fuel (write escape v ++ rest) = some (v, rest)
  | _, 0, _, h, _ => absurd h (Nat.not_lt_zero _)
  | .null, fuel + 1, rest, _, _ => by simp [write, parseValue, keyword]
  | .bool true, fuel + 1, rest, _, _ => by simp [write, parseValue, keyword]
  | .bool false, fuel + 1, rest, _, _ => by simp [write, parseValue, keyword]
  | .int n, fuel + 1, rest, _, hrest => by
    have hparse := parseInt_intText n hrest
    rw [write]
    have hhead : ∃ c cs, intText n = c :: cs ∧ c ≠ '"' ∧ c ≠ '[' ∧ c ≠ '{' ∧ c ≠ 'n' ∧ c ≠ 't' ∧
        c ≠ 'f' := by
      obtain ⟨d, ds, he, hd⟩ := toDigits_cons n.natAbs
      obtain ⟨-, h₁, h₂, h₃, h₄, h₅, h₆⟩ := digit_head_ne hd
      unfold intText
      split
      · exact ⟨_, _, rfl, by decide⟩
      · exact ⟨d, ds, he, h₄, h₅, h₆, h₁, h₂, h₃⟩
    obtain ⟨c, cs, he, h₁, h₂, h₃, h₄, h₅, h₆⟩ := hhead
    rw [he, List.cons_append] at hparse ⊢
    simp [parseValue, h₁, h₂, h₃, h₄, h₅, h₆, hparse]
  | .str s, fuel + 1, rest, _, _ => by
    have hparse := parseString_quotedTail hread s rest
    rw [write, quoted, List.cons_append]
    simp [parseValue, hparse]
  | .arr [], fuel + 1, rest, _, _ => by simp [write, writeItems, parseValue, skipSpace, isSpace]
  | .arr (v :: vs), fuel + 1, rest, h, hrest => by
    rw [write, List.length_append, List.length_cons, List.length_singleton] at h
    have hparse := parseItems_write v vs fuel rest (by omega)
    obtain ⟨c, cs, he, hspace, hclose, -⟩ := write_head escape v
    have hhead : ∃ tail, writeItems escape (v :: vs) = c :: tail := by
      cases vs <;> simp [writeItems, he]
    obtain ⟨tail, htail⟩ := hhead
    rw [htail] at hparse
    simp only [write, List.cons_append, List.append_assoc, List.nil_append, parseValue,
      Char.reduceEq, ↓reduceIte, htail, skipSpace_cons hspace] at hparse ⊢
    split
    · simp_all
    · rw [hparse]
      rfl
  | .obj [], fuel + 1, rest, _, _ => by simp [write, writeFields, parseValue, skipSpace, isSpace]
  | .obj (f :: fs), fuel + 1, rest, h, hrest => by
    rw [write, List.length_append, List.length_cons, List.length_singleton] at h
    have hparse := parseFields_write f fs fuel rest (by omega)
    have hhead : ∃ tail, writeFields escape (f :: fs) = '"' :: tail := by
      obtain ⟨k, v⟩ := f
      cases fs <;> simp [writeFields, quoted]
    obtain ⟨tail, htail⟩ := hhead
    rw [htail] at hparse
    simp only [write, List.cons_append, List.append_assoc, List.nil_append, parseValue,
      Char.reduceEq, ↓reduceIte, htail, skipSpace_cons (show isSpace '"' = false by decide)] at hparse ⊢
    split
    · simp_all
    · rw [hparse]
      rfl

theorem parseItems_write : (v : Value) → (vs : List Value) → (fuel : Nat) → (rest : List Char) →
    (writeItems escape (v :: vs)).length + 1 < fuel →
    parseItems fuel (writeItems escape (v :: vs) ++ ']' :: rest) = some (v :: vs, rest)
  | _, _, 0, _, h => absurd h (by omega)
  | v, [], fuel + 1, rest, h => by
    rw [writeItems] at h ⊢
    rw [parseItems, parseValue_write v fuel _ (by simpa using h) (follows_cons (by decide))]
    simp [skipSpace, isSpace]
  | v, w :: ws, fuel + 1, rest, h => by
    obtain ⟨c, cs, he, hspace, -, -⟩ := write_head escape w
    have hhead : ∃ tail, writeItems escape (w :: ws) = c :: tail := by
      cases ws <;> simp [writeItems, he]
    obtain ⟨tail, htail⟩ := hhead
    rw [writeItems, List.length_append, List.length_cons] at h
    have hparse := parseItems_write w ws fuel rest (by omega)
    rw [writeItems, List.append_assoc, List.cons_append, parseItems,
      parseValue_write v fuel _ (by omega) (follows_cons (by decide))]
    rw [htail] at hparse ⊢
    simp only [List.cons_append, skipSpace_cons (show isSpace ',' = false by decide),
      skipSpace_cons hspace] at hparse ⊢
    rw [hparse]
    rfl

theorem parseFields_write : (f : String × Value) → (fs : List (String × Value)) → (fuel : Nat) →
    (rest : List Char) → (writeFields escape (f :: fs)).length + 1 < fuel →
    parseFields fuel (writeFields escape (f :: fs) ++ '}' :: rest) = some (f :: fs, rest)
  | _, _, 0, _, h => absurd h (by omega)
  | (k, v), [], fuel + 1, rest, h => by
    obtain ⟨c, cs, he, hspace, -, -⟩ := write_head escape v
    rw [writeFields, List.length_append, List.length_cons] at h
    have hvalue := parseValue_write v fuel ('}' :: rest) (by omega) (follows_cons (by decide))
    rw [he, List.cons_append] at hvalue
    rw [writeFields, quoted, List.append_assoc, List.cons_append, parseFields, if_pos rfl,
      List.cons_append, parseString_quotedTail hread, he]
    simp only [List.cons_append, skipSpace_cons (show isSpace ':' = false by decide),
      skipSpace_cons hspace, hvalue, skipSpace_cons (show isSpace '}' = false by decide)]
  | (k, v), (g :: gs), fuel + 1, rest, h => by
    obtain ⟨c, cs, he, hspace, -, -⟩ := write_head escape v
    have hhead : ∃ tail, writeFields escape (g :: gs) = '"' :: tail := by
      obtain ⟨k', v'⟩ := g
      cases gs <;> simp [writeFields, quoted]
    obtain ⟨tail, htail⟩ := hhead
    rw [writeFields] at h
    simp only [List.length_append, List.length_cons] at h
    have hparse := parseFields_write g gs fuel rest (by omega)
    have hvalue := parseValue_write v fuel (',' :: (writeFields escape (g :: gs) ++ '}' :: rest))
      (by omega) (follows_cons (by decide))
    rw [he, List.cons_append] at hvalue
    rw [htail] at hparse hvalue
    rw [writeFields, quoted]
    simp only [List.append_assoc, List.cons_append, parseFields, ↓reduceIte, parseString_quotedTail hread,
      he, htail, skipSpace_cons (show isSpace ':' = false by decide), skipSpace_cons hspace] at hparse hvalue ⊢
    rw [hvalue]
    simp only [skipSpace_cons (show isSpace ',' = false by decide),
      skipSpace_cons (show isSpace '"' = false by decide)]
    rw [hparse]
    rfl
end

theorem parsePairs_ofList_write (v : Value) : parsePairs (String.ofList (write escape v)) = some v := by
  obtain ⟨c, cs, he, hspace, -, -⟩ := write_head escape v
  have hparse := parseValue_write hread v ((write escape v).length + 1) [] (Nat.lt_succ_self _)
    (by intro c hc; simp at hc)
  rw [List.append_nil] at hparse
  have hskip : skipSpace (write escape v) = write escape v := by rw [he, skipSpace_cons hspace]
  rw [parsePairs, String.length_ofList, String.toList_ofList, hskip, hparse]
  simp [skipSpace]

end RoundTrip

private theorem setField_of_notMem {fields : List (String × Value)} {key : String} {v : Value}
    (h : key ∉ fields.map Prod.fst) : setField fields key v = fields ++ [(key, v)] := by
  rw [setField, if_neg]
  simp only [List.any_eq_true, decide_eq_true_eq, not_exists, not_and]
  rintro f hf rfl
  exact h (List.mem_map_of_mem hf)

mutual
theorem collapse_of_distinct : (v : Value) → Distinct v → collapse v = v
  | .null, _ | .bool _, _ | .int _, _ | .str _, _ => by simp [collapse]
  | .arr items, h => by rw [collapse, collapseItems_of_distinct items h]
  | .obj fields, h => by
    rw [collapse, collapseFields_of_distinct [] fields (by simpa using h.1) h.2, List.nil_append]

theorem collapseItems_of_distinct : (items : List Value) → DistinctItems items →
    collapseItems items = items
  | [], _ => rfl
  | v :: vs, h => by
    rw [collapseItems, collapse_of_distinct v h.1, collapseItems_of_distinct vs h.2]

theorem collapseFields_of_distinct : (acc fields : List (String × Value)) →
    ((acc ++ fields).map Prod.fst).Nodup → DistinctFields fields →
    collapseFields acc fields = acc ++ fields
  | acc, [], _, _ => by rw [collapseFields, List.append_nil]
  | acc, (k, v) :: rest, hnodup, h => by
    have hnotMem : k ∉ acc.map Prod.fst := by
      rw [List.map_append, List.map_cons] at hnodup
      exact fun hk => (List.nodup_append.mp hnodup).2.2 k hk k (List.mem_cons_self ..) rfl
    rw [collapseFields, collapse_of_distinct v h.1, setField_of_notMem hnotMem,
      collapseFields_of_distinct _ rest (by simpa using hnodup) h.2, List.append_assoc,
      List.singleton_append]
end

/-- The text determines the document, up to the order of its keys. -/
theorem sortKeys_of_dumps {v w : Value} (h : dumps v = dumps w) : sortKeys v = sortKeys w := by
  have hparse := congrArg parsePairs h
  rw [dumps, dumps, parsePairs_ofList_write readable_escapeChar,
    parsePairs_ofList_write readable_escapeChar] at hparse
  exact Option.some.inj hparse

/-- Dictionaries of one text hold the same values under each key. -/
theorem get?_of_dumps {fs gs : List (String × Value)} (hfs : (fs.map Prod.fst).Nodup)
    (hgs : (gs.map Prod.fst).Nodup) (h : dumps (.obj fs) = dumps (.obj gs)) (key : String) :
    (get? (.obj fs) key).map sortKeys = (get? (.obj gs) key).map sortKeys := by
  rw [← get?_sortKeys_obj hfs, ← get?_sortKeys_obj hgs, sortKeys_of_dumps h]

/-- What was written canonically is read back as the same document with sorted keys. -/
theorem loads_dumps (v : Value) (h : Distinct v) : loads (dumps v) = some (sortKeys v) := by
  rw [loads, dumps, parsePairs_ofList_write readable_escapeChar, Option.map_some,
    collapse_of_distinct _ (distinct_sortKeys v h)]

theorem loads_dumpsAscii (v : Value) (h : Distinct v) : loads (dumpsAscii v) = some (sortKeys v) := by
  rw [loads, dumpsAscii, parsePairs_ofList_write readable_escapeAscii, Option.map_some,
    collapse_of_distinct _ (distinct_sortKeys v h)]

end Caixinha.Library.Json
