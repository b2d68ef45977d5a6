import Mathlib.Tactic

set_option autoImplicit false

/-! # JSON texts: values, printer and parser

The syntax of JSON as a value type, the printer of Go's `encoding/json` (no blanks, members in
the order given, the HTML-sensitive characters and the two line separators escaped) and a
recursive-descent parser for arbitrary texts. A number is kept as its literal: a `float64` is
the literal that `strconv` prints for it, an integer its decimal digits. The parser keeps the
literals of a text as they are spelled (`1.0`) and of any size, where `encoding/json` reads a
`float64` and refuses a literal beyond its range (`1e400`).

The main result is `Json.parse_marshal`: **parsing what was printed gives the value back**, for
every value whose number literals follow the grammar. The parser runs on a depth budget; the
text's own length is enough, because every nested value is printed with at least one character
of its own. -/

/-- A JSON value. Members of an object keep their order and their duplicates. -/
inductive Json where
  | null
  | bool (b : Bool)
  | num (literal : String)
  | str (s : String)
  | arr (items : List Json)
  | obj (members : List (String × Json))
deriving Inhabited, Repr

namespace Json

/-! ## Number literals -/

/-- A nonempty run of digits and nothing after it. -/
def isDigits (cs : List Char) : Bool := !cs.isEmpty && cs.all Char.isDigit

/-- The exponent part: digits with an optional sign. -/
def isExponent : List Char → Bool
  | '+' :: cs => isDigits cs
  | '-' :: cs => isDigits cs
  | cs => isDigits cs

/-- What may follow the integer part: a fraction, an exponent, both or neither. -/
def isNumberTail (cs : List Char) : Bool :=
  match cs with
  | [] => true
  | '.' :: rest =>
    let frac := rest.takeWhile Char.isDigit
    let tail := rest.dropWhile Char.isDigit
    !frac.isEmpty && match tail with
      | [] => true
      | e :: exp => (e = 'e' ∨ e = 'E') && isExponent exp
  | e :: exp => (e = 'e' ∨ e = 'E') && isExponent exp

/-- A number without its sign: no leading zeros. -/
def isUnsignedNumber : List Char → Bool
  | '0' :: rest => isNumberTail rest
  | c :: rest => c.isDigit && isNumberTail (rest.dropWhile Char.isDigit)
  | [] => false

/-- The number grammar of JSON. -/
def isNumber : List Char → Bool
  | '-' :: rest => isUnsignedNumber rest
  | cs => isUnsignedNumber cs

/-- The characters a number literal is made of. -/
def isNumberChar (c : Char) : Bool :=
  c.isDigit || c = '-' || c = '+' || c = '.' || c = 'e' || c = 'E'

/-- The literal of an integer. -/
def intLiteral : Int → String
  | .ofNat n => String.ofList (Nat.toDigits 10 n)
  | .negSucc n => String.ofList ('-' :: Nat.toDigits 10 (n + 1))

/-- Reading an integer literal; a fraction or an exponent is refused. -/
def intOfLiteral (literal : String) : Option Int :=
  match literal.toList with
  | '-' :: cs => if isDigits cs then some (-(Nat.ofDigitChars 10 cs 0 : Int)) else none
  | cs => if isDigits cs then some (Nat.ofDigitChars 10 cs 0 : Int) else none

/-- The JSON number of an integer. -/
def int (n : Int) : Json := .num (intLiteral n)

theorem isDigits_toDigits (n : Nat) : isDigits (Nat.toDigits 10 n) = true := by
  have hne : Nat.toDigits 10 n ≠ [] := Nat.toDigits_ne_nil
  have hall : (Nat.toDigits 10 n).all Char.isDigit = true := by
    rw [List.all_eq_true]
    intro c hc
    exact Nat.isDigit_of_mem_toDigits (by decide) (by decide) hc
  simp [isDigits, hne, hall]

theorem isDigits_no_minus {cs : List Char} (h : isDigits ('-' :: cs) = true) : False := by
  simp [isDigits] at h

theorem intOfLiteral_intLiteral (n : Int) : intOfLiteral (intLiteral n) = some n := by
  cases n with
  | ofNat n =>
      have hd := isDigits_toDigits n
      unfold intOfLiteral intLiteral
      simp only [String.toList_ofList]
      split
      · rename_i cs heq
        rw [heq] at hd
        exact (isDigits_no_minus hd).elim
      · simp [hd, Nat.ofDigitChars_ten_toDigits]
  | negSucc n =>
      unfold intOfLiteral intLiteral
      simp only [String.toList_ofList, isDigits_toDigits, if_true, Nat.ofDigitChars_ten_toDigits]
      rfl

/-! ## Strings -/

/-- The hexadecimal digit of `d < 16`, in Go's lower case. -/
def hexDigit (d : Nat) : Char :=
  if d < 10 then Char.ofNat (48 + d) else Char.ofNat (87 + d)

/-- The value of a hexadecimal digit of either case. -/
def hexValue (c : Char) : Option Nat :=
  if '0' ≤ c ∧ c ≤ '9' then some (c.toNat - 48)
  else if 'a' ≤ c ∧ c ≤ 'f' then some (c.toNat - 87)
  else if 'A' ≤ c ∧ c ≤ 'F' then some (c.toNat - 55)
  else none

/-- The characters Go writes as a `\u` escape: the other control characters, the three
    HTML-sensitive ones and the two line separators. -/
def needsUnicodeEscape (c : Char) : Bool :=
  c.toNat < 32 || c = '<' || c = '>' || c = '&' || c.toNat = 0x2028 || c.toNat = 0x2029

/-- One character of a printed string. -/
def escapeChar (c : Char) : List Char :=
  if c = '"' then ['\\', '"']
  else if c = '\\' then ['\\', '\\']
  else if c.toNat = 8 then ['\\', 'b']
  else if c.toNat = 12 then ['\\', 'f']
  else if c = '\n' then ['\\', 'n']
  else if c = '\r' then ['\\', 'r']
  else if c = '\t' then ['\\', 't']
  else if needsUnicodeEscape c then
    ['\\', 'u', hexDigit (c.toNat / 4096 % 16), hexDigit (c.toNat / 256 % 16),
      hexDigit (c.toNat / 16 % 16), hexDigit (c.toNat % 16)]
  else [c]

def escape (cs : List Char) : List Char := cs.flatMap escapeChar

/-- A printed string with its quotes. -/
def renderString (s : String) : List Char := '"' :: (escape s.toList ++ ['"'])

/-- The code unit of four hexadecimal digits. -/
def codeUnit (a b c d : Char) : Option Nat := do
  let a ← hexValue a
  let b ← hexValue b
  let c ← hexValue c
  let d ← hexValue d
  pure (4096 * a + 256 * b + 16 * c + d)

/-- The character of one code unit; a lone surrogate becomes the replacement character. -/
def charOfUnit (n : Nat) : Char :=
  if 0xD800 ≤ n ∧ n < 0xE000 then Char.ofNat 0xFFFD else Char.ofNat n

/-- The character of a surrogate pair, when the two units form one. -/
def surrogatePair (hi lo : Nat) : Option Char :=
  if 0xD800 ≤ hi ∧ hi < 0xDC00 ∧ 0xDC00 ≤ lo ∧ lo < 0xE000 then
    some (Char.ofNat (0x10000 + (hi - 0xD800) * 0x400 + (lo - 0xDC00)))
  else none

/-- The character named by a one-letter escape. -/
def simpleEscape (c : Char) : Option Char :=
  if c = '"' ∨ c = '\\' ∨ c = '/' then some c
  else if c = 'b' then some (Char.ofNat 8)
  else if c = 'f' then some (Char.ofNat 12)
  else if c = 'n' then some '\n'
  else if c = 'r' then some '\r'
  else if c = 't' then some '\t'
  else none

/-- The characters of a string up to its closing quote, and what follows it. Raw control
    characters, unknown escapes and a missing quote are errors. -/
def parseStringBody : Nat → List Char → Option (List Char × List Char)
  | 0, _ => none
  | _ + 1, [] => none
  | fuel + 1, c :: cs =>
    if c = '"' then some ([], cs)
    else if c = '\\' then
      match cs with
      | 'u' :: w :: x :: y :: z :: rest => do
        let unit ← codeUnit w x y z
        match rest with
        | '\\' :: 'u' :: w' :: x' :: y' :: z' :: rest' =>
          match (codeUnit w' x' y' z').bind (surrogatePair unit) with
          | some pair => do
            let (out, tail) ← parseStringBody fuel rest'
            pure (pair :: out, tail)
          | none => do
            let (out, tail) ← parseStringBody fuel rest
            pure (charOfUnit unit :: out, tail)
        | _ => do
          let (out, tail) ← parseStringBody fuel rest
          pure (charOfUnit unit :: out, tail)
      | e :: rest => do
        let out ← simpleEscape e
        let (more, tail) ← parseStringBody fuel rest
        pure (out :: more, tail)
      | [] => none
    else if c.toNat < 32 then none
    else do
      let (out, tail) ← parseStringBody fuel cs
      pure (c :: out, tail)

/-- The string whose opening quote has been read. -/
def parseString (cs : List Char) : Option (String × List Char) :=
  (parseStringBody cs.length cs).map fun p => (String.ofList p.1, p.2)

theorem hexValue_hexDigit : ∀ d, d < 16 → hexValue (hexDigit d) = some d := by
  decide

theorem codeUnit_hexDigits {n : Nat} (h : n < 65536) :
    codeUnit (hexDigit (n / 4096 % 16)) (hexDigit (n / 256 % 16)) (hexDigit (n / 16 % 16))
      (hexDigit (n % 16)) = some n := by
  simp only [codeUnit, hexValue_hexDigit _ (Nat.mod_lt _ (by decide : 0 < 16))]
  simp only [Option.bind_eq_bind, Option.bind_some, Option.pure_def, Option.some.injEq]
  omega

/-- Every character that is escaped by its code lies below the surrogates. -/
theorem needsUnicodeEscape_lt {c : Char} (h : needsUnicodeEscape c = true) :
    c.toNat < 0xD800 := by
  simp only [needsUnicodeEscape, Bool.or_eq_true, decide_eq_true_eq] at h
  rcases h with ((((h | rfl) | rfl) | rfl) | h) | h
  · omega
  · decide
  · decide
  · decide
  · omega
  · omega

theorem surrogatePair_eq_none {hi lo : Nat} (h : hi < 0xD800) : surrogatePair hi lo = none := by
  unfold surrogatePair
  rw [if_neg (by omega)]

theorem charOfUnit_toNat {c : Char} (h : c.toNat < 0xD800) : charOfUnit c.toNat = c := by
  unfold charOfUnit
  rw [if_neg (by omega), Char.ofNat_toNat]

theorem toNat_eq_of_eq_ofNat {c : Char} {n : Nat} (h : c.toNat = n) : c = Char.ofNat n := by
  rw [← h, Char.ofNat_toNat]

/-- A code-unit escape below the surrogates reads as its character, whatever follows. -/
theorem parseStringBody_unicode (fuel : Nat) {c : Char} (hc : c.toNat < 0xD800)
    (tail : List Char) :
    parseStringBody (fuel + 1)
        ('\\' :: 'u' :: hexDigit (c.toNat / 4096 % 16) :: hexDigit (c.toNat / 256 % 16) ::
          hexDigit (c.toNat / 16 % 16) :: hexDigit (c.toNat % 16) :: tail)
      = (parseStringBody fuel tail).map fun p => (c :: p.1, p.2) := by
  have hq : ('\\' : Char) ≠ '"' := by decide
  rw [parseStringBody]
  simp only [hq, if_false, if_true, codeUnit_hexDigits (by omega : c.toNat < 65536),
    Option.bind_eq_bind, Option.bind_some, charOfUnit_toNat hc]
  split
  · rename_i w x y z rest
    have hnone : (codeUnit w x y z).bind (surrogatePair c.toNat) = none := by
      cases codeUnit w x y z with
      | none => rfl
      | some lo => exact surrogatePair_eq_none hc
    rw [hnone]
    cases parseStringBody fuel ('\\' :: 'u' :: w :: x :: y :: z :: rest) <;> rfl
  · cases parseStringBody fuel tail <;> rfl

theorem parseStringBody_simple (fuel : Nat) {e c : Char} (he : simpleEscape e = some c)
    (hu : e ≠ 'u') (tail : List Char) :
    parseStringBody (fuel + 1) ('\\' :: e :: tail)
      = (parseStringBody fuel tail).map fun p => (c :: p.1, p.2) := by
  have hq : ('\\' : Char) ≠ '"' := by decide
  rw [parseStringBody]
  · simp only [hq, if_false, if_true, he, Option.bind_eq_bind, Option.bind_some]
    cases parseStringBody fuel tail <;> rfl
  · intro w x y z rest heq _
    exact absurd heq hu

theorem parseStringBody_raw (fuel : Nat) {c : Char} (hq : c ≠ '"') (hb : c ≠ '\\')
    (hc : ¬ c.toNat < 32) (tail : List Char) :
    parseStringBody (fuel + 1) (c :: tail)
      = (parseStringBody fuel tail).map fun p => (c :: p.1, p.2) := by
  rw [parseStringBody.eq_def]
  simp only [hq, hb, hc, if_false]
  cases parseStringBody fuel tail <;> rfl

/-- One printed character reads back as itself. -/
theorem parseStringBody_escapeChar (fuel : Nat) (c : Char) (tail : List Char) :
    parseStringBody (fuel + 1) (escapeChar c ++ tail)
      = (parseStringBody fuel tail).map fun p => (c :: p.1, p.2) := by
  unfold escapeChar
  split_ifs with hquote hback h8 h12 hn hr ht hu
  · subst hquote
    exact parseStringBody_simple fuel (by decide) (by decide) tail
  · subst hback
    exact parseStringBody_simple fuel (by decide) (by decide) tail
  · rw [toNat_eq_of_eq_ofNat h8]
    exact parseStringBody_simple fuel (by decide) (by decide) tail
  · rw [toNat_eq_of_eq_ofNat h12]
    exact parseStringBody_simple fuel (by decide) (by decide) tail
  · subst hn
    exact parseStringBody_simple fuel (by decide) (by decide) tail
  · subst hr
    exact parseStringBody_simple fuel (by decide) (by decide) tail
  · subst ht
    exact parseStringBody_simple fuel (by decide) (by decide) tail
  · exact parseStringBody_unicode fuel (needsUnicodeEscape_lt hu) tail
  · have hlow : ¬ c.toNat < 32 := by
      intro h
      apply hu
      simp [needsUnicodeEscape, h]
    exact parseStringBody_raw fuel hquote hback hlow tail

theorem escapeChar_length_pos (c : Char) : 0 < (escapeChar c).length := by
  unfold escapeChar
  split_ifs <;> simp

theorem length_le_escape (cs : List Char) : cs.length ≤ (escape cs).length := by
  induction cs with
  | nil => simp
  | cons c cs ih =>
      have := escapeChar_length_pos c
      simp only [escape, List.flatMap_cons, List.length_append, List.length_cons] at ih ⊢
      omega

theorem parseStringBody_escape (cs rest : List Char) :
    ∀ fuel, cs.length < fuel →
      parseStringBody fuel (escape cs ++ '"' :: rest) = some (cs, rest) := by
  induction cs with
  | nil =>
      intro fuel hfuel
      obtain ⟨n, rfl⟩ : ∃ n, fuel = n + 1 := ⟨fuel - 1, by simp at hfuel; omega⟩
      simp [escape, parseStringBody]
  | cons c cs ih =>
      intro fuel hfuel
      obtain ⟨n, rfl⟩ : ∃ n, fuel = n + 1 := ⟨fuel - 1, by simp at hfuel; omega⟩
      have hcs : cs.length < n := by simpa using hfuel
      simp only [escape, List.flatMap_cons, List.append_assoc]
      rw [parseStringBody_escapeChar]
      have := ih n hcs
      simp only [escape] at this
      rw [this]
      rfl

/-- A printed string reads back as itself, whatever follows its closing quote. -/
theorem parseString_escape (s : String) (rest : List Char) :
    parseString (escape s.toList ++ '"' :: rest) = some (s, rest) := by
  have hlen : s.toList.length < (escape s.toList ++ '"' :: rest).length := by
    have := length_le_escape s.toList
    simp only [List.length_append, List.length_cons]
    omega
  rw [parseString, parseStringBody_escape _ _ _ hlen]
  simp

/-! ## Values -/

mutual

/-- The text of a value. -/
def render : Json → List Char
  | .null => ['n', 'u', 'l', 'l']
  | .bool true => ['t', 'r', 'u', 'e']
  | .bool false => ['f', 'a', 'l', 's', 'e']
  | .num literal => literal.toList
  | .str s => renderString s
  | .arr [] => ['[', ']']
  | .arr (x :: xs) => '[' :: (render x ++ renderItems xs)
  | .obj [] => ['\x7b', '\x7d']
  | .obj ((k, v) :: kvs) =>
    '\x7b' :: (renderString k ++ ':' :: (render v ++ renderMembers kvs))

/-- The items of an array after its first one, with the closing bracket. -/
def renderItems : List Json → List Char
  | [] => [']']
  | x :: xs => ',' :: (render x ++ renderItems xs)

/-- The members of an object after its first one, with the closing brace. -/
def renderMembers : List (String × Json) → List Char
  | [] => ['\x7d']
  | (k, v) :: kvs => ',' :: (renderString k ++ ':' :: (render v ++ renderMembers kvs))

end

/-- The printed text as a string. -/
def marshal (j : Json) : String := String.ofList j.render

def isBlank (c : Char) : Bool := c = ' ' || c = '\t' || c = '\n' || c = '\r'

def skipBlanks (cs : List Char) : List Char := cs.dropWhile isBlank

/-- A number literal at the head of the text. -/
def parseNumber (cs : List Char) : Option (Json × List Char) :=
  if isNumber (cs.takeWhile isNumberChar) then
    some (.num (String.ofList (cs.takeWhile isNumberChar)), cs.dropWhile isNumberChar)
  else none

mutual

/-- The value at the head of the text and what follows it; nesting is bounded by the budget. -/
def parseValue : Nat → List Char → Option (Json × List Char)
  | 0, _ => none
  | fuel + 1, cs =>
    match skipBlanks cs with
    | 'n' :: 'u' :: 'l' :: 'l' :: rest => some (.null, rest)
    | 't' :: 'r' :: 'u' :: 'e' :: rest => some (.bool true, rest)
    | 'f' :: 'a' :: 'l' :: 's' :: 'e' :: rest => some (.bool false, rest)
    | '"' :: rest => (parseString rest).map fun p => (.str p.1, p.2)
    | '[' :: rest =>
      match skipBlanks rest with
      | ']' :: tail => some (.arr [], tail)
      | items => (parseItems fuel items).map fun p => (.arr p.1, p.2)
    | '\x7b' :: rest =>
      match skipBlanks rest with
      | '\x7d' :: tail => some (.obj [], tail)
      | members => (parseMembers fuel members).map fun p => (.obj p.1, p.2)
    | text => parseNumber text

/-- The items up to the closing bracket. -/
def parseItems : Nat → List Char → Option (List Json × List Char)
  | 0, _ => none
  | fuel + 1, cs =>
    match parseValue fuel cs with
    | none => none
    | some (x, rest) =>
      match skipBlanks rest with
      | ',' :: tail => (parseItems fuel tail).map fun p => (x :: p.1, p.2)
      | ']' :: tail => some ([x], tail)
      | _ => none

/-- The members up to the closing brace. -/
def parseMembers : Nat → List Char → Option (List (String × Json) × List Char)
  | 0, _ => none
  | fuel + 1, cs =>
    match skipBlanks cs with
    | '"' :: text =>
      match parseString text with
      | none => none
      | some (k, afterKey) =>
        match skipBlanks afterKey with
        | ':' :: valueText =>
          match parseValue fuel valueText with
          | none => none
          | some (v, rest) =>
            match skipBlanks rest with
            | ',' :: tail => (parseMembers fuel tail).map fun p => ((k, v) :: p.1, p.2)
            | '\x7d' :: tail => some ([(k, v)], tail)
            | _ => none
        | _ => none
    | _ => none

end

/-- Reading a whole text: one value with nothing but blanks around it. -/
def parse (text : String) : Option Json :=
  match parseValue (text.toList.length + 1) text.toList with
  | some (j, rest) => if (skipBlanks rest).isEmpty then some j else none
  | none => none

mutual

/-- Every number literal of the value follows the grammar. -/
def wellFormed : Json → Bool
  | .num literal => isNumber literal.toList
  | .arr items => wellFormedItems items
  | .obj members => wellFormedMembers members
  | _ => true

def wellFormedItems : List Json → Bool
  | [] => true
  | x :: xs => wellFormed x && wellFormedItems xs

def wellFormedMembers : List (String × Json) → Bool
  | [] => true
  | (_, v) :: kvs => wellFormed v && wellFormedMembers kvs

end

theorem wellFormedItems_iff {xs : List Json} :
    wellFormedItems xs = true ↔ ∀ x ∈ xs, x.wellFormed = true := by
  induction xs with
  | nil => simp [wellFormedItems]
  | cons x xs ih => simp [wellFormedItems, ih]

theorem wellFormedMembers_iff {ms : List (String × Json)} :
    wellFormedMembers ms = true ↔ ∀ m ∈ ms, m.2.wellFormed = true := by
  induction ms with
  | nil => simp [wellFormedMembers]
  | cons m ms ih => simp [wellFormedMembers, ih]

/-! ## Reading back what was printed -/

/-- The text after a value does not go on with a number character. -/
def NumberEnd (rest : List Char) : Prop := ∀ c tail, rest = c :: tail → isNumberChar c = false

theorem numberEnd_cons {c : Char} (h : isNumberChar c = false) (tail : List Char) :
    NumberEnd (c :: tail) := by
  intro c' tail' heq
  rw [← (List.cons.inj heq).1]
  exact h

theorem numberEnd_nil : NumberEnd [] := by
  intro c tail heq
  cases heq

theorem numberEnd_renderItems (xs : List Json) (rest : List Char) :
    NumberEnd (renderItems xs ++ rest) := by
  cases xs with
  | nil => exact numberEnd_cons (by decide) _
  | cons x xs => exact numberEnd_cons (by decide) _

theorem numberEnd_renderMembers (kvs : List (String × Json)) (rest : List Char) :
    NumberEnd (renderMembers kvs ++ rest) := by
  cases kvs with
  | nil => exact numberEnd_cons (by decide) _
  | cons kv kvs => exact numberEnd_cons (by decide) _

theorem isNumberChar_of_isDigit {c : Char} (h : c.isDigit = true) : isNumberChar c = true := by
  simp [isNumberChar, h]

theorem all_isNumberChar_of_isDigits {cs : List Char} (h : isDigits cs = true) :
    ∀ c ∈ cs, isNumberChar c = true := by
  intro c hc
  simp only [isDigits, Bool.and_eq_true, List.all_eq_true] at h
  exact isNumberChar_of_isDigit (h.2 c hc)

theorem all_isNumberChar_of_isExponent {cs : List Char} (h : isExponent cs = true) :
    ∀ c ∈ cs, isNumberChar c = true := by
  unfold isExponent at h
  split at h
  · intro c hc
    rcases List.mem_cons.1 hc with rfl | hc
    · decide
    · exact all_isNumberChar_of_isDigits h c hc
  · intro c hc
    rcases List.mem_cons.1 hc with rfl | hc
    · decide
    · exact all_isNumberChar_of_isDigits h c hc
  · exact all_isNumberChar_of_isDigits h

theorem all_isNumberChar_exponentPart {e : Char} {exp : List Char}
    (h : ((e = 'e' ∨ e = 'E') && isExponent exp) = true) :
    ∀ c ∈ e :: exp, isNumberChar c = true := by
  simp only [Bool.and_eq_true, decide_eq_true_eq] at h
  intro c hc
  rcases List.mem_cons.1 hc with rfl | hc
  · rcases h.1 with rfl | rfl <;> decide
  · exact all_isNumberChar_of_isExponent h.2 c hc

theorem mem_takeWhile_isDigit {cs : List Char} {c : Char} (h : c ∈ cs.takeWhile Char.isDigit) :
    isNumberChar c = true :=
  isNumberChar_of_isDigit (List.all_eq_true.1 (List.all_takeWhile) c h)

/-- A run of digits followed by number characters is made of number characters. -/
theorem all_isNumberChar_of_dropWhile {cs : List Char}
    (h : ∀ c ∈ cs.dropWhile Char.isDigit, isNumberChar c = true) :
    ∀ c ∈ cs, isNumberChar c = true := by
  intro c hc
  rw [← List.takeWhile_append_dropWhile (p := Char.isDigit) (l := cs)] at hc
  rcases List.mem_append.1 hc with hc | hc
  · exact mem_takeWhile_isDigit hc
  · exact h c hc

theorem all_isNumberChar_of_isNumberTail {cs : List Char} (h : isNumberTail cs = true) :
    ∀ c ∈ cs, isNumberChar c = true := by
  unfold isNumberTail at h
  split at h
  · simp
  · rename_i rest
    simp only [Bool.and_eq_true] at h
    have hrest : ∀ c ∈ rest, isNumberChar c = true := by
      apply all_isNumberChar_of_dropWhile
      have htail := h.2
      split at htail
      · rename_i heq
        rw [heq]
        simp
      · rename_i e exp heq
        rw [heq]
        exact all_isNumberChar_exponentPart htail
    intro c hc
    rcases List.mem_cons.1 hc with rfl | hc
    · decide
    · exact hrest c hc
  · exact all_isNumberChar_exponentPart h

theorem all_isNumberChar_of_isUnsignedNumber {cs : List Char} (h : isUnsignedNumber cs = true) :
    ∀ c ∈ cs, isNumberChar c = true := by
  unfold isUnsignedNumber at h
  split at h
  · intro c hc
    rcases List.mem_cons.1 hc with rfl | hc
    · decide
    · exact all_isNumberChar_of_isNumberTail h c hc
  · rename_i d rest _
    simp only [Bool.and_eq_true] at h
    intro c hc
    rcases List.mem_cons.1 hc with rfl | hc
    · exact isNumberChar_of_isDigit h.1
    · exact all_isNumberChar_of_dropWhile (all_isNumberChar_of_isNumberTail h.2) c hc
  · simp at h

theorem all_isNumberChar_of_isNumber {cs : List Char} (h : isNumber cs = true) :
    ∀ c ∈ cs, isNumberChar c = true := by
  unfold isNumber at h
  split at h
  · intro c hc
    rcases List.mem_cons.1 hc with rfl | hc
    · decide
    · exact all_isNumberChar_of_isUnsignedNumber h c hc
  · exact all_isNumberChar_of_isUnsignedNumber h

theorem takeWhile_append_numberEnd {cs rest : List Char}
    (hcs : ∀ c ∈ cs, isNumberChar c = true) (hrest : NumberEnd rest) :
    (cs ++ rest).takeWhile isNumberChar = cs ∧ (cs ++ rest).dropWhile isNumberChar = rest := by
  induction cs with
  | nil =>
      cases rest with
      | nil => simp
      | cons c tail => simp [hrest c tail rfl]
  | cons c cs ih =>
      have hc := hcs c (by simp)
      have := ih (fun x hx => hcs x (by simp [hx]))
      simp [hc, this]

theorem parseNumber_append {cs rest : List Char} (h : isNumber cs = true)
    (hrest : NumberEnd rest) :
    parseNumber (cs ++ rest) = some (.num (String.ofList cs), rest) := by
  obtain ⟨htake, hdrop⟩ := takeWhile_append_numberEnd (all_isNumberChar_of_isNumber h) hrest
  simp [parseNumber, htake, hdrop, h]

/-- A literal starts with a digit or a minus sign, so no other branch of the parser takes it. -/
theorem isNumber_head {cs : List Char} (h : isNumber cs = true) :
    ∃ c tail, cs = c :: tail ∧ (c.isDigit = true ∨ c = '-') := by
  cases cs with
  | nil => simp [isNumber, isUnsignedNumber] at h
  | cons c tail =>
      refine ⟨c, tail, rfl, ?_⟩
      unfold isNumber at h
      split at h
      · rename_i heq
        right
        exact (List.cons.inj heq).1
      · unfold isUnsignedNumber at h
        split at h
        · rename_i heq
          left
          rw [(List.cons.inj heq).1]
          decide
        · rename_i d rest _ heq
          simp only [Bool.and_eq_true] at h
          left
          rw [(List.cons.inj heq).1]
          exact h.1
        · cases ‹c :: tail = []›

theorem parseValue_number (fuel : Nat) {cs rest : List Char} (h : isNumber cs = true)
    (hrest : NumberEnd rest) :
    parseValue (fuel + 1) (cs ++ rest) = some (.num (String.ofList cs), rest) := by
  have hnum := parseNumber_append h hrest
  obtain ⟨c, tail, rfl, hc⟩ := isNumber_head h
  have hblank : isBlank c = false := by
    rcases hc with hc | rfl
    · cases hb : isBlank c with
      | false => rfl
      | true =>
          simp only [isBlank, Bool.or_eq_true, decide_eq_true_eq] at hb
          rcases hb with ((rfl | rfl) | rfl) | rfl <;> exact absurd hc (by decide)
    · decide
  have hskip : skipBlanks (c :: tail ++ rest) = c :: (tail ++ rest) := by
    simp [skipBlanks, hblank]
  rw [parseValue, hskip]
  split
  all_goals first
    | (rename_i heq
       have hhead := (List.cons.inj heq).1
       subst hhead
       rcases hc with hc | hc
       · exact absurd hc (by decide)
       · exact absurd hc (by decide))
    | exact hnum

theorem render_length_pos (j : Json) (h : wellFormed j = true) : 0 < j.render.length := by
  cases j with
  | null => simp [render]
  | bool b => cases b <;> simp [render]
  | num literal =>
      obtain ⟨c, tail, heq, -⟩ := isNumber_head (by simpa [wellFormed] using h)
      simp [render, heq]
  | str s => simp [render, renderString]
  | arr items => cases items <;> simp [render]
  | obj members =>
      cases members with
      | nil => simp [render]
      | cons kv kvs => obtain ⟨k, v⟩ := kv; simp [render]

/-- A printed value does not start with a blank, nor with a closing bracket or brace. -/
theorem render_head (j : Json) (h : wellFormed j = true) :
    ∃ c tail, j.render = c :: tail ∧ isBlank c = false ∧ c ≠ ']' ∧ c ≠ '\x7d' := by
  cases j with
  | null => exact ⟨_, _, rfl, by decide, by decide, by decide⟩
  | bool b => cases b <;> exact ⟨_, _, rfl, by decide, by decide, by decide⟩
  | num literal =>
      obtain ⟨c, tail, heq, hc⟩ := isNumber_head (by simpa [wellFormed] using h)
      refine ⟨c, tail, by simp [render, heq], ?_⟩
      rcases hc with hc | rfl
      · refine ⟨?_, ?_, ?_⟩
        · cases hb : isBlank c with
          | false => rfl
          | true =>
              simp only [isBlank, Bool.or_eq_true, decide_eq_true_eq] at hb
              rcases hb with ((rfl | rfl) | rfl) | rfl <;> exact absurd hc (by decide)
        · rintro rfl
          exact absurd hc (by decide)
        · rintro rfl
          exact absurd hc (by decide)
      · decide
  | str s => exact ⟨_, _, rfl, by decide, by decide, by decide⟩
  | arr items => cases items <;> exact ⟨_, _, rfl, by decide, by decide, by decide⟩
  | obj members =>
      cases members with
      | nil => exact ⟨_, _, rfl, by decide, by decide, by decide⟩
      | cons kv kvs =>
          obtain ⟨k, v⟩ := kv
          exact ⟨_, _, rfl, by decide, by decide, by decide⟩

theorem skipBlanks_render (j : Json) (h : wellFormed j = true) (rest : List Char) :
    skipBlanks (j.render ++ rest) = j.render ++ rest := by
  obtain ⟨c, tail, heq, hblank, -⟩ := render_head j h
  simp [skipBlanks, heq, hblank]

theorem skipBlanks_cons {c : Char} (h : isBlank c = false) (tail : List Char) :
    skipBlanks (c :: tail) = c :: tail := by
  simp [skipBlanks, h]

theorem parseValue_string (fuel : Nat) (s : String) (rest : List Char) :
    parseValue (fuel + 1) (renderString s ++ rest) = some (.str s, rest) := by
  have htext : renderString s ++ rest = '"' :: (escape s.toList ++ '"' :: rest) := by
    simp [renderString]
  rw [htext, parseValue, skipBlanks_cons (by decide)]
  simp [parseString_escape]

/-- A nonempty array is read by the item loop. -/
theorem parseValue_arr (fuel : Nat) (j : Json) (hj : wellFormed j = true) (tail : List Char) :
    parseValue (fuel + 1) ('[' :: (j.render ++ tail))
      = (parseItems fuel (j.render ++ tail)).map fun p => (.arr p.1, p.2) := by
  obtain ⟨c, body, heq, hblank, hclose, -⟩ := render_head j hj
  rw [parseValue, skipBlanks_cons (by decide)]
  simp only [skipBlanks_render j hj tail]
  rw [heq, List.cons_append]
  split
  · rename_i hhead
    exact absurd (List.cons.inj hhead).1 hclose
  · rfl

/-- A nonempty object is read by the member loop. -/
theorem parseValue_obj (fuel : Nat) (k : String) (tail : List Char) :
    parseValue (fuel + 1) ('\x7b' :: (renderString k ++ tail))
      = (parseMembers fuel (renderString k ++ tail)).map fun p => (.obj p.1, p.2) := by
  have htext : renderString k ++ tail = '"' :: (escape k.toList ++ '"' :: tail) := by
    simp [renderString]
  rw [parseValue, skipBlanks_cons (by decide), htext]
  simp only [skipBlanks_cons (by decide : isBlank '"' = false)]
  rfl

/-- One turn of the item loop, given that its value reads back. -/
theorem parseItems_step {fuel : Nat} {j : Json} {text : List Char} {xs : List Json}
    {rest : List Char}
    (hv : parseValue fuel text = some (j, renderItems xs ++ rest))
    (htail : ∀ y ys, xs = y :: ys →
      parseItems fuel (y.render ++ (renderItems ys ++ rest)) = some (xs, rest)) :
    parseItems (fuel + 1) text = some (j :: xs, rest) := by
  rw [parseItems, hv]
  cases xs with
  | nil => rfl
  | cons y ys =>
      have hstart : skipBlanks (renderItems (y :: ys) ++ rest)
          = ',' :: (y.render ++ (renderItems ys ++ rest)) := by
        simp only [renderItems, List.cons_append, List.append_assoc]
        exact skipBlanks_cons (by decide) _
      simp only [hstart, htail y ys rfl, Option.map_some]

/-- One turn of the member loop, given that its value reads back. -/
theorem parseMembers_step {fuel : Nat} {k : String} {j : Json} {text : List Char}
    {kvs : List (String × Json)} {rest : List Char}
    (hv : parseValue fuel text = some (j, renderMembers kvs ++ rest))
    (htail : ∀ k' v' kvs', kvs = (k', v') :: kvs' →
      parseMembers fuel (renderString k' ++ ':' :: (v'.render ++ (renderMembers kvs' ++ rest)))
        = some (kvs, rest)) :
    parseMembers (fuel + 1) (renderString k ++ ':' :: text) = some ((k, j) :: kvs, rest) := by
  have htext : renderString k ++ ':' :: text = '"' :: (escape k.toList ++ '"' :: ':' :: text) := by
    simp [renderString]
  rw [parseMembers, htext]
  simp only [skipBlanks_cons (by decide : isBlank '"' = false), parseString_escape,
    skipBlanks_cons (by decide : isBlank ':' = false), hv]
  cases kvs with
  | nil => rfl
  | cons kv kvs' =>
      obtain ⟨k', v'⟩ := kv
      have hstart : skipBlanks (renderMembers ((k', v') :: kvs') ++ rest)
          = ',' :: (renderString k' ++ ':' :: (v'.render ++ (renderMembers kvs' ++ rest))) := by
        simp only [renderMembers, List.cons_append, List.append_assoc]
        exact skipBlanks_cons (by decide) _
      simp only [hstart, htail k' v' kvs' rfl, Option.map_some]

theorem renderItems_length_pos (xs : List Json) : 0 < (renderItems xs).length := by
  cases xs <;> simp [renderItems]

theorem renderMembers_length_pos (kvs : List (String × Json)) :
    0 < (renderMembers kvs).length := by
  cases kvs <;> simp [renderMembers]

/-- The value parser reads printed values back within the budget `fuel`. -/
def ReadsValues (fuel : Nat) : Prop :=
  ∀ (j : Json) (rest : List Char), wellFormed j = true → j.render.length ≤ fuel →
    NumberEnd rest → parseValue fuel (j.render ++ rest) = some (j, rest)

/-- The item loop reads printed items back within the budget `fuel`. -/
def ReadsItems (fuel : Nat) : Prop :=
  ∀ (x : Json) (xs : List Json) (rest : List Char), wellFormed x = true →
    wellFormedItems xs = true → x.render.length + (renderItems xs).length ≤ fuel →
    parseItems fuel (x.render ++ (renderItems xs ++ rest)) = some (x :: xs, rest)

/-- The member loop reads printed members back within the budget `fuel`. -/
def ReadsMembers (fuel : Nat) : Prop :=
  ∀ (k : String) (v : Json) (kvs : List (String × Json)) (rest : List Char),
    wellFormed v = true → wellFormedMembers kvs = true →
    v.render.length + (renderMembers kvs).length ≤ fuel →
    parseMembers fuel (renderString k ++ ':' :: (v.render ++ (renderMembers kvs ++ rest)))
      = some ((k, v) :: kvs, rest)

theorem readsValues_succ {n : Nat} (hitems : ReadsItems n) (hmembers : ReadsMembers n) :
    ReadsValues (n + 1) := by
  intro j rest h hfuel hrest
  match j with
  | .null => rfl
  | .bool true => rfl
  | .bool false => rfl
  | .num literal =>
      have hlit : isNumber literal.toList = true := by simpa [wellFormed] using h
      simpa [render] using parseValue_number n hlit hrest
  | .str s => exact parseValue_string n s rest
  | .arr [] => rfl
  | .arr (x :: xs) =>
      simp only [wellFormed, wellFormedItems, Bool.and_eq_true] at h
      simp only [render, List.length_cons, List.length_append] at hfuel
      simp only [render, List.cons_append, List.append_assoc]
      rw [parseValue_arr n x h.1, hitems x xs rest h.1 h.2 (by omega)]
      rfl
  | .obj [] => rfl
  | .obj ((k, v) :: kvs) =>
      simp only [wellFormed, wellFormedMembers, Bool.and_eq_true] at h
      simp only [render, List.length_cons, List.length_append] at hfuel
      simp only [render, List.cons_append, List.append_assoc]
      rw [parseValue_obj n k, hmembers k v kvs rest h.1 h.2 (by omega)]
      rfl

theorem readsItems_succ {n : Nat} (hvalues : ReadsValues n) (hitems : ReadsItems n) :
    ReadsItems (n + 1) := by
  intro x xs rest hx hxs hfuel
  have hpos := render_length_pos x hx
  have htailPos := renderItems_length_pos xs
  apply parseItems_step
  · exact hvalues x _ hx (by omega) (numberEnd_renderItems xs rest)
  · intro y ys heq
    subst heq
    simp only [wellFormedItems, Bool.and_eq_true] at hxs
    simp only [renderItems, List.length_cons, List.length_append] at hfuel
    exact hitems y ys rest hxs.1 hxs.2 (by omega)

theorem readsMembers_succ {n : Nat} (hvalues : ReadsValues n) (hmembers : ReadsMembers n) :
    ReadsMembers (n + 1) := by
  intro k v kvs rest hv hkvs hfuel
  have hpos := render_length_pos v hv
  have htailPos := renderMembers_length_pos kvs
  apply parseMembers_step
  · exact hvalues v _ hv (by omega) (numberEnd_renderMembers kvs rest)
  · intro k' v' kvs' heq
    subst heq
    simp only [wellFormedMembers, Bool.and_eq_true] at hkvs
    simp only [renderMembers, List.length_cons, List.length_append] at hfuel
    exact hmembers k' v' kvs' rest hkvs.1 hkvs.2 (by omega)

-- The induction follows the parser's own recursion, on the budget; each text is required to fit
-- in it, so that one statement serves a value wherever it is nested.
theorem reads_all (fuel : Nat) : ReadsValues fuel ∧ ReadsItems fuel ∧ ReadsMembers fuel := by
  induction fuel with
  | zero =>
      refine ⟨?_, ?_, ?_⟩
      · intro j rest h hfuel
        have := render_length_pos j h
        omega
      · intro x xs rest hx hxs hfuel
        have := render_length_pos x hx
        omega
      · intro k v kvs rest hv hkvs hfuel
        have := render_length_pos v hv
        omega
  | succ n ih =>
      obtain ⟨hvalues, hitems, hmembers⟩ := ih
      exact ⟨readsValues_succ hitems hmembers, readsItems_succ hvalues hitems,
        readsMembers_succ hvalues hmembers⟩

/-- **Parsing inverts printing**: the text of a well-formed value reads back as the value. -/
theorem parse_marshal (j : Json) (h : wellFormed j = true) : parse (marshal j) = some j := by
  have hval : parseValue (j.render.length + 1) j.render = some (j, []) := by
    simpa using (reads_all (j.render.length + 1)).1 j [] h (by omega) numberEnd_nil
  simp [parse, marshal, hval, skipBlanks]

/-- Different well-formed values have different texts. -/
theorem marshal_injective {j k : Json} (hj : wellFormed j = true) (hk : wellFormed k = true)
    (h : marshal j = marshal k) : j = k := by
  have hparse := parse_marshal j hj
  rw [h, parse_marshal k hk] at hparse
  exact (Option.some.inj hparse).symm

end Json
