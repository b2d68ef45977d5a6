import Mathlib.Data.List.TakeWhile
import Mathlib.Data.String.Basic
import Mathlib.Tactic
import TokyoTester.Library.Json

set_option autoImplicit false

/-! # Struct encodings of Go's `encoding/json`

A `Codec α` says how a Go value is written as JSON and read back, and carries the proof that
reading inverts writing. A struct is given by its list of fields, each with its tag's name, its
`omitempty` mark and the codec of its type; `Codec.struct` puts them together, so that the codec
of a struct is checked against the tags of its declaration and the round trip comes for free.

* A member that is missing, or `null`, leaves the zero value.
* A member is read into the field whose name it equals up to case; the last such member counts.
* A map is kept as its entries in increasing order of their keys, the order in which it is
  printed. A slice that may be printed as `null` is an option.
* A value of type `any` is a JSON value in printed form: numbers are the literals of their
  `float64`, objects are maps. -/

/-! ## Maps -/

/-- A map with string keys: its entries in strictly increasing order. -/
structure GoMap (α : Type) where
  entries : List (String × α)
  sorted : entries.Pairwise fun x y => x.1 < y.1

namespace GoMap

variable {α : Type}

/-- Assignment of a key in a sorted list of entries. -/
def insertEntry (k : String) (v : α) : List (String × α) → List (String × α)
  | [] => [(k, v)]
  | x :: xs =>
    if k < x.1 then (k, v) :: x :: xs
    else if k = x.1 then (k, v) :: xs
    else x :: insertEntry k v xs

theorem mem_insertEntry {k : String} {v : α} {x : String × α} {xs : List (String × α)}
    (h : x ∈ insertEntry k v xs) : x = (k, v) ∨ x ∈ xs := by
  induction xs with
  | nil =>
      left
      simpa [insertEntry] using h
  | cons y ys ih =>
      unfold insertEntry at h
      split_ifs at h with hlt heq
      · simpa using h
      · rcases List.mem_cons.1 h with rfl | h
        · exact .inl rfl
        · exact .inr (List.mem_cons_of_mem _ h)
      · rcases List.mem_cons.1 h with rfl | h
        · exact .inr (by simp)
        · rcases ih h with h | h
          · exact .inl h
          · exact .inr (List.mem_cons_of_mem _ h)

theorem sorted_insertEntry {k : String} {v : α} {xs : List (String × α)}
    (h : xs.Pairwise fun x y => x.1 < y.1) :
    (insertEntry k v xs).Pairwise fun x y => x.1 < y.1 := by
  induction xs with
  | nil => simp [insertEntry]
  | cons y ys ih =>
      obtain ⟨hy, hys⟩ := List.pairwise_cons.1 h
      unfold insertEntry
      split_ifs with hlt heq
      · refine List.pairwise_cons.2 ⟨?_, h⟩
        intro z hz
        rcases List.mem_cons.1 hz with rfl | hz
        · exact hlt
        · exact hlt.trans (hy z hz)
      · refine List.pairwise_cons.2 ⟨?_, hys⟩
        intro z hz
        rw [heq]
        exact hy z hz
      · refine List.pairwise_cons.2 ⟨?_, ih hys⟩
        intro z hz
        rcases mem_insertEntry hz with rfl | hz
        · exact lt_of_le_of_ne (not_lt.1 hlt) (Ne.symm heq)
        · exact hy z hz

/-- A key above all others is appended. -/
theorem insertEntry_append {k : String} {v : α} {xs : List (String × α)}
    (h : ∀ x ∈ xs, x.1 < k) : insertEntry k v xs = xs ++ [(k, v)] := by
  induction xs with
  | nil => rfl
  | cons y ys ih =>
      have hy := h y (by simp)
      have hrest := ih fun x hx => h x (List.mem_cons_of_mem _ hx)
      simp [insertEntry, hy.asymm, hy.ne', hrest]

/-- Assignment of members one after the other. -/
def insertAll (xs : List (String × α)) (acc : List (String × α)) : List (String × α) :=
  xs.foldl (fun acc x => insertEntry x.1 x.2 acc) acc

theorem sorted_insertAll (xs : List (String × α)) :
    ∀ acc : List (String × α), (acc.Pairwise fun x y => x.1 < y.1) →
      (insertAll xs acc).Pairwise fun x y => x.1 < y.1 := by
  induction xs with
  | nil =>
      intro acc h
      exact h
  | cons x xs ih =>
      intro acc h
      exact ih _ (sorted_insertEntry h)

/-- Sorted members are assigned in place. -/
theorem insertAll_sorted (xs : List (String × α)) :
    ∀ acc : List (String × α), (acc ++ xs).Pairwise (fun x y => x.1 < y.1) →
      insertAll xs acc = acc ++ xs := by
  induction xs with
  | nil =>
      intro acc _
      simp [insertAll]
  | cons x xs ih =>
      intro acc h
      have hlast : ∀ y ∈ acc, y.1 < x.1 := fun y hy =>
        (List.pairwise_append.1 h).2.2 y hy x (by simp)
      have hstep : insertEntry x.1 x.2 acc = acc ++ [x] := insertEntry_append hlast
      have hrest := ih (acc ++ [x]) (by simpa using h)
      simpa [insertAll, hstep] using hrest

/-- The map of a list of members; the last one of a key counts. -/
def ofList (xs : List (String × α)) : GoMap α :=
  ⟨insertAll xs [], sorted_insertAll xs [] List.Pairwise.nil⟩

theorem ofList_entries (m : GoMap α) : ofList m.entries = m := by
  cases m with
  | mk entries sorted =>
      have h := insertAll_sorted entries [] (by simpa using sorted)
      simpa [ofList] using h

def empty : GoMap α := ⟨[], List.Pairwise.nil⟩

instance : Inhabited (GoMap α) := ⟨empty⟩

/-- Lookup. -/
def get? (m : GoMap α) (k : String) : Option α := (m.entries.find? fun x => x.1 = k).map (·.2)

/-- Lookup after an assignment. -/
theorem find?_insertEntry (name k : String) (v : α) (xs : List (String × α)) :
    (insertEntry k v xs).find? (fun x => x.1 = name)
      = if k = name then some (k, v) else xs.find? fun x => x.1 = name := by
  induction xs with
  | nil => by_cases hk : k = name <;> simp [insertEntry, hk]
  | cons x xs ih =>
      by_cases hk : k = name
      · subst hk
        rw [if_pos rfl] at ih ⊢
        unfold insertEntry
        split_ifs with hlt heq
        · simp
        · simp
        · simp [Ne.symm heq, ih]
      · rw [if_neg hk] at ih ⊢
        unfold insertEntry
        split_ifs with hlt heq
        · simp [hk]
        · simp [hk, ← heq]
        · simp [List.find?_cons, ih]

theorem find?_insertAll (name : String) (xs : List (String × α)) :
    ∀ acc : List (String × α), (∀ x ∈ xs, x.1 ≠ name) →
      (insertAll xs acc).find? (fun x => x.1 = name) = acc.find? fun x => x.1 = name := by
  induction xs with
  | nil =>
      intro acc _
      rfl
  | cons x xs ih =>
      intro acc h
      have hrest := ih (insertEntry x.1 x.2 acc) fun y hy => h y (List.mem_cons_of_mem _ hy)
      rw [find?_insertEntry, if_neg (h x (by simp))] at hrest
      exact hrest

/-- The last assignment of a key is the one that counts. -/
theorem get?_ofList {k : String} {v : α} {xs ys : List (String × α)}
    (h : ∀ y ∈ ys, y.1 ≠ k) : (ofList (xs ++ (k, v) :: ys)).get? k = some v := by
  have hall : insertAll (xs ++ (k, v) :: ys) []
      = insertAll ys (insertEntry k v (insertAll xs [])) := by
    simp [insertAll]
  simp [get?, ofList, hall, find?_insertAll k ys _ h, find?_insertEntry]

theorem find?_insertAll_eq (name : String) (xs acc : List (String × α)) :
    (insertAll xs acc).find? (fun x => x.1 = name)
      = (xs.reverse ++ acc).find? fun x => x.1 = name := by
  induction xs generalizing acc with
  | nil => rfl
  | cons x xs ih =>
      show (insertAll xs (insertEntry x.1 x.2 acc)).find? _ = _
      rw [ih, List.find?_append, find?_insertEntry, List.reverse_cons, List.append_assoc,
        List.find?_append]
      congr 1
      by_cases hx : x.1 = name
      · subst hx
        simp
      · simp [hx]

/-- Lookup in the map of a list of members. -/
theorem get?_ofList_eq (xs : List (String × α)) (k : String) :
    (ofList xs).get? k = (xs.reverse.find? fun x => x.1 = k).map (·.2) := by
  unfold get? ofList
  rw [find?_insertAll_eq, List.append_nil]

theorem mem_insertAll {x : String × α} (xs : List (String × α)) :
    ∀ acc : List (String × α), x ∈ insertAll xs acc → x ∈ xs ∨ x ∈ acc := by
  induction xs with
  | nil =>
      intro acc h
      exact .inr h
  | cons y ys ih =>
      intro acc h
      rcases ih _ h with h | h
      · exact .inl (List.mem_cons_of_mem _ h)
      · rcases mem_insertEntry h with rfl | h
        · exact .inl (by simp)
        · exact .inr h

theorem mem_ofList {x : String × α} {xs : List (String × α)} (h : x ∈ (ofList xs).entries) :
    x ∈ xs :=
  (mem_insertAll xs [] h).resolve_right (by simp)

/-- The keys of a map. -/
def keys (m : GoMap α) : List String := m.entries.map (·.1)

theorem keys_nodup (m : GoMap α) : m.keys.Nodup := by
  have hsorted : m.keys.Pairwise (· < ·) := List.pairwise_map.2 m.sorted
  exact hsorted.imp fun h => h.ne

theorem get?_of_mem {m : GoMap α} {e : String × α} (h : e ∈ m.entries) :
    m.get? e.1 = some e.2 := by
  unfold get?
  have hfind : m.entries.find? (fun x => x.1 = e.1) = some e := by
    cases hf : m.entries.find? (fun x => x.1 = e.1) with
    | none =>
        have := List.find?_eq_none.1 hf e h
        simp at this
    | some f =>
        have hkey : f.1 = e.1 := by simpa using List.find?_some hf
        have hmem := List.mem_of_find?_eq_some hf
        exact congrArg some (List.inj_on_of_nodup_map m.keys_nodup hmem h hkey)
  rw [hfind]
  rfl

theorem get?_eq_none {m : GoMap α} {k : String} : m.get? k = none ↔ k ∉ m.keys := by
  unfold get? keys
  rw [Option.map_eq_none_iff, List.find?_eq_none, List.mem_map]
  constructor
  · rintro h ⟨e, he, rfl⟩
    exact h e he (decide_eq_true rfl)
  · intro h e he
    simpa using fun hkey : e.1 = k => h ⟨e, he, hkey⟩

theorem mem_keys_insertEntry {k name : String} {v : α} {xs : List (String × α)} :
    name ∈ (insertEntry k v xs).map (·.1) ↔ name = k ∨ name ∈ xs.map (·.1) := by
  induction xs with
  | nil => simp [insertEntry]
  | cons x xs ih =>
      unfold insertEntry
      split_ifs with hlt heq
      · rw [List.map_cons, List.mem_cons]
      · subst heq
        simp
      · rw [List.map_cons, List.mem_cons, ih, List.map_cons, List.mem_cons, or_left_comm]

theorem mem_keys_insertAll {name : String} (xs acc : List (String × α)) :
    name ∈ (insertAll xs acc).map (·.1) ↔ name ∈ xs.map (·.1) ∨ name ∈ acc.map (·.1) := by
  induction xs generalizing acc with
  | nil => simp [insertAll]
  | cons x xs ih =>
      show name ∈ (insertAll xs (insertEntry x.1 x.2 acc)).map (·.1) ↔ _
      rw [ih, mem_keys_insertEntry, List.map_cons, List.mem_cons, or_left_comm, or_assoc]

theorem mem_keys_ofList {name : String} {xs : List (String × α)} :
    name ∈ (ofList xs).keys ↔ name ∈ xs.map (·.1) := by
  unfold keys ofList
  rw [mem_keys_insertAll]
  simp

/-- The map with its values replaced. -/
def mapValues {β : Type} (f : α → β) (m : GoMap α) : GoMap β :=
  ⟨m.entries.map fun x => (x.1, f x.2), by
    rw [List.pairwise_map]
    exact m.sorted⟩

theorem ext_entries {m n : GoMap α} (h : m.entries = n.entries) : m = n := by
  cases m
  cases n
  cases h
  rfl

end GoMap

namespace Json

/-! ## Values of type `any` -/

mutual

/-- The value as it is held in memory: the members of every object assigned one after the
    other. -/
def normalize : Json → Json
  | null => null
  | bool b => bool b
  | num literal => num literal
  | str s => str s
  | arr items => arr (normalizeItems items)
  | obj members => obj (GoMap.insertAll (normalizeMembers members) [])

def normalizeItems : List Json → List Json
  | [] => []
  | x :: xs => normalize x :: normalizeItems xs

def normalizeMembers : List (String × Json) → List (String × Json)
  | [] => []
  | (k, v) :: rest => (k, normalize v) :: normalizeMembers rest

end

mutual

/-- The value is in memory form: objects have strictly increasing keys, numbers are literals. -/
def canonical : Json → Bool
  | null => true
  | bool _ => true
  | num literal => isNumber literal.toList
  | str _ => true
  | arr items => canonicalItems items
  | obj members => decide (members.Pairwise fun x y => x.1 < y.1) && canonicalMembers members

def canonicalItems : List Json → Bool
  | [] => true
  | x :: xs => canonical x && canonicalItems xs

def canonicalMembers : List (String × Json) → Bool
  | [] => true
  | (_, v) :: rest => canonical v && canonicalMembers rest

end

mutual

theorem wellFormed_of_canonical : ∀ j : Json, j.canonical = true → j.wellFormed = true
  | null, _ => by simp [wellFormed]
  | bool _, _ => by simp [wellFormed]
  | num _, h => by simpa [wellFormed, canonical] using h
  | str _, _ => by simp [wellFormed]
  | arr items, h => by
      rw [canonical] at h
      rw [wellFormed]
      exact wellFormedItems_of_canonical items h
  | obj members, h => by
      rw [canonical, Bool.and_eq_true] at h
      rw [wellFormed]
      exact wellFormedMembers_of_canonical members h.2

theorem wellFormedItems_of_canonical :
    ∀ xs : List Json, canonicalItems xs = true → wellFormedItems xs = true
  | [], _ => by simp [wellFormedItems]
  | x :: xs, h => by
      rw [canonicalItems, Bool.and_eq_true] at h
      rw [wellFormedItems, wellFormed_of_canonical x h.1, wellFormedItems_of_canonical xs h.2]
      rfl

theorem wellFormedMembers_of_canonical :
    ∀ ms : List (String × Json), canonicalMembers ms = true → wellFormedMembers ms = true
  | [], _ => by simp [wellFormedMembers]
  | (_, v) :: ms, h => by
      rw [canonicalMembers, Bool.and_eq_true] at h
      rw [wellFormedMembers, wellFormed_of_canonical v h.1, wellFormedMembers_of_canonical ms h.2]
      rfl

end

mutual

theorem normalize_of_canonical : ∀ j : Json, j.canonical = true → j.normalize = j
  | null, _ => by rw [normalize]
  | bool _, _ => by rw [normalize]
  | num _, _ => by rw [normalize]
  | str _, _ => by rw [normalize]
  | arr items, h => by
      rw [canonical] at h
      rw [normalize, normalizeItems_of_canonical items h]
  | obj members, h => by
      rw [canonical, Bool.and_eq_true, decide_eq_true_eq] at h
      rw [normalize, normalizeMembers_of_canonical members h.2, GoMap.insertAll_sorted _ _ h.1]
      rfl

theorem normalizeItems_of_canonical :
    ∀ xs : List Json, canonicalItems xs = true → normalizeItems xs = xs
  | [], _ => by rw [normalizeItems]
  | x :: xs, h => by
      rw [canonicalItems, Bool.and_eq_true] at h
      rw [normalizeItems, normalize_of_canonical x h.1, normalizeItems_of_canonical xs h.2]

theorem normalizeMembers_of_canonical :
    ∀ ms : List (String × Json), canonicalMembers ms = true → normalizeMembers ms = ms
  | [], _ => by rw [normalizeMembers]
  | (k, v) :: ms, h => by
      rw [canonicalMembers, Bool.and_eq_true] at h
      rw [normalizeMembers, normalize_of_canonical v h.1, normalizeMembers_of_canonical ms h.2]

end

/-- The digits of a positive number do not start with a zero. -/
theorem toDigits_head_ne_zero (n : Nat) (hn : 0 < n) (rest : List Char) :
    Nat.toDigits 10 n ≠ '0' :: rest := by
  induction n using Nat.strongRecOn generalizing rest with
  | ind n ih =>
      intro h
      rw [Nat.toDigits_eq_if (by decide)] at h
      split_ifs at h with hlt
      · interval_cases n <;> simp [Nat.digitChar] at h
      · cases hd : Nat.toDigits 10 (n / 10) with
        | nil => exact Nat.toDigits_ne_nil hd
        | cons c cs =>
            rw [hd] at h
            simp only [List.cons_append, List.cons.injEq] at h
            exact ih (n / 10) (by omega) (by omega) cs (by rw [hd, h.1])

theorem isUnsignedNumber_toDigits (n : Nat) : isUnsignedNumber (Nat.toDigits 10 n) = true := by
  rcases Nat.eq_zero_or_pos n with rfl | hn
  · decide
  · have hd := isDigits_toDigits n
    cases hcs : Nat.toDigits 10 n with
    | nil => exact absurd hcs Nat.toDigits_ne_nil
    | cons c cs =>
        rw [hcs] at hd
        have hall : c.isDigit = true ∧ ∀ d ∈ cs, d.isDigit = true := by simpa [isDigits] using hd
        have hc : c ≠ '0' := by
          rintro rfl
          exact toDigits_head_ne_zero n hn cs hcs
        have hdrop : cs.dropWhile Char.isDigit = [] := by
          rw [List.dropWhile_eq_nil_iff]
          exact hall.2
        unfold isUnsignedNumber
        split
        · rename_i heq
          exact absurd (List.cons.inj heq).1 hc
        · rename_i heq
          obtain ⟨rfl, rfl⟩ := List.cons.inj heq
          simp [hall.1, hdrop, isNumberTail]
        · rename_i heq
          cases heq

theorem canonical_int (n : Int) : (int n).canonical = true := by
  unfold int canonical intLiteral
  cases n with
  | ofNat n =>
      have hd := isDigits_toDigits n
      have hu := isUnsignedNumber_toDigits n
      simp only [String.toList_ofList]
      unfold isNumber
      split
      · rename_i heq
        rw [heq] at hd
        exact (isDigits_no_minus hd).elim
      · exact hu
  | negSucc n => simpa [isNumber] using isUnsignedNumber_toDigits (n + 1)

/-- The case folding of member names: ASCII letters, and the two letters outside ASCII that fold
    to ASCII ones. -/
def foldChar (c : Char) : Char :=
  if c.toNat = 0x212A then 'k' else if c.toNat = 0x17F then 's' else c.toLower

def foldName (name : String) : List Char := name.toList.map foldChar

/-- The member that is read into a field. -/
def member (name : String) (ms : List (String × Json)) : Option Json :=
  ((ms.filter fun m => foldName m.1 = foldName name).getLast?).map (·.2)

end Json

/-- Whether the value is `null`. -/
def Json.isNull : Json → Bool
  | .null => true
  | _ => false

/-- A value of type `any` other than nil. -/
structure AnyValue where
  json : Json
  canonical : json.canonical = true
  notNull : json.isNull = false

/-- How values of a type are written and read. -/
structure Codec (α : Type) where
  encode : α → Json
  decode : Json → Option α
  /-- The zero value. -/
  zero : α
  /-- What `omitempty` leaves out. -/
  isEmpty : α → Bool
  zero_of_isEmpty : ∀ a, isEmpty a = true → a = zero
  wellFormed : ∀ a, (encode a).wellFormed = true
  decode_encode : ∀ a, decode (encode a) = some a

namespace Codec

variable {α β γ : Type}

/-! ## Scalars -/

def string : Codec String where
  encode s := .str s
  decode
    | .str s => some s
    | .null => some ""
    | _ => none
  zero := ""
  isEmpty s := s = ""
  zero_of_isEmpty s h := by simpa using h
  wellFormed s := by simp [Json.wellFormed]
  decode_encode s := rfl

def bool : Codec Bool where
  encode b := .bool b
  decode
    | .bool b => some b
    | .null => some false
    | _ => none
  zero := false
  isEmpty b := !b
  zero_of_isEmpty b h := by simpa using h
  wellFormed b := by simp [Json.wellFormed]
  decode_encode b := rfl

/-- A Go `int`; a number out of its range, or with a fraction, is refused. -/
def int : Codec Int64 where
  encode n := Json.int n.toInt
  decode
    | .num literal => do
      let n ← Json.intOfLiteral literal
      if n = (Int64.ofInt n).toInt then some (Int64.ofInt n) else none
    | .null => some 0
    | _ => none
  zero := 0
  isEmpty n := n = 0
  zero_of_isEmpty n h := by simpa using h
  wellFormed n := Json.wellFormed_of_canonical _ (Json.canonical_int n.toInt)
  decode_encode n := by simp [Json.int, Json.intOfLiteral_intLiteral]

/-- The value that an `any` holds after reading. Its numbers keep their literals, also those that are
    beyond a `float64`, which Go refuses. -/
def readAny (j : Json) : Option (Option AnyValue) :=
  if hnull : j.normalize.isNull = false then
    if h : j.normalize.canonical = true then some (some ⟨j.normalize, h, hnull⟩) else none
  else some none

/-- An `any`. -/
def any : Codec (Option AnyValue) where
  encode
    | some v => v.json
    | none => .null
  decode := readAny
  zero := none
  isEmpty v := v.isNone
  zero_of_isEmpty v h := by simpa using h
  wellFormed
    | some v => Json.wellFormed_of_canonical _ v.canonical
    | none => by simp [Json.wellFormed]
  decode_encode
    | some v => by
        have hn := Json.normalize_of_canonical _ v.canonical
        simp [readAny, hn, v.canonical, v.notNull]
    | none => by simp [readAny, Json.normalize, Json.isNull]

/-! ## Pointers, slices and maps -/

/-- A pointer to a value that is not itself printed as `null`. -/
def pointer (c : Codec α) (hnull : ∀ a, (c.encode a).isNull = false) : Codec (Option α) where
  encode
    | some a => c.encode a
    | none => .null
  decode j := if j.isNull then some none else (c.decode j).map some
  zero := none
  isEmpty a := a.isNone
  zero_of_isEmpty a h := by simpa using h
  wellFormed
    | some a => c.wellFormed a
    | none => by simp [Json.wellFormed]
  decode_encode
    | some a => by simp [hnull a, c.decode_encode a]
    | none => by simp [Json.isNull]

theorem isNull_bool (b : Bool) : (bool.encode b).isNull = false := rfl

theorem isNull_int (n : Int64) : (int.encode n).isNull = false := rfl

theorem wellFormedItems_map (c : Codec α) (xs : List α) :
    Json.wellFormedItems (xs.map c.encode) = true := by
  rw [Json.wellFormedItems_iff]
  simp [c.wellFormed]

theorem mapM_decode_encode (c : Codec α) (xs : List α) :
    (xs.map c.encode).mapM c.decode = some xs := by
  induction xs with
  | nil => rfl
  | cons x xs ih => simp [c.decode_encode x, ih]

/-- A slice. Nil and empty slices are the same where nothing tells them apart. -/
def slice (c : Codec α) : Codec (List α) where
  encode xs := .arr (xs.map c.encode)
  decode
    | .arr items => items.mapM c.decode
    | .null => some []
    | _ => none
  zero := []
  isEmpty xs := xs.isEmpty
  zero_of_isEmpty xs h := by simpa using h
  wellFormed xs := by
    rw [Json.wellFormed]
    exact wellFormedItems_map c xs
  decode_encode xs := mapM_decode_encode c xs

/-- A slice that is printed as `null` when it is nil. -/
def nilSlice (c : Codec α) : Codec (Option (List α)) := pointer (slice c) fun _ => rfl

theorem wellFormedMembers_map (c : Codec α) (xs : List (String × α)) :
    Json.wellFormedMembers (xs.map fun x => (x.1, c.encode x.2)) = true := by
  rw [Json.wellFormedMembers_iff]
  intro m hm
  obtain ⟨x, _, rfl⟩ := List.mem_map.1 hm
  exact c.wellFormed x.2

/-- Reading the values of an object's members. -/
def decodeMembers (c : Codec α) (ms : List (String × Json)) : Option (List (String × α)) :=
  ms.mapM fun m => (c.decode m.2).map fun v => (m.1, v)

theorem decodeMembers_encode (c : Codec α) (xs : List (String × α)) :
    decodeMembers c (xs.map fun x => (x.1, c.encode x.2)) = some xs := by
  unfold decodeMembers
  induction xs with
  | nil => rfl
  | cons x xs ih => simp [c.decode_encode x.2, ih]

/-- A map with string keys. -/
def map (c : Codec α) : Codec (GoMap α) where
  encode m := .obj (m.entries.map fun x => (x.1, c.encode x.2))
  decode
    | .obj ms => (decodeMembers c ms).map GoMap.ofList
    | .null => some GoMap.empty
    | _ => none
  zero := GoMap.empty
  isEmpty m := m.entries.isEmpty
  zero_of_isEmpty m h := GoMap.ext_entries (by simpa [GoMap.empty] using h)
  wellFormed m := by
    rw [Json.wellFormed]
    exact wellFormedMembers_map c m.entries
  decode_encode m := by simp [decodeMembers_encode, GoMap.ofList_entries]

/-! ## Structs -/

/-- The printed value of a field, absent when it is omitted. -/
def field (c : Codec α) (omitempty : Bool) (a : α) : Option Json :=
  if omitempty && c.isEmpty a then none else some (c.encode a)

/-- The members of a struct. -/
def present (fields : List (String × Option Json)) : List (String × Json) :=
  fields.filterMap fun f => f.2.map fun j => (f.1, j)

/-- Reading a field: the zero value when there is no member for it. -/
def readField (c : Codec α) (name : String) (ms : List (String × Json)) : Option α :=
  match Json.member name ms with
  | none => some c.zero
  | some j => c.decode j

theorem filter_present_of_notMem {name : String} {fields : List (String × Option Json)}
    (h : Json.foldName name ∉ fields.map fun f => Json.foldName f.1) :
    (present fields).filter (fun m => Json.foldName m.1 = Json.foldName name) = [] := by
  rw [List.filter_eq_nil_iff]
  intro m hm hname
  obtain ⟨f, hf, hfm⟩ := List.mem_filterMap.1 hm
  obtain ⟨j, -, rfl⟩ := Option.map_eq_some_iff.1 hfm
  exact h (List.mem_map.2 ⟨f, hf, by simpa using hname⟩)

/-- With names that differ up to case, a field's member is its own. -/
theorem member_present {name : String} {value : Option Json}
    {fields : List (String × Option Json)}
    (hnames : (fields.map fun f => Json.foldName f.1).Nodup) (hmem : (name, value) ∈ fields) :
    Json.member name (present fields) = value := by
  unfold Json.member
  suffices h : (present fields).filter (fun m => Json.foldName m.1 = Json.foldName name)
      = (value.map fun j => (name, j)).toList by
    rw [h]
    cases value <;> rfl
  induction fields with
  | nil => cases hmem
  | cons f fields ih =>
      rw [List.map_cons, List.nodup_cons] at hnames
      rcases List.mem_cons.1 hmem with rfl | hrest
      · have hnone := filter_present_of_notMem hnames.1
        cases value with
        | none => simpa [present] using hnone
        | some j => simpa [present] using hnone
      · have hne : Json.foldName f.1 ≠ Json.foldName name := fun heq =>
          hnames.1 (heq ▸ List.mem_map.2 ⟨(name, value), hrest, rfl⟩)
        have := ih hnames.2 hrest
        cases hf : f.2 with
        | none => simpa [present, hf] using this
        | some j => simpa [present, hf, hne] using this

theorem readField_of_member (c : Codec α) {name : String} {omitempty : Bool} {a : α}
    {ms : List (String × Json)} (h : Json.member name ms = c.field omitempty a) :
    c.readField name ms = some a := by
  unfold readField
  rw [h]
  unfold field
  split_ifs with homit
  · rw [Bool.and_eq_true] at homit
    rw [c.zero_of_isEmpty a homit.2]
  · exact c.decode_encode a

/-- The fields of a struct `α`, read into the tuple `β` of their values. -/
structure Fields (α β : Type) where
  encode : α → List (String × Option Json)
  decode : List (String × Json) → Option β
  values : α → β
  names : List String
  names_eq : ∀ a, (encode a).map (·.1) = names
  wellFormed : ∀ a, Json.wellFormedMembers (present (encode a)) = true
  decode_of_members : ∀ a ms, (∀ f ∈ encode a, Json.member f.1 ms = f.2) →
    decode ms = some (values a)

namespace Fields

def nil : Fields α Unit where
  encode _ := []
  decode _ := some ()
  values _ := ()
  names := []
  names_eq _ := rfl
  wellFormed _ := rfl
  decode_of_members _ _ _ := rfl

/-- One more field: its name, its `omitempty` mark, its codec and its selector. -/
def cons (name : String) (omitempty : Bool) (c : Codec γ) (get : α → γ) (rest : Fields α β) :
    Fields α (γ × β) where
  encode a := (name, c.field omitempty (get a)) :: rest.encode a
  decode ms := do
    let v ← c.readField name ms
    let vs ← rest.decode ms
    some (v, vs)
  values a := (get a, rest.values a)
  names := name :: rest.names
  names_eq a := by simp [rest.names_eq a]
  wellFormed a := by
    have hrest := rest.wellFormed a
    unfold field present
    split_ifs with homit
    · simpa [present] using hrest
    · simpa [present, Json.wellFormedMembers, c.wellFormed] using hrest
  decode_of_members a ms h := by
    have hfirst := readField_of_member c (h (name, c.field omitempty (get a)) (by simp))
    have hrest := rest.decode_of_members a ms fun f hf => h f (List.mem_cons_of_mem _ hf)
    simp [hfirst, hrest]

end Fields

/-- The codec of a struct. `zero` is its zero value, `make` builds it from the values of its
    fields. -/
def struct (fields : Fields α β) (zero : α) (make : β → α)
    (hmake : ∀ a, make (fields.values a) = a)
    (hnames : (fields.names.map Json.foldName).Nodup) : Codec α where
  encode a := .obj (present (fields.encode a))
  decode
    | .obj ms => (fields.decode ms).map make
    | .null => some zero
    | _ => none
  zero := zero
  isEmpty _ := false
  zero_of_isEmpty _ h := by cases h
  wellFormed a := by
    rw [Json.wellFormed]
    exact fields.wellFormed a
  decode_encode a := by
    have hnodup : ((fields.encode a).map fun f => Json.foldName f.1).Nodup := by
      have hfold : ((fields.encode a).map fun f => Json.foldName f.1)
          = ((fields.encode a).map (·.1)).map Json.foldName := by rw [List.map_map]; rfl
      rw [hfold, fields.names_eq a]
      exact hnames
    have hread := fields.decode_of_members a (present (fields.encode a)) fun f hf =>
      member_present hnodup hf
    simp [hread, hmake]

/-! ## Texts -/

/-- `json.Marshal`. -/
def marshal (c : Codec α) (a : α) : String := Json.marshal (c.encode a)

/-- `json.Unmarshal`. -/
def unmarshal (c : Codec α) (text : String) : Option α := Json.parse text >>= c.decode

/-- **What was marshalled unmarshals to itself.** -/
theorem unmarshal_marshal (c : Codec α) (a : α) : c.unmarshal (c.marshal a) = some a := by
  simp [unmarshal, marshal, Json.parse_marshal _ (c.wellFormed a), c.decode_encode a]

theorem marshal_injective (c : Codec α) {a b : α} (h : c.marshal a = c.marshal b) : a = b := by
  have ha := c.unmarshal_marshal a
  rw [h, c.unmarshal_marshal b] at ha
  exact (Option.some.inj ha).symm

end Codec

/-! ## Building values of type `any` -/

namespace AnyValue

def str (s : String) : AnyValue := ⟨.str s, by simp [Json.canonical], rfl⟩

def bool (b : Bool) : AnyValue := ⟨.bool b, by simp [Json.canonical], rfl⟩

def int (n : Int64) : AnyValue := ⟨Json.int n.toInt, Json.canonical_int _, rfl⟩

theorem canonical_encode (v : Option AnyValue) : (Codec.any.encode v).canonical = true := by
  cases v with
  | none => simp [Codec.any, Json.canonical]
  | some v => exact v.canonical

theorem canonicalMembers_map {α : Type} (f : α → Json) (hf : ∀ a, (f a).canonical = true)
    (xs : List (String × α)) :
    Json.canonicalMembers (xs.map fun x => (x.1, f x.2)) = true := by
  induction xs with
  | nil => simp [Json.canonicalMembers]
  | cons x xs ih => simp [Json.canonicalMembers, hf x.2, ih]

/-- The object of a map. -/
def object {α : Type} (m : GoMap α) (f : α → Json) (hf : ∀ a, (f a).canonical = true) :
    AnyValue :=
  ⟨.obj (m.mapValues f).entries, by
    rw [Json.canonical, Bool.and_eq_true, decide_eq_true_eq]
    exact ⟨(m.mapValues f).sorted, canonicalMembers_map f hf m.entries⟩, rfl⟩

/-- A `map[string]string`. -/
def ofStrings (m : GoMap String) : AnyValue := object m Json.str fun _ => by simp [Json.canonical]

/-- A `map[string]any`; a nil map is printed as `null`. -/
def ofDocument (m : GoMap (Option AnyValue)) : Option AnyValue :=
  if m.entries.isEmpty then none else some (object m Codec.any.encode canonical_encode)

theorem canonical_document (m : Option (GoMap (Option AnyValue))) :
    ((Codec.pointer (Codec.map Codec.any) fun _ => rfl).encode m).canonical = true := by
  cases m with
  | none => simp [Codec.pointer, Json.canonical]
  | some m => exact (object m Codec.any.encode canonical_encode).canonical

theorem canonicalItems_documents (xs : List (Option (GoMap (Option AnyValue)))) :
    Json.canonicalItems (xs.map (Codec.pointer (Codec.map Codec.any) fun _ => rfl).encode)
      = true := by
  induction xs with
  | nil => simp [Json.canonicalItems]
  | cons x xs ih => simp [Json.canonicalItems, canonical_document x, ih]

/-- A `[]map[string]any`; a nil slice is printed as `null`. -/
def ofDocuments (xs : List (Option (GoMap (Option AnyValue)))) : Option AnyValue :=
  if xs.isEmpty then none
  else
    some ⟨.arr (xs.map (Codec.pointer (Codec.map Codec.any) fun _ => rfl).encode), by
      rw [Json.canonical]
      exact canonicalItems_documents xs, rfl⟩

end AnyValue
