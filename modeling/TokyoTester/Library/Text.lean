import Mathlib.Tactic
import Mathlib.Data.List.DropRight
import Mathlib.Data.List.TakeWhile

set_option autoImplicit false

/-! # Text functions of Go's standard library

`strings`, `strconv` and the one regular expression the runner uses, over Lean's strings (Go's
texts are UTF-8 here: everything comes out of JSON). -/

namespace Text

/-! ## Characters -/

/-- `unicode.IsSpace`. -/
def isSpace (c : Char) : Bool :=
  let n := c.toNat
  (9 ≤ n && n ≤ 13) || n = 0x20 || n = 0x85 || n = 0xA0 || n = 0x1680 ||
    (0x2000 ≤ n && n ≤ 0x200A) || n = 0x2028 || n = 0x2029 || n = 0x202F || n = 0x205F || n = 0x3000

/-- The upper-case letters outside ASCII: first and last code of a range, its stride, and the
    distance to the lower-case letters. -/
def lowerRanges : List (Nat × Nat × Nat × Int) := [
    (192, 214, 1, 32), (216, 222, 1, 32), (256, 302, 2, 1), (304, 304, 1, -199), (306, 310, 2, 1),
    (313, 327, 2, 1), (330, 374, 2, 1), (376, 376, 1, -121), (377, 381, 2, 1), (385, 385, 1, 210),
    (386, 388, 2, 1), (390, 390, 1, 206), (391, 391, 1, 1), (393, 394, 1, 205), (395, 395, 1, 1),
    (398, 398, 1, 79), (399, 399, 1, 202), (400, 400, 1, 203), (401, 401, 1, 1),
    (403, 403, 1, 205), (404, 404, 1, 207), (406, 406, 1, 211), (407, 407, 1, 209),
    (408, 408, 1, 1), (412, 412, 1, 211), (413, 413, 1, 213), (415, 415, 1, 214),
    (416, 420, 2, 1), (422, 422, 1, 218), (423, 423, 1, 1), (425, 425, 1, 218), (428, 428, 1, 1),
    (430, 430, 1, 218), (431, 431, 1, 1), (433, 434, 1, 217), (435, 437, 2, 1),
    (439, 439, 1, 219), (440, 440, 1, 1), (444, 444, 1, 1), (452, 452, 1, 2), (453, 453, 1, 1),
    (455, 455, 1, 2), (456, 456, 1, 1), (458, 458, 1, 2), (459, 475, 2, 1), (478, 494, 2, 1),
    (497, 497, 1, 2), (498, 500, 2, 1), (502, 502, 1, -97), (503, 503, 1, -56), (504, 542, 2, 1),
    (544, 544, 1, -130), (546, 562, 2, 1), (570, 570, 1, 10795), (571, 571, 1, 1),
    (573, 573, 1, -163), (574, 574, 1, 10792), (577, 577, 1, 1), (579, 579, 1, -195),
    (580, 580, 1, 69), (581, 581, 1, 71), (582, 590, 2, 1), (880, 882, 2, 1), (886, 886, 1, 1),
    (895, 895, 1, 116), (902, 902, 1, 38), (904, 906, 1, 37), (908, 908, 1, 64),
    (910, 911, 1, 63), (913, 929, 1, 32), (931, 939, 1, 32), (975, 975, 1, 8), (984, 1006, 2, 1),
    (1012, 1012, 1, -60), (1015, 1015, 1, 1), (1017, 1017, 1, -7), (1018, 1018, 1, 1),
    (1021, 1023, 1, -130), (1024, 1039, 1, 80), (1040, 1071, 1, 32), (1120, 1152, 2, 1),
    (1162, 1214, 2, 1), (1216, 1216, 1, 15), (1217, 1229, 2, 1), (1232, 1326, 2, 1),
    (1329, 1366, 1, 48), (4256, 4293, 1, 7264), (4295, 4295, 1, 7264), (4301, 4301, 1, 7264),
    (5024, 5103, 1, 38864), (5104, 5109, 1, 8), (7312, 7354, 1, -3008), (7357, 7359, 1, -3008),
    (7680, 7828, 2, 1), (7838, 7838, 1, -7615), (7840, 7934, 2, 1), (7944, 7951, 1, -8),
    (7960, 7965, 1, -8), (7976, 7983, 1, -8), (7992, 7999, 1, -8), (8008, 8013, 1, -8),
    (8025, 8031, 2, -8), (8040, 8047, 1, -8), (8072, 8079, 1, -8), (8088, 8095, 1, -8),
    (8104, 8111, 1, -8), (8120, 8121, 1, -8), (8122, 8123, 1, -74), (8124, 8124, 1, -9),
    (8136, 8139, 1, -86), (8140, 8140, 1, -9), (8152, 8153, 1, -8), (8154, 8155, 1, -100),
    (8168, 8169, 1, -8), (8170, 8171, 1, -112), (8172, 8172, 1, -7), (8184, 8185, 1, -128),
    (8186, 8187, 1, -126), (8188, 8188, 1, -9), (8486, 8486, 1, -7517), (8490, 8490, 1, -8383),
    (8491, 8491, 1, -8262), (8498, 8498, 1, 28), (8544, 8559, 1, 16), (8579, 8579, 1, 1),
    (9398, 9423, 1, 26), (11264, 11311, 1, 48), (11360, 11360, 1, 1), (11362, 11362, 1, -10743),
    (11363, 11363, 1, -3814), (11364, 11364, 1, -10727), (11367, 11371, 2, 1),
    (11373, 11373, 1, -10780), (11374, 11374, 1, -10749), (11375, 11375, 1, -10783),
    (11376, 11376, 1, -10782), (11378, 11378, 1, 1), (11381, 11381, 1, 1),
    (11390, 11391, 1, -10815), (11392, 11490, 2, 1), (11499, 11501, 2, 1), (11506, 11506, 1, 1),
    (42560, 42604, 2, 1), (42624, 42650, 2, 1), (42786, 42798, 2, 1), (42802, 42862, 2, 1),
    (42873, 42875, 2, 1), (42877, 42877, 1, -35332), (42878, 42886, 2, 1), (42891, 42891, 1, 1),
    (42893, 42893, 1, -42280), (42896, 42898, 2, 1), (42902, 42920, 2, 1),
    (42922, 42922, 1, -42308), (42923, 42923, 1, -42319), (42924, 42924, 1, -42315),
    (42925, 42925, 1, -42305), (42926, 42926, 1, -42308), (42928, 42928, 1, -42258),
    (42929, 42929, 1, -42282), (42930, 42930, 1, -42261), (42931, 42931, 1, 928),
    (42932, 42946, 2, 1), (42948, 42948, 1, -48), (42949, 42949, 1, -42307),
    (42950, 42950, 1, -35384), (42951, 42953, 2, 1), (42960, 42960, 1, 1), (42966, 42968, 2, 1),
    (42997, 42997, 1, 1), (65313, 65338, 1, 32), (66560, 66599, 1, 40), (66736, 66771, 1, 40),
    (66928, 66938, 1, 39), (66940, 66954, 1, 39), (66956, 66962, 1, 39), (66964, 66965, 1, 39),
    (68736, 68786, 1, 64), (71840, 71871, 1, 32), (93760, 93791, 1, 32), (125184, 125217, 1, 34)]

/-- `unicode.ToLower`. -/
def lowerChar (c : Char) : Char :=
  if c.toNat < 128 then c.toLower
  else
    match lowerRanges.find? fun r =>
        r.1 ≤ c.toNat && c.toNat ≤ r.2.1 && (c.toNat - r.1) % r.2.2.1 = 0 with
    | some r => Char.ofNat ((c.toNat : Int) + r.2.2.2).toNat
    | none => c

theorem ofNat_eq_slash {n : Nat} (h : Char.ofNat n = '/') : n = 47 := by
  by_cases hvalid : n.isValidChar
  · have hcode : (Char.ofNat n).toNat = n := by
      rw [Char.ofNat, dif_pos hvalid]
      rfl
    rw [h] at hcode
    exact hcode.symm
  · rw [Char.ofNat, dif_neg hvalid] at h
    exact absurd (congrArg Char.toNat h) (by decide)

/-- Only a slash becomes a slash. -/
theorem lowerChar_eq_slash {c : Char} (h : lowerChar c = '/') : c = '/' := by
  unfold lowerChar at h
  split_ifs at h with hascii
  · have hall : ∀ n : Fin 128, (Char.ofNat n).toLower = '/' → Char.ofNat n = '/' := by
      decide +kernel
    have hchar := hall ⟨c.toNat, hascii⟩
    rw [Char.ofNat_toNat] at hchar
    exact hchar h
  · have hranges : ∀ r ∈ lowerRanges, (48 : Int) ≤ r.1 + r.2.2.2 := by decide +kernel
    split at h
    next r hfind =>
      have hlow := hranges r (List.mem_of_find?_eq_some hfind)
      have hcode := ofNat_eq_slash h
      have hin := List.find?_some hfind
      simp only [Bool.and_eq_true, decide_eq_true_eq] at hin
      omega
    next => exact h

/-! ## `strings` -/

/-- `strings.ToLower`. -/
def toLower (s : String) : String := String.ofList (s.toList.map lowerChar)

/-- `unicode.ToUpper` as far as the result is ASCII. -/
def upperChar (c : Char) : Char :=
  if c.toNat = 0x131 then 'I' else if c.toNat = 0x17F then 'S' else c.toUpper

/-- `strings.ToUpper`, for a comparison with texts in ASCII. -/
def toUpper (s : String) : String := String.ofList (s.toList.map upperChar)

/-- `strings.TrimFunc`. -/
def trim (p : Char → Bool) (cs : List Char) : List Char :=
  ((cs.dropWhile p).reverse.dropWhile p).reverse

/-- `strings.TrimSpace`. -/
def trimSpace (s : String) : String := String.ofList (trim isSpace s.toList)

/-- `strings.TrimSpace(s) == ""`. -/
def blank (s : String) : Bool := s.toList.all isSpace

/-- `strings.HasPrefix`. -/
def hasPrefix (s pre : String) : Bool := pre.toList.isPrefixOf s.toList

/-- `strings.Contains`. -/
def contains (s sub : String) : Bool := s.toList.tails.any fun t => sub.toList.isPrefixOf t

/-- What stands before a separator. -/
def cutAux (sep : List Char) : List Char → Option (List Char)
  | [] => if sep.isEmpty then some [] else none
  | c :: cs => if sep.isPrefixOf (c :: cs) then some [] else (cutAux sep cs).map (c :: ·)

/-- `strings.Cut`: the text before the separator, when it occurs. -/
def cut (s sep : String) : Option String := (cutAux sep.toList s.toList).map String.ofList

/-- `strings.TrimSuffix`. -/
def trimSuffix (s suffix : String) : String :=
  if suffix.toList.isSuffixOf s.toList then
    String.ofList (s.toList.take (s.toList.length - suffix.toList.length))
  else s

/-- `strings.Split` at a character. -/
def splitAt (sep : Char) : List Char → List (List Char)
  | [] => [[]]
  | c :: cs =>
    match splitAt sep cs with
    | [] => []
    | piece :: pieces => if c = sep then [] :: piece :: pieces else (c :: piece) :: pieces

/-- `strings.Join`. -/
def join (sep : String) (parts : List String) : String := sep.intercalate parts

/-! ## `strconv` and `fmt` -/

/-- `strconv.Atoi`: a sign of either kind, decimal digits, a value of 64 bits. -/
def atoi (s : String) : Option Int :=
  let digits (cs : List Char) : Option Int :=
    if cs.isEmpty || !cs.all Char.isDigit then none else some (Nat.ofDigitChars 10 cs 0 : Int)
  let value := match s.toList with
    | '-' :: cs => (digits cs).map fun n => -n
    | '+' :: cs => digits cs
    | cs => digits cs
  value.filter fun n => -2 ^ 63 ≤ n && n < 2 ^ 63

/-- One character of a quoted text; characters outside ASCII are taken to be printable. -/
def quoteChar (c : Char) : List Char :=
  let hex (d : Nat) : Char := if d < 10 then Char.ofNat (48 + d) else Char.ofNat (87 + d)
  if c = '"' then ['\\', '"']
  else if c = '\\' then ['\\', '\\']
  else if c.toNat = 7 then ['\\', 'a']
  else if c.toNat = 8 then ['\\', 'b']
  else if c.toNat = 12 then ['\\', 'f']
  else if c = '\n' then ['\\', 'n']
  else if c = '\r' then ['\\', 'r']
  else if c = '\t' then ['\\', 't']
  else if c.toNat = 11 then ['\\', 'v']
  else if c.toNat < 32 || c.toNat = 127 then ['\\', 'x', hex (c.toNat / 16), hex (c.toNat % 16)]
  else [c]

/-- The verb `%q`. -/
def quote (s : String) : String :=
  String.ofList ('"' :: (s.toList.flatMap quoteChar ++ ['"']))

/-- The verb `%d`. -/
def decimal (n : Int) : String := toString n

/-- `strings.ToValidUTF8` of the first bytes of a text: the characters that fit, and a
    replacement character for the one that is cut. -/
def takeBytesAux : Nat → List Char → List Char
  | _, [] => []
  | n, c :: cs =>
    if c.utf8Size ≤ n then c :: takeBytesAux (n - c.utf8Size) cs
    else if n = 0 then [] else ['\uFFFD']

def takeBytes (n : Nat) (s : String) : String := String.ofList (takeBytesAux n s.toList)

/-! ## Instants -/

/-- The year, month and day of a day counted from 1970-01-01. -/
def civil (days : Int) : Int × Int × Int :=
  let z := days + 719468
  let era := z / 146097
  let doe := z - era * 146097
  let yoe := (doe - doe / 1460 + doe / 36524 - doe / 146096) / 365
  let doy := doe - (365 * yoe + yoe / 4 - yoe / 100)
  let mp := (5 * doy + 2) / 153
  let month := if mp < 10 then mp + 3 else mp - 9
  (yoe + era * 400 + (if month ≤ 2 then 1 else 0), month, doy - (153 * mp + 2) / 5 + 1)

/-- A number with leading zeros. -/
def padded (width : Nat) (n : Int) : String :=
  let digits := decimal n
  String.ofList (List.replicate (width - digits.length) '0') ++ digits

/-- An instant in milliseconds in the format `time.RFC3339Nano`. -/
def rfc3339Nano (t : Int) : String :=
  let (year, month, day) := civil (t / 86400000)
  let ms := t % 86400000
  let fraction := (((padded 3 (ms % 1000)).toList.reverse.dropWhile (· = '0')).reverse)
  padded 4 year ++ "-" ++ padded 2 month ++ "-" ++ padded 2 day ++ "T" ++
    padded 2 (ms / 3600000) ++ ":" ++ padded 2 (ms / 60000 % 60) ++ ":" ++
    padded 2 (ms / 1000 % 60) ++
    (if fraction.isEmpty then "" else "." ++ String.ofList fraction) ++ "Z"

/-- An instant in milliseconds in the format `time.RFC3339`. -/
def rfc3339 (t : Int) : String :=
  let (year, month, day) := civil (t / 86400000)
  let seconds := t % 86400000 / 1000
  padded 4 year ++ "-" ++ padded 2 month ++ "-" ++ padded 2 day ++ "T" ++
    padded 2 (seconds / 3600) ++ ":" ++ padded 2 (seconds / 60 % 60) ++ ":" ++
    padded 2 (seconds % 60) ++ "Z"

example : rfc3339 951868799120 = "2000-02-29T23:59:59Z" := by decide +kernel

example : rfc3339Nano 951868799120 = "2000-02-29T23:59:59.12Z" := by decide +kernel

/-! ## References

The regular expression `\$\{([^}]+)\}`. -/

/-- A reference at the head of a text: what stands between its braces, and what follows it. -/
def matchReference : List Char → Option (List Char × List Char)
  | '$' :: '\x7b' :: rest =>
    match rest.takeWhile (· ≠ '\x7d'), rest.dropWhile (· ≠ '\x7d') with
    | [], _ => none
    | _, [] => none
    | body, _ :: tail => some (body, tail)
  | _ => none

/-- `FindAllStringSubmatch`: the bodies of the references, from left to right. -/
def references : Nat → List Char → List (List Char)
  | 0, _ => []
  | _, [] => []
  | fuel + 1, c :: cs =>
    match matchReference (c :: cs) with
    | some (body, tail) => body :: references fuel tail
    | none => references fuel cs

/-- `ReplaceAllStringFunc`: every reference replaced according to its body. -/
def replaceReferences (f : List Char → List Char) : Nat → List Char → List Char
  | 0, cs => cs
  | _, [] => []
  | fuel + 1, c :: cs =>
    match matchReference (c :: cs) with
    | some (body, tail) => f body ++ replaceReferences f fuel tail
    | none => c :: replaceReferences f fuel cs

/-- What a reference at the head of a text is. -/
theorem matchReference_eq_some {cs body tail : List Char} :
    matchReference cs = some (body, tail) ↔
      body ≠ [] ∧ '\x7d' ∉ body ∧ cs = '$' :: '\x7b' :: (body ++ '\x7d' :: tail) := by
  constructor
  · intro h
    unfold matchReference at h
    split at h
    · rename_i rest
      split at h
      · simp at h
      · simp at h
      · rename_i c tail' htail hbody
        obtain ⟨rfl, rfl⟩ : rest.takeWhile (· ≠ '\x7d') = body ∧ tail' = tail := by simpa using h
        -- what ends the body is the closing brace
        have hc : c = '\x7d' := by
          have := List.head?_dropWhile_not (fun c => decide (c ≠ '\x7d')) rest
          rw [htail] at this
          simpa using this
        refine ⟨hbody, fun hmem => ?_, ?_⟩
        · simpa using List.mem_takeWhile_imp hmem
        · rw [hc] at htail
          rw [← htail, List.takeWhile_append_dropWhile]
    · simp at h
  · rintro ⟨hbody, hmem, rfl⟩
    have hall : ∀ c ∈ body, decide (c ≠ '\x7d') = true := fun c hc => by
      simpa using fun h : c = '\x7d' => hmem (h ▸ hc)
    simp only [matchReference, List.takeWhile_append_of_pos hall, List.dropWhile_append_of_pos hall]
    cases body with
    | nil => exact absurd rfl hbody
    | cons c body => simp

theorem matchReference_eq_none_of_not_mem {cs : List Char} (h : '\x7d' ∉ cs) :
    matchReference cs = none := by
  by_contra hsome
  obtain ⟨⟨body, tail⟩, hsome⟩ := Option.ne_none_iff_exists'.1 hsome
  obtain ⟨-, -, rfl⟩ := matchReference_eq_some.1 hsome
  simp at h

section Replace

variable {f g : List Char → List Char}

/-- A text without a closing brace stays as it is. -/
theorem replaceReferences_of_not_mem :
    ∀ (fuel : Nat) {cs : List Char}, '\x7d' ∉ cs → replaceReferences f fuel cs = cs := by
  intro fuel
  induction fuel with
  | zero => exact fun _ => rfl
  | succ fuel ih =>
      intro cs h
      cases cs with
      | nil => rfl
      | cons c cs =>
          simp only [replaceReferences, matchReference_eq_none_of_not_mem h]
          rw [ih fun hmem => h (by simp [hmem])]

/-- What is replaced by itself stays as it is. -/
theorem replaceReferences_eq_self : ∀ (fuel : Nat) {cs : List Char},
    (∀ body ∈ references fuel cs, f body = '$' :: '\x7b' :: (body ++ ['\x7d'])) →
      replaceReferences f fuel cs = cs := by
  intro fuel
  induction fuel with
  | zero => exact fun _ => rfl
  | succ fuel ih =>
      intro cs h
      cases cs with
      | nil => rfl
      | cons c cs =>
          cases hmatch : matchReference (c :: cs) with
          | none =>
              simp only [references, hmatch] at h
              simp only [replaceReferences, hmatch, ih h]
          | some found =>
              obtain ⟨body, tail⟩ := found
              simp only [references, hmatch, List.forall_mem_cons] at h
              simp only [replaceReferences, hmatch, ih h.2, h.1]
              rw [(matchReference_eq_some.1 hmatch).2.2]
              simp

/-- A replacement is a reference again, with a body of its own. -/
def Rewrites (f g : List Char → List Char) : Prop :=
  ∀ body, body ≠ [] → '\x7d' ∉ body →
    g body ≠ [] ∧ '\x7d' ∉ g body ∧ f body = '$' :: '\x7b' :: (g body ++ ['\x7d'])

/-- What is replaced begins as it did: with the same character, or with a reference. -/
theorem head?_replaceReferences (hf : Rewrites f g) (fuel : Nat) (cs : List Char) :
    (replaceReferences f fuel cs).head? = cs.head? := by
  cases fuel with
  | zero => rfl
  | succ fuel =>
      cases cs with
      | nil => rfl
      | cons c cs =>
          cases hmatch : matchReference (c :: cs) with
          | none => simp [replaceReferences, hmatch]
          | some found =>
              obtain ⟨body, tail⟩ := found
              obtain ⟨hbody, hmem, hcs⟩ := matchReference_eq_some.1 hmatch
              obtain ⟨-, -, hreplaced⟩ := hf body hbody hmem
              obtain ⟨rfl, -⟩ : c = '$' ∧ _ := by simpa using hcs
              simp [replaceReferences, hmatch, hreplaced]

/-- Where no reference begins, none begins after the replacement of the rest. -/
theorem matchReference_replaceReferences (hf : Rewrites f g) {fuel : Nat} {c : Char}
    {cs : List Char} (h : matchReference (c :: cs) = none) :
    matchReference (c :: replaceReferences f fuel cs) = none := by
  by_contra hsome
  obtain ⟨⟨body, tail⟩, hsome⟩ := Option.ne_none_iff_exists'.1 hsome
  obtain ⟨hbody, hmem, hcs⟩ := matchReference_eq_some.1 hsome
  obtain ⟨rfl, hrest⟩ : c = '$' ∧ replaceReferences f fuel cs = '\x7b' :: (body ++ '\x7d' :: tail) := by
    simpa using hcs
  have hhead := head?_replaceReferences hf fuel cs
  rw [hrest] at hhead
  -- the opening brace stood there before
  obtain ⟨cs, rfl⟩ : ∃ cs', cs = '\x7b' :: cs' := by
    cases cs with
    | nil => simp at hhead
    | cons d cs' => exact ⟨cs', by simpa using hhead.symm⟩
  by_cases hclosed : '\x7d' ∈ cs
  · -- a body and its end stood there too, unless the end followed at once
    obtain ⟨body', tail', rfl, hbody'⟩ := List.eq_append_cons_of_mem hclosed
    by_cases hempty : body' = []
    · have hnext : (replaceReferences f fuel ('\x7b' :: (body' ++ '\x7d' :: tail'))).tail.head?
          = some '\x7d' := by
        cases fuel with
        | zero => simp [replaceReferences, hempty]
        | succ fuel =>
            simp [replaceReferences, matchReference, head?_replaceReferences hf, hempty]
      rw [hrest] at hnext
      cases body with
      | nil => exact hbody rfl
      | cons d body => simp_all
    · rw [matchReference_eq_some.2 ⟨hempty, hbody', rfl⟩] at h
      simp at h
  · rw [replaceReferences_of_not_mem fuel (by simpa using hclosed)] at hrest
    simp_all

/-- **The references of a text with its references replaced** are the new bodies, in order. -/
theorem references_replaceReferences (hf : Rewrites f g) :
    ∀ (fuel : Nat) (cs : List Char), cs.length ≤ fuel →
      ∀ fuel', (replaceReferences f fuel cs).length ≤ fuel' →
        references fuel' (replaceReferences f fuel cs) = (references fuel cs).map g := by
  intro fuel
  induction fuel with
  | zero =>
      intro cs hcs fuel' _
      obtain rfl : cs = [] := List.length_eq_zero_iff.1 (by omega)
      cases fuel' <;> rfl
  | succ fuel ih =>
      intro cs hcs fuel' hfuel'
      cases cs with
      | nil => cases fuel' <;> rfl
      | cons c cs =>
          cases hmatch : matchReference (c :: cs) with
          | none =>
              simp only [replaceReferences, hmatch, List.length_cons] at hfuel' hcs ⊢
              obtain ⟨fuel', rfl⟩ : ∃ k, fuel' = k + 1 := ⟨fuel' - 1, by omega⟩
              simp only [references, hmatch, matchReference_replaceReferences hf hmatch]
              exact ih cs (by omega) fuel' (by omega)
          | some found =>
              obtain ⟨body, tail⟩ := found
              obtain ⟨hbody, hmem, hcs'⟩ := matchReference_eq_some.1 hmatch
              obtain ⟨hbody', hmem', hreplaced⟩ := hf body hbody hmem
              have hnew : f body ++ replaceReferences f fuel tail
                  = '$' :: '\x7b' :: (g body ++ '\x7d' :: replaceReferences f fuel tail) := by
                rw [hreplaced]
                simp
              have htail := congrArg List.length hcs'
              simp only [replaceReferences, hmatch, hnew] at hfuel' ⊢
              simp only [List.length_cons, List.length_append] at hfuel' htail hcs
              obtain ⟨fuel', rfl⟩ : ∃ k, fuel' = k + 1 := ⟨fuel' - 1, by omega⟩
              simp only [references, hmatch, matchReference_eq_some.2 ⟨hbody', hmem', rfl⟩,
                List.map_cons, List.cons.injEq, true_and]
              exact ih tail (by omega) fuel' (by omega)

end Replace

/-! ## Splitting -/

theorem splitAt_eq_splitOn (sep : Char) (cs : List Char) : splitAt sep cs = cs.splitOn sep := by
  induction cs with
  | nil => rfl
  | cons c cs ih =>
      unfold splitAt
      rw [ih, List.splitOn_cons_eq_if_modifyHead]
      obtain ⟨piece, pieces, hpieces⟩ := List.exists_cons_of_ne_nil (List.splitOn_ne_nil sep cs)
      simp [hpieces]

/-- A text that is split in two or more parts. -/
theorem eq_of_splitAt {sep : Char} {cs first second : List Char} {rest : List (List Char)}
    (h : splitAt sep cs = first :: second :: rest) :
    cs = first ++ sep :: [sep].intercalate (second :: rest) := by
  rw [splitAt_eq_splitOn] at h
  have : [sep].intercalate (cs.splitOn sep) = cs := List.intercalate_splitOn sep
  rw [h, List.intercalate_cons_cons] at this
  simpa using this.symm

/-- What stands before the first separator. -/
theorem splitAt_append {sep : Char} {first cs : List Char} (h : sep ∉ first) :
    splitAt sep (first ++ sep :: cs) = first :: splitAt sep cs := by
  rw [splitAt_eq_splitOn, splitAt_eq_splitOn]
  exact List.splitOn_append_cons_self_of_not_mem h cs

theorem splitAt_of_not_mem {sep : Char} {cs : List Char} (h : sep ∉ cs) : splitAt sep cs = [cs] := by
  induction cs with
  | nil => rfl
  | cons c cs ih =>
      rw [List.mem_cons, not_or] at h
      unfold splitAt
      rw [ih h.2]
      exact if_neg fun heq => h.1 heq.symm

/-- No part contains the separator. -/
theorem not_mem_of_mem_splitAt {sep : Char} : ∀ {cs piece : List Char}, piece ∈ splitAt sep cs →
    sep ∉ piece
  | [], piece, h => by
      obtain rfl := List.mem_singleton.1 h
      exact List.not_mem_nil
  | c :: cs, piece, h => by
      obtain ⟨first, rest, hparts⟩ : ∃ first rest, splitAt sep cs = first :: rest := by
        rw [splitAt_eq_splitOn]
        exact List.exists_cons_of_ne_nil (List.splitOn_ne_nil sep cs)
      have ih {p : List Char} (hp : p ∈ splitAt sep cs) : sep ∉ p := not_mem_of_mem_splitAt hp
      unfold splitAt at h
      rw [hparts] at h ih
      dsimp only at h
      split_ifs at h with hc
      · rcases List.mem_cons.1 h with rfl | h
        · exact List.not_mem_nil
        · exact ih h
      · rcases List.mem_cons.1 h with rfl | h
        · rw [List.mem_cons, not_or]
          exact ⟨fun heq => hc heq.symm, ih List.mem_cons_self⟩
        · exact ih (List.mem_cons_of_mem _ h)

/-! ## Runs of a character

The regular expressions `/c+/g`, replaced by one `c`, and `/^c|c$/g`, replaced by nothing. -/

/-- Every run of a character becomes a single one. The flag says that the text before ended with
    that character. -/
def collapse (c : Char) : Bool → List Char → List Char
  | _, [] => []
  | inRun, d :: ds =>
    if d = c then if inRun then collapse c true ds else c :: collapse c true ds
    else d :: collapse c false ds

/-- A character at the head is left out. -/
def dropOne (c : Char) : List Char → List Char
  | [] => []
  | d :: ds => if d = c then ds else d :: ds

/-- A character at either end is left out, once. -/
def trimOne (c : Char) (cs : List Char) : List Char := (dropOne c (dropOne c cs).reverse).reverse

section Runs

variable {c d : Char} {cs : List Char}

theorem mem_collapse (hd : d ≠ c) : ∀ {inRun : Bool}, d ∈ collapse c inRun cs ↔ d ∈ cs := by
  induction cs with
  | nil => simp [collapse]
  | cons e es ih =>
      intro inRun
      unfold collapse
      split_ifs with he hrun
      · rw [ih, List.mem_cons]
        simp [he, hd]
      · rw [List.mem_cons, List.mem_cons, ih, he]
      · rw [List.mem_cons, List.mem_cons, ih]

theorem mem_dropOne (hd : d ≠ c) : d ∈ dropOne c cs ↔ d ∈ cs := by
  cases cs with
  | nil => rfl
  | cons e es =>
      simp only [dropOne]
      split_ifs with he
      · simp [he, hd]
      · rfl

theorem mem_trimOne (hd : d ≠ c) : d ∈ trimOne c cs ↔ d ∈ cs := by
  rw [trimOne, List.mem_reverse, mem_dropOne hd, List.mem_reverse, mem_dropOne hd]

theorem dropWhile_collapse : ∀ (inRun : Bool),
    (collapse c inRun cs).dropWhile (· = c) = collapse c false (cs.dropWhile (· = c)) := by
  induction cs with
  | nil => exact fun _ => rfl
  | cons e es ih =>
      intro inRun
      by_cases he : e = c
      · subst he
        cases inRun with
        | true => simpa [collapse] using ih true
        | false => simpa [collapse] using ih true
      · simp [collapse, he]

theorem collapse_concat_of_ne (hd : d ≠ c) : ∀ (inRun : Bool),
    collapse c inRun (cs ++ [d]) = collapse c inRun cs ++ [d] := by
  induction cs with
  | nil => simp [collapse, hd]
  | cons e es ih =>
      intro inRun
      simp only [List.cons_append, collapse, ih]
      split_ifs <;> rfl

theorem collapse_concat_self : ∀ (inRun : Bool),
    collapse c inRun (cs ++ [c]) = collapse c inRun cs ∨
      collapse c inRun (cs ++ [c]) = collapse c inRun cs ++ [c] := by
  induction cs with
  | nil => simp [collapse]
  | cons e es ih =>
      intro inRun
      simp only [List.cons_append, collapse]
      split_ifs
      · exact ih true
      · rcases ih true with h | h <;> simp [h]
      · rcases ih false with h | h <;> simp [h]

theorem rdropWhile_collapse (inRun : Bool) :
    (collapse c inRun cs).rdropWhile (· = c) = collapse c inRun (cs.rdropWhile (· = c)) := by
  induction cs using List.reverseRecOn with
  | nil => rfl
  | append_singleton cs d ih =>
      by_cases hd : d = c
      · subst hd
        rw [List.rdropWhile_concat_pos _ _ _ (by simp), ← ih]
        have hconcat : collapse d inRun (cs ++ [d]) = collapse d inRun cs ∨
            collapse d inRun (cs ++ [d]) = collapse d inRun cs ++ [d] := collapse_concat_self inRun
        rcases hconcat with h | h
        · rw [h]
        · rw [h, List.rdropWhile_concat_pos _ _ _ (by simp)]
      · rw [List.rdropWhile_concat_neg _ _ _ (by simpa using hd), collapse_concat_of_ne hd,
          List.rdropWhile_concat_neg _ _ _ (by simpa using hd)]

/-- Collapsing the runs and trimming the ends commute. -/
theorem trim_collapse (inRun : Bool) :
    trim (· = c) (collapse c inRun cs) = collapse c false (trim (· = c) cs) := by
  change ((collapse c inRun cs).dropWhile (· = c)).rdropWhile (· = c)
    = collapse c false ((cs.dropWhile (· = c)).rdropWhile (· = c))
  rw [dropWhile_collapse, rdropWhile_collapse]

/-- No two neighbours are both the character. -/
def Separated (c : Char) (cs : List Char) : Prop := cs.IsChain fun x y => ¬(x = c ∧ y = c)

theorem separated_collapse : ∀ (inRun : Bool),
    Separated c (collapse c inRun cs) ∧ (inRun = true → (collapse c inRun cs).head? ≠ some c) := by
  induction cs with
  | nil => exact fun _ => ⟨.nil, by simp [collapse]⟩
  | cons e es ih =>
      intro inRun
      unfold collapse
      split_ifs with he hrun
      · exact ⟨(ih true).1, fun _ => (ih true).2 rfl⟩
      · refine ⟨List.isChain_cons.2 ⟨fun y hy => ?_, (ih true).1⟩, fun h => absurd h hrun⟩
        rintro ⟨-, rfl⟩
        exact (ih true).2 rfl hy
      · exact ⟨List.isChain_cons.2 ⟨fun y _ h => he h.1, (ih false).1⟩, by simp [he]⟩

/-- Where no run is, nothing collapses. -/
theorem collapse_eq_self (h : Separated c cs) :
    ∀ {inRun : Bool}, (inRun = true → cs.head? ≠ some c) → collapse c inRun cs = cs := by
  induction cs with
  | nil => exact fun _ => rfl
  | cons d ds ih =>
      intro inRun hhead
      obtain ⟨hnext, hrest⟩ := List.isChain_cons.1 h
      unfold collapse
      split_ifs with hd hrun
      · exact absurd (congrArg some hd) (hhead hrun)
      · rw [ih hrest fun _ hds => hnext c hds ⟨hd, rfl⟩, hd]
      · rw [ih hrest (by simp)]

theorem dropOne_eq_dropWhile (h : Separated c cs) : dropOne c cs = cs.dropWhile (· = c) := by
  cases cs with
  | nil => rfl
  | cons d ds =>
      simp only [dropOne]
      split_ifs with hd
      · have hhead := (List.isChain_cons.1 h).1
        cases ds with
        | nil => simp [hd]
        | cons e es =>
            have he : e ≠ c := fun he => hhead e rfl ⟨hd, he⟩
            simp [hd, he]
      · simp [hd]

theorem Separated.reverse (h : Separated c cs) : Separated c cs.reverse :=
  List.isChain_reverse.2 (h.imp fun _ _ hxy hyx => hxy ⟨hyx.2, hyx.1⟩)

theorem Separated.dropWhile (h : Separated c cs) (p : Char → Bool) :
    Separated c (cs.dropWhile p) :=
  h.suffix (List.dropWhile_suffix p)

/-- Where runs have been collapsed, one character at either end is all there is to trim. -/
theorem trimOne_eq_trim (h : Separated c cs) : trimOne c cs = trim (· = c) cs := by
  rw [trimOne, dropOne_eq_dropWhile h, dropOne_eq_dropWhile (h.dropWhile _).reverse]
  rfl

end Runs

/-! ## Trimming -/

theorem trim_map (p : Char → Bool) (f : Char → Char) (cs : List Char) :
    trim p (cs.map f) = (trim (p ∘ f) cs).map f := by
  unfold trim
  rw [List.dropWhile_map, ← List.map_reverse, List.dropWhile_map, ← List.map_reverse]

/-- What surrounds a text is trimmed off. -/
theorem trim_append {p : Char → Bool} {pre cs post : List Char} (hpre : ∀ c ∈ pre, p c = true)
    (hpost : ∀ c ∈ post, p c = true) : trim p (pre ++ cs ++ post) = trim p cs := by
  unfold trim
  rw [List.append_assoc, List.dropWhile_append_of_pos hpre, List.dropWhile_append]
  split_ifs with hempty
  · rw [List.isEmpty_iff.1 hempty, List.dropWhile_eq_nil_iff.2 hpost]
  · rw [List.reverse_append,
      List.dropWhile_append_of_pos fun c hc => hpost c (List.mem_reverse.1 hc)]

/-- A text is what trimming leaves of it, with trimmed characters on either side. -/
theorem trim_spec (p : Char → Bool) (cs : List Char) :
    ∃ pre post, cs = pre ++ trim p cs ++ post ∧ (∀ c ∈ pre, p c = true) ∧
      ∀ c ∈ post, p c = true := by
  refine ⟨cs.takeWhile p, (cs.dropWhile p).rtakeWhile p, ?_, fun c hc => List.mem_takeWhile_imp hc,
    fun c hc => ?_⟩
  · change cs = cs.takeWhile p ++ (cs.dropWhile p).rdropWhile p ++ _
    rw [List.append_assoc, List.rdropWhile_append_rtakeWhile, List.takeWhile_append_dropWhile]
  · rw [List.rtakeWhile, List.mem_reverse] at hc
    exact List.mem_takeWhile_imp hc

/-- A text without a suffix keeps the characters that are not in the suffix. -/
theorem mem_trimSuffix {s suffix : String} {c : Char} (hc : c ∈ s.toList)
    (hsuffix : c ∉ suffix.toList) : c ∈ (trimSuffix s suffix).toList := by
  unfold trimSuffix
  split_ifs with h
  · obtain ⟨base, hbase⟩ := List.isSuffixOf_iff_suffix.1 h
    rw [String.toList_ofList, ← hbase, List.length_append, Nat.add_sub_cancel,
      List.take_left]
    rw [← hbase] at hc
    exact (List.mem_append.1 hc).resolve_right hsuffix
  · exact hc

theorem mem_trimSpace {s : String} {c : Char} (hc : c ∈ s.toList) (hspace : isSpace c = false) :
    c ∈ (trimSpace s).toList := by
  obtain ⟨pre, post, hs, hpre, hpost⟩ := trim_spec isSpace s.toList
  rw [trimSpace, String.toList_ofList]
  rw [hs] at hc
  rcases List.mem_append.1 hc with hc | hc
  · rcases List.mem_append.1 hc with hc | hc
    · exact absurd (hpre c hc) (by simp [hspace])
    · exact hc
  · exact absurd (hpost c hc) (by simp [hspace])

/-- The characters of a number with a sign. -/
theorem mem_of_atoi {s : String} {n : Int} (h : atoi s = some n) {c : Char} (hc : c ∈ s.toList) :
    c.isDigit = true ∨ c = '-' ∨ c = '+' := by
  unfold atoi at h
  dsimp only at h
  have digits : ∀ {cs : List Char} {m : Int},
      (if (cs.isEmpty || !cs.all Char.isDigit) = true then none
        else some (Nat.ofDigitChars 10 cs 0 : Int)) = some m → c ∈ cs → c.isDigit = true := by
    intro cs m hcs hmem
    split_ifs at hcs with hbad
    simp only [Bool.or_eq_true, not_or, Bool.not_eq_true, Bool.not_eq_false'] at hbad
    exact List.all_eq_true.1 hbad.2 c hmem
  obtain ⟨hvalue, -⟩ := Option.filter_eq_some_iff.1 h
  split at hvalue
  · rename_i cs hs
    rw [hs] at hc
    obtain ⟨m, hm, -⟩ := Option.map_eq_some_iff.1 hvalue
    rcases List.mem_cons.1 hc with rfl | hc
    · exact .inr (.inl rfl)
    · exact .inl (digits hm hc)
  · rename_i cs hs
    rw [hs] at hc
    rcases List.mem_cons.1 hc with rfl | hc
    · exact .inr (.inr rfl)
    · exact .inl (digits hvalue hc)
  · exact .inl (digits hvalue hc)

theorem head?_trim_ne {p : Char → Bool} {c : Char} {cs : List Char} (h : p c = true) :
    (trim p cs).head? ≠ some c := by
  intro hhead
  have hpre : trim p cs <+: cs.dropWhile p := List.rdropWhile_prefix p _
  have hdrop := List.head?_dropWhile_not p cs
  have hfirst : (cs.dropWhile p).head? = some c := by
    obtain ⟨rest, hrest⟩ := hpre
    rw [← hrest, List.head?_append, hhead]
    rfl
  rw [hfirst] at hdrop
  exact absurd h (by simpa using hdrop)

theorem getLast?_trim_ne {p : Char → Bool} {c : Char} {cs : List Char} (h : p c = true) :
    (trim p cs).getLast? ≠ some c := by
  intro hlast
  have hdrop := List.head?_dropWhile_not p (cs.dropWhile p).reverse
  rw [trim, List.getLast?_reverse] at hlast
  rw [hlast] at hdrop
  exact absurd h (by simpa using hdrop)

/-- A text whose ends are not trimmed stays as it is. -/
theorem trim_eq_self {p : Char → Bool} {cs : List Char} (hhead : ∀ c ∈ cs.head?, p c = false)
    (hlast : ∀ c ∈ cs.getLast?, p c = false) : trim p cs = cs := by
  have hkeep {ds : List Char} (h : ∀ c ∈ ds.head?, p c = false) : ds.dropWhile p = ds := by
    cases ds with
    | nil => rfl
    | cons d ds => exact List.dropWhile_cons_of_neg (by simp [h d rfl])
  rw [trim, hkeep hhead, hkeep, List.reverse_reverse]
  rwa [List.head?_reverse]

/-- A wider trimming makes an earlier one redundant. -/
theorem trim_trim {p q : Char → Bool} {cs : List Char} (h : ∀ c ∈ cs, p c = true → q c = true) :
    trim q (trim p cs) = trim q cs := by
  obtain ⟨pre, post, hcs, hpre, hpost⟩ := trim_spec p cs
  have hmem : ∀ c, c ∈ pre ∨ c ∈ post → c ∈ cs := by
    intro c hc
    rw [hcs, List.mem_append, List.mem_append]
    tauto
  conv_rhs => rw [hcs]
  exact (trim_append (fun c hc => h c (hmem c (.inl hc)) (hpre c hc))
    fun c hc => h c (hmem c (.inr hc)) (hpost c hc)).symm

/-! ## ASCII -/

/-- A text of ASCII characters. -/
def IsAscii (s : String) : Prop := ∀ c ∈ s.toList, c.toNat < 128

theorem isAscii_of_all {s : String} (h : s.toList.all (·.toNat < 128) = true) : IsAscii s :=
  fun c hc => of_decide_eq_true (List.all_eq_true.1 h c hc)

/-- What holds of the 128 characters holds of every ASCII character. -/
theorem ascii_cases {P : Char → Prop} (h : ∀ n < 128, P (Char.ofNat n)) {c : Char}
    (hc : c.toNat < 128) : P c := by
  have := h c.toNat hc
  rwa [Char.ofNat_toNat] at this

end Text
