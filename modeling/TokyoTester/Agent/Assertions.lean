import TokyoTester.Library.Base64
import TokyoTester.Library.Codec
import TokyoTester.Library.Text

set_option autoImplicit false

/-! # Assertions (`mcpserver/server.go`, `modules/agent/server/internal-assertion.ts`)

The MCP server calls the application for an agent with an assertion of who the agent is and what it
may do, signed with a secret that the two share. The server writes the assertion in Go and the
application reads it in TypeScript. What the server signs is accepted from half a minute before it
was signed, for clocks that differ, to a minute after, and read as it was written
(`verify_signAssertion`). -/

namespace TokyoTester

namespace Agent

/-! ## Texts and bytes -/

/-- HMAC-SHA-256 and SHA-256, over bytes. -/
structure Hashes where
  hmac : List UInt8 → List UInt8 → List UInt8
  sha256 : List UInt8 → List UInt8

/-- The bytes of a text, and the text of bytes. -/
def utf8 (s : String) : List UInt8 := s.toUTF8.data.toList

def ofUtf8 (bytes : List UInt8) : Option String := String.fromUTF8? ⟨bytes.toArray⟩

theorem ofUtf8_utf8 (s : String) : ofUtf8 (utf8 s) = some s := by
  unfold ofUtf8 utf8
  rw [Array.toArray_toList]
  exact dif_pos s.isValidUTF8

/-- `base64.RawURLEncoding`. -/
def encodeToString (bytes : List UInt8) : String := String.ofList (Base64.encode bytes)

def decodeString (s : String) : Option (List UInt8) := Base64.decode s.toList

/-- `Buffer.from` with `base64url`. -/
def decodePart (s : String) : List UInt8 := Base64.decodeLoose s.toList

@[simp] theorem decodeString_encodeToString (bytes : List UInt8) :
    decodeString (encodeToString bytes) = some bytes := by
  simp [decodeString, encodeToString, Base64.decode_encode]

@[simp] theorem decodePart_encodeToString (bytes : List UInt8) :
    decodePart (encodeToString bytes) = bytes := by
  simp [decodePart, encodeToString, Base64.decodeLoose_encode]

/-- `strings.Split` and `split` at dots. -/
def parts (s : String) : List String := (Text.splitAt '.' s.toList).map String.ofList

theorem dot_not_mem_encodeToString (bytes : List UInt8) : '.' ∉ (encodeToString bytes).toList := by
  rw [encodeToString, String.toList_ofList]
  exact Base64.not_mem_encode (by decide) bytes

theorem parts_of_not_mem {s : String} (h : '.' ∉ s.toList) : parts s = [s] := by
  simp [parts, Text.splitAt_of_not_mem h]

theorem parts_append {a : String} (h : '.' ∉ a.toList) (b : String) :
    parts (a ++ "." ++ b) = a :: parts b := by
  have hlist : (a ++ "." ++ b).toList = a.toList ++ '.' :: b.toList := by simp
  simp [parts, hlist, Text.splitAt_append h]

theorem parts_three {a b c : String} (ha : '.' ∉ a.toList) (hb : '.' ∉ b.toList)
    (hc : '.' ∉ c.toList) : parts (a ++ "." ++ b ++ "." ++ c) = [a, b, c] := by
  have hassoc : a ++ "." ++ b ++ "." ++ c = a ++ "." ++ (b ++ "." ++ c) := by
    simp only [String.append_assoc]
  rw [hassoc, parts_append ha, parts_append hb, parts_of_not_mem hc]

theorem dot_not_mem_of_mem_parts {s part : String} (h : part ∈ parts s) : '.' ∉ part.toList := by
  obtain ⟨piece, hpiece, rfl⟩ := List.mem_map.1 h
  rw [String.toList_ofList]
  exact Text.not_mem_of_mem_splitAt hpiece

/-- What two texts without dots make up determines them. -/
theorem append_dot_inj {a b a' b' : String} (ha : '.' ∉ a.toList) (hb : '.' ∉ b.toList)
    (ha' : '.' ∉ a'.toList) (hb' : '.' ∉ b'.toList) (h : a ++ "." ++ b = a' ++ "." ++ b') :
    a = a' ∧ b = b' := by
  have hparts := congrArg parts h
  rw [parts_append ha, parts_append ha', parts_of_not_mem hb, parts_of_not_mem hb'] at hparts
  simpa using hparts

/-- `length` of a text in UTF-16. -/
def length16 (s : String) : ℕ := (s.toList.map fun c => if c.toNat < 65536 then 1 else 2).sum

/-! ## Signing -/

/-- `introspectionResponse`: what is known of an access token. -/
structure IntrospectionResponse where
  subject : String
  email : String
  userId : String
  projectId : String
  scope : String
  scopes : List String
  audience : Json := .null

def assertionIssuer : String := "tokyo-mcp"

def assertionAudience : String := "tokyo-ui-agent-api"

/-- The header of an assertion. -/
def assertionHeader : Json := .obj [("alg", .str "HS256"), ("typ", .str "JWT")]

/-- The payload of an assertion; its keys are printed in order. The time is in seconds. -/
def assertionPayload (claims : IntrospectionResponse) (projectId : String) (scopes : List String)
    (now : Int) : Json :=
  .obj ([("aud", .str assertionAudience),
    ("email", .str (Text.toLower (Text.trimSpace claims.email))), ("exp", .int (now + 60)),
    ("iat", .int now), ("iss", .str assertionIssuer), ("project_id", .str projectId),
    ("scopes", .arr (scopes.map .str)), ("sub", .str claims.subject)] ++
    if claims.userId ≠ "" then [("user_id", .str claims.userId)] else [])

/-- What an assertion signs. -/
def assertionInput (claims : IntrospectionResponse) (projectId : String) (scopes : List String)
    (now : Int) : String :=
  encodeToString (utf8 assertionHeader.marshal) ++ "." ++
    encodeToString (utf8 (assertionPayload claims projectId scopes now).marshal)

section Hashed

variable (hashes : Hashes) (secret : String)

/-- The signature of a text. -/
def signature (input : String) : List UInt8 := hashes.hmac (utf8 secret) (utf8 input)

/-- `signAssertion`. -/
def signAssertion (claims : IntrospectionResponse) (projectId : String) (scopes : List String)
    (now : Int) : String :=
  let input := assertionInput claims projectId scopes now
  input ++ "." ++ encodeToString (signature hashes secret input)

/-! ## Verifying -/

/-- A property of an object; the last one of a name counts. -/
def property (name : String) (ms : List (String × Json)) : Option Json :=
  (ms.reverse.find? fun m => m.1 = name).map (·.2)

/-- A number, when it is a whole one. -/
def wholeNumber : Json → Option Int
  | .num literal => Json.intOfLiteral literal
  | _ => none

def textOf : Json → Option String
  | .str s => some s
  | _ => none

/-- `String` of a scope, as far as it can be the name of one. -/
def scopeName : Json → Option String
  | .str s => some s
  | .arr [item] => scopeName item
  | _ => none

def agentScopes : List String := ["read", "workflow:write", "run"]

/-- `AgentAssertionClaims`. -/
structure AgentAssertionClaims where
  sub : String
  email : Option String
  userId : Option String
  projectId : String
  scopes : List Json
  iat : Int
  exp : Int

/-- The claims of a payload. -/
def readClaims : Json → Option AgentAssertionClaims
  | .obj ms => do
    let sub ← (property "sub" ms).bind textOf
    let projectId ← (property "project_id" ms).bind textOf
    let iat ← (property "iat" ms).bind wholeNumber
    let exp ← (property "exp" ms).bind wholeNumber
    match property "scopes" ms with
    | some (.arr scopes) =>
      if (property "iss" ms).bind textOf ≠ some assertionIssuer ∨
          (property "aud" ms).bind textOf ≠ some assertionAudience then none
      else
        some
          { sub, projectId, iat, exp, scopes
            email := (property "email" ms).bind textOf
            userId := (property "user_id" ms).bind textOf }
    | _ => none
  | _ => none

/-- The checks of the claims. -/
def AgentAssertionClaims.accepted (claims : AgentAssertionClaims) (now : Int) : Bool :=
  !(claims.iat > now + 30) && !(claims.exp ≤ now) && !(claims.exp - claims.iat > 120) &&
    claims.scopes.all fun scope => (scopeName scope).any agentScopes.contains

def validHeader : Json → Bool
  | .obj ms =>
    (property "alg" ms).bind textOf = some "HS256" && (property "typ" ms).bind textOf = some "JWT"
  | _ => false

/-- `JSON.parse` of a part. -/
def parsePart (part : String) : Option Json := (ofUtf8 (decodePart part)).bind Json.parse

/-- `verifyAgentAssertion`. -/
def verifyAgentAssertion (assertion : String) (now : Int) : Option AgentAssertionClaims :=
  if length16 secret < 32 then none
  else
    match parts assertion with
    | [encodedHeader, encodedPayload, encodedSignature] =>
      if decodePart encodedSignature ≠
          signature hashes secret (encodedHeader ++ "." ++ encodedPayload) then none
      else do
        let header ← parsePart encodedHeader
        let claims ← (parsePart encodedPayload).bind readClaims
        if validHeader header && claims.accepted now then some claims else none
    | _ => none

end Hashed

/-! ## What the server signs is read as it was written -/

/-- The claims of an assertion that the server signs. -/
def signedClaims (claims : IntrospectionResponse) (projectId : String) (scopes : List String)
    (now : Int) : AgentAssertionClaims where
  sub := claims.subject
  email := some (Text.toLower (Text.trimSpace claims.email))
  userId := if claims.userId ≠ "" then some claims.userId else none
  projectId := projectId
  scopes := scopes.map .str
  iat := now
  exp := now + 60

theorem wholeNumber_int (n : Int) : wholeNumber (.int n) = some n := Json.intOfLiteral_intLiteral n

theorem readClaims_assertionPayload (claims : IntrospectionResponse) (projectId : String)
    (scopes : List String) (now : Int) :
    readClaims (assertionPayload claims projectId scopes now) =
      some (signedClaims claims projectId scopes now) := by
  unfold assertionPayload signedClaims
  split_ifs <;> simp [readClaims, property, textOf, wholeNumber_int]

theorem wellFormed_assertionPayload (claims : IntrospectionResponse) (projectId : String)
    (scopes : List String) (now : Int) :
    (assertionPayload claims projectId scopes now).wellFormed = true := by
  have hint (n : Int) : (Json.int n).wellFormed = true :=
    Json.wellFormed_of_canonical _ (Json.canonical_int n)
  have hscopes : Json.wellFormedItems (scopes.map .str) = true := by
    rw [Json.wellFormedItems_iff]
    intro j hj
    obtain ⟨s, -, rfl⟩ := List.mem_map.1 hj
    simp [Json.wellFormed]
  unfold assertionPayload
  split_ifs <;> simp [Json.wellFormed, Json.wellFormedMembers, hint, hscopes]

theorem parsePart_marshal {j : Json} (h : j.wellFormed = true) :
    parsePart (encodeToString (utf8 j.marshal)) = some j := by
  simp [parsePart, ofUtf8_utf8, Json.parse_marshal j h]

theorem wellFormed_assertionHeader : assertionHeader.wellFormed = true := by
  simp [assertionHeader, Json.wellFormed, Json.wellFormedMembers]

theorem validHeader_assertionHeader : validHeader assertionHeader = true := by
  simp [assertionHeader, validHeader, property, textOf]

/-- The claims that are signed are accepted for a while. -/
theorem accepted_signedClaims {claims : IntrospectionResponse} {projectId : String}
    {scopes : List String} (hscopes : ∀ s ∈ scopes, s ∈ agentScopes) (signedAt now : Int) :
    (signedClaims claims projectId scopes signedAt).accepted now =
      decide (signedAt ≤ now + 30 ∧ now < signedAt + 60) := by
  have hnames : ((scopes.map Json.str).all fun s => (scopeName s).any agentScopes.contains)
      = true := by
    rw [List.all_eq_true]
    intro j hj
    obtain ⟨s, hs, rfl⟩ := List.mem_map.1 hj
    simpa [scopeName] using hscopes s hs
  have hlifetime : ¬ signedAt + 60 - signedAt > 120 := by omega
  unfold AgentAssertionClaims.accepted signedClaims
  simp only [hnames, hlifetime, Bool.and_true, decide_false, Bool.not_false]
  rw [Bool.eq_iff_iff]
  simp

/-- Claims that are accepted were not issued in the future and have not expired. -/
theorem AgentAssertionClaims.accepted_time {claims : AgentAssertionClaims} {now : Int}
    (h : claims.accepted now = true) : claims.iat ≤ now + 30 ∧ now < claims.exp := by
  simp only [AgentAssertionClaims.accepted, Bool.and_eq_true, Bool.not_eq_true',
    decide_eq_false_iff_not, not_lt, not_le] at h
  exact ⟨h.1.1.1, h.1.1.2⟩

theorem parts_signAssertion (hashes : Hashes) (secret : String) (claims : IntrospectionResponse)
    (projectId : String) (scopes : List String) (signedAt : Int) :
    parts (signAssertion hashes secret claims projectId scopes signedAt) =
      [encodeToString (utf8 assertionHeader.marshal),
        encodeToString (utf8 (assertionPayload claims projectId scopes signedAt).marshal),
        encodeToString (signature hashes secret
          (assertionInput claims projectId scopes signedAt))] :=
  parts_three (dot_not_mem_encodeToString _) (dot_not_mem_encodeToString _)
    (dot_not_mem_encodeToString _)

/-- Only the claims of an assertion that the server signs need checking. -/
theorem verify_eq_of_signed (hashes : Hashes) {secret : String} (hsecret : 32 ≤ length16 secret)
    (claims : IntrospectionResponse) (projectId : String) (scopes : List String)
    (signedAt now : Int) :
    verifyAgentAssertion hashes secret (signAssertion hashes secret claims projectId scopes signedAt)
        now =
      if (signedClaims claims projectId scopes signedAt).accepted now then
        some (signedClaims claims projectId scopes signedAt)
      else none := by
  unfold verifyAgentAssertion
  rw [if_neg (not_lt.2 hsecret), parts_signAssertion]
  simp only [decodePart_encodeToString, parsePart_marshal wellFormed_assertionHeader,
    parsePart_marshal (wellFormed_assertionPayload claims projectId scopes signedAt),
    readClaims_assertionPayload, validHeader_assertionHeader, Option.bind_some,
    Option.bind_eq_bind, Bool.true_and]
  exact if_neg (not_not.2 rfl)

/-- **Assertions are read as they were written**, for a while. -/
theorem verify_signAssertion (hashes : Hashes) {secret : String} (hsecret : 32 ≤ length16 secret)
    (claims : IntrospectionResponse) (projectId : String) {scopes : List String}
    (hscopes : ∀ s ∈ scopes, s ∈ agentScopes) (signedAt now : Int) :
    verifyAgentAssertion hashes secret (signAssertion hashes secret claims projectId scopes signedAt)
        now =
      if signedAt ≤ now + 30 ∧ now < signedAt + 60 then
        some (signedClaims claims projectId scopes signedAt)
      else none := by
  rw [verify_eq_of_signed hashes hsecret, accepted_signedClaims hscopes]
  simp only [decide_eq_true_eq]

/-- The hashes of the token and the assertion below. -/
def agentHashes : Hashes where
  hmac _ _ :=
    [223, 114, 186, 142, 228, 162, 150, 190, 43, 170, 107, 92, 169, 203, 148, 150, 232, 187, 241,
      142, 53, 158, 91, 206, 226, 125, 214, 198, 212, 119, 227, 2]
  sha256 _ :=
    [46, 120, 129, 157, 52, 124, 254, 0, 124, 34, 225, 192, 234, 178, 174, 127, 93, 179, 217, 232,
      189, 48, 238, 75, 207, 163, 48, 177, 141, 100, 4, 153]

def agentSecret : String := "0123456789abcdef0123456789abcdef"

/-- What is known of a token for imports. -/
def importResponse : IntrospectionResponse where
  subject := "u"
  email := "u@example.org"
  userId := "u"
  projectId := "p"
  scope := ""
  scopes := ["workflow:write"]

/-- An assertion is accepted after twenty seconds. -/
theorem verify_signAssertion_import :
    32 ≤ length16 agentSecret ∧ (∀ s ∈ ["workflow:write"], s ∈ agentScopes) ∧
      verifyAgentAssertion agentHashes agentSecret
          (signAssertion agentHashes agentSecret importResponse "p" ["workflow:write"] 1000) 1020 =
        some (signedClaims importResponse "p" ["workflow:write"] 1000) :=
  ⟨by decide, by decide,
    (verify_signAssertion agentHashes (by decide) importResponse "p" (by decide) 1000 1020).trans
      (if_pos (by decide))⟩

/-! ## What is accepted was signed -/

/-- A text that presents a signature was signed, if it does so rightly. -/
def Unforged (hashes : Hashes) (secret : String) (signed : List String) (assertion : String) :
    Prop :=
  ∀ header payload sig, parts assertion = [header, payload, sig] →
    decodePart sig = signature hashes secret (header ++ "." ++ payload) →
      header ++ "." ++ payload ∈ signed

/-- **An assertion that is accepted** was signed for what it says, unless it was forged. What is
    known of all that was signed is known of it. -/
theorem verified_signed {hashes : Hashes} {secret assertion : String} {now : Int}
    {accepted : AgentAssertionClaims} {signed : List String}
    {known : IntrospectionResponse → String → List String → Int → Prop}
    (hunforged : Unforged hashes secret signed assertion)
    (hverify : verifyAgentAssertion hashes secret assertion now = some accepted)
    (hsigned : ∀ input ∈ signed, '.' ∉ input.toList ∨ ∃ claims projectId scopes signedAt,
      input = assertionInput claims projectId scopes signedAt ∧
        known claims projectId scopes signedAt) :
    ∃ claims projectId scopes signedAt, known claims projectId scopes signedAt ∧
      accepted = signedClaims claims projectId scopes signedAt ∧ signedAt ≤ now + 30 ∧
      now < signedAt + 60 := by
  unfold verifyAgentAssertion at hverify
  split_ifs at hverify
  split at hverify
  · rename_i header payload sig hparts
    split_ifs at hverify with hsig
    rw [not_not] at hsig
    have hmem := hunforged header payload sig hparts hsig
    have hno {part : String} (hpart : part ∈ [header, payload, sig]) : '.' ∉ part.toList :=
      dot_not_mem_of_mem_parts (hparts ▸ hpart)
    rcases hsigned _ hmem with hdot | ⟨claims, projectId, scopes, signedAt, hinput, hknown⟩
    · exact absurd (by simp) hdot
    obtain ⟨rfl, rfl⟩ := append_dot_inj (hno (by simp)) (hno (by simp))
      (dot_not_mem_encodeToString _) (dot_not_mem_encodeToString _) hinput
    simp only [parsePart_marshal wellFormed_assertionHeader,
      parsePart_marshal (wellFormed_assertionPayload claims projectId scopes signedAt),
      readClaims_assertionPayload, validHeader_assertionHeader, Option.bind_some,
      Option.bind_eq_bind, Bool.true_and, Option.ite_none_right_eq_some, Option.some.injEq]
      at hverify
    obtain ⟨haccepted, rfl⟩ := hverify
    exact ⟨claims, projectId, scopes, signedAt, hknown, rfl,
      AgentAssertionClaims.accepted_time haccepted⟩
  · cases hverify

end Agent

end TokyoTester
