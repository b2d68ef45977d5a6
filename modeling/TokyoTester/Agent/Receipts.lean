import TokyoTester.Agent.Assertions
import TokyoTester.Library.Trace

set_option autoImplicit false

/-! # Validation receipts (`mcpserver/validation_receipt.go`)

An agent imports and runs bundles over the MCP server, which lets a bundle through only with a
receipt that it issued when that bundle was validated, a quarter of an hour ago at most. The server
keeps no list of them: a receipt is the digest of a bundle and an expiry, signed with the secret
that also signs the assertions to the application.

A receipt is accepted for a bundle of the same digest before it expires, and never else
(`verify_issue_iff`). As long as nobody else can sign, every bundle that is let through was
validated before (`forwarded_validated`): an assertion does not pass for a receipt. -/

namespace TokyoTester

namespace Agent

/-- `validationReceiptClaims`. -/
structure ValidationReceiptClaims where
  bundleDigest : String
  expiresAt : Int64
deriving DecidableEq

def ValidationReceiptClaims.codec : Codec ValidationReceiptClaims :=
  Codec.struct
    (.cons "bundleDigest" false Codec.string (·.bundleDigest)
      (.cons "expiresAt" false Codec.int (·.expiresAt) .nil))
    ⟨"", 0⟩ (fun v => ⟨v.1, v.2.1⟩) (fun _ => rfl) (by decide)

/-- `validationReceiptTTL`, in seconds. -/
def validationReceiptTTL : Int64 := 15 * 60

inductive ReceiptError where
  | malformed
  | invalid
  | expired
  | mismatch
deriving DecidableEq

def ReceiptError.message : ReceiptError → String
  | malformed => "validationReceipt is malformed; validate the workflow again"
  | invalid => "validationReceipt is invalid; validate the workflow again"
  | expired => "validationReceipt has expired; validate the workflow again"
  | mismatch => "validationReceipt does not match this bundle; validate the workflow again"

section Hashed

variable (hashes : Hashes) (secret : String)

/-- `bundleDigest`. -/
def bundleDigest (bundle : Option AnyValue) : String :=
  encodeToString (hashes.sha256 (utf8 (Codec.any.marshal bundle)))

/-- What a receipt signs. The time is in seconds. -/
def receiptInput (bundle : Option AnyValue) (now : Int64) : String :=
  encodeToString (utf8 (ValidationReceiptClaims.codec.marshal
    { bundleDigest := bundleDigest hashes bundle, expiresAt := now + validationReceiptTTL }))

/-- `issueValidationReceipt`. -/
def issueValidationReceipt (bundle : Option AnyValue) (now : Int64) : String :=
  let encoded := receiptInput hashes bundle now
  encoded ++ "." ++ encodeToString (signature hashes secret encoded)

/-- The checks of `verifyValidationReceipt` on the claims. -/
def checkClaims (claims : ValidationReceiptClaims) (bundle : Option AnyValue) (now : Int64) :
    Except ReceiptError Unit :=
  if now ≥ claims.expiresAt then .error .expired
  else if claims.bundleDigest ≠ bundleDigest hashes bundle then .error .mismatch
  else .ok ()

/-- `verifyValidationReceipt`. -/
def verifyValidationReceipt (receipt : String) (bundle : Option AnyValue) (now : Int64) :
    Except ReceiptError Unit :=
  match parts receipt with
  | [encoded, encodedSignature] =>
    match decodeString encodedSignature with
    | none => .error .malformed
    | some providedSignature =>
      if providedSignature ≠ signature hashes secret encoded then .error .invalid
      else
        match ((decodeString encoded).bind ofUtf8).bind
            ValidationReceiptClaims.codec.unmarshal with
        | none => .error .malformed
        | some claims => checkClaims hashes claims bundle now
  | _ => .error .malformed

end Hashed

/-! ## The round trip -/

variable {hashes : Hashes} {secret : String} {bundle : Option AnyValue}

theorem unmarshal_receiptInput (issuedAt : Int64) :
    ((decodeString (receiptInput hashes bundle issuedAt)).bind ofUtf8).bind
      ValidationReceiptClaims.codec.unmarshal =
        some { bundleDigest := bundleDigest hashes bundle
               expiresAt := issuedAt + validationReceiptTTL } := by
  rw [receiptInput, decodeString_encodeToString, Option.bind_some, ofUtf8_utf8, Option.bind_some,
    Codec.unmarshal_marshal]

theorem checkClaims_eq_ok {claims : ValidationReceiptClaims} {now : Int64} :
    checkClaims hashes claims bundle now = .ok () ↔
      now < claims.expiresAt ∧ claims.bundleDigest = bundleDigest hashes bundle := by
  unfold checkClaims
  split_ifs with hexpired hdigest
  · simp [Int64.not_lt.2 hexpired]
  · simp [hdigest]
  · simpa using ⟨Int64.not_le.1 hexpired, not_not.1 hdigest⟩

theorem parts_issue (validated : Option AnyValue) (issuedAt : Int64) :
    parts (issueValidationReceipt hashes secret validated issuedAt) =
      [receiptInput hashes validated issuedAt,
        encodeToString (signature hashes secret (receiptInput hashes validated issuedAt))] := by
  refine (parts_append (dot_not_mem_encodeToString _) _).trans ?_
  rw [parts_of_not_mem (dot_not_mem_encodeToString _)]
  rfl

theorem verify_issue (validated : Option AnyValue) (issuedAt now : Int64) :
    verifyValidationReceipt hashes secret (issueValidationReceipt hashes secret validated issuedAt)
        bundle now =
      checkClaims hashes
        { bundleDigest := bundleDigest hashes validated
          expiresAt := issuedAt + validationReceiptTTL } bundle now := by
  unfold verifyValidationReceipt
  simp only [parts_issue, decodeString_encodeToString, unmarshal_receiptInput, ne_eq, not_true_eq_false,
    if_false]

/-- **A receipt is accepted** for a bundle of the same digest before it expires, and never else. -/
theorem verify_issue_iff (validated : Option AnyValue) (issuedAt now : Int64) :
    verifyValidationReceipt hashes secret (issueValidationReceipt hashes secret validated issuedAt)
        bundle now = .ok () ↔
      now < issuedAt + validationReceiptTTL ∧
        bundleDigest hashes validated = bundleDigest hashes bundle := by
  rw [verify_issue]
  exact checkClaims_eq_ok

/-- A text that presents a signature was signed, if it does so rightly. -/
def UnforgedReceipt (hashes : Hashes) (secret : String) (signed : List String) (receipt : String) :
    Prop :=
  ∀ encoded encodedSignature, parts receipt = [encoded, encodedSignature] →
    decodeString encodedSignature = some (signature hashes secret encoded) → encoded ∈ signed

/-- A receipt that is accepted was signed for what it says. -/
theorem receipt_signed {signed : List String} {receipt : String} {now : Int64}
    (hunforged : UnforgedReceipt hashes secret signed receipt)
    (hverify : verifyValidationReceipt hashes secret receipt bundle now = .ok ()) :
    ∃ encoded ∈ signed, '.' ∉ encoded.toList ∧ ∃ claims,
      ((decodeString encoded).bind ofUtf8).bind ValidationReceiptClaims.codec.unmarshal =
          some claims ∧ checkClaims hashes claims bundle now = .ok () := by
  unfold verifyValidationReceipt at hverify
  split at hverify
  · rename_i encoded encodedSignature hparts
    split at hverify
    · cases hverify
    · rename_i providedSignature hprovided
      split_ifs at hverify with hsignature
      rw [not_not] at hsignature
      split at hverify
      · cases hverify
      · rename_i claims hclaims
        have hdot : '.' ∉ encoded.toList := dot_not_mem_of_mem_parts (hparts ▸ List.mem_cons_self)
        exact ⟨encoded, hunforged _ _ hparts (hsignature ▸ hprovided), hdot, claims, hclaims,
          hverify⟩
  · cases hverify

/-! ## The gate of the server -/

/-- What the server has done: it signed a receipt for a bundle that was validated, signed an
    assertion, or let a bundle through. -/
inductive GateEvent where
  | validated (bundle : Option AnyValue) (now : Int64)
  | asserted (claims : IntrospectionResponse) (projectId : String) (scopes : List String)
    (now : Int)
  | forwarded (bundle : Option AnyValue) (now : Int64)

/-- A call of a tool, after the agent was authenticated: `tokyo_validate_workflow` with the
    normalized bundle of the application, `tokyo_import_workflow` and `tokyo_run_workflow` with what
    the agent presents. Every call makes the server sign an assertion first. -/
inductive GateCall where
  | assert (claims : IntrospectionResponse) (projectId : String) (scopes : List String) (now : Int)
  | validate (bundle : Option AnyValue) (now : Int64)
  | present (receipt : String) (bundle : Option AnyValue) (now : Int64)

def gate (hashes : Hashes) (secret : String) (log : List GateEvent) :
    GateCall → List GateEvent
  | .assert claims projectId scopes now => log ++ [.asserted claims projectId scopes now]
  | .validate bundle now => log ++ [.validated bundle now]
  | .present receipt bundle now =>
    match verifyValidationReceipt hashes secret receipt bundle now with
    | .ok _ => log ++ [.forwarded bundle now]
    | .error _ => log

/-- The text that an event signs. -/
def GateEvent.signed (hashes : Hashes) : GateEvent → Option String
  | .validated bundle now => some (receiptInput hashes bundle now)
  | .asserted claims projectId scopes now => some (assertionInput claims projectId scopes now)
  | .forwarded _ _ => none

/-- Nobody else can sign: a receipt that is presented with the right signature was signed. -/
def NobodyElseSigns (hashes : Hashes) (secret : String) (log : List GateEvent) : GateCall → Prop
  | .present receipt _ _ =>
    UnforgedReceipt hashes secret (log.filterMap (·.signed hashes)) receipt
  | .assert .. | .validate .. => True

def GateRun (hashes : Hashes) (secret : String) (calls : List GateCall) (log : List GateEvent) :
    Prop :=
  Trace.Guarded (fun log call log' => log' = gate hashes secret log call)
    (NobodyElseSigns hashes secret) [] calls log

/-- The texts of two bundles differ, and their SHA-256 does not. -/
def Collide (hashes : Hashes) (b b' : Option AnyValue) : Prop :=
  utf8 (Codec.any.marshal b) ≠ utf8 (Codec.any.marshal b') ∧
    hashes.sha256 (utf8 (Codec.any.marshal b)) = hashes.sha256 (utf8 (Codec.any.marshal b'))

/-- The bundle was validated, not too long ago. -/
def Validated (hashes : Hashes) (bundle : Option AnyValue) (now : Int64) (log : List GateEvent) :
    Prop :=
  ∃ validated issuedAt, GateEvent.validated validated issuedAt ∈ log ∧
    now < issuedAt + validationReceiptTTL ∧ (validated = bundle ∨ Collide hashes validated bundle)

/-- Every bundle that was let through was validated before. -/
def Justified (hashes : Hashes) (log : List GateEvent) : Prop :=
  ∀ before bundle now after, log = before ++ GateEvent.forwarded bundle now :: after →
    Validated hashes bundle now before

theorem utf8_injective {s s' : String} (h : utf8 s = utf8 s') : s = s' := by
  have hs := ofUtf8_utf8 s
  rw [h, ofUtf8_utf8] at hs
  exact (Option.some.inj hs).symm

theorem eq_or_collide {b b' : Option AnyValue} (h : bundleDigest hashes b = bundleDigest hashes b') :
    b = b' ∨ Collide hashes b b' := by
  have hencoded : Base64.encode (hashes.sha256 (utf8 (Codec.any.marshal b))) =
      Base64.encode (hashes.sha256 (utf8 (Codec.any.marshal b'))) := String.ofList_injective h
  by_cases htext : utf8 (Codec.any.marshal b) = utf8 (Codec.any.marshal b')
  · exact .inl (Codec.any.marshal_injective (utf8_injective htext))
  · exact .inr ⟨htext, Base64.encode_injective hencoded⟩

theorem gate_present {log : List GateEvent} {receipt : String} {now : Int64}
    (h : verifyValidationReceipt hashes secret receipt bundle now = .ok ()) :
    gate hashes secret log (.present receipt bundle now) = log ++ [.forwarded bundle now] := by
  show (match verifyValidationReceipt hashes secret receipt bundle now with
    | .ok _ => log ++ [GateEvent.forwarded bundle now]
    | .error _ => log) = _
  rw [h]

theorem Justified.append {log : List GateEvent} {event : GateEvent} (h : Justified hashes log)
    (hevent : ∀ bundle now, event = .forwarded bundle now → Validated hashes bundle now log) :
    Justified hashes (log ++ [event]) := by
  intro before bundle now after hsplit
  rcases List.eq_nil_or_concat after with rfl | ⟨after, last, rfl⟩
  · obtain ⟨rfl, hlast⟩ := List.append_inj' hsplit rfl
    exact hevent bundle now (List.cons.inj hlast).1
  · have hassoc : before ++ GateEvent.forwarded bundle now :: after.concat last =
        (before ++ GateEvent.forwarded bundle now :: after) ++ [last] := by simp
    obtain ⟨rfl, -⟩ := List.append_inj' (hsplit.trans hassoc) rfl
    exact h before bundle now after rfl

/-- A bundle that is let through was validated. -/
theorem validated_of_verify {log : List GateEvent} {receipt : String} {now : Int64}
    (hunforged : NobodyElseSigns hashes secret log (.present receipt bundle now))
    (hverify : verifyValidationReceipt hashes secret receipt bundle now = .ok ()) :
    Validated hashes bundle now log := by
  obtain ⟨encoded, hsigned, hdot, claims, hclaims, hchecked⟩ := receipt_signed hunforged hverify
  obtain ⟨event, hevent, hinput⟩ := List.mem_filterMap.1 hsigned
  cases event with
  | forwarded bundle now => cases hinput
  | asserted claims projectId scopes now =>
      -- what an assertion signs contains a dot
      obtain rfl := Option.some.inj hinput
      exact absurd (by simp [assertionInput]) hdot
  | validated validated issuedAt =>
      obtain rfl := Option.some.inj hinput
      obtain rfl := Option.some.inj ((unmarshal_receiptInput issuedAt).symm.trans hclaims)
      obtain ⟨htime, hdigest⟩ := checkClaims_eq_ok.1 hchecked
      exact ⟨validated, issuedAt, hevent, htime, eq_or_collide hdigest⟩

/-- **Nothing is imported or run that was not validated.** In every run of the server, every bundle
    that it lets through was returned by a validation before, at most a quarter of an hour ago,
    unless it collides with one that was. -/
theorem forwarded_validated {calls : List GateCall} {log : List GateEvent}
    (h : GateRun hashes secret calls log) : Justified hashes log := by
  refine h.invariant (Justified hashes) ?_ ?_
  · rintro log call log' hguard rfl hlog
    cases call with
    | assert claims projectId scopes now => exact hlog.append fun _ _ heq => by cases heq
    | validate bundle now => exact hlog.append fun _ _ heq => by cases heq
    | present receipt bundle now =>
        unfold gate
        dsimp only
        split
        · rename_i hverify
          refine hlog.append ?_
          rintro _ _ ⟨⟩
          exact validated_of_verify hguard hverify
        · exact hlog
  · intro before bundle now after hsplit
    cases before <;> cases hsplit

/-- The hashes of the two texts below. -/
def importHashes : Hashes where
  hmac _ _ :=
    [129, 15, 95, 184, 157, 143, 133, 89, 243, 188, 225, 137, 119, 78, 119, 84, 203, 30, 34, 168,
      116, 238, 231, 122, 212, 246, 81, 47, 167, 85, 146, 200]
  sha256 _ :=
    [68, 19, 111, 163, 85, 179, 103, 138, 17, 70, 173, 22, 247, 232, 100, 158, 148, 251, 79, 194,
      31, 231, 126, 131, 16, 192, 96, 246, 28, 170, 255, 138]

/-- An empty object. -/
def emptyBundle : Option AnyValue := AnyValue.ofDocument .empty

/-- A bundle that is validated, and presented for import five minutes later. -/
def importCalls : List GateCall :=
  [.validate emptyBundle 1000,
    .present (issueValidationReceipt importHashes agentSecret emptyBundle 1000) emptyBundle 1300]

theorem importCalls_run : GateRun importHashes agentSecret importCalls
    [.validated emptyBundle 1000, .forwarded emptyBundle 1300] := by
  refine .cons trivial rfl (.cons ?_ (gate_present ?_).symm (.nil _))
  · intro encoded encodedSignature hparts _
    rw [parts_issue] at hparts
    obtain ⟨rfl, -⟩ := List.cons.inj hparts
    exact List.mem_singleton_self _
  · rw [verify_issue]
    exact checkClaims_eq_ok.2 ⟨by decide, rfl⟩

theorem forwarded_validated_import :
    GateRun importHashes agentSecret importCalls
        [.validated emptyBundle 1000, .forwarded emptyBundle 1300] ∧
      Validated importHashes emptyBundle 1300 [.validated emptyBundle 1000] :=
  ⟨importCalls_run,
    forwarded_validated importCalls_run [.validated emptyBundle 1000] emptyBundle 1300 [] rfl⟩

end Agent

end TokyoTester
