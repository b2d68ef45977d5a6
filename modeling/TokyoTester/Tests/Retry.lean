import TokyoTester.Bundle.Translation

set_option autoImplicit false

/-! # Which tests may run twice (`pkg/test/retry.go`) -/

namespace TokyoTester

namespace TestConfig

variable (t : TestConfig)

/-- `testCfg.Config[key].(string)`, in lower case and without the blanks around it. -/
def operation (key : String) : String :=
  let value :=
    match t.config.get? key with
    | some (some v) =>
      match v.json with
      | .str s => s
      | _ => ""
    | _ => ""
  Text.toLower (Text.trimSpace value)

/-- `IsAutomaticallyRetrySafe`. -/
def isAutomaticallyRetrySafe : Bool :=
  match t.type with
  | "http" => Text.toUpper (t.operation "method") ∈ ["GET", "HEAD", "OPTIONS"]
  | "document" => t.operation "operation" ∈ ["find_one", "find_many", "count_documents", "exists"]
  | "cache" => t.operation "operation" ∈ ["ping", "get", "exists"]
  | "queue" => t.operation "operation" ∈ ["check_topic", "list_topics"]
  | _ => false

/-- `replaySafeTest`. -/
def replaySafe : Bool :=
  t.type = "delay" || t.retryPolicy.idempotencyConfirmed || t.isAutomaticallyRetrySafe

end TestConfig

end TokyoTester
