import Rulebook.Fault
import Rulebook.Text.Case
import Rulebook.Value.Printer

/-!
# Redaction

Values under keys that sound like secrets are masked, at any depth of mappings. The name of the event is never
masked.
-/

namespace Rulebook

/-- Parts of keys that sound like secrets. -/
def sensitiveParts : List Text :=
  ["password", "passwd", "secret", "token", "api_key", "apikey", "credential", "private_key"]

/-- The key sounds like a secret, in any case. -/
def isSensitiveKey (key : Text) : Bool :=
  let key := Text.lower key
  sensitiveParts.any fun part => Text.hasPart part key

/-- The key under which the name of an event stands. -/
def eventKey : Text := "event"

/-- What stands in the place of a secret. -/
def mask : Value := .text "[REDACTED]"

/-- The fault of a key that is no text. -/
def keyWithoutCase (key : Value) : Fault :=
  ⟨.missingAttribute, "'" ++ key.typeName ++ "' object has no attribute 'lower'"⟩

/-- Whether a key of any kind sounds like a secret; a key that is no text cannot be judged. -/
def soundsSecret (key : Value) : Except Fault Bool :=
  match key with
  | .text t => .ok (isSensitiveKey t)
  | .bytes _ => .error (Fault.wrongType "a bytes-like object is required, not 'str'")
  | v => .error (keyWithoutCase v)

/-- The value under a key is masked. -/
def isMasked (key : Value) : Except Fault Bool :=
  match key with
  | .text t => .ok (!Text.same t eventKey && isSensitiveKey t)
  | v => soundsSecret v

mutual

/-- A value with the secrets inside masked. -/
def redactValue : Value → Except Fault Value
  | .mapping entries =>
    match redactEntries entries with
    | .ok es => .ok (.mapping es)
    | .error f => .error f
  | v => .ok v

/-- Entries with the secrets masked. -/
def redactEntries : List (Value × Value) → Except Fault (List (Value × Value))
  | [] => .ok []
  | (k, v) :: rest =>
    match isMasked k with
    | .error f => .error f
    | .ok true =>
      match redactEntries rest with
      | .ok es => .ok ((k, mask) :: es)
      | .error f => .error f
    | .ok false =>
      match redactValue v with
      | .error f => .error f
      | .ok w =>
        match redactEntries rest with
        | .ok es => .ok ((k, w) :: es)
        | .error f => .error f

end

/-- A mapping with its secrets masked; nothing else can be redacted. -/
def redact (data : Value) : Except Fault Value :=
  match data with
  | .mapping _ => redactValue data
  | v => .error ⟨.missingAttribute, "'" ++ v.typeName ++ "' object has no attribute 'items'"⟩

end Rulebook
