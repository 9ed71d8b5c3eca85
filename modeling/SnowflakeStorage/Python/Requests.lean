import SnowflakeStorage.Python.Dict
import SnowflakeStorage.Python.Xml

/-!
# Responses of `requests`

The S3 client reads a response's status code, its case-insensitive headers, its body as
text and as bytes, the tree `ET.fromstring` makes of the body, and `raise_for_status()`.
The tree is a field, `none` when the body is not well-formed XML, kept together with the
one link to the text the code can observe: a blank body has no tree.
-/

namespace SnowflakeStorage

/-- An HTTP response as the dispatcher hands it to the client. -/
structure Response where
  statusCode : Nat
  headers : CaseInsensitiveDict
  text : PyStr
  content : Bytes
  document : Option Element
  blank_no_document : (text.isEmpty || PyStr.isspace text) = true → document = none

namespace Response

/-- `raise_for_status()` of `requests`, which is not under `src/`: `HTTPError` for a
client error (4xx) or a server error (5xx), nothing for any other status. -/
def raiseForStatus (r : Response) : Except PyError Unit :=
  if 400 ≤ r.statusCode ∧ r.statusCode < 600 then .error (.httpError r.statusCode) else .ok ()

theorem raiseForStatus_eq_ok {r : Response} :
    r.raiseForStatus = .ok () ↔ ¬(400 ≤ r.statusCode ∧ r.statusCode < 600) := by
  unfold raiseForStatus; split <;> simp_all

end Response

end SnowflakeStorage
