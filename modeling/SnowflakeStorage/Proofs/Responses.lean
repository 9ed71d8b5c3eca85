import SnowflakeStorage.S3.Client

/-!
# Reading the service's answers

Two methods read a response body as XML.

`_has_expired_token` classifies a 400 response.  It returns `False` for any other status
and for an empty or blank body, and otherwise parses the body and reads the text of the
root's first `Code` child.  A 400 whose body is not XML (an HTML page from a proxy) makes
`ET.fromstring` raise `ParseError`, and an XML body without a `Code` child makes
`.text` raise `AttributeError` on `None`: the classifier is not total
(`hasExpiredToken_proxy_and_codeless`).

`transfer_accelerate_config` returns `config.find("Status") and config.find("Status").text
== "Enabled"`.  An ElementTree element is true exactly when it has children, so for the
document the service sends, whose first `Status` child is a leaf, the `and` stops at the element
itself: the method returns that falsy element, never `True`
(`transferAccelerateConfig_enabled_falsy`).
-/

namespace SnowflakeStorage.S3

/-! ## `_has_expired_token` -/

/-- A proxy's HTML error page: status 400 and a body that is not well-formed XML. -/
def proxyErrorPage : Response where
  statusCode := 400
  headers := CaseInsensitiveDict.empty
  text := "<html><body>Bad Request<br></body></html>".toList
  content := []
  document := none
  blank_no_document _ := rfl

/-- An XML error document without a `Code` child. -/
def codelessError : Response where
  statusCode := 400
  headers := CaseInsensitiveDict.empty
  text := "<Error><Message>Bad Request</Message></Error>".toList
  content := []
  document := some (.mk "Error".toList none [.mk "Message".toList (some "Bad Request".toList) []])
  blank_no_document h := absurd h (by decide)

/-- Both 400 responses make the classifier raise instead of returning `False`. -/
theorem hasExpiredToken_proxy_and_codeless :
    hasExpiredToken proxyErrorPage = .error .parseError ∧
      hasExpiredToken codelessError = .error .attributeError :=
  ⟨rfl, rfl⟩

/-! ## `transfer_accelerate_config` -/

/-- The configuration the service sends when acceleration is on. -/
def accelerateEnabled : Response where
  statusCode := 200
  headers := CaseInsensitiveDict.empty
  text := "<AccelerateConfiguration><Status>Enabled</Status></AccelerateConfiguration>".toList
  content := []
  document := some (.mk "AccelerateConfiguration".toList none
    [.mk "Status".toList (some "Enabled".toList) []])
  blank_no_document h := absurd h (by decide)

/-- For it the method returns the `Status` element, which is false. -/
theorem transferAccelerateConfig_enabled_falsy :
    transferAccelerateConfig accelerateEnabled =
        .ok (.element (.mk "Status".toList (some "Enabled".toList) [])) ∧
      (PyObj.element (.mk "Status".toList (some "Enabled".toList) [])).truthy = false :=
  ⟨rfl, rfl⟩

end SnowflakeStorage.S3
