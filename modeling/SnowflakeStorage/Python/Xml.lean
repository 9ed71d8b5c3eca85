import SnowflakeStorage.Python.Basic

/-!
# ElementTree

Four places of `s3_storage_client.py` read XML through `xml.etree.ElementTree`: the upload
id of an initiate response (`ET.fromstring(content)[2].text`), the error code of a 400
(`err.find("Code").text`), the acceleration status (`config.find("Status")`), and the
completion document, built with `ET.Element` and sent as `ET.tostring(root)`.

An `Element` keeps what these read: its tag, its text and its children.  Parsing is not
modelled as a function: a response carries the tree that `ET.fromstring` makes of its body,
or none when the body is not well-formed XML (`Http.Response.document`).

Python's truth value of an element is its number of children (`Element.__len__`), so a
leaf such as `<Status>Enabled</Status>` is false.  `PyObj` is the small set of values a
Python `and` of the clients can return, with their truth values.
-/

namespace SnowflakeStorage

/-- An ElementTree element: tag, text (`None` when absent) and children. -/
inductive Element where
  | mk (tag : PyStr) (text : Option PyStr) (children : List Element)
  deriving Repr

namespace Element

/-- `e.tag`. -/
def tag : Element → PyStr
  | mk t _ _ => t

/-- `e.text`. -/
def text : Element → Option PyStr
  | mk _ x _ => x

/-- `list(e)`. -/
def children : Element → List Element
  | mk _ _ cs => cs

/-- `e.find(t)`: the first child whose tag is `t`. -/
def find (e : Element) (t : PyStr) : Option Element := e.children.find? (·.tag == t)

/-- `e[i]`, which raises `IndexError` past the last child. -/
def getChild (e : Element) (i : Nat) : Except PyError Element :=
  match e.children[i]? with
  | some c => .ok c
  | none => .error .indexError

/-- `bool(e)`: an element is true when it has children. -/
def truthy (e : Element) : Bool := !e.children.isEmpty

/-- ElementTree's `_escape_cdata` followed by the `us-ascii` encoding of `tostring`:
`&`, `<` and `>` become entities and every non-ASCII character a character reference. -/
def escapeCData (s : PyStr) : PyStr :=
  s.flatMap fun c =>
    if c = '&' then "&amp;".toList
    else if c = '<' then "&lt;".toList
    else if c = '>' then "&gt;".toList
    else if c.toNat < 128 then [c]
    else "&#".toList ++ PyStr.reprNat c.toNat ++ [';']

/-- `ET.tostring(e)` for an element without attributes or tails: an element with neither
text nor children is written `<tag />`. -/
def serialize : Element → PyStr
  | mk tag text children =>
    if (text.getD []).isEmpty && children.isEmpty then '<' :: tag ++ " />".toList
    else '<' :: tag ++ ['>'] ++ escapeCData (text.getD []) ++ serializeAll children ++
      "</".toList ++ tag ++ ['>']
where
  /-- The children, one after the other. -/
  serializeAll : List Element → PyStr
    | [] => []
    | c :: cs => serialize c ++ serializeAll cs

/-- `ET.tostring(e)`: the serialization as ASCII bytes. -/
def tostring (e : Element) : Bytes := (serialize e).map fun c => c.toNat.toUInt8

@[simp] theorem tag_mk (t : PyStr) (x : Option PyStr) (cs : List Element) :
    (mk t x cs).tag = t := rfl

@[simp] theorem text_mk (t : PyStr) (x : Option PyStr) (cs : List Element) :
    (mk t x cs).text = x := rfl

@[simp] theorem children_mk (t : PyStr) (x : Option PyStr) (cs : List Element) :
    (mk t x cs).children = cs := rfl

@[simp] theorem truthy_mk (t : PyStr) (x : Option PyStr) (cs : List Element) :
    (mk t x cs).truthy = !cs.isEmpty := rfl

theorem getChild_eq_ok {e c : Element} {i : Nat} :
    e.getChild i = .ok c ↔ e.children[i]? = some c := by
  cases h : e.children[i]? <;> simp [getChild, h]

end Element

/-- The Python values an `and` of the clients can return. -/
inductive PyObj where
  | none
  | bool (b : Bool)
  | element (e : Element)
  deriving Repr

namespace PyObj

/-- Python's truth value. -/
def truthy : PyObj → Bool
  | none => false
  | bool b => b
  | element e => e.truthy

/-- `a and b`: `a` when it is false, `b` otherwise. -/
def and (a : PyObj) (b : Unit → PyObj) : PyObj := if a.truthy then b () else a

end PyObj

end SnowflakeStorage
