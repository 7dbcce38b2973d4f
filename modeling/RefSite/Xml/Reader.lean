import RefSite.Xml.Token

namespace RefSite.Xml

/-- An open element, with its children so far in reverse. -/
structure Frame where
  tag : Text
  attributes : Attributes
  text : Text := []
  children : List Element := []

namespace Frame

/-- Text goes to the last child's tail, or to the element itself while it has no child. -/
def addText (f : Frame) (t : Text) : Frame :=
  match f.children with
  | [] => { f with text := f.text ++ t }
  | last :: others => { f with children := { last with tail := last.tail ++ t } :: others }

def addChild (f : Frame) (child : Element) : Frame := { f with children := child :: f.children }

def close (f : Frame) : Element :=
  { tag := f.tag, attributes := f.attributes, text := f.text, children := f.children.reverse }

/-- Closes an element and those around it, the nearest first. -/
def closeAll (f : Frame) : List Frame → Element
  | [] => f.close
  | outer :: others => (outer.addChild f.close).closeAll others

end Frame

/-- Reads on inside the element `f`, with the open elements around it. -/
def readInside (f : Frame) (outer : List Frame) : List (Except Fault Token) → Except Error Element
  | [] => .ok (f.closeAll outer)
  | .error fault :: _ => .error (.malformed fault)
  | .ok (.start tag attributes) :: rest =>
    readInside { tag, attributes } (f :: outer) rest
  | .ok (.empty tag attributes) :: rest =>
    readInside (f.addChild { tag, attributes }) outer rest
  | .ok (.stop tag) :: rest =>
    if tag = f.tag then
      match outer with
      | [] => .ok f.close
      | parent :: outer => readInside (parent.addChild f.close) outer rest
    else .error (.malformed (.wrongEnd f.tag tag))
  | .ok (.text t) :: rest => readInside (f.addText t) outer rest
  | .ok (.reference name) :: rest => readInside (f.addText (decodeReference name)) outer rest
  | .ok (.cdata t) :: rest => readInside (f.addText t) outer rest
  | .ok .aside :: rest => readInside f outer rest

def readRoot : List (Except Fault Token) → Except Error Element
  | [] => .error .noRoot
  | .error fault :: _ => .error (.malformed fault)
  | .ok (.start tag attributes) :: rest => readInside { tag, attributes } [] rest
  | .ok (.empty tag attributes) :: _ => .ok { tag, attributes }
  | .ok (.stop tag) :: _ => .error (.malformed (.endWithoutStart tag))
  | .ok _ :: rest => readRoot rest

def dropMark : Text → Text
  | '\ufeff' :: t => t
  | t => t

/-- The root element of a document; up to two byte order marks before it are ignored. -/
def read (t : Text) : Except Error Element := readRoot (tokens (dropMark (dropMark t)))

end RefSite.Xml
