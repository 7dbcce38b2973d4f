import RefSite.Text.Basic

namespace RefSite.Xml

inductive Fault
  | referenceNotClosed
  | tagNotClosed
  | valueNotClosed (quote : Char)
  | unknownMarkup
  | cdataNotClosed
  | commentNotClosed
  | doctypeNotClosed
  | doctypeWithoutName
  | instructionNotClosed
  | declarationNotClosed
  | wrongEnd (expected found : Text)
  | endWithoutStart (found : Text)
  deriving DecidableEq, Repr

def Fault.message : Fault → Text
  | .referenceNotClosed =>
    "ill-formed document: entity or character reference not closed: `;` not found before end of input"
  | .tagNotClosed => "syntax error: tag not closed: `>` not found before end of input"
  | .valueNotClosed quote =>
    "syntax error: attribute value not closed: `" ++ [quote] ++ "` not found before end of input"
  | .unknownMarkup => "syntax error: unknown or missed symbol in markup"
  | .cdataNotClosed => "syntax error: CDATA not closed: `]]>` not found before end of input"
  | .commentNotClosed => "syntax error: comment not closed: `-->` not found before end of input"
  | .doctypeNotClosed => "syntax error: DOCTYPE not closed: `>` not found before end of input"
  | .doctypeWithoutName =>
    "ill-formed document: `<!DOCTYPE>` declaration does not contain a name of a document type"
  | .instructionNotClosed =>
    "syntax error: processing instruction not closed: `?>` not found before end of input"
  | .declarationNotClosed =>
    "syntax error: XML declaration not closed: `?>` not found before end of input"
  | .wrongEnd expected found =>
    "ill-formed document: expected `</" ++ expected ++ ">`, but `</" ++ found ++ ">` was found"
  | .endWithoutStart found =>
    "ill-formed document: close tag `</" ++ found ++ ">` does not match any open tag"

inductive Error
  | malformed (fault : Fault)
  | noRoot
  deriving DecidableEq, Repr

def Error.message : Error → Text
  | .malformed fault => "XML parse error: " ++ fault.message
  | .noRoot => "document has no root element"

end RefSite.Xml
