import RefSite.Text.Basic
import RefSite.Text.Word

namespace RefSite.NameForm

def atWordEnd : Text → Bool
  | [] => true
  | c :: _ => !Text.isWord c

/-- Writes `mark` for each arity mark of a single parameter, one backtick or two; more parameters
keep their mark. -/
def replaceArity (mark : Text) : Text → Text
  | [] => []
  | '\x60' :: '\x60' :: '1' :: t =>
    if atWordEnd t then mark ++ replaceArity mark t
    else '\x60' :: replaceArity mark ('\x60' :: '1' :: t)
  | '\x60' :: '1' :: t =>
    if atWordEnd t then mark ++ replaceArity mark t else '\x60' :: replaceArity mark ('1' :: t)
  | c :: t => c :: replaceArity mark t

def display (raw : Text) : Text := replaceArity "<T>" raw

def escaped (raw : Text) : Text := replaceArity "_T" raw

/-- Only a mark that closes a dotted segment is a mark. -/
def displayOfEscaped : Text → Text
  | [] => []
  | '_' :: 'T' :: '.' :: t => '<' :: 'T' :: '>' :: '.' :: displayOfEscaped t
  | ['_', 'T'] => ['<', 'T', '>']
  | c :: t => c :: displayOfEscaped t

def escapedOfDisplay : Text → Text
  | [] => []
  | '<' :: 'T' :: '>' :: '.' :: t => '_' :: 'T' :: '.' :: escapedOfDisplay t
  | ['<', 'T', '>'] => ['_', 'T']
  | c :: t => c :: escapedOfDisplay t

end RefSite.NameForm
