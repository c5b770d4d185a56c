/-!
What can be wrong with a marked-up document, as causes with their wording. Positions inside a cause
are byte offsets: for attributes they count from the byte after the tag's opening bracket, for
entities from the start of the attribute's value.
-/

namespace ControlPoint.Markup

/-- Why a numeric character reference has no character. -/
inductive ReferenceFault
  | sign
  | empty
  | digit
  | tooLarge
  | notScalar (code : Nat)
  | zero
  deriving DecidableEq, Repr

/-- Why the attributes of a tag cannot be told apart. -/
inductive AttributeFault
  | missingEquals (place : Nat)
  | missingValue (place : Nat)
  | unquoted (place : Nat)
  | openQuote (place : Nat) (quote : Char)
  | duplicate (place first : Nat)
  deriving DecidableEq, Repr

/-- What is wrong with a document. -/
inductive Fault
  | unknownMarkup
  | instructionOpen
  | commentOpen
  | doctypeOpen
  | sectionOpen
  | tagOpen
  | unmatchedClose (name : String)
  | mismatchedClose (expected found : String)
  | doctypeUnnamed
  | referenceOpen
  | attribute (fault : AttributeFault)
  | unknownEntity (start stop : Nat) (name : String)
  | entityOpen (start stop : Nat)
  | reference (fault : ReferenceFault)
  deriving DecidableEq, Repr

/-- The wording of a faulty character reference. -/
def ReferenceFault.message : ReferenceFault → String
  | .sign => "unexpected number sign"
  | .empty => "cannot parse integer from empty string"
  | .digit => "invalid digit found in string"
  | .tooLarge => "number too large to fit in target type"
  | .notScalar code => "\x60" ++ toString code ++ "\x60 is not a valid codepoint"
  | .zero => "0x0 character is not permitted in XML"

/-- The wording of faulty attributes. -/
def AttributeFault.message : AttributeFault → String
  | .missingEquals place => "position " ++ toString place ++
      ": attribute key must be directly followed by \x60=\x60 or space"
  | .missingValue place => "position " ++ toString place ++
      ": \x60=\x60 must be followed by an attribute value"
  | .unquoted place => "position " ++ toString place ++
      ": attribute value must be enclosed in \x60\"\x60 or \x60'\x60"
  | .openQuote place quote => "position " ++ toString place ++
      ": missing closing quote \x60" ++ quote.toString ++ "\x60 in attribute value"
  | .duplicate place first => "position " ++ toString place ++
      ": duplicated attribute, previous declaration at position " ++ toString first

/-- The wording of a fault. -/
def Fault.message : Fault → String
  | .unknownMarkup => "syntax error: unknown or missed symbol in markup"
  | .instructionOpen => "syntax error: processing instruction or xml declaration not closed: " ++
      "\x60?>\x60 not found before end of input"
  | .commentOpen => "syntax error: comment not closed: \x60-->\x60 not found before end of input"
  | .doctypeOpen => "syntax error: DOCTYPE not closed: \x60>\x60 not found before end of input"
  | .sectionOpen => "syntax error: CDATA not closed: \x60]]>\x60 not found before end of input"
  | .tagOpen => "syntax error: tag not closed: \x60>\x60 not found before end of input"
  | .unmatchedClose name =>
      "ill-formed document: close tag \x60</" ++ name ++ ">\x60 does not match any open tag"
  | .mismatchedClose expected found =>
      "ill-formed document: expected \x60</" ++ expected ++ ">\x60, but \x60</" ++ found ++
        ">\x60 was found"
  | .doctypeUnnamed => "ill-formed document: \x60<!DOCTYPE>\x60 declaration does not contain " ++
      "a name of a document type"
  | .referenceOpen => "ill-formed document: entity or character reference not closed: " ++
      "\x60;\x60 not found before end of input"
  | .attribute fault => "error while parsing attribute: " ++ fault.message
  | .unknownEntity start stop name => "at " ++ toString start ++ ".." ++ toString stop ++
      ": unrecognized entity \x60" ++ name ++ "\x60"
  | .entityOpen start stop => "Error while escaping character at range " ++ toString start ++
      ".." ++ toString stop ++ ": Cannot find ';' after '&'"
  | .reference fault => "invalid character reference: " ++ fault.message

end ControlPoint.Markup
