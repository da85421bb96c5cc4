/-! # Faults of XML documents

    Why a document is refused.  A document with any fault has no content
    at all, so nothing is recorded of where the fault is. -/

namespace StringOrigins.Xml

/-- Why a document is refused. -/
inductive Fault where
  /-- The octets are no text in the encoding of the document. -/
  | undecodable
  /-- The encoding that is declared is not known, or not that of the octets. -/
  | unknownEncoding
  /-- A character that no document may hold. -/
  | forbiddenCharacter
  /-- The XML declaration is faulty. -/
  | faultyDeclaration
  /-- A name is expected. -/
  | nameExpected
  /-- White space is expected. -/
  | blankExpected
  /-- A literal or another fixed part of markup is expected. -/
  | markupExpected
  /-- A comment, an instruction, a section or a literal has no end. -/
  | unclosed
  /-- Two hyphens inside a comment. -/
  | hyphensInComment
  /-- The target of an instruction is reserved or holds a colon. -/
  | reservedTarget
  /-- The end of a section outside of one. -/
  | straySectionEnd
  /-- A reference that is malformed, or a character that it must not stand for. -/
  | faultyReference
  /-- A reference to an entity that is not declared. -/
  | undeclaredEntity
  /-- A reference to an entity outside the document, or to a parameter entity. -/
  | outerEntity
  /-- Entities refer to each other too deeply, as in a loop. -/
  | entityTooDeep
  /-- The text of all references to entities is too long. -/
  | expansionTooLong
  /-- Markup that starts inside an entity and ends outside it, or the reverse. -/
  | unbalancedEntity
  /-- A less-than sign in the value of an attribute. -/
  | markupInAttribute
  /-- An attribute is given twice. -/
  | repeatedAttribute
  /-- A name with colons that is not two names around one colon. -/
  | faultyQualifiedName
  /-- A qualified name whose qualifier is not declared. -/
  | unboundQualifier
  /-- A declaration of a namespace that is not permitted. -/
  | faultyNamespace
  /-- An end tag without its start tag, or another element's. -/
  | mismatchedTag
  /-- Elements lie too deep. -/
  | nestedTooDeep
  /-- Content outside the root element, or no root element. -/
  | faultyRoot
  /-- A declaration of the document type is faulty. -/
  | faultyDoctype
  /-- Something is declared twice. -/
  | repeatedDeclaration
  deriving DecidableEq, Repr

end StringOrigins.Xml
