import Appraisal.Yaml.Cursor

/-!
# Tokens

A token is a scalar, a name or a mark of structure. Where indentation alone says that a block starts
or ends, there is a token for it as well, and one in front of every key. A document whose text breaks
off with an error has a last token that holds the error.
-/

namespace Appraisal.Yaml

inductive Directive
  | version (major : Nat)
  | handle (name lead : String)
  | unknown
  deriving DecidableEq, Repr

inductive TokenKind
  | directive (d : Directive)
  | documentStart
  | documentEnd
  | blockSequenceStart
  | blockMappingStart
  | blockEnd
  | flowSequenceStart
  | flowSequenceEnd
  | flowMappingStart
  | flowMappingEnd
  | flowEntry
  | blockEntry
  | key
  | value
  | reference (name : String)
  | anchor (name : String)
  /-- A tag with the handle that its text starts with, if it has one. -/
  | tag (handle : Option String) (rest : String)
  | scalar (text : Text) (isPlain : Bool)
  | broken (e : Error)
  | streamEnd
  deriving DecidableEq, Repr

structure Token where
  kind : TokenKind
  start : Place
  finish : Place
  deriving DecidableEq, Repr

def TokenKind.name : TokenKind → String
  | directive _ => "<directive>"
  | documentStart => "<document start>"
  | documentEnd => "<document end>"
  | blockSequenceStart => "<block sequence start>"
  | blockMappingStart => "<block mapping start>"
  | blockEnd => "<block end>"
  | flowSequenceStart => "["
  | flowSequenceEnd => "]"
  | flowMappingStart => "\x7b"
  | flowMappingEnd => "\x7d"
  | flowEntry => ","
  | blockEntry => "-"
  | key => "?"
  | value => ":"
  | reference _ => "<alias>"
  | anchor _ => "<anchor>"
  | tag .. => "<tag>"
  | scalar .. => "<scalar>"
  | broken _ => "<broken>"
  | streamEnd => "<stream end>"

end Appraisal.Yaml
