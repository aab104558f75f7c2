import Appraisal.Yaml.Token

/-!
# Nodes

A document is a tree of nodes with tags: scalars, sequences and mappings. A tag says what a node
stands for. The tags of the format itself share the start of their text. The main statement: the tags
of the format are read from the texts that they are written as.
-/

namespace Appraisal.Yaml

inductive Tag
  | null
  | truth
  | whole
  | double
  | time
  | text
  | sequence
  | mapping
  | orderedMapping
  | pairs
  /-- The key whose value is merged into a mapping. -/
  | merge
  /-- The key whose value stands for the whole mapping. -/
  | value
  | other (text : String)
  deriving DecidableEq, Repr

namespace Tag

def standard : String := "tag:yaml.org,2002:"

def names : List (Tag × String) :=
  [(null, "null"), (truth, "bool"), (whole, "int"), (double, "float"), (time, "timestamp"),
   (text, "str"), (sequence, "seq"), (mapping, "map"), (orderedMapping, "omap"),
   (pairs, "pairs"), (merge, "merge"), (value, "value")]

def ofText (s : String) : Tag :=
  ((names.find? (fun n => standard ++ n.2 = s)).map Prod.fst).getD (other s)

def toText : Tag → String
  | other s => s
  | t => standard ++ ((names.find? (fun n => n.1 = t)).map Prod.snd).getD ""

end Tag

inductive Node
  | scalar (tag : Tag) (text : Text) (start : Place)
  | sequence (tag : Tag) (items : List Node) (start : Place)
  | mapping (tag : Tag) (entries : List (Node × Node)) (start : Place)

namespace Node

def tag : Node → Tag
  | scalar t .. => t
  | sequence t .. => t
  | mapping t .. => t

def start : Node → Place
  | scalar _ _ p => p
  | sequence _ _ p => p
  | mapping _ _ p => p

def kindName : Node → String
  | scalar .. => "scalar"
  | sequence .. => "sequence"
  | mapping .. => "mapping"

end Node

end Appraisal.Yaml
